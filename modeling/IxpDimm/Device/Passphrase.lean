import IxpDimm.Common.ReturnCode
import IxpDimm.Common.Text
import IxpDimm.Foundation.ByteMemory
import IxpDimm.Foundation.Effects
import IxpDimm.Pool.Types
import Mathlib.Data.List.DropRight

/-!
# Passphrases on their way to a DIMM

`security.c`: the commands that unlock a DIMM, remove its passphrase and erase it carry the passphrase
in a field of 32 bytes.  `check_passphrase` accepts every string of 1 to 32 bytes, but the field is
filled by `s_strncpy`, which keeps the last byte for a terminator and stops at a zero.

`SendsPadded` says that every command that is sent carries the passphrase padded with zeros;
`PassphraseKept` is the condition on the bytes for that.  The other calls, and what the driver does
with a command, are parameters that act on a state of their own.
-/

namespace IxpDimm

open Foundation

/-! ### The field of the passphrase -/

/-- `NVM_PASSPHRASE_LEN` and `DEV_PASSPHRASE_LEN`. -/
def nvmPassphraseLen : ℕ := 32

/-- The loop of `s_strncpy`: at most `n` more characters, from the index `i` on.  It yields the index
at which it ends. -/
def sStrncpyLoop (src : Bytes) : ℕ → ℕ → Bytes → ℕ × Bytes
  | 0, i, dst => (i, dst)
  | n + 1, i, dst =>
    if src i ≠ 0 then sStrncpyLoop src n (i + 1) (Function.update dst i (src i))
    else (i, Function.update dst i (src i))

/-- `s_strncpy`. -/
def sStrncpy (dst : Bytes) (dstSize : ℕ) (src : Bytes) (srcSize : ℕ) : Bytes :=
  if dstSize ≠ 0 then
    -- one character is left for the terminator
    let charsToCopy := dstSize - 1
    let charsToCopy := if srcSize < charsToCopy then srcSize else charsToCopy
    let (i, dst) := sStrncpyLoop src charsToCopy 0 dst
    Function.update dst i 0
  else dst

/-- `struct pt_payload_passphrase`, without the reserved bytes. -/
structure PassphrasePayload where
  /-- `passphrase_current`. -/
  passphraseCurrent : Bytes := fun _ => 0

/-- The bytes of `passphrase_current`. -/
def PassphrasePayload.passphraseBytes (payload : PassphrasePayload) : List UInt8 :=
  (List.range nvmPassphraseLen).map payload.passphraseCurrent

/-- The payload of a command, as each of the callers fills it. -/
def passphrasePayload (passphrase : Bytes) (passphraseLen : UInt64) : PassphrasePayload where
  passphraseCurrent := sStrncpy (fun _ => 0) nvmPassphraseLen passphrase passphraseLen.toNat

/-- `check_passphrase`. -/
def checkPassphrase (passphrase : Option Bytes) (passphraseLen : UInt64) : ReturnCode :=
  if passphrase.isNone then .errBadPassphrase
  else if nvmPassphraseLen < passphraseLen.toNat then .errBadPassphrase
  else if passphraseLen = 0 then .errBadPassphrase
  else .success

/-! ### The calls -/

/-- The sub-opcodes of `PT_SET_SEC_INFO` that take a passphrase. -/
inductive SetSecInfoSubop
  | unlockUnit | disablePass | secEraseUnit
  deriving DecidableEq, Repr

/-- `struct fw_cmd`, for the opcode `PT_SET_SEC_INFO`. -/
structure SecurityCommand where
  /-- `device_handle`. -/
  deviceHandle : UInt32
  /-- `sub_opcode`. -/
  subOpcode : SetSecInfoSubop
  /-- `input_payload`. -/
  inputPayload : PassphrasePayload

/-- The part of `struct device_discovery` that is read. -/
structure SecurityDiscovery where
  /-- `device_handle`. -/
  deviceHandle : UInt32
  /-- `lock_state`. -/
  lockState : LockState
  /-- `security_capabilities.passphrase_capable`. -/
  passphraseCapable : Bool

/-- The calls that the functions make. -/
structure SecurityCalls (σ : Type) where
  /-- `check_caller_permissions` succeeds. -/
  checkCallerPermissions : σ → Bool
  /-- `is_supported_driver_available`. -/
  isSupportedDriverAvailable : σ → Bool
  /-- `IS_NVM_FEATURE_SUPPORTED(modify_device_security)`. -/
  modifyDeviceSecuritySupported : σ → ReturnCode
  /-- `exists_and_manageable`. -/
  existsAndManageable : Uid → σ → Except ReturnCode SecurityDiscovery × σ
  /-- `nvm_get_device_discovery`. -/
  nvmGetDeviceDiscovery : Uid → σ → Except ReturnCode SecurityDiscovery × σ
  /-- `ioctl_passthrough_cmd`. -/
  ioctlPassthroughCmd : SecurityCommand → σ → ReturnCode × σ
  /-- `reenumerate_namespaces`. -/
  reenumerateNamespaces : UInt32 → σ → ReturnCode × σ
  /-- `invalidate_devices`. -/
  invalidateDevices : σ → σ

/-- The state of the calls, and the commands that were sent. -/
structure SecurityState (σ : Type) where
  /-- What the calls act on. -/
  world : σ
  /-- The commands so far, first to last. -/
  sent : List SecurityCommand := []

/-- Programs that send commands and end with `NVM_SUCCESS` or with an error. -/
abbrev SecurityM (σ : Type) := EStateM ReturnCode (SecurityState σ)

section Programs

variable {σ : Type} (calls : SecurityCalls σ)

/-- A call that sends no passphrase. -/
def outside {α : Type} (call : σ → α × σ) : SecurityM σ α := do
  let s ← get
  set { s with world := (call s.world).2 }
  pure (call s.world).1

/-- Ends with a return code that is not that of success. -/
def orFail (rc : ReturnCode) : SecurityM σ Unit :=
  if rc = .success then pure () else throw rc

/-- Ends with the error of a call, or goes on with its result. -/
def orElseFail {α : Type} (result : Except ReturnCode α) : SecurityM σ α :=
  match result with
  | .ok a => pure a
  | .error rc => throw rc

/-- Sends a command with a passphrase. -/
def sendPassphrase (discovery : SecurityDiscovery) (subOpcode : SetSecInfoSubop) (passphrase : Bytes)
    (passphraseLen : UInt64) : SecurityM σ ReturnCode := do
  let command : SecurityCommand :=
    { deviceHandle := discovery.deviceHandle
      subOpcode := subOpcode
      inputPayload := passphrasePayload passphrase passphraseLen }
  modify fun s => { s with sent := s.sent ++ [command] }
  outside (calls.ioctlPassthroughCmd command)

/-- `check_lock_state`. -/
def checkLockState (discovery : SecurityDiscovery) : ReturnCode :=
  match discovery.lockState with
  | .frozen => .errSecurityFrozen
  | .passphraseLimit => .errLimitPassphrase
  | .unknown => .errLimitPassphrase
  | .notSupported => .errNotSupported
  | _ => .success

/-- `security_change_prepare`. -/
def securityChangePrepare (discovery : SecurityDiscovery) (passphrase : Bytes)
    (passphraseLen : UInt64) : SecurityM σ Unit := do
  orFail (checkLockState discovery)
  if 0 < passphraseLen.toNat ∧ discovery.lockState = .disabled then throw .errSecurityDisabled
  if discovery.lockState = .locked then
    orFail (← sendPassphrase calls discovery .unlockUnit passphrase passphraseLen)
    let rc ← outside (calls.reenumerateNamespaces discovery.deviceHandle)
    if rc ≠ .errNotSupported ∧ rc ≠ .success then throw .errNamespaceEnableFailed

/-- `check_passphrase_capable`. -/
def checkPassphraseCapable (deviceUid : Uid) : SecurityM σ Unit := do
  let discovery ← orElseFail (← outside (calls.nvmGetDeviceDiscovery deviceUid))
  if discovery.passphraseCapable then pure () else throw .errNotSupported

/-- The checks that `nvm_remove_passphrase` and `nvm_erase_device` begin with. -/
def securityPreconditions (deviceUid : Option Uid) : SecurityM σ Uid := do
  let s ← get
  if ¬ calls.checkCallerPermissions s.world then throw .errInvalidPermissions
  if ¬ calls.isSupportedDriverAvailable s.world then throw .errBadDriver
  orFail (calls.modifyDeviceSecuritySupported s.world)
  match deviceUid with
  | none => throw .errInvalidParameter
  | some uid => pure uid

/-- `nvm_remove_passphrase`. -/
def nvmRemovePassphrase (deviceUid : Option Uid) (passphrase : Option Bytes)
    (passphraseLen : UInt64) : SecurityM σ Unit := do
  let uid ← securityPreconditions calls deviceUid
  orFail (checkPassphrase passphrase passphraseLen)
  let discovery ← orElseFail (← outside (calls.existsAndManageable uid))
  checkPassphraseCapable calls uid
  let passphrase := passphrase.getD fun _ => 0
  securityChangePrepare calls discovery passphrase passphraseLen
  let rc ← sendPassphrase calls discovery .disablePass passphrase passphraseLen
  modify fun s => { s with world := calls.invalidateDevices s.world }
  orFail rc

/-- The loop of `secure_erase`: at most `n` tries after the first. -/
def secureEraseLoop (discovery : SecurityDiscovery) (passphrase : Bytes) (passphraseLen : UInt64) :
    ℕ → SecurityM σ ReturnCode
  | 0 => sendPassphrase calls discovery .secEraseUnit passphrase passphraseLen
  | n + 1 => do
    let rc ← sendPassphrase calls discovery .secEraseUnit passphrase passphraseLen
    if rc = .errDeviceBusy then secureEraseLoop discovery passphrase passphraseLen n else pure rc

/-- `secure_erase`. -/
def secureErase (passphrase : Bytes) (passphraseLen : UInt64) (discovery : SecurityDiscovery) :
    SecurityM σ ReturnCode :=
  secureEraseLoop calls discovery passphrase passphraseLen 4

/-- `nvm_erase_device`. -/
def nvmEraseDevice (deviceUid : Option Uid) (passphrase : Option Bytes) (passphraseLen : UInt64) :
    SecurityM σ Unit := do
  let uid ← securityPreconditions calls deviceUid
  let discovery ← orElseFail (← outside (calls.existsAndManageable uid))
  if discovery.passphraseCapable then
    if checkPassphrase passphrase passphraseLen ≠ .success then throw .errBadPassphrase
    let passphrase := passphrase.getD fun _ => 0
    securityChangePrepare calls discovery passphrase passphraseLen
    let rc ← secureErase calls passphrase passphraseLen discovery
    modify fun s => { s with world := calls.invalidateDevices s.world }
    orFail rc
  else throw .errInvalidParameter

end Programs

/-! ### What the field holds -/

/-- The passphrase. -/
def passphraseString (passphrase : Bytes) (passphraseLen : UInt64) : List UInt8 :=
  (List.range passphraseLen.toNat).map passphrase

/-- The passphrase padded with zeros to the size of the field. -/
def zeroPadded (passphrase : Bytes) (passphraseLen : UInt64) : List UInt8 :=
  passphraseString passphrase passphraseLen ++
    List.replicate (nvmPassphraseLen - passphraseLen.toNat) 0

/-- Every byte of the passphrase that is not zero is among the first 31 and has no zero before it. -/
def PassphraseKept (passphrase : Bytes) (passphraseLen : UInt64) : Prop :=
  ∀ i < passphraseLen.toNat, passphrase i ≠ 0 → i < 31 ∧ ∀ j < i, passphrase j ≠ 0

/-- The array that the loop of `s_strncpy` leaves, if it had zeros from the index on: the characters
up to the first zero.  There is a zero where the loop ends. -/
private theorem sStrncpyLoop_spec (src : Bytes) {n i : ℕ} {dst : Bytes}
    (hdst : ∀ k, i ≤ k → dst k = 0) :
    (sStrncpyLoop src n i dst).2 (sStrncpyLoop src n i dst).1 = 0 ∧
      ∀ k, (sStrncpyLoop src n i dst).2 k =
        if k < i then dst k
        else if k < i + n ∧ ∀ j, i ≤ j → j ≤ k → src j ≠ 0 then src k else 0 := by
  induction n generalizing i dst with
  | zero =>
    refine ⟨hdst i le_rfl, fun k => ?_⟩
    rw [sStrncpyLoop]
    split_ifs with hk hbehind
    · rfl
    · omega
    · exact hdst k (by omega)
  | succ n ih =>
    rw [sStrncpyLoop]
    split_ifs with hsrc
    · have hupdated : ∀ k, i + 1 ≤ k → Function.update dst i (src i) k = 0 := by
        intro k hk
        rw [Function.update_of_ne (by omega)]
        exact hdst k (by omega)
      obtain ⟨hend, hrest⟩ := ih hupdated
      refine ⟨hend, fun k => ?_⟩
      rw [hrest k]
      rcases lt_trichotomy k i with hk | rfl | hk
      · rw [if_pos (by omega), if_pos hk, Function.update_of_ne (by omega)]
      · rw [if_pos (by omega), if_neg (lt_irrefl k), Function.update_self, if_pos]
        refine ⟨by omega, fun j hj hjk => ?_⟩
        rwa [show j = k by omega]
      · have hcount : i + 1 + n = i + (n + 1) := by omega
        rw [if_neg (by omega), if_neg (Nat.lt_asymm hk)]
        refine if_congr ⟨fun h => ⟨hcount ▸ h.1, fun j hj hjk => ?_⟩,
          fun h => ⟨hcount ▸ h.1, fun j hj hjk => h.2 j (by omega) hjk⟩⟩ rfl rfl
        rcases Nat.eq_or_lt_of_le hj with rfl | hj
        · exact hsrc
        · exact h.2 j hj hjk
    · have hzero : src i = 0 := not_not.mp hsrc
      dsimp only
      refine ⟨?_, fun k => ?_⟩
      · rw [Function.update_self, hzero]
      · rcases lt_trichotomy k i with hk | rfl | hk
        · rw [if_pos hk, Function.update_of_ne (by omega)]
        · rw [if_neg (lt_irrefl k), Function.update_self, hzero, ite_self]
        · rw [if_neg (by omega), Function.update_of_ne (by omega), hdst k (by omega), if_neg]
          exact fun h => h.2 i le_rfl (by omega) hzero

/-- The field holds the bytes up to the first zero, at most 31. -/
private theorem passphraseCurrent_apply (passphrase : Bytes) (passphraseLen : UInt64) (k : ℕ) :
    (passphrasePayload passphrase passphraseLen).passphraseCurrent k =
      if k < min passphraseLen.toNat 31 ∧ ∀ j ≤ k, passphrase j ≠ 0 then passphrase k else 0 := by
  obtain ⟨hend, hloop⟩ := @sStrncpyLoop_spec passphrase (min passphraseLen.toNat 31) 0 (fun _ => 0)
    fun _ _ => rfl
  have hcount : (if passphraseLen.toNat < nvmPassphraseLen - 1 then passphraseLen.toNat
      else nvmPassphraseLen - 1) = min passphraseLen.toNat 31 := by
    change (if passphraseLen.toNat < 31 then passphraseLen.toNat else 31) = _
    split_ifs <;> omega
  rw [passphrasePayload, sStrncpy, if_pos (by decide)]
  dsimp only
  rw [hcount, (Function.update_eq_self_iff).mpr hend.symm, hloop k, if_neg (Nat.not_lt_zero k)]
  simp only [Nat.zero_add, Nat.zero_le, true_implies]

/-- The places of the padded passphrase. -/
private theorem zeroPadded_eq {passphrase : Bytes} {passphraseLen : UInt64}
    (h : passphraseLen.toNat ≤ 32) :
    zeroPadded passphrase passphraseLen = (List.range nvmPassphraseLen).map fun i =>
      if i < passphraseLen.toNat then passphrase i else 0 := by
  refine List.ext_getElem ?_ fun i hi hi' => ?_
  · rw [zeroPadded, passphraseString, List.length_append, List.length_map, List.length_map,
      List.length_range, List.length_range, List.length_replicate, nvmPassphraseLen]
    omega
  · simp only [zeroPadded, passphraseString, List.getElem_map, List.getElem_range]
    split_ifs with hlt
    · rw [List.getElem_append_left (by simpa using hlt)]
      simp
    · rw [List.getElem_append_right (by simpa using hlt)]
      simp

/-- The field holds the padded passphrase exactly when the passphrase is kept. -/
theorem passphraseBytes_eq_iff {passphrase : Bytes} {passphraseLen : UInt64}
    (h : passphraseLen.toNat ≤ 32) :
    (passphrasePayload passphrase passphraseLen).passphraseBytes =
        zeroPadded passphrase passphraseLen ↔ PassphraseKept passphrase passphraseLen := by
  rw [zeroPadded_eq h, PassphrasePayload.passphraseBytes, List.map_inj_left]
  simp only [passphraseCurrent_apply, List.mem_range, nvmPassphraseLen]
  constructor
  · intro heq i hi hne
    have hplace := heq i (by omega)
    rw [if_pos hi] at hplace
    split_ifs at hplace with hcopied
    · exact ⟨by omega, fun j hj => hcopied.2 j (by omega)⟩
    · exact absurd hplace.symm hne
  · intro hkept i hi
    by_cases hlt : i < passphraseLen.toNat
    · rw [if_pos hlt]
      split_ifs with hcopied
      · rfl
      · by_contra hne
        obtain ⟨hbound, hbefore⟩ := hkept i hlt (Ne.symm hne)
        refine hcopied ⟨by omega, fun j hj => ?_⟩
        rcases Nat.eq_or_lt_of_le hj with rfl | hj
        · exact Ne.symm hne
        · exact hbefore j hj
    · rw [if_neg hlt, if_neg fun hcopied => hlt (by omega)]

/-- Passphrases with the same padded form are the same up to zeros at the end. -/
private theorem rdropWhile_zeroPadded (passphrase : Bytes) (passphraseLen : UInt64) :
    (zeroPadded passphrase passphraseLen).rdropWhile (· == 0) =
      (passphraseString passphrase passphraseLen).rdropWhile (· == 0) := by
  rw [zeroPadded]
  generalize nvmPassphraseLen - passphraseLen.toNat = n
  induction n with
  | zero => rw [List.replicate_zero, List.append_nil]
  | succ n ih =>
    rw [List.replicate_succ', ← List.append_assoc, List.rdropWhile_concat_pos _ _ _ (by decide), ih]

/-! ### Runs -/

section Runs

variable {σ : Type} {P : SecurityCommand → Prop}

/-- All commands that were sent have a property. -/
def AllSent (P : SecurityCommand → Prop) (s : SecurityState σ) : Prop := ∀ command ∈ s.sent, P command

/-- A call that sends no passphrase keeps what holds of the commands. -/
private theorem keeps_outside {α : Type} (call : σ → α × σ) :
    Keeps (AllSent P) (outside call) := fun _ hs => hs

/-- A program that fails keeps it. -/
private theorem keeps_throw {α : Type} (rc : ReturnCode) :
    Keeps (AllSent P) (throw rc : SecurityM σ α) := fun _ hs => hs

/-- So does a program that may fail. -/
private theorem keeps_orFail (rc : ReturnCode) :
    Keeps (AllSent P) (orFail rc : SecurityM σ Unit) := by
  rw [orFail]
  split
  · exact keeps_pure _
  · exact keeps_throw _

/-- So does one that hands an error on. -/
private theorem keeps_orElseFail {α : Type} (result : Except ReturnCode α) :
    Keeps (AllSent P) (orElseFail result : SecurityM σ α) := by
  cases result with
  | ok a => exact keeps_pure _
  | error rc => exact keeps_throw _

/-- A guard in front of a program. -/
private theorem keeps_guard {α : Type} {c : Prop} [Decidable c] {rc : ReturnCode} {x : SecurityM σ α}
    (hx : Keeps (AllSent P) x) :
    Keeps (AllSent P) (if c then throw rc else x) := by
  split
  · exact keeps_throw _
  · exact hx

/-- The checks of `nvm_remove_passphrase` and `nvm_erase_device` keep it. -/
private theorem keeps_securityPreconditions (calls : SecurityCalls σ)
    (deviceUid : Option Uid) :
    Keeps (AllSent P) (securityPreconditions calls deviceUid) := by
  refine keeps_get_bind fun s hs => ?_
  refine keeps_guard (keeps_guard ?_) s hs
  refine Keeps.bind (keeps_orFail _) fun _ => ?_
  cases deviceUid with
  | none => exact keeps_throw _
  | some uid => exact keeps_pure _

section Sending

variable {passphrase : Bytes} {passphraseLen : UInt64} (calls : SecurityCalls σ)
  (hP : ∀ command, command.inputPayload = passphrasePayload passphrase passphraseLen → P command)

include hP

/-- A command with the passphrase is one more command. -/
private theorem keeps_sendPassphrase (discovery : SecurityDiscovery) (subOpcode : SetSecInfoSubop) :
    Keeps (AllSent P) (sendPassphrase calls discovery subOpcode passphrase passphraseLen) := by
  refine Keeps.bind (keeps_modify fun s hs command hmem => ?_) fun _ => keeps_outside _
  rcases List.mem_append.mp hmem with hbefore | hlast
  · exact hs command hbefore
  · rw [List.mem_singleton.mp hlast]
    exact hP _ rfl

/-- What holds of every command with the passphrase holds after `security_change_prepare`. -/
private theorem keeps_securityChangePrepare (discovery : SecurityDiscovery) :
    Keeps (AllSent P) (securityChangePrepare calls discovery passphrase passphraseLen) := by
  refine Keeps.bind (keeps_orFail _) fun _ => keeps_guard ?_
  split
  · refine Keeps.bind (keeps_sendPassphrase calls hP _ _) fun rc => ?_
    refine Keeps.bind (keeps_orFail _) fun _ => ?_
    refine Keeps.bind (keeps_outside _) fun rc => ?_
    exact keeps_guard (keeps_pure _)
  · exact keeps_pure _

/-- And after the loop of `secure_erase`, by induction on the number of tries. -/
private theorem keeps_secureEraseLoop (discovery : SecurityDiscovery) (n : ℕ) :
    Keeps (AllSent P) (secureEraseLoop calls discovery passphrase passphraseLen n) := by
  induction n with
  | zero => exact keeps_sendPassphrase calls hP _ _
  | succ n ih =>
    refine Keeps.bind (keeps_sendPassphrase calls hP _ _) fun rc => ?_
    split
    · exact ih
    · exact keeps_pure _

/-- And after `nvm_remove_passphrase`. -/
private theorem keeps_nvmRemovePassphrase (deviceUid : Option Uid) :
    Keeps (AllSent P) (nvmRemovePassphrase calls deviceUid (some passphrase) passphraseLen) := by
  refine Keeps.bind (keeps_securityPreconditions calls deviceUid) fun uid => ?_
  refine Keeps.bind (keeps_orFail _) fun _ => ?_
  refine Keeps.bind (keeps_outside _) fun result => ?_
  refine Keeps.bind (keeps_orElseFail result) fun discovery => ?_
  have hcapable : Keeps (AllSent P) (checkPassphraseCapable calls uid) := by
    refine Keeps.bind (keeps_outside _) fun result => ?_
    refine Keeps.bind (keeps_orElseFail result) fun discovery => ?_
    split
    · exact keeps_pure _
    · exact keeps_throw _
  refine Keeps.bind hcapable fun _ => ?_
  refine Keeps.bind (keeps_securityChangePrepare calls hP discovery) fun _ => ?_
  refine Keeps.bind (keeps_sendPassphrase calls hP discovery _) fun rc => ?_
  exact Keeps.bind (keeps_modify fun _ hs => hs) fun _ => keeps_orFail rc

/-- And after `nvm_erase_device`. -/
private theorem keeps_nvmEraseDevice (deviceUid : Option Uid) :
    Keeps (AllSent P) (nvmEraseDevice calls deviceUid (some passphrase) passphraseLen) := by
  refine Keeps.bind (keeps_securityPreconditions calls deviceUid) fun uid => ?_
  refine Keeps.bind (keeps_outside _) fun result => ?_
  refine Keeps.bind (keeps_orElseFail result) fun discovery => ?_
  split
  · refine keeps_guard ?_
    refine Keeps.bind (keeps_securityChangePrepare calls hP discovery) fun _ => ?_
    refine Keeps.bind (keeps_secureEraseLoop calls hP discovery 4) fun rc => ?_
    exact Keeps.bind (keeps_modify fun _ hs => hs) fun _ => keeps_orFail rc
  · exact keeps_throw _

end Sending

end Runs

/-- A command carries the padded passphrase. -/
def CarriesPadded (passphrase : Bytes) (passphraseLen : UInt64) (command : SecurityCommand) : Prop :=
  command.inputPayload.passphraseBytes = zeroPadded passphrase passphraseLen

/-- Every command with the passphrase that is sent in a run of the functions carries it padded with
zeros, whatever the calls do. -/
structure SendsPadded (passphrase : Bytes) (passphraseLen : UInt64) : Prop where
  /-- `security_change_prepare`, which unlocks. -/
  unlock : ∀ {σ : Type} (calls : SecurityCalls σ) (world : σ) (discovery : SecurityDiscovery),
    AllSent (CarriesPadded passphrase passphraseLen)
      (finalState (securityChangePrepare calls discovery passphrase passphraseLen { world := world }))
  /-- `nvm_remove_passphrase`. -/
  remove : ∀ {σ : Type} (calls : SecurityCalls σ) (world : σ) (deviceUid : Option Uid),
    AllSent (CarriesPadded passphrase passphraseLen)
      (finalState
        (nvmRemovePassphrase calls deviceUid (some passphrase) passphraseLen { world := world }))
  /-- `secure_erase`. -/
  secureErase : ∀ {σ : Type} (calls : SecurityCalls σ) (world : σ) (discovery : SecurityDiscovery),
    AllSent (CarriesPadded passphrase passphraseLen)
      (finalState (secureErase calls passphrase passphraseLen discovery { world := world }))
  /-- `nvm_erase_device`. -/
  erase : ∀ {σ : Type} (calls : SecurityCalls σ) (world : σ) (deviceUid : Option Uid),
    AllSent (CarriesPadded passphrase passphraseLen)
      (finalState (nvmEraseDevice calls deviceUid (some passphrase) passphraseLen { world := world }))

/-- The calls on a device that does what it is told. -/
def obedientCalls : SecurityCalls Unit where
  checkCallerPermissions _ := true
  isSupportedDriverAvailable _ := true
  modifyDeviceSecuritySupported _ := .success
  existsAndManageable _ _ := (.ok ⟨1, .locked, true⟩, ())
  nvmGetDeviceDiscovery _ _ := (.ok ⟨1, .locked, true⟩, ())
  ioctlPassthroughCmd _ _ := (.success, ())
  reenumerateNamespaces _ _ := (.success, ())
  invalidateDevices _ := ()

section Padded

variable {passphrase : Bytes} {passphraseLen : UInt64}

/-- The field holds the padded passphrase if the commands carry it: a secure erase sends one. -/
private theorem passphraseBytes_of_sendsPadded (h : SendsPadded passphrase passphraseLen) :
    (passphrasePayload passphrase passphraseLen).passphraseBytes =
      zeroPadded passphrase passphraseLen :=
  h.secureErase obedientCalls () ⟨1, .unlocked, true⟩
    ⟨1, .secEraseUnit, passphrasePayload passphrase passphraseLen⟩ List.mem_cons_self

/-- The length of a passphrase that is accepted. -/
private theorem toNat_le_of_checkPassphrase
    (h : checkPassphrase (some passphrase) passphraseLen = .success) : passphraseLen.toNat ≤ 32 := by
  by_contra hlong
  rw [checkPassphrase, if_neg (by simp), if_pos (by rw [nvmPassphraseLen]; omega)] at h
  cases h

/-- The commands carry an accepted passphrase padded with zeros exactly when its bytes that are not
zero are among the first 31, without a zero between them.  Two such passphrases that differ by more
than zeros at the end are sent as different payloads. -/
theorem sendsPadded_iff (h : checkPassphrase (some passphrase) passphraseLen = .success) :
    (SendsPadded passphrase passphraseLen ↔ PassphraseKept passphrase passphraseLen) ∧
      ∀ passphrase' passphraseLen', checkPassphrase (some passphrase') passphraseLen' = .success →
        PassphraseKept passphrase passphraseLen → PassphraseKept passphrase' passphraseLen' →
        (passphraseString passphrase passphraseLen).rdropWhile (· == 0) ≠
          (passphraseString passphrase' passphraseLen').rdropWhile (· == 0) →
        (passphrasePayload passphrase passphraseLen).passphraseBytes ≠
          (passphrasePayload passphrase' passphraseLen').passphraseBytes := by
  have hlength := toNat_le_of_checkPassphrase h
  refine ⟨⟨fun hpadded => ?_, fun hkept => ?_⟩, ?_⟩
  · exact (passphraseBytes_eq_iff hlength).mp (passphraseBytes_of_sendsPadded hpadded)
  · have hcarries : ∀ command : SecurityCommand,
        command.inputPayload = passphrasePayload passphrase passphraseLen →
        CarriesPadded passphrase passphraseLen command := by
      intro command hcommand
      rw [CarriesPadded, hcommand]
      exact (passphraseBytes_eq_iff hlength).mpr hkept
    have hnone : ∀ {σ : Type} (world : σ),
        AllSent (CarriesPadded passphrase passphraseLen) { world := world } :=
      fun _ => List.forall_mem_nil _
    exact
      { unlock := fun calls world discovery =>
          keeps_securityChangePrepare calls hcarries discovery _ (hnone world)
        remove := fun calls world deviceUid =>
          keeps_nvmRemovePassphrase calls hcarries deviceUid _ (hnone world)
        secureErase := fun calls world discovery =>
          keeps_secureEraseLoop calls hcarries discovery 4 _ (hnone world)
        erase := fun calls world deviceUid =>
          keeps_nvmEraseDevice calls hcarries deviceUid _ (hnone world) }
  · intro passphrase' passphraseLen' h' hkept hkept' hne heq
    rw [(passphraseBytes_eq_iff hlength).mpr hkept,
      (passphraseBytes_eq_iff (toNat_le_of_checkPassphrase h')).mpr hkept'] at heq
    refine hne ?_
    rw [← rdropWhile_zeroPadded, heq, rdropWhile_zeroPadded]

end Padded

/-- A passphrase of one character. -/
theorem sendsPadded_short : checkPassphrase (some fun _ => 97) 1 = .success ∧
    (SendsPadded (fun _ => 97) 1 ↔ PassphraseKept (fun _ => 97) 1) ∧
    (passphrasePayload (fun _ => 97) 1).passphraseBytes ≠
      (passphrasePayload (fun _ => 98) 1).passphraseBytes := by
  have haccepted : ∀ byte : UInt8, checkPassphrase (some fun _ => byte) 1 = .success :=
    fun _ => rfl
  have hkept : ∀ byte : UInt8, byte ≠ 0 → PassphraseKept (fun _ => byte) 1 := by
    intro byte hbyte i hi _
    have hzero : i < 1 := hi
    exact ⟨by omega, fun j _ => hbyte⟩
  obtain ⟨hiff, hdiffer⟩ := sendsPadded_iff (haccepted 97)
  exact ⟨haccepted 97, hiff,
    hdiffer _ 1 (haccepted 98) (hkept 97 (by decide)) (hkept 98 (by decide)) (by decide)⟩

/-- Of a passphrase of 32 characters the last is not sent. -/
theorem not_sendsPadded_long : ¬∀ passphrase passphraseLen,
    checkPassphrase (some passphrase) passphraseLen = .success →
    SendsPadded passphrase passphraseLen := by
  intro h
  have hbytes := passphraseBytes_of_sendsPadded (h (fun _ => 97) 32 (by decide))
  revert hbytes
  decide +kernel

end IxpDimm
