import IxpDimm.Context.NvmContext
import IxpDimm.PlatformConfig.Device

/-!
# Platform config data on a DIMM and in the library context

The functions of `PlatformConfig.Device` again, now with commands to the firmware that may fail, with
lookups of the handle that may fail, and with the data kept in the library context under the unique
id of the DIMM.  A run is a sequence of reads and writes of one DIMM.

The context is cleared only after a write that has succeeded as a whole, so data that it keeps goes
stale if a write stops after its first chunk.  `getDimmPlatformConfig_coherent` is about the runs in
which such a write finds no data in the context.
-/

namespace IxpDimm

open Foundation

/-! ### Commands that may fail -/

/-- One pass of a loop that transfers data by a command for each chunk. -/
def commandChunk (chunk : ℕ) (amount : ℕ → ℕ) (command : ℕ → ReturnCode) (src : Bytes) (size : ℕ) :
    ℕ × Bytes → (ℕ × Bytes) ⊕ (ReturnCode × Bytes)
  | (offset, m) =>
    if offset < size then
      if offset > devPltCfgOemPartitionSize - chunk then .inr (.errUnknown, m)
      else if command (offset / chunk) = .success then
        .inl (offset + chunk, copy m offset (amount offset) (view src offset))
      else .inr (command (offset / chunk), m)
    else .inr (.success, m)

/-- The whole loop. -/
def commandTransfer (chunk : ℕ) (amount : ℕ → ℕ) (command : ℕ → ReturnCode) (src : Bytes)
    (size : ℕ) (m : Bytes) : ReturnCode × Bytes :=
  (runLoop (commandChunk chunk amount command src size) (transferBound chunk) (0, m)).getD
    (.errUnknown, m)

/-- How the commands of a read turn out. -/
structure ReadCommands where
  /-- The command of `get_pcd_table_size`. -/
  tableSize : ReturnCode := .success
  /-- The command for each chunk. -/
  chunk : ℕ → ReturnCode := fun _ => .success

/-- What `get_hw_dimm_platform_config_alloc` leaves behind. -/
structure HwConfig where
  /-- The return code. -/
  rc : ReturnCode
  /-- `*p_pcd_size`. -/
  pcdSize : ℕ
  /-- `*pp_config`: `none` is the null pointer, and `some none` a block that has been freed. -/
  config : Option (Option Bytes)

/-- The loop of `get_hw_dimm_platform_config_alloc`. -/
def readCommands (commands : ReadCommands) (heap partition : Bytes) (pcdSize : ℕ) :
    ReturnCode × Bytes :=
  commandTransfer devSmallPayloadSize (fun offset =>
    if offset + devSmallPayloadSize > pcdSize then pcdSize - offset else devSmallPayloadSize)
    commands.chunk partition pcdSize (fun i => if i < pcdSize then 0 else heap i)

/-- `get_hw_dimm_platform_config_alloc`; a block that could not be filled is freed, but still
pointed to. -/
def getHwConfig (fuel : ℕ) (commands : ReadCommands) (heap partition : Bytes) : Option HwConfig :=
  if commands.tableSize ≠ .success then some ⟨commands.tableSize, 0, none⟩
  else
    let pcdSize := getPcdTableSize partition
    if pcdSize = 0 then
      let built := buildPlatformConfigData none none none (some none)
      if built.1 = .success then
        (checkPlatformConfig fuel built.2.join (UInt64.ofNat platformConfigDataSize)).map fun rc =>
          ⟨rc, platformConfigDataSize, built.2.join.map some⟩
      else some ⟨built.1, platformConfigDataSize, none⟩
    else if pcdSize < platformConfigDataSize ∨ pcdSize > devPltCfgOemPartitionSize then
      some ⟨.errUnknown, 0, none⟩
    else
      let read := readCommands commands heap partition pcdSize
      if read.1 = .success then
        (checkPlatformConfig fuel (some read.2) (UInt64.ofNat pcdSize)).map fun rc =>
          ⟨rc, pcdSize, some (some read.2)⟩
      else some ⟨read.1, pcdSize, some none⟩

/-! ### Reads and writes of a DIMM -/

/-- A DIMM with its partition, and the library context. -/
structure PcdSystem (Pool Namespace PcdNamespace : Type) where
  /-- The partition that holds the platform config data. -/
  partition : Bytes
  /-- The library context. -/
  context : NvmContext Pool Namespace PcdNamespace

/-- `lookup_dev_handle`: its return code, and the devices if they had to be read from the platform,
which keeps them in the context. -/
structure HandleLookup where
  /-- The return code. -/
  rc : ReturnCode := .success
  /-- The devices that were read, and how they were allocated. -/
  scanned : Option (List DeviceDiscovery × Allocation) := none

/-- The arguments of a read, and how everything it calls turns out. -/
structure GetCall where
  /-- The bound of the check. -/
  fuel : ℕ
  /-- What follows a buffer in memory. -/
  heap : Bytes := fun _ => 0
  /-- The lookup of the handle. -/
  lookup : HandleLookup := {}
  /-- Data of the context can be copied. -/
  copied : Bool := true
  /-- The commands. -/
  commands : ReadCommands := {}
  /-- New data can be kept in the context. -/
  stored : Bool := true

/-- The arguments of a write, and how everything it calls turns out. -/
structure SetCall where
  /-- The data. -/
  config : Bytes
  /-- The command for each chunk. -/
  writes : ℕ → ReturnCode := fun _ => .success
  /-- The lookup of the handle. -/
  lookup : HandleLookup := {}

namespace PcdSystem

variable {Pool Namespace PcdNamespace : Type}

/-- The context after a lookup. -/
def afterLookup (context : NvmContext Pool Namespace PcdNamespace) (lookup : HandleLookup) :
    NvmContext Pool Namespace PcdNamespace :=
  match lookup.scanned with
  | none => context
  | some (devices, allocation) => context.setDevices devices allocation

/-- The context after data has been read from the DIMM. -/
def afterRead (context : NvmContext Pool Namespace PcdNamespace) (uid : Uid) (hw : HwConfig)
    (stored : Bool) : NvmContext Pool Namespace PcdNamespace :=
  match hw.config with
  | some (some config) =>
    if hw.rc = .success then context.setDevicePcd uid config hw.pcdSize stored else context
  | _ => context

/-- `get_dimm_platform_config` for the DIMM with a unique id. -/
def getDimmPlatformConfig (uid : Uid) (s : PcdSystem Pool Namespace PcdNamespace) (call : GetCall) :
    Option (HwConfig × PcdSystem Pool Namespace PcdNamespace) :=
  let context := afterLookup s.context call.lookup
  if call.lookup.rc = .success then
    match context.getDevicePcd uid call.copied with
    | .ok (pcdSize, pcd) => some (⟨.success, pcdSize, some (some pcd)⟩, { s with context := context })
    | .error _ =>
      (getHwConfig call.fuel call.commands call.heap s.partition).map fun hw =>
        ({ hw with rc := if hw.config = none then .errBadDeviceConfig else hw.rc },
          { s with context := afterRead context uid hw call.stored })
  else some (⟨.errBadDeviceConfig, 0, none⟩, { s with context := context })

/-- The loop of `set_dimm_platform_config`. -/
def writeCommands (call : SetCall) (partition : Bytes) : ReturnCode × Bytes :=
  commandTransfer devPltCfgSmallPayloadWriteSize (fun _ => devPltCfgSmallPayloadWriteSize) call.writes
    call.config (getPcdTableSize call.config) partition

/-- `set_dimm_platform_config` for the DIMM with a unique id. -/
def setDimmPlatformConfig (uid : Uid) (s : PcdSystem Pool Namespace PcdNamespace) (call : SetCall) :
    ReturnCode × PcdSystem Pool Namespace PcdNamespace :=
  if devPltCfgOemPartitionSize < getPcdTableSize call.config then (.errBadSize, s)
  else
    let written := writeCommands call s.partition
    if written.1 = .success then
      let context := afterLookup s.context call.lookup
      if call.lookup.rc = .success then
        (.success, ⟨written.2, context.invalidateDevicePcd uid⟩)
      else (call.lookup.rc, ⟨written.2, context⟩)
    else (written.1, { s with partition := written.2 })

/-! ### What callers rely on -/

/-- What a read that does not use the context yields: the size and the bytes, unless the size is
refused. -/
def freshRead (partition : Bytes) : Option (ℕ × Bytes) :=
  let pcdSize := getPcdTableSize partition
  if pcdSize = 0 then
    (buildPlatformConfigData none none none (some none)).2.join.map (platformConfigDataSize, ·)
  else if pcdSize < platformConfigDataSize ∨ pcdSize > devPltCfgOemPartitionSize then none
  else some (pcdSize, partition)

/-- Data is what a read that does not use the context yields. -/
def Fresh (partition : Bytes) (pcdSize : ℕ) (config : Bytes) : Prop :=
  ∃ bytes, freshRead partition = some (pcdSize, bytes) ∧ SameBytes config bytes 0 pcdSize

/-- The data that the context keeps for a unique id. -/
def cachedPcd (context : NvmContext Pool Namespace PcdNamespace) (uid : Uid) : Option (ℕ × Bytes) :=
  (context.findDevice uid).bind NvmDeviceContext.pcd

/-- A write of data that fits stops after its first chunk: a later command fails, or the lookup of
the handle that comes after the last. -/
def Interrupted (call : SetCall) : Prop :=
  0 < getPcdTableSize call.config ∧ getPcdTableSize call.config ≤ devPltCfgOemPartitionSize ∧
    call.writes 0 = .success ∧
    ((∃ i, devPltCfgSmallPayloadWriteSize * i < getPcdTableSize call.config ∧
      call.writes i ≠ .success) ∨ call.lookup.rc ≠ .success)

/-- The states that reads and writes lead to, from a context without data for the DIMM; writes are
made only where they are allowed. -/
inductive Reached (uid : Uid) (allowed : PcdSystem Pool Namespace PcdNamespace → SetCall → Prop) :
    PcdSystem Pool Namespace PcdNamespace → Prop
  /-- Nothing has been read. -/
  | start {s : PcdSystem Pool Namespace PcdNamespace} (h : cachedPcd s.context uid = none) :
    Reached uid allowed s
  /-- A read. -/
  | get {s s' : PcdSystem Pool Namespace PcdNamespace} {call : GetCall} {r : HwConfig}
    (hs : Reached uid allowed s) (h : getDimmPlatformConfig uid s call = some (r, s')) :
    Reached uid allowed s'
  /-- A write. -/
  | set {s : PcdSystem Pool Namespace PcdNamespace} {call : SetCall} (hs : Reached uid allowed s)
    (h : allowed s call) : Reached uid allowed (setDimmPlatformConfig uid s call).2

/-! ### Transfers that succeed -/

section Transfers

variable {chunk size : ℕ} {amount : ℕ → ℕ} {command : ℕ → ReturnCode} {src : Bytes}

/-- A pass is one without failures, or its command fails. -/
private theorem commandChunk_cases (offset : ℕ) (m : Bytes) :
    commandChunk chunk amount command src size (offset, m) =
        transferChunk chunk amount src size (offset, m) ∨
      (offset < size ∧ command (offset / chunk) ≠ .success ∧
        commandChunk chunk amount command src size (offset, m) =
          .inr (command (offset / chunk), m)) := by
  simp only [commandChunk, transferChunk]
  split_ifs with hlt hbound hcommand
  · exact Or.inl rfl
  · exact Or.inl rfl
  · exact Or.inr ⟨hlt, hcommand, rfl⟩
  · exact Or.inl rfl

/-- A transfer that succeeds is one without failures. -/
private theorem runLoop_commandChunk_success {fuel : ℕ} {s : ℕ × Bytes} {m : Bytes}
    (h : runLoop (commandChunk chunk amount command src size) fuel s = some (.success, m)) :
    runLoop (transferChunk chunk amount src size) fuel s = some (.success, m) := by
  induction fuel generalizing s with
  | zero => cases h
  | succ fuel ih =>
    obtain ⟨offset, buffer⟩ := s
    rcases commandChunk_cases offset buffer with hsame | ⟨-, hfails, hexit⟩
    · cases hstep : transferChunk chunk amount src size (offset, buffer) with
      | inl s' =>
        rw [runLoop_succ_of_inl (hsame.trans hstep)] at h
        rw [runLoop_succ_of_inl hstep]
        exact ih h
      | inr r =>
        rw [runLoop_succ_of_inr (hsame.trans hstep)] at h
        rw [runLoop_succ_of_inr hstep]
        exact h
    · rw [runLoop_succ_of_inr hexit] at h
      exact absurd (congrArg Prod.fst (Option.some.inj h)) hfails

/-- A transfer whose commands succeed is one without failures. -/
private theorem runLoop_commandChunk_eq (hchunk : 0 < chunk)
    (hcommand : ∀ i, chunk * i < size → command i = .success) (fuel k : ℕ) (m : Bytes) :
    runLoop (commandChunk chunk amount command src size) fuel (chunk * k, m) =
      runLoop (transferChunk chunk amount src size) fuel (chunk * k, m) := by
  induction fuel generalizing k m with
  | zero => rfl
  | succ fuel ih =>
    rcases commandChunk_cases (chunk * k) m with hsame | ⟨hlt, hfails, -⟩
    · cases hstep : transferChunk chunk amount src size (chunk * k, m) with
      | inl s' =>
        -- the offset of the next chunk
        obtain ⟨m', rfl⟩ : ∃ m', s' = (chunk * (k + 1), m') := by
          simp only [transferChunk] at hstep
          split_ifs at hstep
          exact ⟨_, (Sum.inl.inj hstep).symm⟩
        rw [runLoop_succ_of_inl (hsame.trans hstep), runLoop_succ_of_inl hstep]
        exact ih (k + 1) m'
      | inr r => rw [runLoop_succ_of_inr (hsame.trans hstep), runLoop_succ_of_inr hstep]
    · rw [Nat.mul_div_cancel_left k hchunk] at hfails
      exact absurd (hcommand k hlt) hfails

/-- The whole transfer, when its commands succeed. -/
private theorem commandTransfer_eq_transfer (hchunk : 0 < chunk)
    (hcommand : ∀ i, chunk * i < size → command i = .success) (m : Bytes) :
    commandTransfer chunk amount command src size m = transfer chunk amount src size m := by
  have hrun : runLoop (commandChunk chunk amount command src size) (transferBound chunk)
      (chunk * 0, m) = _ := runLoop_commandChunk_eq hchunk hcommand _ 0 m
  rw [Nat.mul_zero] at hrun
  rw [commandTransfer, transfer, hrun]

/-- What a transfer that succeeds has transferred. -/
private theorem commandTransfer_success {m : Bytes}
    (h : (commandTransfer chunk amount command src size m).1 = .success) :
    transfer chunk amount src size m = commandTransfer chunk amount command src size m := by
  unfold commandTransfer at h ⊢
  cases hrun : runLoop (commandChunk chunk amount command src size) (transferBound chunk) (0, m) with
  | none =>
    rw [hrun] at h
    cases h
  | some result =>
    obtain ⟨rc, buffer⟩ := result
    rw [hrun] at h
    obtain rfl : rc = .success := h
    rw [transfer, runLoop_commandChunk_success hrun]

/-- A transfer whose first command fails changes nothing. -/
private theorem commandTransfer_first {m : Bytes}
    (hcommand : 0 < size → command 0 ≠ .success) :
    (commandTransfer chunk amount command src size m).2 = m := by
  have hexit : ∃ rc, commandChunk chunk amount command src size (0, m) = .inr (rc, m) := by
    simp only [commandChunk, Nat.zero_div]
    split_ifs with hlt hbound hsuccess
    · exact ⟨_, rfl⟩
    · exact absurd hsuccess (hcommand hlt)
    · exact ⟨_, rfl⟩
    · exact ⟨_, rfl⟩
  obtain ⟨rc, hexit⟩ := hexit
  unfold commandTransfer transferBound
  rw [runLoop_succ_of_inr hexit, Option.getD_some]

end Transfers

/-- The size is part of the header. -/
private theorem getPcdTableSize_congr {m m' : Bytes} (h : SameBytes m m' 0 platformConfigDataSize) :
    getPcdTableSize m = getPcdTableSize m' := by
  have hfield : ∀ a, a + 4 ≤ platformConfigDataSize → readLE m a 4 = readLE m' a 4 := by
    intro a ha
    exact readLE_congr (h.mono (Nat.zero_le a) (by rwa [Nat.zero_add]))
  simp only [getPcdTableSize, headerLength, tableSize]
  rw [hfield 4 (by decide), hfield _ (by decide), hfield _ (by decide), hfield _ (by decide)]

/-- A write that succeeds has written the data. -/
private theorem writeCommands_spec {call : SetCall} {partition : Bytes}
    (hsize : getPcdTableSize call.config ≤ devPltCfgOemPartitionSize)
    (h : (writeCommands call partition).1 = .success) :
    SameBytes (writeCommands call partition).2 call.config 0 (getPcdTableSize call.config) := by
  obtain ⟨written, hwrite, hsame⟩ := writePartition_spec call.config partition hsize
  have hcommands : writePartition call.config (getPcdTableSize call.config) partition =
      writeCommands call partition := commandTransfer_success h
  rw [← hcommands, hwrite]
  exact hsame

/-- A write that succeeds has written the header, if it has written anything. -/
private theorem writeCommands_header {call : SetCall} {partition : Bytes}
    (hsize : getPcdTableSize call.config ≤ devPltCfgOemPartitionSize)
    (hpos : 0 < getPcdTableSize call.config) (h : (writeCommands call partition).1 = .success) :
    SameBytes (writeCommands call partition).2 call.config 0 platformConfigDataSize := by
  rcases Nat.lt_or_ge (getPcdTableSize call.config) platformConfigDataSize with hsmall | hlarge
  · -- a single chunk, which is larger than the header
    have hcommands : writePartition call.config (getPcdTableSize call.config) partition =
        writeCommands call partition := commandTransfer_success h
    have hbound : transferBound devPltCfgSmallPayloadWriteSize = 1023 + 1 + 1 := by decide
    have hend : ¬ 0 + devPltCfgSmallPayloadWriteSize < getPcdTableSize call.config := by
      have hlt : platformConfigDataSize ≤ 0 + devPltCfgSmallPayloadWriteSize := by decide
      omega
    have hfirst : transferChunk devPltCfgSmallPayloadWriteSize
        (fun _ => devPltCfgSmallPayloadWriteSize) call.config (getPcdTableSize call.config)
        (0, partition) = .inl (0 + devPltCfgSmallPayloadWriteSize,
          copy partition 0 devPltCfgSmallPayloadWriteSize (view call.config 0)) := if_pos hpos
    have hlast : transferChunk devPltCfgSmallPayloadWriteSize
        (fun _ => devPltCfgSmallPayloadWriteSize) call.config (getPcdTableSize call.config)
        (0 + devPltCfgSmallPayloadWriteSize,
          copy partition 0 devPltCfgSmallPayloadWriteSize (view call.config 0)) =
        .inr (.success,
          copy partition 0 devPltCfgSmallPayloadWriteSize (view call.config 0)) := if_neg hend
    rw [← hcommands, writePartition, transfer, hbound, runLoop_succ_of_inl hfirst,
      runLoop_succ_of_inr hlast, Option.getD_some]
    intro i _ hi
    have hcopied : i < devPltCfgSmallPayloadWriteSize := lt_of_lt_of_le hi (by decide)
    dsimp only
    rw [← Nat.zero_add i, copy_apply_add hcopied, view_apply]
  · exact (writeCommands_spec hsize h).mono (Nat.le_refl 0) (Nat.add_le_add_left hlarge 0)

/-- A write whose commands and lookup succeed is not interrupted. -/
private theorem writeCommands_eq_success {call : SetCall} {partition : Bytes}
    (hsize : getPcdTableSize call.config ≤ devPltCfgOemPartitionSize)
    (h : ∀ i, devPltCfgSmallPayloadWriteSize * i < getPcdTableSize call.config →
      call.writes i = .success) : (writeCommands call partition).1 = .success := by
  obtain ⟨written, hwrite, -⟩ := writePartition_spec call.config partition hsize
  have htransfer : writeCommands call partition =
      writePartition call.config (getPcdTableSize call.config) partition :=
    commandTransfer_eq_transfer (by decide) h partition
  rw [htransfer, hwrite]

/-! ### Calls without failures -/

/-! ### Reads -/

/-- Data that is read from the DIMM is fresh. -/
private theorem getHwConfig_fresh {fuel : ℕ} {commands : ReadCommands} {heap partition config : Bytes}
    {hw : HwConfig} (h : getHwConfig fuel commands heap partition = some hw)
    (hconfig : hw.config = some (some config)) : Fresh partition hw.pcdSize config := by
  unfold getHwConfig at h
  unfold Fresh freshRead
  dsimp only at h ⊢
  split_ifs at h with htable hzero hbuilt hrefused hread
  · obtain rfl := Option.some.inj h
    cases hconfig
  · obtain ⟨rc, -, rfl⟩ := Option.map_eq_some_iff.mp h
    dsimp only at hconfig
    obtain ⟨bytes, hbytes, hsame⟩ := Option.map_eq_some_iff.mp hconfig
    obtain rfl := Option.some.inj hsame
    refine ⟨bytes, ?_, fun _ _ _ => rfl⟩
    rw [if_pos hzero, hbytes, Option.map_some]
  · obtain rfl := Option.some.inj h
    cases hconfig
  · obtain rfl := Option.some.inj h
    cases hconfig
  · obtain ⟨rc, -, rfl⟩ := Option.map_eq_some_iff.mp h
    obtain rfl := Option.some.inj (Option.some.inj hconfig)
    refine ⟨partition, ?_, ?_⟩
    · rw [if_neg hzero, if_neg hrefused]
    · obtain ⟨buffer, hbuffer, hsame⟩ := readPartition_spec heap partition
        (not_lt.mp (not_or.mp hrefused).2)
      have htransfer : readPartition heap partition (getPcdTableSize partition) =
          readCommands commands heap partition (getPcdTableSize partition) :=
        commandTransfer_success hread
      rw [← htransfer, hbuffer]
      exact hsame
  · obtain rfl := Option.some.inj h
    cases hconfig

/-- A read that succeeds yields data. -/
private theorem getHwConfig_success {fuel : ℕ} {commands : ReadCommands} {heap partition : Bytes}
    {hw : HwConfig} (h : getHwConfig fuel commands heap partition = some hw)
    (hrc : hw.rc = .success) : ∃ config, hw.config = some (some config) := by
  unfold getHwConfig at h
  dsimp only at h
  split_ifs at h with htable hzero hbuilt hrefused hread
  · obtain rfl := Option.some.inj h
    exact absurd hrc htable
  · obtain ⟨rc, hcheck, rfl⟩ := Option.map_eq_some_iff.mp h
    cases hbytes : (buildPlatformConfigData none none none (some none)).2.join with
    | none =>
      rw [hbytes] at hcheck
      obtain rfl : rc = .success := hrc
      cases hcheck
    | some bytes => exact ⟨bytes, by simp only [Option.map_some]⟩
  · obtain rfl := Option.some.inj h
    exact absurd hrc hbuilt
  · obtain rfl := Option.some.inj h
    cases hrc
  · obtain ⟨rc, -, rfl⟩ := Option.map_eq_some_iff.mp h
    exact ⟨_, rfl⟩
  · obtain rfl := Option.some.inj h
    exact absurd hrc hread

/-! ### The context -/

variable {uid : Uid} {s s' : PcdSystem Pool Namespace PcdNamespace}

/-- Data that is kept is what was put there, if there is an entry for it. -/
private theorem cachedPcd_withDevicePcd (context : NvmContext Pool Namespace PcdNamespace) (uid : Uid)
    (pcd : Option (ℕ × Bytes)) :
    cachedPcd (context.withDevicePcd uid pcd) uid = none ∨
      cachedPcd (context.withDevicePcd uid pcd) uid = pcd := by
  unfold cachedPcd
  rw [NvmContext.findDevice_withDevicePcd]
  cases context.findDevice uid with
  | none => exact Or.inl rfl
  | some device => exact Or.inr rfl

/-- A lookup keeps the data of the context or drops it. -/
private theorem cachedPcd_afterLookup (context : NvmContext Pool Namespace PcdNamespace)
    (lookup : HandleLookup) :
    cachedPcd (afterLookup context lookup) uid = none ∨
      cachedPcd (afterLookup context lookup) uid = cachedPcd context uid := by
  unfold afterLookup
  split
  · exact Or.inr rfl
  · left
    unfold cachedPcd
    refine Option.bind_eq_none_iff.mpr fun device hdevice => ?_
    exact NvmContext.pcd_of_findDevice_setDevices hdevice

/-- The data of the context is fresh. -/
def Coherent (uid : Uid) (s : PcdSystem Pool Namespace PcdNamespace) : Prop :=
  ∀ pcdSize pcd, cachedPcd s.context uid = some (pcdSize, pcd) → Fresh s.partition pcdSize pcd

/-- A context that keeps no more than before stays up to date. -/
private theorem Coherent.of_cachedPcd (h : Coherent uid s)
    {context : NvmContext Pool Namespace PcdNamespace}
    (hcached : cachedPcd context uid = none ∨ cachedPcd context uid = cachedPcd s.context uid) :
    Coherent uid { s with context := context } := by
  intro pcdSize pcd hpcd
  rcases hcached with hnone | hsame
  · rw [hnone] at hpcd
    cases hpcd
  · exact h pcdSize pcd (hsame ▸ hpcd)

/-- A read keeps the context up to date, and yields fresh data if it succeeds. -/
private theorem getDimmPlatformConfig_keeps {call : GetCall} {r : HwConfig} (h : Coherent uid s)
    (hget : getDimmPlatformConfig uid s call = some (r, s')) :
    Coherent uid s' ∧ (r.rc = .success →
      ∃ config, r.config = some (some config) ∧ Fresh s.partition r.pcdSize config) := by
  have hlookup := h.of_cachedPcd (cachedPcd_afterLookup s.context call.lookup)
  unfold getDimmPlatformConfig at hget
  dsimp only at hget
  split_ifs at hget with hrc
  · split at hget
    next pcdSize pcd hcached =>
      obtain ⟨rfl, rfl⟩ := Prod.mk.inj (Option.some.inj hget)
      refine ⟨hlookup, fun _ => ⟨pcd, rfl, hlookup pcdSize pcd ?_⟩⟩
      unfold NvmContext.getDevicePcd at hcached
      split at hcached
      next size kept hkept =>
        split_ifs at hcached
        obtain ⟨rfl, rfl⟩ := Prod.mk.inj (Except.ok.inj hcached)
        exact hkept
      next => cases hcached
    next rc hcached =>
      obtain ⟨hw, hread, hresult⟩ := Option.map_eq_some_iff.mp hget
      obtain ⟨rfl, rfl⟩ := Prod.mk.inj hresult
      constructor
      · unfold afterRead
        split
        next config hconfig =>
          split_ifs
          · intro pcdSize pcd hpcd
            rcases cachedPcd_withDevicePcd (afterLookup s.context call.lookup) uid
              (if call.stored then some (hw.pcdSize, config) else none) with hnone | hstored
            · rw [NvmContext.setDevicePcd, hnone] at hpcd
              cases hpcd
            · rw [NvmContext.setDevicePcd, hstored] at hpcd
              split_ifs at hpcd
              obtain ⟨rfl, rfl⟩ := Prod.mk.inj (Option.some.inj hpcd)
              exact getHwConfig_fresh hread hconfig
          · exact hlookup
        next => exact hlookup
      · intro hsuccess
        dsimp only at hsuccess
        split_ifs at hsuccess
        obtain ⟨config, hconfig⟩ := getHwConfig_success hread hsuccess
        have hfresh : Fresh s.partition hw.pcdSize config := getHwConfig_fresh hread hconfig
        exact ⟨config, hconfig, hfresh⟩
  · obtain ⟨rfl, rfl⟩ := Prod.mk.inj (Option.some.inj hget)
    refine ⟨hlookup, fun hsuccess => ?_⟩
    cases hsuccess

/-- What a write can do. -/
private theorem setDimmPlatformConfig_cases (uid : Uid)
    (s : PcdSystem Pool Namespace PcdNamespace) (call : SetCall) :
    setDimmPlatformConfig uid s call = (.errBadSize, s) ∨
      (getPcdTableSize call.config ≤ devPltCfgOemPartitionSize ∧
        (((writeCommands call s.partition).1 = .success ∧ call.lookup.rc = .success ∧
          setDimmPlatformConfig uid s call = (.success, ⟨(writeCommands call s.partition).2,
            (afterLookup s.context call.lookup).invalidateDevicePcd uid⟩)) ∨
        ((writeCommands call s.partition).1 = .success ∧ call.lookup.rc ≠ .success ∧
          setDimmPlatformConfig uid s call = (call.lookup.rc,
            ⟨(writeCommands call s.partition).2, afterLookup s.context call.lookup⟩)) ∨
        ((writeCommands call s.partition).1 ≠ .success ∧
          setDimmPlatformConfig uid s call = ((writeCommands call s.partition).1,
            { s with partition := (writeCommands call s.partition).2 })))) := by
  by_cases hlarge : devPltCfgOemPartitionSize < getPcdTableSize call.config
  · exact Or.inl (if_pos hlarge)
  refine Or.inr ⟨not_lt.mp hlarge, ?_⟩
  by_cases hwritten : (writeCommands call s.partition).1 = .success
  · by_cases hlookup : call.lookup.rc = .success
    · refine Or.inl ⟨hwritten, hlookup, ?_⟩
      simp only [setDimmPlatformConfig, if_neg hlarge, if_pos hwritten, if_pos hlookup]
    · refine Or.inr (Or.inl ⟨hwritten, hlookup, ?_⟩)
      simp only [setDimmPlatformConfig, if_neg hlarge, if_pos hwritten, if_neg hlookup]
  · refine Or.inr (Or.inr ⟨hwritten, ?_⟩)
    simp only [setDimmPlatformConfig, if_neg hlarge, if_neg hwritten]

/-- A write keeps the context up to date, unless it is interrupted and finds data there. -/
private theorem setDimmPlatformConfig_keeps {call : SetCall} (h : Coherent uid s)
    (hcall : Interrupted call → cachedPcd s.context uid = none) :
    Coherent uid (setDimmPlatformConfig uid s call).2 := by
  have hempty : ∀ s' : PcdSystem Pool Namespace PcdNamespace, cachedPcd s'.context uid = none →
      Coherent uid s' := by
    intro s' hnone pcdSize pcd hpcd
    rw [hnone] at hpcd
    cases hpcd
  have hunwritten : ¬ (0 < getPcdTableSize call.config ∧ call.writes 0 = .success) →
      (writeCommands call s.partition).2 = s.partition := by
    intro hstarted
    exact commandTransfer_first fun hpos hfirst => hstarted ⟨hpos, hfirst⟩
  obtain heq | ⟨hsize, ⟨-, -, heq⟩ | ⟨hwritten, hlookup, heq⟩ | ⟨hwritten, heq⟩⟩ :=
    setDimmPlatformConfig_cases uid s call
  · rw [heq]
    exact h
  · rw [heq]
    apply hempty
    rcases cachedPcd_withDevicePcd (afterLookup s.context call.lookup) uid none with hnone | hnone
    · exact hnone
    · exact hnone
  · rw [heq]
    by_cases hstarted : 0 < getPcdTableSize call.config ∧ call.writes 0 = .success
    · -- all commands have succeeded, but the handle is not found
      apply hempty
      have hnone := hcall ⟨hstarted.1, hsize, hstarted.2, Or.inr hlookup⟩
      rcases cachedPcd_afterLookup s.context call.lookup with hdropped | hsame
      · exact hdropped
      · exact hsame.trans hnone
    · rw [hunwritten hstarted]
      exact h.of_cachedPcd (cachedPcd_afterLookup s.context call.lookup)
  · rw [heq]
    by_cases hstarted : 0 < getPcdTableSize call.config ∧ call.writes 0 = .success
    · -- a later command has failed
      apply hempty
      refine hcall ⟨hstarted.1, hsize, hstarted.2, Or.inl ?_⟩
      by_contra hall
      refine hwritten (writeCommands_eq_success hsize fun i hi => ?_)
      by_contra hfails
      exact hall ⟨i, hi, hfails⟩
    · rw [hunwritten hstarted]
      exact h

/-- The context is up to date in every state that is reached without an interrupted write that finds
data there. -/
private theorem coherent_of_reached
    (h : Reached uid (fun s call => Interrupted call → cachedPcd s.context uid = none) s) :
    Coherent uid s := by
  induction h with
  | start hnone =>
    intro pcdSize pcd hpcd
    rw [hnone] at hpcd
    cases hpcd
  | get _ hget ih => exact (getDimmPlatformConfig_keeps ih hget).1
  | set _ hcall ih => exact setDimmPlatformConfig_keeps ih hcall

/-- What a write that succeeds leaves on the DIMM. -/
private theorem setDimmPlatformConfig_success {call : SetCall}
    (h : (setDimmPlatformConfig uid s call).1 = .success) :
    getPcdTableSize call.config ≤ devPltCfgOemPartitionSize ∧
      (writeCommands call s.partition).1 = .success ∧
      (setDimmPlatformConfig uid s call).2.partition = (writeCommands call s.partition).2 := by
  obtain heq | ⟨hsize, ⟨hwritten, -, heq⟩ | ⟨-, hlookup, heq⟩ | ⟨hwritten, heq⟩⟩ :=
    setDimmPlatformConfig_cases uid s call
  · rw [heq] at h
    cases h
  · exact ⟨hsize, hwritten, by rw [heq]⟩
  · rw [heq] at h
    exact absurd h hlookup
  · rw [heq] at h
    exact absurd h hwritten

/-- In every run whose interrupted writes find no data in the context, a read that succeeds yields
what a read that does not use the context would, and after a write that succeeds this is what was
written. -/
theorem getDimmPlatformConfig_coherent (uid : Uid) (s : PcdSystem Pool Namespace PcdNamespace)
    (h : Reached uid (fun s call => Interrupted call → cachedPcd s.context uid = none) s) :
    (∀ call r s', getDimmPlatformConfig uid s call = some (r, s') → r.rc = .success →
      ∃ config, r.config = some (some config) ∧ Fresh s.partition r.pcdSize config) ∧
    ∀ call, (setDimmPlatformConfig uid s call).1 = .success →
      SameBytes (setDimmPlatformConfig uid s call).2.partition call.config 0
        (getPcdTableSize call.config) ∧
      (0 < getPcdTableSize call.config → ∀ pcdSize config,
        Fresh (setDimmPlatformConfig uid s call).2.partition pcdSize config →
          pcdSize = getPcdTableSize call.config ∧
            SameBytes config call.config 0 (getPcdTableSize call.config)) := by
  refine ⟨fun call r s' hget hrc => ?_, fun call hset => ?_⟩
  · exact (getDimmPlatformConfig_keeps (coherent_of_reached h) hget).2 hrc
  · obtain ⟨hsize, hwritten, hpartition⟩ := setDimmPlatformConfig_success hset
    have hsame := writeCommands_spec hsize hwritten
    rw [hpartition]
    refine ⟨hsame, fun hpos pcdSize config hfresh => ?_⟩
    obtain ⟨bytes, hread, hbytes⟩ := hfresh
    have hheader := getPcdTableSize_congr (writeCommands_header hsize hpos hwritten)
    unfold freshRead at hread
    dsimp only at hread
    rw [hheader, if_neg hpos.ne'] at hread
    split_ifs at hread
    obtain ⟨rfl, rfl⟩ := Prod.mk.inj (Option.some.inj hread)
    exact ⟨rfl, hbytes.trans hsame⟩

/-- A DIMM without platform config data, which the context knows. -/
def blankSystem : PcdSystem ℕ ℕ ℕ := ⟨fun _ => 0, ({} : NvmContext ℕ ℕ ℕ).setDevices [{}] {}⟩

/-- The same DIMM after a read. -/
def readSystem : PcdSystem ℕ ℕ ℕ :=
  ((getDimmPlatformConfig (DeviceDiscovery.uid {}) blankSystem { fuel := 1 }).map Prod.snd).getD
    blankSystem

/-- The read has succeeded. -/
private theorem getDimmPlatformConfig_blankSystem :
    ∃ r, getDimmPlatformConfig (DeviceDiscovery.uid {}) blankSystem { fuel := 1 } =
      some (r, readSystem) ∧ r.rc = .success := by
  have hrc : (getDimmPlatformConfig (DeviceDiscovery.uid {}) blankSystem { fuel := 1 }).map
      (fun result => result.1.rc) = some .success := by decide +kernel
  obtain ⟨⟨r, s⟩, hget, hrc⟩ := Option.map_eq_some_iff.mp hrc
  refine ⟨r, ?_, hrc⟩
  rw [readSystem, hget, Option.map_some, Option.getD_some]

/-- A DIMM that was read, and is read again. -/
theorem getDimmPlatformConfig_coherent_readSystem :
    Reached (DeviceDiscovery.uid {}) (fun s call => Interrupted call →
        cachedPcd s.context (DeviceDiscovery.uid {}) = none) readSystem ∧
      ∃ r s', getDimmPlatformConfig (DeviceDiscovery.uid {}) readSystem { fuel := 0 } = some (r, s') ∧
        ∃ config, r.config = some (some config) ∧ Fresh readSystem.partition r.pcdSize config := by
  obtain ⟨r, hget, -⟩ := getDimmPlatformConfig_blankSystem
  have hreached : Reached (DeviceDiscovery.uid {}) (fun s call => Interrupted call →
      cachedPcd s.context (DeviceDiscovery.uid {}) = none) readSystem := by
    refine Reached.get (Reached.start ?_) hget
    exact Option.bind_eq_none_iff.mpr fun device hdevice =>
      NvmContext.pcd_of_findDevice_setDevices hdevice
  have hagain : (getDimmPlatformConfig (DeviceDiscovery.uid {}) readSystem { fuel := 0 }).map
      (fun result => result.1.rc) = some .success := by decide +kernel
  obtain ⟨⟨r', s'⟩, hget', hrc⟩ := Option.map_eq_some_iff.mp hagain
  exact ⟨hreached, r', s', hget',
    (getDimmPlatformConfig_coherent _ _ hreached).1 _ r' s' hget' hrc⟩

/-- A write of 120 bytes whose second command fails. -/
def interruptedCall : SetCall where
  config := writeLE (fun _ => 0) 4 4 120
  writes i := if i = 0 then .success else .errDriverFailed

/-- The same DIMM after the write. -/
def staleSystem : PcdSystem ℕ ℕ ℕ :=
  (setDimmPlatformConfig (DeviceDiscovery.uid {}) readSystem interruptedCall).2

/-- After the write the context still yields the 60 bytes that were read before, but the DIMM has the
header of 120 bytes. -/
theorem not_getDimmPlatformConfig_coherent :
    ¬ ∀ (uid : Uid) (s : PcdSystem ℕ ℕ ℕ), Reached uid (fun _ _ => True) s →
      ∀ call r s', getDimmPlatformConfig uid s call = some (r, s') → r.rc = .success →
        ∃ config, r.config = some (some config) ∧ Fresh s.partition r.pcdSize config := by
  intro h
  obtain ⟨r₀, hget₀, -⟩ := getDimmPlatformConfig_blankSystem
  have hblank : cachedPcd blankSystem.context (DeviceDiscovery.uid {}) = none :=
    Option.bind_eq_none_iff.mpr fun device hdevice =>
      NvmContext.pcd_of_findDevice_setDevices hdevice
  have hreached : Reached (DeviceDiscovery.uid {}) (fun _ _ => True) staleSystem :=
    Reached.set (Reached.get (Reached.start hblank) hget₀) trivial
  have hsize : (getDimmPlatformConfig (DeviceDiscovery.uid {}) staleSystem { fuel := 1 }).map
      (fun result => (result.1.rc, result.1.pcdSize)) = some (.success, 60) := by decide +kernel
  have hfresh : (freshRead staleSystem.partition).map Prod.fst = some 120 := by decide +kernel
  obtain ⟨⟨r, s⟩, hget, hresult⟩ := Option.map_eq_some_iff.mp hsize
  obtain ⟨hrc, hpcdSize⟩ := Prod.mk.inj hresult
  obtain ⟨config, -, bytes, hread, -⟩ := h _ staleSystem hreached _ r s hget hrc
  rw [hread, Option.map_some, hpcdSize] at hfresh
  cases hfresh

end PcdSystem

end IxpDimm
