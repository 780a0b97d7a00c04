import IxpDimm.PlatformConfig.Build

/-!
# Platform config data on a DIMM

Reading the platform config data from the partition of a DIMM and writing it there.  The firmware
transfers 128 bytes per command when it reads and 64 when it writes.  Data that was read and found
valid is kept in the library context until the next write.

The commands to the firmware succeed here, and the handle of the DIMM is known.  What follows a
buffer in memory is a parameter of the functions that read into one.
-/

namespace IxpDimm

open Foundation

/-- `DEV_SMALL_PAYLOAD_SIZE`. -/
def devSmallPayloadSize : ℕ := 128

/-- `DEV_PLT_CFG_SMALL_PAYLOAD_WRITE_SIZE`. -/
def devPltCfgSmallPayloadWriteSize : ℕ := 64

/-- A DIMM with its partition, and the data that the library context keeps for it. -/
structure PcdDevice where
  /-- The partition that holds the platform config data. -/
  partition : Bytes
  /-- `p_pcd` of the library context. -/
  context : Option Bytes

/-- `get_pcd_table_size`, a sum of 32-bit numbers. -/
def getPcdTableSize (partition : Bytes) : ℕ :=
  (headerLength partition + tableSize .configInput partition +
    tableSize .currentConfig partition + tableSize .configOutput partition) % 2 ^ 32

/-! ### Transfers -/

/-- One pass of a loop that transfers the first `size` bytes of `src` into another block, on the
offset and that block; a pass moves the offset by a chunk and transfers the given amount. -/
def transferChunk (chunk : ℕ) (amount : ℕ → ℕ) (src : Bytes) (size : ℕ) :
    ℕ × Bytes → (ℕ × Bytes) ⊕ (ReturnCode × Bytes)
  | (offset, m) =>
    if offset < size then
      if offset > devPltCfgOemPartitionSize - chunk then .inr (.errUnknown, m)
      else .inl (offset + chunk, copy m offset (amount offset) (view src offset))
    else .inr (.success, m)

/-- A number of passes within which the loop ends. -/
def transferBound (chunk : ℕ) : ℕ := devPltCfgOemPartitionSize / chunk + 1

/-- The whole loop. -/
def transfer (chunk : ℕ) (amount : ℕ → ℕ) (src : Bytes) (size : ℕ) (m : Bytes) :
    ReturnCode × Bytes :=
  (runLoop (transferChunk chunk amount src size) (transferBound chunk) (0, m)).getD (.errUnknown, m)

/-! ### Reading -/

/-- The loop of `get_hw_dimm_platform_config_alloc` into a zeroed buffer; the last transfer is cut
off at the size of the buffer. -/
def readPartition (heap partition : Bytes) (pcdSize : ℕ) : ReturnCode × Bytes :=
  transfer devSmallPayloadSize (fun offset =>
    if offset + devSmallPayloadSize > pcdSize then pcdSize - offset else devSmallPayloadSize)
    partition pcdSize (fun i => if i < pcdSize then 0 else heap i)

/-- `get_hw_dimm_platform_config_alloc`: the return code and what `*pp_config` points to. -/
def getHwDimmPlatformConfigAlloc (fuel : ℕ) (heap partition : Bytes) :
    Option (ReturnCode × Option Bytes) :=
  let pcdSize := getPcdTableSize partition
  if pcdSize = 0 then
    match buildPlatformConfigData none none none (some none) with
    | (.success, some config) =>
      (checkPlatformConfig fuel config (UInt64.ofNat platformConfigDataSize)).map fun rc => (rc, config)
    | (rc, _) => some (rc, none)
  else if pcdSize < platformConfigDataSize ∨ pcdSize > devPltCfgOemPartitionSize then
    some (.errUnknown, none)
  else
    match readPartition heap partition pcdSize with
    | (.success, buffer) =>
      (checkPlatformConfig fuel (some buffer) (UInt64.ofNat pcdSize)).map fun rc => (rc, some buffer)
    | (rc, _) => some (rc, none)

/-- `get_dimm_platform_config`. -/
def getDimmPlatformConfig (fuel : ℕ) (heap : Bytes) (device : PcdDevice) :
    Option (ReturnCode × Option Bytes × PcdDevice) :=
  match device.context with
  | some config => some (.success, some config, device)
  | none =>
    (getHwDimmPlatformConfigAlloc fuel heap device.partition).map fun (rc, config) =>
      match config with
      | none => (.errBadDeviceConfig, none, device)
      | some config =>
        (rc, some config, if rc = .success then { device with context := some config } else device)

/-! ### Writing -/

/-- The loop of `set_dimm_platform_config`. -/
def writePartition (config : Bytes) (pcdSize : ℕ) (partition : Bytes) : ReturnCode × Bytes :=
  transfer devPltCfgSmallPayloadWriteSize (fun _ => devPltCfgSmallPayloadWriteSize) config pcdSize
    partition

/-- `set_dimm_platform_config`. -/
def setDimmPlatformConfig (device : PcdDevice) (config : Bytes) : ReturnCode × PcdDevice :=
  let pcdSize := getPcdTableSize config
  if devPltCfgOemPartitionSize < pcdSize then (.errBadSize, device)
  else
    match writePartition config pcdSize device.partition with
    | (.success, partition) => (.success, ⟨partition, none⟩)
    | (rc, partition) => (rc, { device with partition := partition })

/-! ### What is read and written -/

/-- The passes of a transfer from the offset of a chunk on. -/
private theorem transfer_run {chunk size : ℕ} {amount : ℕ → ℕ} (src : Bytes) (hchunk : 0 < chunk)
    (hlast : ∀ k, chunk * k < size → chunk * k ≤ devPltCfgOemPartitionSize - chunk)
    (hamount : ∀ offset, min size (offset + chunk) - offset ≤ amount offset) {n k : ℕ} {m : Bytes}
    (hk : size ≤ chunk * (k + n)) (hdone : SameBytes m src 0 (min size (chunk * k))) :
    ∃ result, runLoop (transferChunk chunk amount src size) (n + 1) (chunk * k, m) =
      some (.success, result) ∧ SameBytes result src 0 size := by
  induction n generalizing k m with
  | zero =>
    rw [Nat.add_zero] at hk
    refine ⟨m, runLoop_succ_of_inr ?_ 0, fun i hi hlt => hdone i hi (by omega)⟩
    rw [transferChunk, if_neg (by omega)]
  | succ n ih =>
    by_cases hlt : chunk * k < size
    · have hnext : chunk * k + chunk = chunk * (k + 1) := (Nat.mul_succ chunk k).symm
      have hstep : transferChunk chunk amount src size (chunk * k, m) =
          .inl (chunk * (k + 1), copy m (chunk * k) (amount (chunk * k))
            (view src (chunk * k))) := by
        have hbound := hlast k hlt
        rw [transferChunk, if_pos hlt, if_neg (by omega), hnext]
      have hmore : SameBytes (copy m (chunk * k) (amount (chunk * k)) (view src (chunk * k))) src 0
          (min size (chunk * (k + 1))) := by
        intro i _ hi
        have hcovers := hamount (chunk * k)
        rw [hnext] at hcovers
        by_cases hold : i < chunk * k
        · rw [copy_apply_of_notMem (Or.inl hold)]
          exact hdone i (Nat.zero_le i) (by omega)
        · obtain ⟨j, rfl⟩ : ∃ j, i = chunk * k + j := ⟨i - chunk * k, by omega⟩
          rw [copy_apply_add (by omega), view_apply]
      obtain ⟨result, hrun, hsame⟩ := ih (by rw [Nat.add_assoc, Nat.add_comm 1 n]; exact hk) hmore
      exact ⟨result, by rw [runLoop_succ_of_inl hstep]; exact hrun, hsame⟩
    · refine ⟨m, runLoop_succ_of_inr ?_ _, fun i hi hi' => hdone i hi (by omega)⟩
      rw [transferChunk, if_neg hlt]

/-- A transfer of data that fits in the partition, in chunks that divide it, transfers the data. -/
private theorem transfer_spec {chunk size : ℕ} {amount : ℕ → ℕ} (src m : Bytes)
    (hdvd : ∃ n, devPltCfgOemPartitionSize = chunk * n) (hsize : size ≤ devPltCfgOemPartitionSize)
    (hamount : ∀ offset, min size (offset + chunk) - offset ≤ amount offset) :
    ∃ result, transfer chunk amount src size m = (.success, result) ∧
      SameBytes result src 0 size := by
  obtain ⟨n, hn⟩ := hdvd
  have hchunk : 0 < chunk := by
    rcases Nat.eq_zero_or_pos chunk with rfl | hpos
    · rw [Nat.zero_mul] at hn
      cases hn
    · exact hpos
  have hlast : ∀ k, chunk * k < size → chunk * k ≤ devPltCfgOemPartitionSize - chunk := by
    intro k hk
    have hlt : k < n := Nat.lt_of_mul_lt_mul_left (lt_of_lt_of_le hk (hn ▸ hsize))
    have hle : chunk * (k + 1) ≤ chunk * n := Nat.mul_le_mul_left chunk hlt
    rw [Nat.mul_succ] at hle
    omega
  obtain ⟨result, hrun, hsame⟩ := transfer_run src hchunk hlast hamount (n := n) (k := 0) (m := m)
    (by rw [Nat.zero_add, ← hn]; exact hsize) fun i _ hi => by omega
  refine ⟨result, ?_, hsame⟩
  have hbound : transferBound chunk = n + 1 := by
    rw [transferBound, hn, Nat.mul_div_cancel_left n hchunk]
  rw [transfer, hbound, ← Nat.mul_zero chunk, hrun, Option.getD_some]

/-- What is read is the first bytes of the partition. -/
theorem readPartition_spec (heap partition : Bytes) {size : ℕ}
    (hsize : size ≤ devPltCfgOemPartitionSize) :
    ∃ buffer, readPartition heap partition size = (.success, buffer) ∧
      SameBytes buffer partition 0 size := by
  refine transfer_spec partition _ ⟨512, by decide⟩ hsize fun offset => ?_
  split_ifs <;> omega

/-- What is written is the first bytes of the data. -/
theorem writePartition_spec (config partition : Bytes) {size : ℕ}
    (hsize : size ≤ devPltCfgOemPartitionSize) :
    ∃ written, writePartition config size partition = (.success, written) ∧
      SameBytes written config 0 size :=
  transfer_spec config partition ⟨1024, by decide⟩ hsize fun offset => by omega

end IxpDimm
