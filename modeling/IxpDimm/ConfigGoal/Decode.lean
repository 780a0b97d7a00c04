import IxpDimm.ConfigGoal.Encode
import IxpDimm.Foundation.WhileLoop

/-!
# From a config input table to a config goal

`config_input_table_to_config_goal` and what it calls: the walk over the extension tables of a config
input table that fills out a config goal.  It starts from a zeroed goal and takes the first interleave
set whose size is not zero as the first one.

The device is known to `nvm_get_device_discovery` when it is to `lookup_dev_uid`.  Offsets are 32-bit
numbers.
-/

namespace IxpDimm

open Foundation

/-! ### The DIMMs of an interleave set -/

/-- `get_device_uid_from_dimm_interleave_info_table` into an entry of `dimms`; the entry stays as it is
when no device matches. -/
def getDeviceUidFromDimmInterleaveInfoTable (platform : Platform) (dimm : Bytes) (revision : UInt8)
    (old : Uid) : Uid :=
  if revision = 1 then
    match lookupDevManufacturerSerialPart platform dimm (view dimm 2) (view dimm 6) with
    | .error _ => old
    | .ok device => device.uid
  else deviceUidBytesToString dimm

/-- An entry of `dimms` is overwritten. -/
def setEntry (dimms : List Uid) (i : ℕ) (uid : Uid) : List Uid :=
  if i < dimms.length then dimms.set i uid
  else dimms ++ List.replicate (i - dimms.length) [] ++ [uid]

/-- The loop over the DIMMs of an interleave set, with `n` of them left: the return code, the entries
of `dimms` and the size of the set. -/
def decodeDimms (platform : Platform) (deviceUid : Uid) (table : Bytes) (tableLength : ℕ) :
    ℕ → ℕ → ℕ → List Uid → UInt64 → ReturnCode × List Uid × UInt64
  | 0, _, _, dimms, size => (.success, dimms, size)
  | n + 1, i, setOffset, dimms, size =>
    if setOffset > tableLength then (.errBadDeviceConfig, dimms, size)
    else
      let dimm := view table setOffset
      let uid := getDeviceUidFromDimmInterleaveInfoTable platform dimm (headerRevision table)
        (dimms.getD i [])
      let size := if uidCmp uid deviceUid then UInt64.ofNat (readLE dimm 40 8) / bytesPerGiB else size
      decodeDimms platform deviceUid table tableLength n (i + 1) (setOffset + dimmInfoTableSize)
        (setEntry dimms i uid) size

/-! ### Extension tables -/

/-- `index` of an interleave table. -/
def interleaveIndex (entry : Bytes) : UInt16 := UInt16.ofNat (readLE entry 4 2)

/-- The attributes of an interleave set with the mirroring and the format of its table. -/
def decodeSettings (entry : Bytes) (old : AppDirectAttributes) : AppDirectAttributes :=
  { old with
    mirrored := entry 12 ≠ 0
    interleave := interleaveFormatToStruct (UInt32.ofNat (readLE entry 8 4)) old.interleave }

/-- The part of `config_input_table_to_config_goal` for an App Direct interleave table. -/
def decodeAppDirect (platform : Platform) (deviceUid : Uid) (table : Bytes)
    (tableLength offset : ℕ) (goal : ConfigGoal) : ReturnCode × ConfigGoal :=
  let entry := view table offset
  let dimmCount := (entry 6).toNat
  let setOffset := (offset + interleaveInfoTableSize) % 2 ^ 32
  if goal.appDirect1Size ≠ 0 then
    if goal.appDirect2Size ≠ 0 then (.errBadDeviceConfig, goal)
    else
      let qos := decodeSettings entry goal.appDirect2Settings
      let (rc, dimms, size) := decodeDimms platform deviceUid table tableLength dimmCount 0 setOffset
        qos.dimms goal.appDirect2Size
      (rc, { goal with
        appDirectCount := 2
        appDirect2SetId := interleaveIndex entry
        appDirect2Settings := { qos with dimms := dimms }
        appDirect2Size := size })
  else
    let qos := decodeSettings entry goal.appDirect1Settings
    let (rc, dimms, size) := decodeDimms platform deviceUid table tableLength dimmCount 0 setOffset
      qos.dimms goal.appDirect1Size
    (rc, { goal with
      appDirectCount := 1
      appDirect1SetId := interleaveIndex entry
      appDirect1Settings := { qos with dimms := dimms }
      appDirect1Size := size })

/-- The part of `config_input_table_to_config_goal` for a partition size change table. -/
def decodePartition (platform : Platform) (deviceUid : Uid) (entry : Bytes) (goal : ConfigGoal) :
    ReturnCode × ConfigGoal :=
  match lookupDevUid platform deviceUid with
  | .error rc => (rc, goal)
  | .ok discovery =>
    let partitionSize := UInt64.ofNat (readLE entry 8 8)
    let memorySize := usableCapacityBytes discovery.capacity / bytesPerGiB
    (.success, { goal with
      memorySize := if partitionSize ≠ 0 then memorySize - partitionSize / bytesPerGiB
        else memorySize })

/-- The part of `config_input_table_to_config_goal` for one extension table. -/
def decodeExtension (platform : Platform) (deviceUid : Uid) (table : Bytes)
    (tableLength offset : ℕ) (goal : ConfigGoal) : ReturnCode × ConfigGoal :=
  let entry := view table offset
  if extensionType table offset = partitionChangeTable then
    decodePartition platform deviceUid entry goal
  else if extensionType table offset = interleaveTable then
    if entry 7 = interleaveMemoryTypeAppDirect then
      decodeAppDirect platform deviceUid table tableLength offset goal
    else if entry 7 ≠ interleaveMemoryTypeMemory then (.errBadDeviceConfig, goal)
    else (.success, goal)
  else (.success, goal)

/-- One pass of the loop of `config_input_table_to_config_goal`. -/
def decodeEntry (platform : Platform) (deviceUid : Uid) (table : Bytes) (tableLength : ℕ) :
    ℕ × ConfigGoal → (ℕ × ConfigGoal) ⊕ (ReturnCode × ConfigGoal)
  | (offset, goal) =>
    if offset < tableLength then
      let next := (offset + extensionLength table offset) % 2 ^ 32
      if next > tableLength then .inr (.errBadDeviceConfig, goal)
      else
        match decodeExtension platform deviceUid table tableLength offset goal with
        | (.success, goal) => .inl (next, goal)
        | (rc, goal) => .inr (rc, goal)
    else .inr (.success, goal)

/-- `config_input_table_to_config_goal`. -/
def configInputTableToConfigGoal (fuel : ℕ) (platform : Platform) (deviceUid : Uid) (table : Bytes)
    (extTableOffset tableLength : ℕ) (goal : ConfigGoal) : Option (ReturnCode × ConfigGoal) :=
  runLoop (decodeEntry platform deviceUid table tableLength) fuel (extTableOffset, goal)

end IxpDimm
