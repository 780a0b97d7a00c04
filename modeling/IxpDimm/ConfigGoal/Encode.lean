import IxpDimm.Foundation.Packed
import IxpDimm.ConfigGoal.InterleaveFormat
import IxpDimm.ConfigGoal.Validate
import IxpDimm.Device.Inventory
import IxpDimm.PlatformConfig.Layout
import Mathlib.Data.List.Sort

/-!
# From a config goal to a config input table

`config_goal_to_config_input` and what it calls.  A config input table holds a partition size change
table and a table for each App Direct interleave set, which in turn holds an entry for each DIMM of
the set.  They are structures here, with the fields that are not left zero; `bytes` is the packed
structure that the source fills out.

Memory is always there, and `*pp_input_table` is null, as it is in every call.
-/

namespace IxpDimm

open Foundation

/-! ### Extension tables -/

/-- `struct partition_size_change_extension_table`. -/
structure PartitionSizeChangeExtensionTable where
  /-- PM partition size in bytes. -/
  partitionSize : UInt64
  deriving DecidableEq, Repr

/-- `sizeof (struct partition_size_change_extension_table)`. -/
def partitionSizeChangeTableSize : ℕ := 16

/-- The packed structure: type, length, status and partition size. -/
def PartitionSizeChangeExtensionTable.bytes (table : PartitionSizeChangeExtensionTable) :
    List UInt8 :=
  leList 2 partitionChangeTable ++ leList 2 partitionSizeChangeTableSize ++ leList 4 0 ++
    leList 8 table.partitionSize.toNat

/-- `dimm_identifier`, of table revision 1 or later. -/
inductive DimmIdentifier
  | v1 (manufacturer serialNumber partNumber : List UInt8)
  | v2 (uid : List UInt8)
  deriving DecidableEq, Repr

/-- The packed union. -/
def DimmIdentifier.bytes : DimmIdentifier → List UInt8
  | v1 manufacturer serialNumber partNumber =>
    manufacturer ++ serialNumber ++ partNumber ++ List.replicate 6 0
  | v2 uid => uid ++ List.replicate 23 0

/-- `struct dimm_info_extension_table`. -/
structure DimmInfoExtensionTable where
  /-- The DIMM. -/
  dimmIdentifier : DimmIdentifier
  /-- Offset from the base of the partition, in bytes. -/
  offset : UInt64
  /-- Size of the DIMM in the interleave set, in bytes. -/
  size : UInt64
  deriving DecidableEq, Repr

/-- `sizeof (struct dimm_info_extension_table)`. -/
def dimmInfoTableSize : ℕ := 48

/-- The packed structure: identifier, offset and size. -/
def DimmInfoExtensionTable.bytes (table : DimmInfoExtensionTable) : List UInt8 :=
  table.dimmIdentifier.bytes ++ leList 8 table.offset.toNat ++ leList 8 table.size.toNat

/-- `INTERLEAVE_MEMORY_TYPE_MEMORY`. -/
def interleaveMemoryTypeMemory : UInt8 := 1

/-- `INTERLEAVE_MEMORY_TYPE_APP_DIRECT`. -/
def interleaveMemoryTypeAppDirect : UInt8 := 2

/-- `struct interleave_info_extension_table` with its DIMMs. -/
structure InterleaveInfoExtensionTable where
  /-- The index of the interleave set. -/
  index : UInt16
  /-- The number of DIMMs. -/
  dimmCount : UInt8
  /-- The memory mode. -/
  memoryType : UInt8 := 0
  /-- The interleave format of the BIOS. -/
  interleaveFormat : UInt32
  /-- Whether the set is mirrored. -/
  mirrorEnable : Bool
  /-- The DIMMs of the set. -/
  dimms : List DimmInfoExtensionTable
  deriving DecidableEq, Repr

/-- `sizeof (struct interleave_info_extension_table)`. -/
def interleaveInfoTableSize : ℕ := 24

/-- `header.length` of an interleave table. -/
def InterleaveInfoExtensionTable.length (table : InterleaveInfoExtensionTable) : ℕ :=
  interleaveInfoTableSize + dimmInfoTableSize * table.dimms.length

/-- The packed structure: type, length, index, number of DIMMs, memory type, format, mirroring,
eleven bytes that stay zero, and the DIMMs. -/
def InterleaveInfoExtensionTable.bytes (table : InterleaveInfoExtensionTable) : List UInt8 :=
  leList 2 interleaveTable ++ leList 2 table.length ++ leList 2 table.index.toNat ++
    [table.dimmCount, table.memoryType] ++ leList 4 table.interleaveFormat.toNat ++
    [if table.mirrorEnable then 1 else 0] ++ List.replicate 11 0 ++
    table.dimms.flatMap DimmInfoExtensionTable.bytes

/-! ### The DIMMs of an interleave set -/

/-- The first entries of `dimms`, one for each way. -/
def AppDirectAttributes.setDimms (qos : AppDirectAttributes) : List Uid :=
  (List.range qos.interleave.ways.count).map fun i => qos.dimms.getD i []

/-- `get_devices_from_appdirect_attributes`. -/
def getDevicesFromAppdirectAttributes (platform : Platform) :
    List Uid → Except ReturnCode (List DeviceDiscovery)
  | [] => .ok []
  | uid :: uids =>
    match existsAndManageable platform uid with
    | .error rc => .error rc
    | .ok device =>
      match getDevicesFromAppdirectAttributes platform uids with
      | .error rc => .error rc
      | .ok devices => .ok (device :: devices)

/-- `interleave_request_across_socket`. -/
def interleaveRequestAcrossSocket : List DeviceDiscovery → Bool
  | [] => false
  | device :: devices => devices.any fun d => d.socketId ≠ device.socketId

/-- `dimms_are_across_controllers`. -/
def dimmsAreAcrossControllers : List DeviceDiscovery → Bool
  | [] => false
  | device :: devices => devices.any fun d => d.memoryControllerId ≠ device.memoryControllerId

/-- `dimms_across_controllers_and_channels_match`. -/
def dimmsAcrossControllersAndChannelsMatch (devices : List DeviceDiscovery) : Bool :=
  !devices.isEmpty && devices.all fun i => devices.any fun j =>
    i.channelId = j.channelId && i.memoryControllerId ≠ j.memoryControllerId

/-- `verify_interleave_set_rules`. -/
def verifyInterleaveSetRules (devices : List DeviceDiscovery) : ReturnCode :=
  if interleaveRequestAcrossSocket devices then .errConfigNotSupported
  else
    match devices.length with
    | 1 => .success
    | 2 =>
      if dimmsAreAcrossControllers devices ∧ ¬ dimmsAcrossControllersAndChannelsMatch devices then
        .errConfigNotSupported
      else .success
    | 3 => if dimmsAreAcrossControllers devices then .errConfigNotSupported else .success
    | 4 =>
      if ¬ dimmsAcrossControllersAndChannelsMatch devices then .errConfigNotSupported else .success
    | 6 => .success
    | _ => .errUnknown

/-- `compare_dimm_order_in_interleave_set`. -/
def compareDimmOrderInInterleaveSet (first second : DeviceDiscovery) : Int :=
  if first.channelId < second.channelId then -1
  else if first.channelId > second.channelId then 1
  else if first.memoryControllerId < second.memoryControllerId then -1
  else if first.memoryControllerId > second.memoryControllerId then 1
  else 0

/-- The parity that `compare_dimm_order_six_way_interleave_set` looks at. -/
def channelParity (device : DeviceDiscovery) : ℕ :=
  (device.channelId.toNat + device.memoryControllerId.toNat) % 2

/-- `compare_dimm_order_six_way_interleave_set`. -/
def compareDimmOrderSixWayInterleaveSet (first second : DeviceDiscovery) : Int :=
  if channelParity first < channelParity second then -1
  else if channelParity first > channelParity second then 1
  else if first.channelId < second.channelId then -1
  else if first.channelId > second.channelId then 1
  else 0

/-- `arrange_devices_in_interleave_set_for_pcat2`. -/
def arrangeDevicesInInterleaveSetForPcat2 (devices : List DeviceDiscovery) : List DeviceDiscovery :=
  if devices.length ≤ 4 then
    devices.mergeSort fun a b => compareDimmOrderInInterleaveSet a b ≤ 0
  else if devices.length = 6 then
    devices.mergeSort fun a b => compareDimmOrderSixWayInterleaveSet a b ≤ 0
  else devices

/-- The identifier of a device in a table of a revision. -/
def dimmIdentifierOf (pcdTableRevision : UInt8) (device : DeviceDiscovery) : DimmIdentifier :=
  if pcdTableRevision = 1 then
    .v1 device.manufacturer.toList device.serialNumber.toList (device.partNumber.toList.take 20)
  else .v2 (deviceUidStringToBytes device.uid)

/-- `populate_dimm_info_extension_table`. -/
def populateDimmInfoExtensionTable (pcdTableRevision : UInt8) (devices : List DeviceDiscovery)
    (interleaveSetSize interleaveSetOffset : UInt64) : List DimmInfoExtensionTable :=
  devices.map fun device =>
    { dimmIdentifier := dimmIdentifierOf pcdTableRevision device
      offset := interleaveSetOffset * bytesPerGiB
      size := interleaveSetSize * bytesPerGiB }

/-- The devices of an interleave set in the order of its table. -/
def devicesOfSet (platform : Platform) (qos : AppDirectAttributes) (pcatRevision : UInt8) :
    Except ReturnCode (List DeviceDiscovery) :=
  match getDevicesFromAppdirectAttributes platform qos.setDimms with
  | .error rc => .error rc
  | .ok devices =>
    match verifyInterleaveSetRules devices with
    | .success =>
      if pcatRevision = 1 then .ok devices
      else if pcatRevision = 2 then .ok (arrangeDevicesInInterleaveSetForPcat2 devices)
      else .error .errUnknown
    | rc => .error rc

/-- `populate_dimm_info_extension_tables`. -/
def populateDimmInfoExtensionTables (platform : Platform) (qos : AppDirectAttributes)
    (pcatRevision pcdTableRevision : UInt8) (interleaveSetSize interleaveSetOffset : UInt64) :
    Except ReturnCode (List DimmInfoExtensionTable) :=
  (devicesOfSet platform qos pcatRevision).map fun devices =>
    populateDimmInfoExtensionTable pcdTableRevision devices interleaveSetSize interleaveSetOffset

/-- `config_goal_to_interleave_ext_table`. -/
def configGoalToInterleaveExtTable (platform : Platform) (qos : AppDirectAttributes)
    (interleaveSetSize interleaveSetOffset : UInt64) (interleaveSetId : UInt16)
    (tableRevision : UInt8) : Except ReturnCode InterleaveInfoExtensionTable :=
  match platform.getPcatRevision with
  | .error rc => .error rc
  | .ok pcatRevision =>
    (populateDimmInfoExtensionTables platform qos pcatRevision tableRevision interleaveSetSize
      interleaveSetOffset).map fun dimms =>
        { index := interleaveSetId
          dimmCount := UInt8.ofNat qos.interleave.ways.count
          interleaveFormat := interleaveStructToFormat qos.interleave
          mirrorEnable := qos.mirrored
          dimms := dimms }

/-! ### The config input table -/

/-- `struct config_input_table` with its extension tables. -/
structure ConfigInputTable where
  /-- `header.revision`. -/
  revision : UInt8
  /-- `sequence_number`. -/
  sequenceNumber : UInt32
  /-- The partition size change table. -/
  partitionTable : PartitionSizeChangeExtensionTable
  /-- The tables of the App Direct interleave sets. -/
  interleaveTables : List InterleaveInfoExtensionTable
  deriving DecidableEq, Repr

/-- `header.length` of a config input table. -/
def ConfigInputTable.length (table : ConfigInputTable) : ℕ :=
  TableKind.configInput.structSize + partitionSizeChangeTableSize +
    (table.interleaveTables.map InterleaveInfoExtensionTable.length).sum

/-- The packed structure before its checksum: the header with signature, length, revision, checksum,
`"INTEL "`, `"PURLEY  "`, the revisions and `"INTL"`, then the sequence number, eight bytes that stay
zero, and the extension tables. -/
def ConfigInputTable.bytes (table : ConfigInputTable) : List UInt8 :=
  TableKind.configInput.signature ++ leList 4 table.length ++ [table.revision, 0] ++
    [0x49, 0x4E, 0x54, 0x45, 0x4C, 0x20] ++
    [0x50, 0x55, 0x52, 0x4C, 0x45, 0x59, 0x20, 0x20] ++ leList 4 2 ++ [0x49, 0x4E, 0x54, 0x4C] ++
    leList 4 0 ++ leList 4 table.sequenceNumber.toNat ++ List.replicate 8 0 ++
    table.partitionTable.bytes ++ table.interleaveTables.flatMap InterleaveInfoExtensionTable.bytes

/-- `config_goal_to_partition_ext_table`. -/
def configGoalToPartitionExtTable (goal : ConfigGoal) (discovery : DeviceDiscovery) :
    PartitionSizeChangeExtensionTable where
  partitionSize :=
    if goal.memorySize = remainingSize then 0
    else if goal.memorySize = 0 then discovery.capacity
    else usableCapacityBytes discovery.capacity - goal.memorySize * bytesPerGiB

/-- `remaining_bytes` of `config_goal_to_config_input`, before the interleave sets. -/
def remainingForAppDirect (goal : ConfigGoal) (discovery : DeviceDiscovery) : UInt64 :=
  if goal.memorySize ≠ 0 then
    discovery.capacity - goal.memorySize * bytesPerGiB - reservedCapacityBytes discovery.capacity
  else discovery.capacity

/-- The table of an App Direct interleave set. -/
def appDirectTable (platform : Platform) (qos : AppDirectAttributes) (sizeGiB offsetGiB : UInt64)
    (setId : UInt16) (tableRevision : UInt8) : Except ReturnCode InterleaveInfoExtensionTable :=
  (configGoalToInterleaveExtTable platform qos sizeGiB offsetGiB setId tableRevision).map fun table =>
    { table with memoryType := interleaveMemoryTypeAppDirect }

/-- The interleave tables of `config_goal_to_config_input`.  The second set starts at the requested
size of the first. -/
def appDirectTables (platform : Platform) (goal : ConfigGoal) (discovery : DeviceDiscovery)
    (tableRevision : UInt8) : Except ReturnCode (List InterleaveInfoExtensionTable) :=
  if goal.appDirectCount > 0 then
    let remainingBytes := remainingForAppDirect goal discovery
    let ad1GiB := getSizeFromCapacity goal.appDirect1Size remainingBytes
      goal.appDirect1Settings.mirrored
    match appDirectTable platform goal.appDirect1Settings ad1GiB 0 goal.appDirect1SetId
        tableRevision with
    | .error rc => .error rc
    | .ok table1 =>
      let remainingBytes := remainingBytes - ad1GiB * bytesPerGiB
      if goal.appDirectCount > 1 then
        let ad2GiB := getSizeFromCapacity goal.appDirect2Size remainingBytes
          goal.appDirect2Settings.mirrored
        match appDirectTable platform goal.appDirect2Settings ad2GiB goal.appDirect1Size
            goal.appDirect2SetId tableRevision with
        | .error rc => .error rc
        | .ok table2 => .ok [table1, table2]
      else .ok [table1]
  else .ok []

/-- `config_goal_to_config_input`. -/
def configGoalToConfigInput (platform : Platform) (goal : ConfigGoal) (discovery : DeviceDiscovery)
    (seqNum : UInt32) (tableRevision : UInt8) : Except ReturnCode ConfigInputTable :=
  (appDirectTables platform goal discovery tableRevision).map fun tables =>
    { revision := tableRevision
      sequenceNumber := seqNum
      partitionTable := configGoalToPartitionExtTable goal discovery
      interleaveTables := tables }

/-! ### What the tables hold -/

/-- The interleave sets that the rules allow have one, two, three, four or six DIMMs. -/
theorem length_of_verifyInterleaveSetRules {devices : List DeviceDiscovery}
    (h : verifyInterleaveSetRules devices = .success) :
    0 < devices.length ∧ devices.length ≤ 6 := by
  unfold verifyInterleaveSetRules at h
  split at h
  · cases h
  · split at h <;> first | omega | cases h

/-- Arranging the devices of an interleave set keeps them. -/
theorem perm_arrangeDevices (devices : List DeviceDiscovery) :
    (arrangeDevicesInInterleaveSetForPcat2 devices).Perm devices := by
  unfold arrangeDevicesInInterleaveSetForPcat2
  split_ifs
  · exact List.mergeSort_perm _ _
  · exact List.mergeSort_perm _ _
  · exact List.Perm.refl _

/-- As many devices are found as there are unique ids. -/
theorem length_getDevices {platform : Platform} {uids : List Uid} {devices : List DeviceDiscovery}
    (h : getDevicesFromAppdirectAttributes platform uids = .ok devices) :
    devices.length = uids.length := by
  induction uids generalizing devices with
  | nil =>
    obtain rfl := Except.ok.inj h
    rfl
  | cons uid uids ih =>
    unfold getDevicesFromAppdirectAttributes at h
    split at h
    · cases h
    · split at h
      · cases h
      · next hrest =>
        obtain rfl := Except.ok.inj h
        rw [List.length_cons, List.length_cons, ih hrest]

/-- The devices of an interleave set are those of its DIMMs, of which there are between one and
six. -/
theorem devicesOfSet_ok {platform : Platform} {qos : AppDirectAttributes} {pcatRevision : UInt8}
    {devices : List DeviceDiscovery} (h : devicesOfSet platform qos pcatRevision = .ok devices) :
    ∃ found, getDevicesFromAppdirectAttributes platform qos.setDimms = .ok found ∧
      devices.Perm found ∧ devices.length = qos.interleave.ways.count ∧ 0 < devices.length ∧
      devices.length ≤ 6 := by
  unfold devicesOfSet at h
  cases hfound : getDevicesFromAppdirectAttributes platform qos.setDimms with
  | error rc =>
    rw [hfound] at h
    cases h
  | ok found =>
    rw [hfound] at h
    dsimp only at h
    split at h
    · next hrules =>
      have hlength := length_of_verifyInterleaveSetRules hrules
      have hways : found.length = qos.interleave.ways.count := by
        rw [length_getDevices hfound, AppDirectAttributes.setDimms, List.length_map,
          List.length_range]
      have hperm : devices.Perm found := by
        split_ifs at h
        · obtain rfl := Except.ok.inj h
          exact List.Perm.refl _
        · obtain rfl := Except.ok.inj h
          exact perm_arrangeDevices found
      rw [← hperm.length_eq] at hlength hways
      exact ⟨found, rfl, hperm, hways, hlength⟩
    · cases h

/-- The table of an App Direct interleave set. -/
def tableOfSet (qos : AppDirectAttributes) (sizeGiB offsetGiB : UInt64) (setId : UInt16)
    (tableRevision : UInt8) (devices : List DeviceDiscovery) : InterleaveInfoExtensionTable where
  index := setId
  dimmCount := UInt8.ofNat qos.interleave.ways.count
  memoryType := interleaveMemoryTypeAppDirect
  interleaveFormat := interleaveStructToFormat qos.interleave
  mirrorEnable := qos.mirrored
  dimms := populateDimmInfoExtensionTable tableRevision devices sizeGiB offsetGiB

/-- The devices of a set on a platform. -/
def SetDevices (platform : Platform) (qos : AppDirectAttributes) (devices : List DeviceDiscovery) :
    Prop :=
  ∃ pcatRevision, platform.getPcatRevision = .ok pcatRevision ∧
    devicesOfSet platform qos pcatRevision = .ok devices

section Tables

variable {platform : Platform} {goal : ConfigGoal} {discovery : DeviceDiscovery}
  {tableRevision : UInt8}

/-- The table of a set lists its devices. -/
theorem appDirectTable_eq_ok_iff {qos : AppDirectAttributes} {sizeGiB offsetGiB : UInt64}
    {setId : UInt16} {table : InterleaveInfoExtensionTable} :
    appDirectTable platform qos sizeGiB offsetGiB setId tableRevision = .ok table ↔
      ∃ devices, SetDevices platform qos devices ∧
        table = tableOfSet qos sizeGiB offsetGiB setId tableRevision devices := by
  unfold appDirectTable configGoalToInterleaveExtTable SetDevices populateDimmInfoExtensionTables
  cases platform.getPcatRevision with
  | error rc => simp [Except.map]
  | ok pcatRevision =>
    cases hdevices : devicesOfSet platform qos pcatRevision with
    | error rc => simp [hdevices, Except.map]
    | ok devices =>
      simp [hdevices, Except.map, tableOfSet, eq_comm]

/-- The size of the first interleave set in its table, in GiB. -/
def firstSetGiB (goal : ConfigGoal) (discovery : DeviceDiscovery) : UInt64 :=
  getSizeFromCapacity goal.appDirect1Size (remainingForAppDirect goal discovery)
    goal.appDirect1Settings.mirrored

/-- The size of the second interleave set in its table, in GiB. -/
def secondSetGiB (goal : ConfigGoal) (discovery : DeviceDiscovery) : UInt64 :=
  getSizeFromCapacity goal.appDirect2Size
    (remainingForAppDirect goal discovery - firstSetGiB goal discovery * bytesPerGiB)
    goal.appDirect2Settings.mirrored

/-- The table of the first interleave set. -/
def firstTable (goal : ConfigGoal) (discovery : DeviceDiscovery) (tableRevision : UInt8)
    (devices : List DeviceDiscovery) : InterleaveInfoExtensionTable :=
  tableOfSet goal.appDirect1Settings (firstSetGiB goal discovery) 0 goal.appDirect1SetId
    tableRevision devices

/-- The table of the second interleave set. -/
def secondTable (goal : ConfigGoal) (discovery : DeviceDiscovery) (tableRevision : UInt8)
    (devices : List DeviceDiscovery) : InterleaveInfoExtensionTable :=
  tableOfSet goal.appDirect2Settings (secondSetGiB goal discovery) goal.appDirect1Size
    goal.appDirect2SetId tableRevision devices

/-- The interleave tables of a goal, by the number of its interleave sets. -/
inductive GoalTables (platform : Platform) (goal : ConfigGoal) (discovery : DeviceDiscovery)
    (tableRevision : UInt8) : List InterleaveInfoExtensionTable → Prop
  /-- No interleave set. -/
  | none : goal.appDirectCount = 0 → GoalTables platform goal discovery tableRevision []
  /-- One interleave set. -/
  | one {devices : List DeviceDiscovery} : goal.appDirectCount = 1 →
      SetDevices platform goal.appDirect1Settings devices →
      GoalTables platform goal discovery tableRevision
        [firstTable goal discovery tableRevision devices]
  /-- Two interleave sets. -/
  | two {devices₁ devices₂ : List DeviceDiscovery} : 1 < goal.appDirectCount →
      SetDevices platform goal.appDirect1Settings devices₁ →
      SetDevices platform goal.appDirect2Settings devices₂ →
      GoalTables platform goal discovery tableRevision
        [firstTable goal discovery tableRevision devices₁,
          secondTable goal discovery tableRevision devices₂]

/-- What a config input table is made of. -/
theorem configGoalToConfigInput_ok {seqNum : UInt32} {table : ConfigInputTable}
    (h : configGoalToConfigInput platform goal discovery seqNum tableRevision = .ok table) :
    ∃ tables, GoalTables platform goal discovery tableRevision tables ∧
      table = ⟨tableRevision, seqNum, configGoalToPartitionExtTable goal discovery, tables⟩ := by
  unfold configGoalToConfigInput at h
  cases htables : appDirectTables platform goal discovery tableRevision with
  | error rc =>
    rw [htables] at h
    cases h
  | ok tables =>
    rw [htables] at h
    refine ⟨tables, ?_, (Except.ok.inj h).symm⟩
    unfold appDirectTables at htables
    dsimp only at htables
    split_ifs at htables with hpos htwo
    · split at htables
      · cases htables
      · next hfirst =>
        obtain ⟨devices₁, hdevices₁, rfl⟩ := appDirectTable_eq_ok_iff.mp hfirst
        split at htables
        · cases htables
        · next hsecond =>
          obtain ⟨devices₂, hdevices₂, rfl⟩ := appDirectTable_eq_ok_iff.mp hsecond
          obtain rfl := Except.ok.inj htables
          exact .two htwo hdevices₁ hdevices₂
    · split at htables
      · cases htables
      · next hfirst =>
        obtain ⟨devices, hdevices, rfl⟩ := appDirectTable_eq_ok_iff.mp hfirst
        obtain rfl := Except.ok.inj htables
        refine .one (UInt16.toNat_inj.mp ?_) hdevices
        have hle := UInt16.not_lt.mp htwo
        rw [UInt16.le_iff_toNat_le] at hle
        have hlt : 0 < goal.appDirectCount.toNat := UInt16.lt_iff_toNat_lt.mp hpos
        exact Nat.le_antisymm hle hlt
    · obtain rfl := Except.ok.inj htables
      refine .none (UInt16.toNat_inj.mp ?_)
      have hle := UInt16.not_lt.mp hpos
      rw [UInt16.le_iff_toNat_le] at hle
      exact Nat.le_zero.mp hle

end Tables

end IxpDimm
