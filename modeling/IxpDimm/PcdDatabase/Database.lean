import IxpDimm.ConfigGoal.Encode
import IxpDimm.Foundation.FieldWrites
import IxpDimm.PlatformConfig.Walk

/-!
# The platform config data in the database

`platform_config_data_db.c`: `update_dimm_platform_config_in_db` stores the header, the sub-tables and
the extension tables of the platform config data of a DIMM in one database table for each type, and
`get_dimm_platform_config_data_from_db` builds platform config data from them.  A database table is
the list of its rows, in the order in which they were added; adding, deleting and reading rows
succeeds.

The functions for the three sub-tables are copies of each other, as in the layout of the platform
config data, and are one definition with the kind of table as a parameter.
-/

namespace IxpDimm.PcdDatabase

open Foundation

/-! ### Rows -/

/-- The columns of a header; texts are the numbers of their bytes. -/
structure DbHeader where
  /-- `signature`. -/
  signature : ℕ
  /-- `length`. -/
  length : ℕ
  /-- `revision`. -/
  revision : ℕ
  /-- `checksum`. -/
  checksum : ℕ
  /-- `oem_id`. -/
  oemId : ℕ
  /-- `oem_table_id`. -/
  oemTableId : ℕ
  /-- `oem_revision`. -/
  oemRevision : ℕ
  /-- `creator_id`. -/
  creatorId : ℕ
  /-- `creator_revision`. -/
  creatorRevision : ℕ

/-- `struct db_dimm_platform_config`. -/
structure DbDimmPlatformConfig where
  /-- `device_handle`. -/
  deviceHandle : UInt32
  /-- The header. -/
  header : DbHeader
  /-- `current_config_size`, `config_input_size` and `config_output_size`. -/
  tableSize : TableKind → ℕ
  /-- `current_config_offset`, `config_input_offset` and `config_output_offset`. -/
  tableOffset : TableKind → ℕ

/-- `struct db_dimm_current_config`, `struct db_dimm_config_input` and
`struct db_dimm_config_output`. -/
structure DbConfigTable where
  /-- `device_handle`. -/
  deviceHandle : UInt32
  /-- The header. -/
  header : DbHeader
  /-- The columns of the fields behind the header, in their order. -/
  body : List ℕ

/-- `struct db_dimm_partition_change`. -/
structure DbDimmPartitionChange where
  /-- `device_handle`. -/
  deviceHandle : UInt32
  /-- `config_table_type`. -/
  configTableType : TableKind
  /-- `extension_table_type`. -/
  extensionTableType : ℕ
  /-- `length`. -/
  length : ℕ
  /-- `partition_size`. -/
  partitionSize : ℕ
  /-- `status`. -/
  status : ℕ

/-- `struct db_dimm_interleave_set`. -/
structure DbDimmInterleaveSet where
  /-- `device_handle`. -/
  deviceHandle : UInt32
  /-- `config_table_type`. -/
  configTableType : TableKind
  /-- `extension_table_type`. -/
  extensionTableType : ℕ
  /-- `length`. -/
  length : ℕ
  /-- `index_id`. -/
  indexId : ℕ
  /-- `dimm_count`. -/
  dimmCount : ℕ
  /-- `memory_type`. -/
  memoryType : ℕ
  /-- `interleave_format`. -/
  interleaveFormat : ℕ
  /-- `mirror_enable`. -/
  mirrorEnable : ℕ
  /-- `status`. -/
  status : ℕ

/-- `struct db_interleave_set_dimm_info_v1`. -/
structure DbInterleaveSetDimmInfoV1 where
  /-- `config_table_type`. -/
  configTableType : TableKind
  /-- `index_id`. -/
  indexId : ℕ
  /-- `device_handle`. -/
  deviceHandle : UInt32
  /-- `manufacturer`. -/
  manufacturer : ℕ
  /-- `serial_num`. -/
  serialNum : ℕ
  /-- `part_num`, without its terminator. -/
  partNum : List UInt8
  /-- `offset`. -/
  offset : ℕ
  /-- `size`. -/
  size : ℕ

/-- `struct db_interleave_set_dimm_info_v2`. -/
structure DbInterleaveSetDimmInfoV2 where
  /-- `config_table_type`. -/
  configTableType : TableKind
  /-- `index_id`. -/
  indexId : ℕ
  /-- `device_handle`. -/
  deviceHandle : UInt32
  /-- `device_uid`. -/
  deviceUid : Uid
  /-- `offset`. -/
  offset : ℕ
  /-- `size`. -/
  size : ℕ

/-- The tables of the database that hold platform config data. -/
structure PcdDb where
  /-- `dimm_platform_config`. -/
  platformConfigs : List DbDimmPlatformConfig
  /-- `dimm_current_config`, `dimm_config_input` and `dimm_config_output`. -/
  configTables : TableKind → List DbConfigTable
  /-- `dimm_partition_change`. -/
  partitionChanges : List DbDimmPartitionChange
  /-- `dimm_interleave_set`. -/
  interleaveSets : List DbDimmInterleaveSet
  /-- `interleave_set_dimm_info_v1`. -/
  dimmInfosV1 : List DbInterleaveSetDimmInfoV1
  /-- `interleave_set_dimm_info_v2`. -/
  dimmInfosV2 : List DbInterleaveSetDimmInfoV2

/-- The rows of a partition change table that belong to a sub-table of a DIMM. -/
def DbDimmPartitionChange.isOf (handle : UInt32) (kind : TableKind) (row : DbDimmPartitionChange) :
    Bool := row.deviceHandle == handle && row.configTableType == kind

/-- The rows of an interleave set table that belong to a sub-table of a DIMM. -/
def DbDimmInterleaveSet.isOf (handle : UInt32) (kind : TableKind) (row : DbDimmInterleaveSet) :
    Bool := row.deviceHandle == handle && row.configTableType == kind

/-- The DIMMs, of table revision 1, of an interleave set. -/
def DbInterleaveSetDimmInfoV1.isOf (handle : UInt32) (index : ℕ) (kind : TableKind)
    (row : DbInterleaveSetDimmInfoV1) : Bool :=
  row.deviceHandle == handle && row.indexId == index && row.configTableType == kind

/-- The DIMMs of an interleave set. -/
def DbInterleaveSetDimmInfoV2.isOf (handle : UInt32) (index : ℕ) (kind : TableKind)
    (row : DbInterleaveSetDimmInfoV2) : Bool :=
  row.deviceHandle == handle && row.indexId == index && row.configTableType == kind

/-! ### Storing platform config data -/

/-- `clear_dimm_platform_config_from_db`. -/
def clearDimmPlatformConfigFromDb (db : PcdDb) (handle : UInt32) : PcdDb where
  platformConfigs := db.platformConfigs.filter fun row => row.deviceHandle != handle
  configTables kind := (db.configTables kind).filter fun row => row.deviceHandle != handle
  partitionChanges := db.partitionChanges.filter fun row => row.deviceHandle != handle
  interleaveSets := db.interleaveSets.filter fun row => row.deviceHandle != handle
  dimmInfosV1 := db.dimmInfosV1.filter fun row => row.deviceHandle != handle
  dimmInfosV2 := db.dimmInfosV2.filter fun row => row.deviceHandle != handle

/-- The columns of a header. -/
def dbHeader (m : Bytes) : DbHeader where
  signature := readLE m 0 4
  length := readLE m 4 4
  revision := readLE m 8 1
  checksum := readLE m 9 1
  oemId := readLE m 10 6
  oemTableId := readLE m 16 8
  oemRevision := readLE m 24 4
  creatorId := readLE m 28 4
  creatorRevision := readLE m 32 4

/-- The places and sizes of the fields behind the header of a sub-table: `config_status`,
`mapped_memory_capacity` and `mapped_app_direct_capacity`; `sequence_number`; that and
`validation_status`. -/
def bodyPlaces : TableKind → List (ℕ × ℕ)
  | .currentConfig => [(36, 2), (40, 8), (48, 8)]
  | .configInput => [(36, 4)]
  | .configOutput => [(36, 4), (40, 1)]

/-- The columns of the fields behind the header. -/
def dbBody (kind : TableKind) (table : Bytes) : List ℕ :=
  (bodyPlaces kind).map fun place => readLE table place.1 place.2

/-- The row of the partition size change table at an address. -/
def dbPartitionChange (handle : UInt32) (kind : TableKind) (m : Bytes) (a : ℕ) :
    DbDimmPartitionChange where
  deviceHandle := handle
  configTableType := kind
  extensionTableType := partitionChangeTable
  length := extensionLength m a
  partitionSize := readLE m (a + 8) 8
  status := readLE m (a + 4) 4

/-- `update_dimm_partition_size_in_db` for the extension table at an address. -/
def updateDimmPartitionSizeInDb (db : PcdDb) (handle : UInt32) (kind : TableKind) (m : Bytes)
    (a : ℕ) : PcdDb :=
  { db with partitionChanges := db.partitionChanges ++ [dbPartitionChange handle kind m a] }

/-- The bytes of an array up to its first zero, as `s_strcpy` copies them. -/
def cBytes (m : Bytes) (a n : ℕ) : List UInt8 :=
  ((List.range n).map fun i => m (a + i)).takeWhile (· ≠ 0)

/-- The row of the DIMM at an address, in a table of revision 1. -/
def dbDimmInfoV1 (handle : UInt32) (kind : TableKind) (index : ℕ) (m : Bytes) (a : ℕ) :
    DbInterleaveSetDimmInfoV1 where
  configTableType := kind
  indexId := index
  deviceHandle := handle
  manufacturer := readLE m a 2
  serialNum := readLE m (a + 2) 4
  partNum := cBytes m (a + 6) 20
  offset := readLE m (a + 32) 8
  size := readLE m (a + 40) 8

/-- The row of the DIMM at an address. -/
def dbDimmInfoV2 (handle : UInt32) (kind : TableKind) (index : ℕ) (m : Bytes) (a : ℕ) :
    DbInterleaveSetDimmInfoV2 where
  configTableType := kind
  indexId := index
  deviceHandle := handle
  deviceUid := deviceUidBytesToString (view m a)
  offset := readLE m (a + 32) 8
  size := readLE m (a + 40) 8

/-- The row of the interleave table at an address. -/
def dbInterleaveSet (handle : UInt32) (kind : TableKind) (m : Bytes) (a : ℕ) :
    DbDimmInterleaveSet where
  deviceHandle := handle
  configTableType := kind
  extensionTableType := interleaveTable
  length := extensionLength m a
  indexId := readLE m (a + 4) 2
  dimmCount := readLE m (a + 6) 1
  memoryType := readLE m (a + 7) 1
  interleaveFormat := readLE m (a + 8) 4
  mirrorEnable := readLE m (a + 12) 1
  status := readLE m (a + 13) 1

/-- The loop over the DIMMs of the interleave table at an address, with its passes left and the
offset of the next DIMM. -/
def storeDimmsLoop (handle : UInt32) (kind : TableKind) (revision : UInt8) (m : Bytes) (a : ℕ) :
    ℕ → ℕ → PcdDb → ReturnCode × PcdDb
  | 0, _, db => (.success, db)
  | left + 1, offset, db =>
    if extensionLength m a < offset + dimmInfoTableSize then (.errBadDeviceConfig, db)
    else
      let index := readLE m (a + 4) 2
      let db' := if revision = 1 then
          { db with dimmInfosV1 := db.dimmInfosV1 ++ [dbDimmInfoV1 handle kind index m (a + offset)] }
        else
          { db with dimmInfosV2 := db.dimmInfosV2 ++ [dbDimmInfoV2 handle kind index m (a + offset)] }
      storeDimmsLoop handle kind revision m a left (offset + dimmInfoTableSize) db'

/-- `update_dimm_interleave_set_in_db` for the extension table at an address. -/
def updateDimmInterleaveSetInDb (db : PcdDb) (handle : UInt32) (kind : TableKind) (revision : UInt8)
    (m : Bytes) (a : ℕ) : ReturnCode × PcdDb :=
  storeDimmsLoop handle kind revision m a (readLE m (a + 6) 1) interleaveInfoTableSize
    { db with interleaveSets := db.interleaveSets ++ [dbInterleaveSet handle kind m a] }

/-- One pass of the loop in `update_dimm_extension_tables_in_db`, on the 32-bit offset, the return
code and the database. -/
def storeEntry (handle : UInt32) (kind : TableKind) (revision : UInt8) (m : Bytes) (size : ℕ)
    (s : ℕ × ReturnCode × PcdDb) : (ℕ × ReturnCode × PcdDb) ⊕ (ReturnCode × PcdDb) :=
  let (offset, rc, db) := s
  if offset < size ∧ rc = .success then
    if (extensionLength m offset + offset) % 2 ^ 32 > size then .inr (.errBadDeviceConfig, db)
    else
      let stored :=
        if extensionType m offset = partitionChangeTable then
          (.success, updateDimmPartitionSizeInDb db handle kind m offset)
        else if extensionType m offset = interleaveTable then
          updateDimmInterleaveSetInDb db handle kind revision m offset
        else (rc, db)
      .inl ((offset + extensionLength m offset) % 2 ^ 32, stored)
  else .inr (rc, db)

/-- `update_dimm_extension_tables_in_db`. -/
def updateDimmExtensionTablesInDb (fuel : ℕ) (db : PcdDb) (handle : UInt32) (kind : TableKind)
    (revision : UInt8) (m : Bytes) (size : ℕ) : Option (ReturnCode × PcdDb) :=
  runLoop (storeEntry handle kind revision m size) fuel (0, .success, db)

/-- `KEEP_ERROR`. -/
def keepFirst (rc rcNew : ReturnCode) : ReturnCode := if rc = .success then rcNew else rc

/-- What `update_dimm_platform_config_in_db` does for a sub-table: its row is added unless there was
an error before, its extension tables are stored in any case. -/
def storeConfigTable (fuel : ℕ) (handle : UInt32) (m : Bytes) (kind : TableKind)
    (s : ReturnCode × PcdDb) : Option (ReturnCode × PcdDb) :=
  if tableSize kind m ≠ 0 then
    match castTable kind m with
    | none => some s
    | some table =>
      let (rc, db) := s
      let row : DbConfigTable := ⟨handle, dbHeader table, dbBody kind table⟩
      let db' := if rc = .success then
          { db with configTables :=
              Function.update db.configTables kind (db.configTables kind ++ [row]) }
        else db
      if headerLength table > kind.structSize then
        (updateDimmExtensionTablesInDb fuel db' handle kind (headerRevision table)
          (extTables kind table) (headerLength table - kind.structSize)).map fun (rcNew, db'') =>
            (keepFirst rc rcNew, db'')
      else some (rc, db')
  else some s

/-- The row of the header of platform config data. -/
def dbPlatformConfig (handle : UInt32) (m : Bytes) : DbDimmPlatformConfig where
  deviceHandle := handle
  header := dbHeader m
  tableSize kind := tableSize kind m
  tableOffset kind := tableOffset kind m

/-- `update_dimm_platform_config_in_db`, of a database and platform config data that are there. -/
def updateDimmPlatformConfigInDb (fuel : ℕ) (db : PcdDb) (handle : UInt32) (m : Bytes) :
    Option (ReturnCode × PcdDb) :=
  (checkPlatformConfig fuel (some m) (UInt64.ofNat (headerLength m))).bind fun rc =>
    if rc = .success then
      let cleared := clearDimmPlatformConfigFromDb db handle
      let db' := { cleared with
        platformConfigs := cleared.platformConfigs ++ [dbPlatformConfig handle m] }
      (storeConfigTable fuel handle m .configInput (.success, db')).bind fun s =>
        (storeConfigTable fuel handle m .configOutput s).bind fun s =>
          storeConfigTable fuel handle m .currentConfig s
    else some (rc, db)

/-! ### Building platform config data -/

/-- The loop over the rows of the DIMMs of an interleave set, with the size so far, which it returns;
each row is written behind the ones before. -/
def copyDimms {ρ : Type} (write : ρ → Bytes → ℕ → Bytes) (offset size : ℕ) :
    List ρ → ℕ → Bytes → Except ReturnCode ℕ × Bytes
  | [], rc, m => (.ok rc, m)
  | row :: rows, rc, m =>
    if size < (headerLength m + rc) % 2 ^ 32 + dimmInfoTableSize then (.error .errBadDeviceConfig, m)
    else copyDimms write offset size rows (rc + dimmInfoTableSize) (write row m (offset + rc))

/-- A DIMM of table revision 1 is written to an address. -/
def writeDimmV1 (row : DbInterleaveSetDimmInfoV1) (m : Bytes) (a : ℕ) : Bytes :=
  copy (writeFields m a [(40, 8, row.size), (32, 8, row.offset), (0, 2, row.manufacturer),
    (2, 4, row.serialNum)]) (a + 6) 20 (ofList row.partNum)

/-- A DIMM is written to an address. -/
def writeDimmV2 (row : DbInterleaveSetDimmInfoV2) (m : Bytes) (a : ℕ) : Bytes :=
  copy (writeFields m a [(40, 8, row.size), (32, 8, row.offset)]) a 9
    (ofList (deviceUidStringToBytes row.deviceUid))

/-- `get_dimm_interleave_dimms_v1_from_db` into a buffer that is there. -/
def getDimmInterleaveDimmsV1FromDb (db : PcdDb) (handle : UInt32) (kind : TableKind) (index : ℕ)
    (m : Bytes) (offset size : ℕ) : Except ReturnCode ℕ × Bytes :=
  copyDimms writeDimmV1 offset size
    (db.dimmInfosV1.filter (DbInterleaveSetDimmInfoV1.isOf handle index kind)) 0 m

/-- `get_dimm_interleave_dimms_v2_from_db` into a buffer that is there. -/
def getDimmInterleaveDimmsV2FromDb (db : PcdDb) (handle : UInt32) (kind : TableKind) (index : ℕ)
    (m : Bytes) (offset size : ℕ) : Except ReturnCode ℕ × Bytes :=
  copyDimms writeDimmV2 offset size
    (db.dimmInfosV2.filter (DbInterleaveSetDimmInfoV2.isOf handle index kind)) 0 m

/-- The row of a sub-table of a DIMM. -/
def configTableOf (db : PcdDb) (handle : UInt32) (kind : TableKind) : Option DbConfigTable :=
  (db.configTables kind).find? fun row => row.deviceHandle == handle

/-- `get_table_revision`; `none` is `NVM_ERR_NOTFOUND`. -/
def getTableRevision (db : PcdDb) (handle : UInt32) (kind : TableKind) : Option ℕ :=
  (configTableOf db handle kind).map fun row => row.header.revision

/-- The fields of an interleave table, before its DIMMs. -/
def interleaveSetFields (row : DbDimmInterleaveSet) : List FieldValue :=
  [(0, 2, row.extensionTableType), (2, 2, interleaveInfoTableSize), (4, 2, row.indexId),
    (8, 4, row.interleaveFormat), (7, 1, row.memoryType), (12, 1, row.mirrorEnable),
    (13, 1, row.status), (6, 1, row.dimmCount)]

/-- The loop over the rows of the interleave sets of a sub-table, with the size so far, which it
returns. -/
def copyInterleaveSets (db : PcdDb) (handle : UInt32) (kind : TableKind) (offset size : ℕ) :
    List DbDimmInterleaveSet → ℕ → Bytes → Except ReturnCode ℕ × Bytes
  | [], rc, m => (.ok rc, m)
  | row :: rows, rc, m =>
    if size < (headerLength m + rc) % 2 ^ 32 + interleaveInfoTableSize then
      (.error .errBadDeviceConfig, m)
    else
      let m₁ := writeFields m (offset + rc) (interleaveSetFields row)
      let dimmsOffset := (offset + rc + interleaveInfoTableSize) % 2 ^ 32
      let (dimms, m₂) :=
        if getTableRevision db handle kind = some 1 then
          getDimmInterleaveDimmsV1FromDb db handle kind row.indexId m₁ dimmsOffset size
        else getDimmInterleaveDimmsV2FromDb db handle kind row.indexId m₁ dimmsOffset size
      match dimms with
      | .error rc' => (.error rc', m₂)
      | .ok dimmInfoSize =>
        if dimmInfoSize / dimmInfoTableSize ≠ row.dimmCount then (.error .errBadDeviceConfig, m₂)
        else
          let m₃ := writeLE m₂ (offset + rc + 2) 2 (extensionLength m₂ (offset + rc) + dimmInfoSize)
          copyInterleaveSets db handle kind offset size rows
            (rc + interleaveInfoTableSize + dimmInfoSize) m₃

/-- `get_dimm_interleave_tables_from_db` into a buffer that is there. -/
def getDimmInterleaveTablesFromDb (db : PcdDb) (handle : UInt32) (kind : TableKind) (m : Bytes)
    (offset size : ℕ) : Except ReturnCode ℕ × Bytes :=
  copyInterleaveSets db handle kind offset size
    (db.interleaveSets.filter (DbDimmInterleaveSet.isOf handle kind)) 0 m

/-- The fields of a partition size change table. -/
def partitionChangeFields (row : DbDimmPartitionChange) : List FieldValue :=
  [(0, 2, row.extensionTableType), (2, 2, partitionSizeChangeTableSize), (8, 8, row.partitionSize),
    (4, 4, row.status)]

/-- `get_dimm_partition_table_from_db` into a buffer that is there; the room is checked with the size
of a pointer. -/
def getDimmPartitionTableFromDb (db : PcdDb) (handle : UInt32) (kind : TableKind) (m : Bytes)
    (offset size : ℕ) : Except ReturnCode ℕ × Bytes :=
  match db.partitionChanges.find? (DbDimmPartitionChange.isOf handle kind) with
  | none => (.ok 0, m)
  | some row =>
    if size < headerLength m + 8 then (.error .errBadDeviceConfig, m)
    else (.ok partitionSizeChangeTableSize, writeFields m offset (partitionChangeFields row))

/-- The fields of a header with a length. -/
def headerFields (header : DbHeader) (length : ℕ) : List FieldValue :=
  [(0, 4, header.signature), (4, 4, length), (8, 1, header.revision), (10, 6, header.oemId),
    (16, 8, header.oemTableId), (24, 4, header.oemRevision), (28, 4, header.creatorId),
    (32, 4, header.creatorRevision)]

/-- The fields behind the header of a sub-table. -/
def bodyFields (kind : TableKind) (body : List ℕ) : List FieldValue :=
  List.zipWith (fun place v => (place.1, place.2, v)) (bodyPlaces kind) body

/-- The sub-tables that are built before one. -/
def tablesBefore : TableKind → List TableKind
  | .currentConfig => []
  | .configOutput => [.currentConfig]
  | .configInput => [.currentConfig, .configOutput]

/-- The lengths in the headers of a sub-table and of the data, and the size of the sub-table, go up by
the size of its extension tables. -/
def addToLengths (kind : TableKind) (m : Bytes) (n : ℕ) : Bytes :=
  let m₁ := writeLE m (tableOffset kind m + 4) 4 (headerLength (tableAt kind m) + n)
  let m₂ := writeLE m₁ 4 4 (headerLength m₁ + n)
  writeLE m₂ kind.sizeField 4 (tableSize kind m₂ + n)

/-- `generate_checksum` for the table at an address. -/
def generateChecksumAt (m : Bytes) (a length : ℕ) : Bytes := fun i =>
  if a ≤ i then generateChecksum (view m a) length checksumOffset (i - a) else m i

/-- The common body of `get_dimm_current_config_from_db`, `get_dimm_config_output_from_db` and
`get_dimm_config_input_from_db`.  A current config has no partition size change table. -/
def getDimmConfigTableFromDb (kind : TableKind) (db : PcdDb) (handle : UInt32) (m : Bytes)
    (size : ℕ) : ReturnCode × Bytes :=
  match configTableOf db handle kind with
  | none => (.success, writeFields m 0 [(kind.sizeField, 4, 0), (kind.offsetField, 4, 0)])
  | some row =>
    if size < headerLength m + kind.structSize then (.errBadDeviceConfig, m)
    else
      let offset := platformConfigDataSize + ((tablesBefore kind).map fun k => tableSize k m).sum
      let m₁ := writeFields m 0 [(4, 4, headerLength m + kind.structSize),
        (kind.offsetField, 4, offset), (kind.sizeField, 4, kind.structSize)]
      let m₂ := writeFields m₁ (tableOffset kind m₁)
        (headerFields row.header kind.structSize ++ bodyFields kind row.body)
      let behind := fun m => (tableOffset kind m + tableSize kind m) % 2 ^ 32
      let (partition, m₃) :=
        if kind = .currentConfig then (.ok 0, m₂)
        else getDimmPartitionTableFromDb db handle kind m₂ (behind m₂) size
      match partition with
      | .error rc => (rc, m₃)
      | .ok partitionTableSize =>
        let m₄ := addToLengths kind m₃ partitionTableSize
        let (sets, m₅) := getDimmInterleaveTablesFromDb db handle kind m₄ (behind m₄) size
        match sets with
        | .error rc => (rc, m₅)
        | .ok interleaveTablesSize =>
          let m₆ := addToLengths kind m₅ interleaveTablesSize
          (.success, generateChecksumAt m₆ (tableOffset kind m₆) (tableSize kind m₆))

/-- `get_dimm_platform_config_data_from_db` from a database that is there, into a buffer of `size`
bytes. -/
def getDimmPlatformConfigDataFromDb (db : PcdDb) (handle : UInt32) (m : Bytes) (size : UInt32) :
    ReturnCode × Bytes :=
  if size.toNat < platformConfigDataSize then (.errBadSize, m)
  else
    match db.platformConfigs.find? fun row => row.deviceHandle == handle with
    | none => (.success, copy m 0 size.toNat fun _ => 0)
    | some row =>
      let m₀ := writeFields m 0 (headerFields row.header platformConfigDataSize)
      let (rc₁, m₁) := getDimmConfigTableFromDb .currentConfig db handle m₀ size.toNat
      if rc₁ = .success then
        let (rc₂, m₂) := getDimmConfigTableFromDb .configOutput db handle m₁ size.toNat
        if rc₂ = .success then
          let (rc₃, m₃) := getDimmConfigTableFromDb .configInput db handle m₂ size.toNat
          if rc₃ = .success then (.success, generateChecksum m₃ (headerLength m₃) checksumOffset)
          else (rc₃, m₃)
        else (rc₂, m₂)
      else (rc₁, m₁)

end IxpDimm.PcdDatabase
