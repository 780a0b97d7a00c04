import IxpDimm.Foundation.FieldWrites
import IxpDimm.Pcat.SocketSku

/-!
# The PCAT in the database

`platform_capabilities_db.c`: `update_pcat_in_db` stores the header of a PCAT and its extension
tables in one database table for each type, and `get_pcat_from_db` builds a PCAT from them.  A
database table is the list of its rows, in the order in which they were added.
-/

namespace IxpDimm.Pcat

open Foundation

/-! ### Rows -/

/-- `struct db_platform_capabilities`; texts are the numbers of their bytes. -/
structure DbPlatformCapabilities where
  /-- `signature`. -/
  signature : ℕ
  /-- `length`. -/
  length : ℕ
  /-- `revision`. -/
  revision : ℕ
  /-- `checksum`. -/
  checksum : ℕ
  /-- `oem_id`. -/
  oemId : ℕ
  /-- `oem_table_id`. -/
  oemTableId : ℕ
  /-- `oem_revision`. -/
  oemRevision : ℕ
  /-- `creator_id`. -/
  creatorId : ℕ
  /-- `creator_revision`. -/
  creatorRevision : ℕ

/-- `struct db_platform_info_capability`. -/
structure DbPlatformInfoCapability where
  /-- `length`. -/
  length : ℕ
  /-- `mgmt_sw_config_support`. -/
  mgmtSwConfigSupport : ℕ
  /-- `mem_mode_capabilities`. -/
  memModeCapabilities : ℕ
  /-- `current_mem_mode`. -/
  currentMemMode : ℕ
  /-- `pmem_ras_capabilities`. -/
  pmemRasCapabilities : ℕ

/-- `INTERLEAVE_CAPABILITY_INTERLEAVE_FORMAT_LIST_COUNT`. -/
def interleaveFormatListCount : ℕ := 32

/-- `struct db_interleave_capability`. -/
structure DbInterleaveCapability where
  /-- `length`. -/
  length : ℕ
  /-- `memory_mode`. -/
  memoryMode : ℕ
  /-- `interleave_alignment_size`. -/
  interleaveAlignmentSize : ℕ
  /-- `supported_interleave_count`. -/
  supportedInterleaveCount : ℕ
  /-- `interleave_format_list`, of `INTERLEAVE_CAPABILITY_INTERLEAVE_FORMAT_LIST_COUNT` elements. -/
  interleaveFormatList : ℕ → ℕ

/-- `struct db_runtime_config_validation`; the address structure is the number of its bytes. -/
structure DbRuntimeConfigValidation where
  /-- `length`. -/
  length : ℕ
  /-- `address_space_id`. -/
  addressSpaceId : ℕ
  /-- `bit_width`. -/
  bitWidth : ℕ
  /-- `bit_offset`. -/
  bitOffset : ℕ
  /-- `access_size`. -/
  accessSize : ℕ
  /-- `address`. -/
  address : ℕ
  /-- `operation_type_1`. -/
  operationType1 : ℕ
  /-- `value`. -/
  value : ℕ
  /-- `mask_1`. -/
  mask1 : ℕ
  /-- `gas_structure`. -/
  gasStructure : ℕ
  /-- `operation_type_2`. -/
  operationType2 : ℕ
  /-- `mask_2`. -/
  mask2 : ℕ

/-- `struct db_socket_sku`. -/
structure DbSocketSku where
  /-- `length`. -/
  length : ℕ
  /-- The fields of the table. -/
  info : SocketInfo

/-- The tables of the database that hold a PCAT. -/
structure PcatDb where
  /-- `platform_capabilities`. -/
  platformCapabilities : List DbPlatformCapabilities
  /-- `platform_info_capability`. -/
  platformInfos : List DbPlatformInfoCapability
  /-- `interleave_capability`. -/
  interleaves : List DbInterleaveCapability
  /-- `runtime_config_validation`. -/
  runtimeValidations : List DbRuntimeConfigValidation
  /-- `socket_sku`, whose primary key is the node. -/
  socketSkus : List DbSocketSku

/-! ### Storing a PCAT -/

/-- `clear_pcat_from_db`. -/
def clearPcatFromDb (_ : PcatDb) : PcatDb := ⟨[], [], [], [], []⟩

/-- The loop that stores the formats of an interleave table, with its passes left. -/
def storeFormatsLoop (table : List UInt8) : ℕ → ℕ → DbInterleaveCapability →
    Except Fault DbInterleaveCapability
  | 0, _, row => .ok row
  | left + 1, i, row => do
    let format ← field table (12 + 4 * i) 4
    if i < interleaveFormatListCount then
      storeFormatsLoop table left (i + 1) { row with
        interleaveFormatList := Function.update row.interleaveFormatList i format }
    else .error .write

/-- What `update_pcat_in_db` does at a table; the state has the return code so far. -/
def updateVisit (type : ℕ) (table : List UInt8) (s : PcatDb × ReturnCode) :
    Except Fault (Visit (PcatDb × ReturnCode)) :=
  let (db, rc) := s
  if type = 0 then do
    let length ← field table 2 2
    let currentMemMode ← field table 6 1
    let memModeCapabilities ← field table 5 1
    let mgmtSwConfigSupport ← field table 4 1
    let pmemRasCapabilities ← field table 7 1
    pure (.next ({ db with platformInfos := db.platformInfos ++ [⟨length, mgmtSwConfigSupport,
      memModeCapabilities, currentMemMode, pmemRasCapabilities⟩] }, rc))
  else if type = 1 then do
    let length ← field table 2 2
    let memoryMode ← field table 4 1
    let interleaveAlignmentSize ← field table 8 2
    let supportedInterleaveCount ← field table 10 2
    let row ← storeFormatsLoop table supportedInterleaveCount 0
      ⟨length, memoryMode, interleaveAlignmentSize, supportedInterleaveCount, fun _ => 0⟩
    pure (.next ({ db with interleaves := db.interleaves ++ [row] }, rc))
  else if type = 2 then do
    let length ← field table 2 2
    let accessSize ← field table 7 1
    let address ← field table 8 8
    let addressSpaceId ← field table 4 1
    let bitOffset ← field table 6 1
    let bitWidth ← field table 5 1
    let gasStructure ← field table 40 12
    let mask1 ← field table 32 8
    let mask2 ← field table 56 8
    let operationType1 ← field table 16 1
    let operationType2 ← field table 52 1
    let value ← field table 24 8
    pure (.next ({ db with runtimeValidations := db.runtimeValidations ++ [⟨length, addressSpaceId,
      bitWidth, bitOffset, accessSize, address, operationType1, value, mask1, gasStructure,
      operationType2, mask2⟩] }, rc))
  else if type = 6 then do
    let length ← field table 2 2
    let nodeId ← field table 4 2
    let mappedMemoryLimit ← field table 8 8
    let totalMappedMemory ← field table 16 8
    let total2lmDdrCacheMemory ← field table 24 8
    if db.socketSkus.any fun row => row.info.nodeId = nodeId then
      pure (.next (db, if rc = .success then .errDriverFailed else rc))
    else
      pure (.next ({ db with socketSkus := db.socketSkus ++ [⟨length,
        ⟨nodeId, mappedMemoryLimit, totalMappedMemory, total2lmDdrCacheMemory⟩⟩] }, rc))
  else pure (.next (db, rc))

/-- The header of a PCAT as a row. -/
def headerRow (pcat : List UInt8) : DbPlatformCapabilities where
  signature := readLE (ofList pcat) 0 4
  length := readLE (ofList pcat) 4 4
  revision := readLE (ofList pcat) 8 1
  checksum := readLE (ofList pcat) 9 1
  oemId := readLE (ofList pcat) 10 6
  oemTableId := readLE (ofList pcat) 16 8
  oemRevision := readLE (ofList pcat) 24 4
  creatorId := readLE (ofList pcat) 28 4
  creatorRevision := readLE (ofList pcat) 32 4

/-- `update_pcat_in_db`. -/
def updatePcatInDb (db : PcatDb) (pcat : List UInt8) (fuel : ℕ) :
    Option (Except Fault (ReturnCode × PcatDb)) :=
  let db' := { clearPcatFromDb db with platformCapabilities := [headerRow pcat] }
  (walkTables pcat updateVisit (db', .success) fuel).map fun result =>
    result.map fun (rcWalk, (db'', rc)) => (if rcWalk = .success then rc else rcWalk, db'')

/-! ### Building a PCAT -/

/-- The buffer that is filled, and the offset of what comes next. -/
structure Building where
  /-- `p_capabilities`. -/
  memory : Bytes
  /-- `*p_offset`. -/
  offset : ℕ

/-- A table of a fixed size is written if the buffer has room for it. -/
def buildTable (b : Building) (capLen size : ℕ) (fields : List FieldValue) : ReturnCode × Building :=
  if capLen < b.offset + size then (.errInvalidParameter, b)
  else (.success, ⟨writeFields b.memory b.offset fields, b.offset + size⟩)

/-- `PLATFORM_INFO_TABLE_SIZE`. -/
def platformInfoTableSize : ℕ := 16

/-- `RT_CONFIG_TABLE_SIZE`. -/
def rtConfigTableSize : ℕ := 64

/-- `SOCKET_INFO_TABLE_SIZE`. -/
def socketInfoTableSize : ℕ := 32

/-- `MEMORY_INTERLEAVE_TABLE_SIZE`. -/
def memoryInterleaveTableSize : ℕ := 12

/-- The fields of a platform information table. -/
def platformInfoFields (row : DbPlatformInfoCapability) : List FieldValue :=
  [(0, 2, 0), (2, 2, platformInfoTableSize), (6, 1, row.currentMemMode),
    (5, 1, row.memModeCapabilities), (4, 1, row.mgmtSwConfigSupport),
    (7, 1, row.pmemRasCapabilities)]

/-- `get_pcat_platform_info_from_db`. -/
def getPcatPlatformInfoFromDb (db : PcatDb) (b : Building) (capLen : ℕ) : ReturnCode × Building :=
  match db.platformInfos with
  | [] => (.success, b)
  | row :: _ => buildTable b capLen platformInfoTableSize (platformInfoFields row)

/-- The fields of a runtime validation table. -/
def runtimeValidationFields (row : DbRuntimeConfigValidation) : List FieldValue :=
  [(0, 2, 2), (2, 2, rtConfigTableSize), (4, 1, row.addressSpaceId), (5, 1, row.bitWidth),
    (6, 1, row.bitOffset), (7, 1, row.accessSize), (8, 8, row.address), (16, 1, row.operationType1),
    (24, 8, row.value), (32, 8, row.mask1), (40, 12, row.gasStructure), (52, 1, row.operationType2),
    (56, 8, row.mask2)]

/-- `get_pcat_runtime_validation_table_from_db`. -/
def getPcatRuntimeValidationTableFromDb (db : PcatDb) (b : Building) (capLen : ℕ) :
    ReturnCode × Building :=
  match db.runtimeValidations with
  | [] => (.success, b)
  | row :: _ => buildTable b capLen rtConfigTableSize (runtimeValidationFields row)

/-- The fields of an interleave table, before its formats. -/
def interleaveFields (row : DbInterleaveCapability) : List FieldValue :=
  [(0, 2, 1), (2, 2, memoryInterleaveTableSize), (4, 1, row.memoryMode),
    (8, 2, row.interleaveAlignmentSize), (10, 2, row.supportedInterleaveCount)]

/-- The loop that writes the formats of an interleave table at an offset, with its passes left. -/
def buildFormatsLoop (formats : ℕ → ℕ) (offset : ℕ) : ℕ → ℕ → Bytes → Bytes
  | 0, _, m => m
  | left + 1, j, m =>
    let m₁ := writeLE m (offset + (12 + 4 * j)) 4 (formats j)
    buildFormatsLoop formats offset left (j + 1)
      (writeLE m₁ (offset + 2) 2 (readLE m₁ (offset + 2) 2 + 4))

/-- The pass for a row of the loop of `get_pcat_interleave_tables_from_db`. -/
def buildInterleave (row : DbInterleaveCapability) (b : Building) (capLen : ℕ) :
    ReturnCode × Building :=
  if capLen < b.offset + memoryInterleaveTableSize + row.supportedInterleaveCount * 4 then
    (.errInvalidParameter, b)
  else
    let m := writeFields b.memory b.offset (interleaveFields row)
    let m' := buildFormatsLoop row.interleaveFormatList b.offset
      (readLE m (b.offset + 10) 2) 0 m
    (.success, ⟨m', b.offset + readLE m' (b.offset + 2) 2⟩)

/-- A loop over rows that ends with the first error. -/
def buildRows {ρ : Type} (build : ρ → Building → ReturnCode × Building) :
    List ρ → Building → ReturnCode × Building
  | [], b => (.success, b)
  | row :: rows, b =>
    let (rc, b') := build row b
    if rc = .success then buildRows build rows b' else (rc, b')

/-- `get_pcat_interleave_tables_from_db`. -/
def getPcatInterleaveTablesFromDb (db : PcatDb) (b : Building) (capLen : ℕ) :
    ReturnCode × Building :=
  buildRows (fun row b => buildInterleave row b capLen) db.interleaves b

/-- The fields of a socket SKU table. -/
def socketSkuFields (row : DbSocketSku) : List FieldValue :=
  [(0, 2, 6), (2, 2, socketInfoTableSize), (4, 2, row.info.nodeId),
    (8, 8, row.info.mappedMemoryLimit), (16, 8, row.info.totalMappedMemory),
    (24, 8, row.info.total2lmDdrCacheMemory)]

/-- `get_pcat_socket_sku_info_from_db`. -/
def getPcatSocketSkuInfoFromDb (db : PcatDb) (b : Building) (capLen : ℕ) :
    ReturnCode × Building :=
  buildRows (fun row b => buildTable b capLen socketInfoTableSize (socketSkuFields row))
    db.socketSkus b

/-- The fields of the header. -/
def headerFields (row : DbPlatformCapabilities) : List FieldValue :=
  [(0, 4, row.signature), (4, 4, row.length), (8, 1, row.revision), (9, 1, row.checksum),
    (10, 6, row.oemId), (16, 8, row.oemTableId), (24, 4, row.oemRevision), (28, 4, row.creatorId),
    (32, 4, row.creatorRevision)]

/-- `get_pcat_from_db` into a buffer of `capLen` bytes. -/
def getPcatFromDb (db : PcatDb) (memory : Bytes) (capLen : ℕ) : ReturnCode × Bytes :=
  if capLen < pcatTableSize then (.errInvalidParameter, memory)
  else
    match db.platformCapabilities with
    | [] => (.errDriverFailed, memory)
    | header :: _ =>
      let b₀ : Building := ⟨writeFields memory 0 (headerFields header), pcatTableSize⟩
      let (rc₁, b₁) := getPcatPlatformInfoFromDb db b₀ capLen
      if rc₁ = .success then
        let (rc₂, b₂) := getPcatRuntimeValidationTableFromDb db b₁ capLen
        if rc₂ = .success then
          let (rc₃, b₃) := getPcatInterleaveTablesFromDb db b₂ capLen
          if rc₃ = .success then
            let (rc₄, b₄) := getPcatSocketSkuInfoFromDb db b₃ capLen
            let m := writeLE b₄.memory 4 4 b₄.offset
            (rc₄, generateChecksum m (headerLength m) checksumOffset)
          else (rc₃, b₃.memory)
        else (rc₂, b₂.memory)
      else (rc₁, b₁.memory)

end IxpDimm.Pcat
