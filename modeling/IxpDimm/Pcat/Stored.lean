import IxpDimm.Pcat.Layout

/-!
# What the database stores of a PCAT

A table that has the fields of its type becomes a row of its kind (`storeTable`), so that after the
walk of `update_pcat_in_db` the database has the rows of the tables of each type, in their order
(`foldl_storeTable`).  The array of formats of a row has 32 elements: an interleave table with more
formats is written behind its end.
-/

namespace IxpDimm.Pcat

open Foundation

/-! ### The rows of tables -/

/-- `supported_interleave_count`. -/
def supportedInterleaveCount (table : List UInt8) : ℕ := readLE (ofList table) 10 2

/-- The bytes that the structure of a table has, with the formats that it declares. -/
def structSize (table : List UInt8) : ℕ :=
  if tableType table = 0 then platformInfoTableSize
  else if tableType table = 1 then
    memoryInterleaveTableSize + 4 * supportedInterleaveCount table
  else if tableType table = 2 then rtConfigTableSize
  else if tableType table = 6 then socketInfoTableSize
  else 0

/-- The tables of a type. -/
def tablesOf (type : ℕ) (tables : List (List UInt8)) : List (List UInt8) :=
  tables.filter fun table => tableType table = type

/-- The row of a platform information table. -/
def platformInfoRow (table : List UInt8) : DbPlatformInfoCapability where
  length := tableLength table
  mgmtSwConfigSupport := readLE (ofList table) 4 1
  memModeCapabilities := readLE (ofList table) 5 1
  currentMemMode := readLE (ofList table) 6 1
  pmemRasCapabilities := readLE (ofList table) 7 1

/-- The row of an interleave table. -/
def interleaveRow (table : List UInt8) : DbInterleaveCapability where
  length := tableLength table
  memoryMode := readLE (ofList table) 4 1
  interleaveAlignmentSize := readLE (ofList table) 8 2
  supportedInterleaveCount := supportedInterleaveCount table
  interleaveFormatList := fun i =>
    if i < supportedInterleaveCount table then readLE (ofList table) (12 + 4 * i) 4 else 0

/-- The row of a runtime validation table. -/
def runtimeValidationRow (table : List UInt8) : DbRuntimeConfigValidation where
  length := tableLength table
  addressSpaceId := readLE (ofList table) 4 1
  bitWidth := readLE (ofList table) 5 1
  bitOffset := readLE (ofList table) 6 1
  accessSize := readLE (ofList table) 7 1
  address := readLE (ofList table) 8 8
  operationType1 := readLE (ofList table) 16 1
  value := readLE (ofList table) 24 8
  mask1 := readLE (ofList table) 32 8
  gasStructure := readLE (ofList table) 40 12
  operationType2 := readLE (ofList table) 52 1
  mask2 := readLE (ofList table) 56 8

/-- The row of a socket SKU table. -/
def socketSkuRow (table : List UInt8) : DbSocketSku := ⟨tableLength table, socketInfo table⟩

/-- A table is stored. -/
def storeTable (db : PcatDb) (table : List UInt8) : PcatDb :=
  if tableType table = 0 then
    { db with platformInfos := db.platformInfos ++ [platformInfoRow table] }
  else if tableType table = 1 then
    { db with interleaves := db.interleaves ++ [interleaveRow table] }
  else if tableType table = 2 then
    { db with runtimeValidations := db.runtimeValidations ++ [runtimeValidationRow table] }
  else if tableType table = 6 then
    { db with socketSkus := db.socketSkus ++ [socketSkuRow table] }
  else db

/-- The formats of a table have room in the array of a row. -/
def FormatsFit (table : List UInt8) : Prop :=
  tableType table = 1 → supportedInterleaveCount table ≤ interleaveFormatListCount

instance (table : List UInt8) : Decidable (FormatsFit table) :=
  inferInstanceAs (Decidable (_ → _))

/-! ### Storing tables -/

/-- The loop over the formats stores them when the array has room. -/
private theorem storeFormatsLoop_eq {table : List UInt8} {left i : ℕ} {row : DbInterleaveCapability}
    (hread : left = 0 ∨ 12 + 4 * (i + left) ≤ table.length) (hi : i ≤ interleaveFormatListCount) :
    storeFormatsLoop table left i row =
      if i + left ≤ interleaveFormatListCount then
        .ok { row with interleaveFormatList := fun j =>
          if i ≤ j ∧ j < i + left then readLE (ofList table) (12 + 4 * j) 4
          else row.interleaveFormatList j }
      else .error .write := by
  induction left generalizing i row with
  | zero =>
    rw [storeFormatsLoop, Nat.add_zero, if_pos hi]
    have hsame : (fun j => if i ≤ j ∧ j < i then readLE (ofList table) (12 + 4 * j) 4
        else row.interleaveFormatList j) = row.interleaveFormatList := by
      funext j
      rw [if_neg (by omega)]
    rw [hsame]
  | succ left ih =>
    rw [storeFormatsLoop, field_of_le (by omega), ok_bind]
    by_cases hroom : i < interleaveFormatListCount
    · have hnext : i + 1 ≤ interleaveFormatListCount := hroom
      have hend : i + 1 + left = i + (left + 1) := by omega
      rw [if_pos hroom, ih (by omega) hnext, hend]
      have hsame : (fun j => if i + 1 ≤ j ∧ j < i + (left + 1)
          then readLE (ofList table) (12 + 4 * j) 4
          else Function.update row.interleaveFormatList i (readLE (ofList table) (12 + 4 * i) 4) j) =
          fun j => if i ≤ j ∧ j < i + (left + 1) then readLE (ofList table) (12 + 4 * j) 4
            else row.interleaveFormatList j := by
        funext j
        rcases Nat.lt_trichotomy j i with hlt | rfl | hgt
        · rw [if_neg (by omega), if_neg (by omega), Function.update_of_ne hlt.ne]
        · rw [if_neg (by omega), if_pos (by omega), Function.update_self]
        · by_cases hj : j < i + (left + 1)
          · rw [if_pos ⟨hgt, hj⟩, if_pos ⟨hgt.le, hj⟩]
          · rw [if_neg (by omega), if_neg (by omega), Function.update_of_ne hgt.ne']
      dsimp only
      rw [hsame]
    · rw [if_neg hroom, if_neg (by omega)]

/-- What the walk does at an interleave table. -/
private theorem updateVisit_interleave {table : List UInt8}
    (hsize : 12 + 4 * supportedInterleaveCount table ≤ table.length) (db : PcatDb)
    (rc : ReturnCode) :
    updateVisit 1 table (db, rc) =
      if supportedInterleaveCount table ≤ interleaveFormatListCount then
        .ok (.next ({ db with interleaves := db.interleaves ++ [interleaveRow table] }, rc))
      else .error .write := by
  rw [updateVisit]
  rw [if_neg Nat.one_ne_zero, if_pos rfl, field_of_le (by omega), ok_bind, field_of_le (by omega),
    ok_bind, field_of_le (by omega), ok_bind, field_of_le (by omega), ok_bind,
    storeFormatsLoop_eq (Or.inr (by rw [Nat.zero_add]; exact hsize)) (Nat.zero_le _), Nat.zero_add]
  by_cases hcount : supportedInterleaveCount table ≤ interleaveFormatListCount
  · have hread : readLE (ofList table) 10 2 ≤ interleaveFormatListCount := hcount
    rw [if_pos hcount, if_pos hread, ok_bind]
    simp only [Nat.zero_le, true_and]
    rfl
  · have hread : ¬ readLE (ofList table) 10 2 ≤ interleaveFormatListCount := hcount
    rw [if_neg hcount, if_neg hread, error_bind]

/-- What the walk does at a table that has its fields: it is stored when its formats fit. -/
private theorem updateVisit_eq {table : List UInt8} (hsize : structSize table ≤ table.length)
    {db : PcatDb} (hnode : tableType table = 6 →
      ∀ row ∈ db.socketSkus, row.info.nodeId ≠ (socketInfo table).nodeId) :
    updateVisit (tableType table) table (db, .success) =
      if FormatsFit table then .ok (.next (storeTable db table, .success))
      else .error .write := by
  rw [structSize] at hsize
  by_cases h0 : tableType table = 0
  · rw [if_pos h0, platformInfoTableSize] at hsize
    have hfits : FormatsFit table := fun h1 => absurd (h0.symm.trans h1) Nat.zero_ne_one
    rw [if_pos hfits, storeTable, if_pos h0, h0, updateVisit]
    rw [if_pos rfl, field_of_le (by omega), field_of_le (by omega), field_of_le (by omega),
      field_of_le (by omega), field_of_le (by omega)]
    rfl
  rw [if_neg h0] at hsize
  by_cases h1 : tableType table = 1
  · rw [if_pos h1, memoryInterleaveTableSize] at hsize
    have hfits : FormatsFit table ↔ supportedInterleaveCount table ≤ interleaveFormatListCount :=
      ⟨fun h => h h1, fun h _ => h⟩
    rw [storeTable, if_neg h0, if_pos h1, h1, updateVisit_interleave hsize]
    simp only [hfits]
  rw [if_neg h1] at hsize
  have hfits : FormatsFit table := fun h => absurd h h1
  rw [if_pos hfits, storeTable, if_neg h0, if_neg h1]
  by_cases h2 : tableType table = 2
  · rw [if_pos h2, rtConfigTableSize] at hsize
    rw [if_pos h2, h2, updateVisit]
    rw [if_neg (by decide), if_neg (by decide), if_pos rfl]
    simp only [@field_of_le table 2 2 (by omega),
      @field_of_le table 7 1 (by omega),
      @field_of_le table 8 8 (by omega),
      @field_of_le table 4 1 (by omega),
      @field_of_le table 6 1 (by omega),
      @field_of_le table 5 1 (by omega),
      @field_of_le table 40 12 (by omega),
      @field_of_le table 32 8 (by omega),
      @field_of_le table 56 8 (by omega),
      @field_of_le table 16 1 (by omega),
      @field_of_le table 52 1 (by omega),
      @field_of_le table 24 8 (by omega), ok_bind]
    rfl
  rw [if_neg h2] at hsize
  rw [if_neg h2]
  by_cases h6 : tableType table = 6
  · rw [if_pos h6, socketInfoTableSize] at hsize
    have hnew : (db.socketSkus.any fun row => row.info.nodeId = (socketInfo table).nodeId) =
        false := by
      rw [List.any_eq_false]
      intro row hrow
      rw [decide_eq_true_iff]
      exact hnode h6 row hrow
    rw [if_pos h6, h6, updateVisit]
    rw [if_neg (by decide), if_neg (by decide), if_neg (by decide), if_pos rfl,
      field_of_le (by omega), ok_bind, field_of_le (by omega), ok_bind, field_of_le (by omega),
      field_of_le (by omega), field_of_le (by omega), ok_bind, ok_bind, ok_bind]
    rw [show readLE (ofList table) 4 2 = (socketInfo table).nodeId from rfl, hnew]
    rfl
  · rw [if_neg h6, updateVisit]
    rw [if_neg h0, if_neg h1, if_neg h2, if_neg h6]
    rfl

/-- Tables are stored one after the other when the formats of all of them fit. -/
theorem visitTables_update {tables : List (List UInt8)}
    (hsize : ∀ table ∈ tables, structSize table ≤ table.length) {db : PcatDb}
    (hnodes : ((db.socketSkus.map fun row => row.info.nodeId) ++
      (socketInfos tables).map SocketInfo.nodeId).Nodup) :
    visitTables updateVisit tables (db, .success) =
      if ∀ table ∈ tables, FormatsFit table then
        .ok (.next (tables.foldl storeTable db, .success))
      else .error .write := by
  induction tables generalizing db with
  | nil => rw [if_pos (List.forall_mem_nil _)]; rfl
  | cons table tables ih =>
    have hnew : tableType table = 6 →
        ∀ row ∈ db.socketSkus, row.info.nodeId ≠ (socketInfo table).nodeId := by
      intro h6 row hrow
      have hmem : (socketInfo table).nodeId ∈
          (socketInfos (table :: tables)).map SocketInfo.nodeId := by
        rw [socketInfos, List.filter_cons, if_pos (decide_eq_true h6)]
        exact List.mem_cons_self
      exact (List.nodup_append.mp hnodes).2.2 _ (List.mem_map_of_mem hrow) _ hmem
    have hnext : (((storeTable db table).socketSkus.map fun row => row.info.nodeId) ++
        (socketInfos tables).map SocketInfo.nodeId).Nodup := by
      rw [socketInfos, List.filter_cons] at hnodes
      by_cases h6 : tableType table = 6
      · have hstored : (storeTable db table).socketSkus = db.socketSkus ++ [socketSkuRow table] := by
          rw [storeTable, if_neg (by omega), if_neg (by omega), if_neg (by omega), if_pos h6]
        rw [if_pos (decide_eq_true h6)] at hnodes
        rw [hstored, List.map_append, List.append_assoc]
        exact hnodes
      · have hstored : (storeTable db table).socketSkus = db.socketSkus := by
          rw [storeTable]
          split_ifs <;> rfl
        rw [if_neg (by simpa using h6)] at hnodes
        rw [hstored]
        exact hnodes
    rw [visitTables, updateVisit_eq (hsize table List.mem_cons_self) hnew]
    by_cases hfits : FormatsFit table
    · rw [if_pos hfits]
      dsimp only
      rw [ih (fun t ht => hsize t (List.mem_cons_of_mem table ht)) hnext]
      simp only [List.forall_mem_cons, hfits, true_and, List.foldl_cons]
    · rw [if_neg hfits, if_neg fun h => hfits (h table List.mem_cons_self)]

/-- The database after tables were stored. -/
theorem foldl_storeTable (tables : List (List UInt8)) (db : PcatDb) :
    tables.foldl storeTable db =
      { platformCapabilities := db.platformCapabilities
        platformInfos := db.platformInfos ++ (tablesOf 0 tables).map platformInfoRow
        interleaves := db.interleaves ++ (tablesOf 1 tables).map interleaveRow
        runtimeValidations :=
          db.runtimeValidations ++ (tablesOf 2 tables).map runtimeValidationRow
        socketSkus := db.socketSkus ++ (tablesOf 6 tables).map socketSkuRow } := by
  induction tables generalizing db with
  | nil => simp [tablesOf]
  | cons table tables ih =>
    rw [List.foldl_cons, ih, storeTable]
    by_cases h0 : tableType table = 0
    · simp [tablesOf, h0]
    by_cases h1 : tableType table = 1
    · simp [tablesOf, h1]
    by_cases h2 : tableType table = 2
    · simp [tablesOf, h2]
    by_cases h6 : tableType table = 6
    · simp [tablesOf, h6]
    · simp [tablesOf, h0, h1, h2, h6]

/-! ### The rows are tables -/

/-- The values of a platform information table fit in the fields. -/
private theorem platformInfoFields_valid (table : List UInt8) :
    FieldsValid platformInfoTableSize (platformInfoFields (platformInfoRow table)) := by
  refine ⟨by simp [platformInfoFields, FieldsDisjoint], ?_, ?_⟩
  · simp [platformInfoFields, platformInfoTableSize]
  · simp only [platformInfoFields, platformInfoRow, platformInfoTableSize, List.forall_mem_cons]
    exact ⟨by decide, by decide, readLE_lt _ _ _, readLE_lt _ _ _, readLE_lt _ _ _,
      readLE_lt _ _ _, List.forall_mem_nil _⟩

/-- The values of a runtime validation table fit in the fields. -/
private theorem runtimeValidationFields_valid (table : List UInt8) :
    FieldsValid rtConfigTableSize (runtimeValidationFields (runtimeValidationRow table)) := by
  refine ⟨by simp [runtimeValidationFields, FieldsDisjoint], ?_, ?_⟩
  · simp [runtimeValidationFields, rtConfigTableSize]
  · simp only [runtimeValidationFields, runtimeValidationRow, rtConfigTableSize,
      List.forall_mem_cons]
    exact ⟨by decide, by decide, readLE_lt _ _ _, readLE_lt _ _ _, readLE_lt _ _ _,
      readLE_lt _ _ _, readLE_lt _ _ _, readLE_lt _ _ _, readLE_lt _ _ _, readLE_lt _ _ _,
      readLE_lt _ _ _, readLE_lt _ _ _, readLE_lt _ _ _, List.forall_mem_nil _⟩

/-- The values of a socket SKU table fit in the fields. -/
private theorem socketSkuFields_valid (table : List UInt8) :
    FieldsValid socketInfoTableSize (socketSkuFields (socketSkuRow table)) := by
  refine ⟨by simp [socketSkuFields, FieldsDisjoint], ?_, ?_⟩
  · simp [socketSkuFields, socketInfoTableSize]
  · simp only [socketSkuFields, socketSkuRow, socketInfo, socketInfoTableSize,
      List.forall_mem_cons]
    exact ⟨by decide, by decide, readLE_lt _ _ _, readLE_lt _ _ _, readLE_lt _ _ _,
      readLE_lt _ _ _, List.forall_mem_nil _⟩

/-- The values of an interleave table fit in the fields. -/
private theorem interleaveRow_valid {table : List UInt8}
    (hcount : supportedInterleaveCount table ≤ interleaveFormatListCount) :
    InterleaveValid (interleaveRow table) := by
  refine ⟨⟨by simp [interleaveFields, FieldsDisjoint], ?_, ?_⟩, fun i => ?_, hcount⟩
  · simp [interleaveFields, memoryInterleaveTableSize]
  · simp only [interleaveFields, interleaveRow, memoryInterleaveTableSize, List.forall_mem_cons]
    exact ⟨by decide, by decide, readLE_lt _ _ _, readLE_lt _ _ _, readLE_lt _ _ _,
      List.forall_mem_nil _⟩
  · simp only [interleaveRow]
    split_ifs
    · exact readLE_lt _ _ _
    · decide

/-- The database of tables whose formats fit. -/
def storedDb (pcat : List UInt8) (tables : List (List UInt8)) : PcatDb where
  platformCapabilities := [headerRow pcat]
  platformInfos := (tablesOf 0 tables).map platformInfoRow
  interleaves := (tablesOf 1 tables).map interleaveRow
  runtimeValidations := (tablesOf 2 tables).map runtimeValidationRow
  socketSkus := (tablesOf 6 tables).map socketSkuRow

/-- The values of stored tables fit in the fields. -/
theorem storedDb_valid {pcat : List UInt8} {tables : List (List UInt8)}
    (hfits : ∀ table ∈ tables, FormatsFit table) : (storedDb pcat tables).Valid := by
  refine ⟨?_, ?_, ?_, ?_⟩
  · intro row hrow
    obtain ⟨table, -, rfl⟩ := List.mem_map.mp hrow
    exact platformInfoFields_valid table
  · intro row hrow
    obtain ⟨table, -, rfl⟩ := List.mem_map.mp hrow
    exact runtimeValidationFields_valid table
  · intro row hrow
    obtain ⟨table, hmem, rfl⟩ := List.mem_map.mp hrow
    obtain ⟨htable, htype⟩ := List.mem_filter.mp hmem
    exact interleaveRow_valid (hfits table htable (of_decide_eq_true htype))
  · intro row hrow
    obtain ⟨table, -, rfl⟩ := List.mem_map.mp hrow
    exact socketSkuFields_valid table

end IxpDimm.Pcat
