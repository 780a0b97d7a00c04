import IxpDimm.Pcat.Described
import IxpDimm.Pcat.Stored

/-!
# The rebuilt tables of a PCAT

A PCAT that was stored is rebuilt with its tables grouped by their types (`regrouped`), each with the
bytes of its structure (`builtRow`).  What is read of a rebuilt table is what is read of the stored
one (`SameTable`), and the rebuilt PCAT is not longer than the original.
-/

namespace IxpDimm.Pcat

open Foundation

/-! ### Well-formed PCATs -/

/-- The extension tables of a PCAT, and what follows them. -/
def extTables (pcat : List UInt8) : List (List UInt8) × ChainEnd :=
  tablesFrom (pcat.drop pcatTableSize)

/-- A PCAT whose extension tables fill it and have their fields, with at most one platform
information table, at most one runtime validation table, and one socket SKU table for a node. -/
structure WellFormed (pcat : List UInt8) : Prop where
  /-- The PCAT has a header. -/
  header_le : pcatTableSize ≤ pcat.length
  /-- The PCAT fits in `struct bios_capabilities`. -/
  length_le : pcat.length ≤ pcatMaxLen
  /-- The length in the header. -/
  length_eq : headerLength (ofList pcat) = pcat.length
  /-- The tables fill the PCAT. -/
  filled : (extTables pcat).2 = .done
  /-- The tables have the fields of their types, and the formats that they declare. -/
  fields : ∀ table ∈ (extTables pcat).1, structSize table ≤ tableLength table
  /-- Platform information. -/
  platformInfo : (tablesOf 0 (extTables pcat).1).length ≤ 1
  /-- Runtime validation. -/
  runtimeValidation : (tablesOf 2 (extTables pcat).1).length ≤ 1
  /-- The nodes are distinct. -/
  nodes : ((socketInfos (extTables pcat).1).map SocketInfo.nodeId).Nodup

/-! ### The tables of a type -/

/-- The tables of a type among those of a type. -/
@[simp] theorem tablesOf_tablesOf (type type' : ℕ) (tables : List (List UInt8)) :
    tablesOf type (tablesOf type' tables) = if type = type' then tablesOf type tables else [] := by
  rw [tablesOf, tablesOf, List.filter_filter]
  split_ifs with h
  · subst h
    simp only [Bool.and_self, tablesOf]
  · rw [List.filter_eq_nil_iff]
    intro table _
    simp only [Bool.and_eq_true, decide_eq_true_eq]
    rintro ⟨rfl, rfl⟩
    exact h rfl

@[simp] theorem tablesOf_append (type : ℕ) (tables tables' : List (List UInt8)) :
    tablesOf type (tables ++ tables') = tablesOf type tables ++ tablesOf type tables' :=
  List.filter_append tables tables'

/-- The walk is left at interleave tables only. -/
theorem tableType_of_leaves {table : List UInt8} (h : leaves table = true) :
    tableType table = 1 := by
  rcases tableType_of_decode (of_decide_eq_true h) with ⟨-, a, b, c, d, ht⟩ | ⟨h1, -⟩ | ⟨-, -, ht⟩
  · cases ht
  · exact h1
  · cases ht

/-- The interleave tables before the first reserved mode. -/
theorem tablesOf_visitedTables (tables : List (List UInt8)) :
    tablesOf 1 (visitedTables tables) = visitedTables (tablesOf 1 tables) := by
  rw [visitedTables, visitedTables, tablesOf, tablesOf, List.takeWhile_filter]
  congr 2
  funext table
  cases hleaves : leaves table with
  | false => rw [Bool.not_false, Bool.or_true]
  | true =>
    rw [decide_eq_true (tableType_of_leaves hleaves)]
    rfl

/-- The tables in the order in which they are rebuilt. -/
def regrouped (tables : List (List UInt8)) : List (List UInt8) :=
  tablesOf 0 tables ++ tablesOf 2 tables ++ tablesOf 1 tables ++ tablesOf 6 tables

/-- The tables before the first reserved mode, when the tables are regrouped. -/
theorem tablesOf_visitedTables_regrouped (tables : List (List UInt8)) :
    tablesOf 0 (visitedTables (regrouped tables)) = tablesOf 0 tables ∧
      tablesOf 1 (visitedTables (regrouped tables)) = tablesOf 1 (visitedTables tables) := by
  constructor
  · have hstay : ∀ table ∈ tablesOf 0 tables ++ tablesOf 2 tables, (!leaves table) = true := by
      intro table htable
      cases hleaves : leaves table with
      | false => rfl
      | true =>
        have h1 := tableType_of_leaves hleaves
        rcases List.mem_append.mp htable with hmem | hmem
        · have h0 := of_decide_eq_true (List.mem_filter.mp hmem).2
          omega
        · have h2 := of_decide_eq_true (List.mem_filter.mp hmem).2
          omega
    have hnone : tablesOf 0 ((tablesOf 1 tables ++ tablesOf 6 tables).takeWhile fun table =>
        !leaves table) = [] := by
      refine List.filter_eq_nil_iff.mpr fun table htable => ?_
      have hmem := (List.takeWhile_sublist _).mem htable
      rw [decide_eq_true_eq]
      rcases List.mem_append.mp hmem with hmem | hmem
      · have h1 := of_decide_eq_true (List.mem_filter.mp hmem).2
        omega
      · have h6 := of_decide_eq_true (List.mem_filter.mp hmem).2
        omega
    rw [regrouped, visitedTables, List.append_assoc, List.takeWhile_append_of_pos hstay,
      tablesOf_append, hnone]
    simp
  · rw [tablesOf_visitedTables, tablesOf_visitedTables, regrouped]
    simp

/-! ### The rebuilt tables -/

/-- The row that is built for a stored table. -/
def builtRow (table : List UInt8) : Row :=
  if tableType table = 0 then ⟨platformInfoTableSize, platformInfoFields (platformInfoRow table)⟩
  else if tableType table = 2 then
    ⟨rtConfigTableSize, runtimeValidationFields (runtimeValidationRow table)⟩
  else if tableType table = 1 then interleaveTableRow (interleaveRow table)
  else ⟨socketInfoTableSize, socketSkuFields (socketSkuRow table)⟩

/-- The types that are stored. -/
def StoredType (type : ℕ) : Prop := type = 0 ∨ type = 2 ∨ type = 1 ∨ type = 6

/-- The regrouped tables are tables of the types that are stored. -/
theorem mem_regrouped {tables : List (List UInt8)} {table : List UInt8} :
    table ∈ regrouped tables ↔ table ∈ tables ∧ StoredType (tableType table) := by
  simp only [regrouped, tablesOf, List.mem_append, List.mem_filter, decide_eq_true_eq, StoredType,
    and_or_left, or_assoc]

/-- The rows that are built from the database are those of the regrouped tables. -/
theorem dbRows_storedDb {pcat : List UInt8} {tables : List (List UInt8)}
    (hinfo : (tablesOf 0 tables).length ≤ 1) (hruntime : (tablesOf 2 tables).length ≤ 1) :
    dbRows (storedDb pcat tables) = (regrouped tables).map builtRow := by
  have hrow : ∀ type, ∀ table ∈ tablesOf type tables, tableType table = type :=
    fun type table h => of_decide_eq_true (List.mem_filter.mp h).2
  simp only [dbRows, storedDb, regrouped, List.map_append]
  rw [List.take_of_length_le (by rwa [List.length_map]),
    List.take_of_length_le (by rwa [List.length_map])]
  simp only [List.map_map]
  congr 1
  · congr 1
    · congr 1
      · refine List.map_congr_left fun table h => ?_
        rw [builtRow, if_pos (hrow 0 table h)]
        rfl
      · refine List.map_congr_left fun table h => ?_
        have htype := hrow 2 table h
        rw [builtRow, if_neg (by omega), if_pos htype]
        rfl
    · refine List.map_congr_left fun table h => ?_
      have htype := hrow 1 table h
      rw [builtRow, if_neg (by omega), if_neg (by omega), if_pos htype]
      rfl
  · refine List.map_congr_left fun table h => ?_
    have htype := hrow 6 table h
    rw [builtRow, if_neg (by omega), if_neg (by omega), if_neg (by omega)]
    rfl

/-- A built row has the bytes of the structure of its table. -/
theorem builtRow_size {table : List UInt8} (h : StoredType (tableType table)) :
    (builtRow table).size = structSize table := by
  rcases h with htype | htype | htype | htype
  · simp [builtRow, structSize, htype]
  · simp [builtRow, structSize, htype]
  · simp [builtRow, structSize, htype, interleaveTableRow, interleaveRow]
  · simp [builtRow, structSize, htype]

/-- A built row is a table. -/
theorem builtRow_isTable (table : List UInt8) : Row.IsTable (builtRow table) := by
  rw [builtRow]
  split_ifs
  · exact ⟨show 4 ≤ platformInfoTableSize by decide, by simp [platformInfoFields]⟩
  · exact ⟨show 4 ≤ rtConfigTableSize by decide, by simp [runtimeValidationFields]⟩
  · refine ⟨?_, by simp [interleaveTableRow, interleaveRowFields]⟩
    rw [interleaveTableRow, memoryInterleaveTableSize]
    dsimp only
    omega
  · exact ⟨show 4 ≤ socketInfoTableSize by decide, by simp [socketSkuFields]⟩

/-- Regrouping adds nothing. -/
private theorem sum_regrouped_le (size : List UInt8 → ℕ) (tables : List (List UInt8)) :
    ((regrouped tables).map size).sum ≤ (tables.map size).sum := by
  induction tables with
  | nil => exact Nat.le_refl 0
  | cons table tables ih =>
    simp only [regrouped, List.map_append, List.sum_append] at ih ⊢
    rw [List.map_cons, List.sum_cons]
    by_cases h0 : tableType table = 0
    · simp [tablesOf, h0] at ih ⊢
      omega
    by_cases h1 : tableType table = 1
    · simp [tablesOf, h1] at ih ⊢
      omega
    by_cases h2 : tableType table = 2
    · simp [tablesOf, h2] at ih ⊢
      omega
    by_cases h6 : tableType table = 6
    · simp [tablesOf, h6] at ih ⊢
      omega
    · simp [tablesOf, h0, h1, h2, h6] at ih ⊢
      omega

/-- Tables that fill bytes have the lengths of the bytes. -/
private theorem sum_tableLength {rest : List UInt8} (h : (tablesFrom rest).2 = .done) :
    ((tablesFrom rest).1.map tableLength).sum = rest.length := by
  fun_induction tablesFrom rest with
  | case1 => rfl
  | case2 => cases h
  | case3 => cases h
  | case4 rest hnil hcut hbad behind ih =>
    have hle := not_or.mp hbad
    rw [List.map_cons, List.sum_cons, ih h, List.length_drop]
    omega

/-- The rebuilt PCAT is not longer. -/
theorem totalSize_dbRows_le {pcat : List UInt8} (h : WellFormed pcat) :
    pcatTableSize + totalSize ((regrouped (extTables pcat).1).map builtRow) ≤ pcat.length := by
  have hrows : ((regrouped (extTables pcat).1).map builtRow).map Row.size =
      (regrouped (extTables pcat).1).map structSize := by
    rw [List.map_map]
    exact List.map_congr_left fun table htable => builtRow_size (mem_regrouped.mp htable).2
  have hregrouped := sum_regrouped_le structSize (extTables pcat).1
  have hfields : ((extTables pcat).1.map structSize).sum ≤
      ((extTables pcat).1.map tableLength).sum := List.sum_le_sum h.fields
  have hlength := sum_tableLength h.filled
  have hheader := h.header_le
  rw [List.length_drop] at hlength
  rw [totalSize, hrows]
  change ((extTables pcat).1.map tableLength).sum = _ at hlength
  omega

/-- What is read of a table is the same. -/
structure SameTable (table' table : List UInt8) : Prop where
  /-- The type. -/
  type : tableType table' = tableType table
  /-- What the walk for the capabilities reads. -/
  decode : decode table' = decode table
  /-- What the walk for a socket reads. -/
  socket : tableType table = 6 → 32 ≤ table'.length ∧ socketInfo table' = socketInfo table

/-- A platform information table is decoded. -/
private theorem decode_platformInfo {table : List UInt8} (h : tableType table = 0)
    (hlength : 8 ≤ table.length) :
    decode table = some (.platformInfo (readLE (ofList table) 4 1) (readLE (ofList table) 5 1)
      (readLE (ofList table) 6 1) (readLE (ofList table) 7 1)) := by
  simp only [Pcat.decode]
  rw [if_neg (by omega), if_pos h, if_pos hlength]

/-- The interleave table with these fields. -/
def interleaveOf (memoryMode interleaveAlignmentSize : ℕ) (formats : List UInt32) : ExtTable :=
  (memModeOf memoryMode).elim .reserved fun mode => .interleave mode interleaveAlignmentSize formats

/-- An interleave table is decoded. -/
private theorem decode_interleave {table : List UInt8} (h : tableType table = 1)
    (hlength : 12 + 4 * supportedInterleaveCount table ≤ table.length) :
    decode table = some (interleaveOf (readLE (ofList table) 4 1) (readLE (ofList table) 8 2)
      (formatsFrom table 0 (supportedInterleaveCount table))) := by
  have hcount : 12 + 4 * readLE (ofList table) 10 2 ≤ table.length := hlength
  simp only [Pcat.decode]
  rw [if_neg (by omega), if_neg (by omega), if_pos h, if_pos (by omega), interleaveOf]
  cases memModeOf (readLE (ofList table) 4 1) with
  | none => rfl
  | some mode =>
    dsimp only
    rw [if_pos hcount]
    rfl

/-- A table of another type is decoded. -/
private theorem decode_other {table : List UInt8} (h0 : tableType table ≠ 0)
    (h1 : tableType table ≠ 1) (hlength : 4 ≤ table.length) : decode table = some .other := by
  simp only [Pcat.decode]
  rw [if_neg (by omega), if_neg h0, if_neg h1]

/-- A table that has its fields is decoded. -/
theorem exists_decode {table : List UInt8} (hheader : 4 ≤ table.length)
    (hsize : structSize table ≤ table.length) : ∃ t, decode table = some t := by
  rw [structSize] at hsize
  by_cases h0 : tableType table = 0
  · rw [if_pos h0, platformInfoTableSize] at hsize
    exact ⟨_, decode_platformInfo h0 (by omega)⟩
  by_cases h1 : tableType table = 1
  · rw [if_neg h0, if_pos h1, memoryInterleaveTableSize] at hsize
    exact ⟨_, decode_interleave h1 hsize⟩
  · exact ⟨_, decode_other h0 h1 hheader⟩

/-- What is read of a built table is what is read of the stored one. -/
theorem sameTable_of_holds {table' table : List UInt8} (htype : StoredType (tableType table))
    (hsize : structSize table ≤ table.length) (hlength : (builtRow table).size ≤ table'.length)
    (hholds : (builtRow table).Holds (ofList table') 0) : SameTable table' table := by
  have hread : ∀ d n v, (d, n, v) ∈ (builtRow table).fields → readLE (ofList table') d n = v := by
    intro d n v hmem
    have hfield := (hholds (d, n, v) hmem).2
    rwa [Nat.zero_add] at hfield
  rw [builtRow_size htype] at hlength
  rcases htype with h | h | h | h
  · have hrow : builtRow table =
        ⟨platformInfoTableSize, platformInfoFields (platformInfoRow table)⟩ := by
      rw [builtRow, if_pos h]
    have hstruct : structSize table = 16 := by rw [structSize, if_pos h]; rfl
    rw [hrow] at hread
    have htype' : tableType table' = 0 := hread 0 2 0 (by simp [platformInfoFields])
    refine ⟨by rw [htype', h], ?_, fun h6 => absurd h6 (by omega)⟩
    rw [decode_platformInfo htype' (by omega), decode_platformInfo h (by omega),
      hread 4 1 (platformInfoRow table).mgmtSwConfigSupport (by simp [platformInfoFields]),
      hread 5 1 (platformInfoRow table).memModeCapabilities (by simp [platformInfoFields]),
      hread 6 1 (platformInfoRow table).currentMemMode (by simp [platformInfoFields]),
      hread 7 1 (platformInfoRow table).pmemRasCapabilities (by simp [platformInfoFields])]
    rfl
  · have hrow : builtRow table =
        ⟨rtConfigTableSize, runtimeValidationFields (runtimeValidationRow table)⟩ := by
      rw [builtRow, if_neg (by omega), if_pos h]
    have hstruct : structSize table = 64 := by
      rw [structSize, if_neg (by omega), if_neg (by omega), if_pos h]
      rfl
    rw [hrow] at hread
    have htype' : tableType table' = 2 := hread 0 2 2 (by simp [runtimeValidationFields])
    refine ⟨by rw [htype', h], ?_, fun h6 => absurd h6 (by omega)⟩
    rw [decode_other (by omega) (by omega) (by omega), decode_other (by omega) (by omega) (by omega)]
  · have hrow : builtRow table = interleaveTableRow (interleaveRow table) := by
      rw [builtRow, if_neg (by omega), if_neg (by omega), if_pos h]
    have hstruct : structSize table = 12 + 4 * supportedInterleaveCount table := by
      rw [structSize, if_neg (by omega), if_pos h]
      rfl
    rw [hrow] at hread
    have htype' : tableType table' = 1 :=
      hread 0 2 1 (by simp [interleaveTableRow, interleaveRowFields])
    have hcount : supportedInterleaveCount table' = supportedInterleaveCount table :=
      hread 10 2 _ (by simp [interleaveTableRow, interleaveRowFields, interleaveRow])
    have hformats : formatsFrom table' 0 (supportedInterleaveCount table) =
        formatsFrom table 0 (supportedInterleaveCount table) := by
      refine List.map_congr_left fun i hi => ?_
      have hlt : i < supportedInterleaveCount table := by
        rw [List.mem_range'_1] at hi
        omega
      have hmem : (12 + 4 * i, 4, (interleaveRow table).interleaveFormatList i) ∈
          (interleaveTableRow (interleaveRow table)).fields :=
        List.mem_append_right _ (List.mem_map.mpr ⟨i, List.mem_range.mpr hlt, rfl⟩)
      rw [hread _ _ _ hmem, interleaveRow]
      dsimp only
      rw [if_pos hlt]
    refine ⟨by rw [htype', h], ?_, fun h6 => absurd h6 (by omega)⟩
    rw [decode_interleave htype' (by rw [hcount]; omega), decode_interleave h (by omega), hcount,
      hformats, hread 4 1 (interleaveRow table).memoryMode
        (by simp [interleaveTableRow, interleaveRowFields]),
      hread 8 2 (interleaveRow table).interleaveAlignmentSize
        (by simp [interleaveTableRow, interleaveRowFields])]
    rfl
  · have hrow : builtRow table = ⟨socketInfoTableSize, socketSkuFields (socketSkuRow table)⟩ := by
      rw [builtRow, if_neg (by omega), if_neg (by omega), if_neg (by omega)]
    have hstruct : structSize table = 32 := by
      rw [structSize, if_neg (by omega), if_neg (by omega), if_neg (by omega), if_pos h]
      rfl
    rw [hrow] at hread
    have htype' : tableType table' = 6 := hread 0 2 6 (by simp [socketSkuFields])
    refine ⟨by rw [htype', h], ?_, fun _ => ⟨by omega, ?_⟩⟩
    · rw [decode_other (by omega) (by omega) (by omega),
        decode_other (by omega) (by omega) (by omega)]
    · rw [socketInfo,
        hread 4 2 (socketSkuRow table).info.nodeId (by simp [socketSkuFields]),
        hread 8 8 (socketSkuRow table).info.mappedMemoryLimit (by simp [socketSkuFields]),
        hread 16 8 (socketSkuRow table).info.totalMappedMemory (by simp [socketSkuFields]),
        hread 24 8 (socketSkuRow table).info.total2lmDdrCacheMemory (by simp [socketSkuFields])]
      rfl

end IxpDimm.Pcat
