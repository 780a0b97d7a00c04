import IxpDimm.PcdDatabase.Contents
import IxpDimm.PcdDatabase.Rebuilt
import IxpDimm.PcdDatabase.Sizes

/-!
# Reading what is built

Extension tables that are laid out one behind the other are a list that the check of the data accepts,
and the walk over it visits each of them (`extensionList_of_laidOut`, `extensionWalk_of_laidOut`).
What the tables of stored rows say there is what the rows say, but no interleave set is a spare
(`contents_extensions`).
-/

namespace IxpDimm.PcdDatabase

open Foundation

/-! ### Walks over rows -/

/-- Rows are an extension table of a type: the first of them says the type and the size of all. -/
structure ExtensionRows (type : ℕ) (rows : List Row) : Prop where
  /-- The header. -/
  header : ∃ row rest, rows = row :: rest ∧ (0, 2, type) ∈ row.fields ∧
    (2, 2, totalSize rows) ∈ row.fields
  /-- The table is as long as its header at least. -/
  size : extensionTableHeaderSize ≤ totalSize rows

/-- The offsets of tables one behind the other. -/
def startsFrom : ℕ → List (List Row) → List ℕ
  | _, [] => []
  | t, table :: tables => t :: startsFrom (t + totalSize table) tables

section Walks

variable {m : Bytes} {t type : ℕ}

/-- The type and the length of an extension table. -/
private theorem ExtensionRows.read {rows : List Row} (h : ExtensionRows type rows)
    (hlaid : LaidOut m t rows) : extensionType m t = type ∧ extensionLength m t = totalSize rows := by
  obtain ⟨row, rest, hrows, htype, hlength⟩ := h.header
  rw [hrows] at hlaid
  exact ⟨(hlaid.1 _ htype).2, (hlaid.1 _ hlength).2⟩

/-- Extension tables that are laid out are accepted. -/
theorem extensionList_of_laidOut {tables : List (List Row)}
    (h : ∀ rows ∈ tables, ∃ type, ExtensionRows type rows) (hlaid : LaidOut m t tables.flatten) :
    ExtensionList m (t + totalSize tables.flatten) t := by
  induction tables generalizing t with
  | nil => exact .done
  | cons rows tables ih =>
    obtain ⟨⟨type, hrows⟩, hrest⟩ := List.forall_mem_cons.mp h
    rw [List.flatten_cons, laidOut_append] at hlaid
    obtain ⟨-, hlength⟩ := hrows.read hlaid.1
    have hsize := hrows.size
    have hnext := ih hrest hlaid.2
    rw [List.flatten_cons, totalSize_append, ← Nat.add_assoc]
    unfold extensionTableHeaderSize at hsize
    refine .entry (by omega) (by rw [hlength]; exact hrows.size) (by omega) ?_
    rwa [hlength]

/-- The walk over extension tables that are laid out visits each of them. -/
theorem extensionWalk_of_laidOut {tables : List (List Row)}
    (h : ∀ rows ∈ tables, ∃ type, ExtensionRows type rows) (hlaid : LaidOut m t tables.flatten)
    (hbound : t + totalSize tables.flatten < 2 ^ 32) :
    ExtensionWalk m (t + totalSize tables.flatten) t (startsFrom t tables) := by
  induction tables generalizing t with
  | nil => exact .done le_rfl
  | cons rows tables ih =>
    obtain ⟨⟨type, hrows⟩, hrest⟩ := List.forall_mem_cons.mp h
    rw [List.flatten_cons, laidOut_append] at hlaid
    rw [List.flatten_cons, totalSize_append, ← Nat.add_assoc] at hbound ⊢
    obtain ⟨-, hlength⟩ := hrows.read hlaid.1
    have hsize := hrows.size
    have hmod : (t + extensionLength m t) % 2 ^ 32 = t + totalSize rows := by
      rw [hlength]
      exact Nat.mod_eq_of_lt (by omega)
    unfold extensionTableHeaderSize at hsize
    refine .entry (by omega) (by rw [hlength]; exact hrows.size) (by rw [hmod]; omega) ?_
    rw [hmod]
    exact ih hrest hlaid.2 hbound

/-- Tables behind tables. -/
theorem startsFrom_append (tables tables' : List (List Row)) :
    startsFrom t (tables ++ tables') =
      startsFrom t tables ++ startsFrom (t + totalSize tables.flatten) tables' := by
  induction tables generalizing t with
  | nil => rfl
  | cons rows tables ih =>
    rw [List.cons_append, startsFrom, ih, startsFrom, List.flatten_cons, totalSize_append,
      Nat.add_assoc, List.cons_append]

/-- Of tables of one type all have this type, and none another. -/
theorem ofType_startsFrom {tables : List (List Row)} (h : ∀ rows ∈ tables, ExtensionRows type rows)
    (hlaid : LaidOut m t tables.flatten) (type' : ℕ) :
    ofType m type' (startsFrom t tables) = if type = type' then startsFrom t tables else [] := by
  induction tables generalizing t with
  | nil => rw [startsFrom, ite_self]; rfl
  | cons rows tables ih =>
    obtain ⟨hrows, hrest⟩ := List.forall_mem_cons.mp h
    rw [List.flatten_cons, laidOut_append] at hlaid
    obtain ⟨htype, -⟩ := hrows.read hlaid.1
    have hnext := ih hrest hlaid.2
    rw [ofType] at hnext ⊢
    rw [startsFrom, List.filter_cons, hnext, htype]
    split_ifs <;> simp_all

/-- What is read at tables that were made from a list is what each of them says. -/
theorem map_startsFrom {α β : Type} {toRows : α → List Row} {read : ℕ → β} {value : α → β}
    {l : List α} (h : ∀ x ∈ l, ∀ a, LaidOut m a (toRows x) → read a = value x)
    (hlaid : LaidOut m t (l.map toRows).flatten) :
    (startsFrom t (l.map toRows)).map read = l.map value := by
  induction l generalizing t with
  | nil => rfl
  | cons x l ih =>
    obtain ⟨hx, hrest⟩ := List.forall_mem_cons.mp h
    rw [List.map_cons, List.flatten_cons, laidOut_append] at hlaid
    rw [List.map_cons, startsFrom, List.map_cons, List.map_cons, hx t hlaid.1, ih hrest hlaid.2]

end Walks

/-! ### The extension tables of a sub-table -/

/-- The partition size change of a row. -/
def partitionChangeOf (row : DbDimmPartitionChange) : PartitionChange :=
  ⟨row.status, row.partitionSize⟩

/-- The partition size change table of a row in a buffer. -/
def partitionRow (row : DbDimmPartitionChange) : Row where
  size := partitionSizeChangeTableSize
  fields := partitionChangeFields row

/-- The DIMM of a row. -/
def dimmRecordOf (row : DbInterleaveSetDimmInfoV2) : DimmRecord where
  uid := readLE (ofList (deviceUidStringToBytes row.deviceUid)) 0 9
  offset := row.offset
  size := row.size

section Extensions

variable (db : PcdDb) (handle : UInt32) (kind : TableKind)

/-- The interleave set of a row; it is no spare. -/
def interleaveSetOf (row : DbDimmInterleaveSet) : InterleaveSet where
  index := row.indexId
  memoryType := row.memoryType
  interleaveFormat := row.interleaveFormat
  mirrorEnable := row.mirrorEnable
  status := row.status
  memSpare := 0
  dimms := (dimmsOf db handle kind row).map dimmRecordOf

/-- The row of the partition size change table of a sub-table; a current config has none. -/
def partitionOf : Option DbDimmPartitionChange :=
  if kind = .currentConfig then none
  else db.partitionChanges.find? (DbDimmPartitionChange.isOf handle kind)

/-- The extension tables that are built for a sub-table. -/
def extensionTables : List (List Row) :=
  (partitionOf db handle kind).toList.map (fun row => [partitionRow row]) ++
    (interleaveSetsOf db handle kind).map (interleaveTableRows db handle kind)

/-- The values of the rows of extension tables fit in the fields. -/
structure ExtensionsValid : Prop where
  /-- The type of a partition size change table. -/
  partitionType : ∀ row ∈ partitionOf db handle kind, row.extensionTableType = partitionChangeTable
  /-- The fields of a partition size change table. -/
  partition : ∀ row ∈ partitionOf db handle kind,
    FieldsValid partitionSizeChangeTableSize (partitionChangeFields row)
  /-- The types of interleave tables. -/
  interleaveTypes : ∀ row ∈ interleaveSetsOf db handle kind, row.extensionTableType = interleaveTable
  /-- The interleave tables. -/
  interleaves : ∀ row ∈ interleaveSetsOf db handle kind, InterleaveRowValid db handle kind row

variable {db handle kind} {m : Bytes}

/-- The DIMMs of rows are read. -/
private theorem dimmRecordsAt_of_laidOut {ds : List DbInterleaveSetDimmInfoV2} {b : ℕ}
    (h : LaidOut m b (ds.map dimmRow)) : dimmRecordsAt m b ds.length = ds.map dimmRecordOf := by
  induction ds generalizing b with
  | nil => rfl
  | cons d ds ih =>
    obtain ⟨hd, hrest⟩ := h
    have hrecord : dimmRecordAt m b = dimmRecordOf d := by
      have huid := (hd (0, 9, (dimmRecordOf d).uid) (by simp [dimmRow, dimmRecordOf])).2
      have hoffset := (hd (32, 8, d.offset) (by simp [dimmRow])).2
      have hsize := (hd (40, 8, d.size) (by simp [dimmRow])).2
      rw [Nat.add_zero] at huid
      rw [dimmRecordAt, huid, hoffset, hsize]
      rfl
    have hnext := ih hrest
    rw [dimmRecordsAt] at hnext ⊢
    rw [List.length_cons, List.range_succ_eq_map, List.map_cons, List.map_cons, List.map_map,
      Nat.mul_zero, Nat.add_zero, hrecord, ← hnext]
    refine congrArg _ (List.map_congr_left fun i _ => ?_)
    rw [Function.comp_apply, Nat.mul_succ, Nat.add_assoc]
    congr 1
    rw [Nat.add_comm (dimmInfoTableSize * i)]
    rfl

/-- The interleave set of a row is read. -/
private theorem interleaveSetAt_of_laidOut {row : DbDimmInterleaveSet} {a : ℕ}
    (h : InterleaveRowValid db handle kind row)
    (hlaid : LaidOut m a (interleaveTableRows db handle kind row)) :
    interleaveSetAt m a = interleaveSetOf db handle kind row := by
  obtain ⟨hheader, hdimms⟩ := hlaid
  have hfield : ∀ {d n v}, (d, n, v) ∈ (interleaveHeader row (interleaveSize row)).fields →
      readLE m (a + d) n = v := fun hmem => (hheader _ hmem).2
  have hcount : dimmCount m a = (dimmsOf db handle kind row).length := by
    rw [h.count]
    exact hfield (d := 6) (n := 1) (by simp [interleaveHeader, interleaveSetFields])
  have hdimms' := dimmRecordsAt_of_laidOut hdimms
  rw [interleaveSetAt, interleaveSetOf, hcount]
  congr 1
  · exact hfield (by simp [interleaveHeader, interleaveSetFields])
  · exact hfield (by simp [interleaveHeader, interleaveSetFields])
  · exact hfield (by simp [interleaveHeader, interleaveSetFields])
  · exact hfield (by simp [interleaveHeader, interleaveSetFields])
  · exact hfield (by simp [interleaveHeader, interleaveSetFields])
  · exact hfield (by simp [interleaveHeader, interleaveSetFields])

/-- The partition size change of a row is read. -/
private theorem partitionChangeAt_of_laidOut {row : DbDimmPartitionChange} {a : ℕ}
    (hlaid : LaidOut m a [partitionRow row]) : partitionChangeAt m a = partitionChangeOf row := by
  have hfield : ∀ {d n v}, (d, n, v) ∈ (partitionRow row).fields → readLE m (a + d) n = v :=
    fun hmem => (hlaid.1 _ hmem).2
  rw [partitionChangeAt, partitionChangeOf]
  congr 1
  · exact hfield (by simp [partitionRow, partitionChangeFields])
  · exact hfield (by simp [partitionRow, partitionChangeFields])

/-- The partition size change table of a row is an extension table. -/
private theorem extensionRows_partition {row : DbDimmPartitionChange}
    (h : row.extensionTableType = partitionChangeTable) :
    ExtensionRows partitionChangeTable [partitionRow row] := by
  refine ⟨⟨partitionRow row, [], rfl, ?_, ?_⟩, ?_⟩
  · simp [partitionRow, partitionChangeFields, h]
  · simp [partitionRow, partitionChangeFields]
  · show extensionTableHeaderSize ≤ partitionSizeChangeTableSize
    decide

/-- The interleave table of a row is an extension table. -/
private theorem extensionRows_interleave {row : DbDimmInterleaveSet}
    (h : InterleaveRowValid db handle kind row) (htype : row.extensionTableType = interleaveTable) :
    ExtensionRows interleaveTable (interleaveTableRows db handle kind row) := by
  refine ⟨⟨interleaveHeader row (interleaveSize row), _, rfl, ?_, ?_⟩, ?_⟩
  · simp [interleaveHeader, htype]
  · rw [h.totalSize_eq]
    simp [interleaveHeader]
  · rw [h.totalSize_eq]
    exact Nat.le_add_right_of_le (by decide)

/-- The rows of the partition size change table and those of the interleave tables. -/
theorem extensionTables_flatten : (extensionTables db handle kind).flatten =
    ((partitionOf db handle kind).toList.map fun row => [partitionRow row]).flatten ++
      (interleaveSetsOf db handle kind).flatMap (interleaveTableRows db handle kind) := by
  rw [extensionTables, List.flatten_append, List.flatMap_def]

section Valid

variable (h : ExtensionsValid db handle kind)

include h

/-- The extension tables of a sub-table are extension tables. -/
theorem ExtensionsValid.extensionRows :
    ∀ rows ∈ extensionTables db handle kind, ∃ type, ExtensionRows type rows := by
  intro rows hrows
  rcases List.mem_append.mp hrows with hpartition | hset
  · obtain ⟨row, hrow, rfl⟩ := List.mem_map.mp hpartition
    exact ⟨_, extensionRows_partition (h.partitionType row (Option.mem_toList.mp hrow))⟩
  · obtain ⟨row, hrow, rfl⟩ := List.mem_map.mp hset
    exact ⟨_, extensionRows_interleave (h.interleaves row hrow) (h.interleaveTypes row hrow)⟩

/-- What extension tables say is what their rows say. -/
theorem ExtensionsValid.contents (hlaid : LaidOut m 0 (extensionTables db handle kind).flatten) :
    let offsets := startsFrom 0 (extensionTables db handle kind)
    (ofType m partitionChangeTable offsets).map (partitionChangeAt m) =
        (partitionOf db handle kind).toList.map partitionChangeOf ∧
      (ofType m interleaveTable offsets).map (interleaveSetAt m) =
        (interleaveSetsOf db handle kind).map (interleaveSetOf db handle kind) := by
  rw [extensionTables, List.flatten_append, laidOut_append] at hlaid
  obtain ⟨hpartition, hsets⟩ := hlaid
  have hpartitions : ∀ rows ∈ (partitionOf db handle kind).toList.map fun row => [partitionRow row],
      ExtensionRows partitionChangeTable rows := by
    intro rows hrows
    obtain ⟨row, hrow, rfl⟩ := List.mem_map.mp hrows
    exact extensionRows_partition (h.partitionType row (Option.mem_toList.mp hrow))
  have hinterleaves : ∀ rows ∈
      (interleaveSetsOf db handle kind).map (interleaveTableRows db handle kind),
      ExtensionRows interleaveTable rows := by
    intro rows hrows
    obtain ⟨row, hrow, rfl⟩ := List.mem_map.mp hrows
    exact extensionRows_interleave (h.interleaves row hrow) (h.interleaveTypes row hrow)
  have hother : partitionChangeTable ≠ interleaveTable := by decide
  have hsplit : ∀ type l l', ofType m type (l ++ l') = ofType m type l ++ ofType m type l' :=
    fun type l l' => List.filter_append l l'
  dsimp only
  rw [extensionTables, startsFrom_append, hsplit, hsplit, ofType_startsFrom hpartitions hpartition,
    ofType_startsFrom hpartitions hpartition, ofType_startsFrom hinterleaves hsets,
    ofType_startsFrom hinterleaves hsets, if_pos rfl, if_pos rfl, if_neg hother, if_neg hother.symm,
    List.append_nil, List.nil_append]
  constructor
  · exact map_startsFrom (fun _ _ _ hlaid => partitionChangeAt_of_laidOut hlaid) hpartition
  · exact map_startsFrom
      (fun row hrow _ hlaid => interleaveSetAt_of_laidOut (h.interleaves row hrow) hlaid) hsets

/-- The size of the interleave tables of a sub-table. -/
theorem ExtensionsValid.totalSize_interleaves :
    totalSize ((interleaveSetsOf db handle kind).flatMap (interleaveTableRows db handle kind)) =
      ((interleaveSetsOf db handle kind).map interleaveSize).sum := by
  have hrows := h.interleaves
  generalize interleaveSetsOf db handle kind = rows at hrows ⊢
  induction rows with
  | nil => rfl
  | cons row rows ih =>
    obtain ⟨hrow, hrest⟩ := List.forall_mem_cons.mp hrows
    rw [List.flatMap_cons, totalSize_append, hrow.totalSize_eq, ih hrest, List.map_cons,
      List.sum_cons]

/-- The size of the extension tables of a sub-table. -/
theorem ExtensionsValid.totalSize_eq : totalSize (extensionTables db handle kind).flatten =
    partitionSizeChangeTableSize * (partitionOf db handle kind).toList.length +
      ((interleaveSetsOf db handle kind).map interleaveSize).sum := by
  rw [extensionTables_flatten, totalSize_append, h.totalSize_interleaves]
  congr 1
  cases partitionOf db handle kind <;> rfl

end Valid

end Extensions

end IxpDimm.PcdDatabase
