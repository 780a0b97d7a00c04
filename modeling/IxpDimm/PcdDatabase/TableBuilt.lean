import IxpDimm.PcdDatabase.Building
import IxpDimm.PcdDatabase.ExtensionRows

/-!
# A sub-table built from the database

A sub-table is built behind the data so far: its fields, its partition size change table and its
interleave tables, and the lengths go up with each of them (`UnderConstruction`); at last its checksum
is set.  With room for all of it this succeeds, and whenever it succeeds the sub-table of the rows is
there (`TableBuilt`).  Such a sub-table is valid and says what the rows say.
-/

namespace IxpDimm.PcdDatabase

open Foundation

/-! ### Rows of a sub-table -/

/-- The fields of the sub-table of a row, with a length. -/
def tableRow (kind : TableKind) (row : DbConfigTable) (length : ℕ) : Row where
  size := kind.structSize
  fields := headerFields row.header length ++ bodyFields kind row.body

section Rows

variable (db : PcdDb) (handle : UInt32) (kind : TableKind) (row : DbConfigTable)

/-- The size of the sub-table that is built. -/
def builtTableSize : ℕ := kind.structSize + totalSize (extensionTables db handle kind).flatten

/-- The values of the row of a sub-table and of its extension tables fit in the fields. -/
structure TableRowValid : Prop where
  /-- The revision of the sub-table. -/
  revision : getTableRevision db handle kind ≠ some 1
  /-- The fields. -/
  fields : FieldsValid kind.structSize (tableRow kind row kind.structSize).fields
  /-- The signature. -/
  signature : row.header.signature = readLE (ofList kind.signature) 0 4
  /-- The number of columns behind the header. -/
  body : row.body.length = (bodyPlaces kind).length
  /-- The extension tables. -/
  extensions : ExtensionsValid db handle kind
  /-- The size is that of an `int`. -/
  size : builtTableSize db handle kind < 2 ^ 31

/-- The sub-table of a row is at an address. -/
structure TableBuilt (m : Bytes) (a : ℕ) : Prop where
  /-- The fields. -/
  header : (tableRow kind row (builtTableSize db handle kind)).Holds m a
  /-- The extension tables. -/
  extensions : LaidOut m (a + kind.structSize) (extensionTables db handle kind).flatten
  /-- The checksum. -/
  checksum : sumBytes m a (builtTableSize db handle kind) = 0

/-- What the rows of a sub-table say. -/
def contentsOf : TableContents where
  body := row.body
  partitions := (partitionOf db handle kind).toList.map partitionChangeOf
  interleaves := (interleaveSetsOf db handle kind).map (interleaveSetOf db handle kind)

end Rows

/-! ### Valid sub-tables -/

/-- A signature is that of its number. -/
theorem headerSignature_eq_iff {m : Bytes} {sig : List UInt8} (h : sig.length = 4) :
    headerSignature m = sig ↔ readLE m 0 4 = readLE (ofList sig) 0 4 := by
  obtain ⟨b₀, b₁, b₂, b₃, rfl⟩ := List.length_eq_four.mp h
  constructor
  · intro heq
    simp only [headerSignature, List.cons.injEq] at heq
    obtain ⟨h₀, h₁, h₂, h₃, -⟩ := heq
    simp [readLE, ofList, h₀, h₁, h₂, h₃]
  · intro heq
    have hsame := sameBytes_of_readLE_eq heq
    rw [headerSignature, hsame 0 (by omega) (by omega), hsame 1 (by omega) (by omega),
      hsame 2 (by omega) (by omega), hsame 3 (by omega) (by omega)]
    rfl

section Valid

variable {db : PcdDb} {handle : UInt32} {kind : TableKind} {row : DbConfigTable} {m m' : Bytes}
  {a : ℕ}

/-- A sub-table depends on its bytes only. -/
theorem TableBuilt.congr (h : TableBuilt db handle kind row m a)
    (hsame : SameBytes m' m a (builtTableSize db handle kind)) :
    TableBuilt db handle kind row m' a := by
  have hchecksum := h.checksum
  rw [← sumBytes_congr hsame] at hchecksum
  rw [builtTableSize] at hsame
  refine ⟨h.header.congr (hsame.mono le_rfl ?_),
    h.extensions.congr (hsame.mono (by omega) (by omega)), hchecksum⟩
  show a + kind.structSize ≤ _
  omega

/-- The length of a sub-table. -/
private theorem TableBuilt.length (h : TableBuilt db handle kind row m a) :
    headerLength (view m a) = builtTableSize db handle kind := by
  have hlength := (h.header (4, 4, builtTableSize db handle kind)
    (by simp [tableRow, headerFields])).2
  rwa [← readLE_view] at hlength

/-- The columns behind the header are read at their places. -/
private theorem map_readLE_places {places : List (ℕ × ℕ)} {body : List ℕ}
    (hlength : body.length = places.length)
    (h : ∀ f ∈ List.zipWith (fun place v => ((place.1, place.2, v) : FieldValue)) places body,
      readLE m f.1 f.2.1 = f.2.2) :
    (places.map fun place => readLE m place.1 place.2) = body := by
  induction places generalizing body with
  | nil => exact (List.eq_nil_of_length_eq_zero hlength).symm
  | cons place places ih =>
    obtain _ | ⟨v, body⟩ := body
    · cases hlength
    · rw [List.zipWith_cons_cons, List.forall_mem_cons] at h
      rw [List.map_cons, ih (Nat.succ.inj hlength) h.2]
      exact congrArg (· :: body) h.1

variable (hvalid : TableRowValid db handle kind row)

include hvalid

/-- A sub-table of a row is valid. -/
theorem TableBuilt.sound (h : TableBuilt db handle kind row m a) :
    headerLength (view m a) = builtTableSize db handle kind ∧ TableSound kind (view m a) := by
  have hlength := h.length
  have hsize := hvalid.size
  have hsignature : headerSignature (view m a) = kind.signature := by
    have hread := (h.header (0, 4, row.header.signature) (by simp [tableRow, headerFields])).2
    rw [headerSignature_eq_iff (by cases kind <;> rfl), readLE_view, hread, hvalid.signature]
  have hlist := @extensionList_of_laidOut (extTables kind (view m a)) 0 _
    hvalid.extensions.extensionRows (by
      rw [extTables, view_view, laidOut_view, Nat.add_zero]
      exact h.extensions)
  rw [Nat.zero_add] at hlist
  refine ⟨hlength, ?_, ?_, ?_⟩
  · rw [hlength]
    exact Nat.le_add_right _ _
  · unfold isConfigDataTableHeaderValid verifyChecksum
    rw [hlength, if_neg (lt_irrefl _), sumBytes_view, Nat.add_zero, h.checksum, hsignature]
    simp
  · rw [hlength, builtTableSize, Nat.add_sub_cancel_left,
      returns_isExtensionTableListValid_iff (by unfold builtTableSize at hsize; omega)]
    exact hlist

/-- A sub-table of a row says what the rows say. -/
theorem TableBuilt.contents_eq (h : TableBuilt db handle kind row m a) :
    contents kind (view m a) = contentsOf db handle kind row := by
  have hsize := hvalid.size
  have hlaid : LaidOut (extTables kind (view m a)) 0 (extensionTables db handle kind).flatten := by
    rw [extTables, view_view, laidOut_view, Nat.add_zero]
    exact h.extensions
  have hwalk := extensionWalk_of_laidOut hvalid.extensions.extensionRows hlaid
    (by unfold builtTableSize at hsize; omega)
  have hoffsets : extensionsOf kind (view m a) = startsFrom 0 (extensionTables db handle kind) := by
    refine extensionsOf_eq ?_
    rw [h.length, builtTableSize, Nat.add_sub_cancel_left]
    rwa [Nat.zero_add] at hwalk
  obtain ⟨hpartitions, hinterleaves⟩ := hvalid.extensions.contents hlaid
  have hbody : dbBody kind (view m a) = row.body := by
    refine map_readLE_places hvalid.body fun f hf => ?_
    rw [readLE_view]
    exact (h.header f (List.mem_append_right _ hf)).2
  rw [contents, hoffsets, contentsAt, contentsOf, hbody, hpartitions, hinterleaves]

end Valid

/-! ### Building a sub-table -/

/-- The bytes before an address that do not say where a sub-table is and how long the data is stay. -/
def StaysBefore (kind : TableKind) (a : ℕ) (m m' : Bytes) : Prop :=
  ∀ i, i < a → OutsideLengths kind i → m' i = m i

/-- What stays twice. -/
theorem StaysBefore.trans {kind : TableKind} {a : ℕ} {m₁ m₂ m₃ : Bytes}
    (h : StaysBefore kind a m₁ m₂) (h' : StaysBefore kind a m₂ m₃) : StaysBefore kind a m₁ m₃ :=
  fun i hi houtside => (h' i hi houtside).trans (h i hi houtside)

/-- The sub-table of a row is being built at an address, and has some extension tables so far. -/
structure UnderConstruction (kind : TableKind) (row : DbConfigTable) (m : Bytes) (a : ℕ)
    (rows : List Row) : Prop where
  /-- The header of the data. -/
  state : AtTable kind (tablesBefore kind) m a (kind.structSize + totalSize rows)
  /-- The fields of the sub-table. -/
  header : (tableRow kind row (kind.structSize + totalSize rows)).Holds m a
  /-- The extension tables. -/
  extensions : LaidOut m (a + kind.structSize) rows
  /-- There is nothing behind them. -/
  blank : Blank m (a + (kind.structSize + totalSize rows))

section Construction

variable {kind : TableKind} {row : DbConfigTable} {m m' : Bytes} {a : ℕ} {rows rows' : List Row}
  (hfields : FieldsValid kind.structSize (tableRow kind row kind.structSize).fields)
  (hstart : platformConfigDataSize ≤ a)

include hfields hstart

/-- The fields of a sub-table are written. -/
theorem underConstruction_of_begin {t : ℕ} (h : AtTable kind (tablesBefore kind) m a t)
    (ht : t = kind.structSize) (hblank : Blank m a) :
    let m' := writeFields m a (headerFields row.header kind.structSize ++ bodyFields kind row.body)
    UnderConstruction kind row m' a [] ∧ StaysBefore kind a m m' := by
  subst ht
  have hgrows : Grows m (writeFields m a (tableRow kind row kind.structSize).fields) a
      [⟨kind.structSize, (tableRow kind row kind.structSize).fields ++ []⟩] :=
    FieldsValid.grows (by rwa [List.append_nil]) (List.forall_mem_nil _) hblank
  rw [List.append_nil] at hgrows
  refine ⟨⟨h.congr fun i hi => hgrows.before i (Nat.zero_le _) (by omega), hgrows.laidOut.1, trivial,
    hgrows.blank⟩, fun i hi _ => hgrows.before i (Nat.zero_le _) (by omega)⟩

/-- The length in the fields of a sub-table goes up. -/
private theorem holds_addToLengths {t n : ℕ} (h : AtTable kind (tablesBefore kind) m a t)
    (hholds : (tableRow kind row t).Holds m a) (hrange : t + n < 2 ^ 32) :
    (tableRow kind row (t + n)).Holds (addToLengths kind m n) a := by
  obtain ⟨hlow, -⟩ := lt_structSize kind
  have hlength : headerLength (tableAt kind m) = t := by
    rw [tableAt, headerLength, readLE_view, h.offset]
    exact (hholds (4, 4, t) (by simp [tableRow, headerFields])).2
  -- the field of the length is the second one
  obtain ⟨hsignature, hrest⟩ := List.pairwise_cons.mp hfields.disjoint
  obtain ⟨hbehind, -⟩ := List.pairwise_cons.mp hrest
  have hapart : ∀ f ∈ [((0, 4, row.header.signature) : FieldValue)] ++
      ((headerFields row.header t).drop 2 ++ bodyFields kind row.body),
      FieldsDisjoint (4, 4, t) f := by
    intro f hf
    rcases List.mem_append.mp hf with hfirst | hmem
    · obtain rfl := List.mem_singleton.mp hfirst
      exact Or.inr (show 0 + 4 ≤ 4 by decide)
    · exact hbehind f hmem
  have hset := @Row.Holds.overwrite kind.structSize 4 4 t (t + n) [(0, 4, row.header.signature)]
    ((headerFields row.header t).drop 2 ++ bodyFields kind row.body) m a hholds hapart hrange
  rw [addToLengths, hlength, h.offset]
  refine Row.Holds.congr hset fun i hi _ => ?_
  rw [writeLE, copy_apply_of_notMem, writeLE, copy_apply_of_notMem]
  · dsimp only [platformConfigDataSize] at hstart
    omega
  · have hend := (@outsideLengths_of_le kind i (hstart.trans hi)).2
    omega

/-- Extension tables are written behind the sub-table, and the lengths go up. -/
theorem UnderConstruction.extend (h : UnderConstruction kind row m a rows)
    (hgrows : Grows m m' (a + (kind.structSize + totalSize rows)) rows')
    (hrange : a + (kind.structSize + totalSize (rows ++ rows')) < 2 ^ 32) :
    UnderConstruction kind row (addToLengths kind m' (totalSize rows')) a (rows ++ rows') ∧
      StaysBefore kind a m (addToLengths kind m' (totalSize rows')) := by
  rw [totalSize_append, ← Nat.add_assoc] at hrange
  obtain ⟨hlow, -⟩ := lt_structSize kind
  have hbefore := hgrows.before
  have hstate := h.state.congr fun i hi => hbefore i (Nat.zero_le _) (by omega)
  obtain ⟨hstate', hframe⟩ := hstate.addToLengths (notMem_tablesBefore kind)
    (n := totalSize rows') hstart (by omega)
  have hheader := h.header.congr (hbefore.mono (Nat.zero_le a)
    (by show a + kind.structSize ≤ _; omega))
  have hbehind : ∀ i, a + 8 ≤ i → addToLengths kind m' (totalSize rows') i = m' i :=
    fun i hi => hframe i (outsideLengths_of_le (by omega)) (Or.inr hi)
  refine ⟨⟨?_, ?_, ?_, ?_⟩, fun i hi houtside => ?_⟩
  · rwa [totalSize_append, ← Nat.add_assoc]
  · rw [totalSize_append, ← Nat.add_assoc]
    exact holds_addToLengths hfields hstart hstate hheader (by omega)
  · have hrows := h.extensions.congr (hbefore.mono (Nat.zero_le _) (by omega))
    refine (laidOut_append.mpr ⟨hrows, ?_⟩).congr fun i hi _ => hbehind i (by omega)
    rw [Nat.add_assoc]
    exact hgrows.laidOut
  · intro i hi
    rw [totalSize_append] at hi
    rw [hbehind i (by omega)]
    exact hgrows.blank i (by omega)
  · rw [hframe i houtside (Or.inl (by omega))]
    exact hbefore i (Nat.zero_le _) (by omega)

end Construction

/-! ### The partition size change table -/

section Spec

variable {db : PcdDb} {handle : UInt32} {kind : TableKind} {size a : ℕ}

/-- The partition size change table of a sub-table is written if there is one: with room it succeeds,
and when it succeeds it is there. -/
private theorem getPartitionTableFromDb_spec (h : ExtensionsValid db handle kind) {m : Bytes}
    (hlength : headerLength m = a) (hblank : Blank m a) :
    let rows := ((partitionOf db handle kind).toList.map fun row => [partitionRow row]).flatten
    let result := getPartitionTableFromDb kind db handle m a size
    (a + totalSize rows ≤ size → result.1 = .ok (totalSize rows)) ∧
      ∀ n, result.1 = .ok n → n = totalSize rows ∧ Grows m result.2 a rows := by
  have hvalid := h.partition
  unfold partitionOf at hvalid
  unfold getPartitionTableFromDb partitionOf
  by_cases hcurrent : kind = .currentConfig
  · simp only [if_pos hcurrent]
    refine ⟨fun _ => rfl, fun n hn => ⟨?_, Grows.refl hblank⟩⟩
    cases hn
    rfl
  · simp only [if_neg hcurrent] at hvalid ⊢
    rw [getDimmPartitionTableFromDb]
    cases hrow : db.partitionChanges.find? (DbDimmPartitionChange.isOf handle kind) with
    | none =>
      refine ⟨fun _ => rfl, fun n hn => ⟨?_, Grows.refl hblank⟩⟩
      cases hn
      rfl
    | some row =>
      have hfields := hvalid row hrow
      have hgrows : Grows m (writeFields m a (partitionChangeFields row)) a
          [⟨partitionSizeChangeTableSize, partitionChangeFields row ++ []⟩] :=
        FieldsValid.grows (by rwa [List.append_nil]) (List.forall_mem_nil _) hblank
      rw [List.append_nil] at hgrows
      have hsize : totalSize [partitionRow row] = 16 := rfl
      dsimp only
      rw [hlength]
      simp only [Option.toList_some, List.map_cons, List.map_nil, List.flatten_cons,
        List.flatten_nil, List.append_nil]
      rw [hsize]
      split_ifs with hfull
      · exact ⟨fun hroom => absurd hroom (by omega), fun n hn => by cases hn⟩
      · refine ⟨fun _ => rfl, fun n hn => ⟨?_, hgrows⟩⟩
        cases hn
        rfl

/-! ### The whole sub-table -/

/-- A sub-table has been built at an address. -/
structure TableFinished (db : PcdDb) (handle : UInt32) (kind : TableKind) (row : DbConfigTable)
    (m m' : Bytes) (a : ℕ) : Prop where
  /-- The sub-table. -/
  table : TableBuilt db handle kind row m' a
  /-- The length of the data and the sizes of the sub-tables. -/
  state : BuiltUpTo (tablesBefore kind ++ [kind]) m' (a + builtTableSize db handle kind)
  /-- The offset of the sub-table. -/
  offset : tableOffset kind m' = a
  /-- The size of the sub-table. -/
  size : tableSize kind m' = builtTableSize db handle kind
  /-- There is nothing behind it. -/
  blank : Blank m' (a + builtTableSize db handle kind)
  /-- What was there stays. -/
  stays : StaysBefore kind a m m'

variable {row : DbConfigTable} {m m' : Bytes}

/-- The fields of a sub-table leave out the checksum. -/
private theorem tableRow_apart {length : ℕ} :
    ∀ f ∈ (tableRow kind row length).fields, f.1 + f.2.1 ≤ 9 ∨ 10 ≤ f.1 := by
  intro f hf
  rcases List.mem_append.mp hf with hheader | hbody
  · simp only [headerFields, List.mem_cons, List.not_mem_nil, or_false] at hheader
    rcases hheader with rfl | rfl | rfl | rfl | rfl | rfl | rfl | rfl <;> dsimp only <;> omega
  · rw [bodyFields, ← List.map_uncurry_zip_eq_zipWith] at hbody
    obtain ⟨⟨place, v⟩, hmem, rfl⟩ := List.mem_map.mp hbody
    have hbehind : ∀ place ∈ bodyPlaces kind, 10 ≤ place.1 := by cases kind <;> decide
    exact Or.inr (hbehind place (List.of_mem_zip hmem).1)

/-- A sub-table with all of its extension tables is finished by its checksum. -/
private theorem UnderConstruction.finish (hstart : platformConfigDataSize ≤ a)
    (h : UnderConstruction kind row m' a (extensionTables db handle kind).flatten)
    (hstays : StaysBefore kind a m m') :
    TableFinished db handle kind row m
      (generateChecksumAt m' a (builtTableSize db handle kind)) a := by
  obtain ⟨hlow, -⟩ := lt_structSize kind
  have happly : ∀ i, i ≠ a + 9 →
      generateChecksumAt m' a (builtTableSize db handle kind) i = m' i :=
    fun i hi => generateChecksumAt_apply_of_ne hi
  have hstate := h.state.congr fun i hi => happly i (by omega)
  have hview : view (generateChecksumAt m' a (builtTableSize db handle kind)) a =
      generateChecksum (view m' a) (builtTableSize db handle kind) checksumOffset := by
    funext i
    rw [view_apply, generateChecksumAt, if_pos (Nat.le_add_right a i), Nat.add_sub_cancel_left]
  have hheader := h.header
  refine ⟨⟨fun f hf => ?_, ?_, ?_⟩, hstate.builtUpTo, hstate.offset, hstate.size, ?_,
    hstays.trans fun i hi _ => happly i (by omega)⟩
  · obtain ⟨hinside, hread⟩ := hheader f hf
    refine ⟨hinside, (readLE_congr fun i hi hlt => happly i ?_).trans hread⟩
    have hapart := tableRow_apart f hf
    omega
  · exact h.extensions.congr fun i hi _ => happly i (by omega)
  · have hsum := @sumBytes_generateChecksum (view m' a) (builtTableSize db handle kind)
      (by unfold checksumOffset builtTableSize; omega)
    rwa [← hview, sumBytes_view, Nat.add_zero] at hsum
  · intro i hi
    have hbehind : a + kind.structSize ≤ i := le_trans (by unfold builtTableSize; omega) hi
    rw [happly i (by omega)]
    exact h.blank i hi

/-- A sub-table is built behind the data so far: with room it succeeds, and when it succeeds the
sub-table is there. -/
theorem getDimmConfigTableFromDb_spec (hrow : configTableOf db handle kind = some row)
    (hvalid : TableRowValid db handle kind row) (h : BuiltUpTo (tablesBefore kind) m a)
    (hblank : Blank m a) (hrange : a + builtTableSize db handle kind < 2 ^ 32) :
    let result := getDimmConfigTableFromDb kind db handle m size
    (a + builtTableSize db handle kind ≤ size → result.1 = .success) ∧
      (result.1 = .success → TableFinished db handle kind row m result.2 a) := by
  have hstart : platformConfigDataSize ≤ a := by
    rw [← h.sizes]
    exact Nat.le_add_right _ _
  obtain ⟨hlow, -⟩ := lt_structSize kind
  have htotal : builtTableSize db handle kind = kind.structSize + totalSize
      ((partitionOf db handle kind).toList.map fun row => [partitionRow row]).flatten +
        ((interleaveSetsOf db handle kind).map interleaveSize).sum := by
    rw [builtTableSize, extensionTables_flatten, totalSize_append,
      hvalid.extensions.totalSize_interleaves, Nat.add_assoc]
  rw [getDimmConfigTableFromDb, hrow]
  dsimp only
  by_cases hfull : size < a + kind.structSize
  · rw [h.length, if_pos hfull]
    exact ⟨fun hroom => absurd hroom (by omega), fun hok => by cases hok⟩
  · have hbegin := h.atTable (notMem_tablesBefore kind) (by omega)
    rw [h.length] at hbegin ⊢
    rw [if_neg hfull]
    have hstays₁ : StaysBefore kind a m (writeFields m 0 [(4, 4, a + kind.structSize),
        (kind.offsetField, 4, platformConfigDataSize +
          ((tablesBefore kind).map fun k => tableSize k m).sum),
        (kind.sizeField, 4, kind.structSize)]) :=
      fun i _ houtside => beginTable_apply _ _ _ houtside
    have hblank₁ : Blank (writeFields m 0 [(4, 4, a + kind.structSize),
        (kind.offsetField, 4, platformConfigDataSize +
          ((tablesBefore kind).map fun k => tableSize k m).sum),
        (kind.sizeField, 4, kind.structSize)]) a := by
      intro i hi
      rw [beginTable_apply _ _ _ (outsideLengths_of_le (hstart.trans hi)), hblank i hi]
    generalize writeFields m 0 _ = m₁ at hbegin hstays₁ hblank₁ ⊢
    rw [hbegin.offset]
    obtain ⟨hunder₂, hstays₂⟩ :=
      underConstruction_of_begin hvalid.fields hstart hbegin rfl hblank₁
    generalize writeFields m₁ a _ = m₂ at hunder₂ hstays₂ ⊢
    have hmod : (a + kind.structSize) % 2 ^ 32 = a + kind.structSize := Nat.mod_eq_of_lt (by omega)
    -- the partition size change table
    have hpartition := @getPartitionTableFromDb_spec db handle kind size (a + kind.structSize)
      hvalid.extensions m₂ hunder₂.state.length hunder₂.blank
    have herror := @getPartitionTableFromDb_error db handle kind (a + kind.structSize) size m₂
    rw [getPartitionTableFromDb] at hpartition herror
    rw [hunder₂.state.offset, hunder₂.state.size, totalSize_nil, Nat.add_zero, hmod]
    generalize hrows : ((partitionOf db handle kind).toList.map fun row =>
      [partitionRow row]).flatten = rows at htotal hpartition
    generalize (if kind = .currentConfig then _ else _ : Except ReturnCode ℕ × Bytes) = partition
      at hpartition herror ⊢
    obtain ⟨outcome, m₃⟩ := partition
    obtain ⟨hroom₃, hdone₃⟩ := hpartition
    cases outcome with
    | error e =>
      obtain rfl := herror rfl
      exact ⟨(fun hroom => by cases hroom₃ (by omega)), fun hok => by cases hok⟩
    | ok n =>
      obtain ⟨rfl, hgrows₃⟩ := hdone₃ n rfl
      obtain ⟨hunder₄, hstays₄⟩ := hunder₂.extend hvalid.fields hstart hgrows₃
        (by rw [List.nil_append]; omega)
      rw [List.nil_append] at hunder₄
      dsimp only
      generalize addToLengths kind m₃ (totalSize rows) = m₄ at hunder₄ hstays₄ ⊢
      have hmod₄ : (a + (kind.structSize + totalSize rows)) % 2 ^ 32 =
          a + (kind.structSize + totalSize rows) := Nat.mod_eq_of_lt (by omega)
      rw [hunder₄.state.offset, hunder₄.state.size, hmod₄]
      -- the interleave tables
      have hsets := @copyInterleaveSets_spec db handle kind hvalid.revision
        (a + (kind.structSize + totalSize rows)) size (by omega) _ hvalid.extensions.interleaves 0 m₄
        hunder₄.state.length hunder₄.blank (by omega)
      have herrorSets := @copyInterleaveSets_error db handle kind
        (a + (kind.structSize + totalSize rows)) size (interleaveSetsOf db handle kind) 0 m₄
      rw [getDimmInterleaveTablesFromDb, ← interleaveSetsOf]
      generalize copyInterleaveSets db handle kind _ size _ 0 m₄ = sets at hsets herrorSets ⊢
      obtain ⟨outcome, m₅⟩ := sets
      obtain ⟨hroom₅, hdone₅⟩ := hsets
      cases outcome with
      | error e =>
        obtain rfl := herrorSets rfl
        exact ⟨(fun hroom => by cases hroom₅ (by omega)), fun hok => by cases hok⟩
      | ok k =>
        obtain ⟨rfl, hgrows₅⟩ := hdone₅ k rfl
        rw [Nat.zero_add, ← hvalid.extensions.totalSize_interleaves]
        rw [← hvalid.extensions.totalSize_interleaves] at htotal
        obtain ⟨hunder₆, hstays₆⟩ := hunder₄.extend hvalid.fields hstart hgrows₅
          (by rw [totalSize_append]; omega)
        rw [← hrows, ← extensionTables_flatten] at hunder₆
        dsimp only
        generalize addToLengths kind m₅ _ = m₆ at hunder₆ hstays₆ ⊢
        rw [hunder₆.state.offset, hunder₆.state.size]
        have hstays := ((hstays₁.trans hstays₂).trans hstays₄).trans hstays₆
        exact ⟨fun _ => rfl, fun _ => hunder₆.finish hstart hstays⟩

end Spec

end IxpDimm.PcdDatabase
