import IxpDimm.PcdDatabase.Sizes

/-!
# Building sub-tables one behind the other

The header of the data says how far it has been built (`BuiltUpTo`), and where the sub-table that is
being built is and how large it has become (`AtTable`).  A sub-table only changes its own size and
offset there and the length of the data (`OutsideLengths`).
-/

namespace IxpDimm.PcdDatabase

open Foundation

/-! ### The state of the header -/

/-- Sub-tables have been built up to an address. -/
structure BuiltUpTo (done : List TableKind) (m : Bytes) (a : ℕ) : Prop where
  /-- The length of the data. -/
  length : headerLength m = a
  /-- The sizes of the sub-tables. -/
  sizes : platformConfigDataSize + (done.map fun kind => tableSize kind m).sum = a

/-- A sub-table at an address is being built and has some size so far. -/
structure AtTable (kind : TableKind) (done : List TableKind) (m : Bytes) (a t : ℕ) : Prop where
  /-- The length of the data. -/
  length : headerLength m = a + t
  /-- The address of the sub-table. -/
  offset : tableOffset kind m = a
  /-- The size of the sub-table. -/
  size : tableSize kind m = t
  /-- The sizes of the sub-tables before it. -/
  sizes : platformConfigDataSize + (done.map fun kind => tableSize kind m).sum = a

/-- A byte is outside of the length of the data and of the size and the offset of a sub-table. -/
def OutsideLengths (kind : TableKind) (i : ℕ) : Prop :=
  (i < 4 ∨ 8 ≤ i) ∧ (i < kind.sizeField ∨ kind.sizeField + 8 ≤ i)

/-- Fields of the header of the data. -/
theorem sizeField_lt (kind : TableKind) :
    8 ≤ kind.sizeField ∧ kind.sizeField + 4 ≤ kind.offsetField ∧
      kind.offsetField + 4 ≤ platformConfigDataSize := by
  cases kind <;> decide

/-- The fields of two sub-tables in the header of the data do not overlap. -/
theorem sizeField_apart {kind k : TableKind} (h : k ≠ kind) :
    k.sizeField + 8 ≤ kind.sizeField ∨ kind.sizeField + 8 ≤ k.sizeField := by
  cases k <;> cases kind <;> first | exact absurd rfl h | decide

/-- The address of a sub-table is behind its size. -/
private theorem offsetField_eq (kind : TableKind) : kind.offsetField = kind.sizeField + 4 := by
  cases kind <;> rfl

/-- The bytes behind the header of the data are outside of its fields. -/
theorem outsideLengths_of_le {kind : TableKind} {i : ℕ} (h : platformConfigDataSize ≤ i) :
    OutsideLengths kind i := by
  obtain ⟨hfield, hbehind, hend⟩ := sizeField_lt kind
  have hoffset := offsetField_eq kind
  exact ⟨by omega, by omega⟩

/-- A sub-table is not built before itself. -/
theorem notMem_tablesBefore (kind : TableKind) : kind ∉ tablesBefore kind := by
  cases kind <;> decide

section Header

variable {kind : TableKind} {done : List TableKind} {m m' : Bytes} {a t : ℕ}

/-- The sizes of sub-tables, when their fields stay. -/
private theorem sizes_congr (h : ∀ k ∈ done, tableSize k m' = tableSize k m) :
    (done.map fun k => tableSize k m').sum = (done.map fun k => tableSize k m).sum := by
  rw [List.map_congr_left h]

/-- The state depends on the header. -/
theorem AtTable.congr (h : AtTable kind done m a t)
    (hsame : ∀ i, i < platformConfigDataSize → m' i = m i) : AtTable kind done m' a t := by
  have hread : ∀ b, b + 4 ≤ platformConfigDataSize → readLE m' b 4 = readLE m b 4 :=
    fun b hb => readLE_congr fun i _ hi => hsame i (by omega)
  have hsize : ∀ k, tableSize k m' = tableSize k m := by
    intro k
    obtain ⟨_, _, _⟩ := sizeField_lt k
    exact hread _ (by omega)
  obtain ⟨_, _, _⟩ := sizeField_lt kind
  refine ⟨(hread 4 (by decide)).trans h.length, (hread _ (by omega)).trans h.offset,
    (hsize kind).trans h.size, ?_⟩
  rw [sizes_congr fun k _ => hsize k, h.sizes]

/-- A sub-table begins at the end of the data. -/
theorem BuiltUpTo.atTable (h : BuiltUpTo done m a) (hkind : kind ∉ done)
    (hrange : a + kind.structSize < 2 ^ 32) :
    AtTable kind done (writeFields m 0 [(4, 4, headerLength m + kind.structSize),
      (kind.offsetField, 4, platformConfigDataSize + (done.map fun k => tableSize k m).sum),
      (kind.sizeField, 4, kind.structSize)]) a kind.structSize := by
  have hdisjoint : [((4, 4, headerLength m + kind.structSize) : FieldValue),
      (kind.offsetField, 4, platformConfigDataSize + (done.map fun k => tableSize k m).sum),
      (kind.sizeField, 4, kind.structSize)].Pairwise FieldsDisjoint := by
    cases kind <;> simp [FieldsDisjoint, TableKind.offsetField, TableKind.sizeField]
  have hrange' : a + kind.structSize < 256 ^ 4 := hrange
  have hread : ∀ {d v : ℕ}, (d, 4, v) ∈ [((4, 4, headerLength m + kind.structSize) : FieldValue),
      (kind.offsetField, 4, platformConfigDataSize + (done.map fun k => tableSize k m).sum),
      (kind.sizeField, 4, kind.structSize)] → v < 256 ^ 4 → readLE (writeFields m 0
        [(4, 4, headerLength m + kind.structSize),
        (kind.offsetField, 4, platformConfigDataSize + (done.map fun k => tableSize k m).sum),
        (kind.sizeField, 4, kind.structSize)]) d 4 = v := by
    intro d v hmem hv
    have hfield := @readLE_writeFields _ m 0 d 4 v hdisjoint hmem
    rwa [Nat.zero_add, Nat.mod_eq_of_lt hv] at hfield
  rw [h.length, h.sizes] at *
  refine ⟨hread (by simp) hrange', hread (by simp) (by omega), hread (by simp) (by omega), ?_⟩
  rw [sizes_congr fun k hk => ?_, h.sizes]
  have hne : k ≠ kind := fun heq => hkind (heq ▸ hk)
  have hapart := sizeField_apart hne
  obtain ⟨_, _, _⟩ := sizeField_lt k
  have hoffset := offsetField_eq kind
  refine readLE_congr (sameBytes_writeFields ?_)
  simp only [FieldsOutside, List.forall_mem_cons]
  exact ⟨by omega, by omega, by omega, List.forall_mem_nil _⟩

/-- When a sub-table begins, the bytes outside of its lengths stay. -/
theorem beginTable_apply (n offset size : ℕ) {i : ℕ} (h : OutsideLengths kind i) :
    writeFields m 0 [(4, 4, n), (kind.offsetField, 4, offset), (kind.sizeField, 4, size)] i =
      m i := by
  obtain ⟨hlength, hsize⟩ := h
  have hoffset := offsetField_eq kind
  refine writeFields_apply_of_outside ?_
  simp only [List.forall_mem_cons]
  exact ⟨by omega, by omega, by omega, List.forall_mem_nil _⟩

/-- The lengths and the size go up. -/
theorem AtTable.addToLengths (h : AtTable kind done m a t) (hkind : kind ∉ done) {n : ℕ}
    (hstart : platformConfigDataSize ≤ a) (hrange : a + (t + n) < 2 ^ 32) :
    AtTable kind done (addToLengths kind m n) a (t + n) ∧
      ∀ i, OutsideLengths kind i → i < a + 4 ∨ a + 8 ≤ i → addToLengths kind m n i = m i := by
  obtain ⟨hfield, hbehind, hend⟩ := sizeField_lt kind
  have hoffset := offsetField_eq kind
  have hrange' : a + (t + n) < 256 ^ 4 := hrange
  unfold PcdDatabase.addToLengths
  rw [h.offset]
  dsimp only
  generalize hm₁ : writeLE m (a + 4) 4 (headerLength (tableAt kind m) + n) = m₁
  have hfirst : AtTable kind done m₁ a t := by
    rw [← hm₁]
    exact h.congr fun i hi => copy_apply_of_notMem (Or.inl (by omega))
  have hframe : ∀ i, i < a + 4 ∨ a + 8 ≤ i → m₁ i = m i := by
    intro i hi
    rw [← hm₁]
    exact copy_apply_of_notMem hi
  generalize hm₂ : writeLE m₁ 4 4 (headerLength m₁ + n) = m₂
  have hsecond : headerLength m₂ = a + (t + n) := by
    rw [← hm₂, headerLength, readLE_writeLE_self, hfirst.length, Nat.add_assoc]
    exact Nat.mod_eq_of_lt hrange'
  have hfields : ∀ b, 8 ≤ b → readLE m₂ b 4 = readLE m₁ b 4 := by
    intro b hb
    rw [← hm₂, readLE_writeLE_of_disjoint (Or.inr (by omega))]
  have hsize : tableSize kind m₂ = t := by
    rw [tableSize, hfields _ hfield]
    exact hfirst.size
  rw [hsize]
  refine ⟨⟨?_, ?_, ?_, ?_⟩, fun i ⟨hlength, hplace⟩ hapart => ?_⟩
  · rw [headerLength, readLE_writeLE_of_disjoint (Or.inl (by omega))]
    exact hsecond
  · rw [tableOffset, readLE_writeLE_of_disjoint (Or.inr (by omega)), hfields _ (by omega)]
    exact hfirst.offset
  · rw [tableSize, readLE_writeLE_self]
    exact Nat.mod_eq_of_lt (by omega)
  · rw [sizes_congr fun k hk => ?_, hfirst.sizes]
    have hne : k ≠ kind := fun heq => hkind (heq ▸ hk)
    have hsizes := sizeField_apart hne
    rw [tableSize, readLE_writeLE_of_disjoint (by omega), hfields _ (sizeField_lt k).1]
    rfl
  · rw [writeLE, copy_apply_of_notMem (by omega), ← hm₂, writeLE, copy_apply_of_notMem (by omega),
      hframe i hapart]

/-- A sub-table is built when its sizes have been set. -/
theorem AtTable.builtUpTo {m : Bytes} {t : ℕ} (h : AtTable kind done m a t) :
    BuiltUpTo (done ++ [kind]) m (a + t) := by
  refine ⟨h.length, ?_⟩
  rw [List.map_append, List.sum_append, List.map_singleton, List.sum_singleton, h.size,
    ← Nat.add_assoc, h.sizes]

/-- Without a row the size and the offset of a sub-table are zero. -/
theorem BuiltUpTo.absent {m : Bytes} (h : BuiltUpTo (tablesBefore kind) m a) :
    let m' := writeFields m 0 [(kind.sizeField, 4, 0), (kind.offsetField, 4, 0)]
    BuiltUpTo (tablesBefore kind ++ [kind]) m' a ∧ tableSize kind m' = 0 ∧ tableOffset kind m' = 0 ∧
      ∀ i, OutsideLengths kind i → m' i = m i := by
  obtain ⟨hfield, hbehind, hend⟩ := sizeField_lt kind
  have hoffset := offsetField_eq kind
  have hstay : ∀ b, b + 4 ≤ kind.sizeField ∨ kind.sizeField + 8 ≤ b → readLE
      (writeFields m 0 [(kind.sizeField, 4, 0), (kind.offsetField, 4, 0)]) b 4 = readLE m b 4 := by
    intro b hb
    refine readLE_congr (sameBytes_writeFields ?_)
    simp only [FieldsOutside, List.forall_mem_cons]
    exact ⟨by omega, by omega, List.forall_mem_nil _⟩
  have hzero : ∀ {d}, (d, 4, 0) ∈ [((kind.sizeField, 4, 0) : FieldValue), (kind.offsetField, 4, 0)] →
      readLE (writeFields m 0 [(kind.sizeField, 4, 0), (kind.offsetField, 4, 0)]) d 4 = 0 := by
    intro d hmem
    have hread := @readLE_writeFields [(kind.sizeField, 4, 0), (kind.offsetField, 4, 0)] m 0 d 4 0
      (by simp [FieldsDisjoint, hoffset]) hmem
    rwa [Nat.zero_add] at hread
  have hsize : tableSize kind
      (writeFields m 0 [(kind.sizeField, 4, 0), (kind.offsetField, 4, 0)]) = 0 := hzero (by simp)
  refine ⟨⟨(hstay 4 (Or.inl (by omega))).trans h.length, ?_⟩, hsize, hzero (by simp),
    fun i ⟨_, hi⟩ => ?_⟩
  · rw [List.map_append, List.sum_append, List.map_singleton, List.sum_singleton, hsize,
      Nat.add_zero, sizes_congr fun k hk => ?_, h.sizes]
    have hne : k ≠ kind := fun heq => notMem_tablesBefore kind (heq ▸ hk)
    have hapart := sizeField_apart hne
    exact hstay _ (by omega)
  · refine writeFields_apply_of_outside ?_
    simp only [List.forall_mem_cons]
    exact ⟨by omega, by omega, List.forall_mem_nil _⟩

end Header

/-! ### A sub-table -/

/-- The partition size change table of a sub-table; a current config has none. -/
def getPartitionTableFromDb (kind : TableKind) (db : PcdDb) (handle : UInt32) (m : Bytes)
    (offset size : ℕ) : Except ReturnCode ℕ × Bytes :=
  if kind = .currentConfig then (.ok 0, m)
  else getDimmPartitionTableFromDb db handle kind m offset size

section Errors

variable {db : PcdDb} {handle : UInt32} {kind : TableKind} {offset size : ℕ}

/-- Writing the partition size change table of a sub-table fails with one code. -/
theorem getPartitionTableFromDb_error {m : Bytes} {e : ReturnCode}
    (h : (getPartitionTableFromDb kind db handle m offset size).1 = .error e) :
    e = .errBadDeviceConfig := by
  unfold getPartitionTableFromDb getDimmPartitionTableFromDb at h
  split at h
  · cases h
  · split at h
    · cases h
    · split at h
      · exact (Except.error.inj h).symm
      · cases h

/-- The loop over the DIMMs fails with one code. -/
private theorem copyDimms_error {ρ : Type} {write : ρ → Bytes → ℕ → Bytes} {rows : List ρ} {rc : ℕ}
    {m : Bytes} {e : ReturnCode} (h : (copyDimms write offset size rows rc m).1 = .error e) :
    e = .errBadDeviceConfig := by
  induction rows generalizing rc m with
  | nil => cases h
  | cons row rows ih =>
    rw [copyDimms] at h
    split_ifs at h
    · exact (Except.error.inj h).symm
    · exact ih h

/-- The loop over the interleave tables fails with one code. -/
theorem copyInterleaveSets_error {rows : List DbDimmInterleaveSet} {rc : ℕ} {m : Bytes}
    {e : ReturnCode} (h : (copyInterleaveSets db handle kind offset size rows rc m).1 = .error e) :
    e = .errBadDeviceConfig := by
  induction rows generalizing rc m with
  | nil => cases h
  | cons row rows ih =>
    rw [copyInterleaveSets] at h
    by_cases hfull : size < (headerLength m + rc) % 2 ^ 32 + interleaveInfoTableSize
    · rw [if_pos hfull] at h
      exact (Except.error.inj h).symm
    · rw [if_neg hfull] at h
      dsimp only at h
      split at h
      · rename_i hdimms
        obtain rfl := Except.error.inj h
        split_ifs at hdimms
        · exact copyDimms_error hdimms
        · exact copyDimms_error hdimms
      · split at h
        · exact (Except.error.inj h).symm
        · exact ih h

end Errors

/-- The structure of every sub-table is larger than the header of a table. -/
theorem lt_structSize (kind : TableKind) : 48 ≤ kind.structSize ∧ kind.structSize ≤ 56 := by
  cases kind <;> decide

/-- The checksum of a table changes one byte. -/
theorem generateChecksumAt_apply_of_ne {m : Bytes} {b n i : ℕ} (h : i ≠ b + 9) :
    generateChecksumAt m b n i = m i := by
  unfold generateChecksumAt
  split_ifs with hle
  · rw [generateChecksum, Function.update_of_ne (by unfold checksumOffset; omega), view_apply]
    congr 1
    omega
  · rfl

/-! ### All sub-tables -/

/-- The sub-tables of some kinds, one after another. -/
def buildTables (db : PcdDb) (handle : UInt32) (size : ℕ) :
    List TableKind → Bytes → ReturnCode × Bytes
  | [], m => (.success, m)
  | kind :: kinds, m =>
    let result := getDimmConfigTableFromDb kind db handle m size
    if result.1 = .success then buildTables db handle size kinds result.2 else result

/-- The kinds come in the order in which sub-tables are built. -/
def InOrder : List TableKind → List TableKind → Prop
  | _, [] => True
  | done, kind :: kinds => tablesBefore kind = done ∧ InOrder (done ++ [kind]) kinds

/-- The order in which sub-tables are built. -/
theorem inOrder_buildOrder : InOrder [] buildOrder := by
  simp only [InOrder, buildOrder, tablesBefore, List.nil_append, List.cons_append, and_self]

/-- The header of the data is written. -/
theorem builtUpTo_headerFields (m : Bytes) (header : DbHeader) :
    BuiltUpTo [] (writeFields m 0 (headerFields header platformConfigDataSize))
        platformConfigDataSize ∧
      ∀ i, platformConfigDataSize ≤ i →
        writeFields m 0 (headerFields header platformConfigDataSize) i = m i := by
  refine ⟨⟨?_, rfl⟩, fun i hi => ?_⟩
  · have hlength := @readLE_writeFields (headerFields header platformConfigDataSize) m 0 4 4
      platformConfigDataSize (by simp [headerFields, FieldsDisjoint]) (by simp [headerFields])
    rwa [Nat.zero_add, Nat.mod_eq_of_lt (by decide)] at hlength
  · refine writeFields_apply_of_outside ?_
    dsimp only [platformConfigDataSize] at hi
    simp only [headerFields, List.forall_mem_cons]
    exact ⟨by omega, by omega, by omega, by omega, by omega, by omega, by omega, by omega,
      List.forall_mem_nil _⟩

/-- The data of a DIMM with a header is built in a buffer that is large enough for the header. -/
theorem getDimmPlatformConfigDataFromDb_stored {row : DbDimmPlatformConfig} (m : Bytes)
    (hsize : platformConfigDataSize ≤ size.toNat)
    (hrow : db.platformConfigs.find? (fun row => row.deviceHandle == handle) = some row) :
    getDimmPlatformConfigDataFromDb db handle m size =
      let result := buildTables db handle size.toNat buildOrder
        (writeFields m 0 (headerFields row.header platformConfigDataSize))
      if result.1 = .success then
        (.success, generateChecksum result.2 (headerLength result.2) checksumOffset)
      else result := by
  rw [getDimmPlatformConfigDataFromDb, if_neg (not_lt.mpr hsize), hrow]
  dsimp only [buildOrder, buildTables]
  split_ifs <;> simp_all

end IxpDimm.PcdDatabase
