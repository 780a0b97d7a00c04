import IxpDimm.PcdDatabase.Building
import IxpDimm.PcdDatabase.ExtensionsInBuffer

/-!
# Writing inside of the buffer

`get_dimm_platform_config_data_from_db` compares the size of the buffer with what it is about to
write, but for partition size change tables with the size of a pointer, and for DIMMs without what
their interleave table and those before it take up.  It stays in the buffer, and what it builds has
the size that `get_dimm_platform_config_size_from_db` counts, exactly if the first place that is not
in the buffer is refused all the same (`inBuffer_iff`).

The sizes of the parts are `int`s in the code.  The data is taken to be smaller than the largest of
them unless the buffer is.
-/

namespace IxpDimm.PcdDatabase

open Foundation

/-! ### A sub-table -/

section Table

variable {db : PcdDb} {handle : UInt32} {kind : TableKind} {done : List TableKind} {size a : ℕ}

/-- The last byte of the partition size change table of a sub-table. -/
def lastOfPartition (db : PcdDb) (handle : UInt32) (kind : TableKind) : UInt8 :=
  ((db.partitionChanges.find? (DbDimmPartitionChange.isOf handle kind)).map fun row =>
    leBytes row.partitionSize 7).getD 0

/-- The partition size change table of a sub-table: there is none, it is refused, or it is written. -/
private theorem getPartitionTableFromDb_cases {m : Bytes} (hlength : headerLength m = a) :
    let result := getPartitionTableFromDb kind db handle m a size
    let n := getDimmPartitionTableSizeFromDb db handle kind
    (n = 0 ∧ result = (.ok 0, m)) ∨
      (n = partitionSizeChangeTableSize ∧ size < a + 8 ∧ result = (.error .errBadDeviceConfig, m)) ∨
      (n = partitionSizeChangeTableSize ∧ a + 8 ≤ size ∧ ∃ m', result = (.ok n, m') ∧
        (∀ i, i < a ∨ a + partitionSizeChangeTableSize ≤ i → m' i = m i) ∧
        m' (a + 15) = lastOfPartition db handle kind) := by
  unfold getPartitionTableFromDb getDimmPartitionTableSizeFromDb
  by_cases hcurrent : kind = .currentConfig
  · rw [if_pos hcurrent, if_pos hcurrent]
    exact Or.inl ⟨rfl, rfl⟩
  · rw [if_neg hcurrent, if_neg hcurrent, getDimmPartitionTableFromDb, lastOfPartition]
    cases db.partitionChanges.find? (DbDimmPartitionChange.isOf handle kind) with
    | none => exact Or.inl ⟨rfl, rfl⟩
    | some row =>
      refine Or.inr ?_
      dsimp only
      rw [hlength]
      by_cases hfull : size < a + 8
      · rw [if_pos hfull]
        exact Or.inl ⟨rfl, hfull, rfl⟩
      · rw [if_neg hfull]
        refine Or.inr ⟨rfl, not_lt.mp hfull, _, rfl, fun i hi => ?_, ?_⟩
        · refine writeFields_apply_of_outside ?_
          dsimp only [partitionSizeChangeTableSize] at hi
          simp only [partitionChangeFields, List.forall_mem_cons]
          exact ⟨by omega, by omega, by omega, by omega, List.forall_mem_nil _⟩
        · rw [partitionChangeFields, writeFields, writeFields]
          refine @writeFields_cons_apply _ a 8 8 row.partitionSize 7 _ (by decide) ?_
          simp only [List.forall_mem_cons]
          exact ⟨by omega, List.forall_mem_nil _⟩

/-- The fields of a sub-table are in its structure. -/
private theorem tableFields_inside (row : DbConfigTable) :
    ∀ f ∈ headerFields row.header kind.structSize ++ bodyFields kind row.body,
      f.1 + f.2.1 ≤ kind.structSize := by
  intro f hf
  rcases List.mem_append.mp hf with hheader | hbody
  · have hsize : 48 ≤ kind.structSize := by cases kind <;> decide
    simp only [headerFields, List.mem_cons, List.not_mem_nil, or_false] at hheader
    rcases hheader with rfl | rfl | rfl | rfl | rfl | rfl | rfl | rfl <;> dsimp only <;> omega
  · rw [bodyFields, ← List.map_uncurry_zip_eq_zipWith] at hbody
    obtain ⟨⟨place, v⟩, hmem, rfl⟩ := List.mem_map.mp hbody
    have hinside : ∀ place ∈ bodyPlaces kind, place.1 + place.2 ≤ kind.structSize := by
      cases kind <;> decide
    exact hinside place (List.of_mem_zip hmem).1

/-- What is done to a sub-table behind its partition size change table, which has some size. -/
def finishConfigTable (kind : TableKind) (db : PcdDb) (handle : UInt32) (m : Bytes) (n size : ℕ) :
    ReturnCode × Bytes :=
  let m₁ := addToLengths kind m n
  let (sets, m₂) := getDimmInterleaveTablesFromDb db handle kind m₁
    ((tableOffset kind m₁ + tableSize kind m₁) % 2 ^ 32) size
  match sets with
  | .error rc => (rc, m₂)
  | .ok interleaveTablesSize =>
    let m₃ := addToLengths kind m₂ interleaveTablesSize
    (.success, generateChecksumAt m₃ (tableOffset kind m₃) (tableSize kind m₃))

/-- What the rest of building a sub-table can do. -/
private theorem finishConfigTable_cases {m : Bytes} {n total : ℕ}
    (h : AtTable kind (tablesBefore kind) m a kind.structSize) (hstart : platformConfigDataSize ≤ a)
    (hsize : size < 2 ^ 32) (hbound : Representable size total)
    (hn : a + kind.structSize + n < 2 ^ 32)
    (htotal : a + kind.structSize + n +
      ((interleaveSetsOf db handle kind).map (setSize db handle kind)).sum ≤ total) :
    let result := finishConfigTable kind db handle m n size
    ∃ m', (∀ i, platformConfigDataSize ≤ i → i < a + 4 ∨ a + 8 ≤ i → m' i = m i) ∧
      headerLength m' = a + kind.structSize + n ∧
      let sets := copyInterleaveSets db handle kind (a + kind.structSize + n) size
        (interleaveSetsOf db handle kind) 0 m'
      ((∃ e, sets.1 = .error e ∧ result = (.errBadDeviceConfig, sets.2)) ∨
        ∃ k, sets.1 = .ok k ∧
          countInterleaveSets db handle kind (interleaveSetsOf db handle kind) 0 = .ok k ∧
          a + (kind.structSize + n + k) < 2 ^ 32 ∧ result.1 = .success ∧
          BuiltUpTo (tablesBefore kind ++ [kind]) result.2 (a + (kind.structSize + n + k)) ∧
          ∀ i, platformConfigDataSize ≤ i → i < a ∨ a + kind.structSize ≤ i →
            result.2 i = sets.2 i) := by
  have hkind := notMem_tablesBefore kind
  obtain ⟨hlow, hhigh⟩ := lt_structSize kind
  obtain ⟨hat, hframe⟩ := @AtTable.addToLengths _ _ _ _ _ h hkind n hstart (by omega)
  have hmod : (a + (kind.structSize + n)) % 2 ^ 32 = a + kind.structSize + n := by
    rw [← Nat.add_assoc]
    exact Nat.mod_eq_of_lt hn
  rw [finishConfigTable]
  dsimp only
  generalize addToLengths kind m n = m' at hat hframe ⊢
  rw [hat.offset, hat.size, hmod]
  refine ⟨m', fun i hi => hframe i (outsideLengths_of_le hi), by rw [hat.length, ← Nat.add_assoc], ?_⟩
  obtain ⟨hbefore, hok⟩ := @copyInterleaveSets_before db handle kind (a + kind.structSize + n) size
    (interleaveSetsOf db handle kind) 0 total m' (by omega) (by rw [hat.length, ← Nat.add_assoc])
    (by omega) hsize hbound (by omega)
  have herror := @copyInterleaveSets_error db handle kind (a + kind.structSize + n) size
    (interleaveSetsOf db handle kind) 0 m'
  have hsets : getDimmInterleaveTablesFromDb db handle kind m' (a + kind.structSize + n) size =
      copyInterleaveSets db handle kind (a + kind.structSize + n) size
        (interleaveSetsOf db handle kind) 0 m' := rfl
  rw [hsets]
  generalize copyInterleaveSets db handle kind (a + kind.structSize + n) size
    (interleaveSetsOf db handle kind) 0 m' = sets at hbefore hok herror ⊢
  obtain ⟨outcome, m₅⟩ := sets
  cases outcome with
  | error e =>
    obtain rfl := herror rfl
    exact Or.inl ⟨_, rfl, rfl⟩
  | ok k =>
    refine Or.inr ⟨k, rfl, ?_⟩
    obtain ⟨hcount, hlt⟩ := hok k rfl
    have hat₅ := hat.congr fun i hi => hbefore i (by omega)
    obtain ⟨hat₆, hframe₆⟩ := @AtTable.addToLengths _ _ _ _ _ hat₅ hkind k hstart (by omega)
    dsimp only
    rw [hat₆.offset]
    refine ⟨hcount, by omega, rfl, ?_, fun i hi hapart => ?_⟩
    · refine AtTable.builtUpTo (hat₆.congr fun i hi => ?_)
      exact generateChecksumAt_apply_of_ne (by omega)
    · rw [generateChecksumAt_apply_of_ne (by omega), hframe₆ i (outsideLengths_of_le hi) (by omega)]

/-- What building a sub-table can do. -/
private theorem getDimmConfigTableFromDb_cases {m : Bytes} {total : ℕ}
    (h : BuiltUpTo (tablesBefore kind) m a) (hsize : size < 2 ^ 32)
    (hbound : Representable size total)
    (htotal : a + neededTableSize db handle kind ≤ total) :
    let result := getDimmConfigTableFromDb kind db handle m size
    let n := getDimmPartitionTableSizeFromDb db handle kind
    (configTableOf db handle kind = none ∧ result.1 = .success ∧
        BuiltUpTo (tablesBefore kind ++ [kind]) result.2 a ∧
        ∀ i, platformConfigDataSize ≤ i → result.2 i = m i) ∨
      (∃ row, configTableOf db handle kind = some row) ∧
        ((size < a + kind.structSize ∧ result = (.errBadDeviceConfig, m)) ∨
          (a + kind.structSize ≤ size ∧ ∃ m', (∀ i, platformConfigDataSize ≤ i →
              i < a ∨ a + kind.structSize + n ≤ i → m' i = m i) ∧
            ((n = partitionSizeChangeTableSize ∧ size < a + kind.structSize + 8 ∧
                result.1 = .errBadDeviceConfig ∧ ∀ i, platformConfigDataSize ≤ i →
                  i < a ∨ a + kind.structSize ≤ i → result.2 i = m i) ∨
              ((n ≠ 0 → n = partitionSizeChangeTableSize ∧ a + kind.structSize + 8 ≤ size ∧
                  m' (a + kind.structSize + 15) = lastOfPartition db handle kind) ∧
                headerLength m' = a + kind.structSize + n ∧
                a + kind.structSize + n < 2 ^ 32 ∧
                let sets := copyInterleaveSets db handle kind (a + kind.structSize + n) size
                  (interleaveSetsOf db handle kind) 0 m'
                ((∃ e, sets.1 = .error e ∧ result = (.errBadDeviceConfig, sets.2)) ∨
                  ∃ k, sets.1 = .ok k ∧
                    getDimmConfigTableSizeFromDb db handle kind =
                      .ok (kind.structSize + n + k) ∧
                    a + (kind.structSize + n + k) < 2 ^ 32 ∧ result.1 = .success ∧
                    BuiltUpTo (tablesBefore kind ++ [kind]) result.2
                      (a + (kind.structSize + n + k)) ∧
                    ∀ i, platformConfigDataSize ≤ i → i < a ∨ a + kind.structSize ≤ i →
                      result.2 i = sets.2 i))))) := by
  have hkind := notMem_tablesBefore kind
  have hstart : platformConfigDataSize ≤ a := by
    rw [← h.sizes]
    exact Nat.le_add_right _ _
  obtain ⟨hlow, hhigh⟩ := lt_structSize kind
  rw [getDimmConfigTableFromDb]
  cases hrow : configTableOf db handle kind with
  | none =>
    obtain ⟨hbuilt, -, -, hframe⟩ := h.absent
    exact Or.inl ⟨rfl, rfl, hbuilt, fun i hi => hframe i (outsideLengths_of_le hi)⟩
  | some row =>
    refine Or.inr ⟨⟨row, rfl⟩, ?_⟩
    dsimp only
    rw [neededTableSize, hrow] at htotal
    dsimp only at htotal
    by_cases hfull : size < a + kind.structSize
    · rw [h.length, if_pos hfull]
      exact Or.inl ⟨hfull, rfl⟩
    · refine Or.inr ⟨not_lt.mp hfull, ?_⟩
      have hbegin := h.atTable hkind (by omega)
      rw [h.length] at hbegin ⊢
      rw [if_neg hfull]
      generalize hm₁ : writeFields m 0 _ = m₁ at hbegin ⊢
      rw [hbegin.offset]
      generalize hm₂ : writeFields m₁ a _ = m₂
      have hframe : ∀ i, platformConfigDataSize ≤ i → i < a ∨ a + kind.structSize ≤ i →
          m₂ i = m i := by
        intro i hi hapart
        rw [← hm₂, writeFields_apply_of_outside, ← hm₁]
        · exact beginTable_apply _ _ _ (outsideLengths_of_le hi)
        · intro f hf
          have hinside := tableFields_inside row f hf
          omega
      have hat : AtTable kind (tablesBefore kind) m₂ a kind.structSize := by
        refine hbegin.congr fun i hi => ?_
        rw [← hm₂]
        exact writeFields_apply_of_outside fun f _ => Or.inl (by omega)
      have hmod : (a + kind.structSize) % 2 ^ 32 = a + kind.structSize := Nat.mod_eq_of_lt (by omega)
      rw [hat.offset, hat.size, hmod]
      have hpartition := @getPartitionTableFromDb_cases db handle kind size (a + kind.structSize) m₂
        hat.length
      have hcounted : ∀ k, countInterleaveSets db handle kind (interleaveSetsOf db handle kind) 0 =
          .ok k → getDimmConfigTableSizeFromDb db handle kind =
            .ok (kind.structSize + getDimmPartitionTableSizeFromDb db handle kind + k) := by
        intro k hk
        rw [getDimmConfigTableSizeFromDb, hrow]
        simp only [getDimmInterleaveTablesSizeFromDb, hk]
        rfl
      rw [getPartitionTableFromDb] at hpartition
      generalize getDimmPartitionTableSizeFromDb db handle kind = n at hpartition htotal hcounted ⊢
      rcases hpartition with ⟨rfl, hresult⟩ | ⟨hn, hrefused, hresult⟩ |
        ⟨hn, hroom, m₃, hresult, hstay, hlast⟩
      · rw [hresult]
        obtain ⟨m', hframe', hlength', hcases⟩ := @finishConfigTable_cases db handle kind size a m₂ 0
          total hat hstart hsize hbound (by omega) (by rw [← Nat.add_assoc] at htotal; exact htotal)
        refine ⟨m', fun i hi hapart => ?_, Or.inr ⟨fun h => absurd rfl h, hlength', by omega, ?_⟩⟩
        · rw [hframe' i hi (by omega), hframe i hi (by omega)]
        · rcases hcases with herror | ⟨k, hk, hcount, hrest⟩
          · exact Or.inl herror
          · exact Or.inr ⟨k, hk, hcounted k hcount, hrest⟩
      · rw [hresult]
        exact ⟨m, fun _ _ _ => rfl, Or.inl ⟨hn, hrefused, rfl, hframe⟩⟩
      · rw [hresult]
        have hat₃ := hat.congr fun i hi => hstay i (Or.inl (by omega))
        have hpartition : partitionSizeChangeTableSize = 16 := rfl
        have hrange : a + kind.structSize + n < 2 ^ 32 := by
          rcases hbound with hsmall | hsmall
          · omega
          · omega
        obtain ⟨m', hframe', hlength', hcases⟩ := @finishConfigTable_cases db handle kind size a m₃ n
          total hat₃ hstart hsize hbound hrange
          (by rw [← Nat.add_assoc, ← Nat.add_assoc] at htotal; exact htotal)
        refine ⟨m', fun i hi hapart => ?_, Or.inr ⟨fun _ => ⟨hn, hroom, ?_⟩, hlength', hrange, ?_⟩⟩
        · rw [hframe' i hi (by omega), hstay i (by omega), hframe i hi (by omega)]
        · rw [hframe' _ (by omega) (by omega)]
          exact hlast
        · rcases hcases with herror | ⟨k, hk, hcount, hrest⟩
          · exact Or.inl herror
          · exact Or.inr ⟨k, hk, hcounted k hcount, hrest⟩

/-- A sub-table has one partition size change table at most. -/
private theorem getDimmPartitionTableSizeFromDb_le :
    getDimmPartitionTableSizeFromDb db handle kind ≤ partitionSizeChangeTableSize := by
  rw [getDimmPartitionTableSizeFromDb]
  split_ifs
  · exact Nat.zero_le _
  · split
    · exact Nat.zero_le _
    · exact le_rfl

/-- The places of DIMMs end behind the last one. -/
private theorem dimmPlaces_stop_le {length start n rc : ℕ} :
    ∀ p ∈ dimmPlaces length start n rc, p.stop ≤ start + rc + dimmInfoTableSize * n := by
  induction n generalizing rc with
  | zero => exact List.forall_mem_nil _
  | succ n ih =>
    rw [dimmPlaces, List.forall_mem_cons, Nat.mul_succ]
    refine ⟨by dsimp only; omega, fun p hp => ?_⟩
    have hle := ih p hp
    omega

/-- The places of interleave tables end behind the last one. -/
private theorem setPlaces_stop_le {length rc : ℕ} {rows : List DbDimmInterleaveSet} :
    ∀ p ∈ setPlaces (dimmRowCount db handle kind) length rows rc,
      p.stop ≤ length + rc + (rows.map (setSize db handle kind)).sum := by
  induction rows generalizing rc with
  | nil => exact List.forall_mem_nil _
  | cons row rows ih =>
    intro p hp
    have hset : setSize db handle kind row =
        interleaveInfoTableSize + dimmInfoTableSize * dimmRowCount db handle kind row := rfl
    rw [List.map_cons, List.sum_cons, hset]
    rw [setPlaces, List.cons_append, List.mem_cons, List.mem_append] at hp
    rcases hp with rfl | hdimm | hrest
    · dsimp only
      omega
    · have hle := dimmPlaces_stop_le p hdimm
      omega
    · split_ifs at hrest
      · have hle := ih p hrest
        omega
      · cases hrest

/-- The places of a sub-table end behind what there is for it. -/
private theorem tablePlaces_stop_le :
    ∀ p ∈ tablePlaces db handle kind a, p.stop ≤ a + neededTableSize db handle kind := by
  intro p hp
  rw [tablePlaces] at hp
  rw [neededTableSize]
  cases hrow : configTableOf db handle kind with
  | none =>
    rw [hrow] at hp
    cases hp
  | some row =>
    rw [hrow] at hp
    simp only [List.cons_append, List.mem_cons, List.mem_append] at hp
    dsimp only
    rcases hp with rfl | hpartition | hset
    · dsimp only
      omega
    · rw [partitionPlaces] at hpartition
      split_ifs at hpartition with hnone
      · cases hpartition
      · obtain rfl := List.mem_singleton.mp hpartition
        rw [getDimmPartitionTableSizeFromDb] at hnone ⊢
        split_ifs at hnone ⊢
        · exact absurd rfl hnone
        · split at hnone
          · exact absurd rfl hnone
          · dsimp only
            omega
    · have hle := setPlaces_stop_le p hset
      change p.stop ≤ a + (kind.structSize + getDimmPartitionTableSizeFromDb db handle kind +
        ((interleaveSetsOf db handle kind).map (setSize db handle kind)).sum)
      omega

/-- Interleave tables whose places are in the buffer end in it. -/
private theorem setPlaces_fit {length rc n : ℕ} {rows : List DbDimmInterleaveSet}
    (hstart : length + rc ≤ size)
    (h : ∀ p ∈ setPlaces (dimmRowCount db handle kind) length rows rc, p.stop ≤ size)
    (hn : countInterleaveSets db handle kind rows rc = .ok n) : length + n ≤ size := by
  induction rows generalizing rc with
  | nil =>
    cases hn
    exact hstart
  | cons row rows ih =>
    rw [setPlaces, List.cons_append, List.forall_mem_cons, List.forall_mem_append] at h
    obtain ⟨hheader, hdimms, hrest⟩ := h
    have hend := (@dimmPlaces_fit size length (length + rc + interleaveInfoTableSize) _ 0
      hheader).mp hdimms
    simp only [countInterleaveSets, ne_eq, dimmCount_iff] at hn
    split_ifs at hn with hcount
    rw [if_pos hcount] at hrest
    exact ih (by omega) hrest hn

/-- A sub-table whose places are in the buffer ends in it. -/
private theorem tablePlaces_fit {n : ℕ} (hroom : a ≤ size)
    (h : ∀ p ∈ tablePlaces db handle kind a, p.stop ≤ size)
    (hn : getDimmConfigTableSizeFromDb db handle kind = .ok n) : a + n ≤ size := by
  cases hrow : configTableOf db handle kind with
  | none =>
    rw [getDimmConfigTableSizeFromDb, hrow] at hn
    cases hn
    exact hroom
  | some row =>
    rw [tablePlaces, hrow] at h
    dsimp only at h
    rw [List.cons_append, List.forall_mem_cons, List.forall_mem_append] at h
    obtain ⟨hbegin, hpartition, hsets⟩ := h
    rw [getDimmConfigTableSizeFromDb, hrow] at hn
    simp only [getDimmInterleaveTablesSizeFromDb] at hn
    cases hcount : countInterleaveSets db handle kind (interleaveSetsOf db handle kind) 0 with
    | error e =>
      rw [hcount] at hn
      cases hn
    | ok k =>
      rw [hcount] at hn
      cases hn
      have hstart : a + kind.structSize + getDimmPartitionTableSizeFromDb db handle kind + 0 ≤
          size := by
        rw [partitionPlaces] at hpartition
        split_ifs at hpartition with hnone
        · rw [hnone]
          exact hbegin
        · have hend := List.forall_mem_singleton.mp hpartition
          have hle : getDimmPartitionTableSizeFromDb db handle kind ≤
              partitionSizeChangeTableSize := getDimmPartitionTableSizeFromDb_le
          dsimp only at hend
          omega
      have hend := setPlaces_fit hstart hsets hcount
      omega

/-- When a sub-table is built, the data is as long as counted. -/
private theorem getDimmConfigTableFromDb_ok {m : Bytes} {total : ℕ}
    (h : BuiltUpTo (tablesBefore kind) m a) (hsize : size < 2 ^ 32) (hroom : a < 2 ^ 32)
    (hbound : Representable size total) (htotal : a + neededTableSize db handle kind ≤ total)
    (hok : (getDimmConfigTableFromDb kind db handle m size).1 = .success) :
    ∃ n, getDimmConfigTableSizeFromDb db handle kind = .ok n ∧ a + n < 2 ^ 32 ∧
      BuiltUpTo (tablesBefore kind ++ [kind]) (getDimmConfigTableFromDb kind db handle m size).2
        (a + n) := by
  rcases @getDimmConfigTableFromDb_cases db handle kind size a m total h hsize hbound htotal with
    ⟨hrow, -, hbuilt, -⟩ | ⟨-, ⟨-, hresult⟩ | ⟨-, m', -, ⟨-, -, hresult, -⟩ | ⟨-, -, -, hsets⟩⟩⟩
  · refine ⟨0, ?_, hroom, hbuilt⟩
    rw [getDimmConfigTableSizeFromDb, hrow]
  · rw [hresult] at hok
    cases hok
  · rw [hresult] at hok
    cases hok
  · rcases hsets with ⟨e, -, hresult⟩ | ⟨k, -, hcount, hlt, -, hbuilt, -⟩
    · rw [hresult] at hok
      cases hok
    · exact ⟨_, hcount, hlt, hbuilt⟩

/-- A sub-table behind the buffer is refused. -/
private theorem getDimmConfigTableFromDb_late {m : Bytes} {total : ℕ}
    (h : BuiltUpTo (tablesBefore kind) m a) (hsize : size < 2 ^ 32)
    (hbound : Representable size total) (htotal : a + neededTableSize db handle kind ≤ total)
    (hlate : size < a) {i : ℕ} (hi : platformConfigDataSize ≤ i) :
    (getDimmConfigTableFromDb kind db handle m size).2 i = m i := by
  rcases @getDimmConfigTableFromDb_cases db handle kind size a m total h hsize hbound htotal with
    ⟨-, -, -, hframe⟩ | ⟨-, ⟨-, hresult⟩ | ⟨hroom, -⟩⟩
  · exact hframe i hi
  · rw [hresult]
  · omega

/-- The places of a sub-table that is there. -/
private theorem refusedInTime_tablePlaces {row : DbConfigTable}
    (hrow : configTableOf db handle kind = some row) :
    RefusedInTime size (tablePlaces db handle kind a) ↔ (a + kind.structSize ≤ size →
      RefusedInTime size (partitionPlaces db handle kind (a + kind.structSize)) ∧
        ((∀ p ∈ partitionPlaces db handle kind (a + kind.structSize), p.stop ≤ size) →
          RefusedInTime size (setPlaces (dimmRowCount db handle kind)
            (a + kind.structSize + getDimmPartitionTableSizeFromDb db handle kind)
            (interleaveSetsOf db handle kind) 0))) := by
  rw [tablePlaces, hrow]
  dsimp only
  rw [List.cons_append, refusedInTime_cons, refusedInTime_append]
  exact and_iff_right id

/-- The place of a partition size change table. -/
private theorem partitionPlaces_iff :
    (RefusedInTime size (partitionPlaces db handle kind a) ↔
      (getDimmPartitionTableSizeFromDb db handle kind ≠ 0 →
        size < a + partitionSizeChangeTableSize → size < a + 8)) ∧
      ((∀ p ∈ partitionPlaces db handle kind a, p.stop ≤ size) ↔
        (getDimmPartitionTableSizeFromDb db handle kind ≠ 0 →
          a + partitionSizeChangeTableSize ≤ size)) := by
  rw [partitionPlaces]
  split_ifs with hnone
  · exact ⟨iff_of_true refusedInTime_nil fun h => absurd hnone h,
      iff_of_true (List.forall_mem_nil _) fun h => absurd hnone h⟩
  · constructor
    · rw [refusedInTime_cons, and_iff_left fun _ => refusedInTime_nil, forall_prop_of_true hnone]
    · rw [List.forall_mem_singleton, forall_prop_of_true hnone]

/-- A sub-table that is counted has interleave tables that are. -/
private theorem exists_count_of_size {row : DbConfigTable} {n : ℕ}
    (hrow : configTableOf db handle kind = some row)
    (h : getDimmConfigTableSizeFromDb db handle kind = .ok n) :
    ∃ k, countInterleaveSets db handle kind (interleaveSetsOf db handle kind) 0 = .ok k := by
  rw [getDimmConfigTableSizeFromDb, hrow] at h
  simp only [getDimmInterleaveTablesSizeFromDb] at h
  cases hcount : countInterleaveSets db handle kind (interleaveSetsOf db handle kind) 0 with
  | error e =>
    rw [hcount] at h
    cases h
  | ok k => exact ⟨k, rfl⟩

/-- Building a sub-table stays in the buffer if it stops in time. -/
private theorem getDimmConfigTableFromDb_safe {m : Bytes} {total : ℕ}
    (h : BuiltUpTo (tablesBefore kind) m a) (hsize : size < 2 ^ 32) (hroom : a ≤ size)
    (hbound : Representable size total) (htotal : a + neededTableSize db handle kind ≤ total)
    (hintime : RefusedInTime size (tablePlaces db handle kind a)) :
    let result := getDimmConfigTableFromDb kind db handle m size
    (∀ i, size ≤ i → result.2 i = m i) ∧
      (∀ n, result.1 = .success → getDimmConfigTableSizeFromDb db handle kind = .ok n →
        a + n ≤ size ∧ ∀ p ∈ tablePlaces db handle kind a, p.stop ≤ size) ∧
      ∀ n, getDimmConfigTableSizeFromDb db handle kind = .ok n →
        (∀ p ∈ tablePlaces db handle kind a, p.stop ≤ size) → result.1 = .success := by
  have hstart : platformConfigDataSize ≤ a := by
    rw [← h.sizes]
    exact Nat.le_add_right _ _
  rcases @getDimmConfigTableFromDb_cases db handle kind size a m total h hsize hbound htotal with
    ⟨hrow, hok, -, hframe⟩ | ⟨⟨row, hrow⟩, hcases⟩
  · have hsized : getDimmConfigTableSizeFromDb db handle kind = .ok 0 := by
      rw [getDimmConfigTableSizeFromDb, hrow]
    refine ⟨fun i hi => hframe i (by omega), fun n _ hn => ?_, fun _ _ _ => hok⟩
    rw [hsized] at hn
    cases hn
    rw [tablePlaces, hrow]
    exact ⟨hroom, List.forall_mem_nil _⟩
  · have hplaces : (∀ p ∈ tablePlaces db handle kind a, p.stop ≤ size) ↔
        a + kind.structSize ≤ size ∧
          (∀ p ∈ partitionPlaces db handle kind (a + kind.structSize), p.stop ≤ size) ∧
          ∀ p ∈ setPlaces (dimmRowCount db handle kind)
            (a + kind.structSize + getDimmPartitionTableSizeFromDb db handle kind)
            (interleaveSetsOf db handle kind) 0, p.stop ≤ size := by
      rw [tablePlaces, hrow]
      dsimp only
      rw [List.cons_append, List.forall_mem_cons, List.forall_mem_append]
    rw [refusedInTime_tablePlaces hrow] at hintime
    obtain ⟨hpartitionIff, hpartitionFits⟩ :=
      @partitionPlaces_iff db handle kind size (a + kind.structSize)
    rcases hcases with ⟨hfull, hresult⟩ | ⟨hbegin, m', hframe, hrest⟩
    · rw [hresult]
      refine ⟨fun _ _ => rfl, (fun n hn => by cases hn), fun n _ hfits => ?_⟩
      have hfirst := (hplaces.mp hfits).1
      omega
    · obtain ⟨hpartition, hsetsInTime⟩ := hintime hbegin
      rcases hrest with ⟨hn, hrefused, hresult, hstay⟩ | ⟨hwritten, hlength, hlt, hsets⟩
      · refine ⟨fun i hi => hstay i (by omega) (by omega), fun n hok => ?_, fun n _ hfits => ?_⟩
        · rw [hresult] at hok
          cases hok
        · have hpartition16 := hpartitionFits.mp (hplaces.mp hfits).2.1 (by rw [hn]; decide)
          rw [partitionSizeChangeTableSize] at hpartition16
          omega
      · have hfits : getDimmPartitionTableSizeFromDb db handle kind ≠ 0 →
            a + kind.structSize + partitionSizeChangeTableSize ≤ size := by
          intro hsome
          by_contra hover
          have hrefused := hpartitionIff.mp hpartition hsome (by omega)
          have hroom8 := (hwritten hsome).2.1
          omega
        have hroomSets : a + kind.structSize + getDimmPartitionTableSizeFromDb db handle kind ≤
            size := by
          by_cases hsome : getDimmPartitionTableSizeFromDb db handle kind = 0
          · omega
          · have hroom16 := hfits hsome
            rw [← (hwritten hsome).1] at hroom16
            exact hroom16
        obtain ⟨hbehind, hokSets, hdone⟩ := @copyInterleaveSets_safe db handle kind _ size _ 0 m'
          (by dsimp only [platformConfigDataSize] at hstart; omega) hlength hroomSets hsize
          (hsetsInTime (hpartitionFits.mpr hfits))
        have hbehind' : ∀ i, size ≤ i → (copyInterleaveSets db handle kind
            (a + kind.structSize + getDimmPartitionTableSizeFromDb db handle kind) size
            (interleaveSetsOf db handle kind) 0 m').2 i = m i := by
          intro i hi
          rw [hbehind i hi, hframe i (by omega) (by omega)]
        rcases hsets with ⟨e, herror, hresult⟩ | ⟨k, hk, hcount, -, hok, -, hsame⟩
        · rw [hresult]
          refine ⟨hbehind', (fun n hn => by cases hn), fun n hn hall => ?_⟩
          obtain ⟨k, hk⟩ := exists_count_of_size hrow hn
          have hdone' := hdone k hk (hplaces.mp hall).2.2
          rw [herror] at hdone'
          cases hdone'
        · refine ⟨fun i hi => ?_, fun n _ hn => ?_, fun _ _ _ => hok⟩
          · rw [hsame i (by omega) (by omega), hbehind' i hi]
          · obtain ⟨hle, hall⟩ := hokSets k hk
            obtain rfl := Except.ok.inj (hcount.symm.trans hn)
            exact ⟨by omega, hplaces.mpr ⟨hbegin, hpartitionFits.mpr hfits, hall⟩⟩

/-- Building a sub-table writes behind the buffer if it does not stop in time. -/
private theorem getDimmConfigTableFromDb_overrun {total : ℕ} (hsize : size < 2 ^ 32)
    (hstart : platformConfigDataSize ≤ a)
    (hbound : Representable size total) (htotal : a + neededTableSize db handle kind ≤ total)
    (h : ¬RefusedInTime size (tablePlaces db handle kind a)) :
    ∃ i v, size ≤ i ∧ platformConfigDataSize ≤ i ∧ ∀ m, BuiltUpTo (tablesBefore kind) m a →
      (getDimmConfigTableFromDb kind db handle m size).2 i = v := by
  cases hrow : configTableOf db handle kind with
  | none =>
    rw [tablePlaces, hrow] at h
    exact absurd refusedInTime_nil h
  | some row =>
    rw [refusedInTime_tablePlaces hrow, Classical.not_imp] at h
    obtain ⟨hbegin, h⟩ := h
    obtain ⟨hpartitionIff, hpartitionFits⟩ :=
      @partitionPlaces_iff db handle kind size (a + kind.structSize)
    have hoffset : 8 ≤ a + kind.structSize + getDimmPartitionTableSizeFromDb db handle kind := by
      dsimp only [platformConfigDataSize] at hstart
      omega
    have htotalSets : a + kind.structSize + getDimmPartitionTableSizeFromDb db handle kind +
        (0 + ((interleaveSetsOf db handle kind).map (setSize db handle kind)).sum) ≤ total := by
      rw [neededTableSize, hrow, ← Nat.add_assoc, ← Nat.add_assoc] at htotal
      rw [Nat.zero_add]
      exact htotal
    by_cases hpartition : RefusedInTime size
        (partitionPlaces db handle kind (a + kind.structSize))
    · -- an interleave table or a DIMM is behind the buffer
      rw [not_and, Classical.not_imp] at h
      obtain ⟨hfits, hsets⟩ := h hpartition
      have hroom : a + kind.structSize + getDimmPartitionTableSizeFromDb db handle kind ≤ size := by
        by_cases hsome : getDimmPartitionTableSizeFromDb db handle kind = 0
        · omega
        · have hroom16 := hpartitionFits.mp hfits hsome
          have hle : getDimmPartitionTableSizeFromDb db handle kind ≤
              partitionSizeChangeTableSize := getDimmPartitionTableSizeFromDb_le
          omega
      obtain ⟨i, v, hi, hbehind, hv⟩ := @copyInterleaveSets_overrun db handle kind
        (a + kind.structSize + getDimmPartitionTableSizeFromDb db handle kind) size _ 0 total hoffset
        hroom hsize hbound htotalSets hsets
      refine ⟨i, v, hi, by omega, fun m hm => ?_⟩
      rcases @getDimmConfigTableFromDb_cases db handle kind size a m total hm hsize hbound htotal with
        ⟨hnone, -⟩ | ⟨-, ⟨hfull, -⟩ | ⟨-, m', -, hrest⟩⟩
      · rw [hnone] at hrow
        cases hrow
      · omega
      · rcases hrest with ⟨hn, hrefused, -⟩ | ⟨-, hlength, -, hcases⟩
        · rw [hn, partitionSizeChangeTableSize] at hroom
          omega
        · rcases hcases with ⟨e, -, hresult⟩ | ⟨k, -, -, -, -, -, hsame⟩
          · rw [hresult]
            exact hv m' hlength
          · rw [hsame i (by omega) (by omega)]
            exact hv m' hlength
    · -- the partition size change table is behind the buffer
      rw [hpartitionIff] at hpartition
      simp only [Classical.not_imp, not_lt] at hpartition
      obtain ⟨hsome, hover, hroom8⟩ := hpartition
      refine ⟨a + kind.structSize + 15, lastOfPartition db handle kind, ?_, by omega,
        fun m hm => ?_⟩
      · rw [partitionSizeChangeTableSize] at hover
        omega
      rcases @getDimmConfigTableFromDb_cases db handle kind size a m total hm hsize hbound htotal with
        ⟨hnone, -⟩ | ⟨-, ⟨hfull, -⟩ | ⟨-, m', -, hrest⟩⟩
      · rw [hnone] at hrow
        cases hrow
      · omega
      · rcases hrest with ⟨-, hrefused, -⟩ | ⟨hwritten, hlength, hlt, hcases⟩
        · omega
        · obtain ⟨hn, -, hlast⟩ := hwritten hsome
          have hbefore := (@copyInterleaveSets_before db handle kind
            (a + kind.structSize + getDimmPartitionTableSizeFromDb db handle kind) size _ 0 total m'
            hoffset hlength (by omega) hsize hbound htotalSets).1 (a + kind.structSize + 15)
            (by rw [hn, partitionSizeChangeTableSize]; omega)
          rcases hcases with ⟨e, -, hresult⟩ | ⟨k, -, -, -, -, -, hsame⟩
          · rw [hresult]
            exact hbefore.trans hlast
          · rw [hsame _ (by omega) (by omega)]
            exact hbefore.trans hlast

end Table

/-! ### All sub-tables -/

section Tables

variable {db : PcdDb} {handle : UInt32} {size total : ℕ} {kinds done : List TableKind} {a : ℕ}

/-- Building sub-tables stays in the buffer if it stops in time. -/
private theorem buildTables_safe {m : Bytes} (horder : InOrder done kinds) (h : BuiltUpTo done m a)
    (hsize : size < 2 ^ 32) (hroom : a ≤ size) (hbound : Representable size total)
    (htotal : a + (kinds.map (neededTableSize db handle)).sum ≤ total)
    (hintime : RefusedInTime size (placesFrom db handle kinds a)) :
    let result := buildTables db handle size kinds m
    (∀ i, size ≤ i → result.2 i = m i) ∧ (result.1 = .success →
      (∀ kind ∈ kinds, getDimmConfigTableSizeFromDb db handle kind =
        .ok (neededTableSize db handle kind)) ∧
      headerLength result.2 = a + (kinds.map (neededTableSize db handle)).sum ∧
      headerLength result.2 ≤ size) := by
  induction kinds generalizing done m a with
  | nil =>
    refine ⟨fun _ _ => rfl, fun _ => ⟨List.forall_mem_nil _, ?_, ?_⟩⟩
    · exact h.length
    · exact h.length.trans_le hroom
  | cons kind kinds ih =>
    obtain ⟨rfl, horder⟩ := horder
    rw [List.map_cons, List.sum_cons] at htotal ⊢
    rw [placesFrom, refusedInTime_append] at hintime
    obtain ⟨htable, hrest⟩ := hintime
    obtain ⟨hbehind, hfits, -⟩ := getDimmConfigTableFromDb_safe h hsize hroom hbound (by omega) htable
    have hbuilt := @getDimmConfigTableFromDb_ok db handle kind size a m total h hsize (by omega)
      hbound (by omega)
    rw [buildTables]
    generalize getDimmConfigTableFromDb kind db handle m size = result at hbehind hfits hbuilt ⊢
    dsimp only
    split_ifs with hok
    · obtain ⟨n, hn, hlt, hnext⟩ := hbuilt hok
      obtain ⟨hle, hall⟩ := hfits n hok hn
      have hneeded := getDimmConfigTableSizeFromDb_eq hn
      rw [hn] at hrest
      obtain ⟨hbehind', hok'⟩ := ih horder hnext hle (by omega) (hrest hall)
      refine ⟨fun i hi => by rw [hbehind' i hi, hbehind i hi], fun hsuccess => ?_⟩
      obtain ⟨hsizes, hlength, hend⟩ := hok' hsuccess
      refine ⟨List.forall_mem_cons.mpr ⟨hneeded ▸ hn, hsizes⟩, ?_, hend⟩
      rw [hlength, ← hneeded, Nat.add_assoc]
    · exact ⟨hbehind, fun hsuccess => absurd hsuccess hok⟩

/-- Sub-tables behind the buffer are refused. -/
private theorem buildTables_late {m : Bytes} (horder : InOrder done kinds) (h : BuiltUpTo done m a)
    (hsize : size < 2 ^ 32) (hroom : a < 2 ^ 32) (hbound : Representable size total)
    (htotal : a + (kinds.map (neededTableSize db handle)).sum ≤ total) (hlate : size < a) {i : ℕ}
    (hi : platformConfigDataSize ≤ i) : (buildTables db handle size kinds m).2 i = m i := by
  induction kinds generalizing done m a with
  | nil => rfl
  | cons kind kinds ih =>
    obtain ⟨rfl, horder⟩ := horder
    rw [List.map_cons, List.sum_cons] at htotal
    have hsame := @getDimmConfigTableFromDb_late db handle kind size a m total h hsize hbound
      (by omega) hlate i hi
    have hbuilt := @getDimmConfigTableFromDb_ok db handle kind size a m total h hsize hroom hbound
      (by omega)
    rw [buildTables]
    generalize getDimmConfigTableFromDb kind db handle m size = result at hsame hbuilt ⊢
    split_ifs with hok
    · obtain ⟨n, hn, hlt, hnext⟩ := hbuilt hok
      have hneeded := getDimmConfigTableSizeFromDb_eq hn
      rw [ih horder hnext hlt (by omega) (by omega), hsame]
    · exact hsame

/-- Building sub-tables writes behind the buffer if it does not stop in time. -/
private theorem buildTables_overrun (horder : InOrder done kinds) (hsize : size < 2 ^ 32)
    (hroom : a ≤ size) (hstart : platformConfigDataSize ≤ a) (hbound : Representable size total)
    (htotal : a + (kinds.map (neededTableSize db handle)).sum ≤ total)
    (h : ¬RefusedInTime size (placesFrom db handle kinds a)) :
    ∃ i v, size ≤ i ∧ platformConfigDataSize ≤ i ∧ ∀ m, BuiltUpTo done m a →
      (buildTables db handle size kinds m).2 i = v := by
  induction kinds generalizing done a with
  | nil => exact absurd refusedInTime_nil h
  | cons kind kinds ih =>
    obtain ⟨rfl, horder⟩ := horder
    rw [List.map_cons, List.sum_cons] at htotal
    rw [placesFrom, refusedInTime_append] at h
    by_cases htable : RefusedInTime size (tablePlaces db handle kind a)
    · -- a later sub-table does not stop in time
      rw [not_and, Classical.not_imp] at h
      obtain ⟨hall, hrest⟩ := h htable
      cases hn : getDimmConfigTableSizeFromDb db handle kind with
      | error e =>
        rw [hn] at hrest
        exact absurd refusedInTime_nil hrest
      | ok n =>
        rw [hn] at hrest
        have hneeded := getDimmConfigTableSizeFromDb_eq hn
        have hle := tablePlaces_fit hroom hall hn
        obtain ⟨i, v, hi, hbehind, hv⟩ := ih horder hle (by omega) (by omega) hrest
        refine ⟨i, v, hi, hbehind, fun m hm => ?_⟩
        obtain ⟨-, -, hdone⟩ :=
          getDimmConfigTableFromDb_safe hm hsize hroom hbound (by omega) htable
        have hok := hdone n hn hall
        obtain ⟨k, hk, -, hnext⟩ := @getDimmConfigTableFromDb_ok db handle kind size a m total hm
          hsize (by omega) hbound (by omega) hok
        obtain rfl := Except.ok.inj (hn.symm.trans hk)
        rw [buildTables, if_pos hok]
        exact hv _ hnext
    · -- this sub-table does not stop in time, and those behind it are refused
      have hover : size < a + neededTableSize db handle kind := by
        by_contra hle
        exact htable (refusedInTime_of_fits fun p hp =>
          (tablePlaces_stop_le p hp).trans (not_lt.mp hle))
      obtain ⟨i, v, hi, hbehind, hv⟩ := getDimmConfigTableFromDb_overrun hsize hstart hbound
        (by omega) htable
      refine ⟨i, v, hi, hbehind, fun m hm => ?_⟩
      have hvalue := hv m hm
      have hbuilt := @getDimmConfigTableFromDb_ok db handle kind size a m total hm hsize (by omega)
        hbound (by omega)
      rw [buildTables]
      generalize getDimmConfigTableFromDb kind db handle m size = result at hvalue hbuilt ⊢
      split_ifs with hok
      · obtain ⟨n, hn, hlt, hnext⟩ := hbuilt hok
        have hneeded := getDimmConfigTableSizeFromDb_eq hn
        rw [buildTables_late horder hnext hsize hlt hbound (by omega) (by omega) hbehind, hvalue]
      · exact hvalue

end Tables

/-! ### The data of a DIMM -/

/-- A header is stored for a DIMM. -/
def HeaderStored (db : PcdDb) (handle : UInt32) : Prop :=
  ∃ row ∈ db.platformConfigs, row.deviceHandle = handle

/-- What is built for a DIMM is in the buffer, and has the size that is counted. -/
structure InBuffer (db : PcdDb) (handle size : UInt32) : Prop where
  /-- The bytes behind the buffer stay. -/
  inside : ∀ m i, size.toNat ≤ i → (getDimmPlatformConfigDataFromDb db handle m size).2 i = m i
  /-- Data that does not fit is refused. -/
  refused : ∀ m n, getDimmPlatformConfigSizeFromDb db handle = .ok n → size.toNat < n →
    (getDimmPlatformConfigDataFromDb db handle m size).1 ≠ .success
  /-- The length of the data is the size that is counted. -/
  length : HeaderStored db handle → ∀ m,
    (getDimmPlatformConfigDataFromDb db handle m size).1 = .success →
    headerLength (getDimmPlatformConfigDataFromDb db handle m size).2 ≤ size.toNat ∧
      getDimmPlatformConfigSizeFromDb db handle =
        .ok (headerLength (getDimmPlatformConfigDataFromDb db handle m size).2)

section Data

variable {db : PcdDb} {handle size : UInt32}

/-- The row of a header that is stored. -/
private theorem headerStored_iff : HeaderStored db handle ↔
    ∃ row, db.platformConfigs.find? (fun row => row.deviceHandle == handle) = some row := by
  rw [← Option.isSome_iff_exists, List.find?_isSome]
  exact exists_congr fun row => and_congr_right fun _ => beq_iff_eq.symm

/-- The sizes of the sub-tables make up the size of the data. -/
private theorem getDimmPlatformConfigSizeFromDb_eq (hstored : HeaderStored db handle)
    (h : ∀ kind ∈ buildOrder, getDimmConfigTableSizeFromDb db handle kind =
      .ok (neededTableSize db handle kind)) :
    getDimmPlatformConfigSizeFromDb db handle = .ok (neededSize db handle) := by
  obtain ⟨row, hrow⟩ := headerStored_iff.mp hstored
  have hsum : neededSize db handle = platformConfigDataSize +
      neededTableSize db handle .currentConfig + neededTableSize db handle .configInput +
        neededTableSize db handle .configOutput := by
    rw [neededSize, buildOrder]
    simp only [List.map_cons, List.map_nil, List.sum_cons, List.sum_nil]
    omega
  rw [getDimmPlatformConfigSizeFromDb, hrow, hsum]
  dsimp only
  rw [h _ (by decide), h _ (by decide), h _ (by decide)]
  rfl

/-- What is built in time for a DIMM with a header. -/
private theorem getDimmPlatformConfigDataFromDb_safe
    (hbound : Representable size.toNat (neededSize db handle)) (hstored : HeaderStored db handle)
    (hroom : platformConfigDataSize ≤ size.toNat)
    (h : RefusedInTime size.toNat (placesFrom db handle buildOrder platformConfigDataSize))
    (m : Bytes) :
    let result := getDimmPlatformConfigDataFromDb db handle m size
    (∀ i, size.toNat ≤ i → result.2 i = m i) ∧ (result.1 = .success →
      headerLength result.2 ≤ size.toNat ∧
        getDimmPlatformConfigSizeFromDb db handle = .ok (headerLength result.2)) := by
  obtain ⟨row, hrow⟩ := headerStored_iff.mp hstored
  obtain ⟨hbuilt, hframe⟩ := builtUpTo_headerFields m row.header
  obtain ⟨hinside, hok⟩ := buildTables_safe inOrder_buildOrder hbuilt (UInt32.toNat_lt size) hroom
    hbound le_rfl h
  rw [getDimmPlatformConfigDataFromDb_stored m hroom hrow]
  generalize buildTables db handle size.toNat buildOrder _ = result at hinside hok ⊢
  have hinside' : ∀ i, size.toNat ≤ i → result.2 i = m i := fun i hi => by
    rw [hinside i hi, hframe i (by omega)]
  dsimp only
  split_ifs with hsuccess
  · obtain ⟨hsizes, hlength, hle⟩ := hok hsuccess
    have hsame : headerLength (generateChecksum result.2 (headerLength result.2) checksumOffset) =
        headerLength result.2 :=
      headerLength_of_before le_rfl fun i hi =>
        generateChecksum_apply_of_ne _ _ (by unfold checksumOffset; omega)
    refine ⟨fun i hi => ?_, fun _ => ?_⟩
    · dsimp only [platformConfigDataSize] at hroom
      exact (generateChecksum_apply_of_ne _ _ (by unfold checksumOffset; omega)).trans (hinside' i hi)
    · dsimp only
      rw [hsame, getDimmPlatformConfigSizeFromDb_eq hstored hsizes, hlength]
      exact ⟨hlength ▸ hle, rfl⟩
  · exact ⟨hinside', fun hok' => absurd hok' hsuccess⟩

/-- If the first place that is not in the buffer is refused, everything is in the buffer. -/
private theorem inBuffer_of_refused (hbound : Representable size.toNat (neededSize db handle))
    (h : HeaderStored db handle → platformConfigDataSize ≤ size.toNat →
      RefusedInTime size.toNat (placesFrom db handle buildOrder platformConfigDataSize)) :
    InBuffer db handle size := by
  by_cases hroom : platformConfigDataSize ≤ size.toNat
  · by_cases hstored : HeaderStored db handle
    · have hsafe := getDimmPlatformConfigDataFromDb_safe hbound hstored hroom (h hstored hroom)
      refine ⟨fun m => (hsafe m).1, fun m n hn hover hok => ?_, fun _ m => (hsafe m).2⟩
      obtain ⟨hle, hsize⟩ := (hsafe m).2 hok
      obtain rfl := Except.ok.inj (hn.symm.trans hsize)
      omega
    · -- without a header the buffer is filled with zeros
      have hnone : db.platformConfigs.find? (fun row => row.deviceHandle == handle) = none := by
        rw [headerStored_iff, ← Option.isSome_iff_exists, Bool.not_eq_true] at hstored
        exact Option.isNone_iff_eq_none.mp (Option.isSome_eq_false_iff.mp hstored)
      refine ⟨fun m i hi => ?_, fun m n hn hover _ => ?_, fun h => absurd h hstored⟩
      · rw [getDimmPlatformConfigDataFromDb, if_neg (not_lt.mpr hroom), hnone]
        exact @copy_apply_of_notMem m (fun _ => 0) 0 size.toNat i (Or.inr (by omega))
      · rw [getDimmPlatformConfigSizeFromDb, hnone] at hn
        cases hn
        omega
  · have herror : ∀ m, getDimmPlatformConfigDataFromDb db handle m size = (.errBadSize, m) :=
      fun m => by rw [getDimmPlatformConfigDataFromDb, if_pos (not_le.mp hroom)]
    refine ⟨fun m i _ => by rw [herror], fun m n _ _ hok => ?_, fun _ m hok => ?_⟩
    · rw [herror] at hok
      cases hok
    · rw [herror] at hok
      cases hok

/-- The data of a DIMM is built in the buffer, with the size that is counted, exactly if the first
place that is not in the buffer is refused. -/
theorem inBuffer_iff (hbound : Representable size.toNat (neededSize db handle)) :
    InBuffer db handle size ↔ (HeaderStored db handle → platformConfigDataSize ≤ size.toNat →
      RefusedInTime size.toNat (placesFrom db handle buildOrder platformConfigDataSize)) := by
  constructor
  · intro h hstored hroom
    by_contra hlate
    obtain ⟨row, hrow⟩ := headerStored_iff.mp hstored
    obtain ⟨i, v, hi, hbehind, hv⟩ := buildTables_overrun inOrder_buildOrder (UInt32.toNat_lt size)
      hroom le_rfl hbound le_rfl hlate
    -- whatever was behind the buffer is overwritten by the same value
    have hvalue : ∀ m, (getDimmPlatformConfigDataFromDb db handle m size).2 i = v := by
      intro m
      have hbuilt := hv _ (builtUpTo_headerFields m row.header).1
      rw [getDimmPlatformConfigDataFromDb_stored m hroom hrow]
      dsimp only
      split_ifs
      · dsimp only [platformConfigDataSize] at hbehind
        exact (generateChecksum_apply_of_ne _ _ (by unfold checksumOffset; omega)).trans hbuilt
      · exact hbuilt
    have hzero := (h.inside (fun _ => 0) i hi).symm.trans (hvalue _)
    have hone := (h.inside (fun _ => 1) i hi).symm.trans (hvalue _)
    exact absurd (hzero.trans hone.symm) (by decide)
  · exact inBuffer_of_refused hbound

end Data

/-! ### A partition size change table behind the buffer -/

/-- The columns of the header of a table. -/
def emptyHeader : DbHeader where
  signature := 0
  length := 0
  revision := 2
  checksum := 0
  oemId := 0
  oemTableId := 0
  oemRevision := 0
  creatorId := 0
  creatorRevision := 0

/-- A DIMM with a config input that has a partition size change table. -/
def partitionDb : PcdDb where
  platformConfigs := [⟨0, emptyHeader, fun _ => 0, fun _ => 0⟩]
  configTables kind := if kind = .configInput then [⟨0, emptyHeader, [1]⟩] else []
  partitionChanges := [⟨0, .configInput, partitionChangeTable, 16, 0, 0⟩]
  interleaveSets := []
  dimmInfosV1 := []
  dimmInfosV2 := []

/-- Whether the table is written behind the buffer is the question of the statement. -/
theorem inBuffer_partitionDb :
    Representable (116 : UInt32).toNat (neededSize partitionDb 0) ∧
      (InBuffer partitionDb 0 116 ↔
        (HeaderStored partitionDb 0 → platformConfigDataSize ≤ (116 : UInt32).toNat →
          RefusedInTime (116 : UInt32).toNat
            (placesFrom partitionDb 0 buildOrder platformConfigDataSize))) :=
  ⟨Or.inl (by decide), inBuffer_iff (Or.inl (by decide))⟩

/-- The last byte of the partition size is written behind a buffer of 116 bytes. -/
theorem not_inBuffer_partitionDb : ¬∀ db handle size, InBuffer db handle size := by
  intro h
  have hstays := (h partitionDb 0 116).inside (fun _ => 1) 123 (by decide)
  revert hstays
  decide +kernel

end IxpDimm.PcdDatabase
