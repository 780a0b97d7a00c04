import IxpDimm.PcdDatabase.Sizes

/-!
# Interleave tables and the size of the buffer

The loops that build the interleave tables of a sub-table compare the size of the buffer with what
they are about to write, for the DIMMs without what their interleave table and those before it take
up.  They stay in the buffer if the first place that is not in it is refused all the same, and
otherwise a byte behind the buffer gets a value that does not depend on what was there.
-/

namespace IxpDimm.PcdDatabase

open Foundation

/-! ### DIMMs -/

/-- A DIMM is written in its place, and its last byte has a value that only depends on its row. -/
structure DimmWriter {ρ : Type} (write : ρ → Bytes → ℕ → Bytes) (last : ρ → UInt8) : Prop where
  /-- The bytes outside of the place stay. -/
  inside : ∀ row m a i, i < a ∨ a + dimmInfoTableSize ≤ i → write row m a i = m i
  /-- The last byte. -/
  last : ∀ row m a, write row m a (a + 47) = last row

/-- A DIMM of table revision 1. -/
private theorem dimmWriterV1 : DimmWriter writeDimmV1 fun row => leBytes row.size 7 where
  inside row m a i h := by
    dsimp only [dimmInfoTableSize] at h
    rw [writeDimmV1, copy_apply_of_notMem (by omega)]
    refine writeFields_apply_of_outside ?_
    simp only [List.forall_mem_cons]
    exact ⟨by omega, by omega, by omega, by omega, List.forall_mem_nil _⟩
  last row m a := by
    rw [writeDimmV1, copy_apply_of_notMem (by omega)]
    refine @writeFields_cons_apply m a 40 8 row.size 7 _ (by decide) ?_
    simp only [List.forall_mem_cons]
    exact ⟨by omega, by omega, by omega, List.forall_mem_nil _⟩

/-- A DIMM. -/
private theorem dimmWriterV2 : DimmWriter writeDimmV2 fun row => leBytes row.size 7 where
  inside row m a i h := by
    dsimp only [dimmInfoTableSize] at h
    rw [writeDimmV2, copy_apply_of_notMem (by omega)]
    refine writeFields_apply_of_outside ?_
    simp only [List.forall_mem_cons]
    exact ⟨by omega, by omega, List.forall_mem_nil _⟩
  last row m a := by
    rw [writeDimmV2, copy_apply_of_notMem (by omega)]
    refine @writeFields_cons_apply m a 40 8 row.size 7 _ (by decide) ?_
    simp only [List.forall_mem_cons]
    exact ⟨by omega, List.forall_mem_nil _⟩

/-- The length of data depends on its header. -/
theorem headerLength_of_before {m m' : Bytes} {a : ℕ} (ha : 8 ≤ a)
    (h : ∀ i, i < a → m' i = m i) : headerLength m' = headerLength m :=
  readLE_congr fun i _ hi => h i (by omega)

section Dimms

variable {ρ : Type} {write : ρ → Bytes → ℕ → Bytes} {last : ρ → UInt8} {offset size length : ℕ}
  {rows : List ρ} {rc : ℕ} {m : Bytes}

/-- The loop over the DIMMs changes nothing before them. -/
private theorem copyDimms_before (hw : DimmWriter write last) {i : ℕ} (hi : i < offset + rc) :
    (copyDimms write offset size rows rc m).2 i = m i := by
  induction rows generalizing rc m with
  | nil => rfl
  | cons row rows ih =>
    rw [copyDimms]
    split_ifs
    · rfl
    · rw [ih (by omega), hw.inside row m _ i (Or.inl hi)]

/-- The check of a DIMM, before a number wraps around. -/
private theorem copyDimms_cons (hlength : headerLength m = length) (hroom : length + rc ≤ size)
    (hsize : size < 2 ^ 32) (row : ρ) :
    copyDimms write offset size (row :: rows) rc m =
      if size < length + rc + dimmInfoTableSize then (.error .errBadDeviceConfig, m)
      else copyDimms write offset size rows (rc + dimmInfoTableSize) (write row m (offset + rc)) := by
  rw [copyDimms, hlength, Nat.mod_eq_of_lt (hroom.trans_lt hsize)]

/-- The length of the data after a DIMM. -/
private theorem headerLength_write (hw : DimmWriter write last) (hoffset : 8 ≤ offset)
    (hlength : headerLength m = length) (row : ρ) :
    headerLength (write row m (offset + rc)) = length := by
  rw [← hlength]
  exact headerLength_of_before (hoffset.trans (Nat.le_add_right _ _)) fun i hi =>
    hw.inside row m _ i (Or.inl hi)

/-- When the loop over the DIMMs succeeds it returns their size. -/
private theorem copyDimms_ok (hw : DimmWriter write last) (hoffset : 8 ≤ offset)
    (hsize : size < 2 ^ 32) (hlength : headerLength m = length) (hroom : length + rc ≤ size) {n : ℕ}
    (h : (copyDimms write offset size rows rc m).1 = .ok n) :
    n = rc + dimmInfoTableSize * rows.length ∧ length + n ≤ size := by
  induction rows generalizing rc m with
  | nil =>
    cases h
    exact ⟨rfl, hroom⟩
  | cons row rows ih =>
    rw [copyDimms_cons hlength hroom hsize] at h
    split_ifs at h with hfull
    obtain ⟨rfl, hle⟩ := ih (headerLength_write hw hoffset hlength row) (by omega) h
    rw [List.length_cons, Nat.mul_succ]
    exact ⟨by omega, by omega⟩

/-- The loop over the DIMMs stays in the buffer if it stops in time. -/
private theorem copyDimms_safe (hw : DimmWriter write last) (hoffset : 8 ≤ offset)
    (hsize : size < 2 ^ 32) (hle : length ≤ offset) (hlength : headerLength m = length)
    (hroom : length + rc ≤ size) (h : RefusedInTime size (dimmPlaces length offset rows.length rc)) :
    let result := copyDimms write offset size rows rc m
    (∀ i, size ≤ i → result.2 i = m i) ∧
      ((∃ n, result.1 = .ok n) ↔ ∀ p ∈ dimmPlaces length offset rows.length rc, p.stop ≤ size) := by
  induction rows generalizing rc m with
  | nil => exact ⟨fun _ _ => rfl, fun _ => List.forall_mem_nil _, fun _ => ⟨rc, rfl⟩⟩
  | cons row rows ih =>
    obtain ⟨hfirst, hrest⟩ := refusedInTime_cons.mp h
    rw [copyDimms_cons hlength hroom hsize, List.length_cons, dimmPlaces, List.forall_mem_cons]
    dsimp only at hfirst hrest ⊢
    split_ifs with hfull
    · refine ⟨fun _ _ => rfl, iff_of_false (fun ⟨_, hn⟩ => nomatch hn) fun hfits => ?_⟩
      have hfirst := hfits.1
      omega
    · have hfits : offset + rc + dimmInfoTableSize ≤ size := by
        by_contra hover
        exact hfull (hfirst (by omega))
      obtain ⟨hbehind, hok⟩ := ih (headerLength_write hw hoffset hlength row) (by omega)
        (hrest hfits)
      refine ⟨fun i hi => ?_, hok.trans (and_iff_right hfits).symm⟩
      rw [hbehind i hi, hw.inside row m _ i (Or.inr (by omega))]

/-- The loop over the DIMMs writes behind the buffer if it does not stop in time. -/
private theorem copyDimms_overrun (hw : DimmWriter write last) (hoffset : 8 ≤ offset)
    (hsize : size < 2 ^ 32) (hle : length ≤ offset) (hroom : length + rc ≤ size)
    (h : ¬RefusedInTime size (dimmPlaces length offset rows.length rc)) :
    ∃ i v, size ≤ i ∧ offset + rc ≤ i ∧ i < offset + rc + dimmInfoTableSize * rows.length ∧
      ∀ m, headerLength m = length → (copyDimms write offset size rows rc m).2 i = v := by
  induction rows generalizing rc with
  | nil => exact absurd refusedInTime_nil h
  | cons row rows ih =>
    rw [List.length_cons, dimmPlaces, refusedInTime_cons, not_and_or] at h
    rw [List.length_cons, Nat.mul_succ]
    dsimp only at h
    rcases h with hover | hrest
    · -- the last byte of this DIMM is behind the buffer
      rw [Classical.not_imp] at hover
      refine ⟨offset + rc + 47, last row, ?_, by omega, ?_, fun m hlength => ?_⟩
      · dsimp only [dimmInfoTableSize] at hover
        omega
      · dsimp only [dimmInfoTableSize]
        omega
      · rw [copyDimms_cons hlength hroom hsize, if_neg hover.2,
          copyDimms_before hw (by dsimp only [dimmInfoTableSize]; omega), hw.last]
    · rw [Classical.not_imp] at hrest
      obtain ⟨i, v, hi, hstart, hstop, hv⟩ := ih (by omega) hrest.2
      refine ⟨i, v, hi, by omega, by omega, fun m hlength => ?_⟩
      rw [copyDimms_cons hlength hroom hsize, if_neg (by omega)]
      exact hv _ (headerLength_write hw hoffset hlength row)

end Dimms

/-! ### Interleave tables -/

section Sets

variable {db : PcdDb} {handle : UInt32} {kind : TableKind} {offset size : ℕ}

/-- The DIMMs of an interleave set, in the table for the revision. -/
def getDimmInterleaveDimmsFromDb (db : PcdDb) (handle : UInt32) (kind : TableKind) (index : ℕ)
    (m : Bytes) (offset size : ℕ) : Except ReturnCode ℕ × Bytes :=
  if getTableRevision db handle kind = some 1 then
    getDimmInterleaveDimmsV1FromDb db handle kind index m offset size
  else getDimmInterleaveDimmsV2FromDb db handle kind index m offset size

/-- What holds of the DIMMs of both revisions holds of those of an interleave set. -/
private theorem dimms_cases {row : DbDimmInterleaveSet}
    {P : ℕ → (Bytes → Except ReturnCode ℕ × Bytes) → Prop}
    (hv1 : ∀ rows, P rows.length (copyDimms writeDimmV1 offset size rows 0))
    (hv2 : ∀ rows, P rows.length (copyDimms writeDimmV2 offset size rows 0)) :
    P (dimmRowCount db handle kind row)
      fun m => getDimmInterleaveDimmsFromDb db handle kind row.indexId m offset size := by
  unfold dimmRowCount getDimmInterleaveDimmsFromDb
  split_ifs
  · exact hv1 _
  · exact hv2 _

/-- The DIMMs of an interleave set: nothing before them changes, and their size is returned. -/
private theorem getDimms_before {length : ℕ} (row : DbDimmInterleaveSet) (hoffset : 8 ≤ offset)
    (hsize : size < 2 ^ 32) (hroom : length ≤ size) {m : Bytes} (hlength : headerLength m = length) :
    let result := getDimmInterleaveDimmsFromDb db handle kind row.indexId m offset size
    (∀ i, i < offset → result.2 i = m i) ∧
      ∀ n, result.1 = .ok n → n = dimmInfoTableSize * dimmRowCount db handle kind row ∧
        length + n ≤ size := by
  refine @dimms_cases db handle kind offset size row (fun count run =>
    (∀ i, i < offset → (run m).2 i = m i) ∧
      ∀ n, (run m).1 = .ok n → n = dimmInfoTableSize * count ∧ length + n ≤ size) ?_ ?_
  · refine fun rows => ⟨fun i hi => copyDimms_before dimmWriterV1 hi, fun n hn => ?_⟩
    rw [← Nat.zero_add (dimmInfoTableSize * rows.length)]
    exact copyDimms_ok dimmWriterV1 hoffset hsize hlength hroom hn
  · refine fun rows => ⟨fun i hi => copyDimms_before dimmWriterV2 hi, fun n hn => ?_⟩
    rw [← Nat.zero_add (dimmInfoTableSize * rows.length)]
    exact copyDimms_ok dimmWriterV2 hoffset hsize hlength hroom hn

/-- The DIMMs of an interleave set stay in the buffer if they stop in time. -/
private theorem getDimms_safe {length : ℕ} {row : DbDimmInterleaveSet} (hoffset : 8 ≤ offset)
    (hsize : size < 2 ^ 32) (hle : length ≤ offset) (hroom : length ≤ size) {m : Bytes}
    (hlength : headerLength m = length)
    (h : RefusedInTime size (dimmPlaces length offset (dimmRowCount db handle kind row) 0)) :
    let result := getDimmInterleaveDimmsFromDb db handle kind row.indexId m offset size
    (∀ i, size ≤ i → result.2 i = m i) ∧
      ((∃ n, result.1 = .ok n) ↔
        ∀ p ∈ dimmPlaces length offset (dimmRowCount db handle kind row) 0, p.stop ≤ size) := by
  revert h
  refine @dimms_cases db handle kind offset size row (fun count run =>
    RefusedInTime size (dimmPlaces length offset count 0) →
      (∀ i, size ≤ i → (run m).2 i = m i) ∧
        ((∃ n, (run m).1 = .ok n) ↔ ∀ p ∈ dimmPlaces length offset count 0, p.stop ≤ size)) ?_ ?_
  · exact fun rows => copyDimms_safe dimmWriterV1 hoffset hsize hle hlength hroom
  · exact fun rows => copyDimms_safe dimmWriterV2 hoffset hsize hle hlength hroom

/-- The DIMMs of an interleave set are written behind the buffer if they do not stop in time. -/
private theorem getDimms_overrun {length : ℕ} {row : DbDimmInterleaveSet} (hoffset : 8 ≤ offset)
    (hsize : size < 2 ^ 32) (hle : length ≤ offset) (hroom : length ≤ size)
    (h : ¬RefusedInTime size (dimmPlaces length offset (dimmRowCount db handle kind row) 0)) :
    ∃ i v, size ≤ i ∧ offset ≤ i ∧
      i < offset + dimmInfoTableSize * dimmRowCount db handle kind row ∧
      ∀ m, headerLength m = length →
        (getDimmInterleaveDimmsFromDb db handle kind row.indexId m offset size).2 i = v := by
  revert h
  refine @dimms_cases db handle kind offset size row (fun count run =>
    ¬RefusedInTime size (dimmPlaces length offset count 0) →
      ∃ i v, size ≤ i ∧ offset ≤ i ∧ i < offset + dimmInfoTableSize * count ∧
        ∀ m, headerLength m = length → (run m).2 i = v) ?_ ?_
  · exact fun rows => copyDimms_overrun dimmWriterV1 hoffset hsize hle hroom
  · exact fun rows => copyDimms_overrun dimmWriterV2 hoffset hsize hle hroom

/-- The size of an interleave table with the DIMMs that there are. -/
def setSize (db : PcdDb) (handle : UInt32) (kind : TableKind) (row : DbDimmInterleaveSet) : ℕ :=
  interleaveInfoTableSize + dimmInfoTableSize * dimmRowCount db handle kind row

/-- What a pass of the loop over the interleave tables does with its DIMMs. -/
private theorem copyInterleaveSets_cons {rc : ℕ} {m : Bytes} {row : DbDimmInterleaveSet}
    {dimms : Except ReturnCode ℕ × Bytes} (hlength : headerLength m = offset)
    (hwrap : offset + rc < 2 ^ 32) (hsize : size < 2 ^ 32)
    (hdimms : getDimmInterleaveDimmsFromDb db handle kind row.indexId
      (writeFields m (offset + rc) (interleaveSetFields row))
      (offset + rc + interleaveInfoTableSize) size = dimms) (rows : List DbDimmInterleaveSet) :
    copyInterleaveSets db handle kind offset size (row :: rows) rc m =
      if size < offset + rc + interleaveInfoTableSize then (.error .errBadDeviceConfig, m)
      else
        match dimms.1 with
        | .error rc' => (.error rc', dimms.2)
        | .ok dimmInfoSize =>
          if dimmInfoSize / dimmInfoTableSize ≠ row.dimmCount then
            (.error .errBadDeviceConfig, dimms.2)
          else copyInterleaveSets db handle kind offset size rows
            (rc + interleaveInfoTableSize + dimmInfoSize)
            (writeLE dimms.2 (offset + rc + 2) 2
              (extensionLength dimms.2 (offset + rc) + dimmInfoSize)) := by
  rw [copyInterleaveSets, hlength, Nat.mod_eq_of_lt hwrap]
  by_cases hfull : size < offset + rc + interleaveInfoTableSize
  · rw [if_pos hfull, if_pos hfull]
  · have hmod : (offset + rc + interleaveInfoTableSize) % 2 ^ 32 =
        offset + rc + interleaveInfoTableSize := Nat.mod_eq_of_lt (by omega)
    rw [if_neg hfull, if_neg hfull, ← hdimms]
    dsimp only
    rw [hmod]
    unfold getDimmInterleaveDimmsFromDb
    split_ifs <;> rfl

/-- Not both the buffer and what there is are too large for an `int`. -/
def Representable (size total : ℕ) : Prop := size < 2 ^ 31 ∨ total < 2 ^ 31

/-- The numbers of DIMMs agree. -/
theorem dimmCount_iff (row : DbDimmInterleaveSet) :
    dimmInfoTableSize * dimmRowCount db handle kind row / dimmInfoTableSize = row.dimmCount ↔
      dimmRowCount db handle kind row = row.dimmCount := by
  rw [Nat.mul_div_cancel_left _ (by decide)]

/-- What a pass of the loop over the interleave tables can do.  Behind the fields of the interleave
table the buffer is what the loop over its DIMMs leaves. -/
private theorem copyInterleaveSets_cases {rc : ℕ} {m : Bytes} {dimms : Except ReturnCode ℕ × Bytes}
    {row : DbDimmInterleaveSet} (rows : List DbDimmInterleaveSet) (hoffset : 8 ≤ offset)
    (hlength : headerLength m = offset) (hwrap : offset + rc < 2 ^ 32) (hsize : size < 2 ^ 32)
    (hdimms : getDimmInterleaveDimmsFromDb db handle kind row.indexId
      (writeFields m (offset + rc) (interleaveSetFields row))
      (offset + rc + interleaveInfoTableSize) size = dimms) :
    let result := copyInterleaveSets db handle kind offset size (row :: rows) rc m
    (size < offset + rc + interleaveInfoTableSize ∧ result = (.error .errBadDeviceConfig, m)) ∨
      (offset + rc + interleaveInfoTableSize ≤ size ∧ ∃ m', (∀ i, i < offset + rc → m' i = m i) ∧
        (∀ i, offset + rc + interleaveInfoTableSize ≤ i → m' i = dimms.2 i) ∧
        ((∃ e, result = (.error e, m') ∧
            ((∃ n, dimms.1 = .ok n) → dimmRowCount db handle kind row ≠ row.dimmCount)) ∨
          (dimms.1 = .ok (dimmInfoTableSize * dimmRowCount db handle kind row) ∧
            offset + dimmInfoTableSize * dimmRowCount db handle kind row ≤ size ∧
            dimmRowCount db handle kind row = row.dimmCount ∧
            result = copyInterleaveSets db handle kind offset size rows
              (rc + setSize db handle kind row) m'))) := by
  have hfields : ∀ i, i < offset + rc →
      writeFields m (offset + rc) (interleaveSetFields row) i = m i := fun i hi =>
    writeFields_apply_of_outside fun f _ => Or.inl (by omega)
  have hlength₁ : headerLength (writeFields m (offset + rc) (interleaveSetFields row)) = offset := by
    rw [headerLength_of_before (hoffset.trans (Nat.le_add_right _ _)) hfields, hlength]
  rw [copyInterleaveSets_cons hlength hwrap hsize hdimms]
  by_cases hfull : size < offset + rc + interleaveInfoTableSize
  · rw [if_pos hfull]
    exact Or.inl ⟨hfull, rfl⟩
  · rw [if_neg hfull]
    obtain ⟨hbefore, hok⟩ := @getDimms_before db handle kind (offset + rc + interleaveInfoTableSize)
      size offset row (by omega) hsize (by omega) _ hlength₁
    rw [hdimms] at hbefore hok
    refine Or.inr ⟨not_lt.mp hfull, ?_⟩
    have hstart : ∀ i, i < offset + rc → dimms.2 i = m i := fun i hi => by
      rw [hbefore i (by omega), hfields i hi]
    cases hvalue : dimms.1 with
    | error e =>
      refine ⟨dimms.2, hstart, fun _ _ => rfl, Or.inl ⟨e, rfl, fun ⟨n, hn⟩ => nomatch hn⟩⟩
    | ok n =>
      obtain ⟨rfl, hroom⟩ := hok n hvalue
      dsimp only
      by_cases hcount : dimmRowCount db handle kind row = row.dimmCount
      · rw [if_neg (not_not.mpr ((dimmCount_iff row).mpr hcount))]
        refine ⟨writeLE dimms.2 (offset + rc + 2) 2 (extensionLength dimms.2 (offset + rc) +
          dimmInfoTableSize * dimmRowCount db handle kind row), fun i hi => ?_, fun i hi => ?_,
          Or.inr ⟨rfl, hroom, hcount, by rw [setSize, ← Nat.add_assoc]⟩⟩
        · rw [writeLE, copy_apply_of_notMem (Or.inl (by omega)), hstart i hi]
        · refine copy_apply_of_notMem (Or.inr ?_)
          dsimp only [interleaveInfoTableSize] at hi
          omega
      · rw [if_pos (fun heq => hcount ((dimmCount_iff row).mp heq))]
        exact ⟨dimms.2, hstart, fun _ _ => rfl, Or.inl ⟨_, rfl, fun _ => hcount⟩⟩

/-- The next interleave table is at an address without a wrap-around. -/
private theorem lt_of_representable {total rc : ℕ} {row : DbDimmInterleaveSet}
    (hbound : Representable size total)
    (hroom : offset + rc + interleaveInfoTableSize ≤ size)
    (hdimms : offset + dimmInfoTableSize * dimmRowCount db handle kind row ≤ size)
    (htotal : offset + (rc + setSize db handle kind row) ≤ total) :
    offset + (rc + setSize db handle kind row) < 2 ^ 32 := by
  rcases hbound with hsmall | hsmall
  · rw [setSize]
    omega
  · omega

/-- The loop over the interleave tables changes nothing before them, and what it returns is what is
counted. -/
theorem copyInterleaveSets_before {rows : List DbDimmInterleaveSet} {rc total : ℕ} {m : Bytes}
    (hoffset : 8 ≤ offset) (hlength : headerLength m = offset) (hwrap : offset + rc < 2 ^ 32)
    (hsize : size < 2 ^ 32) (hbound : Representable size total)
    (htotal : offset + (rc + (rows.map (setSize db handle kind)).sum) ≤ total) :
    let result := copyInterleaveSets db handle kind offset size rows rc m
    (∀ i, i < offset + rc → result.2 i = m i) ∧
      ∀ n, result.1 = .ok n → countInterleaveSets db handle kind rows rc = .ok n ∧
        offset + n < 2 ^ 32 := by
  induction rows generalizing rc m with
  | nil =>
    refine ⟨fun _ _ => rfl, fun n hn => ?_⟩
    cases hn
    exact ⟨rfl, hwrap⟩
  | cons row rows ih =>
    rw [List.map_cons, List.sum_cons] at htotal
    rcases @copyInterleaveSets_cases db handle kind offset size rc m _ row rows hoffset hlength
      hwrap hsize rfl with ⟨-, hresult⟩ | ⟨hroom, m', hbefore, -, hcases⟩
    · rw [hresult]
      exact ⟨fun _ _ => rfl, fun n hn => by cases hn⟩
    · have hlength' : headerLength m' = offset := by
        rw [headerLength_of_before (hoffset.trans (Nat.le_add_right _ _)) hbefore, hlength]
      rcases hcases with ⟨e, hresult, -⟩ | ⟨-, hdimms, hcount, hresult⟩
      · rw [hresult]
        exact ⟨hbefore, fun n hn => by cases hn⟩
      · obtain ⟨hbefore', hok⟩ := ih hlength'
          (lt_of_representable hbound hroom hdimms (by omega)) (by omega)
        rw [hresult]
        refine ⟨fun i hi => by rw [hbefore' i (by omega), hbefore i hi], fun n hn => ?_⟩
        obtain ⟨hn', hlt⟩ := hok n hn
        refine ⟨?_, hlt⟩
        rw [countInterleaveSets, if_neg (not_not.mpr ((dimmCount_iff row).mpr hcount)), Nat.add_assoc]
        exact hn'

/-- The fields of an interleave table are in front of its DIMMs. -/
private theorem interleaveSetFields_inside (row : DbDimmInterleaveSet) :
    ∀ f ∈ interleaveSetFields row, f.1 + f.2.1 ≤ interleaveInfoTableSize := by
  simp [interleaveSetFields, interleaveInfoTableSize]

/-- The DIMMs of an interleave set fit if the last one does. -/
theorem dimmPlaces_fit {length start n rc : ℕ} (hstart : start + rc ≤ size) :
    (∀ p ∈ dimmPlaces length start n rc, p.stop ≤ size) ↔
      start + rc + dimmInfoTableSize * n ≤ size := by
  induction n generalizing rc with
  | zero => exact iff_of_true (List.forall_mem_nil _) hstart
  | succ n ih =>
    rw [dimmPlaces, List.forall_mem_cons, Nat.mul_succ]
    dsimp only
    constructor
    · rintro ⟨hfirst, hrest⟩
      have hlast := (ih (by omega)).mp hrest
      omega
    · intro h
      exact ⟨by omega, (ih (by omega)).mpr (by omega)⟩

/-- The loop over the interleave tables stays in the buffer if it stops in time. -/
theorem copyInterleaveSets_safe {rows : List DbDimmInterleaveSet} {rc : ℕ} {m : Bytes}
    (hoffset : 8 ≤ offset) (hlength : headerLength m = offset) (hroom : offset + rc ≤ size)
    (hsize : size < 2 ^ 32)
    (h : RefusedInTime size (setPlaces (dimmRowCount db handle kind) offset rows rc)) :
    let result := copyInterleaveSets db handle kind offset size rows rc m
    let places := setPlaces (dimmRowCount db handle kind) offset rows rc
    (∀ i, size ≤ i → result.2 i = m i) ∧
      (∀ n, result.1 = .ok n → offset + n ≤ size ∧ ∀ p ∈ places, p.stop ≤ size) ∧
      ∀ n, countInterleaveSets db handle kind rows rc = .ok n → (∀ p ∈ places, p.stop ≤ size) →
        result.1 = .ok n := by
  induction rows generalizing rc m with
  | nil =>
    refine ⟨fun _ _ => rfl, fun n hn => ?_, fun n hn _ => hn⟩
    cases hn
    exact ⟨hroom, List.forall_mem_nil _⟩
  | cons row rows ih =>
    rw [setPlaces, List.cons_append, refusedInTime_cons, refusedInTime_append] at h
    dsimp only at h
    dsimp only [setPlaces]
    rw [List.cons_append]
    simp only [List.forall_mem_cons, List.forall_mem_append, countInterleaveSets, ne_eq,
      dimmCount_iff]
    have hlength₁ :
        headerLength (writeFields m (offset + rc) (interleaveSetFields row)) = offset := by
      rw [← hlength]
      exact headerLength_of_before (by omega) fun i hi =>
        writeFields_apply_of_outside fun f _ => Or.inl (by omega)
    rcases @copyInterleaveSets_cases db handle kind offset size rc m _ row rows hoffset hlength
      (by omega) hsize rfl with ⟨hfull, hresult⟩ | ⟨hstart, m', hbefore, hdimms, hcases⟩
    · rw [hresult]
      exact ⟨fun _ _ => rfl, (fun n hn => by cases hn), fun n _ hfits => absurd hfits.1 (by omega)⟩
    · obtain ⟨hintime, hrest⟩ := h.2 hstart
      obtain ⟨hbehind, hok⟩ := @getDimms_safe db handle kind (offset + rc + interleaveInfoTableSize)
        size offset row (by omega) hsize (by omega) (by omega) _ hlength₁ hintime
      have hbehind' : ∀ i, size ≤ i → m' i = m i := by
        intro i hi
        rw [hdimms i (by omega), hbehind i hi]
        refine writeFields_apply_of_outside fun f hf => Or.inr ?_
        have hinside := interleaveSetFields_inside row f hf
        omega
      rcases hcases with ⟨e, hresult, hcount⟩ | ⟨hvalue, -, hcount, hresult⟩
      · rw [hresult]
        refine ⟨hbehind', (fun n hn => by cases hn), fun n hn hfits => ?_⟩
        rw [if_pos (hcount (hok.mpr hfits.2.1))] at hn
        cases hn
      · have hfits := hok.mp ⟨_, hvalue⟩
        have hnext := (@dimmPlaces_fit size offset (offset + rc + interleaveInfoTableSize) _ 0
          hstart).mp hfits
        have hset : rc + setSize db handle kind row =
            rc + interleaveInfoTableSize + dimmInfoTableSize * dimmRowCount db handle kind row := by
          rw [setSize, ← Nat.add_assoc]
        rw [if_pos hcount] at hrest ⊢
        rw [if_neg (not_not.mpr hcount), hresult, ← hset]
        rw [← hset] at hrest
        have hlength' : headerLength m' = offset := by
          rw [headerLength_of_before (hoffset.trans (Nat.le_add_right _ _)) hbefore, hlength]
        obtain ⟨hbehind'', hok'', hdone⟩ := ih hlength' (by omega) (hrest hfits)
        refine ⟨fun i hi => by rw [hbehind'' i hi, hbehind' i hi], fun n hn => ?_,
          fun n hn hall => hdone n hn hall.2.2⟩
        obtain ⟨hle, hplaces⟩ := hok'' n hn
        exact ⟨hle, hstart, hfits, hplaces⟩

/-- The loop over the interleave tables writes behind the buffer if it does not stop in time. -/
theorem copyInterleaveSets_overrun {rows : List DbDimmInterleaveSet} {rc total : ℕ}
    (hoffset : 8 ≤ offset) (hroom : offset + rc ≤ size) (hsize : size < 2 ^ 32)
    (hbound : Representable size total)
    (htotal : offset + (rc + (rows.map (setSize db handle kind)).sum) ≤ total)
    (h : ¬RefusedInTime size (setPlaces (dimmRowCount db handle kind) offset rows rc)) :
    ∃ i v, size ≤ i ∧ offset + rc ≤ i ∧ ∀ m, headerLength m = offset →
      (copyInterleaveSets db handle kind offset size rows rc m).2 i = v := by
  induction rows generalizing rc with
  | nil => exact absurd refusedInTime_nil h
  | cons row rows ih =>
    rw [List.map_cons, List.sum_cons] at htotal
    rw [setPlaces, List.cons_append, refusedInTime_cons, refusedInTime_append, not_and_or] at h
    dsimp only at h
    rcases h with hfirst | hrest
    · exact absurd id hfirst
    rw [Classical.not_imp] at hrest
    obtain ⟨hstart, hrest⟩ := hrest
    have hlength₁ : ∀ m : Bytes, headerLength m = offset →
        headerLength (writeFields m (offset + rc) (interleaveSetFields row)) = offset := by
      intro m hlength
      rw [← hlength]
      exact headerLength_of_before (by omega) fun i hi =>
        writeFields_apply_of_outside fun f _ => Or.inl (by omega)
    by_cases hintime : RefusedInTime size (dimmPlaces offset
        (offset + rc + interleaveInfoTableSize) (dimmRowCount db handle kind row) 0)
    · -- a later interleave table does not stop in time
      rw [not_and, Classical.not_imp] at hrest
      obtain ⟨hfits, htail⟩ := hrest hintime
      have hcount : dimmRowCount db handle kind row = row.dimmCount := by
        by_contra hcount
        rw [if_neg hcount] at htail
        exact htail refusedInTime_nil
      have hnext := (@dimmPlaces_fit size offset (offset + rc + interleaveInfoTableSize) _ 0
        hstart).mp hfits
      have hset : rc + setSize db handle kind row =
          rc + interleaveInfoTableSize + dimmInfoTableSize * dimmRowCount db handle kind row := by
        rw [setSize, ← Nat.add_assoc]
      rw [if_pos hcount, ← hset] at htail
      obtain ⟨i, v, hi, hbehind, hv⟩ := ih (by omega) (by omega) htail
      refine ⟨i, v, hi, by omega, fun m hlength => ?_⟩
      rcases @copyInterleaveSets_cases db handle kind offset size rc m _ row rows hoffset hlength
        (by omega) hsize rfl with ⟨hfull, -⟩ | ⟨-, m', hbefore, -, hcases⟩
      · omega
      · obtain ⟨-, hok⟩ := @getDimms_safe db handle kind (offset + rc + interleaveInfoTableSize)
          size offset row (by omega) hsize (by omega) (by omega) _ (hlength₁ m hlength) hintime
        rcases hcases with ⟨e, -, hwrong⟩ | ⟨-, -, -, hresult⟩
        · exact absurd hcount (hwrong (hok.mpr hfits))
        · rw [hresult]
          refine hv m' ?_
          rw [headerLength_of_before (hoffset.trans (Nat.le_add_right _ _)) hbefore, hlength]
    · -- a DIMM of this interleave table is behind the buffer, and stays as it is
      obtain ⟨i, v, hi, hbehind, hstop, hv⟩ := @getDimms_overrun db handle kind
        (offset + rc + interleaveInfoTableSize) size offset row (by omega) hsize (by omega)
        (by omega) hintime
      refine ⟨i, v, hi, by omega, fun m hlength => ?_⟩
      rcases @copyInterleaveSets_cases db handle kind offset size rc m _ row rows hoffset hlength
        (by omega) hsize rfl with ⟨hfull, -⟩ | ⟨-, m', hbefore, hdimms, hcases⟩
      · omega
      · have hvalue : m' i = v := by
          rw [hdimms i hbehind, hv _ (hlength₁ m hlength)]
        rcases hcases with ⟨e, hresult, -⟩ | ⟨-, hfits, -, hresult⟩
        · rw [hresult]
          exact hvalue
        · have hlength' : headerLength m' = offset := by
            rw [headerLength_of_before (hoffset.trans (Nat.le_add_right _ _)) hbefore, hlength]
          have hlater := (@copyInterleaveSets_before db handle kind offset size rows
            (rc + setSize db handle kind row) total m' hoffset hlength'
            (lt_of_representable hbound hstart hfits (by omega)) hsize hbound (by omega)).1
          rw [hresult, hlater i (by rw [setSize]; omega), hvalue]

end Sets

end IxpDimm.PcdDatabase
