import IxpDimm.Foundation.LaidOut
import IxpDimm.PcdDatabase.Database
import IxpDimm.PlatformConfig.TableSound

/-!
# What is built from the database

The functions that build the extension tables of a sub-table write rows behind each other into a
buffer that is blank there (`Grows`).  Each of them is described twice: when the buffer has room for
its rows it succeeds, and whenever it succeeds its rows are in the buffer.  The checks of the room
leave out parts of what is written, so the second holds for buffers without room, too.
-/

namespace IxpDimm.PcdDatabase

open Foundation

/-! ### DIMMs -/

/-- The DIMM of a row in a buffer. -/
def dimmRow (row : DbInterleaveSetDimmInfoV2) : Row where
  size := dimmInfoTableSize
  fields := [(40, 8, row.size), (32, 8, row.offset),
    (0, 9, readLE (ofList (deviceUidStringToBytes row.deviceUid)) 0 9)]

/-- A DIMM is written. -/
private theorem grows_writeDimmV2 {row : DbInterleaveSetDimmInfoV2}
    (hvalid : FieldsValid dimmInfoTableSize (dimmRow row).fields) {m : Bytes} {a : ℕ}
    (hm : Blank m a) : Grows m (writeDimmV2 row m a) a [dimmRow row] := by
  have hsize : row.size < 256 ^ 8 := hvalid.range (40, 8, row.size) (by simp [dimmRow])
  have hoffset : row.offset < 256 ^ 8 := hvalid.range (32, 8, row.offset) (by simp [dimmRow])
  have hnumbers : FieldsValid dimmInfoTableSize [(40, 8, row.size), (32, 8, row.offset)] := by
    refine ⟨by simp [FieldsDisjoint], by simp [dimmInfoTableSize], ?_⟩
    simp only [List.forall_mem_cons]
    exact ⟨hsize, hoffset, List.forall_mem_nil _⟩
  obtain ⟨hbefore, ⟨hholds, -⟩, hblank⟩ := @FieldsValid.grows dimmInfoTableSize
    [(40, 8, row.size), (32, 8, row.offset)] [] hnumbers (List.forall_mem_nil _) m a hm
  rw [totalSize_cons, totalSize_nil] at hblank
  rw [writeDimmV2]
  generalize writeFields m a [(40, 8, row.size), (32, 8, row.offset)] = m₁ at hbefore hholds hblank
  have hstay : ∀ b k, b + k ≤ a ∨ a + 9 ≤ b → SameBytes
      (copy m₁ a 9 (ofList (deviceUidStringToBytes row.deviceUid))) m₁ b k :=
    fun b k h => sameBytes_copy h
  refine ⟨(hstay 0 a (Or.inl (by omega))).trans hbefore, ⟨?_, trivial⟩, ?_⟩
  · intro f hf
    refine ⟨hvalid.inside f hf, ?_⟩
    simp only [dimmRow, List.mem_cons, List.not_mem_nil, or_false] at hf
    rcases hf with rfl | rfl | rfl
    · rw [readLE_congr (hstay _ 8 (Or.inr (by omega)))]
      exact (hholds (40, 8, row.size) (by simp)).2
    · rw [readLE_congr (hstay _ 8 (Or.inr (by omega)))]
      exact (hholds (32, 8, row.offset) (by simp)).2
    · have hcopied := readLE_congr
        (sameBytes_view_copy m₁ (ofList (deviceUidStringToBytes row.deviceUid)) a 9)
      rwa [readLE_view] at hcopied
  · rw [totalSize_cons, totalSize_nil]
    refine hblank.copy ?_
    dsimp only [dimmInfoTableSize]
    omega

/-- The loop over the DIMMs: with room for all of them it succeeds, and when it succeeds they are
written one behind the other. -/
private theorem copyDimms_spec {ρ : Type} {write : ρ → Bytes → ℕ → Bytes} {toRow : ρ → Row}
    {offset size : ℕ} {rows : List ρ} (hsize : ∀ r ∈ rows, (toRow r).size = dimmInfoTableSize)
    (hwrite : ∀ r ∈ rows, ∀ m a, Blank m a → Grows m (write r m a) a [toRow r]) {rc : ℕ} {m : Bytes}
    (hoffset : 8 ≤ offset) (hblank : Blank m (offset + rc))
    (hbound : headerLength m + rc + dimmInfoTableSize * rows.length < 2 ^ 32) :
    let result := copyDimms write offset size rows rc m
    (headerLength m + rc + dimmInfoTableSize * rows.length ≤ size →
        result.1 = .ok (rc + dimmInfoTableSize * rows.length)) ∧
      ∀ n, result.1 = .ok n → n = rc + dimmInfoTableSize * rows.length ∧
        Grows m result.2 (offset + rc) (rows.map toRow) := by
  induction rows generalizing rc m with
  | nil =>
    refine ⟨fun _ => rfl, fun n hn => ⟨?_, Grows.refl hblank⟩⟩
    cases hn
    rfl
  | cons r rows ih =>
    rw [List.length_cons, Nat.mul_succ] at hbound ⊢
    have hmod : (headerLength m + rc) % 2 ^ 32 = headerLength m + rc := Nat.mod_eq_of_lt (by omega)
    have hgrows := hwrite r List.mem_cons_self m (offset + rc) hblank
    have hrow : totalSize [toRow r] = dimmInfoTableSize := by
      rw [totalSize_cons, totalSize_nil, hsize r List.mem_cons_self, Nat.add_zero]
    have hlength : headerLength (write r m (offset + rc)) = headerLength m :=
      headerLength_congr (hgrows.before.mono le_rfl (by omega)).symm
    have hnext : offset + (rc + dimmInfoTableSize) = offset + rc + totalSize [toRow r] := by
      omega
    obtain ⟨hok, hdone⟩ := @ih (fun r' hr' => hsize r' (List.mem_cons_of_mem r hr'))
      (fun r' hr' => hwrite r' (List.mem_cons_of_mem r hr')) (rc + dimmInfoTableSize)
      (write r m (offset + rc)) (by rw [hnext]; exact hgrows.blank) (by omega)
    simp only [copyDimms, hmod]
    split_ifs with hroom
    · exact ⟨fun h => absurd h (by omega), fun n hn => nomatch hn⟩
    · refine ⟨fun h => ?_, fun n hn => ?_⟩
      · rw [hok (by omega)]
        congr 1
        omega
      · obtain ⟨rfl, hrest⟩ := hdone n hn
        refine ⟨by omega, ?_⟩
        rw [hnext] at hrest
        exact hgrows.trans hrest

/-! ### Interleave tables -/

/-- The header of an interleave table of a row in a buffer; a spare is not stored. -/
def interleaveHeader (row : DbDimmInterleaveSet) (length : ℕ) : Row where
  size := interleaveInfoTableSize
  fields := [(0, 2, row.extensionTableType)] ++
    (2, 2, length) :: ((interleaveSetFields row).drop 2 ++ [(14, 1, 0)])

section Interleave

variable (db : PcdDb) (handle : UInt32) (kind : TableKind) (row : DbDimmInterleaveSet)

/-- The rows of the DIMMs of an interleave table. -/
def dimmsOf : List DbInterleaveSetDimmInfoV2 :=
  db.dimmInfosV2.filter (DbInterleaveSetDimmInfoV2.isOf handle row.indexId kind)

/-- The size of an interleave table. -/
def interleaveSize (row : DbDimmInterleaveSet) : ℕ :=
  interleaveInfoTableSize + dimmInfoTableSize * row.dimmCount

/-- The interleave table of a row in a buffer. -/
def interleaveTableRows : List Row :=
  interleaveHeader row (interleaveSize row) :: (dimmsOf db handle kind row).map dimmRow

/-- The values of the row of an interleave table and of the rows of its DIMMs fit in the fields, and
it has as many DIMMs as it says. -/
structure InterleaveRowValid : Prop where
  /-- The fields before the DIMMs. -/
  fields : FieldsValid interleaveInfoTableSize (interleaveSetFields row ++ [(14, 1, 0)])
  /-- The number of DIMMs. -/
  count : (dimmsOf db handle kind row).length = row.dimmCount
  /-- The DIMMs. -/
  dimms : ∀ d ∈ dimmsOf db handle kind row, FieldsValid dimmInfoTableSize (dimmRow d).fields

variable {db handle kind row}

/-- The size of rows of DIMMs. -/
private theorem totalSize_map_dimmRow (ds : List DbInterleaveSetDimmInfoV2) :
    totalSize (ds.map dimmRow) = dimmInfoTableSize * ds.length := by
  induction ds with
  | nil => rfl
  | cons d ds ih =>
    rw [List.map_cons, totalSize_cons, ih, List.length_cons, Nat.mul_succ, Nat.add_comm]
    rfl

/-- The size of the interleave table of a row. -/
theorem InterleaveRowValid.totalSize_eq (h : InterleaveRowValid db handle kind row) :
    totalSize (interleaveTableRows db handle kind row) = interleaveSize row := by
  rw [interleaveTableRows, totalSize_cons, totalSize_map_dimmRow, h.count]
  rfl

/-- The number of DIMMs is that of a byte. -/
theorem InterleaveRowValid.dimmCount_lt (h : InterleaveRowValid db handle kind row) :
    row.dimmCount < 256 :=
  h.fields.range (6, 1, row.dimmCount) (by simp [interleaveSetFields])

/-- An interleave table is written with its DIMMs, and its length is set behind them. -/
private theorem grows_interleave (h : InterleaveRowValid db handle kind row) {m m₂ : Bytes} {a : ℕ}
    (hm : Blank m a)
    (hdimms : Grows (writeFields m a (interleaveSetFields row)) m₂ (a + interleaveInfoTableSize)
      ((dimmsOf db handle kind row).map dimmRow)) :
    Grows m (writeLE m₂ (a + 2) 2
        (extensionLength m₂ a + dimmInfoTableSize * row.dimmCount)) a
      (interleaveTableRows db handle kind row) := by
  have hcount := h.dimmCount_lt
  have hheader := (h.fields.grows (by simp) hm).trans hdimms
  obtain ⟨hbefore, ⟨hholds, hlaid⟩, hblank⟩ := hheader
  dsimp only at hlaid
  rw [totalSize_append, totalSize_cons, totalSize_nil, totalSize_map_dimmRow] at hblank
  dsimp only at hblank
  have hread : extensionLength m₂ a = interleaveInfoTableSize :=
    (hholds (2, 2, interleaveInfoTableSize) (by simp [interleaveSetFields])).2
  have hsize : interleaveInfoTableSize = 24 := rfl
  have hrow : interleaveSize row = 24 + 48 * row.dimmCount := rfl
  rw [hread]
  refine ⟨?_, ⟨?_, ?_⟩, ?_⟩
  · exact (sameBytes_copy (Or.inl (by omega))).trans hbefore
  · refine Row.Holds.overwrite (v := interleaveInfoTableSize) hholds ?_ (by omega)
    simp [interleaveSetFields, FieldsDisjoint]
  · exact hlaid.congr (sameBytes_copy (Or.inr (by omega)))
  · rw [h.totalSize_eq, interleaveSize, ← h.count]
    rw [Nat.add_zero] at hblank
    exact hblank.copy (by omega)

/-- The DIMMs of an interleave table are written behind its fields. -/
private theorem getDimms_spec (h : InterleaveRowValid db handle kind row) {m : Bytes}
    {offset size : ℕ} (hoffset : 8 ≤ offset) (hblank : Blank m offset)
    (hbound : headerLength m + dimmInfoTableSize * row.dimmCount < 2 ^ 32) :
    let result := getDimmInterleaveDimmsV2FromDb db handle kind row.indexId m offset size
    (headerLength m + dimmInfoTableSize * row.dimmCount ≤ size →
        result.1 = .ok (dimmInfoTableSize * row.dimmCount)) ∧
      ∀ n, result.1 = .ok n → n = dimmInfoTableSize * row.dimmCount ∧
        Grows m result.2 offset ((dimmsOf db handle kind row).map dimmRow) := by
  have hspec := @copyDimms_spec _ writeDimmV2 dimmRow offset size (dimmsOf db handle kind row)
    (fun _ _ => rfl) (fun d hd m a => grows_writeDimmV2 (h.dimms d hd)) 0 m hoffset hblank
  rw [h.count, Nat.add_zero, Nat.zero_add] at hspec
  exact hspec hbound

/-- The loop over the interleave tables: with room for all of them it succeeds, and when it succeeds
they are written one behind the other. -/
theorem copyInterleaveSets_spec (hrevision : getTableRevision db handle kind ≠ some 1)
    {offset size : ℕ} (hoffset : 8 ≤ offset) {rows : List DbDimmInterleaveSet}
    (hrows : ∀ r ∈ rows, InterleaveRowValid db handle kind r) {rc : ℕ} {m : Bytes}
    (hlength : headerLength m = offset) (hblank : Blank m (offset + rc))
    (hbound : offset + rc + (rows.map interleaveSize).sum < 2 ^ 32) :
    let result := copyInterleaveSets db handle kind offset size rows rc m
    (offset + rc + (rows.map interleaveSize).sum ≤ size →
        result.1 = .ok (rc + (rows.map interleaveSize).sum)) ∧
      ∀ n, result.1 = .ok n → n = rc + (rows.map interleaveSize).sum ∧
        Grows m result.2 (offset + rc) (rows.flatMap (interleaveTableRows db handle kind)) := by
  induction rows generalizing rc m with
  | nil =>
    refine ⟨fun _ => rfl, fun n hn => ⟨?_, Grows.refl hblank⟩⟩
    cases hn
    rfl
  | cons r rows ih =>
    have hr := hrows r List.mem_cons_self
    have hsize : interleaveSize r = interleaveInfoTableSize + dimmInfoTableSize * r.dimmCount := rfl
    rw [List.map_cons, List.sum_cons] at hbound ⊢
    rw [List.flatMap_cons]
    have hmod : (headerLength m + rc) % 2 ^ 32 = offset + rc := by
      rw [hlength]
      exact Nat.mod_eq_of_lt (by omega)
    have hmodDimms : (offset + rc + interleaveInfoTableSize) % 2 ^ 32 =
        offset + rc + interleaveInfoTableSize := Nat.mod_eq_of_lt (by omega)
    -- the fields before the DIMMs
    have hfields := hr.fields.grows (by simp) hblank
    have hlength₁ : headerLength (writeFields m (offset + rc) (interleaveSetFields r)) = offset :=
      (headerLength_congr (hfields.before.mono le_rfl (by omega)).symm).trans hlength
    obtain ⟨hok, hdone⟩ := @getDimms_spec db handle kind r hr
      (writeFields m (offset + rc) (interleaveSetFields r)) (offset + rc + interleaveInfoTableSize)
      size (by omega) hfields.blank (by rw [hlength₁]; omega)
    simp only [copyInterleaveSets, hmod, hmodDimms, if_neg hrevision]
    rw [hlength₁] at hok
    generalize getDimmInterleaveDimmsV2FromDb db handle kind r.indexId
      (writeFields m (offset + rc) (interleaveSetFields r)) (offset + rc + interleaveInfoTableSize)
      size = result at hok hdone
    obtain ⟨dimms, m₂⟩ := result
    split_ifs with hroom
    · exact ⟨fun h => absurd h (by omega), fun n hn => nomatch hn⟩
    · cases dimms with
      | error rc' => exact ⟨fun h => absurd (hok (by omega)) nofun, fun n hn => nomatch hn⟩
      | ok n =>
        obtain ⟨rfl, hdimms⟩ := hdone n rfl
        have hgrows := grows_interleave hr hblank hdimms
        have hcount : dimmInfoTableSize * r.dimmCount / dimmInfoTableSize = r.dimmCount :=
          Nat.mul_div_cancel_left r.dimmCount (by decide)
        dsimp only
        rw [if_neg (not_not.mpr hcount)]
        generalize writeLE m₂ (offset + rc + 2) 2 (extensionLength m₂ (offset + rc) +
          dimmInfoTableSize * r.dimmCount) = m₃ at hgrows
        have hlength₃ : headerLength m₃ = offset :=
          (headerLength_congr (hgrows.before.mono le_rfl (by omega)).symm).trans hlength
        have hnext : offset + (rc + interleaveInfoTableSize + dimmInfoTableSize * r.dimmCount) =
            offset + rc + totalSize (interleaveTableRows db handle kind r) := by
          rw [hr.totalSize_eq]
          omega
        obtain ⟨hok', hdone'⟩ := @ih (fun r' hr' => hrows r' (List.mem_cons_of_mem r hr'))
          (rc + interleaveInfoTableSize + dimmInfoTableSize * r.dimmCount) m₃ hlength₃
          (by rw [hnext]; exact hgrows.blank) (by omega)
        refine ⟨fun h => ?_, fun n hn => ?_⟩
        · rw [hok' (by omega)]
          congr 1
          omega
        · obtain ⟨rfl, hrest⟩ := hdone' n hn
          refine ⟨by omega, ?_⟩
          rw [hnext] at hrest
          exact hgrows.trans hrest

end Interleave

end IxpDimm.PcdDatabase
