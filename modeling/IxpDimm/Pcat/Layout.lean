import IxpDimm.Foundation.LaidOut
import IxpDimm.Pcat.Database
import Mathlib.Data.List.Forall2

/-!
# Tables laid out in a buffer

What `get_pcat_from_db` leaves in its buffer: the tables of the database one after the other behind
the header (`LaidOut`), each with its fields.  Every function that builds tables extends the buffer
by their rows and keeps the bytes before them (`Extends`); a walk through the tables then comes to
the rows in their order (`tablesFrom_of_laidOut`).
-/

namespace IxpDimm.Pcat

open Foundation

/-! ### Building -/

/-- A buffer is extended by rows. -/
structure Extends (b b' : Building) (rows : List Row) : Prop where
  /-- The offset is behind the rows. -/
  offset : b'.offset = b.offset + totalSize rows
  /-- The bytes before the rows stay. -/
  before : SameBytes b'.memory b.memory 0 b.offset
  /-- The rows are in the buffer. -/
  laidOut : LaidOut b'.memory b.offset rows

/-- Nothing is built. -/
theorem Extends.refl (b : Building) : Extends b b [] :=
  ⟨rfl, fun _ _ _ => rfl, trivial⟩

/-- A buffer is extended twice. -/
theorem Extends.trans {b b₁ b₂ : Building} {rows rows' : List Row} (h : Extends b b₁ rows)
    (h' : Extends b₁ b₂ rows') : Extends b b₂ (rows ++ rows') := by
  have hoffset := h.offset
  refine ⟨?_, ?_, laidOut_append.mpr ⟨?_, ?_⟩⟩
  · rw [h'.offset, hoffset, totalSize_append, Nat.add_assoc]
  · exact (h'.before.mono le_rfl (by omega)).trans h.before
  · exact h.laidOut.congr (h'.before.mono (by omega) (by omega))
  · rw [← hoffset]
    exact h'.laidOut

/-- A table of a fixed size is built when there is room for it. -/
theorem buildTable_extends {b : Building} {capLen size : ℕ} {fields : List FieldValue}
    (hroom : b.offset + size ≤ capLen) (hvalid : FieldsValid size fields) :
    (buildTable b capLen size fields).1 = .success ∧
      Extends b (buildTable b capLen size fields).2 [⟨size, fields⟩] := by
  rw [buildTable, if_neg (by omega)]
  exact ⟨rfl, rfl, sameBytes_writeFields_before _ _ _, hvalid.holds _ _, trivial⟩

/-- Rows are built one after the other when there is room for all of them. -/
theorem buildRows_extends {ρ : Type} {build : ρ → Building → ReturnCode × Building} {row : ρ → Row}
    {capLen : ℕ} {rs : List ρ}
    (h : ∀ r ∈ rs, ∀ b : Building, b.offset + (row r).size ≤ capLen →
      (build r b).1 = .success ∧ Extends b (build r b).2 [row r])
    {b : Building} (hroom : b.offset + totalSize (rs.map row) ≤ capLen) :
    (buildRows build rs b).1 = .success ∧ Extends b (buildRows build rs b).2 (rs.map row) := by
  induction rs generalizing b with
  | nil => exact ⟨rfl, Extends.refl b⟩
  | cons r rs ih =>
    rw [List.map_cons, totalSize_cons] at hroom
    obtain ⟨hrc, hextends⟩ := h r List.mem_cons_self b (by omega)
    have hoffset := hextends.offset
    rw [totalSize_cons, totalSize_nil] at hoffset
    obtain ⟨hrc', hextends'⟩ := ih (fun r' hr' => h r' (List.mem_cons_of_mem r hr'))
      (b := (build r b).2) (by omega)
    rw [buildRows]
    dsimp only
    rw [if_pos hrc]
    exact ⟨hrc', hextends.trans hextends'⟩

/-- The fields of an interleave table with its formats. -/
def interleaveRowFields (row : DbInterleaveCapability) : List FieldValue :=
  [(0, 2, 1), (2, 2, memoryInterleaveTableSize + 4 * row.supportedInterleaveCount),
    (4, 1, row.memoryMode), (8, 2, row.interleaveAlignmentSize),
    (10, 2, row.supportedInterleaveCount)] ++
  (List.range row.supportedInterleaveCount).map fun i => (12 + 4 * i, 4, row.interleaveFormatList i)

/-- The interleave table of a row. -/
def interleaveTableRow (row : DbInterleaveCapability) : Row :=
  ⟨memoryInterleaveTableSize + 4 * row.supportedInterleaveCount, interleaveRowFields row⟩

/-- The loop over the formats: the formats that were to be written are there and are counted in the
length, and everything else stays. -/
private theorem buildFormatsLoop_spec {formats : ℕ → ℕ} {offset left j : ℕ} {m : Bytes}
    (hlength : readLE m (offset + 2) 2 = 12 + 4 * j) (hcount : j + left ≤ 32) :
    let m' := buildFormatsLoop formats offset left j m
    readLE m' (offset + 2) 2 = 12 + 4 * (j + left) ∧
      (∀ i, j ≤ i → i < j + left → readLE m' (offset + (12 + 4 * i)) 4 = formats i % 256 ^ 4) ∧
      ∀ b k, (b + k ≤ offset + 2 ∨ offset + 4 ≤ b) → (b + k ≤ offset + (12 + 4 * j)) →
        SameBytes m' m b k := by
  induction left generalizing j m with
  | zero => exact ⟨hlength, fun i hi hlt => absurd hi (by omega), fun _ _ _ _ _ _ _ => rfl⟩
  | succ left ih =>
    rw [buildFormatsLoop]
    dsimp only
    generalize hm₁ : writeLE m (offset + (12 + 4 * j)) 4 (formats j) = m₁
    have hlength₁ : readLE m₁ (offset + 2) 2 = 12 + 4 * j := by
      rw [← hm₁, readLE_writeLE_of_disjoint (Or.inl (by omega)), hlength]
    rw [hlength₁]
    generalize hm₂ : writeLE m₁ (offset + 2) 2 (12 + 4 * j + 4) = m₂
    have hlength₂ : readLE m₂ (offset + 2) 2 = 12 + 4 * (j + 1) := by
      rw [← hm₂, readLE_writeLE_self, Nat.mod_eq_of_lt (by omega)]
      omega
    obtain ⟨hend, hformats, hsame⟩ := ih hlength₂ (by omega)
    refine ⟨by rw [hend]; omega, fun i hi hlt => ?_, fun b k hb hk => ?_⟩
    · rcases Nat.lt_or_ge j i with hlt' | hge
      · exact hformats i hlt' (by omega)
      · obtain rfl : i = j := by omega
        rw [readLE_congr (hsame _ 4 (Or.inr (by omega)) (by omega)), ← hm₂,
          readLE_writeLE_of_disjoint (Or.inr (by omega)), ← hm₁, readLE_writeLE_self]
    · refine (hsame b k hb (by omega)).trans (@SameBytes.trans _ m₁ _ _ _ ?_ ?_)
      · rw [← hm₂]
        exact sameBytes_copy (by omega)
      · rw [← hm₁]
        exact sameBytes_copy (by omega)

/-- The values of an interleave table fit in its fields, and it has not more formats than the
array. -/
structure InterleaveValid (row : DbInterleaveCapability) : Prop where
  /-- The fields before the formats. -/
  fields : FieldsValid memoryInterleaveTableSize (interleaveFields row)
  /-- The formats. -/
  formats : ∀ i, row.interleaveFormatList i < 256 ^ 4
  /-- The count. -/
  count : row.supportedInterleaveCount ≤ interleaveFormatListCount

/-- An interleave table is built when there is room for it. -/
theorem buildInterleave_extends {b : Building} {capLen : ℕ} {row : DbInterleaveCapability}
    (hroom : b.offset + (interleaveTableRow row).size ≤ capLen) (hvalid : InterleaveValid row) :
    (buildInterleave row b capLen).1 = .success ∧
      Extends b (buildInterleave row b capLen).2 [interleaveTableRow row] := by
  have hsize : (interleaveTableRow row).size = 12 + 4 * row.supportedInterleaveCount := rfl
  have hcount := hvalid.count
  have hheader : ¬ capLen < b.offset + memoryInterleaveTableSize +
      row.supportedInterleaveCount * 4 := by
    rw [memoryInterleaveTableSize]
    omega
  rw [interleaveFormatListCount] at hcount
  rw [buildInterleave, if_neg hheader]
  dsimp only
  generalize hm : writeFields b.memory b.offset (interleaveFields row) = m
  have hfields : Row.Holds ⟨memoryInterleaveTableSize, interleaveFields row⟩ m b.offset := by
    rw [← hm]
    exact hvalid.fields.holds _ _
  have hread : ∀ d n v, (d, n, v) ∈ interleaveFields row → readLE m (b.offset + d) n = v :=
    fun d n v hf => (hfields (d, n, v) hf).2
  have hlength := hread 2 2 memoryInterleaveTableSize (by simp [interleaveFields])
  have hcountRead := hread 10 2 row.supportedInterleaveCount (by simp [interleaveFields])
  rw [hcountRead]
  obtain ⟨hend, hformats, hsame⟩ := @buildFormatsLoop_spec row.interleaveFormatList
    b.offset row.supportedInterleaveCount 0 m
    (by rw [hlength]; rfl) (by omega)
  generalize buildFormatsLoop row.interleaveFormatList b.offset row.supportedInterleaveCount 0 m =
    m' at hend hformats hsame
  rw [hend]
  refine ⟨rfl, ?_, ?_, ?_, trivial⟩
  · rw [totalSize_cons, totalSize_nil, hsize]
    dsimp only
    omega
  · refine (hsame 0 b.offset (Or.inl (by omega)) (by omega)).trans ?_
    rw [← hm]
    exact sameBytes_writeFields_before _ _ _
  · intro f hf
    rw [hsize]
    rcases List.mem_append.mp hf with hmem | hmem
    · -- the length is that with the formats, the other fields stay
      have hkeep : ∀ d n v, (d, n, v) ∈ interleaveFields row → 4 ≤ d ∨ d + n ≤ 2 → d + n ≤ 12 →
          readLE m' (b.offset + d) n = v := fun d n v hf hd hn => by
        rw [readLE_congr (hsame _ n (by omega) (by omega)), hread d n v hf]
      simp only [List.mem_cons, List.not_mem_nil, or_false] at hmem
      rcases hmem with rfl | rfl | rfl | rfl | rfl
      · exact ⟨by dsimp only; omega, hkeep 0 2 1 (by simp [interleaveFields]) (Or.inr le_rfl) (by omega)⟩
      · refine ⟨by dsimp only; omega, ?_⟩
        rw [hend, memoryInterleaveTableSize, Nat.zero_add]
      · exact ⟨by dsimp only; omega, hkeep 4 1 _ (by simp [interleaveFields]) (Or.inl le_rfl) (by omega)⟩
      · exact ⟨by dsimp only; omega,
          hkeep 8 2 _ (by simp [interleaveFields]) (Or.inl (by omega)) (by omega)⟩
      · exact ⟨by dsimp only; omega,
          hkeep 10 2 _ (by simp [interleaveFields]) (Or.inl (by omega)) (by omega)⟩
    · obtain ⟨i, hi, rfl⟩ := List.mem_map.mp hmem
      rw [List.mem_range] at hi
      refine ⟨by show 12 + 4 * i + 4 ≤ _; omega, ?_⟩
      show readLE m' (b.offset + (12 + 4 * i)) 4 = row.interleaveFormatList i
      rw [hformats i (Nat.zero_le i) (by omega), Nat.mod_eq_of_lt (hvalid.formats i)]

/-! ### The buffer of `get_pcat_from_db` -/

/-- The tables that are built from the database. -/
def dbRows (db : PcatDb) : List Row :=
  (db.platformInfos.take 1).map (fun row => ⟨platformInfoTableSize, platformInfoFields row⟩) ++
    (db.runtimeValidations.take 1).map (fun row => ⟨rtConfigTableSize, runtimeValidationFields row⟩) ++
    db.interleaves.map interleaveTableRow ++
    db.socketSkus.map fun row => ⟨socketInfoTableSize, socketSkuFields row⟩

/-- The values of the rows of a database fit in the fields of the tables. -/
structure PcatDb.Valid (db : PcatDb) : Prop where
  /-- Platform information. -/
  platformInfos : ∀ row ∈ db.platformInfos,
    FieldsValid platformInfoTableSize (platformInfoFields row)
  /-- Runtime validation. -/
  runtimeValidations : ∀ row ∈ db.runtimeValidations,
    FieldsValid rtConfigTableSize (runtimeValidationFields row)
  /-- Interleave tables. -/
  interleaves : ∀ row ∈ db.interleaves, InterleaveValid row
  /-- Socket SKUs. -/
  socketSkus : ∀ row ∈ db.socketSkus, FieldsValid socketInfoTableSize (socketSkuFields row)

/-- The platform information table is built when there is room for it. -/
private theorem getPcatPlatformInfoFromDb_extends {db : PcatDb} (hdb : db.Valid) {b : Building}
    {capLen : ℕ}
    (hroom : b.offset + totalSize ((db.platformInfos.take 1).map fun row =>
      ⟨platformInfoTableSize, platformInfoFields row⟩) ≤ capLen) :
    (getPcatPlatformInfoFromDb db b capLen).1 = .success ∧
      Extends b (getPcatPlatformInfoFromDb db b capLen).2 ((db.platformInfos.take 1).map fun row =>
        ⟨platformInfoTableSize, platformInfoFields row⟩) := by
  have hvalid := hdb.platformInfos
  rw [getPcatPlatformInfoFromDb]
  cases hrows : db.platformInfos with
  | nil => exact ⟨rfl, Extends.refl b⟩
  | cons row rows =>
    rw [hrows] at hroom hvalid
    exact buildTable_extends hroom (hvalid row List.mem_cons_self)

/-- The runtime validation table is built when there is room for it. -/
private theorem getPcatRuntimeValidationTableFromDb_extends {db : PcatDb} (hdb : db.Valid)
    {b : Building} {capLen : ℕ}
    (hroom : b.offset + totalSize ((db.runtimeValidations.take 1).map fun row =>
      ⟨rtConfigTableSize, runtimeValidationFields row⟩) ≤ capLen) :
    (getPcatRuntimeValidationTableFromDb db b capLen).1 = .success ∧
      Extends b (getPcatRuntimeValidationTableFromDb db b capLen).2
        ((db.runtimeValidations.take 1).map fun row =>
          ⟨rtConfigTableSize, runtimeValidationFields row⟩) := by
  have hvalid := hdb.runtimeValidations
  rw [getPcatRuntimeValidationTableFromDb]
  cases hrows : db.runtimeValidations with
  | nil => exact ⟨rfl, Extends.refl b⟩
  | cons row rows =>
    rw [hrows] at hroom hvalid
    exact buildTable_extends hroom (hvalid row List.mem_cons_self)

/-- In a buffer that is large enough `get_pcat_from_db` lays out the tables of the database behind a
header with their length, and the bytes sum to zero. -/
theorem getPcatFromDb_spec {db : PcatDb} (hdb : db.Valid) {header : DbPlatformCapabilities}
    {headers : List DbPlatformCapabilities} (hheader : db.platformCapabilities = header :: headers)
    {capLen : ℕ} (hroom : pcatTableSize + totalSize (dbRows db) ≤ capLen)
    (hlength : pcatTableSize + totalSize (dbRows db) < 256 ^ 4) (memory : Bytes) :
    ∃ m, getPcatFromDb db memory capLen = (.success, m) ∧
      headerLength m = pcatTableSize + totalSize (dbRows db) ∧
      verifyChecksum m (headerLength m) = true ∧ LaidOut m pcatTableSize (dbRows db) := by
  simp only [dbRows, totalSize_append] at hroom
  rw [getPcatFromDb, if_neg (by omega), hheader]
  dsimp only
  generalize hb₀ : (⟨writeFields memory 0 (headerFields header), pcatTableSize⟩ : Building) = b₀
  have hoffset₀ : b₀.offset = pcatTableSize := by rw [← hb₀]
  obtain ⟨hrc₁, h₁⟩ := @getPcatPlatformInfoFromDb_extends db hdb b₀ capLen (by omega)
  have hoffset₁ := h₁.offset
  obtain ⟨hrc₂, h₂⟩ := @getPcatRuntimeValidationTableFromDb_extends db hdb
    (getPcatPlatformInfoFromDb db b₀ capLen).2 capLen (by omega)
  rw [if_pos hrc₁]
  generalize (getPcatPlatformInfoFromDb db b₀ capLen).2 = b₁ at h₁ hoffset₁ hrc₂ h₂
  have hoffset₂ := h₂.offset
  rw [if_pos hrc₂]
  generalize (getPcatRuntimeValidationTableFromDb db b₁ capLen).2 = b₂ at h₂ hoffset₂
  obtain ⟨hrc₃, h₃⟩ := @buildRows_extends _
    (fun row b => buildInterleave row b capLen) interleaveTableRow capLen db.interleaves
    (fun row hrow b hb => buildInterleave_extends hb (hdb.interleaves row hrow)) b₂ (by omega)
  rw [getPcatInterleaveTablesFromDb, if_pos hrc₃]
  generalize (buildRows (fun row b => buildInterleave row b capLen) db.interleaves b₂).2 = b₃ at h₃
  have hoffset₃ := h₃.offset
  obtain ⟨hrc₄, h₄⟩ := @buildRows_extends _
    (fun row b => buildTable b capLen socketInfoTableSize (socketSkuFields row))
    (fun row => ⟨socketInfoTableSize, socketSkuFields row⟩) capLen db.socketSkus
    (fun row hrow b hb => buildTable_extends hb (hdb.socketSkus row hrow)) b₃ (by omega)
  rw [getPcatSocketSkuInfoFromDb, hrc₄]
  generalize (buildRows (fun row b => buildTable b capLen socketInfoTableSize (socketSkuFields row))
    db.socketSkus b₃).2 = b₄ at h₄
  have hall : Extends b₀ b₄ (dbRows db) := ((h₁.trans h₂).trans h₃).trans h₄
  have hend := hall.offset
  rw [hoffset₀] at hend
  generalize hm : writeLE b₄.memory 4 4 b₄.offset = m
  have hmlength : headerLength m = pcatTableSize + totalSize (dbRows db) := by
    rw [← hm, headerLength, readLE_writeLE_self, hend, Nat.mod_eq_of_lt hlength]
  -- the checksum is behind the length and before the tables
  have hkeep : ∀ b k, b + k ≤ 9 ∨ 10 ≤ b →
      SameBytes (generateChecksum m (headerLength m) checksumOffset) m b k := by
    intro b k hb i hi hik
    refine generateChecksum_apply_of_ne m _ ?_
    rw [checksumOffset]
    omega
  have hsame : headerLength (generateChecksum m (headerLength m) checksumOffset) = headerLength m :=
    readLE_congr (hkeep 4 4 (Or.inl (by omega)))
  refine ⟨_, rfl, hsame.trans hmlength, ?_, ?_⟩
  · rw [hsame, verifyChecksum, sumBytes_generateChecksum]
    · rfl
    · rw [hmlength, checksumOffset, pcatTableSize]
      omega
  · have hlaid := hall.laidOut
    rw [hoffset₀] at hlaid
    refine hlaid.congr ((hkeep _ _ (Or.inr (by decide))).trans ?_)
    rw [← hm]
    exact sameBytes_copy (Or.inr (by decide))

/-! ### Walking through the rows -/

/-- A row is a table: it has room for a header, with its size as the length. -/
structure Row.IsTable (row : Row) : Prop where
  /-- The header. -/
  header : 4 ≤ row.size
  /-- The length. -/
  length : (2, 2, row.size) ∈ row.fields

/-- The tables in bytes that rows fill are the rows. -/
theorem tablesFrom_of_laidOut {rows : List Row} (htables : ∀ row ∈ rows, Row.IsTable row)
    {rest : List UInt8} (hlength : rest.length = totalSize rows)
    (hlaid : LaidOut (ofList rest) 0 rows) :
    (tablesFrom rest).2 = .done ∧
      List.Forall₂ (fun table row => row.size ≤ table.length ∧ row.Holds (ofList table) 0)
        (tablesFrom rest).1 rows := by
  induction rows generalizing rest with
  | nil =>
    rw [tablesFrom, if_pos (List.eq_nil_of_length_eq_zero hlength)]
    exact ⟨rfl, List.Forall₂.nil⟩
  | cons row rows ih =>
    obtain ⟨hheader, hmem⟩ := htables row List.mem_cons_self
    rw [totalSize_cons] at hlength
    have hsize : tableLength rest = row.size := (hlaid.1 _ hmem).2
    have hnil : rest ≠ [] := List.ne_nil_of_length_pos (by omega)
    rw [tablesFrom, if_neg hnil, if_neg (by omega), dif_neg (by omega), hsize]
    have hrest : LaidOut (ofList (rest.drop row.size)) 0 rows := by
      rw [← view_ofList, laidOut_view, Nat.add_comm]
      exact hlaid.2
    obtain ⟨hend, hrows⟩ := ih (fun r hr => htables r (List.mem_cons_of_mem row hr))
      (by rw [List.length_drop]; omega) hrest
    exact ⟨hend, List.Forall₂.cons ⟨by omega, hlaid.1⟩ hrows⟩

end IxpDimm.Pcat
