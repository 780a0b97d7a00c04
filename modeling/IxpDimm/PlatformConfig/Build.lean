import IxpDimm.PlatformConfig.TableSound

/-!
# Building platform config data

`build_platform_config_data` writes a header, places the sub-tables it is given behind the header one
after the other, and makes the header sum to zero.  The check of the result sums up the whole data,
so it succeeds because every sub-table sums to zero as well.

`Assembled` says what the result is: it holds the sub-tables that were supplied and nothing else, and
it sums to zero.  It depends on the bytes of the data only, so it also holds of a copy of them.
-/

namespace IxpDimm

open Foundation

/-! ### The function -/

/-- The header in a zeroed buffer, without its checksum: `"DMHD"`, `"INTEL "`, `"PURLEY  "` and
`"INTL"` in their places. -/
def newHeader : Bytes :=
  let m : Bytes := fun _ => 0
  let m := writeLE m 4 4 platformConfigDataSize
  let m := copy m 0 4 (ofList platformConfigTableSignature)
  let m := copy m 8 1 (ofList [1])
  let m := copy m 10 6 (ofList [0x49, 0x4E, 0x54, 0x45, 0x4C, 0x20])
  let m := copy m 16 8 (ofList [0x50, 0x55, 0x52, 0x4C, 0x45, 0x59, 0x20, 0x20])
  let m := writeLE m 24 4 2
  let m := copy m 28 4 (ofList [0x49, 0x4E, 0x54, 0x4C])
  writeLE m 32 4 0

/-- One of the three blocks that fill out a sub-table, on the buffer and the next offset. -/
def addTable (kind : TableKind) (table : Option Bytes) (state : Bytes × ℕ) :
    Except ReturnCode (Bytes × ℕ) :=
  match table with
  | none => .ok state
  | some table =>
    if headerLength table > 0 then
      let m := writeLE state.1 kind.offsetField 4 state.2
      let m := writeLE m kind.sizeField 4 (headerLength table)
      match castTable kind m with
      | some _ => .ok (copy m (tableOffset kind m) (headerLength table) table,
          (state.2 + headerLength table) % 2 ^ 32)
      | none => .error .errUnknown
    else .ok state

/-- The sub-tables filled out one after the other. -/
def addTables (current input output : Option Bytes) : Except ReturnCode (Bytes × ℕ) := do
  let state ← addTable .currentConfig current (newHeader, platformConfigDataSize)
  let state ← addTable .configInput input state
  addTable .configOutput output state

/-- `build_platform_config_data`.  The last argument is what `pp_config` points to, `none` if it is
null; the result is the return code and what it points to afterwards. -/
def buildPlatformConfigData (current input output : Option Bytes) (ppConfig : Option (Option Bytes)) :
    ReturnCode × Option (Option Bytes) :=
  match addTables current input output with
  | .error rc => (rc, ppConfig)
  | .ok (m, _) =>
    match ppConfig with
    | some none => (.success, some (some (generateChecksum m (headerLength m) checksumOffset)))
    | _ => (.errInvalidParameter, ppConfig)

/-! ### What it builds -/

/-- Sub-tables supplied by kind. -/
abbrev Tables := TableKind → Option Bytes

/-- The size of a supplied sub-table. -/
def suppliedSize (tables : Tables) (kind : TableKind) : ℕ := ((tables kind).map headerLength).getD 0

/-- The size of the data with the supplied sub-tables. -/
def builtSize (tables : Tables) : ℕ :=
  platformConfigDataSize + (TableKind.all.map (suppliedSize tables)).sum

/-- Every supplied sub-table is valid. -/
def TablesSound (tables : Tables) : Prop := ∀ kind table, tables kind = some table →
  TableSound kind table

/-- The data of a size holds the supplied sub-tables and sums to zero. -/
structure Assembled (tables : Tables) (m : Bytes) (pcdSize : ℕ) : Prop where
  /-- The length of the header. -/
  length : headerLength m = platformConfigDataSize
  /-- The signature of the header. -/
  signature : headerSignature m = platformConfigTableSignature
  /-- A sub-table that was supplied. -/
  present : ∀ kind table, tables kind = some table →
    tableSize kind m = headerLength table ∧ platformConfigDataSize ≤ tableOffset kind m ∧
      tableOffset kind m + headerLength table ≤ pcdSize ∧
      SameBytes (view m (tableOffset kind m)) table 0 (headerLength table)
  /-- A sub-table that was not supplied. -/
  absent : ∀ kind, tables kind = none → tableSize kind m = 0 ∧ tableOffset kind m = 0
  /-- The sum of the data. -/
  sum : sumBytes m 0 pcdSize = 0

/-- The buffer while the sub-tables are filled out: the first ones are in their places and sum to
zero, the fields of the others are zero, and so is the rest. -/
structure Building (tables : Tables) (done : List TableKind) (m : Bytes) (offset : ℕ) : Prop where
  /-- The length of the header. -/
  length : headerLength m = platformConfigDataSize
  /-- The signature of the header. -/
  signature : headerSignature m = platformConfigTableSignature
  /-- The next offset. -/
  offset_eq : offset = platformConfigDataSize + (done.map (suppliedSize tables)).sum
  /-- A sub-table that has been filled out. -/
  present : ∀ kind ∈ done, ∀ table, tables kind = some table →
    tableSize kind m = headerLength table ∧ platformConfigDataSize ≤ tableOffset kind m ∧
      tableOffset kind m + headerLength table ≤ offset ∧
      SameBytes (view m (tableOffset kind m)) table 0 (headerLength table)
  /-- A sub-table that was not supplied or is still to come. -/
  absent : ∀ kind, (kind ∈ done → tables kind = none) →
    tableSize kind m = 0 ∧ tableOffset kind m = 0
  /-- The sum of the sub-tables. -/
  sum : sumBytes m platformConfigDataSize (offset - platformConfigDataSize) = 0
  /-- The rest of the buffer. -/
  rest : ∀ i, offset ≤ i → m i = 0

/-- The buffer before the first sub-table. -/
private theorem building_newHeader (tables : Tables) :
    Building tables [] newHeader platformConfigDataSize := by
  have hrest : ∀ i, 36 ≤ i → newHeader i = 0 := by
    intro i hi
    unfold newHeader writeLE
    rw [copy_apply_of_notMem (by omega), copy_apply_of_notMem (by omega),
      copy_apply_of_notMem (by omega), copy_apply_of_notMem (by omega),
      copy_apply_of_notMem (by omega), copy_apply_of_notMem (by omega),
      copy_apply_of_notMem (by omega), copy_apply_of_notMem (by omega)]
  have hzero : ∀ a, 36 ≤ a → readLE newHeader a 4 = 0 := by
    intro a ha
    have hsame : SameBytes newHeader (fun _ => 0) a 4 := fun i hi _ => hrest i (by omega)
    rw [readLE_congr hsame]
    rfl
  refine ⟨by decide, by decide, rfl, by simp, fun kind _ => ?_, rfl, fun i hi => ?_⟩
  · have hfields := kind.fields_lt
    unfold configDataTableHeaderSize at hfields
    exact ⟨hzero _ (by omega), hzero _ (by omega)⟩
  · exact hrest i (by unfold platformConfigDataSize at hi; omega)

/-- The fields of two kinds do not overlap. -/
private theorem fields_disjoint {kind kind' : TableKind} (h : kind ≠ kind') :
    kind.sizeField + 8 ≤ kind'.sizeField ∨ kind'.sizeField + 8 ≤ kind.sizeField := by
  cases kind <;> cases kind' <;> first | exact absurd rfl h | decide

section Step

variable {tables : Tables} {done : List TableKind} {m : Bytes} {offset : ℕ} {kind : TableKind}

/-- A sub-table that was not supplied changes nothing. -/
private theorem Building.add_none (h : Building tables done m offset) (hnone : tables kind = none) :
    Building tables (done ++ [kind]) m offset := by
  refine ⟨h.length, h.signature, ?_, fun k hk table htable => ?_, fun k hk => ?_, h.sum, h.rest⟩
  · have hsize : suppliedSize tables kind = 0 := by rw [suppliedSize, hnone]; rfl
    rw [h.offset_eq, List.map_append, List.sum_append, List.map_singleton, List.sum_singleton, hsize,
      Nat.add_zero]
  · rcases List.mem_append.mp hk with hk | hk
    · exact h.present k hk table htable
    · obtain rfl := List.mem_singleton.mp hk
      rw [hnone] at htable
      cases htable
  · exact h.absent k fun hmem => hk (List.mem_append_left _ hmem)

/-- The buffer after a sub-table has been filled out. -/
private def filledOut (kind : TableKind) (table : Bytes) (m : Bytes) (offset : ℕ) : Bytes :=
  copy (writeLE (writeLE m kind.offsetField 4 offset) kind.sizeField 4 (headerLength table)) offset
    (headerLength table) table

variable {table : Bytes}

/-- Outside the fields of the sub-table and its place the buffer is as before. -/
private theorem filledOut_apply {i : ℕ} (hi : i < offset ∨ offset + headerLength table ≤ i)
    (hfields : i < kind.sizeField ∨ kind.sizeField + 8 ≤ i) :
    filledOut kind table m offset i = m i := by
  have hplace := kind.fields_lt
  unfold filledOut writeLE
  rw [copy_apply_of_notMem hi, copy_apply_of_notMem (by omega), copy_apply_of_notMem (by omega)]

/-- The fields of the sub-table. -/
private theorem fields_filledOut (kind : TableKind) (table m : Bytes)
    (hoffset : platformConfigDataSize ≤ offset) (hsmall : offset < 2 ^ 32) :
    tableSize kind (filledOut kind table m offset) = headerLength table ∧
      tableOffset kind (filledOut kind table m offset) = offset := by
  have hplace := kind.fields_lt
  have hlt := headerLength_lt table
  unfold tableSize tableOffset filledOut
  constructor
  · rw [readLE_congr (sameBytes_copy (by omega)), readLE_writeLE_self]
    exact Nat.mod_eq_of_lt (by omega)
  · rw [readLE_congr (sameBytes_copy (by omega)), readLE_writeLE_of_disjoint (by omega),
      readLE_writeLE_self]
    exact Nat.mod_eq_of_lt (by omega)

/-- Filling out a supplied sub-table. -/
private theorem Building.add_some (h : Building tables done m offset) (hnew : kind ∉ done)
    (htable : tables kind = some table) (hsound : TableSound kind table)
    (hroom : offset + headerLength table < 2 ^ 32) :
    Building tables (done ++ [kind]) (filledOut kind table m offset)
      (offset + headerLength table) := by
  have hplace := kind.fields_lt
  have hstart : platformConfigDataSize ≤ offset := by
    rw [h.offset_eq]
    exact Nat.le_add_right _ _
  have hfields := fields_filledOut kind table m hstart (by omega)
  have hheader : SameBytes (filledOut kind table m offset) m 0 kind.sizeField := fun i _ hi =>
    filledOut_apply (by omega) (by omega)
  have hold : SameBytes (filledOut kind table m offset) m platformConfigDataSize
      (offset - platformConfigDataSize) := fun i hi hlt =>
    filledOut_apply (by omega) (by omega)
  have hother : ∀ k, k ≠ kind → tableSize k (filledOut kind table m offset) = tableSize k m ∧
      tableOffset k (filledOut kind table m offset) = tableOffset k m := by
    intro k hk
    have hdisjoint := fields_disjoint hk
    have hkplace := k.fields_lt
    exact ⟨readLE_congr fun i hi hlt => filledOut_apply (by omega) (by omega),
      readLE_congr fun i hi hlt => filledOut_apply (by omega) (by omega)⟩
  unfold configDataTableHeaderSize at hplace
  refine ⟨?_, ?_, ?_, fun k hk t ht => ?_, fun k hk => ?_, ?_, fun i hi => ?_⟩
  · rw [headerLength_congr (hheader.symm.mono le_rfl (by omega)), h.length]
  · rw [← h.signature]
    unfold headerSignature
    rw [hheader 0 le_rfl (by omega), hheader 1 (by omega) (by omega),
      hheader 2 (by omega) (by omega), hheader 3 (by omega) (by omega)]
  · have hsize : suppliedSize tables kind = headerLength table := by rw [suppliedSize, htable]; rfl
    rw [h.offset_eq, List.map_append, List.sum_append, List.map_singleton, List.sum_singleton, hsize,
      Nat.add_assoc]
  · rcases List.mem_append.mp hk with hk | hk
    · -- a sub-table from before
      have hne : k ≠ kind := fun heq => hnew (heq ▸ hk)
      obtain ⟨hsize, hbehind, hend, hsame⟩ := h.present k hk t ht
      rw [(hother k hne).1, (hother k hne).2]
      refine ⟨hsize, hbehind, by omega, fun i hi hlt => ?_⟩
      rw [view_apply, hold _ (by omega) (by omega)]
      exact hsame i hi hlt
    · obtain rfl := List.mem_singleton.mp hk
      obtain rfl := Option.some.inj (htable.symm.trans ht)
      rw [hfields.1, hfields.2]
      exact ⟨rfl, hstart, le_rfl, sameBytes_view_copy _ _ _ _⟩
  · have hne : k ≠ kind := by
      rintro rfl
      have hnone := hk (List.mem_append_right _ (List.mem_singleton_self k))
      rw [htable] at hnone
      cases hnone
    rw [(hother k hne).1, (hother k hne).2]
    exact h.absent k fun hmem => hk (List.mem_append_left _ hmem)
  · have hsplit : offset + headerLength table - platformConfigDataSize =
        (offset - platformConfigDataSize) + headerLength table := by omega
    have hend : platformConfigDataSize + (offset - platformConfigDataSize) = offset := by omega
    have hcopied := sumBytes_congr (sameBytes_view_copy
      (writeLE (writeLE m kind.offsetField 4 offset) kind.sizeField 4 (headerLength table)) table
      offset (headerLength table))
    rw [sumBytes_view, Nat.add_zero, hsound.sum_eq_zero] at hcopied
    rw [hsplit, sumBytes_add, hend, sumBytes_congr hold, h.sum]
    exact (UInt8.zero_add _).trans hcopied
  · rw [filledOut_apply (Or.inr hi) (by omega)]
    exact h.rest i (by omega)

/-- One of the three blocks of the function. -/
private theorem Building.addTable (h : Building tables done m offset) (kind : TableKind)
    (hnew : kind ∉ done)
    (hsound : TablesSound tables) (hroom : offset + suppliedSize tables kind < 2 ^ 32) :
    ∃ m', addTable kind (tables kind) (m, offset) = .ok (m', offset + suppliedSize tables kind) ∧
      Building tables (done ++ [kind]) m' (offset + suppliedSize tables kind) := by
  cases htable : tables kind with
  | none =>
    have hsize : suppliedSize tables kind = 0 := by rw [suppliedSize, htable]; rfl
    rw [hsize, Nat.add_zero]
    exact ⟨m, rfl, h.add_none htable⟩
  | some table =>
    have hsize : suppliedSize tables kind = headerLength table := by rw [suppliedSize, htable]; rfl
    have htsound := hsound kind table htable
    have hstart : platformConfigDataSize ≤ offset := by
      rw [h.offset_eq]
      exact Nat.le_add_right _ _
    rw [hsize] at hroom ⊢
    have hpos : 0 < headerLength table := by
      have := htsound.size
      have := kind.header_lt_structSize
      omega
    refine ⟨filledOut kind table m offset, ?_, h.add_some hnew htable htsound hroom⟩
    have hplace := kind.fields_lt
    have hsizeField : tableSize kind (writeLE (writeLE m kind.offsetField 4 offset) kind.sizeField 4
        (headerLength table)) = headerLength table := by
      rw [tableSize, readLE_writeLE_self]
      exact Nat.mod_eq_of_lt (by omega)
    have hoffsetField : tableOffset kind (writeLE (writeLE m kind.offsetField 4 offset)
        kind.sizeField 4 (headerLength table)) = offset := by
      rw [tableOffset, readLE_writeLE_of_disjoint (by omega), readLE_writeLE_self]
      exact Nat.mod_eq_of_lt (by omega)
    simp only [IxpDimm.addTable, if_pos hpos, castTable, hsizeField, hoffsetField]
    rw [Nat.mod_eq_of_lt hroom]
    rfl

end Step

/-- The three sub-tables filled out one after the other. -/
private theorem addTables_ok {tables : Tables} (hsound : TablesSound tables)
    (hroom : builtSize tables < 2 ^ 32) :
    ∃ m, addTables (tables .currentConfig) (tables .configInput) (tables .configOutput) =
        .ok (m, builtSize tables) ∧
      Building tables TableKind.all m (builtSize tables) := by
  have hsize : builtSize tables = platformConfigDataSize + suppliedSize tables .currentConfig +
      suppliedSize tables .configInput + suppliedSize tables .configOutput := by
    simp only [builtSize, TableKind.all, List.map_cons, List.map_nil, List.sum_cons, List.sum_nil]
    omega
  obtain ⟨m₁, h₁, hb₁⟩ := (building_newHeader tables).addTable .currentConfig (by simp)
    hsound (by omega)
  obtain ⟨m₂, h₂, hb₂⟩ := hb₁.addTable .configInput (by simp) hsound (by omega)
  obtain ⟨m₃, h₃, hb₃⟩ := hb₂.addTable .configOutput (by simp) hsound (by omega)
  refine ⟨m₃, ?_, ?_⟩
  · unfold addTables
    rw [h₁]
    show (addTable _ _ _ >>= fun state => addTable _ _ state) = _
    rw [h₂]
    show addTable _ _ _ = _
    rw [h₃, hsize]
  · rw [hsize]
    exact hb₃

/-- The function succeeds, and what it builds holds the supplied sub-tables, at the size that was
built and with zeros behind. -/
theorem build_assembled {tables : Tables} (hsound : TablesSound tables)
    (hroom : builtSize tables < 2 ^ 32) :
    ∃ m, buildPlatformConfigData (tables .currentConfig) (tables .configInput)
        (tables .configOutput) (some none) = (.success, some (some m)) ∧
      ∀ pcdSize, builtSize tables ≤ pcdSize → Assembled tables m pcdSize := by
  obtain ⟨m, hadd, hbuilding⟩ := addTables_ok hsound hroom
  refine ⟨generateChecksum m (headerLength m) checksumOffset, ?_, fun pcdSize hsize => ?_⟩
  · rw [buildPlatformConfigData, hadd]
  · have hstart : platformConfigDataSize ≤ builtSize tables := Nat.le_add_right _ _
    have hlength := hbuilding.length
    have hzero := sumBytes_generateChecksum m
      (show checksumOffset < headerLength m by rw [hlength]; decide)
    rw [hlength] at hzero ⊢
    have hkeep : ∀ i, i ≠ checksumOffset →
        generateChecksum m platformConfigDataSize checksumOffset i = m i :=
      fun i hi => generateChecksum_apply_of_ne m _ hi
    generalize generateChecksum m platformConfigDataSize checksumOffset = built at hkeep hzero ⊢
    unfold checksumOffset at hkeep
    unfold platformConfigDataSize at hstart hzero
    have hbehind : ∀ a n, 10 ≤ a → SameBytes built m a n := fun a n ha i hi _ => hkeep i (by omega)
    have hfields : ∀ kind, tableSize kind built = tableSize kind m ∧
        tableOffset kind built = tableOffset kind m := by
      intro kind
      have hplace := kind.fields_lt
      unfold configDataTableHeaderSize at hplace
      exact ⟨readLE_congr (hbehind _ _ (by omega)), readLE_congr (hbehind _ _ (by omega))⟩
    refine ⟨?_, ?_, fun kind table htable => ?_, fun kind hnone => ?_, ?_⟩
    · rw [← hlength]
      exact readLE_congr fun i _ hi => hkeep i (by omega)
    · rw [← hbuilding.signature]
      unfold headerSignature
      rw [hkeep 0 (by omega), hkeep 1 (by omega), hkeep 2 (by omega), hkeep 3 (by omega)]
    · obtain ⟨hts, hto, hend, hsame⟩ := hbuilding.present kind kind.mem_all table htable
      rw [(hfields kind).1, (hfields kind).2]
      refine ⟨hts, hto, by omega, fun i hi hlt => ?_⟩
      unfold platformConfigDataSize at hto
      rw [view_apply, hkeep _ (by omega)]
      exact hsame i hi hlt
    · rw [(hfields kind).1, (hfields kind).2]
      exact hbuilding.absent kind fun _ => hnone
    · -- the header, the sub-tables and the zeros behind them
      have hsplit : pcdSize = 60 + (builtSize tables - 60) + (pcdSize - builtSize tables) := by omega
      have htables : sumBytes built (0 + 60) (builtSize tables - 60) = 0 := by
        rw [sumBytes_congr (hbehind _ _ (by omega))]
        exact hbuilding.sum
      have hpadding : sumBytes built (0 + (60 + (builtSize tables - 60)))
          (pcdSize - builtSize tables) = 0 :=
        sumBytes_eq_zero fun i hi _ => (hkeep i (by omega)).trans (hbuilding.rest i (by omega))
      rw [hsplit, sumBytes_add, sumBytes_add, hzero, htables, hpadding]
      rfl

/-! ### The result is accepted -/

section Result

variable {tables : Tables} {m m' : Bytes}

/-- Data that holds the supplied sub-tables is described by its bytes. -/
theorem Assembled.congr {pcdSize : ℕ} (h : Assembled tables m pcdSize)
    (hroom : platformConfigDataSize ≤ pcdSize) (hsame : SameBytes m m' 0 pcdSize) :
    Assembled tables m' pcdSize := by
  unfold platformConfigDataSize at hroom
  have hfields : ∀ kind, tableSize kind m' = tableSize kind m ∧
      tableOffset kind m' = tableOffset kind m := by
    intro kind
    have hplace := kind.fields_lt
    unfold platformConfigDataSize at hplace
    exact ⟨readLE_congr (hsame.symm.mono (by omega) (by omega)),
      readLE_congr (hsame.symm.mono (by omega) (by omega))⟩
  refine ⟨?_, ?_, fun kind table htable => ?_, fun kind hnone => ?_, ?_⟩
  · rw [headerLength_congr (hsame.mono le_rfl (by omega)), h.length]
  · rw [← h.signature]
    unfold headerSignature
    rw [hsame 0 le_rfl (by omega), hsame 1 (by omega) (by omega), hsame 2 (by omega) (by omega),
      hsame 3 (by omega) (by omega)]
  · obtain ⟨hts, hto, hend, htab⟩ := h.present kind table htable
    rw [(hfields kind).1, (hfields kind).2]
    refine ⟨hts, hto, hend, fun i hi hlt => ?_⟩
    rw [view_apply, ← hsame _ (by omega) (by omega)]
    exact htab i hi hlt
  · rw [(hfields kind).1, (hfields kind).2]
    exact h.absent kind hnone
  · rw [← sumBytes_congr hsame]
    exact h.sum

/-- Data that holds valid sub-tables and sums to zero is accepted. -/
theorem Assembled.accepted {pcdSize : UInt64} (h : Assembled tables m pcdSize.toNat)
    (hsound : TablesSound tables) (hroom : platformConfigDataSize ≤ pcdSize.toNat)
    (hsmall : pcdSize.toNat < 2 ^ 31) : Accepted m pcdSize := by
  have hmod : pcdSize.toNat % 2 ^ 32 = pcdSize.toNat := Nat.mod_eq_of_lt (by omega)
  refine accepted_iff.mpr ⟨?_, fun kind => ?_⟩
  · have hinfo : isPcdHeaderTableInfoValid m = true := by
      refine List.all_eq_true.mpr fun kind _ => ?_
      cases htable : tables kind with
      | none =>
        obtain ⟨hsize, hoffset⟩ := h.absent kind htable
        simp [arePcdHeaderTableSizeAndOffsetValid, hsize, hoffset]
      | some table =>
        obtain ⟨hsize, hoffset, -⟩ := h.present kind table htable
        have hlarge := (hsound kind table htable).size
        have := kind.header_lt_structSize
        simp only [arePcdHeaderTableSizeAndOffsetValid, hsize]
        rw [Bool.or_eq_true, Bool.and_eq_true (decide _), decide_eq_true_iff, decide_eq_true_iff]
        exact Or.inr ⟨by omega, hoffset⟩
    have hheader : isConfigDataTableHeaderValid m pcdSize.toNat platformConfigTableSignature =
        true := by
      unfold isConfigDataTableHeaderValid verifyChecksum
      rw [if_neg (by rw [h.length]; omega), h.sum, h.signature]
      rfl
    unfold isPlatformConfigHeaderValid
    rw [if_neg (by rw [h.length]; omega), hmod, hheader, hinfo]
    rfl
  · cases htable : tables kind with
    | none => exact returns_checkTable_of_absent (h.absent kind htable).1
    | some table =>
      obtain ⟨hsize, -, hend, hsame⟩ := h.present kind table htable
      have hlarge := (hsound kind table htable).size
      have := kind.header_lt_structSize
      refine (returns_checkTable_iff (by omega)).mpr ⟨true, ?_, rfl⟩
      have hlength : headerLength (view m (tableOffset kind m)) = headerLength table :=
        headerLength_congr (hsame.symm.mono le_rfl (by unfold configDataTableHeaderSize at this; omega))
      rw [returns_isTableValid_true_iff (by omega)]
      exact ⟨hlength.trans hsize.symm, (hsound kind table htable).congr (by omega) hsame.symm⟩

/-- The casts of data that holds the supplied sub-tables. -/
theorem Assembled.castTable {pcdSize : ℕ} (h : Assembled tables m pcdSize)
    (hsound : TablesSound tables) (kind : TableKind) :
    (tables kind = none → castTable kind m = none) ∧
      ∀ table, tables kind = some table → ∃ copied, castTable kind m = some copied ∧
        tableSize kind m = headerLength table ∧ SameBytes copied table 0 (headerLength table) := by
  unfold IxpDimm.castTable
  refine ⟨fun hnone => ?_, fun table htable => ?_⟩
  · rw [if_neg (by rw [(h.absent kind hnone).1]; omega)]
  · obtain ⟨hsize, -, -, hsame⟩ := h.present kind table htable
    have hlarge := (hsound kind table htable).size
    have := kind.header_lt_structSize
    exact ⟨_, if_pos (by omega), hsize, hsame⟩

end Result

/-- For valid sub-tables that fit in the partition together, the function succeeds; its result is
accepted at the size that was built and at any larger size up to the partition; and the casts yield
copies of the supplied sub-tables and null pointers for the others. -/
theorem build_roundTrip (tables : Tables) (hsound : TablesSound tables)
    (hfits : builtSize tables ≤ devPltCfgOemPartitionSize) :
    ∃ m, buildPlatformConfigData (tables .currentConfig) (tables .configInput)
        (tables .configOutput) (some none) = (.success, some (some m)) ∧
      (∀ pcdSize : UInt64, builtSize tables ≤ pcdSize.toNat →
        pcdSize.toNat ≤ devPltCfgOemPartitionSize → Accepted m pcdSize) ∧
      ∀ kind, (tables kind = none → castTable kind m = none) ∧
        ∀ table, tables kind = some table → ∃ copied, castTable kind m = some copied ∧
          tableSize kind m = headerLength table ∧
          SameBytes copied table 0 (headerLength table) := by
  unfold devPltCfgOemPartitionSize at hfits ⊢
  obtain ⟨m, hbuild, hassembled⟩ := build_assembled hsound (by omega)
  refine ⟨m, hbuild, fun pcdSize hsize hmax => ?_, fun kind => ?_⟩
  · have hstart : platformConfigDataSize ≤ builtSize tables := Nat.le_add_right _ _
    exact (hassembled _ hsize).accepted hsound (by omega) (by omega)
  · exact (hassembled _ le_rfl).castTable hsound kind

/-- Only a config input table of 48 bytes. -/
def plainTables : Tables
  | .configInput => some (ofList plainInputBytes)
  | _ => none

/-- The config input table on its own is valid. -/
theorem tablesSound_plainTables : TablesSound plainTables := by
  intro kind table htable
  cases kind with
  | currentConfig => cases htable
  | configOutput => cases htable
  | configInput =>
    obtain rfl := Option.some.inj htable
    exact ⟨by decide, by decide +kernel, ⟨0, by decide⟩⟩

/-- The data built from it is accepted and holds it. -/
theorem build_roundTrip_plain :
    ∃ m, buildPlatformConfigData none (some (ofList plainInputBytes)) none (some none) =
        (.success, some (some m)) ∧ Accepted m 108 ∧ castConfigOutput m = none := by
  obtain ⟨m, hbuild, haccepted, hcast⟩ := build_roundTrip plainTables tablesSound_plainTables
    (by decide)
  exact ⟨m, hbuild, haccepted 108 (by decide) (by decide), (hcast .configOutput).1 rfl⟩

end IxpDimm
