import IxpDimm.Smbios.Search
import IxpDimm.Smbios.Strings

/-!
# Reads of the SMBIOS functions

The table comes from the firmware, and the walkers are called on whatever bytes it has.  All of them
terminate.  The search for a handle stays within the table always; the others read behind it for the
tables of one kind each, which `StaysInside` excludes:

* the searches for a type look for the length of a structure that starts with the last byte;
* the search for a string runs over the end when a string but the first ends with the last byte or
  does not end, because the length that it hands on is that from the first string;
* the lookup of a DIMM reads the fields of a memory device, and copies its strings, without looking
  at the length of the structure or of the table.
-/

namespace IxpDimm.Smbios

open Foundation

/-- The cursor of the whole table. -/
def top (buffer : List UInt8) : Cursor := ⟨some 0, buffer.length⟩

/-- `smbios_get_next_structure_of_type` from the start of a table. -/
theorem exists_returns_nextOfType_top {buffer : List UInt8} {type : ℕ} :
    (∃ c, Returns (smbiosGetNextStructureOfType buffer type (top buffer)) (.ok c)) ↔
      (buffer ≠ [] → SearchInside buffer type 0) := by
  by_cases hne : buffer = []
  · subst hne
    exact iff_of_true ⟨_, 0, rfl⟩ fun h => absurd rfl h
  · have hpos : 0 < buffer.length := List.length_pos_iff.mpr hne
    exact (exists_returns_nextOfType_iff hpos).trans ⟨fun h _ => h, fun h => h hne⟩

/-- `smbios_get_first_structure_of_type` from the start of a table. -/
theorem exists_returns_firstOfType_top {buffer : List UInt8} {type : ℕ} :
    (∃ c, Returns (smbiosGetFirstStructureOfType buffer type (top buffer)) (.ok c)) ↔
      (sizeofHeader < buffer.length → typeAt buffer 0 ≠ type → SearchInside buffer type 0) := by
  by_cases hlength : sizeofHeader < buffer.length
  · have hpos : 0 < buffer.length := Nat.zero_lt_of_lt hlength
    have hne : buffer ≠ [] := List.ne_nil_of_length_pos hpos
    have hcall : smbiosGetFirstStructureOfType buffer type (top buffer) =
        if typeAt buffer 0 = type then fun _ => some (.ok (top buffer))
        else smbiosGetNextStructureOfType buffer type (top buffer) := by
      funext fuel
      rw [smbiosGetFirstStructureOfType, if_pos ⟨rfl, hlength⟩, top, hasType_at hpos]
      by_cases htype : typeAt buffer 0 = type
      · rw [decide_eq_true htype, if_pos htype]
      · rw [decide_eq_false htype, if_neg htype]
    rw [hcall]
    by_cases htype : typeAt buffer 0 = type
    · rw [if_pos htype]
      exact iff_of_true ⟨_, 0, rfl⟩ fun _ h => absurd htype h
    · rw [if_neg htype, exists_returns_nextOfType_top]
      exact ⟨fun h _ _ => h hne, fun h _ => h hlength htype⟩
  · refine iff_of_true ⟨⟨none, buffer.length⟩, 0, ?_⟩ fun h => absurd h hlength
    rw [smbiosGetFirstStructureOfType, if_neg fun h => hlength h.2]
    rfl

/-- `smbios_get_structure_with_handle` from the start of a table stays within it, and returns the
structure at which the search stops. -/
theorem returns_withHandle_top {buffer : List UInt8} (handle : ℕ)
    (h : sizeofHeader ≤ buffer.length) :
    ∃ o, Returns (smbiosGetStructureWithHandle buffer handle (top buffer))
        (.ok (cursorAt buffer.length o)) ∧
      ∀ q, o = some q ↔
        Follows buffer (SkipsHandle buffer handle) 0 q ∧ ¬ SkipsHandle buffer handle q :=
  returns_withHandle handle (p := 0) (by rwa [Nat.zero_add])

/-- A table that is too short for a header has no structure with a handle. -/
theorem withHandle_top_of_lt {buffer : List UInt8} {handle : ℕ}
    (h : buffer.length < sizeofHeader) :
    smbiosGetStructureWithHandle buffer handle (top buffer) =
      fun _ => some (.ok ⟨none, buffer.length⟩) := by
  funext fuel
  rw [smbiosGetStructureWithHandle, if_neg fun h' => absurd h'.2 (not_le.mpr h)]
  rfl

/-- The DIMM with an identifier is looked up within the table when the search stops at a memory
device whose fields and strings are. -/
def LookupInside (buffer : List UInt8) (physicalId : ℕ) : Prop :=
  ∀ p, sizeofHeader ≤ buffer.length → Follows buffer (SkipsHandle buffer physicalId) 0 p →
    ¬ SkipsHandle buffer physicalId p → typeAt buffer p = smbiosStructTypeMemoryDevice →
      DetailsInside buffer p

/-- The details of what the search for a handle found. -/
private theorem inBounds_detailsOfStructure {buffer : List UInt8} {o : Option ℕ}
    (ho : ∀ p, o = some p → p < buffer.length) :
    InBounds (detailsOfStructure buffer (cursorAt buffer.length o)) ↔
      ∀ p, o = some p → typeAt buffer p = smbiosStructTypeMemoryDevice →
        DetailsInside buffer p := by
  cases o with
  | none => exact iff_of_true (inBounds_ok _) fun p hp => nomatch hp
  | some p =>
    simp only [cursorAt_some, detailsOfStructure]
    rw [hasType_at (ho p rfl), ok_bind]
    by_cases htype : typeAt buffer p = smbiosStructTypeMemoryDevice
    · rw [decide_eq_true htype, if_pos rfl, inBounds_bind]
      constructor
      · rintro ⟨details, hdetails, -⟩ q hq -
        obtain rfl := Option.some.inj hq
        exact inBounds_memoryDeviceToNvmDetails.mp ⟨details, hdetails⟩
      · intro h
        obtain ⟨details, hdetails⟩ := inBounds_memoryDeviceToNvmDetails.mpr (h p rfl htype)
        exact ⟨details, hdetails, inBounds_ok _⟩
    · rw [decide_eq_false htype, if_neg Bool.false_ne_true]
      refine iff_of_true (inBounds_ok _) fun q hq => ?_
      obtain rfl := Option.some.inj hq
      exact fun h => absurd h htype

/-- `get_dimm_details_from_smbios_table` terminates, and stays within the table under the condition
of `LookupInside`. -/
theorem exists_returns_getDimmDetails_iff {buffer : List UInt8} {physicalId : ℕ} :
    (∃ d, Returns (getDimmDetailsFromSmbiosTable buffer physicalId) (.ok d)) ↔
      LookupInside buffer physicalId := by
  have hreturns : ∀ {c : Access Cursor} {d : Access (Option NvmDetails)},
      Returns (smbiosGetStructureWithHandle buffer physicalId (top buffer)) c →
        (Returns (getDimmDetailsFromSmbiosTable buffer physicalId) d ↔
          (c >>= detailsOfStructure buffer) = d) := by
    intro c d hc
    have hmono : FuelMono (smbiosGetStructureWithHandle buffer physicalId (top buffer)) := by
      intro m n r hmn h
      rw [smbiosGetStructureWithHandle] at h ⊢
      split_ifs at h ⊢
      · exact runLoop_mono hmn h
      · exact h
    have hmap : Returns (getDimmDetailsFromSmbiosTable buffer physicalId) d ↔
        ∃ c, Returns (smbiosGetStructureWithHandle buffer physicalId (top buffer)) c ∧
          (c >>= detailsOfStructure buffer) = d := returns_map_iff
    rw [hmap]
    constructor
    · rintro ⟨c', hc', rfl⟩
      rw [hc.unique hmono hc']
    · exact fun h => ⟨c, hc, h⟩
  rcases Nat.lt_or_ge buffer.length sizeofHeader with hlt | hge
  · have hc : Returns (smbiosGetStructureWithHandle buffer physicalId (top buffer))
        (.ok ⟨none, buffer.length⟩) := by
      rw [withHandle_top_of_lt hlt]
      exact ⟨0, rfl⟩
    exact iff_of_true ⟨none, (hreturns hc).mpr rfl⟩ fun p h => absurd h (not_le.mpr hlt)
  · obtain ⟨o, hc, ho⟩ := returns_withHandle_top physicalId hge
    have hlt : ∀ p, o = some p → p < buffer.length := fun p hp =>
      ((ho p).mp hp).1.lt_length (Nat.lt_of_lt_of_le (Nat.succ_pos 3) hge)
    have hdetails := inBounds_detailsOfStructure hlt
    constructor
    · rintro ⟨d, hd⟩ p - hp hskip htype
      exact hdetails.mp ⟨d, (hreturns hc).mp hd⟩ p ((ho p).mpr ⟨hp, hskip⟩) htype
    · intro h
      obtain ⟨d, hd⟩ := hdetails.mpr fun p hp htype =>
        h p hge ((ho p).mp hp).1 ((ho p).mp hp).2 htype
      exact ⟨d, (hreturns hc).mpr hd⟩

/-! ### All functions -/

/-- The functions return when they are called with the table, and all their reads are within it. -/
structure ReadsInside (buffer : List UInt8) (type handle stringNumber physicalId : ℕ) : Prop where
  /-- `smbios_get_first_structure_of_type`. -/
  firstOfType : ∃ c, Returns (smbiosGetFirstStructureOfType buffer type (top buffer)) (.ok c)
  /-- `smbios_get_next_structure_of_type`. -/
  nextOfType : ∃ c, Returns (smbiosGetNextStructureOfType buffer type (top buffer)) (.ok c)
  /-- `smbios_get_structure_with_handle`. -/
  withHandle : ∃ c, Returns (smbiosGetStructureWithHandle buffer handle (top buffer)) (.ok c)
  /-- `smbios_get_structure_string`. -/
  structureString : InBounds (smbiosGetStructureString buffer 0 buffer.length stringNumber)
  /-- `get_dimm_details_from_smbios_table`. -/
  details : ∃ d, Returns (getDimmDetailsFromSmbiosTable buffer physicalId) (.ok d)

/-- The tables that the functions do not leave. -/
structure StaysInside (buffer : List UInt8) (type stringNumber physicalId : ℕ) : Prop where
  /-- No structure that the search for the type leaves starts with the last byte. -/
  search : SearchInside buffer type 0
  /-- The length of the first structure is in the table. -/
  length : 1 < buffer.length
  /-- The strings that the search for a string leaves behind end before the last byte. -/
  strings : StringInside buffer 0 stringNumber
  /-- The memory device that is looked up has its fields and strings in the table. -/
  lookup : LookupInside buffer physicalId

/-- The functions terminate on every table, and stay within it exactly when the table meets the
conditions of `StaysInside`. -/
theorem readsInside_iff (buffer : List UInt8) (type handle stringNumber physicalId : ℕ) :
    ReadsInside buffer type handle stringNumber physicalId ↔
      StaysInside buffer type stringNumber physicalId := by
  have hstring : InBounds (smbiosGetStructureString buffer 0 buffer.length stringNumber) ↔
      1 < buffer.length ∧ StringInside buffer 0 stringNumber :=
    inBounds_smbiosGetStructureString (p := 0)
  constructor
  · intro h
    obtain ⟨hlength, hstrings⟩ := hstring.mp h.structureString
    have hne : buffer ≠ [] := List.ne_nil_of_length_pos (Nat.zero_lt_of_lt hlength)
    exact
      { search := exists_returns_nextOfType_top.mp h.nextOfType hne
        length := hlength
        strings := hstrings
        lookup := exists_returns_getDimmDetails_iff.mp h.details }
  · intro h
    exact
      { firstOfType := exists_returns_firstOfType_top.mpr fun _ _ => h.search
        nextOfType := exists_returns_nextOfType_top.mpr fun _ => h.search
        withHandle := by
          rcases Nat.lt_or_ge buffer.length sizeofHeader with hlt | hge
          · rw [withHandle_top_of_lt hlt]
            exact ⟨_, 0, rfl⟩
          · obtain ⟨o, ho, -⟩ := returns_withHandle_top handle hge
            exact ⟨_, ho⟩
        structureString := hstring.mpr ⟨h.length, h.strings⟩
        details := exists_returns_getDimmDetails_iff.mpr h.lookup }

/-- A structure without strings, followed by one byte of another: the search for a memory device
reads the length of the second structure, behind the table. -/
theorem not_readsInside_cutOff : ¬ ReadsInside [16, 4, 1, 0, 0, 0, 4] 17 0 1 1 := by
  intro h
  have hinside := exists_returns_nextOfType_top.mp h.nextOfType (by decide)
  have hnext : GoesOn [16, 4, 1, 0, 0, 0, 4] (SkipsType [16, 4, 1, 0, 0, 0, 4] 17 0) 0 6 :=
    ⟨Or.inl rfl, by decide⟩
  exact hinside 6 (Relation.ReflTransGen.single hnext) (Or.inr (by decide)) rfl

end IxpDimm.Smbios
