import IxpDimm.Smbios.Walk
import Mathlib.Logic.Function.Iterate

/-!
# Strings of SMBIOS structures, and the details of a memory device

The string functions of `smbios.c`, and the lookup of `smbios_utilities.c` that fills the details of
a DIMM from its memory device structure.  As for the structures, one step of a search for a string
is said once (`nextStringStart`, `smbiosGetNextString_at`); the string that a search finds is the
iterate `stringAt`, and the searches that stay within the table are those of `StringInside`.
-/

namespace IxpDimm.Smbios

open Foundation

/-! ### The source -/

/-- The loop of `smbios_get_next_string`, from the character `pCursor` with `left` passes left. -/
def nextStringLoop (buffer : List UInt8) : ℕ → ℕ → Bool → Access (Option ℕ)
  | _, 0, _ => .ok none
  | pCursor, _ + 1, true => do
    let c ← readByte buffer pCursor
    pure (if c ≠ 0 then some pCursor else none)
  | pCursor, left + 1, false => do
    let c ← readByte buffer pCursor
    nextStringLoop buffer (pCursor + 1) left (decide (c = 0))

/-- `smbios_get_next_string`. -/
def smbiosGetNextString (buffer : List UInt8) (pCurrentStr remaining : ℕ) : Access (Option ℕ) :=
  nextStringLoop buffer pCurrentStr remaining false

/-- The `for` loop of `smbios_get_structure_string`, with its passes left. -/
def structureStringLoop (buffer : List UInt8) (remaining : ℕ) :
    ℕ → Option ℕ → Access (Option ℕ)
  | 0, pStr => .ok pStr
  | _ + 1, none => .ok none
  | passes + 1, some p => do
    let next ← smbiosGetNextString buffer p remaining
    structureStringLoop buffer remaining passes next

/-- The start of the first string, unless the string list is empty or cut off. -/
def firstString (buffer : List UInt8) (pStr remaining : ℕ) : Access (Option ℕ) := do
  let c ← readByte buffer pStr
  if c = 0 then
    if remaining < 2 then pure none
    else do
      let second ← readByte buffer (pStr + 1)
      pure (if second = 0 then none else some pStr)
  else pure (some pStr)

/-- `smbios_get_structure_string`. -/
def smbiosGetStructureString (buffer : List UInt8) (pStructure dataLength stringNumber : ℕ) :
    Access (Option ℕ) := do
  let length ← readByte buffer (pStructure + 1)
  if length.toNat < dataLength ∧ 0 < stringNumber then do
    let first ← firstString buffer (pStructure + length.toNat) (dataLength - length.toNat)
    structureStringLoop buffer (dataLength - length.toNat) (stringNumber - 1) first
  else pure none

/-- The loop of `s_strcpy`, from the character `src` with room for `room` more. -/
def sStrcpy (buffer : List UInt8) : ℕ → ℕ → Access (List UInt8)
  | _, 0 => .ok []
  | src, room + 1 => do
    let c ← readByte buffer src
    if c = 0 then pure []
    else do
      let rest ← sStrcpy buffer (src + 1) room
      pure (c :: rest)

/-- `smbios_copy_structure_string_to_buffer`: what a buffer of `bufLength` characters holds. -/
def smbiosCopyStructureStringToBuffer (buffer : List UInt8)
    (pStructure dataLength stringNumber bufLength : ℕ) : Access (List UInt8) := do
  let pStr ← smbiosGetStructureString buffer pStructure dataLength stringNumber
  match pStr with
  | none => pure []
  | some p => sStrcpy buffer p (bufLength - 1)

/-- The fields of `struct nvm_details`. -/
structure NvmDetails where
  /-- The SMBIOS handle. -/
  id : ℕ
  /-- The memory type. -/
  type : ℕ
  /-- The bits of the type detail. -/
  typeDetailBits : ℕ
  /-- The form factor. -/
  formFactor : ℕ
  /-- The width of the data. -/
  dataWidth : ℕ
  /-- The width with the error correction bits. -/
  totalWidth : ℕ
  /-- The speed. -/
  speed : ℕ
  /-- The size in bytes. -/
  size : ℕ
  /-- The part number. -/
  partNumber : List UInt8
  /-- The socket or board position. -/
  deviceLocator : List UInt8
  /-- The bank label. -/
  bankLabel : List UInt8
  /-- The manufacturer. -/
  manufacturer : List UInt8
  deriving DecidableEq, Repr

/-- `smbios_get_memory_device_size_in_bytes`. -/
def smbiosGetMemoryDeviceSizeInBytes (buffer : List UInt8) (p : ℕ) : Access ℕ := do
  let size ← readNumber buffer (p + 12) 2
  if size = 0xFFFF then pure (2 ^ 64 - 1)
  else if size = 0x7FFF then do
    let extendedSize ← readNumber buffer (p + 28) 4
    pure (extendedSize % 2 ^ 31 * 2 ^ 20)
  else if size / 2 ^ 15 = 1 then pure (size % 2 ^ 15 * 2 ^ 10)
  else pure (size % 2 ^ 15 * 2 ^ 20)

/-- `smbios_memory_device_to_nvm_details`. -/
def smbiosMemoryDeviceToNvmDetails (buffer : List UInt8) (p dataLength : ℕ) :
    Access NvmDetails := do
  let id ← readNumber buffer (p + 2) 2
  let type ← readByte buffer (p + 18)
  let typeDetailBits ← readNumber buffer (p + 19) 2
  let formFactor ← readByte buffer (p + 14)
  let dataWidth ← readNumber buffer (p + 10) 2
  let totalWidth ← readNumber buffer (p + 8) 2
  let speed ← readNumber buffer (p + 21) 2
  let size ← smbiosGetMemoryDeviceSizeInBytes buffer p
  let partNumberStrNum ← readByte buffer (p + 26)
  let partNumber ←
    smbiosCopyStructureStringToBuffer buffer p dataLength partNumberStrNum.toNat 21
  let deviceLocatorStrNum ← readByte buffer (p + 16)
  let deviceLocator ←
    smbiosCopyStructureStringToBuffer buffer p dataLength deviceLocatorStrNum.toNat 128
  let bankLocatorStrNum ← readByte buffer (p + 17)
  let bankLabel ←
    smbiosCopyStructureStringToBuffer buffer p dataLength bankLocatorStrNum.toNat 128
  let manufacturerStrNum ← readByte buffer (p + 23)
  let manufacturer ←
    smbiosCopyStructureStringToBuffer buffer p dataLength manufacturerStrNum.toNat 256
  pure ⟨id, type.toNat, typeDetailBits, formFactor.toNat, dataWidth, totalWidth, speed, size,
    partNumber, deviceLocator, bankLabel, manufacturer⟩

/-- `SMBIOS_STRUCT_TYPE_MEMORY_DEVICE`. -/
def smbiosStructTypeMemoryDevice : ℕ := 17

/-- What `get_dimm_details_from_smbios_table` does with the structure that has the handle; `none` is
`NVM_ERR_BADDEVICE`. -/
def detailsOfStructure (buffer : List UInt8) (device : Cursor) : Access (Option NvmDetails) :=
  match device.pStruct with
  | none => .ok none
  | some p => do
    let found ← hasType buffer smbiosStructTypeMemoryDevice device
    if found then do
      let details ← smbiosMemoryDeviceToNvmDetails buffer p device.remaining
      pure (some details)
    else pure none

/-- `get_dimm_details_from_smbios_table`. -/
def getDimmDetailsFromSmbiosTable (buffer : List UInt8) (physicalId fuel : ℕ) :
    Option (Access (Option NvmDetails)) :=
  (smbiosGetStructureWithHandle buffer physicalId ⟨some 0, buffer.length⟩ fuel).map fun device =>
    device >>= detailsOfStructure buffer

/-! ### The next string -/

/-- The zero that ends the string at `q`. -/
def stringEnd (buffer : List UInt8) (q : ℕ) : Option ℕ :=
  ((buffer.drop q).findIdx? (· = 0)).map (q + ·)

/-- The zero that ends a string, one byte further. -/
theorem stringEnd_of_lt {buffer : List UInt8} {q : ℕ} (h : q < buffer.length) :
    stringEnd buffer q = if ofList buffer q = 0 then some q else stringEnd buffer (q + 1) := by
  rw [stringEnd, List.drop_eq_getElem_cons h, List.findIdx?_cons, ofList,
    List.getD_eq_getElem _ _ h]
  by_cases hzero : buffer[q] = 0
  · rw [if_pos hzero, if_pos (by simpa using hzero)]
    rfl
  · rw [if_neg hzero, if_neg (by simpa using hzero), stringEnd, Option.map_map]
    congr 1
    funext i
    simp only [Function.comp_apply]
    omega

/-- No string ends behind the table. -/
theorem stringEnd_of_le {buffer : List UInt8} {q : ℕ} (h : buffer.length ≤ q) :
    stringEnd buffer q = none := by
  rw [stringEnd, List.drop_of_length_le h]
  rfl

/-- The byte behind the string at `q` is in the table. -/
def StringEnds (buffer : List UInt8) (q : ℕ) : Prop :=
  ∃ z, stringEnd buffer q = some z ∧ z + 1 < buffer.length

/-- The start of the string behind the one at `q`. -/
def nextStringStart (buffer : List UInt8) (q : ℕ) : Option ℕ :=
  (stringEnd buffer q).bind fun z => if ofList buffer (z + 1) = 0 then none else some (z + 1)

/-- There is no byte other than zero behind the table. -/
private theorem lt_length_of_ne_zero {buffer : List UInt8} {q : ℕ} (h : ofList buffer q ≠ 0) :
    q < buffer.length := by
  by_contra hle
  exact h (List.getD_eq_default _ _ (not_lt.mp hle))

/-- The zero that ends a string is behind its start. -/
private theorem le_of_stringEnd {buffer : List UInt8} {q z : ℕ} (h : stringEnd buffer q = some z) :
    q ≤ z := by
  obtain ⟨i, -, rfl⟩ := Option.map_eq_some_iff.mp h
  exact Nat.le_add_right q i

/-- The next string is further on, and within the table. -/
theorem nextStringStart_bounds {buffer : List UInt8} {q q' : ℕ}
    (h : nextStringStart buffer q = some q') : q < q' ∧ q' < buffer.length := by
  obtain ⟨z, hz, hnext⟩ := Option.bind_eq_some_iff.mp h
  split_ifs at hnext with hzero
  obtain rfl := Option.some.inj hnext
  exact ⟨Nat.lt_succ_of_le (le_of_stringEnd hz), lt_length_of_ne_zero hzero⟩

/-- The loop of `smbios_get_next_string`, which may run to the end of the table and beyond. -/
private theorem nextStringLoop_at {buffer : List UInt8} {q left : ℕ} (hq : q ≤ buffer.length)
    (hleft : buffer.length - q ≤ left) :
    ((StringEnds buffer q ∨ left = buffer.length - q) →
        nextStringLoop buffer q left false = .ok (nextStringStart buffer q)) ∧
      (¬ (StringEnds buffer q ∨ left = buffer.length - q) →
        nextStringLoop buffer q left false = .error buffer.length) := by
  induction left generalizing q with
  | zero =>
    have hend : nextStringStart buffer q = none := by
      rw [nextStringStart, stringEnd_of_le (by omega)]
      rfl
    rw [hend]
    exact ⟨fun _ => rfl, fun h => absurd (Or.inr (by omega)) h⟩
  | succ left ih =>
    rw [nextStringLoop]
    rcases Nat.lt_or_ge q buffer.length with hlt | hge
    · rw [readByte_of_lt hlt, ok_bind]
      by_cases hzero : ofList buffer q = 0
      · -- the string ends here, and the next byte decides
        have hend : stringEnd buffer q = some q := by rw [stringEnd_of_lt hlt, if_pos hzero]
        rw [decide_eq_true hzero, nextStringStart, hend]
        rcases Nat.lt_or_ge (q + 1) buffer.length with hlt' | hge'
        · have hends : StringEnds buffer q := ⟨q, hend, hlt'⟩
          obtain ⟨left, rfl⟩ : ∃ k, left = k + 1 := ⟨left - 1, by omega⟩
          refine ⟨fun _ => ?_, fun h => absurd (Or.inl hends) h⟩
          rw [nextStringLoop, readByte_of_lt hlt', ok_bind, pure_eq_ok, Option.bind_some, ite_not]
        · have hnot : ¬ StringEnds buffer q := by
            rintro ⟨z, hz, hz1⟩
            rw [hend] at hz
            obtain rfl := Option.some.inj hz
            omega
          have hbehind : ofList buffer (q + 1) = 0 := List.getD_eq_default _ _ hge'
          rw [Option.bind_some, if_pos hbehind]
          constructor
          · rintro (h | h)
            · exact absurd h hnot
            · obtain rfl : left = 0 := by omega
              rfl
          · intro h
            obtain ⟨left, rfl⟩ : ∃ k, left = k + 1 :=
              ⟨left - 1, by have := fun h' => h (Or.inr h'); omega⟩
            rw [nextStringLoop, readByte_of_le hge', error_bind]
            congr 1
            omega
      · -- the string goes on
        have hend : stringEnd buffer q = stringEnd buffer (q + 1) := by
          rw [stringEnd_of_lt hlt, if_neg hzero]
        have hends : (StringEnds buffer q ∨ left + 1 = buffer.length - q) ↔
            (StringEnds buffer (q + 1) ∨ left = buffer.length - (q + 1)) := by
          rw [StringEnds, StringEnds, hend]
          exact or_congr Iff.rfl (by omega)
        rw [decide_eq_false hzero, hends, nextStringStart, hend]
        exact ih (by omega) (by omega)
    · have hnot : ¬ StringEnds buffer q := by
        rintro ⟨z, hz, -⟩
        rw [stringEnd_of_le hge] at hz
        cases hz
      rw [readByte_of_le hge, error_bind]
      constructor
      · rintro (h | h)
        · exact absurd h hnot
        · omega
      · intro _
        congr 1
        omega

/-- `smbios_get_next_string` reads the byte behind the table when the string does not end before it
and the remaining length is not that of the string. -/
theorem smbiosGetNextString_at {buffer : List UInt8} {q remaining : ℕ} (hq : q ≤ buffer.length)
    (h : buffer.length - q ≤ remaining) {result : Option ℕ} :
    smbiosGetNextString buffer q remaining = .ok result ↔
      (StringEnds buffer q ∨ remaining = buffer.length - q) ∧
        result = nextStringStart buffer q := by
  obtain ⟨hok, herror⟩ := nextStringLoop_at hq h
  by_cases hends : StringEnds buffer q ∨ remaining = buffer.length - q
  · rw [smbiosGetNextString, hok hends]
    constructor
    · intro heq
      exact ⟨hends, (Except.ok.inj heq).symm⟩
    · rintro ⟨-, rfl⟩
      rfl
  · rw [smbiosGetNextString, herror hends]
    exact iff_of_false (by rintro ⟨⟩) fun h => hends h.1

/-! ### The string with a number -/

/-- From a string, or none, to the next one. -/
def stepString (buffer : List UInt8) (pStr : Option ℕ) : Option ℕ :=
  pStr.bind (nextStringStart buffer)

/-- There is nothing behind no string. -/
theorem stepString_iterate_none (buffer : List UInt8) (k : ℕ) :
    (stepString buffer)^[k] none = none :=
  Function.iterate_fixed rfl k

/-- The first string of the structure at `p`. -/
def firstStringAt (buffer : List UInt8) (p : ℕ) : Option ℕ :=
  let pStr := p + (ofList buffer (p + 1)).toNat
  if ofList buffer pStr = 0 ∧ ofList buffer (pStr + 1) = 0 then none else some pStr

/-- The string of the structure at `p` that has a number; numbers start with one. -/
def stringAt (buffer : List UInt8) (p : ℕ) : ℕ → Option ℕ
  | 0 => none
  | k + 1 => (stepString buffer)^[k] (firstStringAt buffer p)

/-- Every string of the structure at `p` that the search for the string with the number `n` leaves
behind, other than the first one, ends before the last byte of the table. -/
def StringInside (buffer : List UInt8) (p n : ℕ) : Prop :=
  ∀ k q, 0 < k → k + 1 < n → (stepString buffer)^[k] (firstStringAt buffer p) = some q →
    StringEnds buffer q

/-- The first string starts behind the formatted section, within the table. -/
theorem firstStringAt_bounds {buffer : List UInt8} {p q : ℕ} (h : firstStringAt buffer p = some q) :
    q = p + (ofList buffer (p + 1)).toNat ∧ q < buffer.length := by
  simp only [firstStringAt] at h
  split_ifs at h with hzero
  obtain rfl := Option.some.inj h
  refine ⟨rfl, ?_⟩
  rcases not_and_or.mp hzero with hne | hne
  · exact lt_length_of_ne_zero hne
  · exact Nat.lt_of_succ_lt (lt_length_of_ne_zero hne)

/-- The later strings are further on than the first one. -/
private theorem stepString_iterate_bounds {buffer : List UInt8} {k q q' : ℕ}
    (h : (stepString buffer)^[k + 1] (some q) = some q') : q < q' ∧ q' < buffer.length := by
  induction k generalizing q' with
  | zero => exact nextStringStart_bounds h
  | succ k ih =>
    rw [Function.iterate_succ_apply'] at h
    obtain ⟨q₁, hq₁, hnext⟩ := Option.bind_eq_some_iff.mp h
    have h₁ := ih hq₁
    have h₂ := nextStringStart_bounds hnext
    omega

/-- The loop of `smbios_get_structure_string`. -/
private theorem structureStringLoop_eq_ok {buffer : List UInt8} {remaining passes : ℕ}
    {pStr result : Option ℕ}
    (h : ∀ q, pStr = some q → q ≤ buffer.length ∧ buffer.length - q ≤ remaining) :
    structureStringLoop buffer remaining passes pStr = .ok result ↔
      (∀ k q, k < passes → (stepString buffer)^[k] pStr = some q →
        StringEnds buffer q ∨ remaining = buffer.length - q) ∧
      result = (stepString buffer)^[passes] pStr := by
  induction passes generalizing pStr with
  | zero =>
    rw [structureStringLoop]
    constructor
    · intro heq
      exact ⟨fun k q hk => absurd hk (Nat.not_lt_zero k), (Except.ok.inj heq).symm⟩
    · rintro ⟨-, rfl⟩
      rfl
  | succ passes ih =>
    cases pStr with
    | none =>
      simp only [structureStringLoop, stepString_iterate_none, Except.ok.injEq, reduceCtorEq,
        false_implies, implies_true, true_and]
      exact eq_comm
    | some q =>
      obtain ⟨hq, hremaining⟩ := h q rfl
      rw [structureStringLoop]
      have hnext : ∀ q', nextStringStart buffer q = some q' →
          q' ≤ buffer.length ∧ buffer.length - q' ≤ remaining := by
        intro q' hq'
        have := nextStringStart_bounds hq'
        omega
      constructor
      · intro heq
        cases hread : smbiosGetNextString buffer q remaining with
        | error a =>
          rw [hread, error_bind] at heq
          cases heq
        | ok next =>
          rw [hread, ok_bind] at heq
          obtain ⟨hends, rfl⟩ := (smbiosGetNextString_at hq hremaining).mp hread
          obtain ⟨hrest, hresult⟩ := (ih hnext).mp heq
          refine ⟨fun k q' hk hq' => ?_, hresult⟩
          cases k with
          | zero =>
            obtain rfl := Option.some.inj hq'
            exact hends
          | succ k => exact hrest k q' (by omega) hq'
      · rintro ⟨hall, hresult⟩
        have hends := hall 0 q (Nat.succ_pos _) rfl
        rw [(smbiosGetNextString_at hq hremaining).mpr ⟨hends, rfl⟩, ok_bind]
        exact (ih hnext).mpr ⟨fun k q' hk hq' => hall (k + 1) q' (by omega) hq', hresult⟩

/-- The first string, when the formatted section ends within the table. -/
private theorem firstString_at {buffer : List UInt8} {p : ℕ} (hp : p ≤ buffer.length)
    (h : (ofList buffer (p + 1)).toNat < buffer.length - p) :
    firstString buffer (p + (ofList buffer (p + 1)).toNat)
      (buffer.length - p - (ofList buffer (p + 1)).toNat) = .ok (firstStringAt buffer p) := by
  simp only [firstStringAt, firstString]
  rw [readByte_of_lt (by omega), ok_bind]
  by_cases hzero : ofList buffer (p + (ofList buffer (p + 1)).toNat) = 0
  · rw [if_pos hzero]
    by_cases hlast : buffer.length - p - (ofList buffer (p + 1)).toNat < 2
    · -- the buffer is cut off behind the first zero
      have hbehind : ofList buffer (p + (ofList buffer (p + 1)).toNat + 1) = 0 :=
        List.getD_eq_default _ _ (by omega)
      rw [if_pos hlast, if_pos ⟨hzero, hbehind⟩]
      rfl
    · rw [if_neg hlast, readByte_of_lt (by omega), ok_bind, pure_eq_ok]
      by_cases hsecond : ofList buffer (p + (ofList buffer (p + 1)).toNat + 1) = 0
      · rw [if_pos hsecond, if_pos ⟨hzero, hsecond⟩]
      · rw [if_neg hsecond, if_neg fun h => hsecond h.2]
  · rw [if_neg hzero, if_neg fun h => hzero h.1]
    rfl

/-- `smbios_get_structure_string` of a structure whose length is in the table. -/
theorem smbiosGetStructureString_eq_ok {buffer : List UInt8} {p n : ℕ}
    (hp : p + 1 < buffer.length) {result : Option ℕ} :
    smbiosGetStructureString buffer p (buffer.length - p) n = .ok result ↔
      StringInside buffer p n ∧ result = stringAt buffer p n := by
  rw [smbiosGetStructureString, readByte_of_lt hp, ok_bind]
  by_cases hcall : (ofList buffer (p + 1)).toNat < buffer.length - p ∧ 0 < n
  · obtain ⟨hlength, hn⟩ := hcall
    obtain ⟨n, rfl⟩ : ∃ k, n = k + 1 := ⟨n - 1, by omega⟩
    rw [if_pos ⟨hlength, hn⟩, firstString_at (by omega) hlength, ok_bind,
      structureStringLoop_eq_ok fun q hq => by have := firstStringAt_bounds hq; omega]
    refine and_congr_left fun _ => ⟨fun h k q hk hkn hq => ?_, fun h k q hk hq => ?_⟩
    · -- a later string has fewer bytes behind it than the length that is handed on
      refine (h k q (by omega) hq).resolve_right ?_
      obtain ⟨k, rfl⟩ : ∃ j, k = j + 1 := ⟨k - 1, by omega⟩
      cases hfirst : firstStringAt buffer p with
      | none => rw [hfirst, stepString_iterate_none] at hq; cases hq
      | some first =>
        rw [hfirst] at hq
        have := firstStringAt_bounds hfirst
        have := stepString_iterate_bounds hq
        omega
    · rcases Nat.eq_zero_or_pos k with rfl | hpos
      · have := firstStringAt_bounds hq
        omega
      · exact Or.inl (h k q hpos (by omega) hq)
  · rw [if_neg hcall]
    have hnone : stringAt buffer p n = none ∧ StringInside buffer p n := by
      rcases not_and_or.mp hcall with hlength | hn
      · have hfirst : firstStringAt buffer p = none := by
          cases hfirst : firstStringAt buffer p with
          | none => rfl
          | some q => have := firstStringAt_bounds hfirst; omega
        constructor
        · cases n with
          | zero => rfl
          | succ k => rw [stringAt, hfirst, stepString_iterate_none]
        · intro k q _ _ hq
          rw [hfirst, stepString_iterate_none] at hq
          cases hq
      · obtain rfl : n = 0 := by omega
        exact ⟨rfl, fun k q _ hk => absurd hk (Nat.not_lt_zero _)⟩
    rw [hnone.1, pure_eq_ok, Except.ok.injEq]
    exact ⟨fun h => ⟨hnone.2, h.symm⟩, fun h => h.2.symm⟩

/-- The search for a string stays within the table when the length and the strings behind the first
one do. -/
theorem inBounds_smbiosGetStructureString {buffer : List UInt8} {p n : ℕ} :
    InBounds (smbiosGetStructureString buffer p (buffer.length - p) n) ↔
      p + 1 < buffer.length ∧ StringInside buffer p n := by
  rcases Nat.lt_or_ge (p + 1) buffer.length with hlt | hge
  · rw [InBounds]
    simp only [smbiosGetStructureString_eq_ok hlt]
    exact ⟨fun ⟨_, h, _⟩ => ⟨hlt, h⟩, fun h => ⟨_, h.2, rfl⟩⟩
  · rw [smbiosGetStructureString, readByte_of_le hge, error_bind]
    exact iff_of_false (not_inBounds_error _) fun h => absurd h.1 (not_lt.mpr hge)

/-! ### The details of a memory device -/

/-- The first `room` characters of the string at `q`, or as many as it has, are in the table. -/
def CopyInside (buffer : List UInt8) (q room : ℕ) : Prop :=
  (∃ z, stringEnd buffer q = some z) ∨ q + room ≤ buffer.length

/-- The copy of a string stays within the table when the string ends there or the room does. -/
theorem inBounds_sStrcpy {buffer : List UInt8} {q room : ℕ} (hq : q ≤ buffer.length) :
    InBounds (sStrcpy buffer q room) ↔ CopyInside buffer q room := by
  induction room generalizing q with
  | zero => exact iff_of_true (inBounds_ok _) (Or.inr hq)
  | succ room ih =>
    rw [sStrcpy, CopyInside]
    rcases Nat.lt_or_ge q buffer.length with hlt | hge
    · rw [readByte_of_lt hlt, ok_bind, stringEnd_of_lt hlt]
      by_cases hzero : ofList buffer q = 0
      · rw [if_pos hzero, if_pos hzero]
        exact iff_of_true (inBounds_ok _) (Or.inl ⟨q, rfl⟩)
      · rw [if_neg hzero, if_neg hzero, inBounds_bind]
        have hrest := ih (q := q + 1) hlt
        rw [CopyInside, show q + 1 + room = q + (room + 1) by omega] at hrest
        rw [← hrest]
        exact ⟨fun ⟨rest, h, _⟩ => ⟨rest, h⟩, fun ⟨rest, h⟩ => ⟨rest, h, inBounds_ok _⟩⟩
    · rw [readByte_of_le hge, error_bind, stringEnd_of_le hge]
      refine iff_of_false (not_inBounds_error _) ?_
      rintro (⟨z, hz⟩ | h)
      · cases hz
      · omega

/-- The string of the structure at `p` with the number in the field at distance `field` is found,
and copied to a buffer of `bufLength` characters, within the table. -/
def CopyFits (buffer : List UInt8) (p field bufLength : ℕ) : Prop :=
  let number := (ofList buffer (p + field)).toNat
  StringInside buffer p number ∧
    ∀ q, stringAt buffer p number = some q → CopyInside buffer q (bufLength - 1)

/-- A string of a structure starts within the table. -/
theorem stringAt_lt {buffer : List UInt8} {p n q : ℕ} (h : stringAt buffer p n = some q) :
    q < buffer.length := by
  obtain ⟨k, rfl⟩ : ∃ k, n = k + 1 := by
    cases n with
    | zero => cases h
    | succ k => exact ⟨k, rfl⟩
  rw [stringAt] at h
  cases hfirst : firstStringAt buffer p with
  | none => rw [hfirst, stepString_iterate_none] at h; cases h
  | some first =>
    rw [hfirst] at h
    cases k with
    | zero =>
      obtain rfl := Option.some.inj h
      exact (firstStringAt_bounds hfirst).2
    | succ k => exact (stepString_iterate_bounds h).2

/-- `smbios_copy_structure_string_to_buffer` with the number in a field of the structure. -/
theorem inBounds_copyString {buffer : List UInt8} {p field bufLength : ℕ}
    (hp : p + 1 < buffer.length) :
    InBounds (smbiosCopyStructureStringToBuffer buffer p (buffer.length - p)
      (ofList buffer (p + field)).toNat bufLength) ↔ CopyFits buffer p field bufLength := by
  rw [smbiosCopyStructureStringToBuffer, inBounds_bind, CopyFits]
  simp only [smbiosGetStructureString_eq_ok hp]
  constructor
  · rintro ⟨_, ⟨hinside, rfl⟩, hcopy⟩
    refine ⟨hinside, fun q hq => ?_⟩
    rw [hq] at hcopy
    exact (inBounds_sStrcpy (stringAt_lt hq).le).mp hcopy
  · rintro ⟨hinside, hcopy⟩
    refine ⟨_, ⟨hinside, rfl⟩, ?_⟩
    cases hq : stringAt buffer p (ofList buffer (p + field)).toNat with
    | none => exact inBounds_ok _
    | some q => exact (inBounds_sStrcpy (stringAt_lt hq).le).mpr (hcopy q hq)

/-- The structure at `p` has the fields of a memory device that are read, and its four strings are
found and copied within the table. -/
structure DetailsInside (buffer : List UInt8) (p : ℕ) : Prop where
  /-- The fields up to the number of the part number. -/
  fields : p + 27 ≤ buffer.length
  /-- The extended size, when it is used. -/
  extendedSize : readLE (ofList buffer) (p + 12) 2 = 0x7FFF → p + 32 ≤ buffer.length
  /-- The part number. -/
  partNumber : CopyFits buffer p 26 21
  /-- The device locator. -/
  deviceLocator : CopyFits buffer p 16 128
  /-- The bank label. -/
  bankLabel : CopyFits buffer p 17 128
  /-- The manufacturer. -/
  manufacturer : CopyFits buffer p 23 256

/-- The size of a memory device is within the table when the extended size is, or is not used. -/
private theorem inBounds_memoryDeviceSize {buffer : List UInt8} {p : ℕ}
    (hp : p + 27 ≤ buffer.length) :
    InBounds (smbiosGetMemoryDeviceSizeInBytes buffer p) ↔
      (readLE (ofList buffer) (p + 12) 2 = 0x7FFF → p + 32 ≤ buffer.length) := by
  rw [smbiosGetMemoryDeviceSizeInBytes, readNumber_of_le (by omega), ok_bind]
  by_cases hunknown : readLE (ofList buffer) (p + 12) 2 = 0xFFFF
  · rw [if_pos hunknown, hunknown]
    exact iff_of_true (inBounds_ok _) fun h => absurd h (by decide)
  · rw [if_neg hunknown]
    by_cases hextended : readLE (ofList buffer) (p + 12) 2 = 0x7FFF
    · rw [if_pos hextended, inBounds_bind]
      constructor
      · rintro ⟨value, hvalue, -⟩ -
        have := (inBounds_readNumber (by decide)).mp ⟨value, hvalue⟩
        omega
      · intro h
        have hle := h hextended
        exact ⟨_, readNumber_of_le (by omega), inBounds_ok _⟩
    · rw [if_neg hextended]
      refine iff_of_true ?_ fun h => absurd h hextended
      split_ifs
      · exact inBounds_ok _
      · exact inBounds_ok _

/-- `smbios_memory_device_to_nvm_details` stays within the table when the fields and the strings of
the memory device do. -/
theorem inBounds_memoryDeviceToNvmDetails {buffer : List UInt8} {p : ℕ} :
    InBounds (smbiosMemoryDeviceToNvmDetails buffer p (buffer.length - p)) ↔
      DetailsInside buffer p := by
  rw [smbiosMemoryDeviceToNvmDetails]
  rcases Nat.lt_or_ge buffer.length (p + 27) with hlt | hp
  · refine iff_of_false ?_ fun h => absurd h.fields (not_le.mpr hlt)
    simp only [inBounds_bind]
    rintro ⟨_, -, _, -, _, -, _, -, _, -, _, -, _, -, _, -, number, hnumber, -⟩
    have := inBounds_readByte.mp ⟨number, hnumber⟩
    omega
  · simp only [readNumber_of_le (show p + 2 + 2 ≤ buffer.length by omega),
      readByte_of_lt (show p + 18 < buffer.length by omega),
      readNumber_of_le (show p + 19 + 2 ≤ buffer.length by omega),
      readByte_of_lt (show p + 14 < buffer.length by omega),
      readNumber_of_le (show p + 10 + 2 ≤ buffer.length by omega),
      readNumber_of_le (show p + 8 + 2 ≤ buffer.length by omega),
      readNumber_of_le (show p + 21 + 2 ≤ buffer.length by omega),
      readByte_of_lt (show p + 26 < buffer.length by omega),
      readByte_of_lt (show p + 16 < buffer.length by omega),
      readByte_of_lt (show p + 17 < buffer.length by omega),
      readByte_of_lt (show p + 23 < buffer.length by omega), ok_bind, inBounds_bind]
    constructor
    · rintro ⟨size, hsize, part, hpart, locator, hlocator, bank, hbank, maker, hmaker, -⟩
      exact
        { fields := hp
          extendedSize := (inBounds_memoryDeviceSize hp).mp ⟨size, hsize⟩
          partNumber := (inBounds_copyString (by omega)).mp ⟨part, hpart⟩
          deviceLocator := (inBounds_copyString (by omega)).mp ⟨locator, hlocator⟩
          bankLabel := (inBounds_copyString (by omega)).mp ⟨bank, hbank⟩
          manufacturer := (inBounds_copyString (by omega)).mp ⟨maker, hmaker⟩ }
    · intro h
      obtain ⟨size, hsize⟩ := (inBounds_memoryDeviceSize hp).mpr h.extendedSize
      obtain ⟨part, hpart⟩ := (inBounds_copyString (by omega)).mpr h.partNumber
      obtain ⟨locator, hlocator⟩ := (inBounds_copyString (by omega)).mpr h.deviceLocator
      obtain ⟨bank, hbank⟩ := (inBounds_copyString (by omega)).mpr h.bankLabel
      obtain ⟨maker, hmaker⟩ := (inBounds_copyString (by omega)).mpr h.manufacturer
      exact ⟨size, hsize, part, hpart, locator, hlocator, bank, hbank, maker, hmaker,
        inBounds_ok _⟩

end IxpDimm.Smbios
