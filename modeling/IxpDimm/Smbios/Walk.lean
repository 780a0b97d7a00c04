import IxpDimm.Foundation.BoundedReads
import IxpDimm.Foundation.WhileLoop
import Mathlib.Logic.Relation
import Mathlib.Tactic.Common

/-!
# Walking an SMBIOS table

The walkers of `smbios.c` over a table of `buffer.length` bytes.  A structure is its formatted
section, whose length is its second byte, followed by its strings; a pointer is the offset of what it
points at, and a pointer and the length behind it move together (`Cursor`).

Every walker reads the bytes it needs with `readByte`, so a read outside of the table is an error of
the model.  What one step of a walker does is said once, by the start of the next structure
(`nextStart`, `smbiosGetNextStructure_at`), and a search follows these starts as long as it skips
the structures it comes to (`Follows`).
-/

namespace IxpDimm.Smbios

open Foundation

/-- A pointer to a structure, and the length from it to the end of the table. -/
structure Cursor where
  /-- The offset of the structure, `none` for `NULL`. -/
  pStruct : Option ℕ
  /-- `*p_remaining_length`. -/
  remaining : ℕ
  deriving DecidableEq, Repr

/-! ### The walkers -/

/-- `smbios_get_byte_after_end_of_string_list`, from the byte `pByte` with `remaining` bytes left. -/
def smbiosGetByteAfterEndOfStringList (buffer : List UInt8) : ℕ → ℕ → ℕ → Access Cursor
  | _, 0, _ => .ok ⟨none, 0⟩
  | pByte, remaining + 1, nullsSeen =>
    if nullsSeen = 2 then .ok ⟨some pByte, remaining + 1⟩
    else do
      let byte ← readByte buffer pByte
      smbiosGetByteAfterEndOfStringList buffer (pByte + 1) remaining
        (if byte = 0 then nullsSeen + 1 else 0)

/-- `smbios_get_next_structure`. -/
def smbiosGetNextStructure (buffer : List UInt8) (current : Cursor) : Access Cursor :=
  match current.pStruct with
  | none => .ok ⟨none, current.remaining⟩
  | some p =>
    if 0 < current.remaining then do
      let length ← readByte buffer (p + 1)
      if length.toNat ≤ current.remaining then
        smbiosGetByteAfterEndOfStringList buffer (p + length.toNat)
          (current.remaining - length.toNat) 0
      else pure ⟨none, 0⟩
    else .ok ⟨none, current.remaining⟩

/-- `p_struct && p_struct->type == type`. -/
def hasType (buffer : List UInt8) (type : ℕ) (cursor : Cursor) : Access Bool :=
  match cursor.pStruct with
  | none => .ok false
  | some p => do
    let found ← readByte buffer p
    pure (decide (found.toNat = type))

/-- One pass of the loop in `smbios_get_next_structure_of_type`. -/
def nextOfTypePass (buffer : List UInt8) (type : ℕ) (current : Cursor) :
    Cursor ⊕ Access Cursor :=
  if 0 < current.remaining then
    match (do
      let next ← smbiosGetNextStructure buffer current
      let found ← hasType buffer type next
      pure (next, found) : Access (Cursor × Bool)) with
    | .error a => .inr (.error a)
    | .ok (next, found) => if found then .inr (.ok next) else .inl next
  else .inr (.ok current)

/-- `smbios_get_next_structure_of_type`. -/
def smbiosGetNextStructureOfType (buffer : List UInt8) (type : ℕ) (current : Cursor)
    (fuel : ℕ) : Option (Access Cursor) :=
  if current.pStruct.isSome ∧ 0 < current.remaining then
    runLoop (nextOfTypePass buffer type) fuel current
  else some (.ok ⟨none, current.remaining⟩)

/-- The size of `struct smbios_structure_header`. -/
def sizeofHeader : ℕ := 4

/-- `smbios_get_first_structure_of_type`. -/
def smbiosGetFirstStructureOfType (buffer : List UInt8) (type : ℕ) (current : Cursor)
    (fuel : ℕ) : Option (Access Cursor) :=
  if current.pStruct.isSome ∧ sizeofHeader < current.remaining then
    match hasType buffer type current with
    | .error a => some (.error a)
    | .ok true => some (.ok current)
    | .ok false => smbiosGetNextStructureOfType buffer type current fuel
  else some (.ok ⟨none, current.remaining⟩)

/-- One pass of the loop in `smbios_get_structure_with_handle`. -/
def withHandlePass (buffer : List UInt8) (handle : ℕ) (current : Cursor) : Cursor ⊕ Access Cursor :=
  match current.pStruct with
  | none => .inr (.ok current)
  | some p =>
    match readNumber buffer (p + 2) 2 with
    | .error a => .inr (.error a)
    | .ok found =>
      if found = handle then .inr (.ok current)
      else
        match smbiosGetNextStructure buffer current with
        | .error a => .inr (.error a)
        | .ok next =>
          if next.pStruct.isSome ∧ sizeofHeader ≤ next.remaining then .inl next
          else .inr (.ok next)

/-- `smbios_get_structure_with_handle`. -/
def smbiosGetStructureWithHandle (buffer : List UInt8) (handle : ℕ) (top : Cursor)
    (fuel : ℕ) : Option (Access Cursor) :=
  if top.pStruct.isSome ∧ sizeofHeader ≤ top.remaining then
    runLoop (withHandlePass buffer handle) fuel top
  else some (.ok ⟨none, top.remaining⟩)

/-- The loop of `smbios_get_structure_count_of_type`: `count` structures are counted, and `current`
is the one to be counted next. -/
def countLoop (buffer : List UInt8) (type : ℕ) : ℕ → Cursor → ℤ → Option (Access ℤ)
  | 0, _, _ => none
  | fuel + 1, current, count =>
    if current.pStruct.isSome then
      (smbiosGetNextStructureOfType buffer type current fuel).bind fun next =>
        match next with
        | .error a => some (.error a)
        | .ok next => countLoop buffer type fuel next (count + 1)
    else some (.ok count)

/-- `COMMON_ERR_INVALIDPARAMETER`. -/
def commonErrInvalidParameter : ℤ := -39

/-- `smbios_get_structure_count_of_type` of the table at `top`. -/
def smbiosGetStructureCountOfType (buffer : List UInt8) (type : ℕ) (top : Cursor)
    (fuel : ℕ) : Option (Access ℤ) :=
  if top.pStruct.isSome ∧ sizeofHeader ≤ top.remaining then
    (smbiosGetFirstStructureOfType buffer type top fuel).bind fun first =>
      match first with
      | .error a => some (.error a)
      | .ok first => countLoop buffer type fuel first 0
  else some (.ok commonErrInvalidParameter)

/-! ### What one step does -/

/-- The length of a string list: the distance behind its first two adjacent zeros, if there is a
byte at that distance. -/
def stringListEnd : List UInt8 → Option ℕ
  | a :: b :: rest =>
    if a = 0 ∧ b = 0 then (if rest = [] then none else some 2)
    else (stringListEnd (b :: rest)).map (· + 1)
  | _ => none

/-- A byte other than zero is passed over. -/
theorem stringListEnd_cons_of_ne {a : UInt8} (ha : a ≠ 0) (bytes : List UInt8) :
    stringListEnd (a :: bytes) = (stringListEnd bytes).map (· + 1) := by
  cases bytes with
  | nil => rfl
  | cons b rest => rw [stringListEnd, if_neg fun h => ha h.1]

/-- The end of a string list is behind two bytes, and within the bytes. -/
theorem stringListEnd_bounds {bytes : List UInt8} {e : ℕ} (h : stringListEnd bytes = some e) :
    2 ≤ e ∧ e < bytes.length := by
  fun_induction stringListEnd bytes generalizing e with
  | case1 a b h0 => cases h
  | case2 a b rest h0 hrest =>
    obtain rfl := Option.some.inj h
    have := List.length_pos_iff.mpr hrest
    simp only [List.length_cons]
    omega
  | case3 a b rest h0 ih =>
    obtain ⟨e', he', rfl⟩ := Option.map_eq_some_iff.mp h
    have := ih he'
    simp only [List.length_cons] at this ⊢
    omega
  | case4 bytes h0 => cases h

/-- The cursor at an offset of a table of `length` bytes; `NULL` has no bytes behind it. -/
def cursorAt (length : ℕ) : Option ℕ → Cursor
  | none => ⟨none, 0⟩
  | some p => ⟨some p, length - p⟩

@[simp] theorem cursorAt_none (length : ℕ) : cursorAt length none = ⟨none, 0⟩ := rfl

@[simp] theorem cursorAt_some (length p : ℕ) : cursorAt length (some p) = ⟨some p, length - p⟩ := rfl

/-- The start of the structure behind the one at `p`. -/
def nextStart (buffer : List UInt8) (p : ℕ) : Option ℕ :=
  (stringListEnd (buffer.drop (p + (ofList buffer (p + 1)).toNat))).map
    (p + (ofList buffer (p + 1)).toNat + ·)

/-- The next structure starts behind two zeros at least, and within the table. -/
theorem nextStart_bounds {buffer : List UInt8} {p q : ℕ} (h : nextStart buffer p = some q) :
    p + 2 ≤ q ∧ q < buffer.length := by
  obtain ⟨e, he, rfl⟩ := Option.map_eq_some_iff.mp h
  obtain ⟨h2, hlt⟩ := stringListEnd_bounds he
  rw [List.length_drop] at hlt
  omega

/-- The bytes from an offset on, taken apart. -/
private theorem drop_eq_cons {buffer : List UInt8} {p : ℕ} (h : p < buffer.length) :
    buffer.drop p = ofList buffer p :: buffer.drop (p + 1) := by
  rw [List.drop_eq_getElem_cons h, ofList, List.getD_eq_getElem _ _ h]

/-- The scan for the end of a string list, when it has seen one zero or none. -/
private theorem byteAfterEnd_at {buffer : List UInt8} {p remaining : ℕ}
    (hp : p + remaining = buffer.length) (nulls : ℕ) (hnulls : nulls ≤ 1) :
    smbiosGetByteAfterEndOfStringList buffer p remaining nulls =
      .ok (cursorAt buffer.length ((stringListEnd (List.replicate nulls 0 ++ buffer.drop p)).map
        (p + · - nulls))) := by
  induction remaining generalizing p nulls with
  | zero =>
    rw [List.drop_of_length_le (by omega), List.append_nil]
    obtain rfl | rfl : nulls = 0 ∨ nulls = 1 := by omega
    · rfl
    · rfl
  | succ remaining ih =>
    have hlt : p < buffer.length := by omega
    rw [smbiosGetByteAfterEndOfStringList, if_neg (by omega), readByte_of_lt hlt, ok_bind,
      drop_eq_cons hlt]
    by_cases hzero : ofList buffer p = 0
    · rw [if_pos hzero, hzero]
      obtain rfl | rfl : nulls = 0 ∨ nulls = 1 := by omega
      · rw [ih (by omega) _ le_rfl]
        simp only [List.replicate_succ, List.replicate_zero, List.nil_append, List.cons_append,
          Nat.sub_zero]
        congr 4
        funext e
        omega
      · -- two zeros: what is left decides
        simp only [List.replicate_succ, List.replicate_zero, List.nil_append, List.cons_append,
          stringListEnd, and_self, if_true]
        cases remaining with
        | zero =>
          rw [List.drop_of_length_le (by omega), if_pos rfl]
          rfl
        | succ left =>
          have hne : buffer.drop (p + 1) ≠ [] := List.ne_nil_of_length_pos (by
            rw [List.length_drop]; omega)
          rw [if_neg hne, smbiosGetByteAfterEndOfStringList, if_pos rfl]
          simp only [Option.map_some, cursorAt_some, Except.ok.injEq, Cursor.mk.injEq,
            Option.some.injEq]
          omega
    · rw [if_neg hzero, ih (by omega) 0 (by omega)]
      obtain rfl | rfl : nulls = 0 ∨ nulls = 1 := by omega
      · simp only [List.replicate_zero, List.nil_append, stringListEnd_cons_of_ne hzero,
          Option.map_map]
        congr 4
        funext e
        simp only [Function.comp_apply]
        omega
      · simp only [List.replicate_succ, List.replicate_zero, List.nil_append, List.cons_append]
        rw [stringListEnd, if_neg fun h => hzero h.2, stringListEnd_cons_of_ne hzero, Option.map_map,
          Option.map_map]
        congr 4
        funext e
        simp only [Function.comp_apply]
        omega

/-- `smbios_get_next_structure` at a structure whose length is in the table. -/
theorem smbiosGetNextStructure_at {buffer : List UInt8} {p : ℕ} (h : p + 1 < buffer.length) :
    smbiosGetNextStructure buffer ⟨some p, buffer.length - p⟩ =
      .ok (cursorAt buffer.length (nextStart buffer p)) := by
  simp only [smbiosGetNextStructure]
  rw [if_pos (by omega), readByte_of_lt h, ok_bind, nextStart]
  by_cases hlength : (ofList buffer (p + 1)).toNat ≤ buffer.length - p
  · rw [if_pos hlength, byteAfterEnd_at (by omega) 0 (by omega)]
    rfl
  · -- the length of the formatted section leaves the table
    rw [if_neg hlength, List.drop_of_length_le (by omega)]
    rfl

/-- `smbios_get_next_structure` at the last byte of the table reads the byte behind it. -/
theorem smbiosGetNextStructure_last {buffer : List UInt8} {p : ℕ} (h : p + 1 = buffer.length) :
    smbiosGetNextStructure buffer ⟨some p, buffer.length - p⟩ = .error buffer.length := by
  simp only [smbiosGetNextStructure]
  rw [if_pos (by omega), readByte_of_le (by omega), error_bind, h]

/-- The type of the structure at an offset. -/
def typeAt (buffer : List UInt8) (p : ℕ) : ℕ := (ofList buffer p).toNat

/-- The test of the type of a structure within the table. -/
theorem hasType_at {buffer : List UInt8} {type p remaining : ℕ} (h : p < buffer.length) :
    hasType buffer type ⟨some p, remaining⟩ = .ok (decide (typeAt buffer p = type)) := by
  simp only [hasType]
  rw [readByte_of_lt h, ok_bind]
  rfl

/-- The handle of the structure at an offset. -/
def handleAt (buffer : List UInt8) (p : ℕ) : ℕ := readLE (ofList buffer) (p + 2) 2

/-! ### Searches -/

/-- A search that is at `p` skips it and goes on to the next structure, at `q`. -/
def GoesOn (buffer : List UInt8) (skips : ℕ → Prop) (p q : ℕ) : Prop :=
  skips p ∧ nextStart buffer p = some q

/-- A search from `p` comes to `q`. -/
def Follows (buffer : List UInt8) (skips : ℕ → Prop) : ℕ → ℕ → Prop :=
  Relation.ReflTransGen (GoesOn buffer skips)

/-- A search comes to offsets of the table only. -/
theorem Follows.lt_length {buffer : List UInt8} {skips : ℕ → Prop} {p q : ℕ}
    (h : Follows buffer skips p q) (hp : p < buffer.length) : q < buffer.length := by
  induction h with
  | refl => exact hp
  | tail _ hstep _ => exact (nextStart_bounds hstep.2).2

/-- A search stops at one structure at most. -/
theorem Follows.unique {buffer : List UInt8} {skips : ℕ → Prop} {p q q' : ℕ}
    (h : Follows buffer skips p q) (hq : ¬ skips q) (h' : Follows buffer skips p q')
    (hq' : ¬ skips q') : q = q' := by
  have hunique : Relator.RightUnique (GoesOn buffer skips) :=
    fun _ _ _ hab hac => Option.some.inj (hab.2.symm.trans hac.2)
  rcases Relation.ReflTransGen.total_of_right_unique hunique h h' with hqq | hqq
  · rcases hqq.cases_head with heq | ⟨_, hstep, _⟩
    · exact heq
    · exact absurd hstep.1 hq
  · rcases hqq.cases_head with heq | ⟨_, hstep, _⟩
    · exact heq.symm
    · exact absurd hstep.1 hq'

/-- A search that comes to the last structure without stopping at it stops nowhere. -/
theorem Follows.not_of_end {buffer : List UInt8} {skips : ℕ → Prop} {p q q' : ℕ}
    (h : Follows buffer skips p q) (hskip : skips q) (hend : nextStart buffer q = none)
    (h' : Follows buffer skips p q') : skips q' := by
  have hunique : Relator.RightUnique (GoesOn buffer skips) :=
    fun _ _ _ hab hac => Option.some.inj (hab.2.symm.trans hac.2)
  rcases Relation.ReflTransGen.total_of_right_unique hunique h h' with hqq | hqq
  · rcases hqq.cases_head with rfl | ⟨_, hstep, _⟩
    · exact hskip
    · have hnext := hstep.2
      rw [hend] at hnext
      cases hnext
  · rcases hqq.cases_head with rfl | ⟨_, hstep, _⟩
    · exact hskip
    · exact hstep.1

end IxpDimm.Smbios
