import IxpDimm.Smbios.Bounds
import Mathlib.Tactic.Ring

/-!
# The walk through a well-formed SMBIOS table

A well-formed table is the concatenation of structures, followed by less than a header.  On such a
table the walkers find the structures and their strings exactly when nothing follows the structures
and there is one: `smbios_get_next_structure` returns a pointer to the bytes behind the last
structure although no structure is there, and the search for a handle and the count for a type use
that pointer.
-/

namespace IxpDimm.Smbios

open Foundation

/-! ### Well-formed tables -/

/-- A structure of a table. -/
structure Structure where
  /-- The type. -/
  type : UInt8
  /-- The handle. -/
  handle : UInt16
  /-- The formatted section behind the header. -/
  body : List UInt8
  /-- The strings. -/
  strings : List (List UInt8)
  /-- The length of the formatted section is a byte. -/
  body_le : body.length ≤ 251
  /-- A string is not empty and has no zero. -/
  strings_valid : ∀ str ∈ strings, str ≠ [] ∧ (0 : UInt8) ∉ str

/-- Strings, each with its zero. -/
def terminated (strings : List (List UInt8)) : List UInt8 := strings.flatMap (· ++ [0])

/-- The string list of a structure, ended by two zeros. -/
def stringBytes (strings : List (List UInt8)) : List UInt8 :=
  if strings = [] then [0, 0] else terminated strings ++ [0]

/-- The bytes of a structure. -/
def Structure.bytes (s : Structure) : List UInt8 :=
  s.type :: UInt8.ofNat (sizeofHeader + s.body.length) :: UInt8.ofNat s.handle.toNat ::
    UInt8.ofNat (s.handle.toNat / 256) :: (s.body ++ stringBytes s.strings)

/-- A well-formed table. -/
structure Table where
  /-- The structures. -/
  structures : List Structure
  /-- The bytes behind the last structure. -/
  trailing : List UInt8
  /-- They are less than a header. -/
  trailing_lt : trailing.length < sizeofHeader

/-- The bytes of a table. -/
def Table.bytes (t : Table) : List UInt8 := t.structures.flatMap Structure.bytes ++ t.trailing

/-- Structures with their offsets, the first at `p`. -/
def placeFrom : ℕ → List Structure → List (ℕ × Structure)
  | _, [] => []
  | p, s :: rest => (p, s) :: placeFrom (p + s.bytes.length) rest

/-- The structures of a table with their offsets. -/
def Table.placed (t : Table) : List (ℕ × Structure) := placeFrom 0 t.structures

/-- The string that starts at an offset, without its zero. -/
def cString (buffer : List UInt8) (q : ℕ) : List UInt8 := (buffer.drop q).takeWhile (· ≠ 0)

/-- The string of a structure with a number; numbers start with one. -/
def Structure.string (s : Structure) : ℕ → Option (List UInt8)
  | 0 => none
  | k + 1 => s.strings[k]?

/-! ### The string list -/

/-- The end of a string list is not in a string. -/
private theorem stringListEnd_append {str : List UInt8} (hstr : (0 : UInt8) ∉ str)
    (rest : List UInt8) :
    stringListEnd (str ++ rest) = (stringListEnd rest).map (· + str.length) := by
  induction str with
  | nil => simp
  | cons c str ih =>
    obtain ⟨hc, hrest⟩ := not_or.mp fun h => hstr (List.mem_cons.mpr h)
    rw [List.cons_append, stringListEnd_cons_of_ne (Ne.symm hc), ih hrest, Option.map_map]
    congr 1

/-- A string and its zero come before the other strings. -/
private theorem terminated_cons (str : List UInt8) (strings : List (List UInt8)) :
    terminated (str :: strings) = str ++ 0 :: terminated strings := by
  rw [terminated, List.flatMap_cons, List.append_assoc, List.singleton_append, terminated]

/-- The end of a string list that has strings. -/
private theorem stringListEnd_terminated {str : List UInt8} {strings : List (List UInt8)}
    (h : ∀ s ∈ str :: strings, s ≠ [] ∧ (0 : UInt8) ∉ s) (after : List UInt8) :
    stringListEnd (terminated (str :: strings) ++ 0 :: after) =
      if after = [] then none else some ((terminated (str :: strings)).length + 1) := by
  induction strings generalizing str with
  | nil =>
    obtain ⟨hne, hzero⟩ := h str List.mem_cons_self
    rw [terminated_cons, List.append_assoc, List.cons_append, stringListEnd_append hzero]
    simp only [terminated, List.flatMap_nil, List.nil_append, stringListEnd, and_self, if_true,
      List.length_append, List.length_singleton]
    by_cases hafter : after = []
    · rw [if_pos hafter, if_pos hafter]
      rfl
    · rw [if_neg hafter, if_neg hafter, Option.map_some]
      congr 1
      omega
  | cons next strings ih =>
    obtain ⟨hne, hzero⟩ := h str List.mem_cons_self
    have hrest := ih fun s hs => h s (List.mem_cons_of_mem str hs)
    obtain ⟨hnext, hnextzero⟩ := h next (List.mem_cons_of_mem str List.mem_cons_self)
    obtain ⟨c, tail, rfl⟩ := List.exists_cons_of_ne_nil hnext
    have hc : c ≠ 0 := fun hc => hnextzero (hc ▸ List.mem_cons_self)
    have hmore : terminated ((c :: tail) :: strings) ++ 0 :: after =
        c :: (tail ++ 0 :: terminated strings ++ 0 :: after) := by
      rw [terminated_cons, List.cons_append, List.cons_append]
    rw [terminated_cons, List.append_assoc, List.cons_append, stringListEnd_append hzero, hmore,
      stringListEnd, if_neg fun h => hc h.2, ← hmore, hrest, Option.map_map]
    by_cases hafter : after = []
    · rw [if_pos hafter, if_pos hafter]
      rfl
    · rw [if_neg hafter, if_neg hafter, Option.map_some]
      simp only [Function.comp_apply, List.length_append, List.length_cons]
      congr 1
      omega

/-- The end of the string list of a structure. -/
private theorem stringListEnd_stringBytes (s : Structure) (after : List UInt8) :
    stringListEnd (stringBytes s.strings ++ after) =
      if after = [] then none else some (stringBytes s.strings).length := by
  have hvalid := s.strings_valid
  cases hstrings : s.strings with
  | nil => rfl
  | cons str strings =>
    rw [hstrings] at hvalid
    rw [stringBytes, if_neg (List.cons_ne_nil _ _), List.append_assoc, List.singleton_append,
      stringListEnd_terminated hvalid, List.length_append, List.length_singleton]

/-! ### One structure -/

section
variable {buffer after : List UInt8} {p : ℕ} {s : Structure}

/-- The formatted section and the string list make up the structure. -/
private theorem length_bytes (s : Structure) :
    s.bytes.length = sizeofHeader + s.body.length + (stringBytes s.strings).length := by
  simp only [Structure.bytes, List.length_cons, List.length_append, sizeofHeader]
  omega

/-- A structure is longer than its header. -/
private theorem header_lt_bytes (s : Structure) : sizeofHeader + 2 ≤ s.bytes.length := by
  have hstrings : 2 ≤ (stringBytes s.strings).length := by
    have hvalid := s.strings_valid
    rw [stringBytes]
    cases hstrings : s.strings with
    | nil => exact le_rfl
    | cons str strings =>
      rw [if_neg (List.cons_ne_nil _ _)]
      simp only [terminated, List.flatMap_cons, List.length_append, List.length_singleton]
      omega
  rw [length_bytes]
  omega

/-- A structure that the table has at `p` is within the table. -/
private theorem add_bytes_le (h : buffer.drop p = s.bytes ++ after) :
    p + s.bytes.length + after.length = buffer.length := by
  have hlength := congrArg List.length h
  have := header_lt_bytes s
  rw [List.length_drop, List.length_append] at hlength
  omega

/-- The byte of the structure at `p` at a distance. -/
private theorem ofList_structure (h : buffer.drop p = s.bytes ++ after) (i : ℕ) :
    ofList buffer (p + i) = ofList (s.bytes ++ after) i := by
  rw [← h, ← view_ofList, view_apply]

/-- The type of the structure at `p`. -/
private theorem typeAt_structure (h : buffer.drop p = s.bytes ++ after) :
    typeAt buffer p = s.type.toNat := by
  rw [typeAt, ← Nat.add_zero p, ofList_structure h]
  rfl

/-- The length of the structure at `p`. -/
private theorem length_structure (h : buffer.drop p = s.bytes ++ after) :
    (ofList buffer (p + 1)).toNat = sizeofHeader + s.body.length := by
  rw [ofList_structure h]
  show (UInt8.ofNat (sizeofHeader + s.body.length)).toNat = _
  rw [UInt8.toNat_ofNat']
  have := s.body_le
  rw [sizeofHeader]
  omega

/-- The handle of the structure at `p`. -/
private theorem handleAt_structure (h : buffer.drop p = s.bytes ++ after) :
    handleAt buffer p = s.handle.toNat := by
  have hlow : ofList buffer (p + 2) = UInt8.ofNat s.handle.toNat := ofList_structure h 2
  have hhigh : ofList buffer (p + 2 + 1) = UInt8.ofNat (s.handle.toNat / 256) :=
    ofList_structure h 3
  have hlt : s.handle.toNat < 65536 := s.handle.toNat_lt
  rw [handleAt, readLE, readLE, readLE, hlow, hhigh, UInt8.toNat_ofNat', UInt8.toNat_ofNat']
  omega

/-- The string list of the structure at `p`. -/
private theorem drop_strings (h : buffer.drop p = s.bytes ++ after) :
    buffer.drop (p + (ofList buffer (p + 1)).toNat) = stringBytes s.strings ++ after := by
  rw [length_structure h, ← List.drop_drop, h]
  have hbytes : s.bytes ++ after =
      (s.type :: UInt8.ofNat (sizeofHeader + s.body.length) :: UInt8.ofNat s.handle.toNat ::
        UInt8.ofNat (s.handle.toNat / 256) :: s.body) ++ (stringBytes s.strings ++ after) := by
    simp only [Structure.bytes, List.cons_append, List.append_assoc]
  rw [hbytes]
  apply List.drop_left'
  simp only [List.length_cons, sizeofHeader]
  omega

/-- The next structure starts behind the string list, if there are bytes. -/
private theorem nextStart_structure (h : buffer.drop p = s.bytes ++ after) :
    nextStart buffer p = if after = [] then none else some (p + s.bytes.length) := by
  rw [nextStart, drop_strings h, stringListEnd_stringBytes, length_structure h, length_bytes]
  by_cases hafter : after = []
  · rw [if_pos hafter, if_pos hafter]
    rfl
  · rw [if_neg hafter, if_neg hafter, Option.map_some]
    congr 1
    omega

end

/-! ### What the walkers are to find -/

/-- Repeated calls of `smbios_get_next_structure` from a cursor visit the structures at the
offsets. -/
inductive Visits (buffer : List UInt8) : Cursor → List ℕ → Prop
  /-- The walk ends at `NULL`. -/
  | done {remaining : ℕ} : Visits buffer ⟨none, remaining⟩ []
  /-- The walk visits a structure and goes on to the next one. -/
  | next {p remaining : ℕ} {next : Cursor} {offsets : List ℕ} :
    smbiosGetNextStructure buffer ⟨some p, remaining⟩ = .ok next → Visits buffer next offsets →
      Visits buffer ⟨some p, remaining⟩ (p :: offsets)

/-- The walkers find the structures of the table, and their strings. -/
structure WalksRight (t : Table) : Prop where
  /-- From the first structure on, the structures are visited in their order. -/
  visits : t.structures ≠ [] → Visits t.bytes (top t.bytes) (t.placed.map Prod.fst)
  /-- The first structure with a handle is found, and `NULL` if there is none. -/
  withHandle : ∀ handle : UInt16, ∃ c,
    Returns (smbiosGetStructureWithHandle t.bytes handle.toNat (top t.bytes)) (.ok c) ∧
      c.pStruct = (t.placed.find? fun e => e.2.handle = handle).map Prod.fst
  /-- The structures of a type are counted. -/
  count : ∀ type : UInt8, Returns (smbiosGetStructureCountOfType t.bytes type.toNat (top t.bytes))
    (.ok (t.structures.countP fun s => s.type = type))
  /-- The strings of every structure are found by their numbers, and `NULL` if there is none. -/
  string : ∀ p s, (p, s) ∈ t.placed → ∀ n, ∃ o,
    smbiosGetStructureString t.bytes p (t.bytes.length - p) n = .ok o ∧
      o.map (cString t.bytes) = s.string n

/-! ### The structures of a table -/

/-- The buffer has the structures from `p` on, and nothing else behind `p`. -/
private def Holds (buffer : List UInt8) (p : ℕ) (structures : List Structure) : Prop :=
  buffer.drop p = structures.flatMap Structure.bytes

/-- The cursor at the first of the structures, `NULL` if there is none. -/
private def startOf (p : ℕ) : List Structure → Option ℕ
  | [] => none
  | _ :: _ => some p

/-- What follows the first structure. -/
private theorem Holds.tail {buffer : List UInt8} {p : ℕ} {s : Structure} {rest : List Structure}
    (h : Holds buffer p (s :: rest)) : Holds buffer (p + s.bytes.length) rest := by
  rw [Holds, List.flatMap_cons] at h
  rw [Holds, ← List.drop_drop, h, List.drop_left]

/-- The first structure and what follows. -/
private theorem Holds.cons {buffer : List UInt8} {p : ℕ} {s : Structure} {rest : List Structure}
    (h : Holds buffer p (s :: rest)) :
    buffer.drop p = s.bytes ++ rest.flatMap Structure.bytes := by
  rw [Holds, List.flatMap_cons] at h
  exact h

/-- Structures have bytes. -/
private theorem flatMap_bytes_eq_nil {structures : List Structure} :
    structures.flatMap Structure.bytes = [] ↔ structures = [] := by
  cases structures with
  | nil => exact iff_of_true rfl rfl
  | cons s rest =>
    refine iff_of_false (fun h => ?_) (List.cons_ne_nil _ _)
    have := header_lt_bytes s
    rw [List.flatMap_cons] at h
    rw [(List.append_eq_nil_iff.mp h).1] at this
    exact absurd this (by decide)

/-- The next structure behind the first one. -/
private theorem Holds.nextStart {buffer : List UInt8} {p : ℕ} {s : Structure}
    {rest : List Structure} (h : Holds buffer p (s :: rest)) :
    nextStart buffer p = startOf (p + s.bytes.length) rest := by
  rw [nextStart_structure h.cons]
  cases rest with
  | nil => rfl
  | cons _ _ => rw [if_neg fun h => List.cons_ne_nil _ _ (flatMap_bytes_eq_nil.mp h)]; rfl

/-- The first structure has a header. -/
private theorem Holds.header {buffer : List UInt8} {p : ℕ} {s : Structure} {rest : List Structure}
    (h : Holds buffer p (s :: rest)) : p + sizeofHeader < buffer.length := by
  have := add_bytes_le h.cons
  have := header_lt_bytes s
  omega

/-- A search through structures comes to structures only. -/
private theorem Holds.follows {buffer : List UInt8} {skips : ℕ → Prop} {p q : ℕ} {s : Structure}
    {rest : List Structure} (h : Holds buffer p (s :: rest)) (hq : Follows buffer skips p q) :
    ∃ s' rest', Holds buffer q (s' :: rest') := by
  induction hq with
  | refl => exact ⟨s, rest, h⟩
  | @tail q q' _ hstep ih =>
    obtain ⟨s', rest', h'⟩ := ih
    have hnext := hstep.2
    rw [h'.nextStart] at hnext
    cases rest' with
    | nil => cases hnext
    | cons s'' rest'' =>
      obtain rfl := Option.some.inj hnext
      exact ⟨s'', rest'', h'.tail⟩

/-- The walk visits the structures. -/
private theorem visits_structures {buffer : List UInt8} {p : ℕ} {structures : List Structure}
    (h : Holds buffer p structures) :
    Visits buffer (cursorAt buffer.length (startOf p structures))
      ((placeFrom p structures).map Prod.fst) := by
  induction structures generalizing p with
  | nil => exact Visits.done
  | cons s rest ih =>
    have hlt : p + 1 < buffer.length := by
      have := h.header
      rw [sizeofHeader] at this
      omega
    refine Visits.next (smbiosGetNextStructure_at hlt) ?_
    rw [h.nextStart]
    exact ih h.tail

/-- A search that skips the structures without a property stops at the first one that has it. -/
private theorem stop_eq_find {buffer : List UInt8} {skips : ℕ → Prop} (found : Structure → Bool)
    {first p : ℕ} {structures : List Structure} {o : Option ℕ} (h : Holds buffer p structures)
    (hfirst : ∃ q, Follows buffer skips first q ∧ skips q ∧
      nextStart buffer q = startOf p structures)
    (hskips : ∀ q s rest, first < q → Holds buffer q (s :: rest) → (skips q ↔ found s = false))
    (ho : ∀ q, o = some q ↔ Follows buffer skips first q ∧ ¬ skips q) :
    o = ((placeFrom p structures).find? fun e => found e.2).map Prod.fst := by
  induction structures generalizing p with
  | nil =>
    obtain ⟨q, hq, hskip, hnext⟩ := hfirst
    cases o with
    | none => rfl
    | some q' =>
      obtain ⟨hq', hstop⟩ := (ho q').mp rfl
      exact absurd (hq.not_of_end hskip hnext hq') hstop
  | cons s rest ih =>
    obtain ⟨q, hq, hskip, hnext⟩ := hfirst
    have hp : Follows buffer skips first p := hq.tail ⟨hskip, hnext⟩
    have hlt : first < p := by
      have := hq.le
      have := nextStart_bounds hnext
      omega
    have hiff := hskips p s rest hlt h
    cases hfound : found s with
    | true =>
      have hstop : ¬ skips p := fun hs => by rw [hiff.mp hs] at hfound; cases hfound
      simp only [placeFrom, List.find?_cons, hfound, Option.map_some]
      exact (ho p).mpr ⟨hp, hstop⟩
    | false =>
      simp only [placeFrom, List.find?_cons, hfound]
      exact ih h.tail ⟨p, hp, hiff.mpr hfound, h.nextStart⟩

/-- The search for the next structure of a type finds the first one of that type. -/
private theorem returns_nextOfType_find {buffer : List UInt8} {p : ℕ} {s : Structure}
    {rest : List Structure} (h : Holds buffer p (s :: rest)) (type : UInt8) :
    Returns (smbiosGetNextStructureOfType buffer type.toNat ⟨some p, buffer.length - p⟩)
      (.ok (cursorAt buffer.length (((placeFrom (p + s.bytes.length) rest).find?
        fun e => e.2.type = type).map Prod.fst))) := by
  have hlt := h.header
  have hinside : SearchInside buffer type.toNat p := by
    intro q hq _
    obtain ⟨s', rest', h'⟩ := h.follows hq
    have := h'.header
    rw [sizeofHeader] at this
    omega
  obtain ⟨o, hreturns, ho⟩ := returns_nextOfType (Nat.lt_of_add_right_lt hlt) hinside
  rw [stop_eq_find (fun s => decide (s.type = type)) h.tail
    ⟨p, Relation.ReflTransGen.refl, Or.inl rfl, h.nextStart⟩ ?_ ho] at hreturns
  · exact hreturns
  · intro q s' rest' hpq h'
    rw [SkipsType, typeAt_structure h'.cons, decide_eq_false_iff_not]
    constructor
    · rintro (rfl | hne)
      · exact absurd hpq (lt_irrefl _)
      · exact fun htype => hne (congrArg UInt8.toNat htype)
    · exact fun hne => Or.inr fun htype => hne (UInt8.toNat_inj.mp htype)

/-- The search for a handle finds the first structure that has it. -/
private theorem returns_withHandle_find {buffer : List UInt8} {s : Structure}
    {rest : List Structure} (h : Holds buffer 0 (s :: rest)) (handle : UInt16) :
    Returns (smbiosGetStructureWithHandle buffer handle.toNat (top buffer))
      (.ok (cursorAt buffer.length (((placeFrom 0 (s :: rest)).find?
        fun e => e.2.handle = handle).map Prod.fst))) := by
  have hheader : sizeofHeader ≤ buffer.length := by have := h.header; omega
  obtain ⟨o, hreturns, ho⟩ := returns_withHandle_top handle.toNat hheader
  have hskips : ∀ q s' rest', Holds buffer q (s' :: rest') →
      (SkipsHandle buffer handle.toNat q ↔ decide (s'.handle = handle) = false) := by
    intro q s' rest' h'
    rw [SkipsHandle, handleAt_structure h'.cons, decide_eq_false_iff_not]
    exact ⟨fun hskip heq => hskip.2 (congrArg UInt16.toNat heq),
      fun hne => ⟨h'.header.le, fun heq => hne (UInt16.toNat_inj.mp heq)⟩⟩
  have hiff := hskips 0 s rest h
  cases hfound : decide (s.handle = handle) with
  | true =>
    have hstop : ¬ SkipsHandle buffer handle.toNat 0 := fun hs => by
      rw [hiff.mp hs] at hfound
      cases hfound
    rw [(ho 0).mpr ⟨Relation.ReflTransGen.refl, hstop⟩] at hreturns
    simp only [placeFrom, List.find?_cons, hfound, Option.map_some]
    exact hreturns
  | false =>
    rw [stop_eq_find (fun s => decide (s.handle = handle)) h.tail
      ⟨0, Relation.ReflTransGen.refl, hiff.mpr hfound, h.nextStart⟩
      (fun q s' rest' _ h' => hskips q s' rest' h') ho] at hreturns
    simp only [placeFrom, List.find?_cons, hfound]
    exact hreturns

/-! ### The count -/

/-- A larger bound does not change what the search for a type returns. -/
private theorem fuelMono_nextOfType (buffer : List UInt8) (type : ℕ) (current : Cursor) :
    FuelMono (smbiosGetNextStructureOfType buffer type current) := by
  intro m n r hmn h
  rw [smbiosGetNextStructureOfType] at h ⊢
  split_ifs at h ⊢
  · exact runLoop_mono hmn h
  · exact h

/-- A larger bound does not change the count. -/
private theorem fuelMono_countLoop (buffer : List UInt8) (type : ℕ) (current : Cursor) (n : ℤ) :
    FuelMono fun fuel => countLoop buffer type fuel current n := by
  intro fuel
  induction fuel generalizing current n with
  | zero => intro m r _ h; cases h
  | succ fuel ih =>
    intro m r hm h
    obtain ⟨m, rfl⟩ : ∃ k, m = k + 1 := ⟨m - 1, by omega⟩
    simp only [countLoop] at h ⊢
    by_cases hsome : current.pStruct.isSome
    · rw [if_pos hsome] at h ⊢
      obtain ⟨next, hnext, hrest⟩ := Option.bind_eq_some_iff.mp h
      rw [fuelMono_nextOfType buffer type current fuel m next (by omega) hnext, Option.bind_some]
      cases next with
      | error a => exact hrest
      | ok next => exact ih next (n + 1) m r (by omega) hrest
    · rw [if_neg hsome] at h ⊢
      exact h

/-- The loop counts the structure it is at and those behind the next one. -/
private theorem returns_countLoop_some {buffer : List UInt8} {type p remaining : ℕ} {next : Cursor}
    {n : ℤ} {r : Access ℤ}
    (hnext : Returns (smbiosGetNextStructureOfType buffer type ⟨some p, remaining⟩) (.ok next))
    (hrest : Returns (fun fuel => countLoop buffer type fuel next (n + 1)) r) :
    Returns (fun fuel => countLoop buffer type fuel ⟨some p, remaining⟩ n) r := by
  obtain ⟨m, hm⟩ := hnext
  obtain ⟨k, hk⟩ := hrest
  refine ⟨max m k + 1, ?_⟩
  simp only [countLoop, Option.isSome_some, if_true]
  rw [fuelMono_nextOfType _ _ _ m _ _ (Nat.le_max_left m k) hm, Option.bind_some]
  exact fuelMono_countLoop _ _ _ _ k _ _ (Nat.le_max_right m k) hk

/-- The loop counts the structures of the type from the first one on. -/
private theorem returns_countLoop {buffer : List UInt8} {p : ℕ} {structures : List Structure}
    (h : Holds buffer p structures) (type : UInt8) (n : ℤ) :
    Returns (fun fuel => countLoop buffer type.toNat fuel (cursorAt buffer.length
      (((placeFrom p structures).find? fun e => e.2.type = type).map Prod.fst)) n)
      (.ok (n + structures.countP fun s => s.type = type)) := by
  induction structures generalizing p n with
  | nil =>
    rw [List.countP_nil, Nat.cast_zero, add_zero]
    exact ⟨1, rfl⟩
  | cons s rest ih =>
    by_cases htype : s.type = type
    · have hcount : (n + ((s :: rest).countP fun s => decide (s.type = type)) : ℤ) =
          n + 1 + (rest.countP fun s => decide (s.type = type)) := by
        rw [List.countP_cons_of_pos (by simpa using htype)]
        push_cast
        ring
      simp only [placeFrom, List.find?_cons, decide_eq_true htype, Option.map_some, cursorAt_some]
      rw [hcount]
      exact returns_countLoop_some (returns_nextOfType_find h type) (ih h.tail (n + 1))
    · rw [List.countP_cons_of_neg (by simpa using htype)]
      simp only [placeFrom, List.find?_cons, decide_eq_false htype]
      exact ih h.tail n

/-- `smbios_get_first_structure_of_type` finds the first structure of the type. -/
private theorem returns_firstOfType_find {buffer : List UInt8} {s : Structure}
    {rest : List Structure} (h : Holds buffer 0 (s :: rest)) (type : UInt8) :
    Returns (smbiosGetFirstStructureOfType buffer type.toNat (top buffer))
      (.ok (cursorAt buffer.length (((placeFrom 0 (s :: rest)).find?
        fun e => e.2.type = type).map Prod.fst))) := by
  have hlt := h.header
  have hfound : hasType buffer type.toNat (top buffer) = .ok (decide (s.type = type)) := by
    rw [top, hasType_at (Nat.lt_of_add_right_lt hlt), typeAt_structure h.cons]
    simp only [UInt8.toNat_inj]
  have hcall : smbiosGetFirstStructureOfType buffer type.toNat (top buffer) =
      if s.type = type then fun _ => some (.ok (top buffer))
      else smbiosGetNextStructureOfType buffer type.toNat (top buffer) := by
    funext fuel
    rw [smbiosGetFirstStructureOfType, if_pos ⟨rfl, by show sizeofHeader < buffer.length; omega⟩,
      hfound]
    by_cases htype : s.type = type
    · rw [decide_eq_true htype, if_pos htype]
    · rw [decide_eq_false htype, if_neg htype]
  rw [hcall]
  by_cases htype : s.type = type
  · rw [if_pos htype]
    simp only [placeFrom, List.find?_cons, decide_eq_true htype]
    exact ⟨0, rfl⟩
  · rw [if_neg htype]
    simp only [placeFrom, List.find?_cons, decide_eq_false htype]
    exact returns_nextOfType_find h type

/-- `smbios_get_structure_count_of_type` counts the structures of the type. -/
private theorem returns_count {buffer : List UInt8} {s : Structure} {rest : List Structure}
    (h : Holds buffer 0 (s :: rest)) (type : UInt8) :
    Returns (smbiosGetStructureCountOfType buffer type.toNat (top buffer))
      (.ok ((s :: rest).countP fun s => s.type = type)) := by
  obtain ⟨m, hm⟩ := returns_firstOfType_find h type
  obtain ⟨k, hk⟩ := returns_countLoop h type 0
  have hlt := h.header
  have hmono : FuelMono (smbiosGetFirstStructureOfType buffer type.toNat (top buffer)) := by
    intro m n r hmn hr
    rw [smbiosGetFirstStructureOfType] at hr ⊢
    by_cases hentered : (top buffer).pStruct.isSome ∧ sizeofHeader < (top buffer).remaining
    · rw [if_pos hentered] at hr ⊢
      cases hfound : hasType buffer type.toNat (top buffer) with
      | error a => rw [hfound] at hr; exact hr
      | ok found =>
        rw [hfound] at hr
        cases found with
        | true => exact hr
        | false => exact fuelMono_nextOfType _ _ _ m n r hmn hr
    · rw [if_neg hentered] at hr ⊢
      exact hr
  refine ⟨max m k, ?_⟩
  rw [smbiosGetStructureCountOfType,
    if_pos ⟨rfl, by show sizeofHeader ≤ buffer.length; omega⟩,
    hmono m _ _ (Nat.le_max_left m k) hm, Option.bind_some]
  rw [zero_add] at hk
  exact fuelMono_countLoop _ _ _ _ k _ _ (Nat.le_max_right m k) hk

/-! ### The strings -/

/-- The string at `q` ends with its zero, and the next byte decides on the next string. -/
private theorem stringEnd_of_drop {buffer str rest : List UInt8} {q : ℕ}
    (hstr : (0 : UInt8) ∉ str) (h : buffer.drop q = str ++ 0 :: rest) :
    stringEnd buffer q = some (q + str.length) := by
  have hnone : str.findIdx? (· = 0) = none := by
    rw [List.findIdx?_eq_none_iff]
    intro c hc
    exact decide_eq_false fun hzero => hstr (hzero ▸ hc)
  rw [stringEnd, h, List.findIdx?_append, hnone, List.findIdx?_cons]
  simp

/-- The strings from `q` on are found one after the other, and end within the table. -/
private theorem stepString_strings {buffer after str : List UInt8} {strings : List (List UInt8)}
    {q : ℕ} (hvalid : ∀ s ∈ str :: strings, s ≠ [] ∧ (0 : UInt8) ∉ s)
    (h : buffer.drop q = terminated (str :: strings) ++ 0 :: after) (k : ℕ) :
    ((stepString buffer)^[k] (some q)).map (cString buffer) = (str :: strings)[k]? ∧
      ∀ q', (stepString buffer)^[k] (some q) = some q' → StringEnds buffer q' := by
  induction k generalizing q str strings with
  | zero =>
    obtain ⟨-, hzero⟩ := hvalid str List.mem_cons_self
    rw [terminated_cons, List.append_assoc, List.cons_append] at h
    have hlength := congrArg List.length h
    simp only [List.length_drop, List.length_append, List.length_cons] at hlength
    have hall : ∀ c ∈ str, decide (c ≠ 0) = true := fun c hc =>
      decide_eq_true fun h0 => hzero (h0 ▸ hc)
    refine ⟨?_, fun q' hq' => ?_⟩
    · rw [Function.iterate_zero_apply, Option.map_some, List.getElem?_cons_zero, cString, h,
        List.takeWhile_append_of_pos hall]
      simp
    · obtain rfl := Option.some.inj hq'
      exact ⟨_, stringEnd_of_drop hzero h, by omega⟩
  | succ k ih =>
    obtain ⟨-, hzero⟩ := hvalid str List.mem_cons_self
    rw [terminated_cons, List.append_assoc, List.cons_append] at h
    have hnext : buffer.drop (q + str.length + 1) = terminated strings ++ 0 :: after := by
      rw [add_assoc, ← List.drop_drop, h, ← List.drop_drop, List.drop_left, List.drop_one,
        List.tail_cons]
    have hbyte : ofList buffer (q + str.length + 1) =
        ofList (terminated strings ++ 0 :: after) 0 := by
      rw [← hnext, ← view_ofList, view_apply, add_zero]
    rw [Function.iterate_succ_apply, stepString, Option.bind_some, nextStringStart,
      stringEnd_of_drop hzero h, Option.bind_some, hbyte, List.getElem?_cons_succ]
    cases strings with
    | nil =>
      have hlast : ofList (terminated [] ++ 0 :: after) 0 = 0 := rfl
      rw [if_pos hlast, stepString_iterate_none, List.getElem?_nil]
      refine ⟨rfl, ?_⟩
      rintro q' ⟨⟩
    | cons next strings =>
      obtain ⟨hne, hnextzero⟩ := hvalid next (List.mem_cons_of_mem str List.mem_cons_self)
      obtain ⟨c, tail, rfl⟩ := List.exists_cons_of_ne_nil hne
      have hmore : ofList (terminated ((c :: tail) :: strings) ++ 0 :: after) 0 ≠ 0 :=
        fun hc : c = 0 => hnextzero (hc ▸ List.mem_cons_self)
      rw [if_neg hmore]
      exact ih (fun s hs => hvalid s (List.mem_cons_of_mem str hs)) hnext

/-- `smbios_get_structure_string` finds the strings of the structure at `p`. -/
private theorem structureString_right {buffer after : List UInt8} {p : ℕ} {s : Structure}
    (h : buffer.drop p = s.bytes ++ after) (n : ℕ) :
    ∃ o, smbiosGetStructureString buffer p (buffer.length - p) n = .ok o ∧
      o.map (cString buffer) = s.string n := by
  have hlength := add_bytes_le h
  have hheader := header_lt_bytes s
  rw [sizeofHeader] at hheader
  have hvalid := s.strings_valid
  have hstrings := drop_strings h
  have hbyte : ∀ i, ofList buffer (p + (ofList buffer (p + 1)).toNat + i) =
      ofList (stringBytes s.strings ++ after) i := by
    intro i
    rw [← hstrings, ← view_ofList, view_apply]
  have hright : (∀ k, ((stepString buffer)^[k] (firstStringAt buffer p)).map (cString buffer) =
      s.strings[k]?) ∧ ∀ k q, (stepString buffer)^[k] (firstStringAt buffer p) = some q →
        StringEnds buffer q := by
    cases hlist : s.strings with
    | nil =>
      rw [hlist] at hbyte
      have hfirst : firstStringAt buffer p = none := if_pos ⟨hbyte 0, hbyte 1⟩
      simp only [hfirst, stepString_iterate_none, Option.map_none, List.getElem?_nil, implies_true,
        reduceCtorEq, false_implies, and_self]
    | cons str strings =>
      rw [hlist] at hvalid hbyte hstrings
      rw [stringBytes, if_neg (List.cons_ne_nil _ _), List.append_assoc, List.singleton_append]
        at hstrings
      obtain ⟨hne, hzero⟩ := hvalid str List.mem_cons_self
      obtain ⟨c, tail, rfl⟩ := List.exists_cons_of_ne_nil hne
      have hmore : ofList buffer (p + (ofList buffer (p + 1)).toNat) ≠ 0 := by
        intro hc
        have hfirst := (hbyte 0).symm.trans hc
        rw [stringBytes, if_neg (List.cons_ne_nil _ _), terminated_cons] at hfirst
        have hc0 : c = 0 := hfirst
        exact hzero (hc0 ▸ List.mem_cons_self)
      have hfirst : firstStringAt buffer p = some (p + (ofList buffer (p + 1)).toNat) :=
        if_neg fun h0 => hmore h0.1
      rw [hfirst]
      have hall := stepString_strings hvalid hstrings
      exact ⟨fun k => (hall k).1, fun k => (hall k).2⟩
  refine ⟨stringAt buffer p n, (smbiosGetStructureString_eq_ok (by omega)).mpr
    ⟨fun k q _ _ hq => hright.2 k q hq, rfl⟩, ?_⟩
  cases n with
  | zero => rfl
  | succ k => exact hright.1 k

/-! ### The whole table -/

/-- What the table has at the offset of a structure. -/
private theorem drop_of_mem_placeFrom {buffer after : List UInt8} {p q : ℕ} {s : Structure}
    {structures : List Structure}
    (h : buffer.drop p = structures.flatMap Structure.bytes ++ after)
    (hs : (q, s) ∈ placeFrom p structures) : ∃ after', buffer.drop q = s.bytes ++ after' := by
  induction structures generalizing p with
  | nil => cases hs
  | cons first rest ih =>
    rw [List.flatMap_cons, List.append_assoc] at h
    rcases List.mem_cons.mp hs with heq | hmem
    · obtain ⟨rfl, rfl⟩ := Prod.mk.inj heq
      exact ⟨_, h⟩
    · refine ih ?_ hmem
      rw [← List.drop_drop, h, List.drop_left]

/-- A walk that visits the structures only comes to the end of the table behind the last one. -/
private theorem eq_nil_of_visits {buffer after : List UInt8} {p : ℕ} {structures : List Structure}
    (hne : structures ≠ []) (h : buffer.drop p = structures.flatMap Structure.bytes ++ after)
    (hvisits : Visits buffer ⟨some p, buffer.length - p⟩ ((placeFrom p structures).map Prod.fst)) :
    after = [] := by
  induction structures generalizing p with
  | nil => exact absurd rfl hne
  | cons s rest ih =>
    rw [List.flatMap_cons, List.append_assoc] at h
    have hlt : p + 1 < buffer.length := by
      have := add_bytes_le h
      have := header_lt_bytes s
      omega
    simp only [placeFrom, List.map_cons] at hvisits
    cases hvisits with
    | next hcall hrest =>
      rw [smbiosGetNextStructure_at hlt, nextStart_structure h] at hcall
      obtain rfl := Except.ok.inj hcall
      cases rest with
      | nil =>
        by_contra hafter
        rw [if_neg (by simpa using hafter)] at hrest
        cases hrest
      | cons second rest =>
        have hmore : (second :: rest).flatMap Structure.bytes ++ after ≠ [] := fun h0 =>
          List.cons_ne_nil _ _ (flatMap_bytes_eq_nil.mp (List.append_eq_nil_iff.mp h0).1)
        rw [if_neg hmore] at hrest
        refine ih (List.cons_ne_nil _ _) ?_ hrest
        rw [← List.drop_drop, h, List.drop_left]

/-- The walkers find what a well-formed table has exactly when the table has a structure and nothing
follows the structures. -/
theorem walksRight_iff (t : Table) :
    WalksRight t ↔ t.structures ≠ [] ∧ t.trailing = [] := by
  constructor
  · intro h
    have hne : t.structures ≠ [] := by
      intro hnil
      -- a table without structures is too short for a header, and its count is an error code
      have hshort : ¬ sizeofHeader ≤ t.bytes.length := by
        rw [Table.bytes, hnil, List.flatMap_nil, List.nil_append]
        exact not_le.mpr t.trailing_lt
      obtain ⟨fuel, hcount⟩ := h.count 0
      rw [smbiosGetStructureCountOfType, if_neg fun hcall => hshort hcall.2, hnil] at hcount
      exact absurd (Except.ok.inj (Option.some.inj hcount)) (by decide)
    exact ⟨hne, eq_nil_of_visits hne rfl (h.visits hne)⟩
  · rintro ⟨hne, htrailing⟩
    have hbytes : t.bytes = t.structures.flatMap Structure.bytes := by
      rw [Table.bytes, htrailing, List.append_nil]
    obtain ⟨s, rest, hcons⟩ := List.exists_cons_of_ne_nil hne
    have hholds : Holds t.bytes 0 (s :: rest) := by rw [Holds, List.drop_zero, hbytes, hcons]
    have hdrop : t.bytes.drop 0 = t.structures.flatMap Structure.bytes ++ t.trailing := rfl
    exact
      { visits := fun _ => by
          rw [Table.placed, hcons]
          exact visits_structures hholds
        withHandle := fun handle => by
          rw [Table.placed, hcons]
          refine ⟨_, returns_withHandle_find hholds handle, ?_⟩
          cases ((placeFrom 0 (s :: rest)).find? fun e => e.2.handle = handle).map Prod.fst with
          | none => rfl
          | some p => rfl
        count := fun type => by
          rw [hcons]
          exact returns_count hholds type
        string := fun p s' hs n => by
          obtain ⟨after, hafter⟩ := drop_of_mem_placeFrom hdrop hs
          exact structureString_right hafter n }

/-- A table of one structure without strings, followed by a zero byte. -/
def oneAndAHalf : Table where
  structures := [⟨17, 1, [], [], by decide, by decide⟩]
  trailing := [0]
  trailing_lt := by decide

/-- The search for a handle that the table does not have returns the byte behind the structure. -/
theorem not_walksRight_trailing : ¬ WalksRight oneAndAHalf := by
  intro h
  obtain ⟨c, ⟨fuel, hc⟩, hfound⟩ := h.withHandle 2
  have hreturn : smbiosGetStructureWithHandle oneAndAHalf.bytes 2 (top oneAndAHalf.bytes) 1 =
      some (.ok ⟨some 6, 1⟩) := by decide
  have hmono : runLoop (withHandlePass oneAndAHalf.bytes 2) fuel (top oneAndAHalf.bytes) =
      some (.ok c) := hc
  obtain rfl := Except.ok.inj (runLoop_unique hmono hreturn)
  exact absurd hfound (by decide)

end IxpDimm.Smbios
