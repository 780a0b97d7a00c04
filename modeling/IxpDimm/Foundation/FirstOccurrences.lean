import Mathlib.Data.List.Basic
import Mathlib.Data.List.Nodup
import Mathlib.Order.Nat

/-!
# First occurrences

A loop that goes through a list and keeps what has a new key: each element whose key is not the key of
one that has been kept is admitted, or ends the loop with an error, and is put behind those that have
been kept.  What it keeps are the first occurrences of the keys (`firsts`), if all of them are admitted
(`collectFirsts_eq`).

An array with a fixed number of slots that takes each new element into its first free slot keeps the
first occurrences as far as it has slots for them (`foldl_putSlot`).
-/

namespace Foundation

variable {α κ ε : Type*} [DecidableEq κ] (key : α → κ)

/-- The first occurrences of the keys that are not among some others. -/
def firstsFrom : List κ → List α → List α
  | _, [] => []
  | seen, a :: l =>
    if key a ∈ seen then firstsFrom seen l else a :: firstsFrom (seen ++ [key a]) l

/-- The elements of a list that are the first with their key. -/
def firsts (l : List α) : List α := firstsFrom key [] l

variable {key}

/-- What is kept is in the list, in the same order. -/
theorem firstsFrom_sublist (seen : List κ) (l : List α) : (firstsFrom key seen l).Sublist l := by
  induction l generalizing seen with
  | nil => exact List.Sublist.refl _
  | cons a l ih =>
    rw [firstsFrom]
    split_ifs
    · exact (ih seen).cons a
    · exact (ih _).cons_cons a

/-- Looking for a key. -/
private theorem find?_key_cons (a b : α) (l : List α) :
    ((b :: l).find? fun c => key c = key a) =
      if key b = key a then some b else l.find? fun c => key c = key a := by
  rw [List.find?_cons]
  by_cases hkey : key b = key a
  · rw [if_pos hkey, decide_eq_true hkey]
  · rw [if_neg hkey, decide_eq_false hkey]

/-- An element is kept when its key is new and it is the first with it. -/
theorem mem_firstsFrom_iff {seen : List κ} {l : List α} {a : α} :
    a ∈ firstsFrom key seen l ↔ key a ∉ seen ∧ l.find? (fun b => key b = key a) = some a := by
  induction l generalizing seen with
  | nil => simp [firstsFrom]
  | cons b l ih =>
    rw [firstsFrom]
    split_ifs with hseen
    · rw [ih]
      refine and_congr_right fun hnew => ?_
      have hne : key b ≠ key a := fun heq => hnew (heq ▸ hseen)
      rw [find?_key_cons, if_neg hne]
    · rw [List.mem_cons, ih, List.mem_append, List.mem_singleton, not_or, find?_key_cons]
      by_cases hkey : key b = key a
      · rw [if_pos hkey, Option.some.injEq, eq_comm]
        constructor
        · rintro (rfl | ⟨⟨-, hne⟩, -⟩)
          · exact ⟨hseen, rfl⟩
          · exact absurd hkey.symm hne
        · exact fun h => .inl h.2
      · rw [if_neg hkey]
        constructor
        · rintro (rfl | ⟨⟨hnew, -⟩, hfind⟩)
          · exact absurd rfl hkey
          · exact ⟨hnew, hfind⟩
        · exact fun h => .inr ⟨⟨h.1, fun heq => hkey heq.symm⟩, h.2⟩

/-- The keys of what is kept are different. -/
theorem nodup_firstsFrom (seen : List κ) (l : List α) : ((firstsFrom key seen l).map key).Nodup := by
  induction l generalizing seen with
  | nil => exact List.nodup_nil
  | cons a l ih =>
    rw [firstsFrom]
    split_ifs
    · exact ih seen
    · rw [List.map_cons, List.nodup_cons]
      refine ⟨fun hmem => ?_, ih _⟩
      obtain ⟨b, hb, hkey⟩ := List.mem_map.mp hmem
      refine (mem_firstsFrom_iff.mp hb).1 ?_
      rw [hkey]
      exact List.mem_append_right _ (List.mem_singleton_self _)

/-- An element is a first occurrence when it is found by its key. -/
theorem mem_firsts_iff {l : List α} {a : α} :
    a ∈ firsts key l ↔ l.find? (fun b => key b = key a) = some a := by
  rw [firsts, mem_firstsFrom_iff, and_iff_right List.not_mem_nil]

/-- Every key has a first occurrence. -/
theorem exists_firsts {l : List α} {a : α} (h : a ∈ l) : ∃ b ∈ firsts key l, key b = key a := by
  have hsome : (l.find? fun b => key b = key a).isSome :=
    List.find?_isSome.mpr ⟨a, h, decide_eq_true rfl⟩
  obtain ⟨b, hb⟩ := Option.isSome_iff_exists.mp hsome
  have hkey : key b = key a := by
    have hfound := List.find?_some hb
    exact of_decide_eq_true hfound
  exact ⟨b, mem_firsts_iff.mpr (by rw [hkey]; exact hb), hkey⟩

/-- The keys that first occurrences have are those of the list. -/
theorem mem_map_firsts_iff {l : List α} {k : κ} :
    k ∈ (firsts key l).map key ↔ k ∈ l.map key := by
  constructor
  · intro h
    obtain ⟨a, ha, rfl⟩ := List.mem_map.mp h
    have hsublist : (firsts key l).Sublist l := firstsFrom_sublist [] l
    exact List.mem_map.mpr ⟨a, hsublist.subset ha, rfl⟩
  · intro h
    obtain ⟨a, ha, rfl⟩ := List.mem_map.mp h
    have hfirst : ∃ b ∈ firsts key l, key b = key a := exists_firsts ha
    obtain ⟨b, hb, hkey⟩ := hfirst
    exact List.mem_map.mpr ⟨b, hb, hkey⟩

/-! ### The loop -/

section Loop

variable (key) (allow : ℕ → α → Except ε Unit)

/-- The loop: `allow n a` says whether `a` may be kept when `n` have been kept before. -/
def collectFirsts : List α → List α → Except ε (List α)
  | [], kept => .ok kept
  | a :: l, kept =>
    if key a ∈ kept.map key then collectFirsts l kept
    else
      match allow kept.length a with
      | .ok () => collectFirsts l (kept ++ [a])
      | .error e => .error e

/-- Elements are admitted one after the other. -/
def admitAll : ℕ → List α → Except ε Unit
  | _, [] => .ok ()
  | n, a :: l =>
    match allow n a with
    | .ok () => admitAll (n + 1) l
    | .error e => .error e

/-- The loop keeps the first occurrences, if they are admitted. -/
theorem collectFirsts_eq (l kept : List α) :
    collectFirsts key allow l kept =
      (admitAll allow kept.length (firstsFrom key (kept.map key) l)).map
        fun _ => kept ++ firstsFrom key (kept.map key) l := by
  induction l generalizing kept with
  | nil =>
    rw [collectFirsts, firstsFrom, admitAll, List.append_nil]
    rfl
  | cons a l ih =>
    rw [collectFirsts, firstsFrom]
    split_ifs with hseen
    · exact ih kept
    · rw [admitAll]
      cases allow kept.length a with
      | error e => rfl
      | ok done =>
        dsimp only
        rw [ih, List.length_append, List.length_singleton, List.map_append, List.map_singleton,
          List.append_assoc, List.singleton_append]

variable {allow}

/-- Elements that pass a test are admitted, and the others end in one error. -/
theorem admitAll_test {test : α → Prop} [DecidablePred test] {e : ε}
    (h : ∀ n a, allow n a = if test a then .ok () else .error e) (n : ℕ) (l : List α) :
    admitAll allow n l = if ∀ a ∈ l, test a then .ok () else .error e := by
  induction l generalizing n with
  | nil => rw [admitAll, if_pos (List.forall_mem_nil _)]
  | cons a l ih =>
    rw [admitAll, h]
    by_cases hpass : test a
    · rw [if_pos hpass]
      dsimp only
      rw [ih]
      simp only [List.forall_mem_cons, hpass, true_and]
    · rw [if_neg hpass, if_neg fun hall => hpass (hall a List.mem_cons_self)]

/-- Elements are admitted as long as there is room. -/
theorem admitAll_room {room : ℕ} {e : ε}
    (h : ∀ n a, allow n a = if n < room then .ok () else .error e) {n : ℕ} (hn : n ≤ room)
    (l : List α) : admitAll allow n l = if n + l.length ≤ room then .ok () else .error e := by
  induction l generalizing n with
  | nil => rw [admitAll, if_pos (by simpa using hn)]
  | cons a l ih =>
    rw [admitAll, h, List.length_cons]
    by_cases hroom : n < room
    · rw [if_pos hroom]
      dsimp only
      have heq : n + 1 + l.length = n + (l.length + 1) := by omega
      rw [ih (Nat.succ_le_of_lt hroom), Nat.succ_eq_add_one, heq]
    · rw [if_neg hroom, if_neg (by omega)]

end Loop

/-! ### Slots -/

section Slots

variable [DecidableEq α] (free : α)

/-- An element is put into the first free slot, unless it is in a slot before it. -/
def putSlot (a : α) : List α → List α
  | [] => []
  | slot :: slots =>
    if slot = a then slot :: slots
    else if slot = free then a :: slots
    else slot :: putSlot a slots

/-- `n` slots, of which the first hold some elements and the others are free. -/
def slotsOf (n : ℕ) (held : List α) : List α := held ++ List.replicate (n - held.length) free

variable {free}

/-- Slots behind others that hold something else. -/
private theorem putSlot_append {a : α} {held slots : List α} (hfree : free ∉ held) (hnew : a ∉ held) :
    putSlot free a (held ++ slots) = held ++ putSlot free a slots := by
  induction held with
  | nil => rfl
  | cons b held ih =>
    rw [List.mem_cons, not_or] at hfree hnew
    rw [List.cons_append, putSlot, if_neg (Ne.symm hnew.1), if_neg (Ne.symm hfree.1),
      ih hfree.2 hnew.2, List.cons_append]

/-- An element that is held is not put into another slot. -/
private theorem putSlot_of_mem {a : α} {held slots : List α} (hfree : free ∉ held) (h : a ∈ held) :
    putSlot free a (held ++ slots) = held ++ slots := by
  induction held with
  | nil => exact absurd h List.not_mem_nil
  | cons b held ih =>
    rw [List.mem_cons, not_or] at hfree
    rw [List.cons_append, putSlot]
    by_cases hb : b = a
    · rw [if_pos hb]
    · have hrest : a ∈ held := (List.mem_cons.mp h).resolve_left fun heq => hb heq.symm
      rw [if_neg hb, if_neg (Ne.symm hfree.1), ih hfree.2 hrest]

/-- A new element takes the first free slot, if there is one. -/
private theorem putSlot_slotsOf {a : α} {n : ℕ} {held : List α} (hfree : free ∉ held)
    (hlength : held.length ≤ n) : putSlot free a (slotsOf free n held) =
      if a = free ∨ a ∈ held ∨ held.length = n then slotsOf free n held
      else slotsOf free n (held ++ [a]) := by
  unfold slotsOf
  by_cases hheld : a ∈ held
  · rw [if_pos (.inr (.inl hheld)), putSlot_of_mem hfree hheld]
  · rw [putSlot_append hfree hheld]
    rcases hlength.eq_or_lt with hfull | hroom
    · rw [if_pos (.inr (.inr hfull)), hfull, Nat.sub_self, List.replicate_zero, putSlot]
    · obtain ⟨k, hk⟩ : ∃ k, n - held.length = k + 1 := ⟨n - held.length - 1, by omega⟩
      have hk' : n - (held ++ [a]).length = k := by
        rw [List.length_append, List.length_singleton]
        omega
      rw [hk, hk', List.replicate_succ, putSlot]
      by_cases ha : a = free
      · rw [if_pos ha.symm]
        exact (if_pos (.inl ha)).symm
      · have hnot : ¬ (a = free ∨ a ∈ held ∨ held.length = n) := by
          rintro (h | h | h)
          · exact ha h
          · exact hheld h
          · exact hroom.ne h
        rw [if_neg hnot, if_neg (Ne.symm ha), if_pos rfl, List.append_assoc, List.singleton_append]

/-- Slots that are all taken stay as they are. -/
private theorem foldl_putSlot_full {n : ℕ} {held : List α} (hfree : free ∉ held)
    (hfull : held.length = n) (l : List α) :
    l.foldl (fun slots a => putSlot free a slots) (slotsOf free n held) = slotsOf free n held := by
  induction l with
  | nil => rfl
  | cons a l ih =>
    rw [List.foldl_cons, putSlot_slotsOf hfree hfull.le, if_pos (.inr (.inr hfull))]
    exact ih

/-- The slots hold the first occurrences of what is not free, as far as there are slots for them. -/
theorem foldl_putSlot {n : ℕ} {held : List α} (hfree : free ∉ held) (hlength : held.length ≤ n)
    (l : List α) : l.foldl (fun slots a => putSlot free a slots) (slotsOf free n held) =
      slotsOf free n ((held ++ firstsFrom id held (l.filter fun a => a ≠ free)).take n) := by
  induction l generalizing held with
  | nil => rw [List.filter_nil, firstsFrom, List.append_nil, List.take_of_length_le hlength]; rfl
  | cons a l ih =>
    rcases hlength.eq_or_lt with hfull | hroom
    · rw [foldl_putSlot_full hfree hfull, List.take_append_of_le_length hfull.ge,
        List.take_of_length_le hlength]
    · rw [List.foldl_cons, putSlot_slotsOf hfree hlength, List.filter_cons]
      by_cases ha : a = free
      · have hskip : (decide (a ≠ free)) = false := decide_eq_false (not_not.mpr ha)
        rw [if_pos (.inl ha), hskip, if_neg Bool.false_ne_true]
        exact ih hfree hlength
      · rw [decide_eq_true ha, if_pos rfl, firstsFrom, id_eq]
        by_cases hheld : a ∈ held
        · rw [if_pos (.inr (.inl hheld)), if_pos hheld]
          exact ih hfree hlength
        · have hnot : ¬ (a = free ∨ a ∈ held ∨ held.length = n) := by
            rintro (h | h | h)
            · exact ha h
            · exact hheld h
            · exact hroom.ne h
          have hfree' : free ∉ held ++ [a] := by
            rw [List.mem_append, List.mem_singleton, not_or]
            exact ⟨hfree, Ne.symm ha⟩
          have hlength' : (held ++ [a]).length ≤ n := by
            rw [List.length_append, List.length_singleton]
            exact hroom
          rw [if_neg hnot, if_neg hheld, ih hfree' hlength', List.append_assoc,
            List.singleton_append]

end Slots

end Foundation
