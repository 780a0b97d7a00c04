import IxpDimm.Foundation.FirstMatch
import Mathlib.Data.Finset.Card
import Mathlib.Data.List.Perm.Basic

/-!
# Cells with a key

A list of cells, each with its own key, that a loop fills: an element is entered into the cell of its
key, and a cell is made at the end of the list when there is none yet.  The keys stay distinct and
are those of the elements (`toFinset_keys_upsertAll`), and the cell of a key is
what the elements with this key make of a fresh cell (`find?_upsertAll`).

If no two elements of a list have the same key, looking one up does not depend on the order of the
list (`find?_eq_of_perm`, `filter_eq_of_perm`).
-/

namespace Foundation

variable {α κ σ : Type*} [DecidableEq κ]

/-! ### Looking up by a key of its own -/

/-- The elements with a key are what is found by it, if no two elements have the same key. -/
theorem filter_eq_toList_find? {key : α → κ} {l : List α} (hnd : (l.map key).Nodup) (k : κ) :
    l.filter (fun a => key a = k) = (l.find? fun a => key a = k).toList := by
  have hone : (l.filter fun a => key a = k).length ≤ 1 := by
    rw [← List.countP_eq_length_filter]
    have hcount := List.nodup_iff_count_le_one.mp hnd k
    rw [List.count_eq_countP, List.countP_map] at hcount
    refine le_trans (le_of_eq (List.countP_congr fun a _ => ?_)) hcount
    simp
  rw [← List.head?_filter]
  match l.filter fun a => key a = k, hone with
  | [], _ => rfl
  | [_], _ => rfl

/-- An element is found by its key, if no two elements have the same key. -/
theorem find?_eq_some_of_mem {key : α → κ} {l : List α} (hnd : (l.map key).Nodup) {a : α}
    (ha : a ∈ l) : l.find? (fun b => key b = key a) = some a := by
  have hmem : a ∈ l.filter fun b => key b = key a := List.mem_filter.mpr ⟨ha, by simp⟩
  rw [filter_eq_toList_find? hnd, Option.mem_toList] at hmem
  exact hmem

/-- The elements with a key are the same in every order, if no two elements have the same key. -/
theorem filter_eq_of_perm {key : α → κ} {l l' : List α} (h : l.Perm l') (hnd : (l.map key).Nodup)
    (k : κ) : l.filter (fun a => key a = k) = l'.filter (fun a => key a = k) := by
  have hperm := h.filter fun a => decide (key a = k)
  rw [filter_eq_toList_find? hnd] at hperm ⊢
  cases hfind : l.find? fun a => decide (key a = k) with
  | none =>
    rw [hfind, Option.toList_none] at hperm
    exact (List.nil_perm.mp hperm).symm
  | some a =>
    rw [hfind, Option.toList_some] at hperm
    exact List.singleton_perm.mp hperm

/-- What is found by a key is the same in every order, if no two elements have the same key. -/
theorem find?_eq_of_perm {key : α → κ} {l l' : List α} (h : l.Perm l') (hnd : (l.map key).Nodup)
    (k : κ) : l.find? (fun a => key a = k) = l'.find? (fun a => key a = k) := by
  rw [← List.head?_filter, ← List.head?_filter, filter_eq_of_perm h hnd k]

omit [DecidableEq κ] in
/-- Of the rows of the elements of a list, those with the key of an element are its own, if no two
elements have the same key. -/
theorem filter_flatMap_eq {β : Type*} {key : α → κ} {l : List α} (hnd : (l.map key).Nodup)
    {f : α → List β} {p : β → Bool} {a : α} (ha : a ∈ l)
    (hp : ∀ b ∈ l, ∀ x ∈ f b, p x = true ↔ key b = key a) : (l.flatMap f).filter p = f a := by
  induction l with
  | nil => cases ha
  | cons b l ih =>
    rw [List.map_cons, List.nodup_cons] at hnd
    have hother : ∀ c ∈ l, key c ≠ key b := fun c hc heq =>
      hnd.1 (heq ▸ List.mem_map_of_mem hc)
    rw [List.flatMap_cons, List.filter_append]
    rcases List.mem_cons.mp ha with rfl | hmem
    · have hself : (f a).filter p = f a :=
        List.filter_eq_self.mpr fun x hx => (hp a List.mem_cons_self x hx).mpr rfl
      have hrest : (l.flatMap f).filter p = [] := by
        refine List.filter_eq_nil_iff.mpr fun x hx hpx => ?_
        obtain ⟨c, hc, hxc⟩ := List.mem_flatMap.mp hx
        exact hother c hc ((hp c (List.mem_cons_of_mem a hc) x hxc).mp hpx)
      rw [hself, hrest, List.append_nil]
    · have hfirst : (f b).filter p = [] :=
        List.filter_eq_nil_iff.mpr fun x hx hpx =>
          hother a hmem ((hp b List.mem_cons_self x hx).mp hpx).symm
      rw [hfirst, List.nil_append, ih hnd.2 hmem fun c hc => hp c (List.mem_cons_of_mem b hc)]

/-! ### Entering into the cell of a key -/

/-- The element at the index of the first match is the first match. -/
theorem modify_eq_modifyFirst {p : α → Bool} {f : α → α} {l : List α} {i : ℕ}
    (h : l.findIdx? p = some i) : l.modify i f = modifyFirst p f l := by
  induction l generalizing i with
  | nil => simp at h
  | cons a l ih =>
    rw [List.findIdx?_cons] at h
    rw [modifyFirst]
    by_cases hp : p a = true
    · rw [if_pos hp, Option.some.injEq] at h
      rw [if_pos hp, ← h, List.modify_zero_cons]
    · rw [if_neg hp, Option.map_eq_some_iff] at h
      obtain ⟨j, hj, rfl⟩ := h
      rw [if_neg hp, List.modify_succ_cons, ih hj]

omit [DecidableEq κ] in
/-- An update that keeps a key keeps the keys of the list. -/
theorem map_modifyFirst {key : α → κ} {p : α → Bool} {f : α → α} (hf : ∀ a, key (f a) = key a)
    (l : List α) : (modifyFirst p f l).map key = l.map key := by
  induction l with
  | nil => rfl
  | cons a l ih =>
    rw [modifyFirst]
    split_ifs
    · rw [List.map_cons, List.map_cons, hf]
    · rw [List.map_cons, List.map_cons, ih]

/-- An update of the cell of a key leaves what is found by another key. -/
theorem find?_modifyFirst_of_ne {key : α → κ} {f : α → α} (hf : ∀ a, key (f a) = key a) {k k' : κ}
    (hne : k' ≠ k) (l : List α) :
    (modifyFirst (fun a => key a = k) f l).find? (fun a => key a = k') =
      l.find? fun a => key a = k' := by
  induction l with
  | nil => rfl
  | cons a l ih =>
    rw [modifyFirst]
    by_cases hk : key a = k
    · have hfirst : decide (key a = k') = false := by simpa [hk] using hne.symm
      rw [if_pos (by simpa using hk), List.find?_cons, List.find?_cons, hf, hfirst]
    · rw [if_neg (by simpa using hk), List.find?_cons, List.find?_cons, ih]

/-- The cell of a key is updated, after being made at the end if there is none. -/
def upsert (key : σ → κ) (k : κ) (fresh : σ) (f : σ → σ) (cells : List σ) : List σ :=
  match cells.findIdx? fun c => key c = k with
  | some i => cells.modify i f
  | none => cells ++ [f fresh]

section Upsert

variable {key : σ → κ} {k : κ} {fresh : σ} {f : σ → σ} {cells : List σ}

/-- A key that has a cell has an index. -/
theorem exists_findIdx?_of_mem (h : k ∈ cells.map key) :
    ∃ i, cells.findIdx? (fun c => key c = k) = some i := by
  cases hidx : cells.findIdx? fun c => key c = k with
  | none =>
    obtain ⟨c, hc, hck⟩ := List.mem_map.mp h
    have := List.findIdx?_eq_none_iff.mp hidx c hc
    simp [hck] at this
  | some i => exact ⟨i, rfl⟩

/-- A key that has no cell has no index. -/
theorem findIdx?_eq_none_of_notMem (h : k ∉ cells.map key) :
    cells.findIdx? (fun c => key c = k) = none := by
  refine List.findIdx?_eq_none_iff.mpr fun c hc => ?_
  simp only [decide_eq_false_iff_not]
  rintro rfl
  exact h (List.mem_map_of_mem hc)

/-- A key has a cell. -/
theorem upsert_of_mem (h : k ∈ cells.map key) :
    upsert key k fresh f cells = modifyFirst (fun c => key c = k) f cells := by
  obtain ⟨i, hidx⟩ := exists_findIdx?_of_mem h
  rw [upsert, hidx, ← modify_eq_modifyFirst hidx]

/-- A key has no cell. -/
theorem upsert_of_notMem (h : k ∉ cells.map key) :
    upsert key k fresh f cells = cells ++ [f fresh] := by
  rw [upsert, findIdx?_eq_none_of_notMem h]

variable (hf : ∀ c, key (f c) = key c) (hfresh : key fresh = k)
include hf hfresh

/-- The keys of the list, with the key at the end if it is new. -/
theorem map_key_upsert : (upsert key k fresh f cells).map key =
    if k ∈ cells.map key then cells.map key else cells.map key ++ [k] := by
  split_ifs with h
  · rw [upsert_of_mem h, map_modifyFirst hf]
  · rw [upsert_of_notMem h, List.map_append, List.map_singleton, hf, hfresh]

/-- The cell of the key. -/
theorem find?_upsert_self : (upsert key k fresh f cells).find? (fun c => key c = k) =
    some (f ((cells.find? fun c => key c = k).getD fresh)) := by
  by_cases h : k ∈ cells.map key
  · obtain ⟨c, hc, hck⟩ := List.mem_map.mp h
    have hsome : (cells.find? fun c => decide (key c = k)).isSome := by
      refine List.find?_isSome.mpr ⟨c, hc, by simpa using hck⟩
    obtain ⟨found, hfound⟩ := Option.isSome_iff_exists.mp hsome
    have hkeep : ∀ a, decide (key a = k) = true → decide (key (f a) = k) = true := by
      intro a ha
      rwa [hf]
    rw [upsert_of_mem h, find?_modifyFirst hkeep, hfound, Option.map_some, Option.getD_some]
  · have hnone : (cells.find? fun c => decide (key c = k)) = none := by
      refine List.find?_eq_none.mpr fun c hc hck => h ?_
      exact List.mem_map.mpr ⟨c, hc, by simpa using hck⟩
    rw [upsert_of_notMem h, List.find?_append, hnone, Option.none_or, Option.getD_none,
      List.find?_singleton, hf, hfresh]
    simp

/-- The cell of another key. -/
theorem find?_upsert_of_ne {k' : κ} (hne : k' ≠ k) :
    (upsert key k fresh f cells).find? (fun c => key c = k') =
      cells.find? fun c => key c = k' := by
  by_cases h : k ∈ cells.map key
  · rw [upsert_of_mem h, find?_modifyFirst_of_ne hf hne]
  · have hlast : ¬ decide (key (f fresh) = k') = true := by
      rw [hf, hfresh]
      simpa using hne.symm
    rw [upsert_of_notMem h, List.find?_append, List.find?_singleton, if_neg hlast, Option.or_none]

end Upsert

/-! ### A loop that enters elements -/

/-- Every element is entered into the cell of its key. -/
def upsertAll (key : σ → κ) (keyOf : α → κ) (fresh : κ → σ) (step : α → σ → σ) (cells : List σ)
    (l : List α) : List σ :=
  l.foldl (fun cells a => upsert key (keyOf a) (fresh (keyOf a)) (step a) cells) cells

section UpsertAll

variable {key : σ → κ} {keyOf : α → κ} {fresh : κ → σ} {step : α → σ → σ}
  (hstep : ∀ a c, key (step a c) = key c) (hfresh : ∀ k, key (fresh k) = k)
include hstep hfresh

/-- The keys stay distinct. -/
theorem nodup_keys_upsertAll {cells : List σ} (hnd : (cells.map key).Nodup) (l : List α) :
    ((upsertAll key keyOf fresh step cells l).map key).Nodup := by
  induction l generalizing cells with
  | nil => exact hnd
  | cons a l ih =>
    refine ih ?_
    rw [map_key_upsert (hstep a) (hfresh _)]
    split_ifs with h
    · exact hnd
    · refine List.nodup_append.mpr ⟨hnd, List.nodup_singleton _, ?_⟩
      intro x hx y hy hxy
      rw [List.mem_singleton] at hy
      exact h (hy ▸ hxy ▸ hx)

/-- The keys are those of the cells and of the elements. -/
theorem toFinset_keys_upsertAll (cells : List σ) (l : List α) :
    ((upsertAll key keyOf fresh step cells l).map key).toFinset =
      (cells.map key).toFinset ∪ (l.map keyOf).toFinset := by
  induction l generalizing cells with
  | nil => simp [upsertAll]
  | cons a l ih =>
    refine (ih _).trans ?_
    rw [map_key_upsert (hstep a) (hfresh _), List.map_cons, List.toFinset_cons]
    ext k
    split_ifs with h
    · simp only [Finset.mem_union, Finset.mem_insert, List.mem_toFinset]
      constructor
      · rintro (hk | hk)
        · exact Or.inl hk
        · exact Or.inr (Or.inr hk)
      · rintro (hk | rfl | hk)
        · exact Or.inl hk
        · exact Or.inl h
        · exact Or.inr hk
    · simp only [Finset.mem_union, Finset.mem_insert, List.mem_toFinset, List.mem_append,
        List.mem_singleton, or_assoc]

/-- No cell is lost. -/
theorem length_le_length_upsertAll (cells : List σ) (l : List α) :
    cells.length ≤ (upsertAll key keyOf fresh step cells l).length := by
  induction l generalizing cells with
  | nil => exact Nat.le_refl _
  | cons a l ih =>
    refine le_trans ?_ (ih _)
    have hkeys : (upsert key (keyOf a) (fresh (keyOf a)) (step a) cells).map key = _ :=
      map_key_upsert (hstep a) (hfresh _)
    rw [← List.length_map (f := key), ← List.length_map (f := key), hkeys]
    split_ifs
    · exact Nat.le_refl _
    · rw [List.length_append]
      exact Nat.le_add_right _ _

/-- The cell of a key is what the elements with the key make of it. -/
theorem find?_upsertAll (cells : List σ) (l : List α) (k : κ) :
    (upsertAll key keyOf fresh step cells l).find? (fun c => key c = k) =
      if k ∈ l.map keyOf then
        some ((l.filter fun a => keyOf a = k).foldl (fun c a => step a c)
          ((cells.find? fun c => key c = k).getD (fresh k)))
      else cells.find? fun c => key c = k := by
  induction l generalizing cells with
  | nil => simp [upsertAll]
  | cons a l ih =>
    refine (ih _).trans ?_
    by_cases hk : keyOf a = k
    · subst hk
      rw [find?_upsert_self (hstep a) (hfresh _), List.map_cons, if_pos List.mem_cons_self,
        List.filter_cons_of_pos (by simp), List.foldl_cons, Option.getD_some]
      split_ifs with h
      · rfl
      · have hnone : (l.filter fun b => keyOf b = keyOf a) = [] := by
          refine List.filter_eq_nil_iff.mpr fun b hb hbk => h ?_
          exact List.mem_map.mpr ⟨b, hb, by simpa using hbk⟩
        rw [hnone, List.foldl_nil]
    · rw [find?_upsert_of_ne (hstep a) (hfresh _) (Ne.symm hk), List.map_cons,
        List.filter_cons_of_neg (by simpa using hk)]
      simp only [List.mem_cons, Ne.symm hk, false_or]

end UpsertAll

end Foundation
