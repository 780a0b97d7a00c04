import IxpDimm.Foundation.TableUpdate
import Mathlib.Order.Lattice

/-!
# Ordered maps

A `std::map` as the list of its entries in the order of their keys.  `assign k v m` is
`m[k] = v`, and `lookup k m` what is found at a key.  A map that a loop fills by assigning, for each
element of a list, a value that is made from the element and from what is found at its key
(`fillMap`) is at each key the table that `updateAll` makes.
-/

namespace Foundation

variable {α κ ν : Type*} [LinearOrder κ]

/-- The keys of the entries are in increasing order. -/
def Ascending (m : List (κ × ν)) : Prop := (m.map Prod.fst).Pairwise (· < ·)

/-- `m[k] = v`. -/
def assign (k : κ) (v : ν) : List (κ × ν) → List (κ × ν)
  | [] => [(k, v)]
  | e :: m =>
    if k < e.1 then (k, v) :: e :: m
    else if k = e.1 then (k, v) :: m
    else e :: assign k v m

/-- What is found at a key. -/
def lookup (k : κ) (m : List (κ × ν)) : Option ν := (m.find? fun e => e.1 = k).map Prod.snd

@[simp] theorem lookup_nil (k : κ) : lookup k ([] : List (κ × ν)) = none := rfl

/-- What is found at a key of a map with a first entry. -/
theorem lookup_cons (k : κ) (e : κ × ν) (m : List (κ × ν)) :
    lookup k (e :: m) = if e.1 = k then some e.2 else lookup k m := by
  unfold lookup
  by_cases h : e.1 = k
  · rw [if_pos h, List.find?_cons_of_pos (by simpa using h), Option.map_some]
  · rw [if_neg h, List.find?_cons_of_neg (by simpa using h)]

/-- The entries of a map after an assignment. -/
theorem mem_assign {k : κ} {v : ν} {m : List (κ × ν)} {e : κ × ν} (h : e ∈ assign k v m) :
    e = (k, v) ∨ e ∈ m := by
  induction m with
  | nil => exact .inl (List.mem_singleton.mp h)
  | cons e' m ih =>
    rw [assign] at h
    split_ifs at h with hlt heq
    · exact List.mem_cons.mp h
    · rcases List.mem_cons.mp h with h | h
      · exact .inl h
      · exact .inr (List.mem_cons_of_mem _ h)
    · rcases List.mem_cons.mp h with h | h
      · exact .inr (h ▸ List.mem_cons_self)
      · exact (ih h).imp id (List.mem_cons_of_mem _)

/-- An assignment keeps the order. -/
theorem Ascending.assign {m : List (κ × ν)} (h : Ascending m) (k : κ) (v : ν) :
    Ascending (assign k v m) := by
  induction m with
  | nil => exact List.pairwise_singleton _ _
  | cons e m ih =>
    have hcons := List.pairwise_cons.mp h
    unfold Foundation.assign
    split_ifs with hlt heq
    · refine List.pairwise_cons.mpr ⟨fun j hj => ?_, h⟩
      rcases List.mem_cons.mp hj with rfl | hj
      · exact hlt
      · exact lt_trans hlt (hcons.1 j hj)
    · subst heq
      exact h
    · refine List.pairwise_cons.mpr ⟨fun j hj => ?_, ih hcons.2⟩
      obtain ⟨e', he', rfl⟩ := List.mem_map.mp hj
      rcases mem_assign he' with rfl | he'
      · exact lt_of_le_of_ne (not_lt.mp hlt) (Ne.symm heq)
      · exact hcons.1 _ (List.mem_map_of_mem he')

/-- Nothing is found at a key below all others. -/
theorem lookup_eq_none_of_lt {k : κ} {m : List (κ × ν)} (h : ∀ j ∈ m.map Prod.fst, k < j) :
    lookup k m = none := by
  have hnone : m.find? (fun e => e.1 = k) = none := by
    refine List.find?_eq_none.mpr fun e he hek => ?_
    exact ne_of_gt (h e.1 (List.mem_map_of_mem he)) (of_decide_eq_true hek)
  rw [lookup, hnone, Option.map_none]

/-- What is found after an assignment. -/
theorem lookup_assign (k : κ) (v : ν) (m : List (κ × ν)) (j : κ) :
    lookup j (assign k v m) = if j = k then some v else lookup j m := by
  induction m with
  | nil =>
    rw [assign, lookup_cons, lookup_nil]
    exact if_congr eq_comm rfl rfl
  | cons e m ih =>
    rw [assign]
    by_cases hlt : k < e.1
    · rw [if_pos hlt, lookup_cons]
      exact if_congr eq_comm rfl rfl
    · rw [if_neg hlt]
      by_cases heq : k = e.1
      · subst heq
        rw [if_pos rfl, lookup_cons, lookup_cons]
        by_cases hj : j = e.1
        · rw [if_pos hj, if_pos hj.symm]
        · rw [if_neg hj, if_neg (Ne.symm hj), if_neg (Ne.symm hj)]
      · rw [if_neg heq, lookup_cons, lookup_cons, ih]
        by_cases hj : j = k
        · rw [if_neg fun h => heq (hj.symm.trans h.symm), if_pos hj, if_pos hj]
        · rw [if_neg hj, if_neg hj]

/-- The entries of a map are what is found at their keys. -/
theorem mem_iff_lookup {m : List (κ × ν)} (h : Ascending m) (k : κ) (v : ν) :
    (k, v) ∈ m ↔ lookup k m = some v := by
  induction m with
  | nil => simp
  | cons e m ih =>
    have hcons := List.pairwise_cons.mp h
    rw [List.mem_cons, lookup_cons, ih hcons.2]
    by_cases hk : e.1 = k
    · subst hk
      rw [if_pos rfl, Option.some.injEq]
      constructor
      · rintro (heq | hlater)
        · rw [← heq]
        · have hmem := (ih hcons.2).mpr hlater
          have hkey : e.1 ∈ m.map Prod.fst := List.mem_map.mpr ⟨_, hmem, rfl⟩
          exact absurd (hcons.1 e.1 hkey) (lt_irrefl _)
      · rintro rfl
        exact .inl rfl
    · rw [if_neg hk]
      refine or_iff_right fun heq => hk ?_
      rw [← heq]

/-- No two entries of a map have the same key. -/
theorem Ascending.nodup {m : List (κ × ν)} (h : Ascending m) : (m.map Prod.fst).Nodup :=
  h.imp ne_of_lt

/-- The loop that assigns, for each element, a value made from it and what is found at its key. -/
def fillMap (key : α → κ) (value : α → Option ν → ν) (l : List α) (m : List (κ × ν)) :
    List (κ × ν) :=
  l.foldl (fun m a => assign (key a) (value a (lookup (key a) m)) m) m

/-- The loop keeps the order. -/
theorem Ascending.fillMap {key : α → κ} {value : α → Option ν → ν} {l : List α}
    {m : List (κ × ν)} (h : Ascending m) : Ascending (fillMap key value l m) := by
  induction l generalizing m with
  | nil => exact h
  | cons a l ih => exact ih (h.assign _ _)

/-- What holds of the entries that are assigned holds of all entries. -/
theorem forall_mem_fillMap {key : α → κ} {value : α → Option ν → ν} {P : κ × ν → Prop}
    (h : ∀ a found, P (key a, value a found)) {l : List α} {m : List (κ × ν)}
    (hm : ∀ e ∈ m, P e) : ∀ e ∈ fillMap key value l m, P e := by
  induction l generalizing m with
  | nil => exact hm
  | cons a l ih =>
    refine ih fun e he => ?_
    rcases mem_assign he with rfl | he
    · exact h a _
    · exact hm e he

/-- What is found after the loop is what a table would have. -/
theorem lookup_fillMap (key : α → κ) (value : α → Option ν → ν) (l : List α)
    (m : List (κ × ν)) : (fun k => lookup k (fillMap key value l m)) =
      updateAll key (fun a found => some (value a found)) l fun k => lookup k m := by
  induction l generalizing m with
  | nil => rfl
  | cons a l ih =>
    rw [updateAll_cons]
    refine (ih _).trans (congrArg _ (funext fun k => ?_))
    rw [lookup_assign, Function.update_apply]

/-- What is found after the loop at a key that no element has. -/
theorem lookup_fillMap_of_notMem {key : α → κ} {l : List α} {k : κ} (hk : k ∉ l.map key)
    (value : α → Option ν → ν) (m : List (κ × ν)) :
    lookup k (fillMap key value l m) = lookup k m :=
  (congrFun (lookup_fillMap key value l m) k).trans (updateAll_apply_of_notMem hk _)

/-- What is found after the loop at the key of an element, if no two have the same key. -/
theorem lookup_fillMap_of_mem {key : α → κ} {l : List α} (hnd : (l.map key).Nodup) {a : α}
    (ha : a ∈ l) (value : α → Option ν → ν) (m : List (κ × ν)) :
    lookup (key a) (fillMap key value l m) = some (value a (lookup (key a) m)) :=
  (congrFun (lookup_fillMap key value l m) (key a)).trans (updateAll_apply_of_mem hnd ha _)

end Foundation
