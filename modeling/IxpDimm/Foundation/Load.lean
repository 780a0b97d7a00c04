import IxpDimm.Foundation.FirstMatch
import Mathlib.Algebra.BigOperators.Group.List.Basic
import Mathlib.Algebra.Order.BigOperators.Group.List
import Mathlib.Algebra.Order.Ring.Nat

/-!
# The load of a list

The elements of a list that satisfy a test have weights, and the load is their sum.  The list stands
for what is kept on a resource, so that the load is what is taken of it.  The lemmas say what becomes
of the load when an element is added, replaced or removed.
-/

namespace Foundation

variable {α : Type*} {p : α → Bool} {weight : α → ℕ}

/-- The weights of the elements that satisfy a test. -/
def load (p : α → Bool) (weight : α → ℕ) (l : List α) : ℕ := ((l.filter p).map weight).sum

/-- What one element adds to the load. -/
def loadOf (p : α → Bool) (weight : α → ℕ) (a : α) : ℕ := if p a then weight a else 0

/-- The load of a list with another element. -/
theorem load_cons (a : α) (l : List α) : load p weight (a :: l) = loadOf p weight a + load p weight l := by
  unfold load loadOf
  split_ifs with h
  · rw [List.filter_cons_of_pos h, List.map_cons, List.sum_cons]
  · rw [List.filter_cons_of_neg h, Nat.zero_add]

/-- An element that is appended adds to the load. -/
theorem load_append_singleton (l : List α) (a : α) :
    load p weight (l ++ [a]) = load p weight l + loadOf p weight a := by
  have hone : load p weight [a] = loadOf p weight a := load_cons a []
  rw [← hone, load, load, load, List.filter_append, List.map_append, List.sum_append]

/-- Weights that agree on the elements that satisfy the test give the same load. -/
theorem load_congr {weight' : α → ℕ} {l : List α}
    (h : ∀ a ∈ l, p a = true → weight a = weight' a) : load p weight l = load p weight' l := by
  unfold load
  congr 1
  refine List.map_congr_left fun a ha => ?_
  obtain ⟨hmem, hp⟩ := List.mem_filter.mp ha
  exact h a hmem hp

/-- What holds of all elements holds of them still, if it holds of what the first one that matches is
replaced by. -/
theorem forall_mem_modifyFirst {P : α → Prop} {q : α → Bool} {f : α → α} {l : List α}
    (h : ∀ a ∈ l, P a) (hf : ∀ a ∈ l, P (f a)) : ∀ a ∈ modifyFirst q f l, P a := by
  induction l with
  | nil => exact h
  | cons b l ih =>
    obtain ⟨hb, hl⟩ := List.forall_mem_cons.mp h
    obtain ⟨hfb, hfl⟩ := List.forall_mem_cons.mp hf
    rw [modifyFirst]
    split_ifs
    · exact List.forall_mem_cons.mpr ⟨hfb, hl⟩
    · exact List.forall_mem_cons.mpr ⟨hb, ih hl hfl⟩

/-- The first element that matches is replaced by one with another weight. -/
theorem load_modifyFirst {q : α → Bool} {f : α → α} {l : List α} {a : α} (h : l.find? q = some a) :
    load p weight (modifyFirst q f l) + loadOf p weight a =
      load p weight l + loadOf p weight (f a) := by
  induction l with
  | nil => cases h
  | cons b l ih =>
    rw [modifyFirst]
    split_ifs with hq
    · rw [List.find?_cons_of_pos hq] at h
      obtain rfl := Option.some.inj h
      rw [load_cons, load_cons]
      omega
    · rw [List.find?_cons_of_neg hq] at h
      rw [load_cons, load_cons]
      have hrest := ih h
      omega

/-- An element that is removed takes its weight from the load. -/
theorem load_eraseP_le (q : α → Bool) (l : List α) : load p weight (l.eraseP q) ≤ load p weight l := by
  have hsublist := ((List.eraseP_sublist (p := q) (l := l)).filter p).map weight
  exact hsublist.sum_le_sum fun _ _ => Nat.zero_le _

end Foundation
