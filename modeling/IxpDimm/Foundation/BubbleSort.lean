import Mathlib.Data.List.Perm.Basic
import Mathlib.Order.Lattice
import Mathlib.Tactic.Common

/-!
# Bubble sort

The sort with two nested loops that compares neighbours and swaps them: a pass over the first
elements moves a largest one of them to their end, and each pass is shorter by one than the one
before.  The sorted list is a permutation of the list, so where equal keys belong to equal elements
it does not depend on the order of the list.
-/

namespace Foundation

variable {α β : Type*} [LinearOrder β] (key : α → β)

/-- The inner loop: the first comparisons of neighbours. -/
def bubblePass : ℕ → List α → List α
  | n + 1, a :: b :: l =>
    if key a > key b then b :: bubblePass n (a :: l) else a :: bubblePass n (b :: l)
  | _, l => l

/-- The outer loop, from a pass with a number of comparisons on. -/
def bubblePasses : ℕ → List α → List α
  | 0, l => l
  | n + 1, l => bubblePasses n (bubblePass key (n + 1) l)

/-- The sort: the first pass compares all neighbours. -/
def bubbleSort (l : List α) : List α := bubblePasses key (l.length - 1) l

/-! ### The elements stay -/

/-- A pass permutes. -/
theorem bubblePass_perm (n : ℕ) (l : List α) : (bubblePass key n l).Perm l := by
  fun_induction bubblePass key n l with
  | case1 n a b l _ ih => exact (ih.cons b).trans (List.Perm.swap a b l)
  | case2 n a b l _ ih => exact ih.cons a
  | case3 => exact List.Perm.refl _

/-- The passes permute. -/
theorem bubblePasses_perm (n : ℕ) (l : List α) : (bubblePasses key n l).Perm l := by
  induction n generalizing l with
  | zero => exact List.Perm.refl _
  | succ n ih => exact (ih _).trans (bubblePass_perm key _ l)

/-- The sort permutes. -/
theorem bubbleSort_perm (l : List α) : (bubbleSort key l).Perm l := bubblePasses_perm key _ l

/-! ### The keys ascend -/

/-- A pass over the front of a list leaves a largest element of it at its end and the back as it
is. -/
theorem bubblePass_append {n : ℕ} {front : List α} (hlength : front.length = n + 1)
    (back : List α) : ∃ rest last, bubblePass key n (front ++ back) = rest ++ last :: back ∧
      (rest ++ [last]).Perm front ∧ ∀ a ∈ rest, key a ≤ key last := by
  induction n generalizing front with
  | zero =>
    obtain ⟨a, rfl⟩ := List.length_eq_one_iff.mp hlength
    refine ⟨[], a, ?_, List.Perm.refl _, List.forall_mem_nil _⟩
    rw [bubblePass]
    · rfl
    · exact fun _ _ _ _ h => absurd h (Nat.succ_ne_zero _).symm
  | succ n ih =>
    match front, hlength with
    | a :: b :: front, hlength =>
      rw [List.length_cons, Nat.add_right_cancel_iff] at hlength
      by_cases hswap : key a > key b
      · obtain ⟨rest, last, heq, hperm, hlargest⟩ := @ih (a :: front) hlength
        refine ⟨b :: rest, last, ?_, ?_, ?_⟩
        · exact (if_pos hswap).trans (congrArg (b :: ·) heq)
        · exact (hperm.cons b).trans (List.Perm.swap a b front)
        · -- the element that was swapped back is below the one that goes on
          have ha : key a ≤ key last := by
            rcases List.mem_append.mp (hperm.mem_iff.mpr List.mem_cons_self) with h | h
            · exact hlargest a h
            · rw [List.mem_singleton.mp h]
          exact List.forall_mem_cons.mpr ⟨le_trans (le_of_lt hswap) ha, hlargest⟩
      · obtain ⟨rest, last, heq, hperm, hlargest⟩ := @ih (b :: front) hlength
        refine ⟨a :: rest, last, ?_, hperm.cons a, ?_⟩
        · exact (if_neg hswap).trans (congrArg (a :: ·) heq)
        · have hb : key b ≤ key last := by
            rcases List.mem_append.mp (hperm.mem_iff.mpr List.mem_cons_self) with h | h
            · exact hlargest b h
            · rw [List.mem_singleton.mp h]
          exact List.forall_mem_cons.mpr ⟨le_trans (not_lt.mp hswap) hb, hlargest⟩

/-- The passes sort the front of a list before a sorted back with larger keys. -/
theorem bubblePasses_pairwise {n : ℕ} {front back : List α} (hlength : front.length = n + 1)
    (hback : back.Pairwise fun a b => key a ≤ key b)
    (hlarger : ∀ a ∈ front, ∀ b ∈ back, key a ≤ key b) :
    (bubblePasses key n (front ++ back)).Pairwise fun a b => key a ≤ key b := by
  induction n generalizing front back with
  | zero =>
    obtain ⟨a, rfl⟩ := List.length_eq_one_iff.mp hlength
    exact List.pairwise_cons.mpr ⟨hlarger a (List.mem_singleton_self a), hback⟩
  | succ n ih =>
    obtain ⟨rest, last, heq, hperm, hlargest⟩ := bubblePass_append key hlength back
    have hlast : last ∈ front := hperm.mem_iff.mp (List.mem_append_right _ (List.mem_singleton_self _))
    have hrest : ∀ a ∈ rest, a ∈ front := fun a ha => hperm.mem_iff.mp (List.mem_append_left _ ha)
    rw [bubblePasses, heq]
    apply ih
    · have hcount := hperm.length_eq
      rw [List.length_append, List.length_singleton, hlength] at hcount
      exact Nat.add_right_cancel hcount
    · exact List.pairwise_cons.mpr ⟨hlarger last hlast, hback⟩
    · intro a ha
      exact List.forall_mem_cons.mpr ⟨hlargest a ha, hlarger a (hrest a ha)⟩

/-- The sorted list has ascending keys. -/
theorem bubbleSort_pairwise (l : List α) :
    (bubbleSort key l).Pairwise fun a b => key a ≤ key b := by
  cases l with
  | nil => exact List.Pairwise.nil
  | cons a l =>
    have hsorted := @bubblePasses_pairwise _ _ _ key l.length (a :: l) [] List.length_cons
      List.Pairwise.nil fun _ _ => List.forall_mem_nil _
    rwa [List.append_nil] at hsorted

/-- Where equal keys belong to equal elements, permutations are sorted to the same list. -/
theorem bubbleSort_eq_of_perm {l l' : List α} (h : l.Perm l')
    (hkey : ∀ a ∈ l, ∀ b ∈ l, key a = key b → a = b) : bubbleSort key l = bubbleSort key l' := by
  have hperm : (bubbleSort key l).Perm (bubbleSort key l') :=
    (bubbleSort_perm key l).trans (h.trans (bubbleSort_perm key l').symm)
  refine hperm.eq_of_pairwise ?_ (bubbleSort_pairwise key l) (bubbleSort_pairwise key l')
  intro a b ha hb hle hge
  have hmem := (bubbleSort_perm key l).mem_iff.mp ha
  have hmem' := h.mem_iff.mpr ((bubbleSort_perm key l').mem_iff.mp hb)
  exact hkey a hmem b hmem' (le_antisymm hle hge)

end Foundation
