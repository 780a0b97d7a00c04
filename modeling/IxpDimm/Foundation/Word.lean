import Mathlib.Algebra.BigOperators.Ring.List
import Mathlib.Algebra.Order.BigOperators.Group.List
import Mathlib.Data.List.Perm.Subperm
import Mathlib.Tactic.Common
import Mathlib.Tactic.Linarith

/-!
# Unsigned 64-bit arithmetic over the exact integers

Fixed-width words are read through `UInt64.toNat`.  Each lemma says when a word operation agrees
with the operation of the exact integers, that is, when it does not wrap: a difference of words, a
product by a constant, and the running total a loop accumulates over a list.
-/

namespace Foundation

variable {α : Type*}

/-- A word is zero exactly when its value is. -/
theorem toNat_eq_zero_iff {a : UInt64} : a.toNat = 0 ↔ a = 0 := by
  rw [← UInt64.toNat_inj]
  rfl

/-- A nonzero word has a positive value. -/
theorem toNat_pos_of_ne_zero {a : UInt64} (h : a ≠ 0) : 0 < a.toNat :=
  Nat.pos_of_ne_zero fun h0 => h (toNat_eq_zero_iff.mp h0)

/-- The word of a value below `2 ^ 64` has that value. -/
theorem toNat_ofNat_of_lt {n : ℕ} (h : n < 2 ^ 64) : (UInt64.ofNat n).toNat = n := by
  rw [UInt64.toNat_ofNat']
  exact Nat.mod_eq_of_lt h

/-- A sum of words that stays below `2 ^ 64` is exact. -/
theorem toNat_add_of_lt {a b : UInt64} (h : a.toNat + b.toNat < 2 ^ 64) :
    (a + b).toNat = a.toNat + b.toNat := by
  rw [UInt64.toNat_add]
  exact Nat.mod_eq_of_lt h

/-- A product of words that stays below `2 ^ 64` is exact. -/
theorem toNat_mul_of_lt {a b : UInt64} (h : a.toNat * b.toNat < 2 ^ 64) :
    (a * b).toNat = a.toNat * b.toNat := by
  rw [UInt64.toNat_mul]
  exact Nat.mod_eq_of_lt h

/-- A difference of words in the right order is exact. -/
theorem toNat_sub_of_toNat_le {a b : UInt64} (h : b.toNat ≤ a.toNat) :
    (a - b).toNat = a.toNat - b.toNat :=
  UInt64.toNat_sub_of_le a b (UInt64.le_iff_toNat_le.mpr h)

/-- The running total of a loop over a list, modulo `2 ^ 64`. -/
theorem toNat_foldl_add (f : α → UInt64) (l : List α) (t : UInt64) :
    (l.foldl (fun total a => total + f a) t).toNat =
      (t.toNat + (l.map fun a => (f a).toNat).sum) % 2 ^ 64 := by
  induction l generalizing t with
  | nil => simp [Nat.mod_eq_of_lt t.toNat_lt]
  | cons a l ih =>
    rw [List.foldl_cons, ih, UInt64.toNat_add, List.map_cons, List.sum_cons, Nat.mod_add_mod,
      Nat.add_assoc]

/-- The running total of a loop over a list is exact when the exact total fits. -/
theorem toNat_foldl_add_of_lt (f : α → UInt64) (l : List α)
    (h : (l.map fun a => (f a).toNat).sum < 2 ^ 64) :
    (l.foldl (fun total a => total + f a) 0).toNat = (l.map fun a => (f a).toNat).sum := by
  rw [toNat_foldl_add, UInt64.toNat_zero, Nat.zero_add, Nat.mod_eq_of_lt h]

/-- Exact totals over a list are monotone in the summand. -/
theorem sum_map_le_sum_map_of_le {f g : α → ℕ} {l : List α} (h : ∀ a ∈ l, f a ≤ g a) :
    (l.map f).sum ≤ (l.map g).sum :=
  List.sum_le_sum h

/-- The total over some of the elements, none of them taken twice, is at most the whole total. -/
theorem sum_map_le_sum_map_of_subset {l₁ l₂ : List α} (hnd : l₁.Nodup) (hsub : l₁ ⊆ l₂)
    (f : α → ℕ) : (l₁.map f).sum ≤ (l₂.map f).sum := by
  obtain ⟨l, hperm, hl⟩ := hnd.subperm hsub
  rw [← (hperm.map f).sum_eq]
  exact (hl.map f).sum_le_sum fun _ _ => Nat.zero_le _

/-- Elements whose summand is zero can be left out of a total. -/
theorem sum_map_filter_of_zero {f : α → ℕ} {p : α → Bool} {l : List α}
    (h : ∀ a ∈ l, p a = false → f a = 0) : ((l.filter p).map f).sum = (l.map f).sum := by
  induction l with
  | nil => rfl
  | cons a l ih =>
    have ih' := ih fun b hb => h b (List.mem_cons_of_mem a hb)
    by_cases hp : p a = true
    · rw [List.filter_cons_of_pos hp, List.map_cons, List.map_cons, List.sum_cons, List.sum_cons,
        ih']
    · rw [List.filter_cons_of_neg hp, List.map_cons, List.sum_cons,
        h a List.mem_cons_self (by simpa using hp), Nat.zero_add, ih']

/-- A member's summand is at most the total. -/
theorem le_sum_map_of_mem {f : α → ℕ} {l : List α} {a : α} (h : a ∈ l) :
    f a ≤ (l.map f).sum :=
  List.single_le_sum (fun _ _ => Nat.zero_le _) _ (List.mem_map_of_mem h)

/-- Two totals whose summands compare termwise are equal only if every summand agrees. -/
theorem forall_eq_of_sum_map_eq {f g : α → ℕ} {l : List α} (hle : ∀ a ∈ l, f a ≤ g a)
    (h : (l.map f).sum = (l.map g).sum) : ∀ a ∈ l, f a = g a := by
  induction l with
  | nil => simp
  | cons b l ih =>
    have hb := hle b List.mem_cons_self
    have htl := sum_map_le_sum_map_of_le fun a ha => hle a (List.mem_cons_of_mem b ha)
    simp only [List.map_cons, List.sum_cons] at h
    intro a ha
    rcases List.mem_cons.mp ha with rfl | ha
    · omega
    · exact ih (fun a ha => hle a (List.mem_cons_of_mem b ha)) (by omega) a ha

end Foundation
