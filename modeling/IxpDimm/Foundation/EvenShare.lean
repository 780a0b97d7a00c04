import Mathlib.Algebra.BigOperators.Group.List.Basic
import Mathlib.Algebra.Order.Group.Nat
import Mathlib.Tactic.Common
import Mathlib.Tactic.Linarith

/-!
# Taking an amount off sizes in equal shares

An amount is to be taken off a list of sizes, in order and in equal shares: each size gives a share,
or all it has when it has less, until nothing is left to take.  An amount that covers all of the
sizes takes them whole.

When a size smaller than the share is met while less than it is left to take, the account goes
below zero; `Fair` says that this does not happen.  `leftAfter` is what is left to take at the end.
-/

namespace Foundation

/-- What the sizes have together when each of them counts for at most a share. -/
def capped (share : ℕ) (sizes : List ℕ) : ℕ := (sizes.map (min share)).sum

@[simp] theorem capped_nil (share : ℕ) : capped share [] = 0 := rfl

@[simp] theorem capped_cons (share size : ℕ) (sizes : List ℕ) :
    capped share (size :: sizes) = min share size + capped share sizes := by
  rw [capped, List.map_cons, List.sum_cons, capped]

/-- A size below the share is met only when nothing is left to take or at least the size is. -/
def Fair (share amount : ℕ) (sizes : List ℕ) : Prop :=
  ∀ before size after, sizes = before ++ size :: after → size < share →
    amount ≤ capped share before ∨ capped share before + size ≤ amount

/-- Nothing is met in an empty list. -/
theorem fair_nil (share amount : ℕ) : Fair share amount [] := by
  intro before size after h
  exact absurd h (by simp)

/-- When nothing is left to take, nothing can go wrong. -/
theorem fair_zero (share : ℕ) (sizes : List ℕ) : Fair share 0 sizes :=
  fun _ _ _ _ _ => .inl (Nat.zero_le _)

/-- The first size, and the others with what it leaves. -/
theorem fair_cons {share amount size : ℕ} {sizes : List ℕ} :
    Fair share amount (size :: sizes) ↔
      (size < share → amount = 0 ∨ size ≤ amount) ∧ Fair share (amount - min share size) sizes := by
  constructor
  · intro h
    refine ⟨fun hlt => ?_, ?_⟩
    · rcases h [] size sizes rfl hlt with h | h
      · exact .inl (by rw [capped_nil] at h; omega)
      · exact .inr (by rw [capped_nil] at h; omega)
    · rintro before s after rfl hlt
      have hs := h (size :: before) s after rfl hlt
      rw [capped_cons] at hs
      omega
  · rintro ⟨hfirst, hrest⟩ before s after hsplit hlt
    cases before with
    | nil =>
      obtain ⟨rfl, rfl⟩ := List.cons.inj hsplit
      rcases hfirst hlt with h | h
      · exact .inl (by omega)
      · exact .inr (by rw [capped_nil]; omega)
    | cons b before =>
      obtain ⟨rfl, rfl⟩ := List.cons.inj hsplit
      have hs := hrest before s after rfl hlt
      rw [capped_cons]
      omega

/-- The share of each of `n`, rounded up. -/
def evenShare (amount n : ℕ) : ℕ := (amount + (n - 1)) / n

/-- What is left to take of the amount after the sizes. -/
def leftAfter (sizes : List ℕ) (amount : ℕ) : ℕ :=
  if sizes.sum ≤ amount then amount - sizes.sum
  else amount - capped (evenShare amount sizes.length) sizes

/-- Taking the amount off the sizes goes without a deficit. -/
def FairlyTaken (sizes : List ℕ) (amount : ℕ) : Prop :=
  amount < sizes.sum → Fair (evenShare amount sizes.length) amount sizes

/-- No more is left than there was. -/
theorem leftAfter_le (sizes : List ℕ) (amount : ℕ) : leftAfter sizes amount ≤ amount := by
  unfold leftAfter
  split_ifs
  · exact Nat.sub_le _ _
  · exact Nat.sub_le _ _

end Foundation
