import Mathlib.Algebra.Order.Floor.Div
import Mathlib.Tactic.Common

/-!
# The least multiple at or above a number

Sizes are rounded up to a multiple of an alignment.  The rounded size is the least multiple that is
not below the size; common multiples of two numbers are taken apart into multiples of one of them.
-/

namespace Foundation

variable {m n k : ℕ}

/-- The least multiple of `m` that is not below `n`. -/
def leastMultiple (m n : ℕ) : ℕ := m * (n ⌈/⌉ m)

/-- It is not below the number. -/
theorem le_leastMultiple (hm : 0 < m) (n : ℕ) : n ≤ leastMultiple m n := le_smul_ceilDiv hm

/-- It is a multiple. -/
theorem dvd_leastMultiple (m n : ℕ) : m ∣ leastMultiple m n := Nat.dvd_mul_right _ _

/-- It is not above any other such multiple. -/
theorem leastMultiple_le (hm : 0 < m) (hdvd : m ∣ k) (hle : n ≤ k) : leastMultiple m n ≤ k := by
  obtain ⟨c, rfl⟩ := hdvd
  exact Nat.mul_le_mul_left m ((ceilDiv_le_iff_le_mul hm).mpr hle)

/-- A multiple is its own least multiple. -/
theorem leastMultiple_of_dvd (hm : 0 < m) (h : m ∣ n) : leastMultiple m n = n :=
  le_antisymm (leastMultiple_le hm h le_rfl) (le_leastMultiple hm n)

/-- A number is rounded above a multiple only when it is above it. -/
theorem leastMultiple_le_mul_iff (hm : 0 < m) : leastMultiple m n ≤ m * k ↔ n ≤ m * k :=
  ⟨(le_leastMultiple hm n).trans, leastMultiple_le hm (Nat.dvd_mul_right m k)⟩

/-- What is added to a number that is no multiple. -/
theorem leastMultiple_eq_add (hm : 0 < m) (h : n % m ≠ 0) :
    leastMultiple m n = n + (m - n % m) := by
  have hlt := Nat.mod_lt n hm
  have hdiv := Nat.div_add_mod n m
  have hsum : n + (m - n % m) = m * (n / m + 1) := by
    rw [Nat.mul_add, Nat.mul_one]
    omega
  refine le_antisymm ?_ ?_
  · exact leastMultiple_le hm (hsum ▸ Nat.dvd_mul_right _ _) (Nat.le_add_right _ _)
  · obtain ⟨c, hc⟩ := dvd_leastMultiple m n
    have hle := le_leastMultiple hm n
    rw [hc] at hle ⊢
    rw [hsum]
    refine Nat.mul_le_mul_left m ?_
    -- a factor of at most `n / m` would leave a multiple below the number
    by_contra hsmall
    have hfactor := Nat.mul_le_mul_left m (Nat.le_of_lt_succ (Nat.not_le.mp hsmall))
    omega

/-- Less than the multiple is added. -/
theorem leastMultiple_lt (hm : 0 < m) (n : ℕ) : leastMultiple m n < n + m := by
  by_cases h : n % m = 0
  · rw [leastMultiple_of_dvd hm (Nat.dvd_of_mod_eq_zero h)]
    exact Nat.lt_add_of_pos_right hm
  · rw [leastMultiple_eq_add hm h]
    omega

/-- A common factor can be taken out. -/
theorem leastMultiple_mul (hk : 0 < k) (m n : ℕ) :
    leastMultiple (k * m) (k * n) = k * leastMultiple m n := by
  have hquot : (k * n) ⌈/⌉ (k * m) = n ⌈/⌉ m := by
    rcases Nat.eq_zero_or_pos m with rfl | hm
    · rw [Nat.mul_zero, ceilDiv_zero, ceilDiv_zero]
    · refine eq_of_forall_ge_iff fun c => ?_
      rw [ceilDiv_le_iff_le_mul (Nat.mul_pos hk hm), ceilDiv_le_iff_le_mul hm, Nat.mul_assoc,
        Nat.mul_le_mul_left_iff hk]
  rw [leastMultiple, hquot, Nat.mul_assoc, leastMultiple]

/-- A multiple of one number is a multiple of another when its factor is one of what the other has
beyond their common divisors. -/
theorem lcm_dvd_mul_iff (hm : 0 < m) : Nat.lcm m n ∣ m * k ↔ n / Nat.gcd m n ∣ k := by
  have hgcd : 0 < Nat.gcd m n := Nat.gcd_pos_of_pos_left n hm
  have hlcm : Nat.lcm m n = m * (n / Nat.gcd m n) := by
    rw [Nat.lcm_eq_mul_div, Nat.mul_div_assoc m (Nat.gcd_dvd_right m n)]
  rw [hlcm]
  exact Nat.mul_dvd_mul_iff_left hm

end Foundation
