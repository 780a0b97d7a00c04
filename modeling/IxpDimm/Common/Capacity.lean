import IxpDimm.Foundation.Word

/-!
# Capacities in bytes and in GiB

The unit conversions and roundings of `common_types.h` and `lib/utility.h` on `NVM_UINT64`, with
the facts about them over the exact integers.  A capacity in bytes is below `2 ^ 64`, so the same
capacity in GiB is below `2 ^ 34`; sizes below that bound convert to bytes without wrapping.
-/

namespace IxpDimm

open Foundation

/-- `BYTES_PER_GIB`. -/
def bytesPerGiB : UInt64 := 1073741824

/-- `B_TO_GiB`. -/
def bToGiB (bytes : UInt64) : UInt64 := bytes / bytesPerGiB

/-- `GiB_TO_B`. -/
def giBToB (gib : UInt64) : UInt64 := gib * bytesPerGiB

/-- `RESERVED_CAPACITY_BYTES`: the part of a DIMM capacity past its last whole GiB. -/
def reservedCapacityBytes (cap : UInt64) : UInt64 := cap % bytesPerGiB

/-- `USABLE_CAPACITY_BYTES`: the GiB aligned part of a DIMM capacity. -/
def usableCapacityBytes (cap : UInt64) : UInt64 := cap - reservedCapacityBytes cap

/-- `round_up` of `utility.h`; a multiple of zero leaves the number as it is. -/
def roundUp (numToRound multipleOf : UInt64) : UInt64 :=
  if multipleOf ≠ 0 ∧ numToRound % multipleOf ≠ 0 then
    numToRound + (multipleOf - numToRound % multipleOf)
  else
    numToRound

/-- `round_down` of `utility.h`; a multiple of zero leaves the number as it is. -/
def roundDown (numToRound multipleOf : UInt64) : UInt64 :=
  if multipleOf ≠ 0 ∧ numToRound % multipleOf ≠ 0 then
    numToRound - numToRound % multipleOf
  else
    numToRound

/-- `bytesToConfigGoalSize`: the sizes of a config goal are in GiB. -/
def bytesToConfigGoalSize (bytes : UInt64) : UInt64 := bytes / bytesPerGiB

/-- `configGoalSizeToBytes`. -/
def configGoalSizeToBytes (size : UInt64) : UInt64 := size * bytesPerGiB

/-- `configGoalSizeToGiB`. -/
def configGoalSizeToGiB (size : UInt64) : UInt64 := size

/-- The whole GiB of a capacity in bytes, over the exact integers. -/
def wholeGiB (cap : UInt64) : ℕ := cap.toNat / 2 ^ 30

/-! ### The conversions over the exact integers -/

@[simp] theorem toNat_bytesPerGiB : bytesPerGiB.toNat = 2 ^ 30 := rfl

/-- A capacity holds fewer than `2 ^ 34` whole GiB. -/
theorem wholeGiB_lt (cap : UInt64) : wholeGiB cap < 2 ^ 34 := by
  have := cap.toNat_lt
  unfold wholeGiB
  omega

@[simp] theorem toNat_bToGiB (bytes : UInt64) : (bToGiB bytes).toNat = bytes.toNat / 2 ^ 30 := by
  rw [bToGiB, UInt64.toNat_div, toNat_bytesPerGiB]

@[simp] theorem toNat_bytesToConfigGoalSize (bytes : UInt64) :
    (bytesToConfigGoalSize bytes).toNat = bytes.toNat / 2 ^ 30 :=
  toNat_bToGiB bytes

/-- A GiB size converts to bytes modulo `2 ^ 64`. -/
theorem toNat_configGoalSizeToBytes (size : UInt64) :
    (configGoalSizeToBytes size).toNat = 2 ^ 30 * size.toNat % 2 ^ 64 := by
  rw [configGoalSizeToBytes, UInt64.toNat_mul, toNat_bytesPerGiB, Nat.mul_comm]

/-- A size below `2 ^ 34` GiB converts to bytes exactly. -/
theorem toNat_configGoalSizeToBytes_of_lt {size : UInt64} (h : size.toNat < 2 ^ 34) :
    (configGoalSizeToBytes size).toNat = 2 ^ 30 * size.toNat := by
  rw [toNat_configGoalSizeToBytes]
  omega

@[simp] theorem toNat_reservedCapacityBytes (cap : UInt64) :
    (reservedCapacityBytes cap).toNat = cap.toNat % 2 ^ 30 := by
  rw [reservedCapacityBytes, UInt64.toNat_mod, toNat_bytesPerGiB]

/-- The usable bytes are exactly the whole GiB. -/
@[simp] theorem toNat_usableCapacityBytes (cap : UInt64) :
    (usableCapacityBytes cap).toNat = 2 ^ 30 * wholeGiB cap := by
  have hle : (reservedCapacityBytes cap).toNat ≤ cap.toNat := by
    rw [toNat_reservedCapacityBytes]
    exact Nat.mod_le _ _
  rw [usableCapacityBytes, toNat_sub_of_toNat_le hle, toNat_reservedCapacityBytes, wholeGiB]
  omega

/-! ### Rounding -/

/-- Rounding down to a nonzero multiple takes the remainder off. -/
theorem toNat_roundDown {n m : UInt64} (hm : m ≠ 0) :
    (roundDown n m).toNat = n.toNat - n.toNat % m.toNat := by
  have hle : (n % m).toNat ≤ n.toNat := by
    rw [UInt64.toNat_mod]
    exact Nat.mod_le _ _
  unfold roundDown
  split_ifs with h
  · rw [toNat_sub_of_toNat_le hle, UInt64.toNat_mod]
  · have hzero : n % m = 0 := by
      by_contra hne
      exact h ⟨hm, hne⟩
    have : n.toNat % m.toNat = 0 := by
      rw [← UInt64.toNat_mod, hzero, UInt64.toNat_zero]
    omega

/-- Rounding down to whole GiB. -/
theorem toNat_roundDown_bytesPerGiB (n : UInt64) :
    (roundDown n bytesPerGiB).toNat = 2 ^ 30 * (n.toNat / 2 ^ 30) := by
  rw [toNat_roundDown (by decide), toNat_bytesPerGiB]
  omega

/-- Rounding down never increases. -/
theorem toNat_roundDown_le (n m : UInt64) : (roundDown n m).toNat ≤ n.toNat := by
  by_cases hm : m = 0
  · simp [roundDown, hm]
  · rw [toNat_roundDown hm]
    exact Nat.sub_le _ _

/-- Rounding down to a nonzero multiple gives a multiple. -/
theorem dvd_toNat_roundDown (n : UInt64) {m : UInt64} (hm : m ≠ 0) :
    m.toNat ∣ (roundDown n m).toNat := by
  rw [toNat_roundDown hm]
  exact Nat.dvd_sub_mod n.toNat

/-- Rounding up to a nonzero multiple gives a multiple, while the sum stays below `2 ^ 64`. -/
theorem dvd_toNat_roundUp {n m : UInt64} (hm : m ≠ 0) (h : n.toNat + m.toNat < 2 ^ 64) :
    m.toNat ∣ (roundUp n m).toNat := by
  have hpos : 0 < m.toNat := Nat.pos_of_ne_zero fun hzero => hm (toNat_eq_zero_iff.mp hzero)
  have hmod : n.toNat % m.toNat < m.toNat := Nat.mod_lt _ hpos
  unfold roundUp
  split_ifs with hrest
  · have hmissing : (m - n % m).toNat = m.toNat - n.toNat % m.toNat := by
      rw [toNat_sub_of_toNat_le (by rw [UInt64.toNat_mod]; exact hmod.le), UInt64.toNat_mod]
    have hsum : (n + (m - n % m)).toNat = m.toNat * (n.toNat / m.toNat) + m.toNat := by
      have hdiv := Nat.div_add_mod n.toNat m.toNat
      rw [toNat_add_of_lt (by rw [hmissing]; omega), hmissing]
      omega
    rw [hsum]
    exact Nat.dvd_add (Nat.dvd_mul_right _ _) (Nat.dvd_refl _)
  · have hzero : n % m = 0 := by
      by_contra hne
      exact hrest ⟨hm, hne⟩
    have hmul : n.toNat % m.toNat = 0 := by
      rw [← UInt64.toNat_mod, hzero, UInt64.toNat_zero]
    exact Nat.dvd_of_mod_eq_zero hmul

/-- A multiple is rounded to itself. -/
theorem round_of_dvd {n m : UInt64} (h : m.toNat ∣ n.toNat) :
    roundUp n m = n ∧ roundDown n m = n := by
  have hzero : n % m = 0 := by
    rw [← UInt64.toNat_inj, UInt64.toNat_mod, Nat.mod_eq_zero_of_dvd h, UInt64.toNat_zero]
  have hnot : ¬ (m ≠ 0 ∧ n % m ≠ 0) := fun hboth => hboth.2 hzero
  exact ⟨if_neg hnot, if_neg hnot⟩

end IxpDimm
