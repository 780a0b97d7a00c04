import Mathlib.Algebra.Order.Ring.Nat
import Mathlib.Tactic.Common

/-!
# Memory as a function of the address

A block of memory is the function that yields its bytes, counted from a base address.  A pointer
into a block is the block seen from another base (`view`), a little-endian number is read with
`readLE`, `copy` overwrites a range (`memmove`), and `sumBytes` is the eight bit sum of a range.

What a program reads depends on the bytes of a range only; the lemmas say so, range by range, and
relate what is read after a `copy` to what was copied or to what was there before.
-/

namespace Foundation

/-- A block of memory, by the distance from its base. -/
abbrev Bytes := ℕ → UInt8

/-- The memory from an address on. -/
def view (m : Bytes) (a : ℕ) : Bytes := fun i => m (a + i)

@[simp] theorem view_apply (m : Bytes) (a i : ℕ) : view m a i = m (a + i) := rfl

/-- A view of a view. -/
theorem view_view (m : Bytes) (a b : ℕ) : view (view m a) b = view m (a + b) := by
  funext i
  rw [view_apply, view_apply, view_apply, Nat.add_assoc]

/-- The block that holds the bytes of a list, and zeros behind them. -/
def ofList (bytes : List UInt8) : Bytes := fun i => bytes.getD i 0

/-- Two blocks have the same bytes in a range. -/
def SameBytes (m m' : Bytes) (a n : ℕ) : Prop := ∀ i, a ≤ i → i < a + n → m i = m' i

/-- Having the same bytes passes to a part of the range. -/
theorem SameBytes.mono {m m' : Bytes} {a n b k : ℕ} (h : SameBytes m m' a n) (hb : a ≤ b)
    (hk : b + k ≤ a + n) : SameBytes m m' b k :=
  fun i hi hik => h i (by omega) (by omega)

/-- Having the same bytes is symmetric. -/
theorem SameBytes.symm {m m' : Bytes} {a n : ℕ} (h : SameBytes m m' a n) : SameBytes m' m a n :=
  fun i hi hin => (h i hi hin).symm

/-- Having the same bytes is transitive. -/
theorem SameBytes.trans {m₁ m₂ m₃ : Bytes} {a n : ℕ} (h : SameBytes m₁ m₂ a n)
    (h' : SameBytes m₂ m₃ a n) : SameBytes m₁ m₃ a n :=
  fun i hi hin => (h i hi hin).trans (h' i hi hin)

/-- The same bytes seen from another base. -/
theorem SameBytes.view {m m' : Bytes} {a n : ℕ} (h : SameBytes m m' a n) :
    SameBytes (view m a) (view m' a) 0 n :=
  fun i _ hin => h (a + i) (Nat.le_add_right a i) (by omega)

/-! ### Numbers -/

/-- The little-endian number in the `n` bytes from an address on. -/
def readLE (m : Bytes) (a : ℕ) : ℕ → ℕ
  | 0 => 0
  | n + 1 => (m a).toNat + 256 * readLE m (a + 1) n

/-- A number of `n` bytes is below `256 ^ n`. -/
theorem readLE_lt (m : Bytes) (a n : ℕ) : readLE m a n < 256 ^ n := by
  induction n generalizing a with
  | zero => exact Nat.one_pos
  | succ n ih =>
    have hrest := ih (a + 1)
    have hbyte : (m a).toNat < 256 := (m a).toNat_lt
    rw [readLE, Nat.pow_succ]
    omega

/-- A number depends on its bytes only. -/
theorem readLE_congr {m m' : Bytes} {a n : ℕ} (h : SameBytes m m' a n) :
    readLE m a n = readLE m' a n := by
  induction n generalizing a with
  | zero => rfl
  | succ n ih =>
    rw [readLE, readLE, h a le_rfl (by omega), ih (h.mono (by omega) (by omega))]

/-- Numbers of as many bytes are the same only if their bytes are. -/
theorem sameBytes_of_readLE_eq {m m' : Bytes} {a n : ℕ} (h : readLE m a n = readLE m' a n) :
    SameBytes m m' a n := by
  induction n generalizing a with
  | zero => exact fun i hi hlt => absurd hlt (by omega)
  | succ n ih =>
    have hfirst : (m a).toNat < 256 := (m a).toNat_lt
    have hfirst' : (m' a).toNat < 256 := (m' a).toNat_lt
    rw [readLE, readLE] at h
    have hrest := @ih (a + 1) (by omega)
    intro i hi hlt
    rcases hi.eq_or_lt with rfl | hbehind
    · exact UInt8.toNat_inj.mp (by omega)
    · exact hrest i hbehind (by omega)

/-- A number in a view. -/
theorem readLE_view (m : Bytes) (b a n : ℕ) : readLE (view m b) a n = readLE m (b + a) n := by
  induction n generalizing a with
  | zero => rfl
  | succ n ih => rw [readLE, readLE, ih, view_apply, Nat.add_assoc]

/-- The bytes of a number, least significant first. -/
def leBytes (v : ℕ) : Bytes := fun i => UInt8.ofNat (v / 256 ^ i)

/-- The number in its own bytes. -/
theorem readLE_leBytes (v a n : ℕ) : readLE (leBytes v) a n = v / 256 ^ a % 256 ^ n := by
  induction n generalizing a with
  | zero => rw [readLE, Nat.pow_zero, Nat.mod_one]
  | succ n ih =>
    have hbyte : (leBytes v a).toNat = v / 256 ^ a % 256 := UInt8.toNat_ofNat'
    rw [readLE, ih, hbyte, Nat.pow_succ 256 a, ← Nat.div_div_eq_div_mul, Nat.pow_succ',
      Nat.mod_mul]

/-! ### Copies -/

/-- `memmove` of `n` bytes to an address. -/
def copy (m : Bytes) (a n : ℕ) (src : Bytes) : Bytes := fun i =>
  if a ≤ i ∧ i < a + n then src (i - a) else m i

/-- A number written to the `n` bytes from an address on. -/
def writeLE (m : Bytes) (a n v : ℕ) : Bytes := copy m a n (leBytes v)

/-- The bytes of the range are those copied. -/
theorem copy_apply_add {m src : Bytes} {a n i : ℕ} (h : i < n) : copy m a n src (a + i) = src i := by
  rw [copy, if_pos ⟨Nat.le_add_right a i, by omega⟩, Nat.add_sub_cancel_left]

/-- The bytes outside the range stay. -/
theorem copy_apply_of_notMem {m src : Bytes} {a n i : ℕ} (h : i < a ∨ a + n ≤ i) :
    copy m a n src i = m i := by
  rw [copy, if_neg (by omega)]

/-- The range as a block of its own. -/
theorem sameBytes_view_copy (m src : Bytes) (a n : ℕ) :
    SameBytes (view (copy m a n src) a) src 0 n :=
  fun i _ hi => copy_apply_add (by omega)

/-- A range outside the one overwritten stays. -/
theorem sameBytes_copy {m src : Bytes} {a n b k : ℕ} (h : b + k ≤ a ∨ a + n ≤ b) :
    SameBytes (copy m a n src) m b k :=
  fun i hi hik => copy_apply_of_notMem (by omega)

/-- A number that was written is read back. -/
theorem readLE_writeLE_self (m : Bytes) (a n v : ℕ) : readLE (writeLE m a n v) a n = v % 256 ^ n := by
  have h : readLE (view (writeLE m a n v) a) 0 n = readLE (leBytes v) 0 n :=
    readLE_congr (sameBytes_view_copy m (leBytes v) a n)
  rw [readLE_view, Nat.add_zero] at h
  rw [h, readLE_leBytes, Nat.pow_zero, Nat.div_one]

/-- A number outside the range written stays. -/
theorem readLE_writeLE_of_disjoint {m : Bytes} {a n b k v : ℕ} (h : b + k ≤ a ∨ a + n ≤ b) :
    readLE (writeLE m a n v) b k = readLE m b k :=
  readLE_congr (sameBytes_copy h)

/-! ### Eight bit sums -/

/-- The eight bit sum of the `n` bytes from an address on. -/
def sumBytes (m : Bytes) (a : ℕ) : ℕ → UInt8
  | 0 => 0
  | n + 1 => sumBytes m a n + m (a + n)

/-- A sum depends on its bytes only. -/
theorem sumBytes_congr {m m' : Bytes} {a n : ℕ} (h : SameBytes m m' a n) :
    sumBytes m a n = sumBytes m' a n := by
  induction n with
  | zero => rfl
  | succ n ih =>
    rw [sumBytes, sumBytes, h (a + n) (by omega) (by omega), ih (h.mono le_rfl (by omega))]

/-- A sum in a view. -/
theorem sumBytes_view (m : Bytes) (b a n : ℕ) : sumBytes (view m b) a n = sumBytes m (b + a) n := by
  induction n with
  | zero => rfl
  | succ n ih => rw [sumBytes, sumBytes, ih, view_apply, Nat.add_assoc]

/-- A sum over two adjacent ranges. -/
theorem sumBytes_add (m : Bytes) (a n k : ℕ) :
    sumBytes m a (n + k) = sumBytes m a n + sumBytes m (a + n) k := by
  induction k with
  | zero => rw [Nat.add_zero, sumBytes, UInt8.add_zero]
  | succ k ih =>
    rw [← Nat.add_assoc, sumBytes, sumBytes, ih, UInt8.add_assoc, Nat.add_assoc]

/-- Zero bytes sum to zero. -/
theorem sumBytes_eq_zero {m : Bytes} {a n : ℕ} (h : ∀ i, a ≤ i → i < a + n → m i = 0) :
    sumBytes m a n = 0 := by
  induction n with
  | zero => rfl
  | succ n ih =>
    rw [sumBytes, h (a + n) (by omega) (by omega), ih fun i hi hin => h i hi (by omega),
      UInt8.add_zero]

/-- The sum after one byte of the range is overwritten with what the others lack to zero. -/
theorem sumBytes_update_neg (m : Bytes) {a n k : ℕ} (hk : k < n) :
    sumBytes (Function.update m (a + k)
      (0 - (sumBytes m a k + sumBytes m (a + k + 1) (n - k - 1)))) a n = 0 := by
  obtain ⟨l, rfl⟩ : ∃ l, n = k + 1 + l := ⟨n - k - 1, by omega⟩
  have hl : k + 1 + l - k - 1 = l := by omega
  rw [hl, sumBytes_add, sumBytes, Function.update_self]
  have hbefore : SameBytes (Function.update m (a + k)
      (0 - (sumBytes m a k + sumBytes m (a + k + 1) l))) m a k :=
    fun i _ hi => Function.update_of_ne (by omega) _ _
  have hafter : SameBytes (Function.update m (a + k)
      (0 - (sumBytes m a k + sumBytes m (a + k + 1) l))) m (a + (k + 1)) l :=
    fun i hi _ => Function.update_of_ne (by omega) _ _
  rw [sumBytes_congr hbefore, sumBytes_congr hafter, ← Nat.add_assoc]
  generalize sumBytes m a k = x
  generalize sumBytes m (a + k + 1) l = y
  rw [UInt8.zero_sub, UInt8.neg_add]
  grind

end Foundation
