import IxpDimm.Common.Capacity
import IxpDimm.Foundation.LeastMultiple

/-!
# Block counts of namespaces

`adjust_namespace_block_count`, `check_namespace_alignment` and `capacity_to_real_block_count` of
`namespace_utils.c`.  A block is padded to whole cache lines on the DIMM, and a namespace takes up
whole pages on every DIMM of its set, so its size is a multiple of what the block size and the pages
have in common.  The multiple is an `NVM_UINT32`, sizes are `NVM_UINT64`; a division by zero ends
the program.

`blockCountsRight_iff` says when an adjusted count is the least one that is accepted, and when a
capacity holds the count that is made from it.
-/

namespace IxpDimm

open Foundation

/-- `PAGE_SIZE_x86`. -/
def pageSizeX86 : UInt32 := 4096

/-- `CACHE_LINE_SIZE`. -/
def cacheLineSize : UInt64 := 64

/-- `get_greatest_common_divisor`, the loop of `GET_GCD`. -/
def getGreatestCommonDivisor (a b : UInt32) : UInt32 :=
  if a = 0 then b
  else if b % a = 0 then a
  else getGreatestCommonDivisor (a % (b % a)) (b % a)
termination_by a.toNat
decreasing_by
  rename_i ha hb
  have hpos : 0 < a.toNat := Nat.pos_of_ne_zero fun h => ha (UInt32.toNat_inj.mp h)
  have hrest : 0 < (b % a).toNat := Nat.pos_of_ne_zero fun h => hb (UInt32.toNat_inj.mp h)
  have hlt : (b % a).toNat < a.toNat := by
    rw [UInt32.toNat_mod]
    exact Nat.mod_lt _ hpos
  rw [UInt32.toNat_mod]
  exact (Nat.mod_lt _ hrest).trans hlt

/-- `get_lowest_common_multiple`; none for the division by zero. -/
def getLowestCommonMultiple (a b : UInt32) : Option UInt32 :=
  let gcd := getGreatestCommonDivisor a b
  if gcd = 0 then none else some (a / gcd * b)

/-- `get_real_block_size`. -/
def getRealBlockSize (blockSize : UInt32) : UInt32 :=
  if blockSize ≠ 1 then (roundUp blockSize.toUInt64 cacheLineSize).toUInt32 else 1

/-- `get_alignment_size`. -/
def getAlignmentSize (blockSize ways : UInt32) : Option UInt32 :=
  getLowestCommonMultiple blockSize (pageSizeX86 * ways)

/-- `adjust_namespace_block_count`. -/
def adjustNamespaceBlockCount (blockCount : UInt64) (blockSize : UInt16) (ways : UInt8) :
    Option UInt64 := do
  let realBlockSize := getRealBlockSize blockSize.toUInt32
  let alignmentSize ← getAlignmentSize realBlockSize ways.toUInt32
  let capacity := roundUp (blockCount * realBlockSize.toUInt64) alignmentSize.toUInt64
  if realBlockSize = 0 then none else some (capacity / realBlockSize.toUInt64)

/-- `adjust_namespace_block_count_if_allowed`. -/
def adjustNamespaceBlockCountIfAllowed (blockCount : UInt64) (blockSize : UInt16) (ways : UInt8)
    (allowAdjustment : Bool) : Option UInt64 :=
  if allowAdjustment then adjustNamespaceBlockCount blockCount blockSize ways else some blockCount

/-- `check_namespace_alignment`. -/
def checkNamespaceAlignment (capacity : UInt64) (blockSize : UInt32) (ways : UInt8) :
    Option Bool := do
  let alignmentSize ← getAlignmentSize blockSize ways.toUInt32
  if alignmentSize = 0 then none else some (capacity % alignmentSize.toUInt64 = 0)

/-- `capacity_to_real_block_count`.  The padded block size is passed on as an `NVM_UINT16`. -/
def capacityToRealBlockCount (capacity : UInt64) (blockSize : UInt32) : Option UInt64 :=
  let realBlockSize := getRealBlockSize blockSize
  if realBlockSize = 0 then none
  else do
    let blockCount := capacity / realBlockSize.toUInt64
    let aligned ← checkNamespaceAlignment (realBlockSize.toUInt64 * blockCount) realBlockSize 1
    if aligned then some blockCount
    else
      let alignmentSize ← getAlignmentSize realBlockSize 1
      adjustNamespaceBlockCountIfAllowed
        ((capacity - alignmentSize.toUInt64) / realBlockSize.toUInt64) realBlockSize.toUInt16 1 true

/-! ### The arithmetic over the exact integers -/

/-- The loop of `GET_GCD` finds the greatest common divisor. -/
theorem toNat_getGreatestCommonDivisor (a b : UInt32) :
    (getGreatestCommonDivisor a b).toNat = Nat.gcd a.toNat b.toNat := by
  fun_induction getGreatestCommonDivisor a b with
  | case1 b => exact (Nat.gcd_zero_left b.toNat).symm
  | case2 a b _ hrest =>
    rw [Nat.gcd_rec, ← UInt32.toNat_mod, hrest]
    exact (Nat.gcd_zero_left a.toNat).symm
  | case3 a b _ _ ih =>
    rw [ih, UInt32.toNat_mod, ← Nat.gcd_rec, UInt32.toNat_mod, ← Nat.gcd_rec]

/-- The lowest common multiple, while it fits. -/
theorem getLowestCommonMultiple_eq {a b : UInt32} (ha : 0 < a.toNat)
    (hlt : Nat.lcm a.toNat b.toNat < 2 ^ 32) :
    ∃ multiple, getLowestCommonMultiple a b = some multiple ∧
      multiple.toNat = Nat.lcm a.toNat b.toNat := by
  have hgcd := toNat_getGreatestCommonDivisor a b
  have hpos : 0 < (getGreatestCommonDivisor a b).toNat :=
    hgcd ▸ Nat.gcd_pos_of_pos_left b.toNat ha
  have hne : getGreatestCommonDivisor a b ≠ 0 := fun h => hpos.ne' (congrArg UInt32.toNat h)
  have hvalue : a.toNat / Nat.gcd a.toNat b.toNat * b.toNat = Nat.lcm a.toNat b.toNat := by
    rw [Nat.lcm_eq_mul_div, Nat.div_mul_right_comm (Nat.gcd_dvd_left _ _)]
  refine ⟨a / getGreatestCommonDivisor a b * b, if_neg hne, ?_⟩
  rw [UInt32.toNat_mul, UInt32.toNat_div, hgcd, hvalue, Nat.mod_eq_of_lt hlt]

/-- Rounding up is modulo `2 ^ 64`. -/
theorem toNat_roundUp {n m : UInt64} (hm : 0 < m.toNat) :
    (roundUp n m).toNat = leastMultiple m.toNat n.toNat % 2 ^ 64 := by
  have hne : m ≠ 0 := fun h => hm.ne' (congrArg UInt64.toNat h)
  unfold roundUp
  split_ifs with hrest
  · have hmod : n.toNat % m.toNat ≠ 0 := fun h =>
      hrest.2 (toNat_eq_zero_iff.mp ((UInt64.toNat_mod n m).trans h))
    have hmissing : (m - n % m).toNat = m.toNat - n.toNat % m.toNat := by
      rw [toNat_sub_of_toNat_le (by rw [UInt64.toNat_mod]; exact (Nat.mod_lt _ hm).le),
        UInt64.toNat_mod]
    rw [UInt64.toNat_add, hmissing, leastMultiple_eq_add hm hmod]
  · have hdvd : m.toNat ∣ n.toNat := by
      refine Nat.dvd_of_mod_eq_zero ?_
      rw [← UInt64.toNat_mod]
      exact congrArg UInt64.toNat (not_not.mp fun h => hrest ⟨hne, h⟩)
    rw [leastMultiple_of_dvd hm hdvd, Nat.mod_eq_of_lt n.toNat_lt]

/-! ### Supported block sizes -/

/-- The block sizes of namespaces: one byte, and sectors with or without metadata, which are of whole
groups of eight bytes. -/
def SupportedBlockSize (blockSize : ℕ) : Prop :=
  blockSize = 1 ∨ (8 ∣ blockSize ∧ 0 < blockSize ∧ blockSize ≤ 4224)

/-- The padded block size over the exact integers. -/
def paddedBlockSize (blockSize : ℕ) : ℕ :=
  if blockSize = 1 then 1 else leastMultiple 64 blockSize

/-- The multiple that the sizes of namespaces with blocks of a size have on a number of DIMMs. -/
def alignmentOf (blockSize ways : ℕ) : ℕ := Nat.lcm blockSize (4096 * ways)

/-- How many blocks of a size make up that multiple. -/
def blocksPerAlignment (blockSize ways : ℕ) : ℕ := 4096 * ways / Nat.gcd blockSize (4096 * ways)

section Supported

variable {blockSize ways : ℕ}

/-- A block has a byte. -/
theorem SupportedBlockSize.pos (h : SupportedBlockSize blockSize) : 0 < blockSize := by
  rcases h with rfl | ⟨-, hpos, -⟩
  · exact Nat.one_pos
  · exact hpos

/-- A padded block is no smaller. -/
theorem le_paddedBlockSize (blockSize : ℕ) : blockSize ≤ paddedBlockSize blockSize := by
  unfold paddedBlockSize
  split_ifs with h
  · exact h.le
  · exact le_leastMultiple (by decide) _

/-- A padded block size is supported as well. -/
theorem SupportedBlockSize.padded (h : SupportedBlockSize blockSize) :
    SupportedBlockSize (paddedBlockSize blockSize) := by
  unfold paddedBlockSize
  split_ifs with hone
  · exact .inl rfl
  · obtain ⟨-, hpos, hle⟩ := h.resolve_left hone
    refine .inr ⟨(show 8 ∣ 64 by decide).trans (dvd_leastMultiple 64 _), ?_, ?_⟩
    · exact hpos.trans_le (le_leastMultiple (by decide) _)
    · exact leastMultiple_le (by decide) (show 64 ∣ 4224 by decide) hle

/-- Padding is idempotent. -/
theorem paddedBlockSize_padded (blockSize : ℕ) :
    paddedBlockSize (paddedBlockSize blockSize) = paddedBlockSize blockSize := by
  by_cases h : paddedBlockSize blockSize = 1
  · rw [h]
    rfl
  · have hone : blockSize ≠ 1 := fun h1 => h (if_pos h1)
    have hdvd : 64 ∣ paddedBlockSize blockSize := by
      rw [paddedBlockSize, if_neg hone]
      exact dvd_leastMultiple 64 _
    conv_lhs => rw [paddedBlockSize, if_neg h]
    exact leastMultiple_of_dvd (by decide) hdvd

/-- The multiple fits 32 bits. -/
theorem SupportedBlockSize.alignmentOf_lt (h : SupportedBlockSize blockSize) (hways : ways < 2 ^ 8) :
    alignmentOf blockSize ways < 2 ^ 32 := by
  rcases h with rfl | ⟨hdvd, hpos, hle⟩
  · rw [alignmentOf, Nat.lcm_one_left]
    omega
  · have hgcd : 8 ≤ Nat.gcd blockSize (4096 * ways) :=
      Nat.le_of_dvd (Nat.gcd_pos_of_pos_left _ hpos)
        (Nat.dvd_gcd hdvd ((show 8 ∣ 4096 by decide).trans (Nat.dvd_mul_right _ _)))
    have hquot : blockSize / Nat.gcd blockSize (4096 * ways) ≤ 528 :=
      (Nat.div_le_div_left hgcd (by decide)).trans (Nat.div_le_of_le_mul (by omega))
    calc alignmentOf blockSize ways
        = blockSize / Nat.gcd blockSize (4096 * ways) * (4096 * ways) :=
          (Nat.div_mul_right_comm (Nat.gcd_dvd_left _ _) _).symm
      _ ≤ 528 * (4096 * ways) := Nat.mul_le_mul_right _ hquot
      _ < 2 ^ 32 := by omega

/-- The multiple is of whole blocks. -/
theorem alignmentOf_eq (blockSize ways : ℕ) :
    alignmentOf blockSize ways = blockSize * blocksPerAlignment blockSize ways := by
  rw [alignmentOf, blocksPerAlignment, Nat.lcm_eq_mul_div, Nat.mul_div_assoc _ (Nat.gcd_dvd_right _ _)]

/-- The multiple is there when there are DIMMs. -/
theorem alignmentOf_pos (hpos : 0 < blockSize) (hways : 0 < ways) : 0 < alignmentOf blockSize ways :=
  Nat.lcm_pos hpos (by omega)

/-- And so are the blocks in it. -/
theorem blocksPerAlignment_pos (hpos : 0 < blockSize) (hways : 0 < ways) :
    0 < blocksPerAlignment blockSize ways := by
  have h := alignmentOf_pos hpos hways
  rw [alignmentOf_eq] at h
  exact Nat.pos_of_mul_pos_left h

end Supported

/-! ### The functions over the exact integers -/

/-- `get_real_block_size` pads. -/
theorem toNat_getRealBlockSize {blockSize : UInt32} (h : blockSize.toNat ≤ 2 ^ 16) :
    (getRealBlockSize blockSize).toNat = paddedBlockSize blockSize.toNat := by
  unfold getRealBlockSize paddedBlockSize
  by_cases hone : blockSize = 1
  · have hvalue : blockSize.toNat = 1 := congrArg UInt32.toNat hone
    rw [if_neg (not_not.mpr hone), if_pos hvalue]
    rfl
  · have hvalue : blockSize.toNat ≠ 1 := fun h1 => hone (UInt32.toNat_inj.mp h1)
    have hlt := leastMultiple_lt (show 0 < 64 by decide) blockSize.toNat
    have hround := toNat_roundUp (n := blockSize.toUInt64) (m := cacheLineSize) (by decide)
    rw [UInt32.toNat_toUInt64, show cacheLineSize.toNat = 64 from rfl,
      Nat.mod_eq_of_lt (by omega)] at hround
    rw [if_pos hone, if_neg hvalue, UInt64.toNat_toUInt32, hround, Nat.mod_eq_of_lt (by omega)]

section Functions

variable {blockSize : UInt32} {ways : UInt8}

/-- `get_alignment_size` of a supported block size. -/
theorem getAlignmentSize_eq (h : SupportedBlockSize blockSize.toNat) (ways : UInt8) :
    ∃ alignment, getAlignmentSize blockSize ways.toUInt32 = some alignment ∧
      alignment.toNat = alignmentOf blockSize.toNat ways.toNat := by
  have hways := ways.toNat_lt
  have hpages : (pageSizeX86 * ways.toUInt32).toNat = 4096 * ways.toNat := by
    rw [UInt32.toNat_mul, UInt8.toNat_toUInt32, show pageSizeX86.toNat = 4096 from rfl]
    exact Nat.mod_eq_of_lt (by omega)
  have hlcm := getLowestCommonMultiple_eq (b := pageSizeX86 * ways.toUInt32) h.pos
  rw [hpages] at hlcm
  exact hlcm (h.alignmentOf_lt hways)

/-- `check_namespace_alignment` of a supported block size on DIMMs. -/
theorem checkNamespaceAlignment_eq (h : SupportedBlockSize blockSize.toNat) (hways : 0 < ways.toNat)
    (capacity : UInt64) : checkNamespaceAlignment capacity blockSize ways =
      some (decide (alignmentOf blockSize.toNat ways.toNat ∣ capacity.toNat)) := by
  obtain ⟨alignment, halignment, hvalue⟩ := getAlignmentSize_eq h ways
  have hpos := alignmentOf_pos h.pos hways
  have hne : alignment ≠ 0 := by
    rintro rfl
    exact hpos.ne hvalue
  have hiff : capacity % alignment.toUInt64 = 0 ↔
      alignmentOf blockSize.toNat ways.toNat ∣ capacity.toNat := by
    rw [← toNat_eq_zero_iff, UInt64.toNat_mod, UInt32.toNat_toUInt64, hvalue,
      Nat.dvd_iff_mod_eq_zero]
  rw [checkNamespaceAlignment, halignment]
  simp only [Option.bind_eq_bind, Option.bind_some, if_neg hne, hiff]

/-- `adjust_namespace_block_count` of a supported block size on DIMMs. -/
theorem adjustNamespaceBlockCount_eq {blockSize : UInt16} (h : SupportedBlockSize blockSize.toNat)
    (hways : 0 < ways.toNat) (blockCount : UInt64) :
    ∃ adjusted, adjustNamespaceBlockCount blockCount blockSize ways = some adjusted ∧
      adjusted.toNat = leastMultiple (alignmentOf (paddedBlockSize blockSize.toNat) ways.toNat)
        (blockCount.toNat * paddedBlockSize blockSize.toNat % 2 ^ 64) % 2 ^ 64 /
          paddedBlockSize blockSize.toNat := by
  have hreal : (getRealBlockSize blockSize.toUInt32).toNat = paddedBlockSize blockSize.toNat := by
    rw [toNat_getRealBlockSize (by rw [UInt16.toNat_toUInt32]; exact blockSize.toNat_lt.le),
      UInt16.toNat_toUInt32]
  have hsupported : SupportedBlockSize (getRealBlockSize blockSize.toUInt32).toNat :=
    hreal ▸ h.padded
  obtain ⟨alignment, halignment, hvalue⟩ := getAlignmentSize_eq hsupported ways
  have hne : getRealBlockSize blockSize.toUInt32 ≠ 0 := by
    intro hzero
    rw [hzero] at hsupported
    exact hsupported.pos.ne rfl
  have hpos : 0 < alignment.toUInt64.toNat := by
    rw [UInt32.toNat_toUInt64, hvalue]
    exact alignmentOf_pos hsupported.pos hways
  refine ⟨roundUp (blockCount * (getRealBlockSize blockSize.toUInt32).toUInt64)
    alignment.toUInt64 / (getRealBlockSize blockSize.toUInt32).toUInt64, ?_, ?_⟩
  · rw [adjustNamespaceBlockCount, halignment]
    exact if_neg hne
  · rw [UInt64.toNat_div, toNat_roundUp hpos, UInt64.toNat_mul, UInt32.toNat_toUInt64,
      UInt32.toNat_toUInt64, hvalue, hreal]

end Functions

/-! ### Adjusted counts -/

/-- `check_namespace_alignment` accepts the size that a count makes, as the library asks it to when a
namespace is created and when it is modified. -/
def CountAccepted (blockSize : UInt16) (ways : UInt8) (count : UInt64) : Prop :=
  checkNamespaceAlignment (count * blockSize.toUInt64) blockSize.toUInt32 ways = some true

/-- An adjusted count is the least accepted one from the requested one on, and adjusting it once more
does not change it. -/
def AdjustsToLeast (blockSize : UInt16) (ways : UInt8) (blockCount : UInt64) : Prop :=
  ∃ adjusted, adjustNamespaceBlockCount blockCount blockSize ways = some adjusted ∧
    (blockCount ≤ adjusted ∧ CountAccepted blockSize ways adjusted) ∧
    (∀ count, blockCount ≤ count → CountAccepted blockSize ways count → adjusted ≤ count) ∧
    adjustNamespaceBlockCount adjusted blockSize ways = some adjusted

/-- When a count is adjusted as it should be: the rounded size fits 64 bits, and blocks of the padded
size round the count to the same one as blocks of the size itself. -/
structure RoundsAlike (blockSize ways blockCount : ℕ) : Prop where
  /-- The rounded size fits. -/
  fits : leastMultiple (alignmentOf (paddedBlockSize blockSize) ways)
    (paddedBlockSize blockSize * blockCount) < 2 ^ 64
  /-- Both block sizes round alike. -/
  same : leastMultiple (blocksPerAlignment (paddedBlockSize blockSize) ways) blockCount =
    leastMultiple (blocksPerAlignment blockSize ways) blockCount

section Adjusted

variable {blockSize : UInt16} {ways : UInt8} {blockCount : UInt64}

/-- The accepted counts are those of whole multiples. -/
private theorem countAccepted_iff (h : SupportedBlockSize blockSize.toNat) (hways : 0 < ways.toNat)
    {count : UInt64} (hlt : blockSize.toNat * count.toNat < 2 ^ 64) :
    CountAccepted blockSize ways count ↔
      blocksPerAlignment blockSize.toNat ways.toNat ∣ count.toNat := by
  have hsupported : SupportedBlockSize blockSize.toUInt32.toNat := by
    rwa [UInt16.toNat_toUInt32]
  have hsize : (count * blockSize.toUInt64).toNat = blockSize.toNat * count.toNat := by
    rw [UInt64.toNat_mul, UInt16.toNat_toUInt64, Nat.mul_comm, Nat.mod_eq_of_lt hlt]
  rw [CountAccepted, checkNamespaceAlignment_eq hsupported hways, Option.some_inj, decide_eq_true_iff,
    hsize, UInt16.toNat_toUInt32]
  exact lcm_dvd_mul_iff h.pos

/-- A size that is rounded within 64 bits gives the least whole multiple of blocks. -/
private theorem adjusted_of_fits (h : SupportedBlockSize blockSize.toNat) (hways : 0 < ways.toNat)
    (hfits : leastMultiple (alignmentOf (paddedBlockSize blockSize.toNat) ways.toNat)
      (paddedBlockSize blockSize.toNat * blockCount.toNat) < 2 ^ 64) :
    ∃ adjusted, adjustNamespaceBlockCount blockCount blockSize ways = some adjusted ∧
      adjusted.toNat = leastMultiple (blocksPerAlignment (paddedBlockSize blockSize.toNat) ways.toNat)
        blockCount.toNat ∧ paddedBlockSize blockSize.toNat * adjusted.toNat < 2 ^ 64 := by
  obtain ⟨adjusted, hadjusted, hvalue⟩ := adjustNamespaceBlockCount_eq h hways blockCount
  have hpadded := h.padded.pos
  have hle := le_leastMultiple (alignmentOf_pos hpadded hways)
    (paddedBlockSize blockSize.toNat * blockCount.toNat)
  rw [Nat.mul_comm blockCount.toNat, Nat.mod_eq_of_lt (hle.trans_lt hfits), Nat.mod_eq_of_lt hfits,
    alignmentOf_eq, leastMultiple_mul hpadded, Nat.mul_div_cancel_left _ hpadded] at hvalue
  refine ⟨adjusted, hadjusted, hvalue, ?_⟩
  rwa [hvalue, ← leastMultiple_mul hpadded, ← alignmentOf_eq]

/-- A count that is not made smaller was rounded within 64 bits. -/
private theorem fits_of_le (h : SupportedBlockSize blockSize.toNat) (hways : 0 < ways.toNat)
    {adjusted : UInt64} (hadjusted : adjustNamespaceBlockCount blockCount blockSize ways = some adjusted)
    (hle : blockCount ≤ adjusted) :
    leastMultiple (alignmentOf (paddedBlockSize blockSize.toNat) ways.toNat)
      (paddedBlockSize blockSize.toNat * blockCount.toNat) < 2 ^ 64 := by
  obtain ⟨_, heq, hvalue⟩ := adjustNamespaceBlockCount_eq h hways blockCount
  obtain rfl := Option.some_inj.mp (hadjusted.symm.trans heq)
  have hpadded := h.padded.pos
  have halignment := h.padded.alignmentOf_lt ways.toNat_lt
  have hcount := UInt64.le_iff_toNat_le.mp hle
  -- the rounded size, modulo `2 ^ 64`, is no less than the size that was requested
  have hround : paddedBlockSize blockSize.toNat * blockCount.toNat ≤
      leastMultiple (alignmentOf (paddedBlockSize blockSize.toNat) ways.toNat)
        (blockCount.toNat * paddedBlockSize blockSize.toNat % 2 ^ 64) % 2 ^ 64 := by
    rw [hvalue] at hcount
    exact (Nat.mul_le_mul_left _ hcount).trans (Nat.mul_div_le _ _)
  have hrequested := hround.trans_lt (Nat.mod_lt _ (by decide))
  rw [Nat.mul_comm blockCount.toNat, Nat.mod_eq_of_lt hrequested] at hround
  have hsmall := leastMultiple_lt (alignmentOf_pos hpadded hways)
    (paddedBlockSize blockSize.toNat * blockCount.toNat)
  by_contra hlarge
  rw [Nat.mod_eq_sub_mod (Nat.not_lt.mp hlarge), Nat.mod_eq_of_lt (by omega)] at hround
  omega

/-- A count is adjusted as it should be exactly under the condition. -/
theorem adjustsToLeast_iff (h : SupportedBlockSize blockSize.toNat) (hways : 0 < ways.toNat) :
    AdjustsToLeast blockSize ways blockCount ↔
      RoundsAlike blockSize.toNat ways.toNat blockCount.toNat := by
  have hpadded := h.padded.pos
  have hblocks := blocksPerAlignment_pos h.pos hways
  have hraw := le_paddedBlockSize blockSize.toNat
  constructor
  · rintro ⟨adjusted, hadjusted, ⟨hle, haccepted⟩, hleast, -⟩
    have hfits := fits_of_le h hways hadjusted hle
    obtain ⟨_, heq, hvalue, hlt⟩ := adjusted_of_fits h hways hfits
    obtain rfl := Option.some_inj.mp (hadjusted.symm.trans heq)
    have hrawLt := (Nat.mul_le_mul_right adjusted.toNat hraw).trans_lt hlt
    refine ⟨hfits, hvalue.symm.trans (le_antisymm ?_ ?_)⟩
    · -- the least multiple of blocks of the size itself is accepted too
      have hbelow : leastMultiple (blocksPerAlignment blockSize.toNat ways.toNat) blockCount.toNat ≤
          adjusted.toNat := leastMultiple_le hblocks
        ((countAccepted_iff h hways hrawLt).mp haccepted) (UInt64.le_iff_toNat_le.mp hle)
      obtain ⟨least, hword⟩ : ∃ least : UInt64, least.toNat =
          leastMultiple (blocksPerAlignment blockSize.toNat ways.toNat) blockCount.toNat :=
        ⟨_, toNat_ofNat_of_lt (hbelow.trans_lt adjusted.toNat_lt)⟩
      have hleastLt : blockSize.toNat * least.toNat < 2 ^ 64 := by
        rw [hword]
        exact (Nat.mul_le_mul_left _ hbelow).trans_lt hrawLt
      rw [← hword, ← UInt64.le_iff_toNat_le]
      apply hleast
      · exact UInt64.le_iff_toNat_le.mpr (hword ▸ le_leastMultiple hblocks _)
      · exact (countAccepted_iff h hways hleastLt).mpr (hword ▸ dvd_leastMultiple _ _)
    · exact leastMultiple_le hblocks ((countAccepted_iff h hways hrawLt).mp haccepted)
        (UInt64.le_iff_toNat_le.mp hle)
  · rintro ⟨hfits, hsame⟩
    obtain ⟨adjusted, hadjusted, hvalue, hlt⟩ := adjusted_of_fits h hways hfits
    have hrawLt := (Nat.mul_le_mul_right adjusted.toNat hraw).trans_lt hlt
    rw [hsame] at hvalue
    refine ⟨adjusted, hadjusted, ⟨?_, ?_⟩, fun count hle haccepted => ?_, ?_⟩
    · exact UInt64.le_iff_toNat_le.mpr (hvalue ▸ le_leastMultiple hblocks _)
    · exact (countAccepted_iff h hways hrawLt).mpr (hvalue ▸ dvd_leastMultiple _ _)
    · rw [UInt64.le_iff_toNat_le]
      by_contra hless
      have hcountLt := (Nat.mul_le_mul_left blockSize.toNat (Nat.not_le.mp hless).le).trans_lt hrawLt
      have hmultiple := (countAccepted_iff h hways hcountLt).mp haccepted
      have hbound := leastMultiple_le hblocks hmultiple (UInt64.le_iff_toNat_le.mp hle)
      omega
    · -- an adjusted count is a whole multiple, which is its own least one
      have hfixed : leastMultiple (alignmentOf (paddedBlockSize blockSize.toNat) ways.toNat)
          (paddedBlockSize blockSize.toNat * adjusted.toNat) =
            paddedBlockSize blockSize.toNat * adjusted.toNat := by
        rw [alignmentOf_eq, leastMultiple_mul hpadded, hvalue, ← hsame,
          leastMultiple_of_dvd (blocksPerAlignment_pos hpadded hways) (dvd_leastMultiple _ _)]
      obtain ⟨again, hagain, hvalueAgain, -⟩ := adjusted_of_fits h hways (hfixed ▸ hlt)
      rw [alignmentOf_eq, leastMultiple_mul hpadded] at hfixed
      rw [hagain, Option.some_inj, ← UInt64.toNat_inj, hvalueAgain]
      exact Nat.eq_of_mul_eq_mul_left hpadded hfixed

end Adjusted

/-! ### Counts made from a capacity -/

/-- When the difference of a small capacity and the alignment, which is below zero, is rounded to
`2 ^ 64` at least. -/
private theorem wraps_iff {alignment real capacity : ℕ} (hreal : 0 < real) (hdvd : real ∣ alignment)
    (hle : real ≤ capacity) (hlt : capacity < alignment) (hword : alignment < 2 ^ 64) :
    2 ^ 64 ≤ leastMultiple alignment ((2 ^ 64 - alignment + capacity) / real * real) ↔
      alignment ∣ 2 ^ 64 ∨ alignment + real ≤ 2 ^ 64 % alignment + capacity := by
  have hpos : 0 < alignment := by omega
  have hdiv := Nat.div_add_mod (2 ^ 64) alignment
  have hmod := Nat.mod_lt (2 ^ 64) hpos
  have hblocks := Nat.div_mul_le_self (2 ^ 64 - alignment + capacity) real
  have hnext := Nat.lt_div_mul_add (a := 2 ^ 64 - alignment + capacity) hreal
  set quotient := 2 ^ 64 / alignment with hquotient
  have hquotientPos : 0 < quotient := Nat.div_pos hword.le hpos
  by_cases hexact : 2 ^ 64 % alignment = 0
  · -- the multiple below `2 ^ 64` is too small
    refine iff_of_true ?_ (.inl (Nat.dvd_of_mod_eq_zero hexact))
    by_contra hsmall
    have hprev : alignment * (quotient - 1) = alignment * quotient - alignment := by
      rw [Nat.mul_sub, Nat.mul_one]
    obtain ⟨c, hc⟩ := dvd_leastMultiple alignment
      ((2 ^ 64 - alignment + capacity) / real * real)
    have hfactor : c ≤ quotient - 1 := by
      by_contra hlarge
      have := Nat.mul_le_mul_left alignment (show quotient ≤ c by omega)
      omega
    have hbelow := (leastMultiple_le_mul_iff hpos).mp (hc.trans_le (Nat.mul_le_mul_left _ hfactor))
    omega
  · rw [or_iff_right fun h => hexact (Nat.mod_eq_zero_of_dvd h), ← not_iff_not, not_le, not_le]
    have hwhole : leastMultiple alignment ((2 ^ 64 - alignment + capacity) / real * real) < 2 ^ 64 ↔
        (2 ^ 64 - alignment + capacity) / real * real ≤ alignment * quotient := by
      rw [← leastMultiple_le_mul_iff hpos]
      constructor
      · intro hlow
        obtain ⟨c, hc⟩ := dvd_leastMultiple alignment
          ((2 ^ 64 - alignment + capacity) / real * real)
        rw [hc] at hlow ⊢
        refine Nat.mul_le_mul_left _ (Nat.le_of_lt_succ ?_)
        by_contra hlarge
        have habove := Nat.mul_le_mul_left alignment (Nat.not_lt.mp hlarge)
        rw [Nat.mul_succ] at habove
        omega
      · intro hlow
        omega
    rw [hwhole]
    obtain ⟨blocks, rfl⟩ := hdvd
    constructor
    · intro hlow
      omega
    · intro hsmall
      rw [Nat.mul_comm _ real, Nat.mul_assoc]
      refine Nat.mul_le_mul_left real (Nat.le_of_lt_succ ?_)
      rw [Nat.div_lt_iff_lt_mul hreal, Nat.succ_mul, Nat.mul_comm (blocks * quotient), ← Nat.mul_assoc]
      omega

/-- The blocks of the count made from a capacity fit in it. -/
def CapacityHoldsBlocks (blockSize : UInt16) (capacity : UInt64) : Prop :=
  ∃ count, capacityToRealBlockCount capacity blockSize.toUInt32 = some count ∧
    paddedBlockSize blockSize.toNat * count.toNat ≤ capacity.toNat

/-- When they do: the capacity is less than a block or at least the alignment, or the wrapped
difference of the two is rounded up to `2 ^ 64` and wraps back. -/
def CapacityRounds (blockSize capacity : ℕ) : Prop :=
  capacity < paddedBlockSize blockSize ∨ alignmentOf (paddedBlockSize blockSize) 1 ≤ capacity ∨
    alignmentOf (paddedBlockSize blockSize) 1 ∣ 2 ^ 64 ∨
      alignmentOf (paddedBlockSize blockSize) 1 + paddedBlockSize blockSize ≤
        2 ^ 64 % alignmentOf (paddedBlockSize blockSize) 1 + capacity

section FromCapacity

variable {blockSize : UInt16} {capacity : UInt64}

/-- `capacity_to_real_block_count` of a supported block size. -/
private theorem capacityToRealBlockCount_eq (h : SupportedBlockSize blockSize.toNat) :
    ∃ count, capacityToRealBlockCount capacity blockSize.toUInt32 = some count ∧ count.toNat =
      if alignmentOf (paddedBlockSize blockSize.toNat) 1 ∣
          paddedBlockSize blockSize.toNat * (capacity.toNat / paddedBlockSize blockSize.toNat) then
        capacity.toNat / paddedBlockSize blockSize.toNat
      else leastMultiple (alignmentOf (paddedBlockSize blockSize.toNat) 1)
        ((2 ^ 64 - alignmentOf (paddedBlockSize blockSize.toNat) 1 + capacity.toNat) % 2 ^ 64 /
          paddedBlockSize blockSize.toNat * paddedBlockSize blockSize.toNat) % 2 ^ 64 /
            paddedBlockSize blockSize.toNat := by
  have hpadded := h.padded
  have hreal : (getRealBlockSize blockSize.toUInt32).toNat = paddedBlockSize blockSize.toNat := by
    rw [toNat_getRealBlockSize (by rw [UInt16.toNat_toUInt32]; exact blockSize.toNat_lt.le),
      UInt16.toNat_toUInt32]
  have hidempotent := paddedBlockSize_padded blockSize.toNat
  generalize paddedBlockSize blockSize.toNat = padded at *
  rw [capacityToRealBlockCount]
  generalize getRealBlockSize blockSize.toUInt32 = real at *
  subst hreal
  have hne : real ≠ 0 := by
    rintro rfl
    exact hpadded.pos.ne rfl
  have hlt : real.toNat < 2 ^ 16 := by
    rcases hpadded with hone | ⟨-, -, hle⟩
    · omega
    · omega
  have hquot : (capacity / real.toUInt64).toNat = capacity.toNat / real.toNat := by
    rw [UInt64.toNat_div, UInt32.toNat_toUInt64]
  have hsize : (real.toUInt64 * (capacity / real.toUInt64)).toNat =
      real.toNat * (capacity.toNat / real.toNat) := by
    rw [toNat_mul_of_lt, UInt32.toNat_toUInt64, hquot]
    rw [UInt32.toNat_toUInt64, hquot]
    exact (Nat.mul_div_le _ _).trans_lt capacity.toNat_lt
  have hcheck := @checkNamespaceAlignment_eq _ 1 hpadded Nat.one_pos
    (real.toUInt64 * (capacity / real.toUInt64))
  rw [hsize, show (1 : UInt8).toNat = 1 from rfl] at hcheck
  simp only [if_neg hne, hcheck, Option.bind_eq_bind, Option.bind_some, decide_eq_true_iff]
  by_cases haligned : alignmentOf real.toNat 1 ∣ real.toNat * (capacity.toNat / real.toNat)
  · exact ⟨capacity / real.toUInt64, if_pos haligned, hquot.trans (if_pos haligned).symm⟩
  · obtain ⟨alignment, halignment, hvalue⟩ := getAlignmentSize_eq hpadded 1
    have hshort : real.toUInt16.toNat = real.toNat := by
      rw [UInt32.toNat_toUInt16, Nat.mod_eq_of_lt hlt]
    obtain ⟨adjusted, hadjusted, hadjustedValue⟩ := @adjustNamespaceBlockCount_eq 1 real.toUInt16
      (hshort ▸ hpadded) Nat.one_pos ((capacity - alignment.toUInt64) / real.toUInt64)
    have hblocks : ((capacity - alignment.toUInt64) / real.toUInt64).toNat =
        (2 ^ 64 - alignmentOf real.toNat 1 + capacity.toNat) % 2 ^ 64 / real.toNat := by
      rw [UInt64.toNat_div, UInt64.toNat_sub, UInt32.toNat_toUInt64, UInt32.toNat_toUInt64, hvalue]
      rfl
    have hfits : (2 ^ 64 - alignmentOf real.toNat 1 + capacity.toNat) % 2 ^ 64 / real.toNat *
        real.toNat < 2 ^ 64 :=
      (Nat.div_mul_le_self _ _).trans_lt (Nat.mod_lt _ (by decide))
    rw [hshort, hidempotent, hblocks, Nat.mod_eq_of_lt hfits] at hadjustedValue
    refine ⟨adjusted, ?_, hadjustedValue.trans (if_neg haligned).symm⟩
    rw [if_neg haligned]
    change (getAlignmentSize real (1 : UInt8).toUInt32).bind _ = _
    rw [halignment, Option.bind_some]
    exact hadjusted

/-- A capacity holds its blocks exactly under the condition. -/
theorem capacityHoldsBlocks_iff (h : SupportedBlockSize blockSize.toNat) :
    CapacityHoldsBlocks blockSize capacity ↔ CapacityRounds blockSize.toNat capacity.toNat := by
  obtain ⟨count, hcount, hvalue⟩ := @capacityToRealBlockCount_eq _ capacity h
  have hholds : CapacityHoldsBlocks blockSize capacity ↔
      paddedBlockSize blockSize.toNat * count.toNat ≤ capacity.toNat := by
    refine ⟨?_, fun hle => ⟨count, hcount, hle⟩⟩
    rintro ⟨_, heq, hle⟩
    rwa [Option.some_inj.mp (hcount.symm.trans heq)]
  have hpos := h.padded.pos
  have halignment := alignmentOf_pos hpos Nat.one_pos
  have hword : alignmentOf (paddedBlockSize blockSize.toNat) 1 < 2 ^ 32 :=
    h.padded.alignmentOf_lt (by decide)
  have hdvd : paddedBlockSize blockSize.toNat ∣ alignmentOf (paddedBlockSize blockSize.toNat) 1 :=
    Nat.dvd_lcm_left _ _
  have hlt := capacity.toNat_lt
  rw [hholds, CapacityRounds, hvalue]
  generalize paddedBlockSize blockSize.toNat = real at *
  generalize alignmentOf real 1 = alignment at *
  by_cases haligned : alignment ∣ real * (capacity.toNat / real)
  · rw [if_pos haligned]
    refine iff_of_true (Nat.mul_div_le _ _) ?_
    rcases Nat.eq_zero_or_pos (capacity.toNat / real) with hnone | hsome
    · exact .inl ((Nat.div_eq_zero_iff.mp hnone).resolve_left hpos.ne')
    · exact .inr (.inl ((Nat.le_of_dvd (Nat.mul_pos hpos hsome) haligned).trans
        (Nat.mul_div_le _ _)))
  · rw [if_neg haligned]
    have hle : real ≤ capacity.toNat := by
      by_contra hless
      rw [Nat.div_eq_of_lt (Nat.not_le.mp hless), Nat.mul_zero] at haligned
      exact haligned (dvd_zero _)
    rw [or_iff_right (Nat.not_lt.mpr hle)]
    rcases Nat.lt_or_ge capacity.toNat alignment with hsmall | hlarge
    · -- the difference wraps
      have hdifference : (2 ^ 64 - alignment + capacity.toNat) % 2 ^ 64 =
          2 ^ 64 - alignment + capacity.toNat := Nat.mod_eq_of_lt (by omega)
      rw [or_iff_right (Nat.not_le.mpr hsmall), hdifference,
        ← wraps_iff hpos hdvd hle hsmall (by omega)]
      have hblocks := Nat.div_mul_le_self (2 ^ 64 - alignment + capacity.toNat) real
      have hnext := Nat.lt_div_mul_add (a := 2 ^ 64 - alignment + capacity.toNat) hpos
      have hround := leastMultiple_lt halignment
        ((2 ^ 64 - alignment + capacity.toNat) / real * real)
      have hmultiple := dvd_leastMultiple alignment
        ((2 ^ 64 - alignment + capacity.toNat) / real * real)
      have hnotLess := le_leastMultiple halignment
        ((2 ^ 64 - alignment + capacity.toNat) / real * real)
      generalize leastMultiple alignment
        ((2 ^ 64 - alignment + capacity.toNat) / real * real) = rounded at *
      constructor
      · intro hfits
        by_contra hnoWrap
        rw [Nat.mod_eq_of_lt (Nat.not_le.mp hnoWrap),
          Nat.mul_div_cancel' (hdvd.trans hmultiple)] at hfits
        omega
      · intro hwraps
        refine (Nat.mul_div_le _ _).trans ?_
        rw [Nat.mod_eq_sub_mod hwraps, Nat.mod_eq_of_lt (by omega)]
        omega
    · refine iff_of_true ?_ (.inl hlarge)
      have hdifference : (2 ^ 64 - alignment + capacity.toNat) % 2 ^ 64 =
          capacity.toNat - alignment := by
        rw [Nat.mod_eq_sub_mod (by omega), Nat.mod_eq_of_lt (by omega)]
        omega
      rw [hdifference]
      have hblocks := Nat.div_mul_le_self (capacity.toNat - alignment) real
      have hround := leastMultiple_lt halignment ((capacity.toNat - alignment) / real * real)
      refine (Nat.mul_div_le _ _).trans ?_
      rw [Nat.mod_eq_of_lt (by omega)]
      omega

end FromCapacity

/-! ### Both together -/

/-- What is expected of the block counts: an adjusted count is the least accepted one and stays as it
is, and the count made from a capacity takes up no more than the capacity. -/
structure BlockCountsRight (blockSize : UInt16) (ways : UInt8) (blockCount capacity : UInt64) :
    Prop where
  /-- The adjusted count. -/
  adjusts : AdjustsToLeast blockSize ways blockCount
  /-- The count made from a capacity. -/
  holds : CapacityHoldsBlocks blockSize capacity

/-- A block size without padding rounds a count alike with itself. -/
theorem roundsAlike_iff_of_padded {blockSize ways blockCount : ℕ}
    (h : paddedBlockSize blockSize = blockSize) : RoundsAlike blockSize ways blockCount ↔
      leastMultiple (alignmentOf blockSize ways) (blockSize * blockCount) < 2 ^ 64 := by
  constructor
  · intro hrounds
    have hfits := hrounds.fits
    rwa [h] at hfits
  · exact fun hfits => ⟨by rwa [h], by rw [h]⟩

/-- The block counts of a supported block size are as expected exactly when both roundings are. -/
theorem blockCountsRight_iff {blockSize : UInt16} (h : SupportedBlockSize blockSize.toNat)
    {ways : UInt8} (hways : 0 < ways.toNat) (blockCount capacity : UInt64) :
    BlockCountsRight blockSize ways blockCount capacity ↔
      RoundsAlike blockSize.toNat ways.toNat blockCount.toNat ∧
        CapacityRounds blockSize.toNat capacity.toNat := by
  rw [← adjustsToLeast_iff h hways, ← capacityHoldsBlocks_iff h]
  exact ⟨fun hright => ⟨hright.adjusts, hright.holds⟩, fun hboth => ⟨hboth.1, hboth.2⟩⟩

/-- The condition at blocks of 4160 bytes on two DIMMs. -/
theorem blockCountsRight_sector : (SupportedBlockSize (4160 : UInt16).toNat ∧
    0 < (2 : UInt8).toNat) ∧ (BlockCountsRight 4160 2 7 1000000 ↔
      RoundsAlike (4160 : UInt16).toNat (2 : UInt8).toNat (7 : UInt64).toNat ∧
        CapacityRounds (4160 : UInt16).toNat (1000000 : UInt64).toNat) :=
  have h : SupportedBlockSize (4160 : UInt16).toNat := .inr (by decide)
  ⟨⟨h, by decide⟩, blockCountsRight_iff h (by decide) 7 1000000⟩

/-- One block of 520 bytes is adjusted to 64, while the least accepted count is 512. -/
theorem not_blockCountsRight_metadata : ¬ ∀ (blockSize : UInt16) (ways : UInt8)
    (blockCount capacity : UInt64), SupportedBlockSize blockSize.toNat → 0 < ways.toNat →
      blockCount.toNat * blockSize.toNat < 2 ^ 64 →
        BlockCountsRight blockSize ways blockCount capacity := by
  intro hall
  have h : SupportedBlockSize (520 : UInt16).toNat := .inr (by decide)
  have hright := hall 520 1 1 0 h (by decide) (by decide)
  exact absurd ((adjustsToLeast_iff h (by decide)).mp hright.adjusts).same (by decide)

end IxpDimm
