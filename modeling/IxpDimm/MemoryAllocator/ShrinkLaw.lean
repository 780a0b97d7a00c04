import IxpDimm.MemoryAllocator.SetCount
import IxpDimm.MemoryAllocator.ShrinkAccount

/-!
# The law of a shrink pass

A shrink pass is to take an amount off a kind of capacity, or all there is when the amount covers it,
and at most a rounding of one GiB a DIMM more, with nothing left to be taken (`ShrinkLaw`).  A single
round of equal shares does so exactly when the sizes, each counted for at most the share, cover the
amount and no size below the share is met while less than it is left to be taken: `shrinkLaw_iff`.
-/

namespace IxpDimm

open Foundation

/-- What a shrink pass of `shrinkBy` GiB is to do with a kind of capacity; `after` is what is left to
be taken and the goals that it makes. -/
structure ShrinkLaw (type : CapacityType) (dimms : List Dimm) (shrinkBy : UInt64) (goals : Goals)
    (after : UInt64 × Goals) : Prop where
  /-- The amount is gone, or all there was. -/
  taken : kindGiB type dimms after.2 + min shrinkBy.toNat (kindGiB type dimms goals) ≤
    kindGiB type dimms goals
  /-- What is gone on top of it is less than one GiB a DIMM. -/
  roundedUp : kindGiB type dimms goals < kindGiB type dimms after.2 +
    min shrinkBy.toNat (kindGiB type dimms goals) + dimms.length
  /-- Neither a size nor what is left to be taken wraps. -/
  noWrap : NoWrap (shrinkSubtractions type dimms shrinkBy goals)
  /-- No size increases. -/
  size_le : ∀ uid, (type.size (after.2 uid)).toNat ≤ (type.size (goals uid)).toNat
  /-- What is left is what was not there. -/
  left : after.1.toNat = shrinkBy.toNat - min shrinkBy.toNat (kindGiB type dimms goals)

/-- The amount can be taken off the sizes in one round of equal shares: without a deficit, and the
sizes, each counted for at most the share, cover it. -/
structure TakenInOneRound (sizes : List ℕ) (amount : ℕ) : Prop where
  /-- There is no deficit. -/
  fair : FairlyTaken sizes amount
  /-- The shares cover the amount, unless all is taken. -/
  covered : amount < sizes.sum → amount ≤ capped (evenShare amount sizes.length) sizes

/-! ### What is taken at most -/

/-- A share rounded up is less than one more than the amount for each. -/
private theorem mul_evenShare_lt {amount n : ℕ} (hn : 0 < n) :
    n * evenShare amount n < amount + n := by
  have hle := Nat.mul_div_le (amount + (n - 1)) n
  rw [evenShare]
  omega

section
variable {type : CapacityType} {dimms : List Dimm} {goals : Goals}

/-- Sums of sizes that differ by at most a share. -/
private theorem kindGiB_le_add_mul {before after : Goals} {share : ℕ} (list : List Dimm)
    (h : ∀ d ∈ list, (type.size (before d.uid)).toNat ≤ (type.size (after d.uid)).toNat + share) :
    kindGiB type list before ≤ kindGiB type list after + list.length * share := by
  induction list with
  | nil => exact Nat.zero_le _
  | cons d list ih =>
    rw [List.forall_mem_cons] at h
    have hrest := ih h.2
    simp only [kindGiB, List.map_cons, List.sum_cons, List.length_cons, Nat.succ_mul] at hrest ⊢
    have hfirst := h.1
    omega

/-- The DIMMs with capacity have no more than all. -/
private theorem kindGiB_dimmsWithCapacity_le (after : Goals) :
    kindGiB type (dimmsWithCapacity type dimms goals) after ≤ kindGiB type dimms after :=
  (List.filter_sublist.map _).sum_le_sum fun _ _ => Nat.zero_le _

/-- A pass that does not take all takes less than one GiB a DIMM more than the amount. -/
private theorem kindGiB_lt_of_shares (hnd : (dimms.map Dimm.uid).Nodup)
    (hfit : kindGiB type dimms goals < 2 ^ 64) {shrinkBy : UInt64}
    (hpos : 0 < shrinkBy.toNat) (hlt : shrinkBy.toNat < kindGiB type dimms goals) :
    kindGiB type dimms goals <
      kindGiB type dimms (shrinkCapacity type dimms shrinkBy goals).2 + shrinkBy.toNat +
        dimms.length := by
  have hsum := sum_kindSizes type dimms goals
  have htotal := toNat_getTotalCapacity hfit
  have hlength : (kindSizes type dimms goals).length =
      (dimmsWithCapacity type dimms goals).length := List.length_map _
  have hn : 0 < (dimmsWithCapacity type dimms goals).length := by
    rw [← hlength, List.length_pos_iff]
    intro hnil
    rw [hnil, List.sum_nil] at hsum
    omega
  have hshare : (shrinkShare type dimms shrinkBy goals).toNat =
      evenShare shrinkBy.toNat (dimmsWithCapacity type dimms goals).length := by
    rw [shrinkShare, if_neg, toNat_calculateCapacityToShrinkPerDimm hn hpos]
    rw [ge_iff_le, UInt64.le_iff_toNat_le]
    omega
  have hdimm : ∀ d ∈ dimmsWithCapacity type dimms goals, (type.size (goals d.uid)).toNat ≤
      (type.size ((shrinkCapacity type dimms shrinkBy goals).2 d.uid)).toNat +
        (shrinkShare type dimms shrinkBy goals).toNat := by
    intro d _
    rcases after_cases ⟨type, dimms, shrinkBy, goals⟩ hnd d.uid with ⟨-, hsame⟩ | ⟨-, -, hafter⟩
    · rw [ShrinkPass.after] at hsame
      rw [hsame]
      exact Nat.le_add_right _ _
    · rw [ShrinkPass.after, ShrinkPass.share] at hafter
      dsimp only at hafter
      rw [hafter, toNat_size_reduceGoal]
      omega
  have hle := kindGiB_le_add_mul (dimmsWithCapacity type dimms goals) hdimm
  have hpart := @kindGiB_dimmsWithCapacity_le type dimms goals
    (shrinkCapacity type dimms shrinkBy goals).2
  have hbefore : kindGiB type (dimmsWithCapacity type dimms goals) goals =
      kindGiB type dimms goals := hsum
  have hround := @mul_evenShare_lt shrinkBy.toNat _ hn
  have hcount : (dimmsWithCapacity type dimms goals).length ≤ dimms.length :=
    List.length_filter_le _ _
  rw [hshare] at hle
  omega

/-! ### The law -/

/-- A pass keeps the law exactly when there is a DIMM and the amount can be taken in one round. -/
private theorem shrinkCapacity_law_iff (hnd : (dimms.map Dimm.uid).Nodup)
    (hfit : kindGiB type dimms goals < 2 ^ 64) (shrinkBy : UInt64) :
    ShrinkLaw type dimms shrinkBy goals (shrinkCapacity type dimms shrinkBy goals) ↔
      dimms ≠ [] ∧ TakenInOneRound (kindSizes type dimms goals) shrinkBy.toNat := by
  have hsum := sum_kindSizes type dimms goals
  obtain ⟨hwrap, haccount⟩ := shrinkCapacity_account hnd hfit shrinkBy
  constructor
  · intro hlaw
    have hfair := hwrap.mp hlaw.noWrap
    obtain ⟨hleft, -, -⟩ := haccount hfair
    have hleft' := hlaw.left
    rw [hleft, leftAfter] at hleft'
    refine ⟨?_, hfair, fun hlt => ?_⟩
    · rintro rfl
      have hrounded := hlaw.roundedUp
      have htaken := hlaw.taken
      rw [List.length_nil] at hrounded
      omega
    · rw [if_neg (by omega)] at hleft'
      omega
  · rintro ⟨hne, hfair, hcovered⟩
    obtain ⟨hleft, htaken, -⟩ := haccount hfair
    have hlength := List.length_pos_iff.mpr hne
    have hleft' : leftAfter (kindSizes type dimms goals) shrinkBy.toNat =
        shrinkBy.toNat - min shrinkBy.toNat (kindGiB type dimms goals) := by
      rw [leftAfter]
      split_ifs with hall
      · omega
      · have := hcovered (by omega)
        omega
    rw [hleft'] at hleft htaken
    refine ⟨?_, ?_, hwrap.mpr hfair, fun uid => ?_, hleft⟩
    · omega
    · by_cases hlt : 0 < shrinkBy.toNat ∧ shrinkBy.toNat < kindGiB type dimms goals
      · have := kindGiB_lt_of_shares hnd hfit hlt.1 hlt.2
        omega
      · by_cases hzero : shrinkBy.toNat = 0
        · have hidle : shrinkCapacity type dimms shrinkBy goals = (shrinkBy, goals) := by
            rw [shrinkCapacity]
            dsimp only
            rw [if_neg]
            rintro ⟨hpos, -⟩
            rw [gt_iff_lt, UInt64.lt_iff_toNat_lt, UInt64.toNat_zero] at hpos
            omega
          rw [hidle]
          dsimp only
          omega
        · omega
    · have hwithin := shrinkCapacity_within type dimms shrinkBy goals uid
      cases type with
      | appDirect1 => exact hwithin.first
      | reservedAppDirectByOne => exact hwithin.first
      | appDirect2 => exact hwithin.second
      | twoLM => exact hwithin.memory

end

/-- `shrinkAD1` and `shrinkAD2` keep the law exactly when there is a DIMM and the amount can be taken
in one round of equal shares. -/
theorem shrinkLaw_iff (dimms : List Dimm) (shrinkBy : UInt64) (goals : Goals)
    (hnd : (dimms.map Dimm.uid).Nodup) (hfirst : kindGiB .appDirect1 dimms goals < 2 ^ 64)
    (hsecond : kindGiB .appDirect2 dimms goals < 2 ^ 64) :
    (ShrinkLaw .appDirect1 dimms shrinkBy goals (shrinkAD1 dimms shrinkBy goals) ↔
      dimms ≠ [] ∧ TakenInOneRound (kindSizes .appDirect1 dimms goals) shrinkBy.toNat) ∧
    (ShrinkLaw .appDirect2 dimms shrinkBy goals (shrinkAD2 dimms shrinkBy goals) ↔
      dimms ≠ [] ∧ TakenInOneRound (kindSizes .appDirect2 dimms goals) shrinkBy.toNat) :=
  ⟨shrinkCapacity_law_iff hnd hfirst shrinkBy, shrinkCapacity_law_iff hnd hsecond shrinkBy⟩

/-- Three DIMMs. -/
private def threeDimms : List Dimm :=
  [LayoutBuilder.plainDimm ['a'] 5 0 0, LayoutBuilder.plainDimm ['b'] 5 1 0,
    LayoutBuilder.plainDimm ['c'] 5 0 1]

/-- Goals with first extents of the same size but for one DIMM, and second extents of one GiB. -/
private def unevenGoals (last : UInt64) : Goals := fun uid =>
  { appDirectCount := 2, appDirect1Size := if uid = ['c'] then last else 5, appDirect2Size := 1 }

/-- Seven GiB off first extents of five, five and four GiB. -/
theorem shrinkLaw_evenTriple :
    ShrinkLaw .appDirect1 threeDimms 7 (unevenGoals 4) (shrinkAD1 threeDimms 7 (unevenGoals 4)) := by
  refine (shrinkLaw_iff threeDimms 7 (unevenGoals 4) (by decide) (by decide) (by decide)).1.mpr
    ⟨List.cons_ne_nil _ _, fun _ => ?_, fun _ => by decide⟩
  have hsizes : kindSizes .appDirect1 threeDimms (unevenGoals 4) = [5, 5, 4] := by decide
  rw [hsizes]
  have hshare : evenShare (7 : UInt64).toNat [5, 5, 4].length = 3 := by decide
  rw [hshare, fair_cons, fair_cons, fair_cons]
  exact ⟨by decide, by decide, by decide, fair_nil _ _⟩

/-- Seven GiB off first extents of five, five and two GiB: at the last one, one GiB is left to be
taken. -/
theorem not_shrinkLaw_unevenTriple :
    ¬ ∀ (dimms : List Dimm) (shrinkBy : UInt64) (goals : Goals), dimms ≠ [] →
      (dimms.map Dimm.uid).Nodup → kindGiB .appDirect1 dimms goals < 2 ^ 64 →
      kindGiB .appDirect2 dimms goals < 2 ^ 64 →
      ShrinkLaw .appDirect1 dimms shrinkBy goals (shrinkAD1 dimms shrinkBy goals) ∧
      ShrinkLaw .appDirect2 dimms shrinkBy goals (shrinkAD2 dimms shrinkBy goals) := by
  intro h
  have hlaw := (h threeDimms 7 (unevenGoals 2) (List.cons_ne_nil _ _) (by decide) (by decide)
    (by decide)).1
  exact absurd hlaw.left (by decide)

end IxpDimm
