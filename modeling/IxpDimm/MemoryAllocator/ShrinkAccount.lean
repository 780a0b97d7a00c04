import IxpDimm.Foundation.EvenShare
import IxpDimm.MemoryAllocator.ShrinkSteps

/-!
# The account of a shrink pass

A shrink pass takes an amount off one kind of capacity and hands on what is left to be taken.  The
subtractions it makes on unsigned numbers are listed with their two operands; none of them wraps
exactly when the amount is `FairlyTaken` off the sizes of the DIMMs, and then the amount handed on is
`leftAfter` and the capacity of the kind is lower by at least what was taken.
-/

namespace IxpDimm

open Foundation

/-! ### The subtractions of a pass -/

/-- The subtractions of `shrinkSize`, each with its two operands. -/
def shrinkSizeSubtractions (shrinkSizeBy reduceBy size : UInt64) : List (UInt64 × UInt64) :=
  if size ≥ reduceBy ∧ shrinkSizeBy ≥ reduceBy then [(size, reduceBy), (shrinkSizeBy, reduceBy)]
  else if size ≥ reduceBy ∧ shrinkSizeBy < reduceBy then [(size, reduceBy)]
  else [(shrinkSizeBy, size)]

/-- The subtractions of the loop that shrinks evenly. -/
def evenSubtractions (type : CapacityType) (reduceBy : UInt64) :
    UInt64 × Goals → List Dimm → List (UInt64 × UInt64)
  | _, [] => []
  | acc, dimm :: dimms =>
    (if acc.1 > 0 then
      shrinkSizeSubtractions acc.1 reduceBy (type.size (acc.2 dimm.uid))
    else []) ++ evenSubtractions type reduceBy (shrinkDimm type reduceBy acc dimm) dimms

/-- The subtractions of a shrink pass. -/
def shrinkSubtractions (type : CapacityType) (dimms : List Dimm) (shrinkBy : UInt64)
    (goals : Goals) : List (UInt64 × UInt64) :=
  let typeDimms := dimmsWithCapacity type dimms goals
  if shrinkBy > 0 ∧ typeDimms ≠ [] then
    let totalCapacity := getTotalCapacity type typeDimms goals
    if shrinkBy ≥ totalCapacity then [(shrinkBy, totalCapacity)]
    else
      let reduceBy := calculateCapacityToShrinkPerDimm shrinkBy typeDimms.length
      evenSubtractions type reduceBy (shrinkBy, goals) typeDimms
  else []

/-- No subtraction wraps. -/
def NoWrap (subtractions : List (UInt64 × UInt64)) : Prop :=
  ∀ operands ∈ subtractions, operands.2 ≤ operands.1

/-- Two sequences of subtractions. -/
theorem noWrap_append {first rest : List (UInt64 × UInt64)} :
    NoWrap (first ++ rest) ↔ NoWrap first ∧ NoWrap rest := by
  unfold NoWrap
  constructor
  · intro h
    exact ⟨fun s hs => h s (List.mem_append_left rest hs),
      fun s hs => h s (List.mem_append_right first hs)⟩
  · rintro ⟨hfirst, hrest⟩ s hs
    rcases List.mem_append.mp hs with hs | hs
    · exact hfirst s hs
    · exact hrest s hs

/-- No subtraction at all. -/
theorem noWrap_nil : NoWrap [] := fun _ hs => absurd hs List.not_mem_nil

/-- A single subtraction. -/
theorem noWrap_singleton {a b : UInt64} : NoWrap [(a, b)] ↔ b.toNat ≤ a.toNat := by
  unfold NoWrap
  rw [List.forall_mem_singleton, UInt64.le_iff_toNat_le]

/-! ### Capacity by kind -/

/-- The GiB of a kind of capacity on some DIMMs. -/
def kindGiB (type : CapacityType) (dimms : List Dimm) (goals : Goals) : ℕ :=
  (dimms.map fun d => (type.size (goals d.uid)).toNat).sum

/-- The sizes that are not zero, in the order of the DIMMs. -/
def kindSizes (type : CapacityType) (dimms : List Dimm) (goals : Goals) : List ℕ :=
  (dimmsWithCapacity type dimms goals).map fun d => (type.size (goals d.uid)).toNat

/-- The sizes that are zero do not count. -/
theorem sum_kindSizes (type : CapacityType) (dimms : List Dimm) (goals : Goals) :
    (kindSizes type dimms goals).sum = kindGiB type dimms goals := by
  unfold kindSizes kindGiB dimmsWithCapacity
  refine sum_map_filter_of_zero fun d _ hp => ?_
  rw [toNat_eq_zero_iff]
  by_contra hne
  have hpos := UInt64.pos_iff_ne_zero.mpr hne
  simp [hpos] at hp

/-- The capacity of a kind depends on its sizes only. -/
theorem kindGiB_congr {type : CapacityType} {dimms : List Dimm} {goals goals' : Goals}
    (h : ∀ d ∈ dimms, type.size (goals d.uid) = type.size (goals' d.uid)) :
    kindGiB type dimms goals = kindGiB type dimms goals' := by
  unfold kindGiB
  exact congrArg List.sum (List.map_congr_left fun d hd => by rw [h d hd])

/-- The DIMMs with capacity of a kind depend on its sizes only. -/
theorem kindSizes_congr {type : CapacityType} {dimms : List Dimm} {goals goals' : Goals}
    (h : ∀ d ∈ dimms, type.size (goals d.uid) = type.size (goals' d.uid)) :
    kindSizes type dimms goals = kindSizes type dimms goals' := by
  have hdimms : dimmsWithCapacity type dimms goals = dimmsWithCapacity type dimms goals' :=
    List.filter_congr fun d hd => by rw [h d hd]
  unfold kindSizes
  rw [hdimms]
  refine List.map_congr_left fun d hd => ?_
  rw [h d (List.mem_of_mem_filter hd)]

/-! ### The even loop -/

/-- One subtraction of a size: it wraps when the size is below the share and above what is left. -/
private theorem noWrap_shrinkSize {left reduceBy size : UInt64} (hleft : left > 0) :
    NoWrap (shrinkSizeSubtractions left reduceBy size) ↔
      (size.toNat < reduceBy.toNat → left.toNat = 0 ∨ size.toNat ≤ left.toNat) := by
  have hpos : 0 < left.toNat := UInt64.lt_iff_toNat_lt.mp hleft
  unfold shrinkSizeSubtractions
  by_cases hsize : size ≥ reduceBy
  · have hsize' : reduceBy.toNat ≤ size.toNat := UInt64.le_iff_toNat_le.mp hsize
    by_cases hle : left ≥ reduceBy
    · rw [if_pos ⟨hsize, hle⟩]
      refine ⟨fun _ hlt => absurd hlt (by omega), fun _ => ?_⟩
      intro operands hmem
      simp only [List.mem_cons, List.not_mem_nil, or_false] at hmem
      rcases hmem with rfl | rfl
      · exact hsize
      · exact hle
    · rw [if_neg (fun h => hle h.2), if_pos ⟨hsize, UInt64.not_le.mp hle⟩, noWrap_singleton]
      exact ⟨fun _ hlt => absurd hlt (by omega), fun _ => hsize'⟩
  · have hsize' : size.toNat < reduceBy.toNat :=
      UInt64.lt_iff_toNat_lt.mp (UInt64.not_le.mp hsize)
    rw [if_neg (fun h => hsize h.1), if_neg (fun h => hsize h.1), noWrap_singleton]
    constructor
    · exact fun h _ => .inr h
    · intro h
      rcases h hsize' with h | h
      · omega
      · exact h

/-- What a visit leaves to be taken, when nothing wraps. -/
private theorem toNat_shrinkSize_fst {left reduceBy size : UInt64} (hleft : left > 0)
    (hfair : size.toNat < reduceBy.toNat → left.toNat = 0 ∨ size.toNat ≤ left.toNat) :
    (shrinkSize left reduceBy size).1.toNat = left.toNat - min reduceBy.toNat size.toNat := by
  have hpos : 0 < left.toNat := UInt64.lt_iff_toNat_lt.mp hleft
  unfold shrinkSize
  by_cases hsize : size ≥ reduceBy
  · have hsize' : reduceBy.toNat ≤ size.toNat := UInt64.le_iff_toNat_le.mp hsize
    by_cases hle : left ≥ reduceBy
    · rw [if_pos ⟨hsize, hle⟩, toNat_sub_of_toNat_le (UInt64.le_iff_toNat_le.mp hle),
        Nat.min_eq_left hsize']
    · have hlt := UInt64.lt_iff_toNat_lt.mp (UInt64.not_le.mp hle)
      rw [if_neg (fun h => hle h.2), if_pos ⟨hsize, UInt64.not_le.mp hle⟩, UInt64.toNat_zero,
        Nat.min_eq_left hsize']
      omega
  · have hsize' : size.toNat < reduceBy.toNat :=
      UInt64.lt_iff_toNat_lt.mp (UInt64.not_le.mp hsize)
    have hle : size.toNat ≤ left.toNat := by
      rcases hfair hsize' with h | h
      · omega
      · exact h
    rw [if_neg (fun h => hsize h.1), if_neg (fun h => hsize h.1), toNat_sub_of_toNat_le hle,
      Nat.min_eq_right (by omega)]

/-- A visit, when something is left to be taken. -/
private theorem shrinkDimm_of_pos {type : CapacityType} {reduceBy : UInt64} {acc : UInt64 × Goals}
    (h : acc.1 > 0) (dimm : Dimm) :
    shrinkDimm type reduceBy acc dimm =
      ((shrinkSize acc.1 reduceBy (type.size (acc.2 dimm.uid))).1,
        Function.update acc.2 dimm.uid (reduceGoal type reduceBy (acc.2 dimm.uid))) := by
  rw [shrinkDimm, if_pos h]
  dsimp only
  rw [shrinkSize_snd, reduceGoal]

/-- A visit leaves the other goals. -/
private theorem shrinkDimm_apply_of_ne {type : CapacityType} {reduceBy : UInt64}
    {acc : UInt64 × Goals} {dimm : Dimm} {uid : Uid} (h : uid ≠ dimm.uid) :
    (shrinkDimm type reduceBy acc dimm).2 uid = acc.2 uid := by
  by_cases hpos : acc.1 > 0
  · rw [shrinkDimm_of_pos hpos]
    exact Function.update_of_ne h _ _
  · rw [shrinkDimm, if_neg hpos]

/-- The even loop leaves the goals of other DIMMs. -/
private theorem evenLoop_apply_of_notMem {type : CapacityType} {reduceBy : UInt64}
    {dimms : List Dimm} {uid : Uid} (h : uid ∉ dimms.map Dimm.uid) (acc : UInt64 × Goals) :
    (dimms.foldl (shrinkDimm type reduceBy) acc).2 uid = acc.2 uid := by
  induction dimms generalizing acc with
  | nil => rfl
  | cons d dimms ih =>
    rw [List.map_cons, List.mem_cons, not_or] at h
    rw [List.foldl_cons, ih h.2, shrinkDimm_apply_of_ne h.1]

/-- With nothing left to take, the even loop does nothing. -/
private theorem evenLoop_of_zero {type : CapacityType} {reduceBy : UInt64} {acc : UInt64 × Goals}
    (h : ¬ acc.1 > 0) (dimms : List Dimm) :
    dimms.foldl (shrinkDimm type reduceBy) acc = acc ∧
      evenSubtractions type reduceBy acc dimms = [] := by
  induction dimms with
  | nil => exact ⟨rfl, rfl⟩
  | cons d dimms ih =>
    have hskip : shrinkDimm type reduceBy acc d = acc := by rw [shrinkDimm, if_neg h]
    rw [List.foldl_cons, evenSubtractions, hskip, if_neg h]
    exact ⟨ih.1, by rw [ih.2, List.nil_append]⟩

/-- The account of an amount taken off a kind of capacity: what is left to be taken, and that the
capacity is lower by what was taken, or by more when nothing is left. -/
structure Accounted (type : CapacityType) (dimms : List Dimm) (amount left : ℕ) (before : Goals)
    (after : UInt64 × Goals) : Prop where
  /-- What is left to be taken. -/
  left_eq : after.1.toNat = left
  /-- At least what was taken is gone. -/
  taken_le : kindGiB type dimms after.2 + (amount - left) ≤ kindGiB type dimms before
  /-- Exactly what was taken is gone when something is left. -/
  taken_eq : 0 < left →
    kindGiB type dimms after.2 + (amount - left) = kindGiB type dimms before

/-- The account of the even loop: nothing wraps exactly when the amount is fairly taken, and then
what is left is given by the sizes. -/
private theorem evenLoop_account (type : CapacityType) (reduceBy : UInt64) (dimms : List Dimm) :
    ∀ acc : UInt64 × Goals, (dimms.map Dimm.uid).Nodup →
      (NoWrap (evenSubtractions type reduceBy acc dimms) ↔ Fair reduceBy.toNat acc.1.toNat
        (dimms.map fun d => (type.size (acc.2 d.uid)).toNat)) ∧
      (Fair reduceBy.toNat acc.1.toNat (dimms.map fun d => (type.size (acc.2 d.uid)).toNat) →
        Accounted type dimms acc.1.toNat (acc.1.toNat -
          capped reduceBy.toNat (dimms.map fun d => (type.size (acc.2 d.uid)).toNat)) acc.2
          (dimms.foldl (shrinkDimm type reduceBy) acc)) := by
  induction dimms with
  | nil =>
    intro acc _
    refine ⟨⟨fun _ => fair_nil _ _, fun _ => noWrap_nil⟩, fun _ => ⟨?_, ?_, fun _ => ?_⟩⟩
    · rw [List.foldl_nil, List.map_nil, capped_nil, Nat.sub_zero]
    · simp [kindGiB]
    · simp [kindGiB]
  | cons d dimms ih =>
    intro acc hnd
    rw [List.map_cons, List.nodup_cons] at hnd
    by_cases hpos : acc.1 > 0
    · obtain ⟨ihwrap, ihaccount⟩ := ih (shrinkDimm type reduceBy acc d) hnd.2
      -- The sizes behind the first one are still those of the start.
      have hrest : ∀ e ∈ dimms, (shrinkDimm type reduceBy acc d).2 e.uid = acc.2 e.uid := by
        intro e he
        apply shrinkDimm_apply_of_ne
        exact fun heq => hnd.1 (heq ▸ List.mem_map_of_mem he)
      have hsizes : (dimms.map fun e =>
          (type.size ((shrinkDimm type reduceBy acc d).2 e.uid)).toNat) =
            dimms.map fun e => (type.size (acc.2 e.uid)).toNat :=
        List.map_congr_left fun e he => by rw [hrest e he]
      have hleft : ((type.size (acc.2 d.uid)).toNat < reduceBy.toNat →
          acc.1.toNat = 0 ∨ (type.size (acc.2 d.uid)).toNat ≤ acc.1.toNat) →
            (shrinkDimm type reduceBy acc d).1.toNat =
              acc.1.toNat - min reduceBy.toNat (type.size (acc.2 d.uid)).toNat := by
        intro hfair
        rw [shrinkDimm_of_pos hpos]
        exact toNat_shrinkSize_fst hpos hfair
      rw [hsizes] at ihwrap ihaccount
      rw [List.map_cons, fair_cons]
      constructor
      · rw [evenSubtractions, if_pos hpos, noWrap_append, noWrap_shrinkSize hpos, ihwrap]
        refine and_congr_right fun hfair => ?_
        rw [hleft hfair]
      · rintro ⟨hfirst, hfair⟩
        rw [← hleft hfirst] at hfair
        obtain ⟨hout, hle, heq⟩ := ihaccount hfair
        rw [hleft hfirst] at hout hle heq
        rw [Nat.sub_sub] at hout hle heq
        have hfirstSize : (type.size ((dimms.foldl (shrinkDimm type reduceBy)
            (shrinkDimm type reduceBy acc d)).2 d.uid)).toNat =
              (type.size (acc.2 d.uid)).toNat - reduceBy.toNat := by
          rw [evenLoop_apply_of_notMem hnd.1, shrinkDimm_of_pos hpos]
          dsimp only
          rw [Function.update_self, toNat_size_reduceGoal]
        have hkind : kindGiB type dimms (shrinkDimm type reduceBy acc d).2 =
            kindGiB type dimms acc.2 :=
          kindGiB_congr fun e he => by rw [hrest e he]
        rw [hkind] at hle heq
        rw [List.foldl_cons, capped_cons]
        refine ⟨hout, ?_, fun hpos' => ?_⟩
        · simp only [kindGiB, List.map_cons, List.sum_cons, hfirstSize] at hle ⊢
          omega
        · have heq' := heq hpos'
          simp only [kindGiB, List.map_cons, List.sum_cons, hfirstSize] at heq' ⊢
          omega
    · have hzero : acc.1.toNat = 0 := by
        have := UInt64.le_iff_toNat_le.mp (UInt64.not_lt.mp hpos)
        rw [UInt64.toNat_zero] at this
        omega
      have hskip : (d :: dimms).foldl (shrinkDimm type reduceBy) acc = acc ∧
          evenSubtractions type reduceBy acc (d :: dimms) = [] := evenLoop_of_zero hpos _
      rw [hskip.1, hskip.2, hzero]
      refine ⟨⟨fun _ => fair_zero _ _, fun _ => noWrap_nil⟩, fun _ => ⟨?_, ?_, fun h => ?_⟩⟩
      · rw [hzero, Nat.zero_sub]
      · rw [Nat.zero_sub, Nat.add_zero]
      · exact absurd h (by omega)

/-! ### A whole pass -/

section Pass

variable {type : CapacityType} {dimms : List Dimm} {goals : Goals}

/-- The share of a pass that does not eliminate the kind. -/
theorem toNat_calculateCapacityToShrinkPerDimm {shrinkBy : UInt64} {n : ℕ} (hn : 0 < n)
    (hpos : 0 < shrinkBy.toNat) :
    (calculateCapacityToShrinkPerDimm shrinkBy n).toNat = evenShare shrinkBy.toNat n := by
  have hle : (shrinkBy.toNat + (n - 1)) / n ≤ shrinkBy.toNat := by
    apply Nat.div_le_of_le_mul
    nlinarith [Nat.mul_le_mul_right shrinkBy.toNat hn, Nat.sub_add_cancel hn]
  have hlt := shrinkBy.toNat_lt
  rw [calculateCapacityToShrinkPerDimm, toNat_ofNat_of_lt (by omega), evenShare]

/-- The total of the DIMMs with capacity. -/
theorem toNat_getTotalCapacity (hfit : kindGiB type dimms goals < 2 ^ 64) :
    (getTotalCapacity type (dimmsWithCapacity type dimms goals) goals).toNat =
      (kindSizes type dimms goals).sum := by
  rw [← sum_kindSizes] at hfit
  exact toNat_foldl_add_of_lt (fun d : Dimm => type.size (goals d.uid)) _ hfit

/-- The uid of a DIMM that has none of the kind is not among those of the DIMMs that have some. -/
private theorem notMem_uids (hnd : (dimms.map Dimm.uid).Nodup) {d : Dimm} (hd : d ∈ dimms)
    (hnot : d ∉ dimmsWithCapacity type dimms goals) :
    d.uid ∉ (dimmsWithCapacity type dimms goals).map Dimm.uid := by
  intro hmem
  obtain ⟨e, he, huid⟩ := List.mem_map.mp hmem
  have hed : e = d := List.inj_on_of_nodup_map hnd (List.mem_of_mem_filter he) hd huid
  exact hnot (hed ▸ he)

/-- The capacity of a kind is on the DIMMs that have some. -/
private theorem kindGiB_dimmsWithCapacity {after : Goals}
    (h : ∀ d ∈ dimms, d ∉ dimmsWithCapacity type dimms goals →
      type.size (after d.uid) = type.size (goals d.uid)) :
    kindGiB type dimms after = kindGiB type (dimmsWithCapacity type dimms goals) after := by
  unfold kindGiB dimmsWithCapacity
  refine (sum_map_filter_of_zero fun d hd hp => ?_).symm
  have hnot : d ∉ dimmsWithCapacity type dimms goals := by
    intro hmem
    rw [(List.mem_filter.mp hmem).2] at hp
    cases hp
  rw [h d hd hnot, toNat_eq_zero_iff]
  by_contra hne
  have hpos := UInt64.pos_iff_ne_zero.mpr hne
  simp [hpos] at hp

/-- The account of a shrink pass. -/
theorem shrinkCapacity_account (hnd : (dimms.map Dimm.uid).Nodup)
    (hfit : kindGiB type dimms goals < 2 ^ 64) (shrinkBy : UInt64) :
    (NoWrap (shrinkSubtractions type dimms shrinkBy goals) ↔
      FairlyTaken (kindSizes type dimms goals) shrinkBy.toNat) ∧
    (FairlyTaken (kindSizes type dimms goals) shrinkBy.toNat →
      Accounted type dimms shrinkBy.toNat
        (leftAfter (kindSizes type dimms goals) shrinkBy.toNat) goals
        (shrinkCapacity type dimms shrinkBy goals)) := by
  have htotal := toNat_getTotalCapacity hfit
  have hsum := sum_kindSizes type dimms goals
  have hnd' : ((dimmsWithCapacity type dimms goals).map Dimm.uid).Nodup :=
    hnd.sublist (List.filter_sublist.map _)
  have hlength : (kindSizes type dimms goals).length =
      (dimmsWithCapacity type dimms goals).length := by
    rw [kindSizes, List.length_map]
  unfold shrinkSubtractions shrinkCapacity
  dsimp only
  by_cases hrun : shrinkBy > 0 ∧ dimmsWithCapacity type dimms goals ≠ []
  · rw [if_pos hrun, if_pos hrun]
    have hpos : 0 < shrinkBy.toNat := UInt64.lt_iff_toNat_lt.mp hrun.1
    by_cases hall : shrinkBy ≥ getTotalCapacity type (dimmsWithCapacity type dimms goals) goals
    · -- The amount covers the kind, which is eliminated.
      have hle := UInt64.le_iff_toNat_le.mp hall
      rw [if_pos hall, if_pos hall, noWrap_singleton]
      refine ⟨⟨fun _ hlt => absurd hlt (by omega), fun _ => hle⟩, fun _ => ?_⟩
      have hkilled : kindGiB type dimms
          (killAllCapacityByType type (dimmsWithCapacity type dimms goals) goals) = 0 := by
        have hothers : ∀ d ∈ dimms, d ∉ dimmsWithCapacity type dimms goals →
            type.size (killAllCapacityByType type (dimmsWithCapacity type dimms goals) goals d.uid) =
              type.size (goals d.uid) := by
          intro d hd hnot
          rw [killAllCapacityByType, updateAll_apply_of_notMem (notMem_uids hnd hd hnot)]
        rw [kindGiB_dimmsWithCapacity hothers]
        apply List.sum_eq_zero
        intro n hn
        obtain ⟨d, hd, rfl⟩ := List.mem_map.mp hn
        rw [killAllCapacityByType, updateAll_apply_of_mem hnd' hd]
        cases type <;> simp [CapacityType.size, CapacityType.setSize]
      have hleft : leftAfter (kindSizes type dimms goals) shrinkBy.toNat =
          shrinkBy.toNat - (kindSizes type dimms goals).sum := by
        rw [leftAfter, if_pos (by omega)]
      rw [hleft]
      refine ⟨?_, ?_, fun _ => ?_⟩
      · rw [toNat_sub_of_toNat_le hle, htotal]
      · rw [hkilled]
        omega
      · rw [hkilled]
        omega
    · have hlt := UInt64.lt_iff_toNat_lt.mp (UInt64.not_le.mp hall)
      rw [if_neg hall, if_neg hall]
      have hshare := toNat_calculateCapacityToShrinkPerDimm
        (List.length_pos_iff.mpr hrun.2) hpos
      obtain ⟨hwrap, haccount⟩ := evenLoop_account type
        (calculateCapacityToShrinkPerDimm shrinkBy (dimmsWithCapacity type dimms goals).length)
        (dimmsWithCapacity type dimms goals) (shrinkBy, goals) hnd'
      dsimp only at hwrap haccount
      rw [hshare, ← hlength] at hwrap haccount
      have hfair : FairlyTaken (kindSizes type dimms goals) shrinkBy.toNat ↔
          Fair (evenShare shrinkBy.toNat (kindSizes type dimms goals).length) shrinkBy.toNat
            (kindSizes type dimms goals) :=
        ⟨fun h => h (by omega), fun h _ => h⟩
      rw [hfair, leftAfter, if_neg (by omega), hlength]
      rw [hlength] at hwrap haccount
      refine ⟨hwrap, fun h => ?_⟩
      obtain ⟨hleft, hle, heq⟩ := haccount h
      have hkind : kindGiB type dimms ((dimmsWithCapacity type dimms goals).foldl
          (shrinkDimm type (calculateCapacityToShrinkPerDimm shrinkBy
            (dimmsWithCapacity type dimms goals).length)) (shrinkBy, goals)).2 =
          kindGiB type (dimmsWithCapacity type dimms goals)
            ((dimmsWithCapacity type dimms goals).foldl
              (shrinkDimm type (calculateCapacityToShrinkPerDimm shrinkBy
                (dimmsWithCapacity type dimms goals).length)) (shrinkBy, goals)).2 := by
        apply kindGiB_dimmsWithCapacity
        intro d hd hnot
        rw [evenLoop_apply_of_notMem (notMem_uids hnd hd hnot)]
      have hbefore : kindGiB type dimms goals =
          kindGiB type (dimmsWithCapacity type dimms goals) goals :=
        kindGiB_dimmsWithCapacity fun _ _ _ => rfl
      refine ⟨hleft, ?_, ?_⟩
      · rw [hkind, hbefore]
        exact hle
      · rw [hkind, hbefore]
        exact heq
  · rw [if_neg hrun, if_neg hrun]
    -- Nothing is to be taken, or nothing is there.
    have hidle : FairlyTaken (kindSizes type dimms goals) shrinkBy.toNat ∧
        leftAfter (kindSizes type dimms goals) shrinkBy.toNat = shrinkBy.toNat := by
      by_cases hpos : shrinkBy > 0
      · have hnil : dimmsWithCapacity type dimms goals = [] := by
          by_contra hne
          exact hrun ⟨hpos, hne⟩
        rw [kindSizes, hnil]
        exact ⟨fun _ => fair_nil _ _, rfl⟩
      · have hzero : shrinkBy.toNat = 0 := by
          have := UInt64.le_iff_toNat_le.mp (UInt64.not_lt.mp hpos)
          rw [UInt64.toNat_zero] at this
          omega
        rw [hzero]
        refine ⟨fun _ => fair_zero _ _, ?_⟩
        have hle := leftAfter_le (kindSizes type dimms goals) 0
        omega
    rw [hidle.2]
    refine ⟨⟨fun _ => hidle.1, fun _ => noWrap_nil⟩, fun _ => ⟨rfl, ?_, fun _ => ?_⟩⟩
    · rw [Nat.sub_self, Nat.add_zero]
    · rw [Nat.sub_self, Nat.add_zero]

/-- A shrink pass leaves the goals of other DIMMs. -/
theorem shrinkCapacity_apply_of_notMem {uid : Uid} (h : uid ∉ dimms.map Dimm.uid)
    (shrinkBy : UInt64) : (shrinkCapacity type dimms shrinkBy goals).2 uid = goals uid := by
  have hnot : uid ∉ (dimmsWithCapacity type dimms goals).map Dimm.uid :=
    fun hmem => h ((List.filter_sublist.map _).subset hmem)
  unfold shrinkCapacity
  dsimp only
  split_ifs
  · dsimp only
    rw [killAllCapacityByType, updateAll_apply_of_notMem hnot]
  · exact evenLoop_apply_of_notMem hnot _
  · rfl

/-- A shrink pass leaves the other kinds of capacity. -/
theorem size_shrinkCapacity_of_ne {other : CapacityType}
    (h : ∀ share goal, other.size (reduceGoal type share goal) = other.size goal)
    (shrinkBy : UInt64) (uid : Uid) :
    other.size ((shrinkCapacity type dimms shrinkBy goals).2 uid) = other.size (goals uid) := by
  rw [shrinkCapacity_goals]
  refine updateAll_forall (P := fun uid (goal : ConfigGoal) =>
    other.size goal = other.size (goals uid)) ?_ (fun _ => rfl) uid
  intro d _ goal hgoal
  rw [h, hgoal]

end Pass

end IxpDimm
