import IxpDimm.MemoryAllocator.Symmetry

/-!
# The number of sets of a goal along the shrink passes

The capacity left on a DIMM is computed with the number of sets of its goal: the second extent is
seen only when there are two.  A shrink pass that empties the first extent of a DIMM takes one off
the number, so a second extent that stays is no longer seen, until a later pass empties it too.
`Stranded` says for which lists of passes this happens, and `SetCount` carries it along a build.
-/

namespace IxpDimm

open Foundation

/-! ### Shrink passes and the number of sets -/

namespace ShrinkPass

/-- The pass takes capacity from a DIMM. -/
def Visits (pass : ShrinkPass) (uid : Uid) : Prop :=
  uid ∈ (shrinkVisits pass.type pass.dimms pass.shrinkBy pass.goals).map Dimm.uid

/-- The pass empties the first extent of a DIMM and leaves a second one behind. -/
def StrandsSecond (pass : ShrinkPass) (uid : Uid) : Prop :=
  pass.type.slot = some .first ∧ pass.Visits uid ∧
    (pass.goals uid).appDirect1Size ≤ pass.share ∧ (pass.goals uid).appDirect2Size ≠ 0

/-- The pass empties the second extent of a DIMM. -/
def EmptiesSecond (pass : ShrinkPass) (uid : Uid) : Prop :=
  pass.type.slot = some .second ∧ pass.Visits uid ∧ (pass.goals uid).appDirect2Size ≤ pass.share

instance (pass : ShrinkPass) (uid : Uid) : Decidable (pass.Visits uid) :=
  inferInstanceAs (Decidable (_ ∈ _))

instance (pass : ShrinkPass) (uid : Uid) : Decidable (pass.StrandsSecond uid) :=
  inferInstanceAs (Decidable (_ ∧ _ ∧ _ ∧ _))

instance (pass : ShrinkPass) (uid : Uid) : Decidable (pass.EmptiesSecond uid) :=
  inferInstanceAs (Decidable (_ ∧ _ ∧ _))

end ShrinkPass

/-- A pass empties the first extent of a DIMM and leaves a second one behind that no later pass
empties. -/
def Stranded (uid : Uid) : List ShrinkPass → Prop
  | [] => False
  | pass :: passes =>
    (pass.StrandsSecond uid ∧ ∀ later ∈ passes, ¬ later.EmptiesSecond uid) ∨ Stranded uid passes

instance decidableStranded (uid : Uid) : (passes : List ShrinkPass) → Decidable (Stranded uid passes)
  | [] => inferInstanceAs (Decidable False)
  | _ :: passes =>
    haveI := decidableStranded uid passes
    inferInstanceAs (Decidable (_ ∨ _))

/-- The number of sets of a goal: it covers the extents, or the first extent is gone and it counts
only one set for the second. -/
structure SetCount (stranded : Prop) (goal : ConfigGoal) : Prop where
  /-- There are at most two sets. -/
  le_two : goal.appDirectCount.toNat ≤ 2
  /-- The number covers the extents. -/
  covers : ¬ stranded → goal.CountCovers
  /-- The number is that of a second extent without its first. -/
  stranded : stranded →
    goal.appDirectCount.toNat = 1 ∧ goal.appDirect1Size = 0 ∧ goal.appDirect2Size ≠ 0

/-- The extents are counted exactly when no second extent is stranded. -/
theorem SetCount.countCovers_iff {stranded : Prop} {goal : ConfigGoal}
    (h : SetCount stranded goal) : goal.CountCovers ↔ ¬ stranded := by
  refine ⟨fun hcovers hstranded => ?_, h.covers⟩
  obtain ⟨hone, -, hne⟩ := h.stranded hstranded
  have htwo := UInt16.le_iff_toNat_le.mp (hcovers.second hne)
  change 2 ≤ _ at htwo
  omega

/-- The same number of sets under an equivalent description. -/
theorem SetCount.congr {p q : Prop} (hpq : p ↔ q) {goal : ConfigGoal}
    (h : SetCount p goal) : SetCount q goal :=
  ⟨h.le_two, fun hq => h.covers fun hp => hq (hpq.mp hp), fun hq => h.stranded (hpq.mpr hq)⟩

/-- The extents are covered, with the number of sets as a natural number. -/
private theorem countCovers_iff_toNat (goal : ConfigGoal) :
    goal.CountCovers ↔ (goal.appDirect1Size ≠ 0 → 1 ≤ goal.appDirectCount.toNat) ∧
      (goal.appDirect2Size ≠ 0 → 2 ≤ goal.appDirectCount.toNat) := by
  constructor
  · exact fun h => ⟨fun hne => UInt16.le_iff_toNat_le.mp (h.first hne),
      fun hne => UInt16.le_iff_toNat_le.mp (h.second hne)⟩
  · exact fun h => ⟨fun hne => UInt16.le_iff_toNat_le.mpr (h.1 hne),
      fun hne => UInt16.le_iff_toNat_le.mpr (h.2 hne)⟩

/-- Taking one off a number of sets that is not zero. -/
theorem toNat_count_sub_one {count : UInt16} (h : 1 ≤ count.toNat) :
    (count - 1).toNat = count.toNat - 1 := by
  have hle : (1 : UInt16) ≤ count := UInt16.le_iff_toNat_le.mpr h
  rw [UInt16.toNat_sub_of_le _ _ hle]
  rfl

/-- A share empties a size exactly when it is at least as large. -/
private theorem takeShare_eq_zero_iff {size share : UInt64} :
    takeShare size share = 0 ↔ size ≤ share := by
  rw [← toNat_eq_zero_iff, toNat_takeShare, UInt64.le_iff_toNat_le]
  omega

/-- A visit to a first extent. -/
private theorem SetCount.reduceFirst {stranded : Prop} {goal : ConfigGoal} {share : UInt64}
    (h : SetCount stranded goal) (hne : goal.appDirect1Size ≠ 0) :
    SetCount (goal.appDirect1Size ≤ share ∧ goal.appDirect2Size ≠ 0)
      (reduceGoal .appDirect1 share goal) := by
  have hcovers := h.covers fun hstranded => hne (h.stranded hstranded).2.1
  obtain ⟨hone, htwo⟩ := (countCovers_iff_toNat goal).mp hcovers
  have hle := h.le_two
  have hcount := appDirectCount_reduceGoal (by simp : CapacityType.appDirect1 ≠ .twoLM) share goal
  have hfirst : (reduceGoal .appDirect1 share goal).appDirect1Size =
      takeShare goal.appDirect1Size share := by
    simp [reduceGoal, CapacityType.setSize, CapacityType.size]
  have hsecond : (reduceGoal .appDirect1 share goal).appDirect2Size = goal.appDirect2Size := by
    simp [reduceGoal, CapacityType.setSize]
  change _ = if takeShare goal.appDirect1Size share = 0 then _ else _ at hcount
  by_cases hempty : takeShare goal.appDirect1Size share = 0
  · rw [if_pos hempty] at hcount
    have hcount' := toNat_count_sub_one (hone hne)
    have hshare := takeShare_eq_zero_iff.mp hempty
    refine ⟨?_, fun hno => ?_, fun hstrands => ⟨?_, ?_, ?_⟩⟩
    · rw [hcount]
      omega
    · -- there is no second extent, so nothing is left to count
      have hnone : goal.appDirect2Size = 0 := by
        by_contra hne₂
        exact hno ⟨hshare, hne₂⟩
      rw [countCovers_iff_toNat, hfirst, hsecond]
      exact ⟨fun hne₁ => absurd hempty hne₁, fun hne₂ => absurd hnone hne₂⟩
    · rw [hcount, hcount']
      have := htwo hstrands.2
      omega
    · rw [hfirst]
      exact hempty
    · rw [hsecond]
      exact hstrands.2
  · rw [if_neg hempty] at hcount
    refine ⟨by rw [hcount]; exact hle, fun _ => ?_, fun hstrands => ?_⟩
    · rw [countCovers_iff_toNat, hsecond, hcount]
      exact ⟨fun _ => hone hne, htwo⟩
    · exact absurd (takeShare_eq_zero_iff.mpr hstrands.1) hempty

/-- A visit to a second extent. -/
private theorem SetCount.reduceSecond {stranded : Prop} {goal : ConfigGoal} {share : UInt64}
    (h : SetCount stranded goal) (hne : goal.appDirect2Size ≠ 0) :
    SetCount (stranded ∧ ¬ goal.appDirect2Size ≤ share) (reduceGoal .appDirect2 share goal) := by
  have hle := h.le_two
  have hcount := appDirectCount_reduceGoal (by simp : CapacityType.appDirect2 ≠ .twoLM) share goal
  have hfirst : (reduceGoal .appDirect2 share goal).appDirect1Size = goal.appDirect1Size := by
    simp [reduceGoal, CapacityType.setSize]
  have hsecond : (reduceGoal .appDirect2 share goal).appDirect2Size =
      takeShare goal.appDirect2Size share := by
    simp [reduceGoal, CapacityType.setSize, CapacityType.size]
  change _ = if takeShare goal.appDirect2Size share = 0 then _ else _ at hcount
  have hcovered : ¬ stranded → 2 ≤ goal.appDirectCount.toNat := fun hno =>
    ((countCovers_iff_toNat goal).mp (h.covers hno)).2 hne
  have hpos : 1 ≤ goal.appDirectCount.toNat := by
    by_cases hs : stranded
    · have := (h.stranded hs).1
      omega
    · have := hcovered hs
      omega
  by_cases hempty : takeShare goal.appDirect2Size share = 0
  · rw [if_pos hempty] at hcount
    have hcount' := toNat_count_sub_one hpos
    have hshare := takeShare_eq_zero_iff.mp hempty
    refine ⟨by rw [hcount]; omega, fun _ => ?_, fun hs => absurd hshare hs.2⟩
    rw [countCovers_iff_toNat, hfirst, hsecond, hcount, hcount']
    refine ⟨fun hne₁ => ?_, fun hne₂ => absurd hempty hne₂⟩
    have := hcovered fun hs => hne₁ (h.stranded hs).2.1
    omega
  · rw [if_neg hempty] at hcount
    have hshare : ¬ goal.appDirect2Size ≤ share := fun hle => hempty (takeShare_eq_zero_iff.mpr hle)
    refine ⟨by rw [hcount]; exact hle, fun hno => ?_, fun hs => ⟨?_, ?_, ?_⟩⟩
    · have hcovers := (countCovers_iff_toNat goal).mp (h.covers fun hs => hno ⟨hs, hshare⟩)
      rw [countCovers_iff_toNat, hfirst, hcount]
      exact ⟨hcovers.1, fun _ => hcovers.2 hne⟩
    · rw [hcount]
      exact (h.stranded hs.1).1
    · rw [hfirst]
      exact (h.stranded hs.1).2.1
    · rw [hsecond]
      exact hempty

/-- The DIMMs visited are an initial part of the DIMMs to shrink. -/
private theorem visitedDimms_sublist (type : CapacityType) (reduceBy : UInt64)
    (acc : UInt64 × Goals) (dimms : List Dimm) :
    (visitedDimms type reduceBy acc dimms).Sublist dimms := by
  induction dimms generalizing acc with
  | nil => exact List.Sublist.refl _
  | cons d dimms ih =>
    unfold visitedDimms
    split_ifs
    · exact (ih _).cons_cons d
    · exact List.nil_sublist _

/-- A pass visits DIMMs that have the capacity to shrink. -/
private theorem shrinkVisits_sublist (type : CapacityType) (dimms : List Dimm) (shrinkBy : UInt64)
    (goals : Goals) :
    (shrinkVisits type dimms shrinkBy goals).Sublist (dimmsWithCapacity type dimms goals) := by
  unfold shrinkVisits
  dsimp only
  split_ifs
  · exact List.nil_sublist _
  · exact List.Sublist.refl _
  · exact visitedDimms_sublist _ _ _ _

/-- With distinct uids, the goal of a DIMM after a pass: visited once or not at all. -/
theorem after_cases (pass : ShrinkPass) (hnd : (pass.dimms.map Dimm.uid).Nodup) (uid : Uid) :
    (¬ pass.Visits uid ∧ pass.after uid = pass.goals uid) ∨
    (pass.Visits uid ∧ pass.type.size (pass.goals uid) ≠ 0 ∧
      pass.after uid = reduceGoal pass.type pass.share (pass.goals uid)) := by
  have hsub := shrinkVisits_sublist pass.type pass.dimms pass.shrinkBy pass.goals
  rw [ShrinkPass.after, shrinkCapacity_goals]
  by_cases huid : pass.Visits uid
  · right
    obtain ⟨d, hd, rfl⟩ := List.mem_map.mp huid
    have hndv := hnd.sublist ((hsub.trans List.filter_sublist).map Dimm.uid)
    refine ⟨huid, ?_, updateAll_apply_of_mem hndv hd _⟩
    have hpos := (List.mem_filter.mp (hsub.subset hd)).2
    rw [decide_eq_true_iff, gt_iff_lt, UInt64.lt_iff_toNat_lt, UInt64.toNat_zero] at hpos
    intro hzero
    rw [hzero] at hpos
    exact absurd hpos (by simp)
  · left
    exact ⟨huid, updateAll_apply_of_notMem huid _⟩

/-- What one pass does to the number of sets. -/
private theorem SetCount.after {stranded : Prop} (pass : ShrinkPass)
    (hnd : (pass.dimms.map Dimm.uid).Nodup) {uid : Uid} (h : SetCount stranded (pass.goals uid)) :
    SetCount (pass.StrandsSecond uid ∨ (stranded ∧ ¬ pass.EmptiesSecond uid)) (pass.after uid) := by
  rcases after_cases pass hnd uid with ⟨hno, hsame⟩ | ⟨hvisits, hsize, hafter⟩
  · rw [hsame]
    refine h.congr ⟨fun hs => Or.inr ⟨hs, fun hempties => hno hempties.2.1⟩, ?_⟩
    rintro (hstrands | ⟨hs, -⟩)
    · exact absurd hstrands.2.1 hno
    · exact hs
  · rw [hafter]
    unfold ShrinkPass.StrandsSecond ShrinkPass.EmptiesSecond
    cases htype : pass.type with
    | appDirect1 =>
      rw [htype] at hsize
      refine (h.reduceFirst hsize).congr ?_
      have hnot : stranded → False := fun hs => hsize (h.stranded hs).2.1
      simp only [CapacityType.slot, hvisits, true_and]
      tauto
    | reservedAppDirectByOne =>
      rw [htype] at hsize
      refine (h.reduceFirst hsize).congr ?_
      have hnot : stranded → False := fun hs => hsize (h.stranded hs).2.1
      simp only [CapacityType.slot, hvisits, true_and]
      tauto
    | appDirect2 =>
      rw [htype] at hsize
      refine (h.reduceSecond hsize).congr ?_
      simp [CapacityType.slot, hvisits]
    | twoLM =>
      have hsame : SetCount stranded (reduceGoal .twoLM pass.share (pass.goals uid)) :=
        ⟨h.le_two, fun hs => ⟨(h.covers hs).first, (h.covers hs).second⟩, h.stranded⟩
      refine hsame.congr ?_
      simp [CapacityType.slot]

/-! ### The number of sets along the passes -/

/-- A list of passes either leaves a second extent stranded or empties one that was. -/
theorem stranded_append (uid : Uid) (first rest : List ShrinkPass) (stranded : Prop) :
    ((((stranded ∧ ∀ pass ∈ first, ¬ pass.EmptiesSecond uid) ∨ Stranded uid first) ∧
        ∀ pass ∈ rest, ¬ pass.EmptiesSecond uid) ∨ Stranded uid rest) ↔
      (stranded ∧ ∀ pass ∈ first ++ rest, ¬ pass.EmptiesSecond uid) ∨
        Stranded uid (first ++ rest) := by
  induction first generalizing stranded with
  | nil => simp [Stranded]
  | cons pass first ih =>
    have h := ih (pass.StrandsSecond uid ∨ (stranded ∧ ¬ pass.EmptiesSecond uid))
    simp only [List.mem_cons, forall_eq_or_imp, List.cons_append, Stranded] at h ⊢
    grind

/-- The number of sets after the App Direct passes of a shrink. -/
theorem SetCount.shrinkPasses {stranded : Prop} {dimms : List Dimm}
    (hnd : (dimms.map Dimm.uid).Nodup) (shrinkBy : UInt64) {goals : Goals} {uid : Uid}
    (h : SetCount stranded (goals uid)) :
    SetCount ((stranded ∧ ∀ pass ∈ shrinkPasses dimms shrinkBy goals, ¬ pass.EmptiesSecond uid) ∨
        Stranded uid (shrinkPasses dimms shrinkBy goals))
      ((shrinkAD1 dimms (shrinkAD2 dimms shrinkBy goals).1
        (shrinkAD2 dimms shrinkBy goals).2).2 uid) := by
  have hAD2 := SetCount.after ⟨.appDirect2, dimms, shrinkBy, goals⟩ hnd h
  have hAD1 := SetCount.after ⟨.appDirect1, dimms, (shrinkAD2 dimms shrinkBy goals).1,
    (shrinkAD2 dimms shrinkBy goals).2⟩ hnd hAD2
  refine hAD1.congr ?_
  simp only [IxpDimm.shrinkPasses, List.mem_cons, List.not_mem_nil, or_false, forall_eq_or_imp,
    forall_eq, Stranded]
  tauto

/-- The number of sets after the mapped memory limit. -/
theorem SetCount.limitPasses {stranded : Prop} {exceeded : List (List Dimm × UInt64)}
    (hnd : ∀ socket ∈ exceeded, (socket.1.map Dimm.uid).Nodup) {goals : Goals} {uid : Uid}
    (h : SetCount stranded (goals uid)) :
    SetCount ((stranded ∧ ∀ pass ∈ limitPasses exceeded goals, ¬ pass.EmptiesSecond uid) ∨
        Stranded uid (limitPasses exceeded goals))
      (exceeded.foldl (fun goals socket =>
        LayoutStepLimitTotalMappedMemory.shrinkLayoutGoals socket.1 socket.2 goals) goals uid) := by
  induction exceeded generalizing goals stranded with
  | nil => exact h.congr (by simp [IxpDimm.limitPasses, Stranded])
  | cons socket exceeded ih =>
    obtain ⟨socketDimms, shrinkBy⟩ := socket
    have hsocket := hnd _ List.mem_cons_self
    have hpasses := SetCount.shrinkPasses hsocket shrinkBy h
    -- the pass over the memory does not concern the sets
    have hmemory := SetCount.after ⟨.twoLM, socketDimms, (shrinkAD1 socketDimms
      (shrinkAD2 socketDimms shrinkBy goals).1 (shrinkAD2 socketDimms shrinkBy goals).2).1,
      (shrinkAD1 socketDimms (shrinkAD2 socketDimms shrinkBy goals).1
        (shrinkAD2 socketDimms shrinkBy goals).2).2⟩ hsocket hpasses
    refine (ih (fun s hs => hnd s (List.mem_cons_of_mem _ hs)) hmemory).congr ?_
    rw [IxpDimm.limitPasses, ← stranded_append]
    simp only [ShrinkPass.StrandsSecond, ShrinkPass.EmptiesSecond, CapacityType.slot, reduceCtorEq,
      false_and, false_or, not_false_eq_true, and_true]
    rfl

end IxpDimm
