import Mathlib.Data.List.Dedup
import IxpDimm.MemoryAllocator.SetCount
import IxpDimm.MemoryAllocator.Termination

/-!
# The totals of a layout and its goals

The three totals of a layout are cached: the memory step, the App Direct step, the reserved step and
the mapped memory limit refresh them at different times, and a step may leave by an exception in
between.  For DIMMs with distinct uids at the positions of a socket, whose capacities fit in 64 bits
together, no step leaves between changing goals and refreshing its total.

The capacity left is computed with the number of sets of a goal, so it is that of the goals exactly
when no shrink pass leaves a second extent stranded.
-/

namespace IxpDimm

open Foundation

/-- An App Direct pass leaves the memory alone. -/
private theorem memorySize_after (pass : ShrinkPass) (htype : pass.type ≠ .twoLM) (uid : Uid) :
    (pass.after uid).memorySize = (pass.goals uid).memorySize := by
  rw [ShrinkPass.after, shrinkCapacity_goals]
  refine updateAll_forall (P := fun uid (goal : ConfigGoal) =>
    goal.memorySize = (pass.goals uid).memorySize) (fun d _ goal hgoal => ?_) (fun _ => rfl) uid
  rw [← hgoal, reduceGoal, killADIfSizeIsZero_memorySize]
  cases hpass : pass.type <;> first | rfl | exact absurd hpass htype

/-! ### The App Direct step refreshes its total -/

namespace LayoutBuilder

/-- The requested DIMMs fit in 64 bits together and sit at the positions of a socket. -/
structure Installable (dimms : List Dimm) : Prop where
  /-- The uids are distinct. -/
  nodup : (dimms.map Dimm.uid).Nodup
  /-- There are two memory controllers. -/
  memoryController : ∀ d ∈ dimms, d.memoryController < 2
  /-- There are six channels. -/
  channel : ∀ d ∈ dimms, d.channel < 6
  /-- The capacities add up without wrapping. -/
  capacity : (dimms.map fun d => d.capacityBytes.toNat).sum < 2 ^ 64

/-- Such a DIMM is at one of the six positions. -/
private theorem Installable.location_lt {dimms : List Dimm} (h : Installable dimms) {d : Dimm}
    (hd : d ∈ dimms) : InterleaveableDimmSetBuilder.dimmLocation d < 6 := by
  have hmc := UInt16.lt_iff_toNat_lt.mp (h.memoryController d hd)
  change _ < 2 at hmc
  unfold InterleaveableDimmSetBuilder.dimmLocation InterleaveableDimmSetBuilder.channelsPerImc
  omega

/-- The whole GiB of the DIMMs. -/
def totalGiB (dimms : List Dimm) : ℕ := (dimms.map fun d => wholeGiB d.capacityBytes).sum

/-- The whole GiB of DIMMs that fit in 64 bits together are fewer than `2 ^ 34`. -/
theorem totalGiB_lt {dimms : List Dimm}
    (h : (dimms.map fun d => d.capacityBytes.toNat).sum < 2 ^ 64) : totalGiB dimms < 2 ^ 34 := by
  have hle : (dimms.map fun d => 2 ^ 30 * wholeGiB d.capacityBytes).sum ≤
      (dimms.map fun d => d.capacityBytes.toNat).sum :=
    sum_map_le_sum_map_of_le fun d _ => by
      unfold wholeGiB
      omega
  rw [List.sum_map_mul_left] at hle
  unfold totalGiB
  omega

/-- The whole GiB of installable DIMMs are fewer than `2 ^ 34`. -/
theorem Installable.totalGiB_lt {dimms : List Dimm} (h : Installable dimms) :
    totalGiB dimms < 2 ^ 34 := LayoutBuilder.totalGiB_lt h.capacity

/-- The interleaved sets of such DIMMs raise no bad request size: a set is found while there are
DIMMs to cover, and its members have capacity left. -/
private theorem endsBuild_layoutInterleavedExtent {lib : NvmLibrary} {dimms : List Dimm}
    (hinst : Installable dimms) {state state' : LayoutStepAppDirect.AppDirectState}
    (hgoals : ∀ uid ∈ dimms.map Dimm.uid, LayoutStepAppDirect.GoalAt 0 dimms uid (state.goals uid))
    {e : LayoutException}
    (h : LayoutStepAppDirect.layoutInterleavedExtentOnRequestedDimms lib dimms state =
      .error e state') : e.endsBuild = true := by
  have hperm := LayoutStepAppDirect.perm_flatMap_socket dimms
  have hndf := hperm.nodup_iff.mpr hinst.nodup
  refine forM_footprint_error LayoutStepAppDirect.AppDirectState.goals
    (fun socket => socket.2.map Dimm.uid) (P := LayoutStepAppDirect.GoalAt 0 dimms)
    (E := fun e => e.endsBuild = true) hndf
    (fun socket _ => LayoutStepAppDirect.layoutInterleavedExtentOnSocket_touches) ?_ state
    (fun uid huid => hgoals uid (hperm.mem_iff.mp huid)) e state' h
  intro socket hsocket s hs e s' herr
  have hsub : socket.2 ⊆ dimms := fun d hd => mem_of_mem_groupByKey hsocket hd
  obtain ⟨remaining, last, hinv, hlast⟩ := LayoutStepAppDirect.layoutInterleavedExtentOnSocket_inv
    lib hinst.nodup ((List.nodup_flatMap.mp hndf).1 socket hsocket) hsub hs
  rw [herr] at hlast
  rcases LayoutStepAppDirect.layoutSocketPass_inr hlast with
    ⟨-, hr⟩ | ⟨e', hr, hends⟩ | ⟨hne, -, set, hset, hnone⟩
  · cases hr
  · obtain ⟨rfl, -⟩ := EStateM.Result.error.inj hr
    exact hends
  · exfalso
    obtain ⟨d, hd⟩ := List.exists_mem_of_ne_nil _ hne
    have hsetne := InterleaveableDimmSetBuilder.getLargestSetOfInterleavableDimms_ne_nil hd
      (hinst.location_lt (hsub (hinv.sublist.subset hd))) hset
    have hsetsub := InterleaveableDimmSetBuilder.getLargestSetOfInterleavableDimms_sublist hset
    obtain ⟨c, hc⟩ := List.exists_mem_of_ne_nil _ hsetne
    have hcr := hsetsub.subset hc
    rcases hnone with hzero | hempty
    · -- the bytes left on the members add up without wrapping, and each has some
      have hndset : (set.map Dimm.uid).Nodup := ((List.nodup_flatMap.mp hndf).1 socket
        hsocket).sublist ((hsetsub.trans hinv.sublist).map _)
      have hsetdimms : set ⊆ dimms := fun c hc => hsub (hinv.sublist.subset (hsetsub.subset hc))
      have hgoal : ∀ c ∈ set, LayoutStepAppDirect.AppDirectGoal 0 c.capacityBytes
          (last.goals c.uid) := by
        intro c hc
        rw [hinv.pending c (hsetsub.subset hc)]
        exact hs c.uid (List.mem_map_of_mem (hinv.sublist.subset (hsetsub.subset hc))) c
          (hsetdimms hc) rfl
      have hbytes : ∀ c ∈ set, (getDimmUnallocatedGiBAlignedBytes c.capacityBytes
          (last.goals c.uid)).toNat ≤ c.capacityBytes.toNat := by
        intro c hc
        have hcounted := (hgoal c hc).countedGiB ▸ (hgoal c hc).fits
        rw [toNat_getDimmUnallocatedGiBAlignedBytes hcounted, wholeGiB]
        omega
      have hsum := (sum_map_le_sum_map_of_le hbytes).trans
        (sum_map_le_sum_map_of_subset hndset.of_map hsetdimms fun d => d.capacityBytes.toNat)
      rw [← toNat_eq_zero_iff, getRemainingBytesFromDimms, toNat_foldl_add_of_lt _ _
        (lt_of_le_of_lt hsum hinst.capacity)] at hzero
      have hle := le_sum_map_of_mem (f := fun c => (getDimmUnallocatedGiBAlignedBytes
        c.capacityBytes (last.goals c.uid)).toNat) hc
      have hpos := hinv.available c hcr
      rw [hasUnallocatedCapacity, decide_eq_true_iff, gt_iff_lt, UInt64.lt_iff_toNat_lt,
        UInt64.toNat_zero] at hpos
      omega
    · have hmem : c ∈ set.filter (hasUnallocatedCapacity last.goals) :=
        List.mem_filter.mpr ⟨hc, hinv.available c hcr⟩
      rw [hempty] at hmem
      cases hmem

/-- Laying out the extent on such DIMMs raises no bad request size. -/
private theorem endsBuild_layoutExtent {lib : NvmLibrary} {request : MemoryAllocationRequest}
    (hinst : Installable request.dimms) {state state' : LayoutStepAppDirect.AppDirectState}
    (hgoals : ∀ uid ∈ request.dimms.map Dimm.uid,
      LayoutStepAppDirect.GoalAt 0 request.dimms uid (state.goals uid)) {e : LayoutException}
    (h : LayoutStepAppDirect.layoutExtent lib request state = .error e state') :
    e.endsBuild = true := by
  unfold LayoutStepAppDirect.layoutExtent at h
  rw [bind_apply] at h
  by_cases hinter : LayoutStepAppDirect.requestExtentIsInterleaved request = true
  · rw [if_pos hinter] at h
    cases hrun : LayoutStepAppDirect.layoutInterleavedExtentOnRequestedDimms lib
        request.nonReservedDimms state with
    | ok u s =>
      rw [hrun] at h
      exact endsBuild_layoutUnallocatedCapacity h
    | error e' s =>
      rw [hrun] at h
      obtain ⟨rfl, rfl⟩ := EStateM.Result.error.inj h
      exact endsBuild_layoutInterleavedExtent hinst hgoals hrun
  · rw [if_neg hinter] at h
    exact endsBuild_layoutUnallocatedCapacity h

/-! ### The sums over the goals -/

/-- The GiB of memory of the goals. -/
abbrev memoryGiB (dimms : List Dimm) (goals : Goals) : ℕ :=
  LayoutStepMemory.memoryGiB dimms goals

/-- The GiB of App Direct capacity of the goals. -/
def appDirectGiB (dimms : List Dimm) (goals : Goals) : ℕ :=
  (dimms.map fun d => (goals d.uid).appDirect1Size.toNat + (goals d.uid).appDirect2Size.toNat).sum

section Sums

variable {dimms : List Dimm} {goals : Goals}

/-- The memory of goals that fit is within the whole GiB. -/
private theorem memoryGiB_le (hfit : ∀ d ∈ dimms, (goals d.uid).totalGiB ≤ wholeGiB d.capacityBytes) :
    memoryGiB dimms goals ≤ totalGiB dimms := by
  refine sum_map_le_sum_map_of_le fun d hd => ?_
  have := hfit d hd
  unfold ConfigGoal.totalGiB at this
  omega

/-- The App Direct capacity of goals that fit is within the whole GiB. -/
private theorem appDirectGiB_le
    (hfit : ∀ d ∈ dimms, (goals d.uid).totalGiB ≤ wholeGiB d.capacityBytes) :
    appDirectGiB dimms goals ≤ totalGiB dimms := by
  refine sum_map_le_sum_map_of_le fun d hd => ?_
  have := hfit d hd
  unfold ConfigGoal.totalGiB at this
  omega

/-- The loop over the DIMMs adds the memory sizes exactly. -/
private theorem toNat_foldl_memorySize (hinst : Installable dimms)
    (hfit : ∀ d ∈ dimms, (goals d.uid).totalGiB ≤ wholeGiB d.capacityBytes) :
    (dimms.foldl (fun total d => total + (goals d.uid).memorySize) 0).toNat =
      memoryGiB dimms goals := by
  have hle := memoryGiB_le hfit
  have hlt := hinst.totalGiB_lt
  exact toNat_foldl_add_of_lt (fun d : Dimm => (goals d.uid).memorySize) dimms
    (show memoryGiB dimms goals < 2 ^ 64 by omega)

/-- The two App Direct sizes of a goal that fits add up without wrapping. -/
private theorem toNat_appDirect_add {goal : ConfigGoal} {cap : UInt64}
    (hfit : goal.totalGiB ≤ wholeGiB cap) :
    (goal.appDirect1Size + goal.appDirect2Size).toNat =
      goal.appDirect1Size.toNat + goal.appDirect2Size.toNat := by
  have hlt := wholeGiB_lt cap
  unfold ConfigGoal.totalGiB at hfit
  exact toNat_add_of_lt (by omega)

/-- The loop over the DIMMs adds the App Direct sizes exactly. -/
private theorem toNat_foldl_appDirectSize (hinst : Installable dimms)
    (hfit : ∀ d ∈ dimms, (goals d.uid).totalGiB ≤ wholeGiB d.capacityBytes) :
    (dimms.foldl (fun total d =>
      total + ((goals d.uid).appDirect1Size + (goals d.uid).appDirect2Size)) 0).toNat =
      appDirectGiB dimms goals := by
  have hle := appDirectGiB_le hfit
  have hlt := hinst.totalGiB_lt
  have hmap : (dimms.map fun d =>
      ((goals d.uid).appDirect1Size + (goals d.uid).appDirect2Size).toNat).sum =
      appDirectGiB dimms goals :=
    congrArg List.sum (List.map_congr_left fun d hd => toNat_appDirect_add (hfit d hd))
  rw [toNat_foldl_add_of_lt (fun d : Dimm => (goals d.uid).appDirect1Size +
    (goals d.uid).appDirect2Size) dimms (by rw [hmap]; omega), hmap]

/-- The bytes of memory the memory step counts. -/
private theorem toNat_getBytesAllocatedFromLayout (hinst : Installable dimms)
    (hfit : ∀ d ∈ dimms, (goals d.uid).totalGiB ≤ wholeGiB d.capacityBytes) :
    (bToGiB (LayoutStepMemory.getBytesAllocatedFromLayout (dimms.map Dimm.uid) goals)).toNat =
      memoryGiB dimms goals := by
  have hle := memoryGiB_le hfit
  have hlt := hinst.totalGiB_lt
  have hmap : ((dimms.map Dimm.uid).map fun uid =>
      (configGoalSizeToBytes (goals uid).memorySize).toNat).sum =
      2 ^ 30 * memoryGiB dimms goals := by
    have hsize : ∀ d ∈ dimms, (configGoalSizeToBytes (goals d.uid).memorySize).toNat =
        2 ^ 30 * (goals d.uid).memorySize.toNat := by
      intro d hd
      have hd := hfit d hd
      have hwhole := wholeGiB_lt d.capacityBytes
      unfold ConfigGoal.totalGiB at hd
      exact toNat_configGoalSizeToBytes_of_lt (by omega)
    rw [List.map_map, Function.comp_def, List.map_congr_left hsize, List.sum_map_mul_left]
    rfl
  rw [toNat_bToGiB, LayoutStepMemory.getBytesAllocatedFromLayout,
    toNat_foldl_add_of_lt _ _ (by rw [hmap]; omega), hmap]
  omega

/-- The two loops that add up the App Direct sizes agree. -/
private theorem getExtentCapacityFromLayout_eq {layout : MemoryAllocationLayout}
    (huids : layout.goalUids = dimms.map Dimm.uid) :
    LayoutStepAppDirect.getExtentCapacityFromLayout layout = dimms.foldl (fun total d =>
      total + ((layout.goals d.uid).appDirect1Size + (layout.goals d.uid).appDirect2Size)) 0 := by
  rw [LayoutStepAppDirect.getExtentCapacityFromLayout, huids, List.foldl_map]
  simp only [configGoalSizeToGiB, UInt64.add_assoc]

/-- The capacity left, as the accounting sees it. -/
private theorem toNat_remaining (hinst : Installable dimms)
    (hfit : ∀ d ∈ dimms, (goals d.uid).totalGiB ≤ wholeGiB d.capacityBytes) :
    (bToGiB (getRemainingBytesFromDimms dimms goals)).toNat =
      (dimms.map fun d => wholeGiB d.capacityBytes - (goals d.uid).countedGiB).sum := by
  have hlt := hinst.totalGiB_lt
  have hle : (dimms.map fun d => wholeGiB d.capacityBytes - (goals d.uid).countedGiB).sum ≤
      totalGiB dimms := sum_map_le_sum_map_of_le fun d _ => Nat.sub_le _ _
  have hsize : ∀ d ∈ dimms, (getDimmUnallocatedGiBAlignedBytes d.capacityBytes
      (goals d.uid)).toNat = 2 ^ 30 * (wholeGiB d.capacityBytes - (goals d.uid).countedGiB) :=
    fun d hd => toNat_getDimmUnallocatedGiBAlignedBytes
      ((goals d.uid).countedGiB_le_totalGiB.trans (hfit d hd))
  have hmap : (dimms.map fun d => (getDimmUnallocatedGiBAlignedBytes d.capacityBytes
      (goals d.uid)).toNat).sum =
      2 ^ 30 * (dimms.map fun d => wholeGiB d.capacityBytes - (goals d.uid).countedGiB).sum := by
    rw [List.map_congr_left hsize, List.sum_map_mul_left]
  rw [toNat_bToGiB, getRemainingBytesFromDimms, toNat_foldl_add_of_lt _ _ (by rw [hmap]; omega),
    hmap]
  omega

/-- What the goals leave over the exact integers. -/
private theorem sum_leftGiB (hfit : ∀ d ∈ dimms, (goals d.uid).totalGiB ≤ wholeGiB d.capacityBytes) :
    (dimms.map fun d => (wholeGiB d.capacityBytes : ℤ) - (goals d.uid).memorySize.toNat -
      (goals d.uid).appDirect1Size.toNat - (goals d.uid).appDirect2Size.toNat).sum =
      ((dimms.map fun d => wholeGiB d.capacityBytes - (goals d.uid).totalGiB).sum : ℕ) := by
  induction dimms with
  | nil => rfl
  | cons d dimms ih =>
    have hd := hfit d List.mem_cons_self
    rw [List.map_cons, List.sum_cons, List.map_cons, List.sum_cons,
      ih fun d hd => hfit d (List.mem_cons_of_mem _ hd), Nat.cast_add, Nat.cast_sub hd]
    unfold ConfigGoal.totalGiB
    omega

/-- The accounting finds what the goals leave exactly when every number of sets covers its
extents. -/
private theorem toNat_remaining_eq_iff (hinst : Installable dimms)
    (hfit : ∀ d ∈ dimms, (goals d.uid).totalGiB ≤ wholeGiB d.capacityBytes) :
    ((bToGiB (getRemainingBytesFromDimms dimms goals)).toNat : ℤ) =
      (dimms.map fun d => (wholeGiB d.capacityBytes : ℤ) - (goals d.uid).memorySize.toNat -
        (goals d.uid).appDirect1Size.toNat - (goals d.uid).appDirect2Size.toNat).sum ↔
      ∀ d ∈ dimms, (goals d.uid).CountCovers := by
  rw [toNat_remaining hinst hfit, sum_leftGiB hfit, Nat.cast_inj]
  constructor
  · intro hsum d hd
    have heq := forall_eq_of_sum_map_eq (fun d _ => Nat.sub_le_sub_left
      (goals d.uid).countedGiB_le_totalGiB (wholeGiB d.capacityBytes)) hsum.symm d hd
    have hle := (goals d.uid).countedGiB_le_totalGiB
    have hd := hfit d hd
    exact (goals d.uid).countedGiB_eq_totalGiB_iff.mp (by omega)
  · intro hcovers
    refine congrArg List.sum (List.map_congr_left fun d hd => ?_)
    rw [(goals d.uid).countedGiB_eq_totalGiB_iff.mpr (hcovers d hd)]

end Sums

/-! ### The totals along a build -/

/-- The totals the memory and the App Direct step have set agree with the goals. -/
structure TotalsTrack (dimms : List Dimm) (layout : MemoryAllocationLayout) : Prop where
  /-- The keys of the goal map are the requested uids. -/
  goalUids : layout.goalUids = dimms.map Dimm.uid
  /-- The goals fit on their DIMMs. -/
  fits : GoalsFit dimms layout
  /-- The memory total. -/
  memory : layout.memoryCapacity.toNat = memoryGiB dimms layout.goals
  /-- The App Direct total. -/
  appDirect : layout.appDirectCapacity.toNat = appDirectGiB dimms layout.goals

section Run

variable {builder : LayoutBuilder} {request : MemoryAllocationRequest}

/-- The memory in total depends on the memory sizes only. -/
private theorem memoryGiB_congr {dimms : List Dimm} {goals goals' : Goals}
    (h : ∀ d ∈ dimms, (goals d.uid).memorySize = (goals' d.uid).memorySize) :
    memoryGiB dimms goals = memoryGiB dimms goals' :=
  congrArg List.sum (List.map_congr_left fun d hd => congrArg UInt64.toNat (h d hd))

/-- Goals without memory have none in total. -/
private theorem memoryGiB_eq_zero {dimms : List Dimm} {goals : Goals}
    (h : ∀ uid, (goals uid).memorySize = 0) : memoryGiB dimms goals = 0 := by
  unfold memoryGiB LayoutStepMemory.memoryGiB
  simp [h]

/-- Goals of the memory phase have no App Direct capacity in total. -/
private theorem MemoryPhase.appDirectGiB {dimms : List Dimm} {layout : MemoryAllocationLayout}
    (h : MemoryPhase dimms layout) : appDirectGiB dimms layout.goals = 0 := by
  have hzero : ∀ d ∈ dimms, (layout.goals d.uid).appDirect1Size.toNat +
      (layout.goals d.uid).appDirect2Size.toNat = 0 := fun d hd => by
    rw [(h d hd).first, (h d hd).second]
    rfl
  rw [LayoutBuilder.appDirectGiB, List.map_congr_left hzero]
  simp

/-- The memory step refreshes its total however it ends. -/
private theorem totalsTrack_beforeAppDirect (builder : LayoutBuilder)
    (hinst : Installable request.dimms) :
    TotalsTrack request.dimms (builder.layoutBeforeAppDirect request) ∧
      MemoryPhase request.dimms (builder.layoutBeforeAppDirect request) ∧
      (builder.layoutBeforeAppDirect request).appDirectCapacity = 0 := by
  have huntouched : Untouched builder request (afterSteps
      (builder.warningGeneratingLayoutSteps request) (builder.initLayoutGoals request)) :=
    afterSteps_keeps (untouched_warningGeneratingLayoutSteps builder request)
      (untouched_initLayoutGoals builder request)
  unfold layoutBeforeAppDirect
  generalize afterSteps (builder.warningGeneratingLayoutSteps request)
    (builder.initLayoutGoals request) = layout at huntouched
  have huids : layout.goalUids = request.dimms.map Dimm.uid :=
    huntouched.goalUids.trans hinst.nodup.dedup
  have hphase := LayoutStepMemory.execute_memoryGoals builder.nvmLib hinst.nodup layout
    huntouched.memoryPhase
  suffices hlayout :
      (finalState (LayoutStepMemory.execute builder.nvmLib request layout)).goalUids =
        layout.goalUids ∧
      (finalState (LayoutStepMemory.execute builder.nvmLib request layout)).appDirectCapacity =
        layout.appDirectCapacity ∧
      (finalState (LayoutStepMemory.execute builder.nvmLib request layout)).memoryCapacity.toNat =
        memoryGiB request.dimms
          (finalState (LayoutStepMemory.execute builder.nvmLib request layout)).goals by
    obtain ⟨h₁, h₂, h₃⟩ := hlayout
    have hzero := h₂.trans huntouched.appDirectCapacity
    refine ⟨⟨h₁.trans huids, MemoryPhase.goalsFit hphase, h₃, ?_⟩, hphase, hzero⟩
    rw [MemoryPhase.appDirectGiB hphase, hzero]
    rfl
  have hfit := MemoryPhase.goalsFit hphase
  unfold LayoutStepMemory.execute at hfit ⊢
  split_ifs at hfit ⊢
  · cases hrun : LayoutStepMemory.layoutMemoryModeCapacity request layout.goalUids
        layout.goals with
    | ok u goals =>
      rw [hrun] at hfit
      dsimp only [finalState_ok] at hfit ⊢
      refine ⟨rfl, rfl, ?_⟩
      rw [huids]
      exact toNat_getBytesAllocatedFromLayout hinst hfit
    | error e goals =>
      obtain rfl := layoutMemoryModeCapacity_error hinst.nodup huntouched hrun
      rw [hrun] at hfit
      refine ⟨rfl, rfl, ?_⟩
      show (bToGiB (LayoutStepMemory.getBytesAllocatedFromLayout layout.goalUids goals)).toNat = _
      rw [huids]
      exact toNat_getBytesAllocatedFromLayout hinst hfit
  · refine ⟨rfl, rfl, ?_⟩
    show layout.memoryCapacity.toNat = memoryGiB request.dimms layout.goals
    rw [huntouched.memoryCapacity, memoryGiB_eq_zero huntouched.memorySize]
    rfl

/-- Laying out the extent leaves the memory alone. -/
private theorem memorySize_layoutExtent (request : MemoryAllocationRequest) (lib : NvmLibrary)
    (state : LayoutStepAppDirect.AppDirectState) (uid : Uid) :
    ((finalState (LayoutStepAppDirect.layoutExtent lib request state)).goals uid).memorySize =
      (state.goals uid).memorySize := by
  refine LayoutStepAppDirect.keeps_layoutExtent lib request (I := fun s =>
    (s.goals uid).memorySize = (state.goals uid).memorySize) ?_ state rfl
  intro dimms bytes s s' hne hs hlaid
  obtain ⟨uids, format, rfl⟩ := LayoutStepAppDirect.layoutInterleaveSet_ok hne hlaid
  refine updateAll_forall (P := fun u (goal : ConfigGoal) => u = uid →
    goal.memorySize = (state.goals uid).memorySize) ?_ ?_ uid rfl
  · intro d _ goal hgoal hu
    rw [← hgoal hu]
    unfold LayoutStepAppDirect.updateGoalWithInterleaveSet
    split_ifs
    · rfl
    · rfl
  · rintro u rfl
    exact hs

/-- Adding what was laid out to a total of zero yields the App Direct capacity of the goals. -/
private theorem TotalsTrack.addExtentCapacity (hinst : Installable request.dimms)
    (layout : MemoryAllocationLayout) (huids : layout.goalUids = request.dimms.map Dimm.uid)
    (hfits : GoalsFit request.dimms layout)
    (hmemory : layout.memoryCapacity.toNat = memoryGiB request.dimms layout.goals)
    (hzero : layout.appDirectCapacity = 0) :
    TotalsTrack request.dimms (LayoutStepAppDirect.addExtentCapacityToLayout layout) := by
  have hsum := toNat_foldl_appDirectSize hinst hfits
  rw [← getExtentCapacityFromLayout_eq huids] at hsum
  unfold LayoutStepAppDirect.addExtentCapacityToLayout
  dsimp only
  split_ifs with hpos
  · refine ⟨huids, hfits, hmemory, ?_⟩
    show (layout.appDirectCapacity + _).toNat = _
    rw [hzero, UInt64.zero_add]
    exact hsum
  · refine ⟨huids, hfits, hmemory, ?_⟩
    have hnone : LayoutStepAppDirect.getExtentCapacityFromLayout layout = 0 := by
      by_contra hne
      exact hpos (UInt64.pos_iff_ne_zero.mpr hne)
    rw [hnone] at hsum
    rw [hzero]
    exact hsum

/-- An App Direct step that ends normally or with a bad request size has refreshed its total. -/
private theorem totalsTrack_beforeReserved (hinst : Installable request.dimms)
    (hbad : ∀ e s, LayoutStepAppDirect.execute builder.nvmLib request
      (builder.layoutBeforeAppDirect request) = .error e s → e.isBadRequestSize = true) :
    TotalsTrack request.dimms (builder.layoutBeforeReserved request) := by
  obtain ⟨htrack, hphase, hzero⟩ := totalsTrack_beforeAppDirect builder hinst
  have hends : ∀ e s, LayoutStepAppDirect.execute builder.nvmLib request
      (builder.layoutBeforeAppDirect request) = .error e s → e.endsBuild = true → False := by
    intro e s hrun hends
    have := hbad e s hrun
    cases e <;> simp [LayoutException.endsBuild, LayoutException.isBadRequestSize] at hends this
  have hgoalAt : GoalsFit request.dimms (builder.layoutBeforeReserved request) :=
    fun d hd => (appDirect_goalAt builder hinst.nodup hphase d hd).fits
  unfold layoutBeforeReserved at hgoalAt ⊢
  generalize builder.layoutBeforeAppDirect request = layout at htrack hphase hzero hends hgoalAt ⊢
  have hstart : ∀ uid ∈ request.dimms.map Dimm.uid,
      LayoutStepAppDirect.GoalAt 0 request.dimms uid (layout.goals uid) := by
    rintro uid - d hd rfl
    exact .of_memoryGoal (hphase d hd)
  unfold LayoutStepAppDirect.execute at hgoalAt hends ⊢
  split_ifs at hgoalAt hends ⊢
  · cases hnext : MemoryAllocationUtil.getNextAvailableInterleaveSetId builder.nvmLib layout with
    | error e =>
      exact (hends e layout (by rw [hnext])
        (endsBuild_getNextAvailableInterleaveSetId hnext)).elim
    | ok next =>
      cases hrun : LayoutStepAppDirect.layoutExtent builder.nvmLib request
          ⟨layout.goals, next⟩ with
      | error e state =>
        exact (hends e { layout with goals := state.goals } (by rw [hnext]; dsimp only; rw [hrun])
          (endsBuild_layoutExtent hinst hstart hrun)).elim
      | ok u state =>
        have hmemory := fun uid =>
          memorySize_layoutExtent request builder.nvmLib ⟨layout.goals, next⟩ uid
        rw [hrun] at hmemory
        have hfits : GoalsFit request.dimms { layout with goals := state.goals } := by
          rw [hnext] at hgoalAt
          dsimp only at hgoalAt
          rw [hrun] at hgoalAt
          dsimp only [LayoutStepAppDirect.addExtentCapacityToLayout] at hgoalAt
          split_ifs at hgoalAt <;> exact hgoalAt
        have hadded := TotalsTrack.addExtentCapacity hinst
          { layout with goals := state.goals } htrack.goalUids hfits
          (htrack.memory.trans (memoryGiB_congr fun d _ => (hmemory d.uid).symm))
          hzero
        dsimp only
        rw [hrun]
        dsimp only
        split_ifs
        · exact hadded
        · exact hadded
  · exact htrack

/-- Capacity taken back keeps the goals within their DIMMs. -/
private theorem fits_of_within {dimms : List Dimm} {goals goals' : Goals}
    (hfit : ∀ d ∈ dimms, (goals d.uid).totalGiB ≤ wholeGiB d.capacityBytes)
    (h : ∀ uid, (goals' uid).Within (goals uid)) :
    ∀ d ∈ dimms, (goals' d.uid).totalGiB ≤ wholeGiB d.capacityBytes :=
  fun d hd => (h d.uid).totalGiB_le.trans (hfit d hd)

/-- The reserved step keeps the totals. -/
private theorem TotalsTrack.reserve (hinst : Installable request.dimms)
    {layout : MemoryAllocationLayout} (h : TotalsTrack request.dimms layout) :
    TotalsTrack request.dimms (LayoutStepReserved.reserve request layout) := by
  have hfits := fits_of_within h.fits (LayoutStepReserved.reserve_within request layout)
  unfold LayoutStepReserved.reserve at hfits ⊢
  dsimp only at hfits ⊢
  split_ifs at hfits ⊢
  · refine ⟨h.goalUids, hfits, ?_, toNat_foldl_appDirectSize hinst hfits⟩
    refine h.memory.trans (memoryGiB_congr fun d _ => ?_)
    -- both passes shrink App Direct only
    have hAD2 := memorySize_after ⟨.appDirect2, request.nonReservedDimms,
      request.reservedCapacityGiB, layout.goals⟩ (by simp) d.uid
    have hAD1 := memorySize_after ⟨.appDirect1, request.nonReservedDimms,
      (shrinkAD2 request.nonReservedDimms request.reservedCapacityGiB layout.goals).1,
      (shrinkAD2 request.nonReservedDimms request.reservedCapacityGiB layout.goals).2⟩ (by simp)
      d.uid
    exact (hAD1.trans hAD2).symm
  · exact ⟨h.goalUids, h.fits, h.memory, h.appDirect⟩

/-- The mapped memory limit keeps the totals. -/
private theorem TotalsTrack.limit (hinst : Installable request.dimms)
    {layout : MemoryAllocationLayout} (h : TotalsTrack request.dimms layout)
    (exceeded : List (List Dimm × UInt64)) :
    TotalsTrack request.dimms
      (LayoutStepLimitTotalMappedMemory.limit request exceeded layout) := by
  have hfits := fits_of_within h.fits
    (LayoutStepLimitTotalMappedMemory.limit_within request exceeded layout)
  rw [LayoutStepLimitTotalMappedMemory.limit_goals] at hfits
  unfold LayoutStepLimitTotalMappedMemory.limit
  dsimp only
  split_ifs with hexceeded
  · exact ⟨h.goalUids, hfits, toNat_foldl_memorySize hinst hfits,
      toNat_foldl_appDirectSize hinst hfits⟩
  · rw [not_not] at hexceeded
    subst hexceeded
    exact ⟨h.goalUids, h.fits, h.memory, h.appDirect⟩

/-! ### The number of sets along a build -/

/-- The sockets that exceed their limit come with requested DIMMs. -/
theorem exceededSockets_sublist {layout : MemoryAllocationLayout}
    {exceeded : List (List Dimm × UInt64)}
    (h : LayoutStepLimitTotalMappedMemory.exceededSockets builder request layout = .ok exceeded)
    {socket : List Dimm × UInt64} (hsocket : socket ∈ exceeded) :
    socket.1.Sublist request.dimms := by
  unfold LayoutStepLimitTotalMappedMemory.exceededSockets at h
  obtain ⟨sockets, -, h⟩ := except_bind_ok h
  obtain ⟨totals, htotals, h⟩ := except_bind_ok h
  obtain rfl := Except.ok.inj h
  obtain ⟨⟨dimms, total, limit⟩, hmem, hsome⟩ := List.mem_filterMap.mp hsocket
  obtain ⟨info, -, hinfo⟩ := except_mapM_ok_mem htotals hmem
  obtain ⟨mapped, -, hpure⟩ := except_bind_ok hinfo
  obtain ⟨rfl, -⟩ := Prod.mk.inj (Except.ok.inj hpure)
  dsimp only at hsome
  split_ifs at hsome
  obtain rfl := Option.some.inj hsome
  exact List.filter_sublist

/-- The number of sets of a DIMM in a layout that is returned. -/
private theorem setCount_build (hinst : Installable request.dimms)
    {exceeded : List (List Dimm × UInt64)}
    (hexceeded : LayoutStepLimitTotalMappedMemory.exceededSockets builder request
      (builder.layoutBeforeLimit request) = .ok exceeded) {d : Dimm} (hd : d ∈ request.dimms) :
    SetCount (Stranded d.uid (builder.buildPasses request))
      ((LayoutStepLimitTotalMappedMemory.limit request exceeded
        (builder.layoutBeforeLimit request)).goals d.uid) := by
  have hphase := (totalsTrack_beforeAppDirect builder hinst).2.1
  have hgoal := appDirect_goalAt builder hinst.nodup hphase d hd
  have hstart : SetCount False ((builder.layoutBeforeReserved request).goals d.uid) :=
    ⟨hgoal.count_le, fun _ => hgoal.covers, False.elim⟩
  have hreserved : SetCount (Stranded d.uid (if request.reservedCapacityGiB > 0 then
      shrinkPasses request.nonReservedDimms request.reservedCapacityGiB
        (builder.layoutBeforeReserved request).goals else []))
      ((builder.layoutBeforeLimit request).goals d.uid) := by
    unfold layoutBeforeLimit LayoutStepReserved.reserve
    dsimp only
    split_ifs
    · exact (SetCount.shrinkPasses hinst.nodup _ hstart).congr (by rw [false_and, false_or]; rfl)
    · exact hstart
  rw [LayoutStepLimitTotalMappedMemory.limit_goals]
  refine (SetCount.limitPasses (fun socket hsocket => hinst.nodup.sublist
    ((exceededSockets_sublist hexceeded hsocket).map Dimm.uid)) hreserved).congr ?_
  rw [buildPasses, hexceeded]
  have happend := stranded_append d.uid (if request.reservedCapacityGiB > 0 then
      shrinkPasses request.nonReservedDimms request.reservedCapacityGiB
        (builder.layoutBeforeReserved request).goals else [])
    (limitPasses exceeded (builder.layoutBeforeLimit request).goals) False
  simpa only [false_and, false_or] using happend

end Run

/-- The totals of a layout are those of its goals, over the exact integers. -/
structure TotalsAgree (request : MemoryAllocationRequest) (layout : MemoryAllocationLayout) :
    Prop where
  /-- The memory of the goals. -/
  memory : layout.memoryCapacity.toNat =
    (layout.goalUids.map fun uid => (layout.goals uid).memorySize.toNat).sum
  /-- The App Direct capacity of the goals. -/
  appDirect : layout.appDirectCapacity.toNat =
    (layout.goalUids.map fun uid =>
      (layout.goals uid).appDirect1Size.toNat + (layout.goals uid).appDirect2Size.toNat).sum
  /-- What the goals leave of the whole GiB of the DIMMs. -/
  remaining : (layout.remainingCapacity.toNat : ℤ) =
    (request.nonReservedDimms.map fun d => ((d.capacityBytes.toNat / 2 ^ 30 : ℕ) : ℤ) -
      (layout.goals d.uid).memorySize.toNat - (layout.goals d.uid).appDirect1Size.toNat -
      (layout.goals d.uid).appDirect2Size.toNat).sum

/-- The pair of DIMMs with two GiB reserved is such a request. -/
private theorem installable_pairRequest : Installable (pairRequest 2).dimms :=
  ⟨by decide, by decide, by decide, by decide⟩

/-- Four DIMMs of unequal capacity that can be interleaved in one set, with seven GiB to reserve. -/
def unequalRequest : MemoryAllocationRequest where
  appDirectExtent := { capacityGiB := 10 }
  reservedCapacityGiB := 7
  dimms := [plainDimm ['a'] 5 0 0, plainDimm ['b'] 9 1 0, plainDimm ['c'] 9 1 1,
    plainDimm ['d'] 7 0 1]

end LayoutBuilder

end IxpDimm
