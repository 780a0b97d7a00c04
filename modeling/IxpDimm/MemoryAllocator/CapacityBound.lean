import IxpDimm.MemoryAllocator.AppDirectGoals
import IxpDimm.MemoryAllocator.LayoutBuilder

/-!
# No goal exceeds its DIMM

Along every build, after every initial part of the list of steps, what a goal hands out is within
the whole GiB of its DIMM, so the subtractions of the capacity accounting do not wrap.  The memory
step starts from zeroed goals and stays within the DIMM, the App Direct step lays out what is left,
and the steps after it only take capacity away.
-/

namespace IxpDimm

open Foundation

namespace LayoutBuilder

/-- Every goal is within the whole GiB of its DIMM. -/
def GoalsFit (dimms : List Dimm) (layout : MemoryAllocationLayout) : Prop :=
  ∀ d ∈ dimms, (layout.goals d.uid).totalGiB ≤ wholeGiB d.capacityBytes

/-- The goals of the layout are those of the memory phase. -/
def MemoryPhase (dimms : List Dimm) (layout : MemoryAllocationLayout) : Prop :=
  LayoutStepMemory.MemoryGoals dimms layout.goals

/-- The goals of the memory phase fit. -/
theorem MemoryPhase.goalsFit {dimms : List Dimm} {layout : MemoryAllocationLayout}
    (h : MemoryPhase dimms layout) : GoalsFit dimms layout := by
  intro d hd
  rw [(h d hd).totalGiB]
  exact (h d hd).fits

/-! ### One step -/

/-- What a step leaves behind is not changed by the handler of `build`. -/
theorem finalState_runStep (step : LayoutM Unit) (layout : MemoryAllocationLayout) :
    finalState (runStep step layout) = finalState (step layout) := by
  show finalState (EStateM.tryCatch step _ layout) = _
  unfold EStateM.tryCatch
  cases hrun : step layout with
  | ok u s => rfl
  | error e s =>
    dsimp only
    split_ifs
    · rfl
    · rfl

/-- A step keeps what it keeps without the handler. -/
theorem keeps_runStep {I : MemoryAllocationLayout → Prop} {step : LayoutM Unit}
    (h : Keeps I step) : Keeps I (runStep step) := by
  intro layout hI
  rw [finalState_runStep]
  exact h layout hI

/-- What is left of the exceptions of a step after the handler of `build`. -/
theorem runStep_error {step : LayoutM Unit} {layout layout' : MemoryAllocationLayout}
    {e : LayoutException} (h : runStep step layout = .error e layout') :
    step layout = .error e layout' := by
  change EStateM.tryCatch step _ layout = _ at h
  unfold EStateM.tryCatch at h
  cases hrun : step layout with
  | ok u s =>
    rw [hrun] at h
    simp at h
  | error e' s =>
    rw [hrun] at h
    dsimp only at h
    split_ifs at h
    · cases h
    · exact h

section Warnings

variable {I : MemoryAllocationLayout → Prop}

/-- What is said about a layout without its warnings. -/
def IgnoresWarnings (I : MemoryAllocationLayout → Prop) : Prop :=
  ∀ layout warnings, I layout → I { layout with warnings := warnings }

/-- Raising a warning keeps what is said about a layout without its warnings. -/
theorem keeps_warnIf (hI : IgnoresWarnings I) (condition : Bool) (warning : LayoutWarningCode) :
    Keeps I (warnIf condition warning) := by
  refine keeps_modify fun layout h => ?_
  split_ifs
  · exact hI layout _ h
  · exact h

/-- So does the check of the layout against the request. -/
theorem keeps_checkRequestLayoutDeviation (hI : IgnoresWarnings I)
    (request : MemoryAllocationRequest) :
    Keeps I (LayoutStepCheckRequestLayoutDeviation.execute request) :=
  keeps_get_bind fun layout h => keeps_warnIf hI _ _ layout h

/-- So do the steps at the head of the list. -/
theorem keeps_warningGeneratingLayoutSteps (hI : IgnoresWarnings I) (builder : LayoutBuilder)
    (request : MemoryAllocationRequest) :
    ∀ step ∈ builder.warningGeneratingLayoutSteps request, Keeps I step := by
  intro step hstep
  simp only [warningGeneratingLayoutSteps, List.mem_cons, List.not_mem_nil, or_false] at hstep
  rcases hstep with rfl | rfl | rfl | rfl
  · exact keeps_warnIf hI _ _
  · exact keeps_warnIf hI _ _
  · exact keeps_warnIf hI _ _
  · exact keeps_warnIf hI _ _

end Warnings

/-- The goals the App Direct step leaves, however it ends. -/
theorem appDirect_goalAt (builder : LayoutBuilder) {request : MemoryAllocationRequest}
    (hnd : (request.dimms.map Dimm.uid).Nodup) {layout : MemoryAllocationLayout}
    (h : MemoryPhase request.dimms layout) :
    ∀ d ∈ request.dimms, LayoutStepAppDirect.AppDirectGoal 2 d.capacityBytes
      ((finalState (LayoutStepAppDirect.execute builder.nvmLib request layout)).goals d.uid) := by
  have hzero : ∀ uid ∈ request.dimms.map Dimm.uid,
      LayoutStepAppDirect.GoalAt 0 request.dimms uid (layout.goals uid) := by
    rintro uid - d hd rfl
    exact .of_memoryGoal (h d hd)
  intro d hd
  have huid : d.uid ∈ request.dimms.map Dimm.uid := List.mem_map_of_mem hd
  rcases LayoutStepAppDirect.finalState_execute_goals builder.nvmLib request layout with
    hsame | ⟨nextInterleaveId, hlaid⟩
  · rw [hsame]
    exact (hzero d.uid huid d hd rfl).mono (Nat.zero_le 2)
  · rw [hlaid]
    exact LayoutStepAppDirect.layoutExtent_goals builder.nvmLib request hnd
      ⟨layout.goals, nextInterleaveId⟩ hzero d.uid huid d hd rfl

/-- A step that only takes capacity away keeps the goals within their DIMMs. -/
private theorem GoalsFit.of_within {dimms : List Dimm} {layout layout' : MemoryAllocationLayout}
    (h : GoalsFit dimms layout) (hwithin : ∀ uid, (layout'.goals uid).Within (layout.goals uid)) :
    GoalsFit dimms layout' :=
  fun d hd => (hwithin d.uid).totalGiB_le.trans (h d hd)

/-- The reserved step keeps the goals within their DIMMs. -/
theorem keeps_reserved (request : MemoryAllocationRequest) :
    Keeps (GoalsFit request.dimms) (LayoutStepReserved.execute request) := by
  intro layout h
  have hgoals := h.of_within (LayoutStepReserved.reserve_within request layout)
  unfold LayoutStepReserved.execute
  dsimp only
  split_ifs
  · exact hgoals
  · exact hgoals

/-- The mapped memory limit keeps the goals within their DIMMs. -/
theorem keeps_limitTotalMappedMemory (builder : LayoutBuilder) (request : MemoryAllocationRequest) :
    Keeps (GoalsFit request.dimms)
      (LayoutStepLimitTotalMappedMemory.execute builder request) := by
  intro layout h
  unfold LayoutStepLimitTotalMappedMemory.execute
  split
  · exact h
  · exact h.of_within (LayoutStepLimitTotalMappedMemory.limit_within request _ layout)

/-! ### Every run -/

/-- The goals a build starts from. -/
theorem memoryPhase_initLayoutGoals (builder : LayoutBuilder) (request : MemoryAllocationRequest) :
    MemoryPhase request.dimms (builder.initLayoutGoals request) := by
  intro d hd
  have huid : d.uid ∈ request.dimms.map Dimm.uid := List.mem_map_of_mem hd
  have hgoal : (builder.initLayoutGoals request).goals d.uid =
      { namespaceLabelMajor := builder.namespaceLabelMajor
        namespaceLabelMinor := builder.namespaceLabelMinor } := if_pos huid
  rw [hgoal]
  refine ⟨?_, rfl, rfl, rfl⟩
  rw [UInt64.toNat_zero]
  exact Nat.zero_le _

/-- The steps of a build: the warnings and the memory, the App Direct step, and those after it. -/
theorem layoutSteps_eq (builder : LayoutBuilder) (request : MemoryAllocationRequest) :
    builder.layoutSteps request =
      (builder.warningGeneratingLayoutSteps request ++
        [LayoutStepMemory.execute builder.nvmLib request]) ++
      LayoutStepAppDirect.execute builder.nvmLib request ::
        [LayoutStepReserved.execute request,
          LayoutStepLimitTotalMappedMemory.execute builder request,
          LayoutStepCheckRequestLayoutDeviation.execute request] := by
  simp only [layoutSteps, orderedLayoutStepsForRequest, List.append_assoc, List.cons_append,
    List.nil_append]

/-- The layout after the first `k` steps of a build, however they ended. -/
def layoutAfter (builder : LayoutBuilder) (request : MemoryAllocationRequest) (k : ℕ) :
    MemoryAllocationLayout :=
  finalState
    (runSteps ((builder.layoutSteps request).take k) (builder.initLayoutGoals request))

/-- After every initial part of the list of steps the goals are within their DIMMs. -/
theorem goalsFit_layoutAfter (builder : LayoutBuilder) {request : MemoryAllocationRequest}
    (hnd : (request.dimms.map Dimm.uid).Nodup) (k : ℕ) :
    GoalsFit request.dimms (builder.layoutAfter request k) := by
  rw [layoutAfter, layoutSteps_eq, runSteps]
  refine forM_take_phases (I := MemoryPhase request.dimms)
    (fun _ => MemoryPhase.goalsFit) ?_ ?_ ?_ k _ (memoryPhase_initLayoutGoals builder request)
  · intro step hstep
    refine keeps_runStep ?_
    rcases List.mem_append.mp hstep with hstep | hstep
    · exact keeps_warningGeneratingLayoutSteps (fun _ _ h => h) builder request step hstep
    · obtain rfl := List.mem_singleton.mp hstep
      exact LayoutStepMemory.execute_memoryGoals builder.nvmLib hnd
  · intro layout h d hd
    rw [finalState_runStep]
    exact (appDirect_goalAt builder hnd h d hd).fits
  · intro step hstep
    refine keeps_runStep ?_
    simp only [List.mem_cons, List.not_mem_nil, or_false] at hstep
    rcases hstep with rfl | rfl | rfl
    · exact keeps_reserved request
    · exact keeps_limitTotalMappedMemory builder request
    · exact keeps_checkRequestLayoutDeviation (fun _ _ h => h) request

/-- A request for memory on a pair of DIMMs, and for App Direct on what the memory leaves. -/
def mixedRequest : MemoryAllocationRequest :=
  { pairRequest 1 with memoryModeCapacityGiB := 4 }

end LayoutBuilder

end IxpDimm
