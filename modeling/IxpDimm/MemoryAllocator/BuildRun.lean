import IxpDimm.MemoryAllocator.CapacityBound

/-!
# A build that returns a layout

When a build returns, each of its steps ended normally or with a bad request size, so the layout is
what the steps leave behind one after the other.  `build_ok` takes a returned layout apart into the
layout the App Direct step leaves, the reserved step and the mapped memory limit, and `buildPasses`
lists the shrink passes on the way.
-/

namespace IxpDimm

open Foundation

namespace LayoutBuilder

/-- The layout that steps leave behind one after the other. -/
def afterSteps (steps : List (LayoutM Unit)) (layout : MemoryAllocationLayout) :
    MemoryAllocationLayout :=
  steps.foldl (fun layout step => finalState (step layout)) layout

/-- What the steps keep one after the other. -/
theorem afterSteps_keeps {I : MemoryAllocationLayout → Prop} {steps : List (LayoutM Unit)}
    (h : ∀ step ∈ steps, Keeps I step) {layout : MemoryAllocationLayout} (hI : I layout) :
    I (afterSteps steps layout) := by
  induction steps generalizing layout with
  | nil => exact hI
  | cons step steps ih =>
    exact ih (fun s hs => h s (List.mem_cons_of_mem step hs)) (h step List.mem_cons_self layout hI)

/-- A loop over two lists of steps that no exception ends goes through both. -/
private theorem runSteps_append_ok {steps steps' : List (LayoutM Unit)}
    {layout layout' : MemoryAllocationLayout} {u : Unit}
    (h : runSteps (steps ++ steps') layout = .ok u layout') :
    ∃ between, runSteps steps layout = .ok () between ∧ runSteps steps' between = .ok u layout' := by
  rw [runSteps, forM_append_apply, bind_apply] at h
  cases hrun : steps.forM runStep layout with
  | ok v between =>
    rw [hrun] at h
    exact ⟨between, hrun, h⟩
  | error e between =>
    rw [hrun] at h
    cases h

/-- When no exception ends the loop of `build`, its layout is what the steps leave behind. -/
theorem runSteps_ok {steps : List (LayoutM Unit)} {layout layout' : MemoryAllocationLayout}
    {u : Unit} (h : runSteps steps layout = .ok u layout') : layout' = afterSteps steps layout := by
  induction steps generalizing layout with
  | nil =>
    obtain ⟨-, rfl⟩ := EStateM.Result.ok.inj h
    rfl
  | cons step steps ih =>
    change (runStep step >>= fun _ => runSteps steps) layout = _ at h
    rw [bind_apply] at h
    have hfinal := finalState_runStep step layout
    cases hrun : runStep step layout with
    | ok u s =>
      rw [hrun] at h hfinal
      rw [ih h, afterSteps, afterSteps, List.foldl_cons, ← hfinal]
      rfl
    | error e s =>
      rw [hrun] at h
      cases h

/-- In a loop that no exception ends, a step that leaves by one leaves by a bad request size. -/
private theorem isBadRequestSize_of_runSteps_ok {steps steps' : List (LayoutM Unit)}
    {step : LayoutM Unit} {layout layout' s : MemoryAllocationLayout} {u : Unit}
    (h : runSteps (steps ++ step :: steps') layout = .ok u layout') {e : LayoutException}
    (hstep : step (afterSteps steps layout) = .error e s) : e.isBadRequestSize = true := by
  obtain ⟨between, hbetween, hrest⟩ := runSteps_append_ok h
  rw [← runSteps_ok hbetween] at hstep
  change (runStep step >>= fun _ => runSteps steps') between = _ at hrest
  rw [bind_apply] at hrest
  by_contra hbad
  have hfail : runStep step between = .error e s := by
    show EStateM.tryCatch step _ between = _
    unfold EStateM.tryCatch
    rw [hstep]
    dsimp only
    rw [if_neg hbad]
    rfl
  rw [hfail] at hrest
  cases hrest

/-- The layout before the App Direct step. -/
def layoutBeforeAppDirect (builder : LayoutBuilder) (request : MemoryAllocationRequest) :
    MemoryAllocationLayout :=
  finalState (LayoutStepMemory.execute builder.nvmLib request
    (afterSteps (builder.warningGeneratingLayoutSteps request)
      (builder.initLayoutGoals request)))

/-- The layout before the reserved step. -/
def layoutBeforeReserved (builder : LayoutBuilder) (request : MemoryAllocationRequest) :
    MemoryAllocationLayout :=
  finalState (LayoutStepAppDirect.execute builder.nvmLib request
    (builder.layoutBeforeAppDirect request))

/-- The layout before the mapped memory limit. -/
def layoutBeforeLimit (builder : LayoutBuilder) (request : MemoryAllocationRequest) :
    MemoryAllocationLayout :=
  LayoutStepReserved.reserve request (builder.layoutBeforeReserved request)

/-- The App Direct shrink passes of a build: those of the reserved step, when capacity is to be
reserved, and those of the mapped memory limit. -/
def buildPasses (builder : LayoutBuilder) (request : MemoryAllocationRequest) : List ShrinkPass :=
  (if request.reservedCapacityGiB > 0 then
    shrinkPasses request.nonReservedDimms request.reservedCapacityGiB
      (builder.layoutBeforeReserved request).goals
  else []) ++
  match LayoutStepLimitTotalMappedMemory.exceededSockets builder request
    (builder.layoutBeforeLimit request) with
  | .ok exceeded => limitPasses exceeded (builder.layoutBeforeLimit request).goals
  | .error _ => []

/-- The reserved step leaves its layout behind whether or not its check fails. -/
theorem finalState_reserved (request : MemoryAllocationRequest)
    (layout : MemoryAllocationLayout) :
    finalState (LayoutStepReserved.execute request layout) =
      LayoutStepReserved.reserve request layout := by
  unfold LayoutStepReserved.execute
  dsimp only
  split_ifs
  · rfl
  · rfl

/-- What the check of the layout leaves behind differs in the warnings only. -/
private theorem finalState_checkRequestLayoutDeviation (request : MemoryAllocationRequest)
    (layout : MemoryAllocationLayout) : ∃ warnings,
    finalState (LayoutStepCheckRequestLayoutDeviation.execute request layout) =
      { layout with warnings := warnings } := by
  refine keeps_checkRequestLayoutDeviation (I := fun l => ∃ warnings,
    l = { layout with warnings := warnings }) ?_ request layout ⟨layout.warnings, rfl⟩
  rintro _ warnings ⟨-, rfl⟩
  exact ⟨warnings, rfl⟩

/-- A returned layout is, up to its warnings, what the mapped memory limit makes of the layout
before it; and if the App Direct step left by an exception, it was a bad request size. -/
theorem build_ok {builder : LayoutBuilder} {request : MemoryAllocationRequest}
    {layout : MemoryAllocationLayout} (h : builder.build request = .ok layout) :
    (∀ e s, LayoutStepAppDirect.execute builder.nvmLib request
      (builder.layoutBeforeAppDirect request) = .error e s → e.isBadRequestSize = true) ∧
    ∃ exceeded warnings,
      LayoutStepLimitTotalMappedMemory.exceededSockets builder request
        (builder.layoutBeforeLimit request) = .ok exceeded ∧
      layout = { LayoutStepLimitTotalMappedMemory.limit request exceeded
        (builder.layoutBeforeLimit request) with warnings := warnings } := by
  unfold build at h
  split at h
  · rename_i u last hrun
    obtain rfl := Except.ok.inj h
    have hsplit : builder.layoutSteps request =
        (builder.warningGeneratingLayoutSteps request ++
          [LayoutStepMemory.execute builder.nvmLib request,
            LayoutStepAppDirect.execute builder.nvmLib request,
            LayoutStepReserved.execute request]) ++
        LayoutStepLimitTotalMappedMemory.execute builder request ::
          [LayoutStepCheckRequestLayoutDeviation.execute request] := by
      simp only [layoutSteps, orderedLayoutStepsForRequest, List.append_assoc, List.cons_append,
        List.nil_append]
    have hbefore : afterSteps (builder.warningGeneratingLayoutSteps request ++
        [LayoutStepMemory.execute builder.nvmLib request,
          LayoutStepAppDirect.execute builder.nvmLib request,
          LayoutStepReserved.execute request]) (builder.initLayoutGoals request) =
        builder.layoutBeforeLimit request := by
      rw [layoutBeforeLimit, layoutBeforeReserved, ← finalState_reserved, afterSteps,
        List.foldl_append]
      rfl
    have happDirect : afterSteps (builder.warningGeneratingLayoutSteps request ++
        [LayoutStepMemory.execute builder.nvmLib request]) (builder.initLayoutGoals request) =
        builder.layoutBeforeAppDirect request := by
      rw [layoutBeforeAppDirect, afterSteps, List.foldl_append]
      rfl
    refine ⟨fun e s hstep => ?_, ?_⟩
    · rw [layoutSteps_eq] at hrun
      rw [← happDirect] at hstep
      exact isBadRequestSize_of_runSteps_ok hrun hstep
    · rw [hsplit] at hrun
      have hlast := runSteps_ok hrun
      rw [afterSteps, List.foldl_append, List.foldl_cons, List.foldl_cons, List.foldl_nil] at hlast
      change last = finalState (LayoutStepCheckRequestLayoutDeviation.execute request (finalState
        (LayoutStepLimitTotalMappedMemory.execute builder request (afterSteps _ _)))) at hlast
      rw [hbefore] at hlast
      cases hexceeded : LayoutStepLimitTotalMappedMemory.exceededSockets builder request
          (builder.layoutBeforeLimit request) with
      | error e =>
        -- the exception is not a bad request size, so it would have ended the build
        exfalso
        have hstep : LayoutStepLimitTotalMappedMemory.execute builder request
            (builder.layoutBeforeLimit request) = .error e (builder.layoutBeforeLimit request) := by
          rw [LayoutStepLimitTotalMappedMemory.execute, hexceeded]
        rw [← hbefore] at hstep
        have hbad := isBadRequestSize_of_runSteps_ok hrun hstep
        have hends := LayoutStepLimitTotalMappedMemory.endsBuild_exceededSockets hexceeded
        cases e <;> simp [LayoutException.endsBuild, LayoutException.isBadRequestSize] at hends hbad
      | ok exceeded =>
        have hstep : LayoutStepLimitTotalMappedMemory.execute builder request
            (builder.layoutBeforeLimit request) = .ok () (LayoutStepLimitTotalMappedMemory.limit
              request exceeded (builder.layoutBeforeLimit request)) := by
          rw [LayoutStepLimitTotalMappedMemory.execute, hexceeded]
        rw [hstep, finalState_ok] at hlast
        obtain ⟨warnings, hwarnings⟩ := finalState_checkRequestLayoutDeviation request
          (LayoutStepLimitTotalMappedMemory.limit request exceeded
            (builder.layoutBeforeLimit request))
        exact ⟨exceeded, warnings, rfl, hlast.trans hwarnings⟩
  · cases h

end LayoutBuilder

end IxpDimm
