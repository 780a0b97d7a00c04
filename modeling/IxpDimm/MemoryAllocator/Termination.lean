import Mathlib.Data.List.Dedup
import IxpDimm.MemoryAllocator.CapacityBound

/-!
# Every build ends

The loops of the model carry a bound on their passes.  For distinct uids no build runs into one: a
round of the memory step that goes on has laid out more memory, and a pass over a socket removes the
DIMMs it covers.  So a build either returns a layout or ends with an exception of the source.
-/

namespace IxpDimm

open Foundation

namespace LayoutBuilder

/-- What the warning steps leave of the layout a build starts from. -/
structure Untouched (builder : LayoutBuilder) (request : MemoryAllocationRequest)
    (layout : MemoryAllocationLayout) : Prop where
  /-- The keys of the goal map. -/
  goalUids : layout.goalUids = (builder.initLayoutGoals request).goalUids
  /-- The zeroed goals. -/
  goals : layout.goals = (builder.initLayoutGoals request).goals
  /-- No memory has been laid out. -/
  memoryCapacity : layout.memoryCapacity = 0
  /-- No App Direct capacity has been laid out. -/
  appDirectCapacity : layout.appDirectCapacity = 0

/-- The memory step starts from an untouched layout. -/
theorem untouched_warningGeneratingLayoutSteps (builder : LayoutBuilder)
    (request : MemoryAllocationRequest) :
    ∀ step ∈ builder.warningGeneratingLayoutSteps request, Keeps (Untouched builder request) step :=
  keeps_warningGeneratingLayoutSteps (fun _ _ h => ⟨h.goalUids, h.goals, h.memoryCapacity,
    h.appDirectCapacity⟩) builder request

/-- The layout a build starts from is untouched. -/
theorem untouched_initLayoutGoals (builder : LayoutBuilder) (request : MemoryAllocationRequest) :
    Untouched builder request (builder.initLayoutGoals request) := ⟨rfl, rfl, rfl, rfl⟩

/-- The goals of an untouched layout have no memory. -/
theorem Untouched.memorySize {builder : LayoutBuilder} {request : MemoryAllocationRequest}
    {layout : MemoryAllocationLayout} (h : Untouched builder request layout) (uid : Uid) :
    (layout.goals uid).memorySize = 0 := by
  rw [h.goals, initLayoutGoals]
  dsimp only
  split_ifs
  · rfl
  · rfl

/-- The goals of an untouched layout are those of the memory phase. -/
theorem Untouched.memoryPhase {builder : LayoutBuilder} {request : MemoryAllocationRequest}
    {layout : MemoryAllocationLayout} (h : Untouched builder request layout) :
    MemoryPhase request.dimms layout := by
  unfold MemoryPhase
  rw [h.goals]
  exact memoryPhase_initLayoutGoals builder request

/-- From an untouched layout the rounds of the memory step end within their bound, so they fail only
because no DIMM has capacity left. -/
theorem layoutMemoryModeCapacity_error {builder : LayoutBuilder} {request : MemoryAllocationRequest}
    (hnd : (request.dimms.map Dimm.uid).Nodup) {layout : MemoryAllocationLayout}
    (huntouched : Untouched builder request layout) {e : LayoutException} {goals : Goals}
    (h : LayoutStepMemory.layoutMemoryModeCapacity request layout.goalUids layout.goals =
      .error e goals) : e = .badRequestSize := by
  have hkeys : ∀ uid ∈ layout.goalUids, uid ∈ request.dimms.map Dimm.uid := by
    intro uid huid
    rw [huntouched.goalUids] at huid
    exact List.mem_dedup.mp huid
  have hbytes : LayoutStepMemory.getBytesAllocatedFromLayout layout.goalUids layout.goals = 0 := by
    rw [← toNat_eq_zero_iff, LayoutStepMemory.getBytesAllocatedFromLayout, toNat_foldl_add]
    have hmap : (layout.goalUids.map fun uid =>
        (configGoalSizeToBytes (layout.goals uid).memorySize).toNat) =
        layout.goalUids.map fun _ => 0 :=
      List.map_congr_left fun uid _ => by rw [huntouched.memorySize uid]; rfl
    rw [hmap]
    simp
  obtain ⟨r, hr⟩ := Option.isSome_iff_exists.mp
    (LayoutStepMemory.layoutMemoryModeCapacity_terminates hnd hkeys huntouched.memoryPhase hbytes)
  rw [LayoutStepMemory.layoutMemoryModeCapacity, hr, Option.getD_some] at h
  subst h
  refine runLoop_rule (fun _ => True) (fun r => ∀ e goals, r = .error e goals →
    e = LayoutException.badRequestSize) (fun _ _ _ _ => trivial) ?_ trivial hr e goals rfl
  rintro ⟨goals, bytes⟩ r - hstep e goals' rfl
  simp only [LayoutStepMemory.layoutRound] at hstep
  split_ifs at hstep
  · split at hstep
    · rename_i e' hlay
      obtain ⟨rfl, rfl⟩ := EStateM.Result.error.inj (Sum.inr.inj hstep)
      unfold LayoutStepMemory.layoutMaximumSymmetricalBytesOnDimms at hlay
      rcases getLargestPerDimmSymmetricalBytes_spec request.nonReservedDimms goals
        (giBToB request.memoryModeCapacityGiB - bytes) with ⟨-, herr⟩ | ⟨_, _, hok, -⟩
      · rw [herr] at hlay
        exact (Except.error.inj hlay).symm
      · rw [hok] at hlay
        cases hlay
    · split_ifs at hstep
      exact absurd (Sum.inr.inj hstep) (by simp)
  · exact absurd (Sum.inr.inj hstep) (by simp)

/-- From an untouched layout the memory step does not run into its bound. -/
private theorem memory_ne_nonTermination {builder : LayoutBuilder}
    {request : MemoryAllocationRequest} (hnd : (request.dimms.map Dimm.uid).Nodup)
    {layout layout' : MemoryAllocationLayout} (huntouched : Untouched builder request layout)
    {e : LayoutException}
    (h : LayoutStepMemory.execute builder.nvmLib request layout = .error e layout') :
    e ≠ .nonTermination := by
  unfold LayoutStepMemory.execute at h
  split_ifs at h
  split at h
  · cases h
  · rename_i hloop
    obtain rfl := layoutMemoryModeCapacity_error hnd huntouched hloop
    obtain ⟨rfl, -⟩ := EStateM.Result.error.inj h
    simp

/-- What the next interleave set id raises ends the build. -/
theorem endsBuild_getNextAvailableInterleaveSetId {lib : NvmLibrary}
    {layout : MemoryAllocationLayout} {e : LayoutException}
    (h : MemoryAllocationUtil.getNextAvailableInterleaveSetId lib layout = .error e) :
    e.endsBuild = true := by
  have hgoal : ∀ uid e, MemoryAllocationUtil.getDimmInterleaveInfoMaxSetIndex lib uid = .error e →
      e.endsBuild = true := by
    intro uid e h
    unfold MemoryAllocationUtil.getDimmInterleaveInfoMaxSetIndex at h
    split at h
    · dsimp only at h
      split_ifs at h
    · split_ifs at h
      obtain rfl := Except.error.inj h
      rfl
  unfold MemoryAllocationUtil.getNextAvailableInterleaveSetId at h
  split at h
  · obtain rfl := Except.error.inj h
    rfl
  · rcases except_bind_error h with hids | ⟨id, -, hpure⟩
    · unfold MemoryAllocationUtil.getLastInterleaveSetIdFromConfigGoals at hids
      split at hids
      · obtain rfl := Except.error.inj hids
        rfl
      · obtain ⟨uid, -, maxId, hid⟩ := except_foldlM_error hids
        rcases except_bind_error hid with hid | ⟨id, -, hpure⟩
        · exact hgoal uid e hid
        · cases hpure
    · cases hpure

/-- What the sets of one DIMM raise ends the build. -/
theorem endsBuild_layoutUnallocatedCapacity {lib : NvmLibrary} {dimms : List Dimm}
    {state state' : LayoutStepAppDirect.AppDirectState} {e : LayoutException}
    (h : LayoutStepAppDirect.layoutUnallocatedCapacityWithNonInterleaved lib dimms state =
      .error e state') : e.endsBuild = true := by
  refine forM_error (I := fun _ => True) (E := fun e => e.endsBuild = true)
    (fun d _ _ _ => trivial) ?_ state trivial e state' h
  intro dimm _ s _ e s' h
  unfold LayoutStepAppDirect.layoutNonInterleavedDimm at h
  dsimp only at h
  split_ifs at h
  split at h
  · rename_i hlaid
    obtain ⟨rfl, -⟩ := EStateM.Result.error.inj h
    exact LayoutStepAppDirect.layoutInterleaveSet_error (by simp) hlaid
  · cases h

/-- What the layout of the extent raises ends the build or is a bad request size. -/
theorem layoutExtent_error {lib : NvmLibrary} {request : MemoryAllocationRequest}
    {state state' : LayoutStepAppDirect.AppDirectState} {e : LayoutException}
    (h : LayoutStepAppDirect.layoutExtent lib request state = .error e state') :
    e.endsBuild = true ∨ e = .badRequestSize := by
  have hsocket : ∀ socketDimms s e s',
      LayoutStepAppDirect.layoutInterleavedExtentOnSocket lib socketDimms s = .error e s' →
      e.endsBuild = true ∨ e = .badRequestSize := by
    intro socketDimms s e s' h
    obtain ⟨rem, last, -, hlast⟩ := LayoutStepAppDirect.layoutInterleavedExtentOnSocket_rule lib
      socketDimms s (fun _ _ => True) trivial fun _ _ _ _ _ _ _ => trivial
    rw [h] at hlast
    rcases LayoutStepAppDirect.layoutSocketPass_inr hlast with ⟨-, hr⟩ | ⟨e', hr, hends⟩ | ⟨-, hr, -⟩
    · simp at hr
    · obtain ⟨rfl, -⟩ := EStateM.Result.error.inj hr
      exact Or.inl hends
    · obtain ⟨rfl, -⟩ := EStateM.Result.error.inj hr
      exact Or.inr rfl
  have htrivial : ∀ x : LayoutStepAppDirect.AppDirectM Unit, Keeps (fun _ => True) x :=
    fun _ _ _ => trivial
  have hsingles : ∀ s e s', LayoutStepAppDirect.layoutUnallocatedCapacityWithNonInterleaved lib
      request.nonReservedDimms s = .error e s' → e.endsBuild = true ∨ e = .badRequestSize :=
    fun s e s' h => Or.inl (endsBuild_layoutUnallocatedCapacity h)
  unfold LayoutStepAppDirect.layoutExtent at h
  by_cases hinter : LayoutStepAppDirect.requestExtentIsInterleaved request = true
  · simp only [hinter, if_true] at h
    rw [bind_apply] at h
    cases hrun : LayoutStepAppDirect.layoutInterleavedExtentOnRequestedDimms lib
        request.nonReservedDimms state with
    | ok u s =>
      rw [hrun] at h
      exact hsingles s e state' h
    | error e' s =>
      rw [hrun] at h
      obtain ⟨rfl, rfl⟩ := EStateM.Result.error.inj h
      exact forM_error (fun socket _ => htrivial _) (fun socket _ s _ => hsocket socket.2 s)
        state trivial e' s hrun
  · simp only [hinter] at h
    exact hsingles state e state' h

/-- The App Direct step does not run into a bound. -/
private theorem appDirect_ne_nonTermination {lib : NvmLibrary} {request : MemoryAllocationRequest}
    {layout layout' : MemoryAllocationLayout} {e : LayoutException}
    (h : LayoutStepAppDirect.execute lib request layout = .error e layout') :
    e ≠ .nonTermination := by
  unfold LayoutStepAppDirect.execute at h
  split_ifs at h
  split at h
  · rename_i hnext
    obtain ⟨rfl, -⟩ := EStateM.Result.error.inj h
    have hends := endsBuild_getNextAvailableInterleaveSetId hnext
    rintro rfl
    simp [LayoutException.endsBuild] at hends
  · split at h
    · rename_i hextent
      obtain ⟨rfl, -⟩ := EStateM.Result.error.inj h
      rintro rfl
      rcases layoutExtent_error hextent with hends | hbad
      · simp [LayoutException.endsBuild] at hends
      · simp at hbad
    · dsimp only at h
      split_ifs at h
      obtain ⟨rfl, -⟩ := EStateM.Result.error.inj h
      simp

/-- The warning steps raise nothing. -/
private theorem warningGeneratingLayoutSteps_ok (builder : LayoutBuilder)
    (request : MemoryAllocationRequest) {step : LayoutM Unit}
    (hstep : step ∈ builder.warningGeneratingLayoutSteps request)
    (layout : MemoryAllocationLayout) : ∃ layout', step layout = .ok () layout' := by
  simp only [warningGeneratingLayoutSteps, List.mem_cons, List.not_mem_nil, or_false] at hstep
  rcases hstep with rfl | rfl | rfl | rfl
  · exact ⟨_, rfl⟩
  · exact ⟨_, rfl⟩
  · exact ⟨_, rfl⟩
  · exact ⟨_, rfl⟩

/-- The steps after the memory step do not run into a bound. -/
private theorem later_ne_nonTermination (builder : LayoutBuilder)
    (request : MemoryAllocationRequest) {step : LayoutM Unit}
    (hstep : step ∈ [LayoutStepAppDirect.execute builder.nvmLib request,
      LayoutStepReserved.execute request, LayoutStepLimitTotalMappedMemory.execute builder request,
      LayoutStepCheckRequestLayoutDeviation.execute request])
    {layout layout' : MemoryAllocationLayout} {e : LayoutException}
    (h : step layout = .error e layout') : e ≠ .nonTermination := by
  simp only [List.mem_cons, List.not_mem_nil, or_false] at hstep
  rcases hstep with rfl | rfl | rfl | rfl
  · exact appDirect_ne_nonTermination h
  · unfold LayoutStepReserved.execute at h
    dsimp only at h
    split_ifs at h
    obtain ⟨rfl, -⟩ := EStateM.Result.error.inj h
    simp
  · unfold LayoutStepLimitTotalMappedMemory.execute at h
    split at h
    · rename_i hexceeded
      obtain ⟨rfl, -⟩ := EStateM.Result.error.inj h
      have hends := LayoutStepLimitTotalMappedMemory.endsBuild_exceededSockets hexceeded
      rintro rfl
      simp [LayoutException.endsBuild] at hends
    · cases h
  · cases h

/-- A build of DIMMs with distinct uids returns a layout or ends with an exception of the source. -/
theorem build_ne_nonTermination (builder : LayoutBuilder) {request : MemoryAllocationRequest}
    (hnd : (request.dimms.map Dimm.uid).Nodup) :
    builder.build request ≠ .error .nonTermination := by
  have hrun : ∀ e layout', runSteps (builder.layoutSteps request)
      (builder.initLayoutGoals request) = .error e layout' → e ≠ .nonTermination := by
    intro e layout' h
    rw [layoutSteps, runSteps, forM_append_apply, bind_apply] at h
    -- the warning steps keep the goals as they are, so the memory step starts from zeroed ones
    have hzero := keeps_forM (fun step hstep => keeps_runStep
      (untouched_warningGeneratingLayoutSteps builder request step hstep))
      (builder.initLayoutGoals request) (untouched_initLayoutGoals builder request)
    cases hwarn : (builder.warningGeneratingLayoutSteps request).forM runStep
        (builder.initLayoutGoals request) with
    | error e' s =>
      exfalso
      refine forM_error (E := fun _ => False) (fun step _ => (fun _ _ => trivial :
        Keeps (fun _ => True) (runStep step))) ?_ _ trivial e' s hwarn
      intro step hstep layout _ e s herr
      obtain ⟨layout', hok⟩ := warningGeneratingLayoutSteps_ok builder request hstep layout
      rw [runStep_error herr] at hok
      cases hok
    | ok u s =>
      rw [hwarn] at h hzero
      dsimp only [finalState_ok] at h hzero
      rw [orderedLayoutStepsForRequest] at h
      change (runStep (LayoutStepMemory.execute builder.nvmLib request) >>= fun _ =>
        [LayoutStepAppDirect.execute builder.nvmLib request,
          LayoutStepReserved.execute request,
          LayoutStepLimitTotalMappedMemory.execute builder request,
          LayoutStepCheckRequestLayoutDeviation.execute request].forM runStep) s = _ at h
      rw [bind_apply] at h
      cases hmem : runStep (LayoutStepMemory.execute builder.nvmLib request) s with
      | error e' s' =>
        rw [hmem] at h
        obtain ⟨rfl, rfl⟩ := EStateM.Result.error.inj h
        exact memory_ne_nonTermination hnd hzero (runStep_error hmem)
      | ok u s' =>
        rw [hmem] at h
        exact forM_error (fun step _ => (fun _ _ => trivial :
          Keeps (fun _ => True) (runStep step))) (fun step hstep layout _ e s herr =>
            later_ne_nonTermination builder request hstep (runStep_error herr)) s' trivial e
          layout' h
  unfold build
  split
  · simp
  · rename_i e layout' herr
    intro heq
    exact hrun e layout' herr (Except.error.inj heq)

/-- A build of memory and App Direct capacity on two DIMMs. -/
theorem build_ne_nonTermination_mixed : plainBuilder.build mixedRequest ≠ .error .nonTermination :=
  build_ne_nonTermination plainBuilder (by decide)

end LayoutBuilder

end IxpDimm
