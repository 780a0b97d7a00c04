import IxpDimm.Foundation.Trace
import IxpDimm.MemoryAllocator.StepAppDirect

/-!
# The interleave sets that the App Direct step creates

The calls of `layoutInterleaveSet` in a run of the App Direct step, in their order: the id that is
handed out, the DIMMs, the bytes for each of them and the goals before the call.  They are read off
the run, pass by pass of the loop over a socket and DIMM by DIMM of the loop that lays out the rest.
-/

namespace IxpDimm.LayoutStepAppDirect

open Foundation

/-- A call of `layoutInterleaveSet`. -/
structure CreatedSet where
  /-- `m_nextInterleaveId`. -/
  setId : UInt16
  /-- `interleavedDimms`. -/
  dimms : List Dimm
  /-- `bytesPerDimm`. -/
  bytesPerDimm : UInt64
  /-- The goals before the call. -/
  before : Goals

/-- The set that a pass over a socket lays out from the DIMMs that remain. -/
def createdInPass (pass : List Dimm × AppDirectState) : List CreatedSet :=
  match InterleaveableDimmSetBuilder.getLargestSetOfInterleavableDimms pass.1 with
  | .error _ => []
  | .ok interleaveDimms =>
    match getLargestPerDimmSymmetricalBytes interleaveDimms pass.2.goals
        (getRemainingBytesFromDimms interleaveDimms pass.2.goals) with
    | .error _ => []
    | .ok (bytesPerDimm, _) =>
      [⟨pass.2.nextInterleaveId, interleaveDimms, bytesPerDimm, pass.2.goals⟩]

/-- The sets of a socket. -/
def createdOnSocket (lib : NvmLibrary) (socketDimms : List Dimm) (state : AppDirectState) :
    List CreatedSet :=
  let remainingDimms := removeUnavailableDimmsFromList state.goals socketDimms
  (loopTrace (layoutSocketPass lib) (remainingDimms.length + 1) (remainingDimms, state)).flatMap
    createdInPass

/-- The set of a DIMM with capacity left. -/
def createdOnDimm (lib : NvmLibrary) (dimm : Dimm) (state : AppDirectState) : List CreatedSet :=
  let remainingBytes :=
    getDimmUnallocatedBytes (usableCapacityBytes dimm.capacityBytes) (state.goals dimm.uid)
  if remainingBytes > 0 then
    match layoutInterleaveSet lib [dimm] remainingBytes state with
    | .error _ => []
    | .ok _ => [⟨state.nextInterleaveId, [dimm], remainingBytes, state.goals⟩]
  else []

/-- The sets of `layoutInterleavedExtentOnRequestedDimms`. -/
def createdInterleaved (lib : NvmLibrary) (dimms : List Dimm) (state : AppDirectState) :
    List CreatedSet :=
  (forMTrace (fun socket => layoutInterleavedExtentOnSocket lib socket.2)
    (groupByKey Dimm.socket dimms) state).flatMap fun run => createdOnSocket lib run.1.2 run.2

/-- The sets of `layoutUnallocatedCapacityWithNonInterleaved`. -/
def createdNonInterleaved (lib : NvmLibrary) (dimms : List Dimm) (state : AppDirectState) :
    List CreatedSet :=
  (forMTrace (layoutNonInterleavedDimm lib) dimms state).flatMap fun run =>
    createdOnDimm lib run.1 run.2

/-- The sets of `layoutExtent`. -/
def createdSets (lib : NvmLibrary) (request : MemoryAllocationRequest) (state : AppDirectState) :
    List CreatedSet :=
  if requestExtentIsInterleaved request then
    createdInterleaved lib request.nonReservedDimms state ++
      match layoutInterleavedExtentOnRequestedDimms lib request.nonReservedDimms state with
      | .ok _ state' => createdNonInterleaved lib request.nonReservedDimms state'
      | .error _ _ => []
  else createdNonInterleaved lib request.nonReservedDimms state

/-! ### What is recorded -/

/-- A pass that goes on lays out the set that is recorded of it. -/
theorem createdInPass_of_inl {lib : NvmLibrary} {remaining : List Dimm} {state : AppDirectState}
    {next : List Dimm × AppDirectState}
    (h : layoutSocketPass lib (remaining, state) = .inl next) :
    ∃ set bytes, SetPass lib remaining state set bytes next.2 ∧
      next.1 = removeDimmsFromList set remaining ∧
      createdInPass (remaining, state) =
        [⟨state.nextInterleaveId, set, bytes, state.goals⟩] ∧
      ∃ included, getLargestPerDimmSymmetricalBytes set state.goals
        (getRemainingBytesFromDimms set state.goals) = .ok (bytes, included) := by
  obtain ⟨set, bytes, included, hpass, hnext, hbytes⟩ := layoutSocketPass_share h
  refine ⟨set, bytes, hpass, hnext, ?_, included, hbytes⟩
  rw [createdInPass, hpass.found]
  dsimp only
  rw [hbytes]

/-- A pass that leaves the loop over a socket leaves the state. -/
theorem finalState_of_layoutSocketPass {lib : NvmLibrary} {pass : List Dimm × AppDirectState}
    {r : EStateM.Result LayoutException AppDirectState Unit}
    (h : layoutSocketPass lib pass = .inr r) : finalState r = pass.2 := by
  obtain ⟨remaining, state⟩ := pass
  rcases layoutSocketPass_inr h with ⟨-, rfl⟩ | ⟨e, rfl, -⟩ | ⟨-, rfl, -⟩
  · rfl
  · rfl
  · rfl

/-- The rule for a socket: what its passes record relates the state before to the state after. -/
theorem createdOnSocket_rule {lib : NvmLibrary}
    {R : AppDirectState → List CreatedSet → AppDirectState → Prop} (hR : Composes R)
    (hset : ∀ dimms bytes s s', dimms ≠ [] → layoutInterleaveSet lib dimms bytes s = .ok s' →
      R s [⟨s.nextInterleaveId, dimms, bytes, s.goals⟩] s')
    (socketDimms : List Dimm) (state : AppDirectState) :
    R state (createdOnSocket lib socketDimms state)
      (finalState (layoutInterleavedExtentOnSocket lib socketDimms state)) := by
  obtain ⟨r, hr⟩ := Option.isSome_iff_exists.mp (layoutSocketPass_terminates lib
    (removeUnavailableDimmsFromList state.goals socketDimms) state)
  have hsocket : layoutInterleavedExtentOnSocket lib socketDimms state = r := by
    unfold layoutInterleavedExtentOnSocket
    dsimp only
    rw [hr, Option.getD_some]
  rw [hsocket, createdOnSocket]
  refine loopTrace_rule hR Prod.snd finalState createdInPass ?_
    (fun _ _ hexit => finalState_of_layoutSocketPass hexit) hr
  rintro ⟨remaining, s⟩ next hstep
  obtain ⟨set, bytes, hpass, -, hcreated, -⟩ := createdInPass_of_inl hstep
  rw [hcreated]
  exact hset set bytes s next.2 hpass.set_ne hpass.laid

/-- The rule for what is left on a DIMM. -/
theorem createdOnDimm_rule {lib : NvmLibrary}
    {R : AppDirectState → List CreatedSet → AppDirectState → Prop} (hR : Composes R)
    (hset : ∀ dimms bytes s s', dimms ≠ [] → layoutInterleaveSet lib dimms bytes s = .ok s' →
      R s [⟨s.nextInterleaveId, dimms, bytes, s.goals⟩] s')
    (dimm : Dimm) (state : AppDirectState) :
    R state (createdOnDimm lib dimm state)
      (finalState (layoutNonInterleavedDimm lib dimm state)) := by
  unfold createdOnDimm layoutNonInterleavedDimm
  dsimp only
  split_ifs
  · cases hlaid : layoutInterleaveSet lib [dimm] (getDimmUnallocatedBytes
        (usableCapacityBytes dimm.capacityBytes) (state.goals dimm.uid)) state with
    | error e => exact hR.nil state
    | ok state' => exact hset _ _ _ _ (List.cons_ne_nil _ _) hlaid
  · exact hR.nil state

/-- The rule for the extent: what holds of the call for one set and composes holds of all of them. -/
theorem createdSets_rule {lib : NvmLibrary}
    {R : AppDirectState → List CreatedSet → AppDirectState → Prop} (hR : Composes R)
    (hset : ∀ dimms bytes s s', dimms ≠ [] → layoutInterleaveSet lib dimms bytes s = .ok s' →
      R s [⟨s.nextInterleaveId, dimms, bytes, s.goals⟩] s')
    (request : MemoryAllocationRequest) (state : AppDirectState) :
    R state (createdSets lib request state) (finalState (layoutExtent lib request state)) := by
  have hinterleaved := forMTrace_rule hR (fun socket s => createdOnSocket lib socket.2 s)
    (groupByKey Dimm.socket request.nonReservedDimms)
    (fun socket _ s => createdOnSocket_rule hR hset socket.2 s) state
  have hrest : ∀ s, R s (createdNonInterleaved lib request.nonReservedDimms s) (finalState
      (layoutUnallocatedCapacityWithNonInterleaved lib request.nonReservedDimms s)) := fun s =>
    forMTrace_rule hR (createdOnDimm lib) request.nonReservedDimms
      (fun dimm _ s => createdOnDimm_rule hR hset dimm s) s
  unfold createdSets layoutExtent
  split_ifs
  · rw [bind_apply]
    change R state (createdInterleaved lib request.nonReservedDimms state) (finalState
      (layoutInterleavedExtentOnRequestedDimms lib request.nonReservedDimms state)) at hinterleaved
    cases hrun : layoutInterleavedExtentOnRequestedDimms lib request.nonReservedDimms state with
    | ok _ s' =>
      rw [hrun] at hinterleaved
      exact hR.append hinterleaved (hrest s')
    | error e s' =>
      rw [hrun] at hinterleaved
      dsimp only
      rw [List.append_nil]
      exact hinterleaved
  · exact hrest state

end IxpDimm.LayoutStepAppDirect
