import IxpDimm.Foundation.WhileLoop
import IxpDimm.MemoryAllocator.InterleaveableDimmSet
import IxpDimm.MemoryAllocator.LayoutStep

/-!
# The App Direct step

`LayoutStepAppDirect.cpp` with the parts of `MemoryAllocationUtil.cpp` it uses.  When the request is
interleaved, every socket is covered with the largest interleave sets its DIMMs allow, each set
taking the same whole number of GiB from every member; what is left on a DIMM afterwards becomes a
set of its own.  Every set gets the next interleave set id, a 16-bit counter that starts above the
ids in use.

A DIMM takes part in at most one interleaved set and one set of its own, so its first extent comes
from the former and its second one, if there is a first, from the latter.
-/

namespace IxpDimm

open Foundation

/-! ### The utilities -/

namespace MemoryAllocationUtil

/-- One update of the running maximum; the 32-bit index is stored in 16 bits. -/
def raiseMaxId (maxId : UInt16) (id : UInt32) : UInt16 :=
  if id > maxId.toUInt32 then id.toUInt16 else maxId

/-- `getLastInterleaveSetIdFromCurrentConfig`. -/
def getLastInterleaveSetIdFromCurrentConfig (pools : List (List UInt32)) (maxId : UInt16) :
    UInt16 :=
  pools.foldl (fun maxId ilsets => ilsets.foldl raiseMaxId maxId) maxId

/-- `getDimmInterleaveInfoMaxSetIndex`: no goal and a corrupt PCD are fine, anything else is not. -/
def getDimmInterleaveInfoMaxSetIndex (lib : NvmLibrary) (dimmUid : Uid) :
    Except LayoutException UInt16 :=
  match lib.getConfigGoal dimmUid with
  | .ok goal =>
    let maxInterleaveIndex := if goal.appDirectCount > 0 then goal.appDirect1SetId else 0
    if goal.appDirectCount > 1 ∧ goal.appDirect2SetId > maxInterleaveIndex then
      .ok goal.appDirect2SetId
    else
      .ok maxInterleaveIndex
  | .error code =>
    if code ≠ .errNotFound ∧ code ≠ .errBadDeviceConfig then .error (.library code) else .ok 0

/-- `getLastInterleaveSetIdFromConfigGoals`. -/
def getLastInterleaveSetIdFromConfigGoals (lib : NvmLibrary) (maxId : UInt16) :
    Except LayoutException UInt16 :=
  match lib.getManageableUids with
  | .error code => .error (.library code)
  | .ok uids => uids.foldlM (fun maxId uid => do
      let maxDimmInterleaveIndex ← getDimmInterleaveInfoMaxSetIndex lib uid
      pure (raiseMaxId maxId maxDimmInterleaveIndex.toUInt32)) maxId

/-- `getLastInterleaveSetIdFromLayout`. -/
def getLastInterleaveSetIdFromLayout (layout : MemoryAllocationLayout) (maxId : UInt16) : UInt16 :=
  layout.goalUids.foldl (fun maxId uid =>
    let goal := layout.goals uid
    let maxId := if goal.appDirectCount > 1 ∧ goal.appDirect2SetId > maxId then
      goal.appDirect2SetId else maxId
    if goal.appDirectCount > 0 ∧ goal.appDirect1SetId > maxId then goal.appDirect1SetId
    else maxId) maxId

/-- `getNextAvailableInterleaveSetId`. -/
def getNextAvailableInterleaveSetId (lib : NvmLibrary) (layout : MemoryAllocationLayout) :
    Except LayoutException UInt16 :=
  match lib.getPools with
  | .error code => .error (.library code)
  | .ok pools => do
    let maxId ← getLastInterleaveSetIdFromConfigGoals lib
      (getLastInterleaveSetIdFromCurrentConfig pools 0)
    pure (getLastInterleaveSetIdFromLayout layout maxId + 1)

/-- `getRecommendedInterleaveFormatForWays`, the first recommended format with so many ways. -/
def getRecommendedInterleaveFormatForWays (lib : NvmLibrary) (ways : ℕ) :
    Except LayoutException InterleaveFormat :=
  match lib.getNvmCapabilities with
  | .error code => .error (.library code)
  | .ok capabilities =>
    .ok ((capabilities.interleaveFormats.find? fun format =>
      format.ways.count = ways ∧ format.recommended).getD {})

end MemoryAllocationUtil

/-- `Helper::stringToUid`. -/
def stringToUid (string : Uid) : Except LayoutException Uid :=
  if string.length > nvmMaxUidLen - 1 then .error .invalidArgument else .ok (cString string)

namespace LayoutStepAppDirect

/-- What the step works on: the goals and `m_nextInterleaveId`. -/
structure AppDirectState where
  /-- The goals under construction. -/
  goals : Goals
  /-- The id of the next interleave set. -/
  nextInterleaveId : UInt16

/-- A part of the step.  An exception that `build` swallows keeps what was laid out before it. -/
abbrev AppDirectM := EStateM LayoutException AppDirectState

/-- The settings part of `updateGoalParametersWithInterleaveSet`: the uids overwrite the first
entries of the array. -/
def updateSettings (uids : List Uid) (format : InterleaveFormat) (settings : AppDirectAttributes) :
    AppDirectAttributes :=
  { settings with dimms := uids ++ settings.dimms.drop uids.length, interleave := format }

/-- `updateGoalWithInterleaveSet` with `updateGoalParametersWithInterleaveSet`: the first set of a
goal goes to its first extent, a later one to its second. -/
def updateGoalWithInterleaveSet (setId : UInt16) (bytesPerDimm : UInt64) (uids : List Uid)
    (format : InterleaveFormat) (goal : ConfigGoal) : ConfigGoal :=
  if goal.appDirectCount + 1 = 1 then
    { goal with
      appDirectCount := goal.appDirectCount + 1
      appDirect1Size := bytesToConfigGoalSize bytesPerDimm
      appDirect1SetId := setId
      appDirect1Settings := updateSettings uids format goal.appDirect1Settings }
  else
    { goal with
      appDirectCount := goal.appDirectCount + 1
      appDirect2Size := bytesToConfigGoalSize bytesPerDimm
      appDirect2SetId := setId
      appDirect2Settings := updateSettings uids format goal.appDirect2Settings }

/-- `layoutInterleaveSet`.  The exceptions it can raise are not swallowed by `build`, so the goals
it had changed by then are not looked at again. -/
def layoutInterleaveSet (lib : NvmLibrary) (interleavedDimms : List Dimm) (bytesPerDimm : UInt64)
    (state : AppDirectState) : Except LayoutException AppDirectState := do
  let goals ← interleavedDimms.foldlM (fun goals dimm => do
    let uids ← interleavedDimms.mapM fun dimm => stringToUid dimm.uid
    let format ← MemoryAllocationUtil.getRecommendedInterleaveFormatForWays lib
      interleavedDimms.length
    pure (Function.update goals dimm.uid
      (updateGoalWithInterleaveSet state.nextInterleaveId bytesPerDimm uids format
        (goals dimm.uid)))) state.goals
  pure ⟨goals, state.nextInterleaveId + 1⟩

/-- `removeUnavailableDimmsFromList`. -/
def removeUnavailableDimmsFromList (goals : Goals) (dimmList : List Dimm) : List Dimm :=
  dimmList.filter (hasUnallocatedCapacity goals)

/-- `removeDimmsFromList`: for every DIMM to remove, the first one with its uid is erased. -/
def removeDimmsFromList (dimmsToRemove dimmList : List Dimm) : List Dimm :=
  dimmsToRemove.foldl (fun list dimmToRemove =>
    list.eraseP fun dimm => dimm.uid == dimmToRemove.uid) dimmList

/-- One pass of the loop in `layoutInterleavedExtentOnSocket`, on `remainingDimms` and the state. -/
def layoutSocketPass (lib : NvmLibrary) : List Dimm × AppDirectState →
    (List Dimm × AppDirectState) ⊕ EStateM.Result LayoutException AppDirectState Unit
  | (remainingDimms, state) =>
    if remainingDimms = [] then
      .inr (.ok () state)
    else
      match InterleaveableDimmSetBuilder.getLargestSetOfInterleavableDimms remainingDimms with
      | .error e => .inr (.error e state)
      | .ok interleaveDimms =>
        let remainingCapacity := getRemainingBytesFromDimms interleaveDimms state.goals
        if remainingCapacity = 0 then
          .inr (.error .badRequestSize state)
        else
          match getLargestPerDimmSymmetricalBytes interleaveDimms state.goals remainingCapacity with
          | .error e => .inr (.error e state)
          | .ok (bytesPerDimm, _) =>
            match layoutInterleaveSet lib interleaveDimms bytesPerDimm state with
            | .error e => .inr (.error e state)
            | .ok state' => .inl (removeDimmsFromList interleaveDimms remainingDimms, state')

/-- `layoutInterleavedExtentOnSocket`; every pass removes a DIMM, which bounds the loop. -/
def layoutInterleavedExtentOnSocket (lib : NvmLibrary) (socketDimms : List Dimm) :
    AppDirectM Unit := fun state =>
  let remainingDimms := removeUnavailableDimmsFromList state.goals socketDimms
  (runLoop (layoutSocketPass lib) (remainingDimms.length + 1) (remainingDimms, state)).getD
    (.error .nonTermination state)

/-- `layoutInterleavedExtentOnRequestedDimms`, with `getDimmsSortedBySocket`. -/
def layoutInterleavedExtentOnRequestedDimms (lib : NvmLibrary) (dimms : List Dimm) :
    AppDirectM Unit :=
  (groupByKey Dimm.socket dimms).forM fun socket => layoutInterleavedExtentOnSocket lib socket.2

/-- The body of the loop in `layoutUnallocatedCapacityWithNonInterleaved`. -/
def layoutNonInterleavedDimm (lib : NvmLibrary) (dimm : Dimm) : AppDirectM Unit := fun state =>
  let mappableDimmCapacity := usableCapacityBytes dimm.capacityBytes
  let remainingBytes := getDimmUnallocatedBytes mappableDimmCapacity (state.goals dimm.uid)
  if remainingBytes > 0 then
    match layoutInterleaveSet lib [dimm] remainingBytes state with
    | .error e => .error e state
    | .ok state' => .ok () state'
  else
    .ok () state

/-- `layoutUnallocatedCapacityWithNonInterleaved`. -/
def layoutUnallocatedCapacityWithNonInterleaved (lib : NvmLibrary) (dimms : List Dimm) :
    AppDirectM Unit :=
  dimms.forM (layoutNonInterleavedDimm lib)

/-- `requestExtentIsInterleaved`. -/
def requestExtentIsInterleaved (request : MemoryAllocationRequest) : Bool :=
  !request.appDirectExtent.byOne

/-- `layoutExtent`. -/
def layoutExtent (lib : NvmLibrary) (request : MemoryAllocationRequest) : AppDirectM Unit :=
  (if requestExtentIsInterleaved request then
    layoutInterleavedExtentOnRequestedDimms lib request.nonReservedDimms
  else pure ()) >>= fun _ =>
    layoutUnallocatedCapacityWithNonInterleaved lib request.nonReservedDimms

/-- `getExtentCapacityFromLayout`. -/
def getExtentCapacityFromLayout (layout : MemoryAllocationLayout) : UInt64 :=
  layout.goalUids.foldl (fun extentCapacityGiB uid =>
    extentCapacityGiB + configGoalSizeToGiB (layout.goals uid).appDirect1Size +
      configGoalSizeToGiB (layout.goals uid).appDirect2Size) 0

/-- `addExtentCapacityToLayout`. -/
def addExtentCapacityToLayout (layout : MemoryAllocationLayout) : MemoryAllocationLayout :=
  let capacityLaidOut := getExtentCapacityFromLayout layout
  if capacityLaidOut > 0 then
    { layout with appDirectCapacity := layout.appDirectCapacity + capacityLaidOut }
  else layout

/-- `allRequestedCapacityAllocated`. -/
def allRequestedCapacityAllocated (request : MemoryAllocationRequest)
    (layout : MemoryAllocationLayout) : Bool :=
  getExtentCapacityFromLayout layout ≥ request.appDirectCapacityGiB

/-- `LayoutStepAppDirect::execute`. -/
def execute (lib : NvmLibrary) (request : MemoryAllocationRequest) : LayoutM Unit := fun layout =>
  if request.appDirectCapacityGiB > 0 then
    match MemoryAllocationUtil.getNextAvailableInterleaveSetId lib layout with
    | .error e => .error e layout
    | .ok nextInterleaveId =>
      match layoutExtent lib request ⟨layout.goals, nextInterleaveId⟩ with
      | .error e state => .error e { layout with goals := state.goals }
      | .ok _ state =>
        let layout := addExtentCapacityToLayout { layout with goals := state.goals }
        if allRequestedCapacityAllocated request layout then .ok () layout
        else .error .badRequestSize layout
  else
    .ok () layout

/-! ### Laying out one set -/

section OneSet

variable {lib : NvmLibrary} {dimms : List Dimm} {bytes : UInt64} {state state' : AppDirectState}

/-- The exceptions of the parameters of a set end the build. -/
private theorem endsBuild_setParameters (lib : NvmLibrary) (dimms : List Dimm)
    {e : LayoutException} :
    (dimms.mapM (fun dimm => stringToUid dimm.uid) = .error e → e.endsBuild = true) ∧
      (MemoryAllocationUtil.getRecommendedInterleaveFormatForWays lib dimms.length = .error e →
        e.endsBuild = true) := by
  constructor
  · intro h
    obtain ⟨d, -, huid⟩ := except_mapM_error h
    unfold stringToUid at huid
    split_ifs at huid
    obtain rfl := Except.error.inj huid
    rfl
  · intro h
    unfold MemoryAllocationUtil.getRecommendedInterleaveFormatForWays at h
    split at h
    · obtain rfl := Except.error.inj h
      rfl
    · simp at h

/-- The goals after one set, when its parameters could be found. -/
theorem layoutInterleaveSet_eq {uids : List Uid} {format : InterleaveFormat}
    (huids : dimms.mapM (fun dimm => stringToUid dimm.uid) = .ok uids)
    (hformat : MemoryAllocationUtil.getRecommendedInterleaveFormatForWays lib dimms.length =
      .ok format) :
    layoutInterleaveSet lib dimms bytes state =
      .ok ⟨updateAll Dimm.uid (fun _ =>
        updateGoalWithInterleaveSet state.nextInterleaveId bytes uids format) dimms state.goals,
        state.nextInterleaveId + 1⟩ := by
  have hfold : ∀ (l : List Dimm) (goals : Goals), (l.foldlM (fun goals dimm => do
      let uids ← Except.ok uids
      let format ← Except.ok format
      pure (Function.update goals dimm.uid (updateGoalWithInterleaveSet state.nextInterleaveId
        bytes uids format (goals dimm.uid)))) goals : Except LayoutException Goals) =
      .ok (updateAll Dimm.uid (fun _ =>
        updateGoalWithInterleaveSet state.nextInterleaveId bytes uids format) l goals) := by
    intro l
    induction l with
    | nil => intro goals; rfl
    | cons d l ih =>
      intro goals
      exact ih _
  unfold layoutInterleaveSet
  rw [huids, hformat, hfold]
  rfl

/-- Laying out a set on at least one DIMM needs its parameters. -/
private theorem layoutInterleaveSet_cases (lib : NvmLibrary) (bytes : UInt64)
    (state : AppDirectState) (hne : dimms ≠ []) :
    (∃ uids format, dimms.mapM (fun dimm => stringToUid dimm.uid) = .ok uids ∧
      MemoryAllocationUtil.getRecommendedInterleaveFormatForWays lib dimms.length = .ok format ∧
      layoutInterleaveSet lib dimms bytes state =
        .ok ⟨updateAll Dimm.uid (fun _ =>
          updateGoalWithInterleaveSet state.nextInterleaveId bytes uids format) dimms state.goals,
          state.nextInterleaveId + 1⟩) ∨
    ∃ e, layoutInterleaveSet lib dimms bytes state = .error e ∧ e.endsBuild = true := by
  obtain ⟨d, l, hdl⟩ := List.exists_cons_of_ne_nil hne
  cases huids : dimms.mapM fun dimm => stringToUid dimm.uid with
  | error e =>
    right
    refine ⟨e, ?_, (endsBuild_setParameters lib dimms).1 huids⟩
    unfold layoutInterleaveSet
    simp only [huids]
    rw [hdl]
    rfl
  | ok uids =>
    cases hformat : MemoryAllocationUtil.getRecommendedInterleaveFormatForWays lib
        dimms.length with
    | error e =>
      right
      refine ⟨e, ?_, (endsBuild_setParameters lib dimms).2 hformat⟩
      unfold layoutInterleaveSet
      simp only [huids, hformat]
      rw [hdl]
      rfl
    | ok format =>
      exact Or.inl ⟨uids, format, rfl, rfl, layoutInterleaveSet_eq huids hformat⟩

/-- What laying out one set does: every DIMM of the set gets an extent of the same size under the
next set id, and the id is used up. -/
theorem layoutInterleaveSet_ok (hne : dimms ≠ [])
    (h : layoutInterleaveSet lib dimms bytes state = .ok state') :
    ∃ uids format, state' =
      ⟨updateAll Dimm.uid (fun _ =>
        updateGoalWithInterleaveSet state.nextInterleaveId bytes uids format) dimms state.goals,
        state.nextInterleaveId + 1⟩ := by
  rcases layoutInterleaveSet_cases lib bytes state hne with
    ⟨uids, format, -, -, heq⟩ | ⟨e, heq, -⟩
  · rw [heq] at h
    exact ⟨uids, format, (Except.ok.inj h).symm⟩
  · rw [heq] at h
    simp at h

/-- Laying out one set on at least one DIMM succeeds exactly when its parameters are found. -/
theorem layoutInterleaveSet_ok_iff (hne : dimms ≠ []) :
    (∃ state', layoutInterleaveSet lib dimms bytes state = .ok state') ↔
      (∃ uids, dimms.mapM (fun dimm => stringToUid dimm.uid) = .ok uids) ∧
        ∃ format, MemoryAllocationUtil.getRecommendedInterleaveFormatForWays lib dimms.length =
          .ok format := by
  constructor
  · rintro ⟨state', h⟩
    rcases layoutInterleaveSet_cases lib bytes state hne with
      ⟨uids, format, huids, hformat, -⟩ | ⟨e, heq, -⟩
    · exact ⟨⟨uids, huids⟩, format, hformat⟩
    · rw [heq] at h
      cases h
  · rintro ⟨⟨uids, huids⟩, format, hformat⟩
    exact ⟨_, layoutInterleaveSet_eq huids hformat⟩

/-- What laying out one set raises ends the build. -/
theorem layoutInterleaveSet_error (hne : dimms ≠ []) {e : LayoutException}
    (h : layoutInterleaveSet lib dimms bytes state = .error e) : e.endsBuild = true := by
  rcases layoutInterleaveSet_cases lib bytes state hne with
    ⟨uids, format, -, -, heq⟩ | ⟨e', heq, hends⟩
  · rw [heq] at h
    simp at h
  · rw [heq] at h
    obtain rfl := Except.error.inj h
    exact hends

end OneSet

/-! ### Removing the DIMMs of a set -/

/-- What is left after a removal was in the list before it. -/
theorem removeDimmsFromList_sublist (set dimms : List Dimm) :
    (removeDimmsFromList set dimms).Sublist dimms := by
  induction set generalizing dimms with
  | nil => exact List.Sublist.refl _
  | cons d set ih => exact (ih _).trans List.eraseP_sublist

/-- With distinct uids, no DIMM of the set is left after its removal. -/
theorem uid_notMem_of_mem_removeDimmsFromList {set dimms : List Dimm}
    (hnd : (dimms.map Dimm.uid).Nodup) {d : Dimm} (hd : d ∈ removeDimmsFromList set dimms) :
    d.uid ∉ set.map Dimm.uid := by
  induction set generalizing dimms with
  | nil => simp
  | cons e set ih =>
    have hsub : ((dimms.eraseP fun dimm => dimm.uid == e.uid).map Dimm.uid).Sublist
        (dimms.map Dimm.uid) := List.eraseP_sublist.map _
    rw [List.map_cons, List.mem_cons, not_or]
    refine ⟨fun heq => ?_, ih (hnd.sublist hsub) hd⟩
    -- the erased DIMM was the only one with its uid
    have hmem : d ∈ dimms.eraseP fun dimm => dimm.uid == e.uid :=
      (removeDimmsFromList_sublist set _).subset hd
    clear hd ih hsub
    induction dimms with
    | nil => simp at hmem
    | cons c dimms ihd =>
      rw [List.map_cons, List.nodup_cons] at hnd
      by_cases hc : c.uid = e.uid
      · rw [List.eraseP_cons_of_pos (by simp [hc])] at hmem
        exact hnd.1 (hc.trans heq.symm ▸ List.mem_map_of_mem hmem)
      · rw [List.eraseP_cons_of_neg (by simp [hc])] at hmem
        rcases List.mem_cons.mp hmem with rfl | hmem
        · exact hc heq
        · exact ihd hnd.2 hmem

/-- Removing a set that has a DIMM of the list makes the list shorter. -/
theorem length_removeDimmsFromList_lt {set dimms : List Dimm} (hset : set ≠ [])
    (hsub : set ⊆ dimms) : (removeDimmsFromList set dimms).length < dimms.length := by
  obtain ⟨e, set, rfl⟩ := List.exists_cons_of_ne_nil hset
  refine lt_of_le_of_lt (removeDimmsFromList_sublist set _).length_le ?_
  have hmem : e ∈ dimms := hsub List.mem_cons_self
  rw [List.length_eraseP_of_mem hmem (by simp)]
  have := List.length_pos_of_mem hmem
  omega

/-! ### The loop over a socket -/

section Socket

variable {lib : NvmLibrary} {remaining : List Dimm} {state : AppDirectState}

/-- What a pass of the socket loop that goes on does. -/
structure SetPass (lib : NvmLibrary) (remaining : List Dimm) (state : AppDirectState)
    (set : List Dimm) (bytes : UInt64) (state' : AppDirectState) : Prop where
  /-- The set is the largest one that can be interleaved. -/
  found : InterleaveableDimmSetBuilder.getLargestSetOfInterleavableDimms remaining = .ok set
  /-- The set has a member. -/
  set_ne : set ≠ []
  /-- The bytes per DIMM are a share that fits on the members with capacity left. -/
  share : ∃ included, SymmetricalShare set state.goals
    (getRemainingBytesFromDimms set state.goals) bytes included
  /-- The set is laid out with these bytes. -/
  laid : layoutInterleaveSet lib set bytes state = .ok state'

/-- The members of the set are DIMMs that were still to be covered. -/
theorem SetPass.set_sublist {set : List Dimm} {bytes : UInt64} {state' : AppDirectState}
    (h : SetPass lib remaining state set bytes state') : set.Sublist remaining :=
  InterleaveableDimmSetBuilder.getLargestSetOfInterleavableDimms_sublist h.found

/-- No DIMMs have no bytes left. -/
private theorem ne_nil_of_getRemainingBytesFromDimms_ne_zero {dimms : List Dimm} {goals : Goals}
    (h : getRemainingBytesFromDimms dimms goals ≠ 0) : dimms ≠ [] := by
  rintro rfl
  exact h rfl

/-- A pass that goes on covers a set with an equal share of all that its DIMMs have left. -/
theorem layoutSocketPass_share {next : List Dimm × AppDirectState}
    (h : layoutSocketPass lib (remaining, state) = .inl next) :
    ∃ set bytes included, SetPass lib remaining state set bytes next.2 ∧
      next.1 = removeDimmsFromList set remaining ∧
      getLargestPerDimmSymmetricalBytes set state.goals
        (getRemainingBytesFromDimms set state.goals) = .ok (bytes, included) := by
  simp only [layoutSocketPass] at h
  split_ifs at h with hnil
  split at h
  · simp at h
  · rename_i set hset
    split_ifs at h with hzero
    have hne := ne_nil_of_getRemainingBytesFromDimms_ne_zero hzero
    rcases getLargestPerDimmSymmetricalBytes_spec set state.goals
      (getRemainingBytesFromDimms set state.goals) with ⟨-, herr⟩ | ⟨bytes, included, hok, hshare⟩
    · rw [herr] at h
      simp at h
    · rw [hok] at h
      dsimp only at h
      split at h
      · simp at h
      · rename_i state' hlaid
        obtain rfl := Sum.inl.inj h
        exact ⟨set, bytes, included, ⟨hset, hne, ⟨included, hshare⟩, hlaid⟩, rfl, hok⟩

/-- A pass that goes on covers a set and removes it from the DIMMs to cover. -/
theorem layoutSocketPass_inl {next : List Dimm × AppDirectState}
    (h : layoutSocketPass lib (remaining, state) = .inl next) :
    ∃ set bytes, SetPass lib remaining state set bytes next.2 ∧
      next.1 = removeDimmsFromList set remaining := by
  obtain ⟨set, bytes, -, hpass, hnext, -⟩ := layoutSocketPass_share h
  exact ⟨set, bytes, hpass, hnext⟩

/-- A pass that leaves the loop changes nothing.  It leaves normally when every DIMM is covered, and
by a bad request size only when the set it found has no capacity left. -/
theorem layoutSocketPass_inr {r : EStateM.Result LayoutException AppDirectState Unit}
    (h : layoutSocketPass lib (remaining, state) = .inr r) :
    (remaining = [] ∧ r = .ok () state) ∨
    (∃ e, r = .error e state ∧ e.endsBuild = true) ∨
    (remaining ≠ [] ∧ r = .error .badRequestSize state ∧ ∃ set,
      InterleaveableDimmSetBuilder.getLargestSetOfInterleavableDimms remaining = .ok set ∧
        (getRemainingBytesFromDimms set state.goals = 0 ∨
          set.filter (hasUnallocatedCapacity state.goals) = [])) := by
  simp only [layoutSocketPass] at h
  split_ifs at h with hnil
  · exact Or.inl ⟨hnil, (Sum.inr.inj h).symm⟩
  · right
    split at h
    · rename_i e hset
      refine Or.inl ⟨e, (Sum.inr.inj h).symm, ?_⟩
      unfold InterleaveableDimmSetBuilder.getLargestSetOfInterleavableDimms at hset
      split_ifs at hset
      obtain rfl := Except.error.inj hset
      rfl
    · rename_i set hset
      split_ifs at h with hzero
      · exact Or.inr ⟨hnil, (Sum.inr.inj h).symm, set, hset, Or.inl hzero⟩
      · rcases getLargestPerDimmSymmetricalBytes_spec set state.goals
          (getRemainingBytesFromDimms set state.goals) with ⟨hnone, herr⟩ | ⟨bytes, included, hok, -⟩
        · rw [herr] at h
          exact Or.inr ⟨hnil, (Sum.inr.inj h).symm, set, hset, Or.inr hnone⟩
        · rw [hok] at h
          dsimp only at h
          split at h
          · rename_i e hlaid
            refine Or.inl ⟨e, (Sum.inr.inj h).symm, ?_⟩
            exact layoutInterleaveSet_error (ne_nil_of_getRemainingBytesFromDimms_ne_zero hzero)
              hlaid
          · simp at h

/-- The loop over a socket ends within its bound. -/
theorem layoutSocketPass_terminates (lib : NvmLibrary) (remaining : List Dimm)
    (state : AppDirectState) :
    (runLoop (layoutSocketPass lib) (remaining.length + 1) (remaining, state)).isSome := by
  refine runLoop_isSome_of_measure (fun _ => True) (fun s => s.1.length) ?_ trivial
    (Nat.lt_succ_self _)
  rintro ⟨rem, s⟩ next - hstep
  obtain ⟨set, bytes, hpass, hnext⟩ := layoutSocketPass_inl hstep
  refine ⟨trivial, ?_⟩
  rw [hnext]
  exact length_removeDimmsFromList_lt hpass.set_ne hpass.set_sublist.subset

/-- The rule for a socket: an invariant of the DIMMs to cover and the state that every pass that goes
on keeps holds of the state the socket is left in, and what leaves the loop is its last pass. -/
theorem layoutInterleavedExtentOnSocket_passRule (lib : NvmLibrary) (socketDimms : List Dimm)
    (state : AppDirectState) (I : List Dimm → AppDirectState → Prop)
    (hinit : I (removeUnavailableDimmsFromList state.goals socketDimms) state)
    (hpass : ∀ rem s next, I rem s → layoutSocketPass lib (rem, s) = .inl next →
      I next.1 next.2) :
    ∃ rem s, I rem s ∧ layoutSocketPass lib (rem, s) =
      .inr (layoutInterleavedExtentOnSocket lib socketDimms state) := by
  obtain ⟨r, hr⟩ := Option.isSome_iff_exists.mp (layoutSocketPass_terminates lib
    (removeUnavailableDimmsFromList state.goals socketDimms) state)
  have hsocket : layoutInterleavedExtentOnSocket lib socketDimms state = r := by
    unfold layoutInterleavedExtentOnSocket
    dsimp only
    rw [hr, Option.getD_some]
  rw [hsocket]
  refine runLoop_rule (fun s => I s.1 s.2)
    (fun r => ∃ rem s, I rem s ∧ layoutSocketPass lib (rem, s) = .inr r) ?_ ?_ hinit hr
  · rintro ⟨rem, s⟩ next hI hstep
    exact hpass rem s next hI hstep
  · rintro ⟨rem, s⟩ r hI hstep
    exact ⟨rem, s, hI, hstep⟩

/-- The rule for a socket: an invariant of the DIMMs to cover and the state that every pass keeps
holds of the state the socket is left in, and what leaves the loop is one of its last passes. -/
theorem layoutInterleavedExtentOnSocket_rule (lib : NvmLibrary) (socketDimms : List Dimm)
    (state : AppDirectState) (I : List Dimm → AppDirectState → Prop)
    (hinit : I (removeUnavailableDimmsFromList state.goals socketDimms) state)
    (hpass : ∀ rem s set bytes s', I rem s → SetPass lib rem s set bytes s' →
      I (removeDimmsFromList set rem) s') :
    ∃ rem s, I rem s ∧ layoutSocketPass lib (rem, s) =
      .inr (layoutInterleavedExtentOnSocket lib socketDimms state) := by
  refine layoutInterleavedExtentOnSocket_passRule lib socketDimms state I hinit ?_
  intro rem s next hI hstep
  obtain ⟨set, bytes, hset, hnext⟩ := layoutSocketPass_inl hstep
  rw [hnext]
  exact hpass rem s set bytes next.2 hI hset

end Socket

/-- The rule for the layout of the extent: what laying out one set keeps, all of it keeps. -/
theorem keeps_layoutExtent (lib : NvmLibrary) (request : MemoryAllocationRequest)
    {I : AppDirectState → Prop}
    (hset : ∀ dimms bytes s s', dimms ≠ [] → I s →
      layoutInterleaveSet lib dimms bytes s = .ok s' → I s') :
    Keeps I (layoutExtent lib request) := by
  have hsocket : ∀ socketDimms, Keeps I (layoutInterleavedExtentOnSocket lib socketDimms) := by
    intro socketDimms state hI
    obtain ⟨rem, last, hlast, hr⟩ := layoutInterleavedExtentOnSocket_rule lib socketDimms state
      (fun _ s => I s) hI fun _ s set bytes s' hs hpass => hset set bytes s s' hpass.set_ne hs
        hpass.laid
    rcases layoutSocketPass_inr hr with ⟨-, hr⟩ | ⟨e, hr, -⟩ | ⟨-, hr, -⟩
    · rw [hr]
      exact hlast
    · rw [hr]
      exact hlast
    · rw [hr]
      exact hlast
  have hdimm : ∀ dimm, Keeps I (layoutNonInterleavedDimm lib dimm) := by
    intro dimm state hI
    unfold layoutNonInterleavedDimm
    dsimp only
    split_ifs
    · split
      · exact hI
      · rename_i hlaid
        exact hset _ _ _ _ (by simp) hI hlaid
    · exact hI
  unfold layoutExtent
  refine Keeps.bind ?_ fun _ => keeps_forM fun d _ => hdimm d
  split_ifs
  · exact keeps_forM fun socket _ => hsocket socket.2
  · exact keeps_pure _

/-- The goals the step leaves: those it was entered with, or those of the extent it laid out from
some next id on. -/
theorem finalState_execute_goals (lib : NvmLibrary) (request : MemoryAllocationRequest)
    (layout : MemoryAllocationLayout) :
    (finalState (execute lib request layout)).goals = layout.goals ∨
      ∃ nextInterleaveId, (finalState (execute lib request layout)).goals =
        (finalState (layoutExtent lib request ⟨layout.goals, nextInterleaveId⟩)).goals := by
  unfold execute
  split_ifs
  · split
    · exact Or.inl rfl
    · rename_i nextInterleaveId _
      refine Or.inr ⟨nextInterleaveId, ?_⟩
      split
      · rename_i hrun
        rw [hrun]
        rfl
      · rename_i hrun
        rw [hrun]
        dsimp only
        unfold addExtentCapacityToLayout
        dsimp only
        split_ifs
        all_goals rfl
  · exact Or.inl rfl

end LayoutStepAppDirect

end IxpDimm
