import IxpDimm.MemoryAllocator.Shrink

/-!
# The steps that take capacity back

`LayoutStepReserved.cpp` leaves the requested capacity unallocated by shrinking App Direct, and
`LayoutStepLimitTotalMappedMemory.cpp` keeps what a socket maps into the address space within the
limit of its SKU, by shrinking App Direct and then memory on the DIMMs of the socket.  What a socket
exceeds its limit by is computed from the goals the step is entered with.

The shrink passes of a step are listed by `shrinkPasses` and `limitPasses`, each with the goals it
starts from.
-/

namespace IxpDimm

open Foundation

/-! ### Reserved capacity -/

namespace LayoutStepReserved

/-- `getTotalADCapacity`. -/
def getTotalADCapacity (request : MemoryAllocationRequest) (goals : Goals) : UInt64 :=
  request.dimms.foldl (fun totalADCapacity dimm =>
    totalADCapacity + ((goals dimm.uid).appDirect1Size + (goals dimm.uid).appDirect2Size)) 0

/-- `shrinkAppDirectPerReservedCapacity`. -/
def shrinkAppDirectPerReservedCapacity (dimms : List Dimm) (reservedCapacity : UInt64)
    (goals : Goals) : Goals :=
  let (reservedCapacity, goals) := shrinkAD2 dimms reservedCapacity goals
  (shrinkAD1 dimms reservedCapacity goals).2

/-- The part of `LayoutStepReserved::execute` before its check. -/
def reserve (request : MemoryAllocationRequest) (layout : MemoryAllocationLayout) :
    MemoryAllocationLayout :=
  let layout :=
    if request.reservedCapacityGiB > 0 then
      let goals := shrinkAppDirectPerReservedCapacity request.nonReservedDimms
        request.reservedCapacityGiB layout.goals
      { layout with goals := goals, appDirectCapacity := getTotalADCapacity request goals }
    else layout
  { layout with
    remainingCapacity := bToGiB (getRemainingBytesFromRequestedDimms request layout.goals) }

/-- `LayoutStepReserved::execute`. -/
def execute (request : MemoryAllocationRequest) : LayoutM Unit := fun layout =>
  let layout := reserve request layout
  if layout.remainingCapacity = 0 then .error .badRequestSize layout else .ok () layout

end LayoutStepReserved

/-! ### The mapped memory limit -/

namespace LayoutStepLimitTotalMappedMemory

/-- `map[key]` for a map of vectors. -/
def lookup {ν : Type} (key : UInt16) (map : List (UInt16 × List ν)) : List ν :=
  ((map.find? fun entry => entry.1 == key).map Prod.snd).getD []

/-- `initReqConfigGoalMap`: the goals of the requested DIMMs by socket. -/
def reqSocketIdConfigGoalMap (request : MemoryAllocationRequest) (layout : MemoryAllocationLayout) :
    List (UInt16 × List ConfigGoal) :=
  request.dimms.foldl (fun map reqDimm =>
    (layout.goalUids.filter fun uid => uidCmp uid reqDimm.uid).foldl (fun map uid =>
      pushBack reqDimm.socket (layout.goals uid) map) map) []

/-- `initPcatType6info`: the sockets whose SKU limits the mapped memory. -/
def initPcatType6info (lib : NvmLibrary) (socketIds : List UInt16) :
    Except LayoutException (List (UInt16 × Socket)) :=
  match socketIds with
  | [] => .ok []
  | socketId :: rest =>
    match lib.getSocket socketId with
    | .error code => .error (.library code)
    | .ok skt => do
      let sockets ← initPcatType6info lib rest
      pure (if skt.isCapacitySkuingSupported then (socketId, skt) :: sockets else sockets)

/-- Whether `calculateTotalMappedCapacityPerSocket` takes the request for one of memory mode: a goal
has memory, or not the whole socket is requested and a configured DIMM has memory already. -/
def isReqConfigurationMemMode (curDeviceDetailsList : List DeviceDetails)
    (reqConfigGoalList : List ConfigGoal) : Bool :=
  reqConfigGoalList.any (fun goal => goal.memorySize > 0) ||
    (curDeviceDetailsList.length != reqConfigGoalList.length &&
      curDeviceDetailsList.any fun details => details.memoryCapacity > 0 && details.isConfigured)

/-- `totalCurrSizeInB` of `calculateTotalMappedCapacityPerSocket`: what stays mapped on the socket
besides the request, by the mode the socket is in and the one that is requested. -/
def totalCurrSizeInB (curDeviceDetailsList : List DeviceDetails) (sktType6Info : Socket)
    (isUserReqWholeSocket isCurrentMemMode isReqMemMode : Bool) : UInt64 :=
  -- 1LM + AD -> 1LM + AD
  if !isCurrentMemMode && !isReqMemMode then
    curDeviceDetailsList.foldl (fun total details =>
      if isUserReqWholeSocket || !details.isConfigured then total - details.appDirectCapacity
      else total) sktType6Info.totalMappedMemory
  -- 2LM + AD -> 1LM + AD: cached memory will now become mapped memory
  else if isCurrentMemMode && !isReqMemMode then
    curDeviceDetailsList.foldl (fun total details =>
      if !isUserReqWholeSocket && details.isConfigured then total + details.appDirectCapacity
      else total) sktType6Info.total2LmDdrCacheMemory
  -- 2LM + AD -> 2LM + AD or 1LM + AD -> 2LM + AD
  else
    curDeviceDetailsList.foldl (fun total details =>
      if !isUserReqWholeSocket && details.isConfigured then
        total + details.appDirectCapacity + details.memoryCapacity
      else total) 0

/-- `calculateTotalMappedCapacityPerSocket`: `m_newTotalMappedSizeOnSocketInGib`. -/
def calculateTotalMappedCapacityPerSocket (curDeviceDetailsList : List DeviceDetails)
    (sktType6Info : Socket) (reqConfigGoalList : List ConfigGoal) :
    Except LayoutException UInt64 :=
  let isUserReqWholeSocket := curDeviceDetailsList.length == reqConfigGoalList.length
  let totalReqSizeInGib := reqConfigGoalList.foldl (fun total goal =>
    total + goal.memorySize + goal.appDirect1Size + goal.appDirect2Size) 0
  let isCurrentMemMode := curDeviceDetailsList.any fun details => details.memoryCapacity > 0
  let isReqMemMode := isReqConfigurationMemMode curDeviceDetailsList reqConfigGoalList
  if isCurrentMemMode ∧ sktType6Info.total2LmDdrCacheMemory = 0 then
    .error (.library .errBadPcat)
  else
    .ok (bToGiB (totalCurrSizeInB curDeviceDetailsList sktType6Info isUserReqWholeSocket
      isCurrentMemMode isReqMemMode) + totalReqSizeInGib)

/-- `shrinkLayoutGoals`. -/
def shrinkLayoutGoals (socketDimms : List Dimm) (exceededSocketLimitBy : UInt64) (goals : Goals) :
    Goals :=
  let (left, goals) := shrinkAD2 socketDimms exceededSocketLimitBy goals
  let (left, goals) := shrinkAD1 socketDimms left goals
  (shrinkMemory socketDimms left goals).2

/-- `initSocketDimms`. -/
def socketDimms (request : MemoryAllocationRequest) (socketId : UInt16) : List Dimm :=
  request.dimms.filter fun dimm => dimm.socket == socketId

/-- The sockets that exceed their limit: the requested DIMMs on each of them and the GiB to shrink
by.  The exceptions are not swallowed by `build`, so what was shrunk before one is raised is not
looked at again. -/
def exceededSockets (builder : LayoutBuilder) (request : MemoryAllocationRequest)
    (layout : MemoryAllocationLayout) : Except LayoutException (List (List Dimm × UInt64)) := do
  let curSocketIdDeviceDetailsMap :=
    groupByKey DeviceDetails.socketId builder.deviceDetailsList
  let reqGoalMap := reqSocketIdConfigGoalMap request layout
  let sockets ← initPcatType6info builder.nvmLib (reqGoalMap.map Prod.fst)
  let totals ← sockets.mapM fun socketInfo => do
    let total ← calculateTotalMappedCapacityPerSocket
      (lookup socketInfo.1 curSocketIdDeviceDetailsMap) socketInfo.2
      (lookup socketInfo.1 reqGoalMap)
    pure (socketDimms request socketInfo.1, total, bToGiB socketInfo.2.mappedMemoryLimit)
  pure (totals.filterMap fun (dimms, total, limit) =>
    if total > limit then some (dimms, total - limit) else none)

/-- `shrinkLayoutCapacities`. -/
def shrinkLayoutCapacities (request : MemoryAllocationRequest) (layout : MemoryAllocationLayout) :
    MemoryAllocationLayout :=
  { layout with
    memoryCapacity := request.dimms.foldl (fun total dimm =>
      total + (layout.goals dimm.uid).memorySize) 0
    appDirectCapacity := request.dimms.foldl (fun total dimm =>
      total + ((layout.goals dimm.uid).appDirect1Size +
        (layout.goals dimm.uid).appDirect2Size)) 0 }

/-- The part of `LayoutStepLimitTotalMappedMemory::execute` after the limits have been compared. -/
def limit (request : MemoryAllocationRequest) (exceeded : List (List Dimm × UInt64))
    (layout : MemoryAllocationLayout) : MemoryAllocationLayout :=
  let layout := { layout with
    goals := exceeded.foldl (fun goals socket => shrinkLayoutGoals socket.1 socket.2 goals)
      layout.goals }
  let layout :=
    if exceeded ≠ [] then
      let layout := shrinkLayoutCapacities request layout
      { layout with warnings := layout.warnings ++ [.skuMappedMemoryLimited] }
    else layout
  { layout with
    remainingCapacity := bToGiB (getRemainingBytesFromRequestedDimms request layout.goals) }

/-- `LayoutStepLimitTotalMappedMemory::execute`. -/
def execute (builder : LayoutBuilder) (request : MemoryAllocationRequest) : LayoutM Unit :=
  fun layout =>
    match exceededSockets builder request layout with
    | .error e => .error e layout
    | .ok exceeded => .ok () (limit request exceeded layout)

/-- What the information about the sockets raises ends the build. -/
private theorem endsBuild_initPcatType6info {lib : NvmLibrary} {ids : List UInt16}
    {e : LayoutException}
    (h : initPcatType6info lib ids = .error e) :
    e.endsBuild = true := by
  induction ids with
  | nil => cases h
  | cons id ids ih =>
    unfold initPcatType6info at h
    split at h
    · obtain rfl := Except.error.inj h
      rfl
    · rcases except_bind_error h with hrest | ⟨sockets, -, hpure⟩
      · exact ih hrest
      · cases hpure

/-- What the mapped memory limit raises ends the build. -/
theorem endsBuild_exceededSockets {builder : LayoutBuilder}
    {request : MemoryAllocationRequest} {layout : MemoryAllocationLayout} {e : LayoutException}
    (h : exceededSockets builder request layout = .error e) :
    e.endsBuild = true := by
  unfold exceededSockets at h
  rcases except_bind_error h with hsockets | ⟨sockets, -, htotals⟩
  · exact endsBuild_initPcatType6info hsockets
  · rcases except_bind_error htotals with hsocket | ⟨totals, -, hpure⟩
    · obtain ⟨socket, -, htotal⟩ := except_mapM_error hsocket
      rcases except_bind_error htotal with htotal | ⟨total, -, hpure⟩
      · unfold calculateTotalMappedCapacityPerSocket at htotal
        dsimp only at htotal
        split_ifs at htotal
        obtain rfl := Except.error.inj htotal
        rfl
      · cases hpure
    · cases hpure

end LayoutStepLimitTotalMappedMemory

/-! ### The shrink passes of a step -/

/-- A shrink pass with the arguments and the goals it is entered with. -/
structure ShrinkPass where
  /-- The kind of capacity to shrink. -/
  type : CapacityType
  /-- The DIMMs to shrink it on. -/
  dimms : List Dimm
  /-- The GiB to shrink by. -/
  shrinkBy : UInt64
  /-- The goals before the pass. -/
  goals : Goals

/-- The App Direct passes of a shrink: the second extents, then the first ones. -/
def shrinkPasses (dimms : List Dimm) (shrinkBy : UInt64) (goals : Goals) : List ShrinkPass :=
  let afterAD2 := shrinkAD2 dimms shrinkBy goals
  [⟨.appDirect2, dimms, shrinkBy, goals⟩, ⟨.appDirect1, dimms, afterAD2.1, afterAD2.2⟩]

/-- The App Direct passes of the mapped memory limit, socket by socket. -/
def limitPasses : List (List Dimm × UInt64) → Goals → List ShrinkPass
  | [], _ => []
  | (dimms, shrinkBy) :: exceeded, goals =>
    shrinkPasses dimms shrinkBy goals ++ limitPasses exceeded
      (LayoutStepLimitTotalMappedMemory.shrinkLayoutGoals dimms shrinkBy goals)

/-! ### The goals after a step -/

/-- The reserved step only takes capacity away. -/
theorem LayoutStepReserved.reserve_within (request : MemoryAllocationRequest)
    (layout : MemoryAllocationLayout) (uid : Uid) :
    ((reserve request layout).goals uid).Within (layout.goals uid) := by
  unfold reserve
  dsimp only
  split_ifs
  · exact (shrinkCapacity_within _ _ _ _ uid).trans (shrinkCapacity_within _ _ _ _ uid)
  · exact ConfigGoal.Within.refl _

/-- Shrinking the goals of a socket only takes capacity away. -/
theorem LayoutStepLimitTotalMappedMemory.shrinkLayoutGoals_within (socketDimms : List Dimm)
    (shrinkBy : UInt64) (goals : Goals) (uid : Uid) :
    (shrinkLayoutGoals socketDimms shrinkBy goals uid).Within (goals uid) :=
  (shrinkCapacity_within _ _ _ _ uid).trans
    ((shrinkCapacity_within _ _ _ _ uid).trans (shrinkCapacity_within _ _ _ _ uid))

/-- The goals after the mapped memory limit. -/
theorem LayoutStepLimitTotalMappedMemory.limit_goals (request : MemoryAllocationRequest)
    (exceeded : List (List Dimm × UInt64)) (layout : MemoryAllocationLayout) :
    (limit request exceeded layout).goals =
      exceeded.foldl (fun goals socket => shrinkLayoutGoals socket.1 socket.2 goals)
        layout.goals := by
  unfold limit
  dsimp only
  split_ifs
  · rfl
  · rfl

/-- The mapped memory limit only takes capacity away. -/
theorem LayoutStepLimitTotalMappedMemory.limit_within (request : MemoryAllocationRequest)
    (exceeded : List (List Dimm × UInt64)) (layout : MemoryAllocationLayout) (uid : Uid) :
    ((limit request exceeded layout).goals uid).Within (layout.goals uid) := by
  rw [limit_goals]
  generalize layout.goals = goals
  induction exceeded generalizing goals with
  | nil => exact ConfigGoal.Within.refl _
  | cons socket exceeded ih => exact (ih _).trans (shrinkLayoutGoals_within _ _ _ uid)

end IxpDimm
