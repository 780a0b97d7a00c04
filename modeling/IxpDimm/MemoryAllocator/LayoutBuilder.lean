import IxpDimm.MemoryAllocator.ShrinkSteps
import IxpDimm.MemoryAllocator.StepAppDirect
import IxpDimm.MemoryAllocator.StepMemory

/-!
# Building a layout

`LayoutBuilder.cpp`: a layout starts with a zeroed goal for every requested DIMM and goes through
the ordered list of layout steps.  A step that leaves with a bad request size ends there, with what
it has done so far, and the next step runs; any other exception ends the build.

The steps that only raise warnings are here as well.
-/

namespace IxpDimm

open Foundation

/-! ### The steps that raise warnings -/

/-- Raise a warning when a condition holds. -/
def warnIf (condition : Bool) (warning : LayoutWarningCode) : LayoutM Unit :=
  modify fun layout =>
    if condition then { layout with warnings := layout.warnings ++ [warning] } else layout

/-- `LayoutStepCheckDriverSupportsAppDirect::execute`. -/
def LayoutStepCheckDriverSupportsAppDirect.execute (capabilities : SystemCapabilities)
    (request : MemoryAllocationRequest) : LayoutM Unit :=
  warnIf (request.appDirectCapacityGiB > 0 && !capabilities.appDirectMode)
    .appDirectNotSupportedByDriver

namespace LayoutStepAppDirectSettingsNotRecommended

/-- The number of an `interleave_size` constant. -/
def interleaveSizeValue : InterleaveSize → Int
  | .none => 0
  | .size64B => 1
  | .size128B => 2
  | .size256B => 3
  | .size4KB => 4
  | .size1GB => 5

/-- `formatRecommended`. -/
def formatRecommended (capabilities : SystemCapabilities) (extent : AppDirectExtent) : Bool :=
  capabilities.interleaveFormats.any fun format =>
    if format.ways = .ways1 then extent.byOne && format.recommended
    else extent.imc == interleaveSizeValue format.imc &&
      extent.channel == interleaveSizeValue format.channel && format.recommended

/-- `LayoutStepAppDirectSettingsNotRecommended::execute`. -/
def execute (capabilities : SystemCapabilities) (request : MemoryAllocationRequest) :
    LayoutM Unit :=
  let extent := request.appDirectExtent
  warnIf ((extent.byOne || !(extent.channel == -1 || extent.imc == -1)) &&
    !formatRecommended capabilities extent) .appDirectSettingsNotRecommended

end LayoutStepAppDirectSettingsNotRecommended

namespace LayoutStepCheckAsymmetricalPopulation

/-- The loop of `socketHasAsymmetricalSizedDimms` with the size seen so far. -/
def sizesDiffer : UInt64 → List Dimm → Bool
  | _, [] => false
  | size, dimm :: dimms =>
    if size = 0 then sizesDiffer dimm.capacityBytes dimms
    else if dimm.capacityBytes ≠ size then true
    else sizesDiffer size dimms

/-- `socketHasAsymmetricalSizedDimms`. -/
def socketHasAsymmetricalSizedDimms (dimms : List Dimm) : Bool := sizesDiffer 0 dimms

/-- `socketHasAsymmetricalDimmPopulation`: some channel of a controller has a single DIMM. -/
def socketHasAsymmetricalDimmPopulation (dimms : List Dimm) : Bool :=
  (groupByKey (fun dimm : Dimm => dimm.channel.toNat % InterleaveableDimmSetBuilder.channelsPerImc)
    dimms).any fun channel => channel.2.length == 1

/-- `LayoutStepCheckAsymmetricalPopulation::execute`. -/
def execute (request : MemoryAllocationRequest) : LayoutM Unit :=
  warnIf ((request.memoryModeCapacityGiB != 0 || request.appDirectCapacityGiB > 0) &&
    (groupByKey Dimm.socket request.dimms).any fun socket =>
      socketHasAsymmetricalSizedDimms socket.2 || socketHasAsymmetricalDimmPopulation socket.2)
    .nonoptimalPopulation

end LayoutStepCheckAsymmetricalPopulation

/-- `LayoutStepCheckCurrentVolatileMode::execute`. -/
def LayoutStepCheckCurrentVolatileMode.execute (capabilities : SystemCapabilities)
    (request : MemoryAllocationRequest) : LayoutM Unit :=
  warnIf (request.memoryModeCapacityGiB > 0 && capabilities.currentVolatileMode != .memory &&
    capabilities.currentVolatileMode != .auto) .requestedMemoryModeNotUsable

namespace LayoutStepCheckRequestLayoutDeviation

/-- `findPercentDeviation` and `isLayoutDeviationWithinBounds`: the difference is kept in an `int`,
and the percentage is compared with ten. -/
def deviationWithinBounds (expected observed totalCapacity : UInt64) : Bool :=
  let difference := if observed > expected then observed - expected else expected - observed
  let deviation := (BitVec.ofNat 32 difference.toNat).toInt
  100 * deviation ≤ 10 * (totalCapacity.toNat : Int)

/-- `isMemoryCapacityLayoutAcceptable`. -/
def isMemoryCapacityLayoutAcceptable (request : MemoryAllocationRequest)
    (layout : MemoryAllocationLayout) : Bool :=
  if request.totalAlignedDimmCapacityInGiB > 0 ∧ request.memoryModeCapacityGiB > 0 then
    layout.memoryCapacity ≠ 0 && deviationWithinBounds request.memoryModeCapacityGiB
      layout.memoryCapacity request.totalAlignedDimmCapacityInGiB
  else true

/-- `isAppDirectCapacityLayoutAcceptable`. -/
def isAppDirectCapacityLayoutAcceptable (request : MemoryAllocationRequest)
    (layout : MemoryAllocationLayout) : Bool :=
  if request.totalAlignedDimmCapacityInGiB > 0 ∧ request.appDirectCapacityGiB > 0 then
    deviationWithinBounds request.appDirectCapacityGiB layout.appDirectCapacity
      request.totalAlignedDimmCapacityInGiB
  else true

/-- `LayoutStepCheckRequestLayoutDeviation::execute`. -/
def execute (request : MemoryAllocationRequest) : LayoutM Unit := do
  let layout ← get
  warnIf (!(isMemoryCapacityLayoutAcceptable request layout &&
    isAppDirectCapacityLayoutAcceptable request layout)) .goalAdjustedMoreThan10Percent

end LayoutStepCheckRequestLayoutDeviation

/-! ### The builder -/

namespace LayoutBuilder

/-- `populateWarningGeneratingLayoutSteps`. -/
def warningGeneratingLayoutSteps (builder : LayoutBuilder) (request : MemoryAllocationRequest) :
    List (LayoutM Unit) :=
  [LayoutStepCheckDriverSupportsAppDirect.execute builder.systemCapabilities request,
    LayoutStepAppDirectSettingsNotRecommended.execute builder.systemCapabilities request,
    LayoutStepCheckAsymmetricalPopulation.execute request,
    LayoutStepCheckCurrentVolatileMode.execute builder.systemCapabilities request]

/-- `populateOrderedLayoutStepsForRequest`. -/
def orderedLayoutStepsForRequest (builder : LayoutBuilder) (request : MemoryAllocationRequest) :
    List (LayoutM Unit) :=
  [LayoutStepMemory.execute builder.nvmLib request,
    LayoutStepAppDirect.execute builder.nvmLib request,
    LayoutStepReserved.execute request,
    LayoutStepLimitTotalMappedMemory.execute builder request,
    LayoutStepCheckRequestLayoutDeviation.execute request]

/-- `populateAllLayoutStepsForRequest`. -/
def layoutSteps (builder : LayoutBuilder) (request : MemoryAllocationRequest) :
    List (LayoutM Unit) :=
  builder.warningGeneratingLayoutSteps request ++ builder.orderedLayoutStepsForRequest request

/-- The layout `initLayoutGoals` starts from.  The keys of the goal map are the uids of the request
without repetition; nothing depends on their order. -/
def initLayoutGoals (builder : LayoutBuilder) (request : MemoryAllocationRequest) :
    MemoryAllocationLayout :=
  { goalUids := (request.dimms.map Dimm.uid).dedup
    goals := fun uid =>
      if uid ∈ request.dimms.map Dimm.uid then
        { namespaceLabelMajor := builder.namespaceLabelMajor
          namespaceLabelMinor := builder.namespaceLabelMinor }
      else {} }

/-- The body of the loop in `build`: a bad request size is left to the post layout checks. -/
def runStep (step : LayoutM Unit) : LayoutM Unit :=
  tryCatch step fun e => if e.isBadRequestSize then pure () else throw e

/-- The loop in `build` over a list of steps. -/
def runSteps (steps : List (LayoutM Unit)) : LayoutM Unit := steps.forM runStep

/-- `LayoutBuilder::build`. -/
def build (builder : LayoutBuilder) (request : MemoryAllocationRequest) :
    Except LayoutException MemoryAllocationLayout :=
  match runSteps (builder.layoutSteps request) (builder.initLayoutGoals request) with
  | .ok _ layout => .ok layout
  | .error e _ => .error e

/-! ### A small system -/

/-- A platform with no pools, no goals and no interleave formats whose sockets have no limit. -/
def plainLibrary : NvmLibrary where
  getPools := .ok []
  getManageableUids := .ok []
  getConfigGoal := fun _ => .error .errNotFound
  getNvmCapabilities := .ok ⟨true, [], .auto⟩
  getSocket := fun _ => .ok ⟨0, 0, 0, false⟩
  appDirectGranularity := none

/-- A builder on that platform. -/
def plainBuilder : LayoutBuilder where
  systemCapabilities := ⟨true, [], .auto⟩
  nvmLib := plainLibrary
  deviceDetailsList := []
  namespaceLabelMajor := 1
  namespaceLabelMinor := 2

/-- A DIMM of so many GiB on the first socket. -/
def plainDimm (uid : Uid) (gib : UInt64) (memoryController : UInt16) (channel : UInt32) : Dimm where
  uid := uid
  capacityBytes := giBToB gib
  socket := 0
  memoryController := memoryController
  channel := channel

/-- Two DIMMs of five GiB that can be interleaved, all of it App Direct but for the reserve. -/
def pairRequest (reservedCapacityGiB : UInt64) : MemoryAllocationRequest where
  appDirectExtent := { capacityGiB := 10 }
  reservedCapacityGiB := reservedCapacityGiB
  dimms := [plainDimm ['a'] 5 0 0, plainDimm ['b'] 5 1 0]

end LayoutBuilder

end IxpDimm
