import IxpDimm.MemoryAllocator.BuildRun
import IxpDimm.MemoryAllocator.MappedLimit
import IxpDimm.MemoryAllocator.PostLayoutAddressDecoderLimitCheck
import Mathlib.Data.Char
import Mathlib.Data.List.Lex
import Mathlib.Data.List.Sort

/-!
# The allocator

`MemoryAllocator.cpp`.  `layout` checks a request with the rules, has the layout built and checks it
against the limit of the address decoders.  `allocate` stores the goals of a layout one DIMM after the
other, in the order of the map from uids; nothing is undone when the library fails on the way.

`layout_eq_ok_iff` puts the checks together.
-/

namespace IxpDimm

open Foundation

namespace MemoryAllocator

/-! ### Layouts -/

/-- The builder that `layout` makes. -/
def builder (allocator : MemoryAllocator) (namespaceLabelMajor namespaceLabelMinor : UInt16) :
    LayoutBuilder where
  systemCapabilities := allocator.systemCapabilities.toSystemCapabilities
  nvmLib := allocator.nvmLib.toNvmLibrary
  deviceDetailsList := allocator.manageableDeviceDetailsList
  namespaceLabelMajor := namespaceLabelMajor
  namespaceLabelMinor := namespaceLabelMinor

/-- `populatePostLayoutChecks` and `validateLayout`. -/
def validateLayout (allocator : MemoryAllocator) (layout : MemoryAllocationLayout) : RuleResult :=
  PostLayoutAddressDecoderLimitCheck.verify allocator.manageableDeviceDiscoveryList allocator.pools
    allocator.socketCount layout

/-- `MemoryAllocator::layout`. -/
def layout (allocator : MemoryAllocator) (request : MemoryAllocationRequest)
    (namespaceLabelMajor namespaceLabelMinor : UInt16) :
    Except AllocationException MemoryAllocationLayout := do
  allocator.validateRequest request
  let layout ← ((allocator.builder namespaceLabelMajor namespaceLabelMinor).build request).mapError
    .layout
  allocator.validateLayout layout
  pure layout

/-- A layout that is returned has passed the rules and the check, and it is what the builder makes. -/
theorem layout_ok {allocator : MemoryAllocator} {request : MemoryAllocationRequest}
    {major minor : UInt16} {result : MemoryAllocationLayout}
    (h : allocator.layout request major minor = .ok result) :
    allocator.validateRequest request = .ok () ∧
      (allocator.builder major minor).build request = .ok result ∧
      allocator.validateLayout result = .ok () := by
  obtain ⟨_, hrules, h⟩ := except_bind_ok h
  obtain ⟨built, hbuild, h⟩ := except_bind_ok h
  obtain ⟨_, hcheck, h⟩ := except_bind_ok h
  obtain rfl := Except.ok.inj h
  refine ⟨hrules, ?_, hcheck⟩
  cases hrun : (allocator.builder major minor).build request with
  | ok layout =>
    rw [hrun] at hbuild
    exact congrArg _ (Except.ok.inj hbuild)
  | error e =>
    rw [hrun] at hbuild
    cases hbuild

/-- A layout is returned exactly when the request is allowed, the layout is what the builder makes of
it, and, on a system of eight sockets or more, no socket of its DIMMs comes to more than seven
interleave sets. -/
theorem layout_eq_ok_iff (allocator : MemoryAllocator) (request : MemoryAllocationRequest)
    (major minor : UInt16) (result : MemoryAllocationLayout) :
    allocator.layout request major minor = .ok result ↔
      RequestAllowed allocator request ∧
      (allocator.builder major minor).build request = .ok result ∧
      (8 ≤ allocator.socketCount.toNat → ∀ uid ∈ result.goalUids,
        PostLayoutAddressDecoderLimitCheck.setsAfterLayout allocator.manageableDeviceDiscoveryList
          allocator.pools result (PostLayoutAddressDecoderLimitCheck.getSocketIdForDimm
            allocator.manageableDeviceDiscoveryList (RuleDimmListInvalid.uidCopy uid)) % 2 ^ 16
          ≤ 7) := by
  rw [← validateRequest_eq_ok_iff, ← PostLayoutAddressDecoderLimitCheck.verify_eq_ok_iff]
  constructor
  · exact layout_ok
  · rintro ⟨hrules, hbuild, hcheck⟩
    rw [layout, hrules, hbuild]
    change (do allocator.validateLayout result; pure result) = _
    rw [validateLayout, hcheck]
    rfl

/-- The keys of the goal map of a layout are the uids of the request. -/
theorem goalUids_build {builder : LayoutBuilder} {request : MemoryAllocationRequest}
    {layout : MemoryAllocationLayout} (h : builder.build request = .ok layout) :
    layout.goalUids = (request.dimms.map Dimm.uid).dedup := by
  obtain ⟨-, exceeded, warnings, -, rfl⟩ := LayoutBuilder.build_ok h
  have hlimit : (LayoutStepLimitTotalMappedMemory.limit request exceeded
      (builder.layoutBeforeLimit request)).goalUids =
      (builder.layoutBeforeLimit request).goalUids := by
    unfold LayoutStepLimitTotalMappedMemory.limit
    dsimp only
    split_ifs
    · rfl
    · rfl
  have hreserve : (builder.layoutBeforeLimit request).goalUids =
      (builder.layoutBeforeReserved request).goalUids := by
    unfold LayoutBuilder.layoutBeforeLimit LayoutStepReserved.reserve
    dsimp only
    split_ifs
    · rfl
    · rfl
  have huntouched := LayoutBuilder.afterSteps_keeps
    (LayoutBuilder.untouched_warningGeneratingLayoutSteps builder request)
    (LayoutBuilder.untouched_initLayoutGoals builder request)
  rw [hlimit, hreserve, LayoutBuilder.layoutBeforeReserved, LayoutBuilder.goalUids_appDirect,
    LayoutBuilder.layoutBeforeAppDirect, LayoutBuilder.goalUids_memory, huntouched.goalUids]
  rfl

/-! ### Storing the goals -/

section Allocate

variable {σ : Type} (createConfigGoal : Uid → ConfigGoal → σ → Option (RuleResult × σ))

/-- The handler of `allocate` for what a call throws. -/
def handleException (atLeastOneRequestSucceeded : Bool) : AllocationException → AllocationException
  | .library code =>
    if atLeastOneRequestSucceeded then .partialResultsCouldNotBeUndone else .library code
  | e => e

/-- The loop of `allocate`. -/
def createConfigGoals (goals : Goals) : Bool → List Uid → σ → Option (RuleResult × σ)
  | _, [], s => some (.ok (), s)
  | atLeastOneRequestSucceeded, uid :: uids, s =>
    (createConfigGoal uid (goals uid) s).bind fun
      | (.ok _, s') => createConfigGoals goals true uids s'
      | (.error e, s') => some (.error (handleException atLeastOneRequestSucceeded e), s')

/-- The keys of the map of goals in their order. -/
def orderedUids (layout : MemoryAllocationLayout) : List Uid :=
  layout.goalUids.insertionSort (· ≤ ·)

/-- `MemoryAllocator::allocate`. -/
def allocate (layout : MemoryAllocationLayout) (s : σ) : Option (RuleResult × σ) :=
  createConfigGoals createConfigGoal layout.goals false (orderedUids layout) s

end Allocate

end MemoryAllocator

end IxpDimm
