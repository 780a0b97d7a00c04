import IxpDimm.Foundation.SortUnique
import IxpDimm.MemoryAllocator.LayoutBuilder
import IxpDimm.MemoryAllocator.RuleDimmListInvalid
import IxpDimm.Pool.Types

/-!
# The rules for a request

`MemoryAllocator.cpp` checks a request with a list of rules before it is laid out (`Rule*.cpp`).  A
rule that is broken throws an exception of its own, and the first one ends the check.

`RequestAllowed` says what the rules are about, and `validateRequest_eq_ok_iff` that a request passes
exactly when it holds.
-/

namespace IxpDimm

open Foundation LayoutBuilder

/-! ### The allocator -/

/-- What the rules read of `struct nvm_capabilities`. -/
structure AllocatorCapabilities extends SystemCapabilities where
  /-- `nvm_features.modify_device_capacity`. -/
  modifyDeviceCapacity : Bool
  /-- `nvm_features.memory_mode`. -/
  memoryMode : Bool

/-- The answers of the native library to the rules and the layout steps. -/
structure AllocatorLibrary extends NvmLibrary where
  /-- `getDeviceNamespaceCount` for namespaces of any type. -/
  getDeviceNamespaceCount : Uid → Except ReturnCode ℕ
  /-- `is_configured` of `getDeviceStatus`. -/
  getDeviceStatus : Uid → Except ReturnCode Bool

/-- `class MemoryAllocator`. -/
structure MemoryAllocator where
  /-- `m_systemCapabilities`. -/
  systemCapabilities : AllocatorCapabilities
  /-- `m_manageableDeviceDiscoveryList`. -/
  manageableDeviceDiscoveryList : List SecureDiscovery
  /-- `m_manageableDeviceDetailsList`. -/
  manageableDeviceDetailsList : List DeviceDetails
  /-- `m_pools`. -/
  pools : List Pool
  /-- `m_socketCount`. -/
  socketCount : UInt16
  /-- `m_nvmLib`. -/
  nvmLib : AllocatorLibrary

/-- The exceptions of `NvmExceptionBadRequest.h` and those that pass through the allocator. -/
inductive AllocationException
  /-- `NvmExceptionProvisionCapacityNotSupported`. -/
  | provisionCapacityNotSupported
  /-- `NvmExceptionBadRequestNoDimms`. -/
  | noDimms
  /-- `NvmExceptionBadDimmList` and `NvmExceptionInvalidDimm`. -/
  | dimmList (e : RuleDimmListInvalid.RuleException)
  /-- `NvmExceptionMemoryModeNotSupported`. -/
  | memoryModeNotSupported
  /-- `NvmExceptionRequestNotSupported`. -/
  | requestNotSupported
  /-- `NvmExceptionAppDirectSettingsNotSupported`. -/
  | appDirectSettingsNotSupported
  /-- `NvmExceptionDimmHasConfigGoal`. -/
  | dimmHasConfigGoal
  /-- `NvmExceptionNamespacesExist`. -/
  | namespacesExist
  /-- `NvmExceptionRequestedDimmLocked`. -/
  | requestedDimmLocked
  /-- `NvmExceptionBadRequestDoesntContainRequiredDimms`. -/
  | doesntContainRequiredDimms
  /-- `NvmExceptionOverAddressDecoderLimit`. -/
  | overAddressDecoderLimit
  /-- `NvmExceptionPartialResultsCouldNotBeUndone`. -/
  | partialResultsCouldNotBeUndone
  /-- `LibraryException`. -/
  | library (code : ReturnCode)
  /-- What else leaves `LayoutBuilder::build`, `InvalidArgumentException` being one of them. -/
  | layout (e : LayoutException)
  deriving DecidableEq, Repr

/-- A rule: it returns or throws. -/
abbrev RuleResult := Except AllocationException Unit

/-- Throw when a condition holds. -/
def throwIf (condition : Bool) (e : AllocationException) : RuleResult :=
  if condition then .error e else .ok ()

/-- The loop of a rule over the requested DIMMs. -/
def checkDimms (check : Dimm → RuleResult) : List Dimm → RuleResult
  | [] => .ok ()
  | dimm :: dimms => do
    check dimm
    checkDimms check dimms

/-! ### The rules -/

/-- `RuleProvisionCapacityNotSupported::verify`. -/
def RuleProvisionCapacityNotSupported.verify (capabilities : AllocatorCapabilities) : RuleResult :=
  throwIf (!capabilities.modifyDeviceCapacity) .provisionCapacityNotSupported

/-- `RuleNoDimms::verify`. -/
def RuleNoDimms.verify (request : MemoryAllocationRequest) : RuleResult :=
  throwIf (request.dimms.length == 0) .noDimms

/-- `RuleMemoryModeCapacityNotSupported::verify`. -/
def RuleMemoryModeCapacityNotSupported.verify (capabilities : AllocatorCapabilities)
    (request : MemoryAllocationRequest) : RuleResult :=
  throwIf (request.memoryModeCapacityGiB != 0 && !capabilities.memoryMode) .memoryModeNotSupported

namespace RuleAppDirectNotSupported

/-- The body of the loop of `formatSupported`. -/
def formatMatches (extent : AppDirectExtent) (format : InterleaveFormat) : Bool :=
  if extent.byOne then format.ways == .ways1
  else extent.imc == -1 || extent.channel == -1 ||
    (extent.imc == LayoutStepAppDirectSettingsNotRecommended.interleaveSizeValue format.imc &&
      extent.channel == LayoutStepAppDirectSettingsNotRecommended.interleaveSizeValue format.channel)

/-- `formatSupported`. -/
def formatSupported (capabilities : AllocatorCapabilities) (extent : AppDirectExtent) : Bool :=
  capabilities.interleaveFormats.any (formatMatches extent)

/-- `RuleAppDirectNotSupported::verify`. -/
def verify (capabilities : AllocatorCapabilities) (request : MemoryAllocationRequest) :
    RuleResult := do
  if request.appDirectCapacityGiB > 0 then
    throwIf (!capabilities.appDirectMode) .requestNotSupported
    throwIf (!formatSupported capabilities request.appDirectExtent) .appDirectSettingsNotSupported

end RuleAppDirectNotSupported

/-- `RuleMirroredAppDirectNotSupported::verify`. -/
def RuleMirroredAppDirectNotSupported.verify (request : MemoryAllocationRequest) : RuleResult :=
  throwIf request.appDirectExtent.mirrored .requestNotSupported

namespace RuleDimmHasConfigGoal

/-- `dimmHasUnappliedGoal`: no goal and a corrupt PCD are fine, anything else is not. -/
def dimmHasUnappliedGoal (lib : NvmLibrary) (dimmUid : Uid) : Except AllocationException Bool :=
  match lib.getConfigGoal dimmUid with
  | .ok goal => .ok (goal.status != .success)
  | .error code =>
    if code ≠ .errNotFound ∧ code ≠ .errBadDeviceConfig then .error (.library code) else .ok false

/-- `RuleDimmHasConfigGoal::verify`. -/
def verify (lib : NvmLibrary) (request : MemoryAllocationRequest) : RuleResult :=
  checkDimms (fun dimm => do
    let hasGoal ← dimmHasUnappliedGoal lib dimm.uid
    throwIf hasGoal .dimmHasConfigGoal) request.dimms

end RuleDimmHasConfigGoal

namespace RuleNamespacesExist

/-- `requestIsMemoryModeOnly`. -/
def requestIsMemoryModeOnly (request : MemoryAllocationRequest) : Bool :=
  request.memoryModeCapacityGiB > 0 && request.appDirectCapacityGiB == 0

/-- `requestIsOkWithGetNamespaceErrorCode`. -/
def requestIsOkWithGetNamespaceErrorCode (request : MemoryAllocationRequest) (code : ReturnCode) :
    Bool :=
  code == .errNotSupported && requestIsMemoryModeOnly request

/-- The body of the loop of `verify`. -/
def checkNamespaces (lib : AllocatorLibrary) (request : MemoryAllocationRequest) (dimm : Dimm) :
    RuleResult :=
  match lib.getDeviceNamespaceCount dimm.uid with
  | .ok nsCount => throwIf (nsCount > 0) .namespacesExist
  | .error code =>
    throwIf (!requestIsOkWithGetNamespaceErrorCode request code) (.library code)

/-- `RuleNamespacesExist::verify`. -/
def verify (lib : AllocatorLibrary) (request : MemoryAllocationRequest) : RuleResult :=
  checkDimms (checkNamespaces lib request) request.dimms

end RuleNamespacesExist

namespace RuleRejectLockedDimms

/-- `isSecurityStateLocked`. -/
def isSecurityStateLocked : LockState → Bool
  | .locked | .passphraseLimit | .unknown => true
  | _ => false

/-- `isDimmLocked`: the first device with the uid decides. -/
def isDimmLocked (manageableDevices : List SecureDiscovery) (dimm : Dimm) : Bool :=
  match manageableDevices.find? fun device =>
    uidCmp device.uid (RuleDimmListInvalid.uidCopy dimm.uid) with
  | some device => isSecurityStateLocked device.lockState
  | none => false

/-- `RuleRejectLockedDimms::verify`. -/
def verify (manageableDevices : List SecureDiscovery) (request : MemoryAllocationRequest) :
    RuleResult :=
  checkDimms (fun dimm => throwIf (isDimmLocked manageableDevices dimm) .requestedDimmLocked)
    request.dimms

end RuleRejectLockedDimms

namespace RulePartialSocketConfigured

/-- `getRequestedSockets`: a socket is removed when it follows itself. -/
def getRequestedSockets (dimms : List Dimm) : List UInt16 :=
  (dimms.map Dimm.socket).destutter (· ≠ ·)

/-- The manageable devices of a socket. -/
def devicesOnSocket (manageableDimms : List SecureDiscovery) (socketId : UInt16) :
    List SecureDiscovery :=
  manageableDimms.filter fun device => device.socketId == socketId

/-- The uid of a device as a `std::string`. -/
def uidStr (device : SecureDiscovery) : Uid := RuleDimmListInvalid.uidCopy device.uid

/-- `getSetOfAllDimmsOnSocket`. -/
def getSetOfAllDimmsOnSocket (manageableDimms : List SecureDiscovery) (socketId : UInt16) :
    Finset Uid :=
  ((devicesOnSocket manageableDimms socketId).map uidStr).toFinset

/-- `getSetOfRequestedDimmsOnSocket`. -/
def getSetOfRequestedDimmsOnSocket (requestedDimms : List Dimm) (socketId : UInt16) : Finset Uid :=
  ((requestedDimms.filter fun dimm => dimm.socket == socketId).map Dimm.uid).toFinset

/-- `deviceIsNew`. -/
def deviceIsNew (lib : AllocatorLibrary) (device : SecureDiscovery) :
    Except AllocationException Bool :=
  match lib.getDeviceStatus device.uid with
  | .ok isConfigured => .ok (!isConfigured)
  | .error code => .error (.library code)

/-- The loop of `getSetOfNewDimmsOnSocket` over the devices of the socket. -/
def newDimms (lib : AllocatorLibrary) : List SecureDiscovery → Except AllocationException (List Uid)
  | [] => .ok []
  | device :: devices => do
    let isNew ← deviceIsNew lib device
    let rest ← newDimms lib devices
    pure (if isNew then uidStr device :: rest else rest)

/-- `getSetOfNewDimmsOnSocket`. -/
def getSetOfNewDimmsOnSocket (lib : AllocatorLibrary) (manageableDimms : List SecureDiscovery)
    (socketId : UInt16) : Except AllocationException (Finset Uid) :=
  (newDimms lib (devicesOnSocket manageableDimms socketId)).map List.toFinset

/-- `validateRequestForSocket`. -/
def validateRequestForSocket (lib : AllocatorLibrary) (manageableDimms : List SecureDiscovery)
    (requestDimms : List Dimm) (socketId : UInt16) : RuleResult :=
  if getSetOfAllDimmsOnSocket manageableDimms socketId ≠
      getSetOfRequestedDimmsOnSocket requestDimms socketId then do
    let setOfNewDimmsOnSocket ← getSetOfNewDimmsOnSocket lib manageableDimms socketId
    throwIf (setOfNewDimmsOnSocket ≠ getSetOfRequestedDimmsOnSocket requestDimms socketId)
      .doesntContainRequiredDimms
  else .ok ()

/-- `RulePartialSocketConfigured::verify`. -/
def verify (lib : AllocatorLibrary) (manageableDimms : List SecureDiscovery)
    (request : MemoryAllocationRequest) : RuleResult :=
  (getRequestedSockets request.dimms).forM
    (validateRequestForSocket lib manageableDimms request.dimms)

end RulePartialSocketConfigured

namespace MemoryAllocator

/-- `populateRequestRules` and `validateRequest`. -/
def validateRequest (allocator : MemoryAllocator) (request : MemoryAllocationRequest) :
    RuleResult := do
  RuleProvisionCapacityNotSupported.verify allocator.systemCapabilities
  RuleNoDimms.verify request
  (RuleDimmListInvalid.verify
    (allocator.manageableDeviceDiscoveryList.map SecureDiscovery.toDeviceDiscovery) request).mapError
      .dimmList
  RuleMemoryModeCapacityNotSupported.verify allocator.systemCapabilities request
  RuleAppDirectNotSupported.verify allocator.systemCapabilities request
  RuleMirroredAppDirectNotSupported.verify request
  RuleDimmHasConfigGoal.verify allocator.nvmLib.toNvmLibrary request
  RuleNamespacesExist.verify allocator.nvmLib request
  RuleRejectLockedDimms.verify allocator.manageableDeviceDiscoveryList request
  RulePartialSocketConfigured.verify allocator.nvmLib allocator.manageableDeviceDiscoveryList request

end MemoryAllocator

/-! ### What a request may ask for -/

/-- No goal of the DIMM is waiting to be applied. -/
def NoUnappliedGoal (lib : NvmLibrary) (dimm : Dimm) : Prop :=
  match lib.getConfigGoal dimm.uid with
  | .ok goal => goal.status = .success
  | .error code => code = .errNotFound ∨ code = .errBadDeviceConfig

/-- The DIMM has no namespaces, or these are not supported and nothing persistent is requested. -/
def NoNamespaces (lib : AllocatorLibrary) (request : MemoryAllocationRequest) (dimm : Dimm) : Prop :=
  match lib.getDeviceNamespaceCount dimm.uid with
  | .ok nsCount => nsCount = 0
  | .error code => code = .errNotSupported ∧ request.memoryModeCapacityGiB > 0 ∧
      request.appDirectCapacityGiB = 0

/-- The uids of the devices of a socket that are not configured. -/
def newUids (lib : AllocatorLibrary) (devices : List SecureDiscovery) : List Uid :=
  (devices.filter fun device => lib.getDeviceStatus device.uid = .ok false).map
    RulePartialSocketConfigured.uidStr

/-- The request has all manageable DIMMs of a socket, or exactly those that are new. -/
def WholeOrNew (lib : AllocatorLibrary) (manageableDimms : List SecureDiscovery)
    (dimms : List Dimm) (socketId : UInt16) : Prop :=
  let devices := RulePartialSocketConfigured.devicesOnSocket manageableDimms socketId
  let requested := RulePartialSocketConfigured.getSetOfRequestedDimmsOnSocket dimms socketId
  (devices.map RulePartialSocketConfigured.uidStr).toFinset = requested ∨
    (∀ device ∈ devices, ∃ isConfigured, lib.getDeviceStatus device.uid = .ok isConfigured) ∧
      (newUids lib devices).toFinset = requested

/-- What the rules ask of a request. -/
structure RequestAllowed (allocator : MemoryAllocator) (request : MemoryAllocationRequest) : Prop where
  /-- Capacity can be provisioned. -/
  provision : allocator.systemCapabilities.modifyDeviceCapacity = true
  /-- There are DIMMs. -/
  dimms : request.dimms ≠ []
  /-- No DIMM follows itself. -/
  unrepeated : (request.dimms.map Dimm.uid).IsChain (· ≠ ·)
  /-- The DIMMs are manageable devices. -/
  recognized : ∀ dimm ∈ request.dimms, RuleDimmListInvalid.Recognized
    (allocator.manageableDeviceDiscoveryList.map SecureDiscovery.toDeviceDiscovery) dimm
  /-- Memory mode is supported if it is requested. -/
  memoryMode : request.memoryModeCapacityGiB ≠ 0 → allocator.systemCapabilities.memoryMode = true
  /-- App Direct mode and its format are supported if they are requested. -/
  appDirect : request.appDirectCapacityGiB > 0 →
    allocator.systemCapabilities.appDirectMode = true ∧
      RuleAppDirectNotSupported.formatSupported allocator.systemCapabilities
        request.appDirectExtent = true
  /-- Nothing is to be mirrored. -/
  notMirrored : request.appDirectExtent.mirrored = false
  /-- No DIMM has a goal that is waiting. -/
  noUnappliedGoal : ∀ dimm ∈ request.dimms, NoUnappliedGoal allocator.nvmLib.toNvmLibrary dimm
  /-- No DIMM has namespaces. -/
  noNamespaces : ∀ dimm ∈ request.dimms, NoNamespaces allocator.nvmLib request dimm
  /-- No DIMM is locked. -/
  unlocked : ∀ dimm ∈ request.dimms,
    RuleRejectLockedDimms.isDimmLocked allocator.manageableDeviceDiscoveryList dimm = false
  /-- The sockets are configured as a whole, or their new DIMMs are. -/
  sockets : ∀ dimm ∈ request.dimms, WholeOrNew allocator.nvmLib
    allocator.manageableDeviceDiscoveryList request.dimms dimm.socket

/-! ### What a rule accepts -/

/-- A sequence of two rules accepts what both accept. -/
private theorem rule_bind_eq_ok_iff {first second : RuleResult} :
    (do first; second) = .ok () ↔ first = .ok () ∧ second = .ok () := by
  constructor
  · intro h
    obtain ⟨_, hfirst, hsecond⟩ := except_bind_ok h
    exact ⟨hfirst, hsecond⟩
  · rintro ⟨rfl, rfl⟩
    rfl

/-- A condition that is not to hold. -/
private theorem throwIf_eq_ok_iff {condition : Bool} {e : AllocationException} :
    throwIf condition e = .ok () ↔ condition = false := by
  cases condition with
  | true => exact iff_of_false (fun h => by cases h) (by decide)
  | false => exact iff_of_true rfl rfl

/-- A rule over the DIMMs accepts when it accepts each of them. -/
private theorem checkDimms_eq_ok_iff {check : Dimm → RuleResult} {dimms : List Dimm} :
    checkDimms check dimms = .ok () ↔ ∀ dimm ∈ dimms, check dimm = .ok () := by
  induction dimms with
  | nil => exact iff_of_true rfl (List.forall_mem_nil _)
  | cons dimm dimms ih => rw [checkDimms, rule_bind_eq_ok_iff, ih, List.forall_mem_cons]

/-- A DIMM passes the rule about goals when none is waiting. -/
private theorem hasConfigGoal_eq_ok_iff (lib : NvmLibrary) (dimm : Dimm) :
    (do
      let hasGoal ← RuleDimmHasConfigGoal.dimmHasUnappliedGoal lib dimm.uid
      throwIf hasGoal .dimmHasConfigGoal) = .ok () ↔ NoUnappliedGoal lib dimm := by
  rw [RuleDimmHasConfigGoal.dimmHasUnappliedGoal, NoUnappliedGoal]
  cases lib.getConfigGoal dimm.uid with
  | ok goal =>
    change throwIf (goal.status != .success) _ = .ok () ↔ goal.status = .success
    rw [throwIf_eq_ok_iff, bne_eq_false_iff_eq]
  | error code =>
    dsimp only
    by_cases hfine : code = .errNotFound ∨ code = .errBadDeviceConfig
    · rw [if_neg (by tauto)]
      exact iff_of_true rfl hfine
    · rw [if_pos (by tauto)]
      exact iff_of_false (fun h => by cases h) hfine

/-- A DIMM passes the rule about namespaces when it has none. -/
private theorem checkNamespaces_eq_ok_iff (lib : AllocatorLibrary)
    (request : MemoryAllocationRequest) (dimm : Dimm) :
    RuleNamespacesExist.checkNamespaces lib request dimm = .ok () ↔
      NoNamespaces lib request dimm := by
  rw [RuleNamespacesExist.checkNamespaces, NoNamespaces]
  cases lib.getDeviceNamespaceCount dimm.uid with
  | ok nsCount =>
    dsimp only
    rw [throwIf_eq_ok_iff, decide_eq_false_iff_not, not_lt, Nat.le_zero]
  | error code =>
    dsimp only
    rw [throwIf_eq_ok_iff, Bool.not_eq_false', RuleNamespacesExist.requestIsOkWithGetNamespaceErrorCode,
      RuleNamespacesExist.requestIsMemoryModeOnly, Bool.and_eq_true, Bool.and_eq_true,
      beq_iff_eq, beq_iff_eq, decide_eq_true_iff]

/-- The new DIMMs of a socket are found when the status of each DIMM is. -/
private theorem newDimms_eq_ok_iff (lib : AllocatorLibrary) (devices : List SecureDiscovery)
    (uids : List Uid) :
    RulePartialSocketConfigured.newDimms lib devices = .ok uids ↔
      (∀ device ∈ devices, ∃ isConfigured, lib.getDeviceStatus device.uid = .ok isConfigured) ∧
        uids = newUids lib devices := by
  induction devices generalizing uids with
  | nil =>
    rw [RulePartialSocketConfigured.newDimms, Except.ok.injEq, eq_comm]
    exact (and_iff_right (List.forall_mem_nil _)).symm
  | cons device devices ih =>
    rw [RulePartialSocketConfigured.newDimms, RulePartialSocketConfigured.deviceIsNew,
      List.forall_mem_cons]
    cases hstatus : lib.getDeviceStatus device.uid with
    | error code =>
      exact iff_of_false (fun h => by cases h) fun h => by
        obtain ⟨⟨⟨_, hok⟩, -⟩, -⟩ := h
        cases hok
    | ok isConfigured =>
      have hnew : newUids lib (device :: devices) =
          if isConfigured then newUids lib devices
          else RulePartialSocketConfigured.uidStr device :: newUids lib devices := by
        cases isConfigured <;> simp [newUids, hstatus]
      rw [hnew]
      cases hrest : RulePartialSocketConfigured.newDimms lib devices with
      | error e =>
        refine iff_of_false (fun h => by cases h) fun h => ?_
        have hok := (ih _).mpr ⟨h.1.2, rfl⟩
        rw [hrest] at hok
        cases hok
      | ok rest =>
        obtain ⟨hall, rfl⟩ := (ih rest).mp hrest
        change Except.ok (if (!isConfigured) = true then _ else _) = Except.ok uids ↔ _
        rw [Except.ok.injEq, eq_comm]
        cases isConfigured with
        | true => exact (and_iff_right ⟨⟨_, rfl⟩, hall⟩).symm
        | false => exact (and_iff_right ⟨⟨_, rfl⟩, hall⟩).symm

/-- A socket passes when the request has all its DIMMs or its new ones. -/
private theorem validateRequestForSocket_eq_ok_iff (lib : AllocatorLibrary)
    (manageableDimms : List SecureDiscovery) (dimms : List Dimm) (socketId : UInt16) :
    RulePartialSocketConfigured.validateRequestForSocket lib manageableDimms dimms socketId =
        .ok () ↔ WholeOrNew lib manageableDimms dimms socketId := by
  rw [RulePartialSocketConfigured.validateRequestForSocket, WholeOrNew,
    RulePartialSocketConfigured.getSetOfAllDimmsOnSocket,
    RulePartialSocketConfigured.getSetOfNewDimmsOnSocket]
  split_ifs with hdiffer
  · refine Iff.trans ?_ (or_iff_right hdiffer).symm
    cases hnew : RulePartialSocketConfigured.newDimms lib
        (RulePartialSocketConfigured.devicesOnSocket manageableDimms socketId) with
    | error e =>
      refine iff_of_false (fun h => by cases h) fun h => ?_
      have hok := (newDimms_eq_ok_iff lib _ _).mpr ⟨h.1, rfl⟩
      rw [hnew] at hok
      cases hok
    | ok uids =>
      obtain ⟨hall, rfl⟩ := (newDimms_eq_ok_iff lib _ uids).mp hnew
      change throwIf _ _ = .ok () ↔ _
      rw [throwIf_eq_ok_iff, decide_eq_false_iff_not, not_not]
      exact (and_iff_right hall).symm
  · exact iff_of_true rfl (Or.inl (not_not.mp hdiffer))

/-- A loop of checks accepts when each check does. -/
private theorem forM_eq_ok_iff {α : Type} {check : α → RuleResult} {l : List α} :
    l.forM check = .ok () ↔ ∀ a ∈ l, check a = .ok () := by
  induction l with
  | nil => exact iff_of_true rfl (List.forall_mem_nil _)
  | cons a l ih =>
    rw [List.forall_mem_cons, ← ih]
    exact rule_bind_eq_ok_iff

/-- The rule about sockets accepts when the socket of each DIMM passes. -/
private theorem partialSocket_eq_ok_iff (lib : AllocatorLibrary)
    (manageableDimms : List SecureDiscovery) (request : MemoryAllocationRequest) :
    RulePartialSocketConfigured.verify lib manageableDimms request = .ok () ↔
      ∀ dimm ∈ request.dimms, WholeOrNew lib manageableDimms request.dimms dimm.socket := by
  simp only [RulePartialSocketConfigured.verify, forM_eq_ok_iff,
    validateRequestForSocket_eq_ok_iff, RulePartialSocketConfigured.getRequestedSockets,
    mem_destutter_ne, List.forall_mem_map]

/-- The rule about App Direct mode. -/
private theorem appDirect_eq_ok_iff (capabilities : AllocatorCapabilities)
    (request : MemoryAllocationRequest) :
    RuleAppDirectNotSupported.verify capabilities request = .ok () ↔
      (request.appDirectCapacityGiB > 0 → capabilities.appDirectMode = true ∧
        RuleAppDirectNotSupported.formatSupported capabilities request.appDirectExtent = true) := by
  rw [RuleAppDirectNotSupported.verify]
  by_cases hrequested : request.appDirectCapacityGiB > 0
  · rw [if_pos hrequested, rule_bind_eq_ok_iff, throwIf_eq_ok_iff, throwIf_eq_ok_iff,
      Bool.not_eq_false', Bool.not_eq_false']
    exact ⟨fun h _ => h, fun h => h hrequested⟩
  · rw [if_neg hrequested]
    exact iff_of_true rfl fun h => absurd h hrequested

/-! ### All rules -/

/-- A request passes the rules exactly when it is allowed. -/
theorem MemoryAllocator.validateRequest_eq_ok_iff (allocator : MemoryAllocator)
    (request : MemoryAllocationRequest) :
    allocator.validateRequest request = .ok () ↔ RequestAllowed allocator request := by
  have hlist : (RuleDimmListInvalid.verify (allocator.manageableDeviceDiscoveryList.map
      SecureDiscovery.toDeviceDiscovery) request).mapError AllocationException.dimmList = .ok () ↔
      RuleDimmListInvalid.verify (allocator.manageableDeviceDiscoveryList.map
        SecureDiscovery.toDeviceDiscovery) request = .ok () := by
    cases RuleDimmListInvalid.verify (allocator.manageableDeviceDiscoveryList.map
        SecureDiscovery.toDeviceDiscovery) request with
    | error e => exact iff_of_false (fun h => by cases h) fun h => by cases h
    | ok _ => exact iff_of_true rfl rfl
  rw [validateRequest]
  simp only [rule_bind_eq_ok_iff, RuleProvisionCapacityNotSupported.verify, RuleNoDimms.verify,
    RuleMemoryModeCapacityNotSupported.verify, RuleMirroredAppDirectNotSupported.verify,
    RuleDimmHasConfigGoal.verify, RuleNamespacesExist.verify, RuleRejectLockedDimms.verify,
    throwIf_eq_ok_iff, checkDimms_eq_ok_iff, hasConfigGoal_eq_ok_iff, checkNamespaces_eq_ok_iff,
    partialSocket_eq_ok_iff, appDirect_eq_ok_iff, hlist, RuleDimmListInvalid.verify_eq_ok_iff,
    Bool.not_eq_false', Bool.and_eq_false_iff, bne_eq_false_iff_eq, beq_eq_false_iff_ne,
    List.length_eq_zero_iff, ne_eq]
  constructor
  · rintro ⟨hprovision, hdimms, ⟨hchain, hrecognized⟩, hmemory, happDirect, hmirrored, hgoal, hnamespaces,
      hlocked, hsockets⟩
    exact ⟨hprovision, hdimms, hchain, hrecognized, fun h => hmemory.resolve_left h, happDirect,
      hmirrored, hgoal, hnamespaces, hlocked, hsockets⟩
  · rintro ⟨hprovision, hdimms, hchain, hrecognized, hmemory, happDirect, hmirrored, hgoal, hnamespaces,
      hlocked, hsockets⟩
    exact ⟨hprovision, hdimms, ⟨hchain, hrecognized⟩, Classical.or_iff_not_imp_left.mpr hmemory,
      happDirect, hmirrored, hgoal, hnamespaces, hlocked, hsockets⟩

end IxpDimm
