import IxpDimm.Device.Uid
import IxpDimm.Foundation.Effects
import IxpDimm.MemoryAllocator.Types
import Mathlib.Data.List.Destutter

/-!
# The rule for the list of requested DIMMs

`RuleDimmListInvalid.cpp`, one of the rules that a request is checked with before it is laid out: the
requested DIMMs are to be distinct, and to be manageable devices with the attributes that the request
gives them (`DimmListValid`).

The uids are compared with their neighbours only, and `checkIfMemChannelsMatch` is called by nothing.
What is accepted is given by `verify_eq_ok_iff`, and when that is enough by `verify_sound_iff`.
-/

namespace IxpDimm.RuleDimmListInvalid

open Foundation

/-! ### The rule -/

/-- The exceptions of the rule. -/
inductive RuleException
  /-- `NvmExceptionBadDimmList`. -/
  | badDimmList
  /-- `NvmExceptionInvalidDimm`. -/
  | invalidDimm
  deriving DecidableEq, Repr

/-- `uid_copy`. -/
def uidCopy (src : List Char) : Uid := (cString src).take (commonUidLen - 1)

/-- `device_handle.parts.mem_channel_id`. -/
def memChannelId (device : DeviceDiscovery) : UInt32 := (device.deviceHandle >>> 4) &&& 0xF

/-- `checkifDimmsInRequestAreUnique`; `std::list::unique` removes the elements that are equal to the
one before them. -/
def checkifDimmsInRequestAreUnique (dimms : List Dimm) : Except RuleException Unit :=
  let dimmList := dimms.map Dimm.uid
  let uniqueDimmList := dimmList.destutter (· ≠ ·)
  if uniqueDimmList.length ≠ dimmList.length then .error .badDimmList else .ok ()

/-- The comparison of an attribute of a requested DIMM with that of a device. -/
def checkIfEqual {α : Type} [DecidableEq α] (requested manageable : α) : Except RuleException Unit :=
  if requested ≠ manageable then .error .badDimmList else .ok ()

/-- `checkIfSocketIdsMatch`. -/
def checkIfSocketIdsMatch (dimm : Dimm) (device : DeviceDiscovery) : Except RuleException Unit :=
  checkIfEqual dimm.socket device.socketId

/-- `checkIfMemControllersMatch`. -/
def checkIfMemControllersMatch (dimm : Dimm) (device : DeviceDiscovery) :
    Except RuleException Unit :=
  checkIfEqual dimm.memoryController device.memoryControllerId

/-- `checkIfDimmCapacitiesMatch`. -/
def checkIfDimmCapacitiesMatch (dimm : Dimm) (device : DeviceDiscovery) :
    Except RuleException Unit :=
  checkIfEqual dimm.capacityBytes device.capacity

/-- `checkIfMemChannelsMatch`, which is not called. -/
def checkIfMemChannelsMatch (dimm : Dimm) (device : DeviceDiscovery) : Except RuleException Unit :=
  checkIfEqual dimm.channel (memChannelId device)

/-- A device has the uid of a requested DIMM. -/
def HasUid (dimm : Dimm) (device : DeviceDiscovery) : Prop :=
  uidCmp (uidCopy dimm.uid) device.uid = true

instance (dimm : Dimm) (device : DeviceDiscovery) : Decidable (HasUid dimm device) :=
  inferInstanceAs (Decidable (_ = true))

/-- The loop over the manageable devices, with `uidExists`. -/
def checkManageableDimms (dimm : Dimm) : List DeviceDiscovery → Bool → Except RuleException Bool
  | [], uidExists => .ok uidExists
  | device :: devices, uidExists =>
    if HasUid dimm device then do
      checkIfSocketIdsMatch dimm device
      checkIfMemControllersMatch dimm device
      checkIfDimmCapacitiesMatch dimm device
      checkManageableDimms dimm devices true
    else checkManageableDimms dimm devices uidExists

/-- `checkIfDimmListIsValid`. -/
def checkIfDimmListIsValid (manageableDimms : List DeviceDiscovery) :
    List Dimm → Except RuleException Unit
  | [] => .ok ()
  | dimm :: dimms => do
    let uidExists ← checkManageableDimms dimm manageableDimms false
    if uidExists then checkIfDimmListIsValid manageableDimms dimms else .error .invalidDimm

/-- `RuleDimmListInvalid::verify`. -/
def verify (manageableDimms : List DeviceDiscovery) (request : MemoryAllocationRequest) :
    Except RuleException Unit := do
  checkifDimmsInRequestAreUnique request.dimms
  checkIfDimmListIsValid manageableDimms request.dimms

/-! ### What is accepted -/

/-- What is compared of a requested DIMM and a device. -/
structure ComparedEqual (dimm : Dimm) (device : DeviceDiscovery) : Prop where
  /-- The sockets. -/
  socket : dimm.socket = device.socketId
  /-- The memory controllers. -/
  memoryController : dimm.memoryController = device.memoryControllerId
  /-- The capacities. -/
  capacity : dimm.capacityBytes = device.capacity

/-- A requested DIMM is a manageable device with the attributes that are compared. -/
structure Recognized (manageableDimms : List DeviceDiscovery) (dimm : Dimm) : Prop where
  /-- There is a device with the uid. -/
  uidExists : ∃ device ∈ manageableDimms, HasUid dimm device
  /-- The device has the attributes that are compared. -/
  comparedEqual : ∀ device ∈ manageableDimms, HasUid dimm device → ComparedEqual dimm device

/-- An attribute passes when it is equal. -/
private theorem checkIfEqual_bind {α β : Type} [DecidableEq α] (x y : α)
    (rest : Except RuleException β) (b : β) :
    (do checkIfEqual x y; rest) = .ok b ↔ x = y ∧ rest = .ok b := by
  by_cases h : x = y
  · have hok : checkIfEqual x y = .ok () := if_neg (not_not.mpr h)
    rw [hok]
    exact (and_iff_right h).symm
  · have herror : checkIfEqual x y = .error .badDimmList := if_pos h
    rw [herror]
    refine iff_of_false (fun hok => ?_) fun hboth => h hboth.1
    obtain ⟨_, hfirst, -⟩ := except_bind_ok hok
    cases hfirst

/-- The uids are unique for the check when no two neighbours are equal. -/
private theorem checkifDimmsInRequestAreUnique_eq_ok_iff (dimms : List Dimm) :
    checkifDimmsInRequestAreUnique dimms = .ok () ↔ (dimms.map Dimm.uid).IsChain (· ≠ ·) := by
  rw [← List.destutter_eq_self_iff, checkifDimmsInRequestAreUnique]
  split_ifs with hlength
  · refine iff_of_false (fun hok => nomatch hok) fun hself => hlength ?_
    rw [hself]
  · exact iff_of_true rfl
      ((List.destutter_sublist (· ≠ ·) (dimms.map Dimm.uid)).eq_of_length (not_not.mp hlength))

/-- The loop over the devices finds the uid and no difference. -/
private theorem checkManageableDimms_eq_ok_iff (dimm : Dimm) (devices : List DeviceDiscovery)
    (uidExists result : Bool) :
    checkManageableDimms dimm devices uidExists = .ok result ↔
      (∀ device ∈ devices, HasUid dimm device → ComparedEqual dimm device) ∧
      result = (uidExists || devices.any fun device => HasUid dimm device) := by
  induction devices generalizing uidExists with
  | nil =>
    rw [checkManageableDimms, Except.ok.injEq, List.any_nil, Bool.or_false, eq_comm]
    exact (and_iff_right fun _ hmem => absurd hmem List.not_mem_nil).symm
  | cons device devices ih =>
    rw [checkManageableDimms, List.forall_mem_cons, List.any_cons]
    by_cases huid : HasUid dimm device
    · rw [if_pos huid, checkIfSocketIdsMatch, checkIfMemControllersMatch,
        checkIfDimmCapacitiesMatch, checkIfEqual_bind, checkIfEqual_bind, checkIfEqual_bind, ih,
        decide_eq_true huid]
      simp only [Bool.true_or, Bool.or_true]
      constructor
      · rintro ⟨hsocket, hcontroller, hcapacity, hrest, hresult⟩
        exact ⟨⟨fun _ => ⟨hsocket, hcontroller, hcapacity⟩, hrest⟩, hresult⟩
      · rintro ⟨⟨hfirst, hrest⟩, hresult⟩
        obtain ⟨hsocket, hcontroller, hcapacity⟩ := hfirst huid
        exact ⟨hsocket, hcontroller, hcapacity, hrest, hresult⟩
    · rw [if_neg huid, ih, decide_eq_false huid, Bool.false_or,
        and_iff_right (fun h => absurd h huid : HasUid dimm device → ComparedEqual dimm device)]

/-- A list of DIMMs passes when each of them is recognized. -/
private theorem checkIfDimmListIsValid_eq_ok_iff (manageableDimms : List DeviceDiscovery)
    (dimms : List Dimm) :
    checkIfDimmListIsValid manageableDimms dimms = .ok () ↔
      ∀ dimm ∈ dimms, Recognized manageableDimms dimm := by
  induction dimms with
  | nil => exact iff_of_true rfl fun _ hmem => absurd hmem List.not_mem_nil
  | cons dimm dimms ih =>
    have hfound : ∀ result, checkManageableDimms dimm manageableDimms false = .ok result →
        (result = true ↔ Recognized manageableDimms dimm) := by
      intro result hok
      obtain ⟨hequal, hresult⟩ := (checkManageableDimms_eq_ok_iff _ _ _ _).mp hok
      rw [hresult, Bool.false_or, List.any_eq_true]
      constructor
      · rintro ⟨device, hmem, huid⟩
        exact ⟨⟨device, hmem, of_decide_eq_true huid⟩, hequal⟩
      · rintro ⟨⟨device, hmem, huid⟩, -⟩
        exact ⟨device, hmem, decide_eq_true huid⟩
    rw [checkIfDimmListIsValid, List.forall_mem_cons]
    cases hcheck : checkManageableDimms dimm manageableDimms false with
    | error e =>
      refine iff_of_false (fun hok => nomatch hok) fun hall => ?_
      have hok := (checkManageableDimms_eq_ok_iff dimm manageableDimms false _).mpr
        ⟨hall.1.comparedEqual, rfl⟩
      rw [hcheck] at hok
      cases hok
    | ok result =>
      rw [← hfound result hcheck, ← ih]
      cases result with
      | true => exact (and_iff_right rfl).symm
      | false =>
        exact iff_of_false (fun hok => nomatch hok)
          fun hboth => Bool.false_ne_true hboth.1

/-- The rule accepts a request when no two neighbours in its list have the same uid and each DIMM is
recognized. -/
theorem verify_eq_ok_iff (manageableDimms : List DeviceDiscovery)
    (request : MemoryAllocationRequest) :
    verify manageableDimms request = .ok () ↔
      (request.dimms.map Dimm.uid).IsChain (· ≠ ·) ∧
      ∀ dimm ∈ request.dimms, Recognized manageableDimms dimm := by
  rw [← checkifDimmsInRequestAreUnique_eq_ok_iff, ← checkIfDimmListIsValid_eq_ok_iff, verify]
  cases checkifDimmsInRequestAreUnique request.dimms with
  | error e =>
    exact iff_of_false (fun hok => nomatch hok) fun hboth => nomatch hboth.1
  | ok _ => exact (and_iff_right rfl).symm

/-! ### What is to be accepted -/

/-- The attributes of a requested DIMM are those of the device. -/
structure MatchesDevice (dimm : Dimm) (device : DeviceDiscovery) : Prop
    extends ComparedEqual dimm device where
  /-- The memory channels. -/
  channel : dimm.channel = memChannelId device

/-- The requested DIMMs are distinct, and each of them is a manageable device with its attributes. -/
structure DimmListValid (manageableDimms : List DeviceDiscovery) (dimms : List Dimm) : Prop where
  /-- The uids are distinct. -/
  distinct : (dimms.map Dimm.uid).Nodup
  /-- There is a manageable device with the uid. -/
  manageable : ∀ dimm ∈ dimms, ∃ device ∈ manageableDimms, HasUid dimm device
  /-- The device has the attributes. -/
  matchesDevice : ∀ dimm ∈ dimms, ∀ device ∈ manageableDimms, HasUid dimm device →
    MatchesDevice dimm device

/-- The rule accepts valid lists only, exactly when one of these holds: two neighbours have the same
uid; a DIMM is not recognized; or the uids are distinct and the channels are those of the devices. -/
theorem verify_sound_iff (manageableDimms : List DeviceDiscovery)
    (request : MemoryAllocationRequest) :
    (verify manageableDimms request = .ok () → DimmListValid manageableDimms request.dimms) ↔
      ¬ (request.dimms.map Dimm.uid).IsChain (· ≠ ·) ∨
      (∃ dimm ∈ request.dimms, ¬ Recognized manageableDimms dimm) ∨
      ((request.dimms.map Dimm.uid).Nodup ∧ ∀ dimm ∈ request.dimms,
        ∀ device ∈ manageableDimms, HasUid dimm device → dimm.channel = memChannelId device) := by
  rw [verify_eq_ok_iff]
  constructor
  · intro hsound
    by_cases hchain : (request.dimms.map Dimm.uid).IsChain (· ≠ ·)
    · by_cases hall : ∀ dimm ∈ request.dimms, Recognized manageableDimms dimm
      · have hvalid := hsound ⟨hchain, hall⟩
        exact Or.inr (Or.inr ⟨hvalid.distinct, fun dimm hdimm device hdevice huid =>
          (hvalid.matchesDevice dimm hdimm device hdevice huid).channel⟩)
      · push Not at hall
        exact Or.inr (Or.inl hall)
    · exact Or.inl hchain
  · rintro hcases ⟨hchain, hall⟩
    rcases hcases with hnot | ⟨dimm, hdimm, hnot⟩ | ⟨hdistinct, hchannel⟩
    · exact absurd hchain hnot
    · exact absurd (hall dimm hdimm) hnot
    · exact ⟨hdistinct, fun dimm hdimm => (hall dimm hdimm).uidExists,
        fun dimm hdimm device hdevice huid =>
          ⟨(hall dimm hdimm).comparedEqual device hdevice huid,
            hchannel dimm hdimm device hdevice huid⟩⟩

/-- A device of the first channel. -/
private def firstChannelDevice : DeviceDiscovery :=
  { vendorId := 0x8980, serialNumber := smallSerial 1, capacity := 1073741824 }

/-- The request for a device, on the given channel. -/
private def requestFor (device : DeviceDiscovery) (channel : UInt32) : Dimm where
  uid := device.uid
  capacityBytes := device.capacity
  socket := device.socketId
  memoryController := device.memoryControllerId
  channel := channel

/-- A DIMM that was requested with the uid of a device has it. -/
private theorem hasUid_requestFor (device : DeviceDiscovery) (channel : UInt32) :
    HasUid (requestFor device channel) device := by
  have hlength := device.length_uid_lt
  have hcopy : uidCopy device.uid = device.uid := by
    rw [uidCopy, device.cString_uid]
    exact List.take_of_length_le hlength.le
  show uidCmp (uidCopy device.uid) device.uid = true
  rw [hcopy, uidCmp_self]

/-- A request on the second channel for a device of the first channel is accepted. -/
theorem not_verify_sound_secondChannel :
    ¬ ∀ (manageableDimms : List DeviceDiscovery) (request : MemoryAllocationRequest),
      verify manageableDimms request = .ok () → DimmListValid manageableDimms request.dimms := by
  intro h
  have hvalid := h [firstChannelDevice] { dimms := [requestFor firstChannelDevice 1] }
    ((verify_eq_ok_iff _ _).mpr ⟨List.isChain_singleton _, List.forall_mem_singleton.mpr
      ⟨⟨_, List.mem_singleton_self _, hasUid_requestFor _ _⟩,
        List.forall_mem_singleton.mpr fun _ => ⟨rfl, rfl, rfl⟩⟩⟩)
  have hchannel := (hvalid.matchesDevice _ (List.mem_singleton_self _) _
    (List.mem_singleton_self _) (hasUid_requestFor _ _)).channel
  exact absurd hchannel (by decide)

end IxpDimm.RuleDimmListInvalid
