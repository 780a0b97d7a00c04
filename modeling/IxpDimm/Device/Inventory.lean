import IxpDimm.Common.ReturnCode
import IxpDimm.Device.Uid

/-!
# Looking devices up

The devices of a platform and the functions of `device_utilities.c` that find one of them: by its
unique id, or by the manufacturer, the serial number and the part number that platform config data of
revision 1 stores.  Each takes the first device of the list that matches.
-/

namespace IxpDimm

open Foundation

/-- What the config goal functions ask the platform for. -/
structure Platform where
  /-- `get_devices`: the devices of the platform. -/
  getDevices : Except ReturnCode (List DeviceDiscovery)
  /-- `get_pcat_revision`: the revision of the platform capabilities table. -/
  getPcatRevision : Except ReturnCode UInt8

/-- The first device that matches, as the lookups of `device_utilities.c` return it. -/
def Platform.lookup (platform : Platform) (isMatch : DeviceDiscovery → Bool) :
    Except ReturnCode DeviceDiscovery :=
  match platform.getDevices with
  | .error rc => .error rc
  | .ok devices =>
    match devices.find? isMatch with
    | some device => .ok device
    | none => .error .errBadDevice

/-- `lookup_dev_uid`. -/
def lookupDevUid (platform : Platform) (uid : Uid) : Except ReturnCode DeviceDiscovery :=
  platform.lookup fun device => uidCmp uid device.uid

/-- `exists_and_manageable`, which is called with the check of the manageability. -/
def existsAndManageable (platform : Platform) (uid : Uid) : Except ReturnCode DeviceDiscovery :=
  match lookupDevUid platform uid with
  | .error rc => .error rc
  | .ok device =>
    if device.manageability = .validConfig then .ok device else .error .errNotManageable

/-- `cmp_bytes`. -/
def cmpBytes (bytes1 bytes2 : Bytes) (len : ℕ) : Bool :=
  (List.range len).all fun i => bytes1 i == bytes2 i

/-- `lookup_dev_manufacturer_serial_part`. -/
def lookupDevManufacturerSerialPart (platform : Platform) (manufacturer serial part : Bytes) :
    Except ReturnCode DeviceDiscovery :=
  platform.lookup fun device =>
    cmpBytes (ofList device.manufacturer.toList) manufacturer 2 &&
      cmpBytes (ofList device.serialNumber.toList) serial 4 &&
      cmpBytes (ofList device.partNumber.toList) part 20

/-! ### What is found -/

/-- The bytes that two texts are compared by. -/
def uidKey (uid : Uid) : List Char := (cString uid).take commonUidLen

/-- Two texts compare equal exactly when they have the same key. -/
theorem uidCmp_iff {u v : Uid} : uidCmp u v = true ↔ uidKey u = uidKey v := beq_iff_eq

/-- The key of the text of a device is the text. -/
@[simp] theorem uidKey_uid (device : DeviceDiscovery) : uidKey device.uid = device.uid :=
  device.uidKey_uid

/-- Two ranges compare equal exactly when they have the same bytes. -/
theorem cmpBytes_iff {p q : Bytes} {len : ℕ} : cmpBytes p q len = true ↔ SameBytes p q 0 len := by
  simp [cmpBytes, SameBytes]

/-- What a lookup finds is the first device of the list that matches. -/
theorem Platform.lookup_eq_ok_iff {platform : Platform} {isMatch : DeviceDiscovery → Bool}
    {device : DeviceDiscovery} :
    platform.lookup isMatch = .ok device ↔
      ∃ devices, platform.getDevices = .ok devices ∧ devices.find? isMatch = some device := by
  unfold lookup
  cases platform.getDevices with
  | error rc => simp
  | ok devices =>
    cases hfind : devices.find? isMatch with
    | none => simp [hfind]
    | some found => simp [hfind]

/-- A device that is found by its unique id has it. -/
theorem uid_of_lookupDevUid {platform : Platform} {uid : Uid} {device : DeviceDiscovery}
    (h : lookupDevUid platform uid = .ok device) : device.uid = uidKey uid := by
  obtain ⟨devices, -, hfind⟩ := Platform.lookup_eq_ok_iff.mp h
  have hcmp := List.find?_some hfind
  rw [uidCmp_iff, uidKey_uid] at hcmp
  exact hcmp.symm

/-- A manageable device is found by its unique id. -/
theorem lookupDevUid_of_existsAndManageable {platform : Platform} {uid : Uid}
    {device : DeviceDiscovery} (h : existsAndManageable platform uid = .ok device) :
    lookupDevUid platform uid = .ok device := by
  unfold existsAndManageable at h
  cases hlookup : lookupDevUid platform uid with
  | error rc =>
    rw [hlookup] at h
    cases h
  | ok found =>
    rw [hlookup] at h
    dsimp only at h
    split_ifs at h
    exact h

end IxpDimm
