import IxpDimm.Foundation.FirstMatch
import IxpDimm.ConfigGoal.Decode
import IxpDimm.ConfigGoal.Realisable

/-!
# Config goals read back

A config goal is written to a DIMM as a config input table and read back from it after a reboot.  The
sizes, the set ids, the mirroring and the interleave formats survive; the DIMMs of a set are stored by
identifiers from which their unique ids are found or made again, and that fails for some devices.

`SetSurvives` says of an interleave set that it is read back, and `configGoal_roundTrip_iff` that a
goal is read back exactly when its sets survive.
-/

namespace IxpDimm

open Foundation

/-! ### Packed structures read back -/

section Packed

variable {m : Bytes} {a : ℕ}

/-- The fields of a partition size change table. -/
theorem read_partitionTable {table : PartitionSizeChangeExtensionTable} (h : Holds m a table.bytes) :
    extensionType m a = partitionChangeTable ∧
      extensionLength m a = partitionSizeChangeTableSize ∧
      UInt64.ofNat (readLE (view m a) 8 8) = table.partitionSize := by
  simp only [PartitionSizeChangeExtensionTable.bytes, holds_append, List.length_append, length_leList]
    at h
  obtain ⟨⟨⟨htype, hlength⟩, -⟩, hsize⟩ := h
  have hlt := table.partitionSize.toNat_lt
  refine ⟨htype.readLE, hlength.readLE, ?_⟩
  rw [readLE_view, hsize.readLE, Nat.mod_eq_of_lt (by omega), UInt64.ofNat_toNat]

/-- The fields of an interleave table, and its DIMMs behind them. -/
theorem read_interleaveTable {table : InterleaveInfoExtensionTable} (h : Holds m a table.bytes)
    (hlength : table.length < 2 ^ 16) :
    extensionType m a = interleaveTable ∧ extensionLength m a = table.length ∧
      interleaveIndex (view m a) = table.index ∧ view m a 6 = table.dimmCount ∧
      view m a 7 = table.memoryType ∧
      UInt32.ofNat (readLE (view m a) 8 4) = table.interleaveFormat ∧
      (view m a 12 ≠ 0 ↔ table.mirrorEnable = true) ∧
      Holds m (a + interleaveInfoTableSize) (table.dimms.flatMap DimmInfoExtensionTable.bytes) := by
  simp only [InterleaveInfoExtensionTable.bytes, holds_append, List.length_append, length_leList,
    List.length_cons, List.length_nil, List.length_replicate] at h
  obtain ⟨⟨⟨⟨⟨⟨⟨htype, hlen⟩, hindex⟩, hcounts⟩, hformat⟩, hmirror⟩, -⟩, hdimms⟩ := h
  have hindex_lt := table.index.toNat_lt
  have hformat_lt := table.interleaveFormat.toNat_lt
  refine ⟨htype.readLE, ?_, ?_, hcounts.apply (i := 0) (by simp), hcounts.apply (i := 1) (by simp), ?_,
    ?_, hdimms⟩
  · rw [extensionLength, hlen.readLE]
    exact Nat.mod_eq_of_lt hlength
  · rw [interleaveIndex, readLE_view, hindex.readLE, Nat.mod_eq_of_lt (by omega), UInt16.ofNat_toNat]
  · rw [readLE_view, hformat.readLE, Nat.mod_eq_of_lt (by omega), UInt32.ofNat_toNat]
  · have hbyte := hmirror.apply (i := 0) (by simp)
    have hbyte' : view m a 12 = if table.mirrorEnable then 1 else 0 := hbyte
    rw [hbyte']
    cases table.mirrorEnable <;> simp

/-- The identifier and the size of an entry for a DIMM. -/
theorem read_dimmInfo {dimm : DimmInfoExtensionTable} (h : Holds m a dimm.bytes)
    (hlength : dimm.dimmIdentifier.bytes.length = 32) :
    Holds m a dimm.dimmIdentifier.bytes ∧ UInt64.ofNat (readLE (view m a) 40 8) = dimm.size := by
  simp only [DimmInfoExtensionTable.bytes, holds_append, List.length_append, length_leList, hlength]
    at h
  obtain ⟨⟨hidentifier, -⟩, hsize⟩ := h
  have hlt := dimm.size.toNat_lt
  refine ⟨hidentifier, ?_⟩
  rw [readLE_view, hsize.readLE, Nat.mod_eq_of_lt (by omega), UInt64.ofNat_toNat]

end Packed

/-! ### The DIMMs of a set -/

/-- What identifies a device in a table of revision 1. -/
def moduleKey (device : DeviceDiscovery) : List UInt8 × List UInt8 × List UInt8 :=
  (device.manufacturer.toList, device.serialNumber.toList, device.partNumber.toList.take 20)

/-- The unique id that is read back for a device from a table of a revision. -/
def readBackUid (platform : Platform) (revision : UInt8) (device : DeviceDiscovery) : Uid :=
  if revision = 1 then
    match platform.lookup fun e => moduleKey e = moduleKey device with
    | .error _ => []
    | .ok found => found.uid
  else deviceUidBytesToString (ofList (deviceUidStringToBytes device.uid))

/-- An identifier has the size of the union. -/
theorem length_dimmIdentifierOf (revision : UInt8) (device : DeviceDiscovery) :
    (dimmIdentifierOf revision device).bytes.length = 32 := by
  unfold dimmIdentifierOf
  split_ifs
  · simp [DimmIdentifier.bytes]
  · rw [DimmIdentifier.bytes, device.deviceUidStringToBytes_uid]
    split_ifs <;> rfl

/-- Comparing the first bytes of a list with a list that is held. -/
private theorem cmpBytes_holds_iff {m : Bytes} {a n : ℕ} {l l' : List UInt8} (h : Holds m a l')
    (hl' : l'.length = n) (hl : n ≤ l.length) :
    cmpBytes (ofList l) (view m a) n = true ↔ l.take n = l' := by
  rw [cmpBytes_iff]
  constructor
  · intro hsame
    refine List.ext_getElem (by rw [List.length_take, hl']; omega) fun i hi hi' => ?_
    have hbyte := (hsame i (Nat.zero_le i) (by omega)).trans (h i (Nat.zero_le i) (by omega))
    have hlt : i < l.length := by omega
    simpa [ofList, hlt, hi'] using hbyte
  · rintro rfl i hi hlt
    rw [h i hi (by omega)]
    have hlt' : i < l.length := by omega
    simp [ofList, hlt', show i < n by omega]

/-- The bytes of an identifier of revision 1 are looked up as the module that they are of. -/
private theorem lookup_identifier {platform : Platform} {m : Bytes} {a : ℕ} {device : DeviceDiscovery}
    (h : Holds m a (dimmIdentifierOf 1 device).bytes) :
    lookupDevManufacturerSerialPart platform (view m a) (view (view m a) 2) (view (view m a) 6) =
      platform.lookup fun e => moduleKey e = moduleKey device := by
  simp only [dimmIdentifierOf, if_true, DimmIdentifier.bytes, holds_append, List.length_append,
    Vector.length_toList] at h
  obtain ⟨⟨⟨hmanufacturer, hserial⟩, hpart⟩, -⟩ := h
  unfold lookupDevManufacturerSerialPart
  congr 1
  funext e
  have h₁ := cmpBytes_holds_iff (l := e.manufacturer.toList) hmanufacturer (n := 2) (by simp) (by simp)
  have h₂ := cmpBytes_holds_iff (l := e.serialNumber.toList) hserial (n := 4) (by simp) (by simp)
  have h₃ := cmpBytes_holds_iff (l := e.partNumber.toList) hpart (n := 20) (by simp) (by simp)
  rw [List.take_of_length_le (by simp)] at h₁ h₂
  rw [view_view, view_view, Bool.eq_iff_iff, Bool.and_eq_true, Bool.and_eq_true, h₁, h₂, h₃]
  simp [moduleKey, and_assoc]

/-- The unique id that is read back for an entry. -/
theorem getDeviceUid_identifier {platform : Platform} {m : Bytes} {a : ℕ} {revision : UInt8}
    {device : DeviceDiscovery} (h : Holds m a (dimmIdentifierOf revision device).bytes) :
    getDeviceUidFromDimmInterleaveInfoTable platform (view m a) revision [] =
      readBackUid platform revision device := by
  unfold getDeviceUidFromDimmInterleaveInfoTable readBackUid
  split_ifs with hrevision
  · subst hrevision
    exact congrArg (fun found : Except ReturnCode DeviceDiscovery =>
      match found with
      | .error _ => []
      | .ok device => device.uid) (lookup_identifier h)
  · have hbytes : SameBytes (view m a) (ofList (deviceUidStringToBytes device.uid)) 0 9 := by
      have hlength : (deviceUidStringToBytes device.uid).length = 9 := by
        rw [device.deviceUidStringToBytes_uid]
        split_ifs <;> rfl
      simp only [dimmIdentifierOf, if_neg hrevision, DimmIdentifier.bytes, holds_append] at h
      have huid := h.1
      unfold Holds at huid
      rwa [hlength] at huid
    exact deviceUidBytesToString_congr hbytes

/-- The loop over the DIMMs of a set reads them back behind those that have been read. -/
theorem decodeDimms_populated {platform : Platform} {deviceUid : Uid} {m : Bytes}
    {tableLength : ℕ} {sizeGiB offsetGiB : UInt64} (devices : List DeviceDiscovery) {a : ℕ}
    {dimms : List Uid} {size : UInt64}
    (h : Holds m a ((populateDimmInfoExtensionTable (headerRevision m) devices sizeGiB
      offsetGiB).flatMap DimmInfoExtensionTable.bytes))
    (hroom : a + dimmInfoTableSize * devices.length ≤ tableLength) :
    decodeDimms platform deviceUid m tableLength devices.length dimms.length a dimms size =
      (.success, dimms ++ devices.map (readBackUid platform (headerRevision m)),
        if devices.any fun d => uidCmp (readBackUid platform (headerRevision m) d) deviceUid then
          sizeGiB * bytesPerGiB / bytesPerGiB
        else size) := by
  induction devices generalizing a dimms size with
  | nil => simp [decodeDimms]
  | cons device devices ih =>
    rw [List.length_cons, Nat.mul_succ] at hroom
    simp only [populateDimmInfoExtensionTable, List.map_cons, List.flatMap_cons] at h
    obtain ⟨hfirst, hrest⟩ := holds_append.mp h
    have hidentifier := length_dimmIdentifierOf (headerRevision m) device
    obtain ⟨hbytes, hsize⟩ := read_dimmInfo hfirst hidentifier
    have hlength : (DimmInfoExtensionTable.bytes ⟨dimmIdentifierOf (headerRevision m) device,
        offsetGiB * bytesPerGiB, sizeGiB * bytesPerGiB⟩).length = dimmInfoTableSize := by
      simp [DimmInfoExtensionTable.bytes, hidentifier, dimmInfoTableSize]
    rw [hlength] at hrest
    have hold : dimms.getD dimms.length [] = [] := by simp
    have hset : ∀ uid, setEntry dimms dimms.length uid = dimms ++ [uid] := fun uid => by
      simp [setEntry]
    have hnext : dimms.length + 1 =
        (dimms ++ [readBackUid platform (headerRevision m) device]).length := by simp
    rw [List.length_cons, decodeDimms, if_neg (by omega)]
    dsimp only
    rw [hold, getDeviceUid_identifier hbytes, hset, hsize, hnext, ih hrest (by omega),
      List.append_assoc, List.singleton_append, List.map_cons, List.any_cons]
    cases uidCmp (readBackUid platform (headerRevision m) device) deviceUid <;> simp

/-! ### Which DIMMs are read back -/

/-- A device can be told from its identifier in a table of a revision: in revision 1, the first device
of the platform with the same manufacturer, serial number and part number has its unique id; later,
its manufacturing data is not said to be valid and zero. -/
def Identifiable (platform : Platform) (revision : UInt8) (device : DeviceDiscovery) : Prop :=
  if revision = 1 then
    ∃ found, (platform.lookup fun e => moduleKey e = moduleKey device) = .ok found ∧
      found.uid = device.uid
  else ¬ device.HasBlankManufacturingInfo

/-- Two lists hold the same unique ids, as they are compared by `uid_cmp`. -/
def SameUids (uids uids' : List Uid) : Prop :=
  ∀ uid, (∃ u ∈ uids, uidCmp u uid = true) ↔ ∃ u ∈ uids', uidCmp u uid = true

/-- The unique id of a device is read back exactly when the device can be told. -/
theorem readBackUid_eq_iff (platform : Platform) (revision : UInt8) (device : DeviceDiscovery) :
    readBackUid platform revision device = device.uid ↔ Identifiable platform revision device := by
  unfold readBackUid Identifiable
  split_ifs with hrevision
  · cases hlookup : platform.lookup fun e => moduleKey e = moduleKey device with
    | error rc => simp [device.uid_ne_nil.symm]
    | ok found => simp
  · constructor
    · exact fun heq hblank => device.deviceUidBytesToString_ne_uid hblank _ heq
    · exact fun hsome => device.deviceUidBytesToString_uid hsome fun _ _ _ => rfl

/-! ### The devices of a set -/

section Devices

variable {platform : Platform} {qos : AppDirectAttributes} {devices : List DeviceDiscovery}
  {revision : UInt8}

/-- The devices that are found for unique ids, and the ids they are found for. -/
private theorem mem_getDevices_iff {uids : List Uid} {found : List DeviceDiscovery}
    (h : getDevicesFromAppdirectAttributes platform uids = .ok found) (device : DeviceDiscovery) :
    device ∈ found ↔ ∃ uid ∈ uids, lookupDevUid platform uid = .ok device := by
  induction uids generalizing found with
  | nil =>
    obtain rfl := Except.ok.inj h
    simp
  | cons uid uids ih =>
    unfold getDevicesFromAppdirectAttributes at h
    split at h
    · cases h
    · next first hfirst =>
      split at h
      · cases h
      · next rest hrest =>
        obtain rfl := Except.ok.inj h
        rw [List.mem_cons, ih hrest, List.exists_mem_cons_iff,
          lookupDevUid_of_existsAndManageable hfirst]
        simp [eq_comm]

/-- Every unique id that is looked up is found. -/
private theorem exists_of_mem_getDevices {uids : List Uid} {found : List DeviceDiscovery}
    (h : getDevicesFromAppdirectAttributes platform uids = .ok found) {uid : Uid}
    (huid : uid ∈ uids) : ∃ device ∈ found, lookupDevUid platform uid = .ok device := by
  induction uids generalizing found with
  | nil => cases huid
  | cons uid' uids ih =>
    unfold getDevicesFromAppdirectAttributes at h
    split at h
    · cases h
    · next first hfirst =>
      split at h
      · cases h
      · next rest hrest =>
        obtain rfl := Except.ok.inj h
        rcases List.mem_cons.mp huid with rfl | huid
        · exact ⟨first, List.mem_cons_self, lookupDevUid_of_existsAndManageable hfirst⟩
        · obtain ⟨device, hmem, hlookup⟩ := ih hrest huid
          exact ⟨device, List.mem_cons_of_mem first hmem, hlookup⟩

/-- The devices of a set are those that its DIMMs are looked up as. -/
theorem SetDevices.mem_iff (h : SetDevices platform qos devices) (device : DeviceDiscovery) :
    device ∈ devices ↔ ∃ uid ∈ qos.setDimms, lookupDevUid platform uid = .ok device := by
  obtain ⟨pcatRevision, -, hdevices⟩ := h
  obtain ⟨found, hfound, hperm, -⟩ := devicesOfSet_ok hdevices
  rw [hperm.mem_iff, mem_getDevices_iff hfound]

/-- A set has as many devices as ways, between one and six. -/
theorem SetDevices.length (h : SetDevices platform qos devices) :
    devices.length = qos.interleave.ways.count ∧ 0 < devices.length ∧ devices.length ≤ 6 := by
  obtain ⟨pcatRevision, -, hdevices⟩ := h
  obtain ⟨found, -, -, hlength⟩ := devicesOfSet_ok hdevices
  exact hlength

/-- The unique ids of a set are those of its devices. -/
theorem SetDevices.exists_uid_iff (h : SetDevices platform qos devices) (uid : Uid) :
    (∃ u ∈ qos.setDimms, uidCmp u uid = true) ↔ ∃ device ∈ devices, device.uid = uidKey uid := by
  constructor
  · rintro ⟨u, hu, hcmp⟩
    obtain ⟨pcatRevision, -, hdevices⟩ := h
    obtain ⟨found, hfound, hperm, -⟩ := devicesOfSet_ok hdevices
    obtain ⟨device, hmem, hlookup⟩ := exists_of_mem_getDevices hfound hu
    exact ⟨device, hperm.mem_iff.mpr hmem,
      (uid_of_lookupDevUid hlookup).trans (uidCmp_iff.mp hcmp)⟩
  · rintro ⟨device, hmem, huid⟩
    obtain ⟨u, hu, hlookup⟩ := (h.mem_iff device).mp hmem
    exact ⟨u, hu, uidCmp_iff.mpr ((uid_of_lookupDevUid hlookup).symm.trans huid)⟩

/-- The text that is read back is its own key. -/
private theorem uidKey_readBackUid (device : DeviceDiscovery) :
    uidKey (readBackUid platform revision device) = readBackUid platform revision device := by
  unfold readBackUid
  split_ifs
  · split
    · rfl
    · exact uidKey_uid _
  · exact uidKey_deviceUidBytesToString _

/-- The unique ids that are read back, as they are compared. -/
private theorem exists_readBackUid_iff (uid : Uid) :
    (∃ u ∈ devices.map (readBackUid platform revision), uidCmp u uid = true) ↔
      ∃ device ∈ devices, readBackUid platform revision device = uidKey uid := by
  simp [uidCmp_iff, uidKey_readBackUid]

/-- In revision 1 a device of the platform is read back as one of the platform. -/
private theorem readBackUid_of_lookup {device : DeviceDiscovery} {uid : Uid}
    (h : lookupDevUid platform uid = .ok device) :
    ∃ list back, platform.getDevices = .ok list ∧
      firstMatch DeviceDiscovery.uid list device.uid = some device ∧
      firstMatch moduleKey list (moduleKey device) = some back ∧
      readBackUid platform 1 device = back.uid := by
  obtain ⟨list, hlist, hfind⟩ := Platform.lookup_eq_ok_iff.mp h
  have huid := uid_of_lookupDevUid h
  have hmem := List.mem_of_find?_eq_some hfind
  obtain ⟨back, hback⟩ : ∃ back, firstMatch moduleKey list (moduleKey device) = some back := by
    rw [← Option.isSome_iff_exists, firstMatch, List.find?_isSome]
    exact ⟨device, hmem, by simp⟩
  refine ⟨list, back, hlist, ?_, hback, ?_⟩
  · rw [firstMatch, ← hfind]
    congr 1
    funext e
    rw [Bool.eq_iff_iff, uidCmp_iff, decide_eq_true_iff, uidKey_uid, huid, eq_comm]
  · have hlookup : (platform.lookup fun e => moduleKey e = moduleKey device) = .ok back :=
      Platform.lookup_eq_ok_iff.mpr ⟨list, hlist, hback⟩
    rw [readBackUid, if_pos rfl, hlookup]

/-- The unique ids of a set are read back exactly when each of its devices can be told. -/
theorem sameUids_readBack_iff (h : SetDevices platform qos devices) :
    SameUids qos.setDimms (devices.map (readBackUid platform revision)) ↔
      ∀ device ∈ devices, Identifiable platform revision device := by
  simp only [SameUids, h.exists_uid_iff, exists_readBackUid_iff, ← readBackUid_eq_iff]
  constructor
  · intro hsame
    -- each device of the set is what some device of the set is read back as
    have hsurj : ∀ device ∈ devices, ∃ device' ∈ devices,
        readBackUid platform revision device' = device.uid := by
      intro device hmem
      have hread := (hsame device.uid).mp ⟨device, hmem, (uidKey_uid device).symm⟩
      rwa [uidKey_uid] at hread
    by_cases hrevision : revision = 1
    · subst hrevision
      cases hlist : platform.getDevices with
      | error rc =>
        intro device hmem
        obtain ⟨uid, -, hlookup⟩ := (h.mem_iff device).mp hmem
        obtain ⟨list, -, hlist', -⟩ := readBackUid_of_lookup hlookup
        rw [hlist] at hlist'
        cases hlist'
      | ok list =>
        have hfirst : ∀ device ∈ devices, ∃ back,
            firstMatch DeviceDiscovery.uid list device.uid = some device ∧
            firstMatch moduleKey list (moduleKey device) = some back ∧
            readBackUid platform 1 device = back.uid := by
          intro device hmem
          obtain ⟨uid, -, hlookup⟩ := (h.mem_iff device).mp hmem
          obtain ⟨list', back, hlist', hfound⟩ := readBackUid_of_lookup hlookup
          rw [hlist] at hlist'
          obtain rfl := Except.ok.inj hlist'
          exact ⟨back, hfound⟩
        choose! back hback using hfirst
        have hkeys := @key_eq_of_surjective _ _ _ _ _ DeviceDiscovery.uid moduleKey list
          devices.toFinset back
          (fun a ha => (hback a (List.mem_toFinset.mp ha)).1)
          (fun a ha => (hback a (List.mem_toFinset.mp ha)).2.1)
          (fun a ha => by
            obtain ⟨a', ha', hread⟩ := hsurj a (List.mem_toFinset.mp ha)
            exact ⟨a', List.mem_toFinset.mpr ha', by rw [← (hback a' ha').2.2, hread]⟩)
        intro device hmem
        rw [(hback device hmem).2.2, hkeys device (List.mem_toFinset.mpr hmem)]
    · intro device hmem
      rw [readBackUid_eq_iff, Identifiable, if_neg hrevision]
      intro hblank
      obtain ⟨device', -, hread⟩ := hsurj device hmem
      rw [readBackUid, if_neg hrevision] at hread
      exact device.deviceUidBytesToString_ne_uid hblank _ hread
  · intro hback uid
    exact exists_congr fun device => and_congr_right fun hmem => by rw [hback device hmem]

end Devices

/-! ### Goals that are read back -/

/-- An interleave set is the same as another, up to the order of its DIMMs. -/
structure SameSet (size size' : UInt64) (setId setId' : UInt16) (qos qos' : AppDirectAttributes) :
    Prop where
  /-- The size on the DIMM. -/
  size : size' = size
  /-- The set id. -/
  setId : setId' = setId
  /-- Whether the set is mirrored. -/
  mirrored : qos'.mirrored = qos.mirrored
  /-- The number of ways. -/
  ways : qos'.interleave.ways = qos.interleave.ways
  /-- The interleave size of the channel. -/
  channel : qos'.interleave.channel = qos.interleave.channel
  /-- The interleave size of the memory controller. -/
  imc : qos'.interleave.imc = qos.interleave.imc
  /-- The DIMMs of the set. -/
  dimms : SameUids qos.setDimms qos'.setDimms

/-- A goal is the same as another, up to the order of the DIMMs in its interleave sets. -/
structure SameGoal (goal goal' : ConfigGoal) : Prop where
  /-- The size for memory mode. -/
  memorySize : goal'.memorySize = goal.memorySize
  /-- The number of interleave sets. -/
  appDirectCount : goal'.appDirectCount = goal.appDirectCount
  /-- The first interleave set, if there is one. -/
  first : 0 < goal.appDirectCount →
    SameSet goal.appDirect1Size goal'.appDirect1Size goal.appDirect1SetId goal'.appDirect1SetId
      goal.appDirect1Settings goal'.appDirect1Settings
  /-- The second interleave set, if there is one. -/
  second : 1 < goal.appDirectCount →
    SameSet goal.appDirect2Size goal'.appDirect2Size goal.appDirect2SetId goal'.appDirect2SetId
      goal.appDirect2Settings goal'.appDirect2Settings

/-- An interleave set survives in a table of a revision: its size is not one that the check only
accepts because the doubled size wraps, and each of its devices can be told. -/
def SetSurvives (platform : Platform) (revision : UInt8) (size : UInt64) (qos : AppDirectAttributes) :
    Prop :=
  (qos.mirrored = true → size.toNat < 2 ^ 63) ∧
    ∀ uid ∈ qos.setDimms, ∀ device, lookupDevUid platform uid = .ok device →
      Identifiable platform revision device

/-- The attributes that a set is read back with. -/
def readBackSettings (platform : Platform) (revision : UInt8) (qos : AppDirectAttributes)
    (devices : List DeviceDiscovery) : AppDirectAttributes where
  interleave := qos.interleave
  mirrored := qos.mirrored
  dimms := devices.map (readBackUid platform revision)

/-- The size that a set is read back with for a DIMM. -/
def readBackSize (platform : Platform) (deviceUid : Uid) (revision : UInt8) (sizeGiB : UInt64)
    (devices : List DeviceDiscovery) : UInt64 :=
  if devices.any fun d => uidCmp (readBackUid platform revision d) deviceUid then
    sizeGiB * bytesPerGiB / bytesPerGiB
  else 0

/-- The DIMMs of the attributes that a set is read back with. -/
private theorem setDimms_readBackSettings {platform : Platform} {qos : AppDirectAttributes}
    {devices : List DeviceDiscovery} {revision : UInt8} (h : SetDevices platform qos devices) :
    (readBackSettings platform revision qos devices).setDimms =
      devices.map (readBackUid platform revision) := by
  obtain ⟨hlength, -⟩ := h.length
  unfold AppDirectAttributes.setDimms readBackSettings
  dsimp only
  rw [← hlength]
  refine List.ext_getElem (by simp) fun i hi hi' => ?_
  have hlt : i < devices.length := by simpa using hi
  simp [hlt]

/-- A size is stored modulo `2 ^ 34`. -/
private theorem toNat_stored (size : UInt64) :
    (size * bytesPerGiB / bytesPerGiB).toNat = size.toNat % 2 ^ 34 := by
  rw [UInt64.toNat_div, toNat_mul_bytesPerGiB, toNat_bytesPerGiB]
  omega

/-- An accepted size is stored as it is exactly when it does not rely on the wrapping. -/
private theorem stored_eq_iff {size : UInt64} {mirrored : Bool}
    (hsize : if mirrored then size.toNat % 2 ^ 63 < 2 ^ 33 else size.toNat < 2 ^ 34) :
    size * bytesPerGiB / bytesPerGiB = size ↔ (mirrored = true → size.toNat < 2 ^ 63) := by
  have hlt := size.toNat_lt
  rw [← UInt64.toNat_inj, toNat_stored]
  cases mirrored with
  | false =>
    simp only [Bool.false_eq_true, if_false] at hsize
    exact iff_of_true (Nat.mod_eq_of_lt hsize) fun h => by cases h
  | true =>
    simp only [if_true] at hsize
    simp only [true_imp_iff]
    omega

/-- A set is read back exactly when it survives. -/
theorem sameSet_readBack_iff {platform : Platform} {qos : AppDirectAttributes} {deviceUid : Uid}
    {devices : List DeviceDiscovery} {size : UInt64} (revision : UInt8) (setId : UInt16)
    (h : SetDevices platform qos devices) (hzero : size ≠ 0)
    (hsize : if qos.mirrored then size.toNat % 2 ^ 63 < 2 ^ 33 else size.toNat < 2 ^ 34)
    (htarget : ∃ u ∈ qos.setDimms, uidCmp u deviceUid = true) :
    SameSet size (readBackSize platform deviceUid revision size devices) setId setId qos
        (readBackSettings platform revision qos devices) ↔
      SetSurvives platform revision size qos := by
  have htell : (∀ device ∈ devices, Identifiable platform revision device) ↔
      ∀ uid ∈ qos.setDimms, ∀ device, lookupDevUid platform uid = .ok device →
        Identifiable platform revision device := by
    constructor
    · exact fun hall uid huid device hlookup =>
        hall device ((h.mem_iff device).mpr ⟨uid, huid, hlookup⟩)
    · intro hall device hmem
      obtain ⟨uid, huid, hlookup⟩ := (h.mem_iff device).mp hmem
      exact hall uid huid device hlookup
  unfold SetSurvives
  rw [← htell, ← sameUids_readBack_iff h, ← setDimms_readBackSettings h, ← stored_eq_iff hsize]
  constructor
  · intro hsame
    refine ⟨?_, hsame.dimms⟩
    have hsize := hsame.size
    unfold readBackSize at hsize
    split_ifs at hsize
    · exact hsize
    · exact absurd hsize.symm hzero
  · rintro ⟨hstored, hdimms⟩
    refine ⟨?_, rfl, rfl, rfl, rfl, rfl, hdimms⟩
    rw [setDimms_readBackSettings h] at hdimms
    obtain ⟨u, hu, hcmp⟩ := (hdimms deviceUid).mp htarget
    obtain ⟨device, hmem, rfl⟩ := List.mem_map.mp hu
    have hany : (devices.any fun d => uidCmp (readBackUid platform revision d) deviceUid) = true :=
      List.any_eq_true.mpr ⟨device, hmem, hcmp⟩
    rw [readBackSize, hany, if_pos rfl, hstored]

/-! ### The walk over the table -/

section Walk

variable {platform : Platform} {deviceUid : Uid} {m : Bytes} {a tableLength : ℕ} {goal : ConfigGoal}
  {qos : AppDirectAttributes} {sizeGiB offsetGiB : UInt64} {setId : UInt16}
  {devices : List DeviceDiscovery}

/-- The parts of a config input table. -/
theorem read_configInputTable {table : ConfigInputTable} (h : Holds m 0 table.bytes) :
    headerRevision m = table.revision ∧ Holds m 48 table.partitionTable.bytes ∧
      Holds m 64 (table.interleaveTables.flatMap InterleaveInfoExtensionTable.bytes) := by
  simp only [ConfigInputTable.bytes, PartitionSizeChangeExtensionTable.bytes, holds_append,
    List.length_append, length_leList, List.length_cons, List.length_nil, List.length_replicate,
    TableKind.signature] at h
  obtain ⟨⟨⟨⟨⟨⟨⟨⟨⟨⟨⟨-, -⟩, hrevision⟩, -⟩, -⟩, -⟩, -⟩, -⟩, -⟩, -⟩, hpartition⟩, htables⟩ := h
  refine ⟨hrevision.apply (i := 0) (by simp), ?_, htables⟩
  simpa only [PartitionSizeChangeExtensionTable.bytes, holds_append, List.length_append,
    length_leList] using hpartition

/-- The length of the table of a set. -/
theorem length_tableOfSet (revision : UInt8) :
    (tableOfSet qos sizeGiB offsetGiB setId revision devices).length = 24 + 48 * devices.length := by
  simp [InterleaveInfoExtensionTable.length, tableOfSet, populateDimmInfoExtensionTable,
    interleaveInfoTableSize, dimmInfoTableSize]

/-- The bytes of the table of a set. -/
theorem length_bytes_tableOfSet (revision : UInt8) :
    (tableOfSet qos sizeGiB offsetGiB setId revision devices).bytes.length =
      24 + 48 * devices.length := by
  have hdimms : ((populateDimmInfoExtensionTable revision devices sizeGiB offsetGiB).flatMap
      DimmInfoExtensionTable.bytes).length = 48 * devices.length := by
    unfold populateDimmInfoExtensionTable
    induction devices with
    | nil => rfl
    | cons device devices ih =>
      rw [List.map_cons, List.flatMap_cons, List.length_append, ih, List.length_cons]
      simp only [DimmInfoExtensionTable.bytes, List.length_append, length_leList,
        length_dimmIdentifierOf]
      omega
  simp only [InterleaveInfoExtensionTable.bytes, List.length_append, length_leList, List.length_cons,
    List.length_nil, List.length_replicate, tableOfSet, hdimms]

/-- The size for memory mode is what the partition leaves. -/
private theorem memorySize_of_partition {goal : ConfigGoal} {discovery : DeviceDiscovery}
    (hexplicit : goal.memorySize ≠ remainingSize)
    (hfits : goal.memorySize.toNat ≤ wholeGiB discovery.capacity) :
    (if (configGoalToPartitionExtTable goal discovery).partitionSize ≠ 0 then
      usableCapacityBytes discovery.capacity / bytesPerGiB -
        (configGoalToPartitionExtTable goal discovery).partitionSize / bytesPerGiB
    else usableCapacityBytes discovery.capacity / bytesPerGiB) = goal.memorySize := by
  have hwhole := wholeGiB_lt discovery.capacity
  have husable : (usableCapacityBytes discovery.capacity / bytesPerGiB).toNat =
      wholeGiB discovery.capacity := by
    rw [UInt64.toNat_div, toNat_usableCapacityBytes, toNat_bytesPerGiB]
    omega
  -- the partition has the whole GiB that memory mode leaves
  have hpartition : ((configGoalToPartitionExtTable goal discovery).partitionSize /
      bytesPerGiB).toNat = wholeGiB discovery.capacity - goal.memorySize.toNat := by
    unfold configGoalToPartitionExtTable
    rw [if_neg hexplicit, UInt64.toNat_div, toNat_bytesPerGiB]
    split_ifs with hzero
    · rw [hzero, UInt64.toNat_zero, Nat.sub_zero, wholeGiB]
    · have hbytes := toNat_mul_bytesPerGiB goal.memorySize
      rw [Nat.mod_eq_of_lt (by omega)] at hbytes
      rw [toNat_sub_of_toNat_le (by rw [toNat_usableCapacityBytes, hbytes]; omega),
        toNat_usableCapacityBytes, hbytes]
      omega
  refine UInt64.toNat_inj.mp ?_
  split_ifs with hsome
  · rw [toNat_sub_of_toNat_le (by rw [hpartition, husable]; omega), hpartition, husable]
    omega
  · rw [not_not.mp hsome] at hpartition
    have hnone : wholeGiB discovery.capacity - goal.memorySize.toNat = 0 := hpartition.symm
    rw [husable]
    omega

/-- The partition size change table is read. -/
theorem decodeEntry_partition {discovery : DeviceDiscovery} {goal₀ : ConfigGoal}
    (h : Holds m a (configGoalToPartitionExtTable goal₀ discovery).bytes)
    (hroom : a + 16 ≤ tableLength) (hlength : tableLength < 2 ^ 32)
    (hlookup : lookupDevUid platform deviceUid = .ok discovery)
    (hexplicit : goal₀.memorySize ≠ remainingSize)
    (hfits : goal₀.memorySize.toNat ≤ wholeGiB discovery.capacity) :
    decodeEntry platform deviceUid m tableLength (a, goal) =
      .inl (a + 16, { goal with memorySize := goal₀.memorySize }) := by
  obtain ⟨htype, hlen, hsize⟩ := read_partitionTable h
  have hnext : (a + extensionLength m a) % 2 ^ 32 = a + 16 := by
    rw [hlen, partitionSizeChangeTableSize]
    omega
  have hmemory : decodePartition platform deviceUid (view m a) goal =
      (.success, { goal with memorySize := goal₀.memorySize }) := by
    unfold decodePartition
    rw [hlookup]
    dsimp only
    rw [hsize, memorySize_of_partition hexplicit hfits]
  unfold decodeEntry decodeExtension
  dsimp only
  rw [hnext, if_pos (by omega), if_neg (by omega), if_pos htype, hmemory]

/-- The table of an interleave set is read by the part for App Direct sets. -/
theorem decodeEntry_tableOfSet {rc : ReturnCode} {decoded : ConfigGoal}
    (hdevices : SetDevices platform qos devices)
    (h : Holds m a (tableOfSet qos sizeGiB offsetGiB setId (headerRevision m) devices).bytes)
    (hroom : a + (24 + 48 * devices.length) ≤ tableLength) (hlength : tableLength < 2 ^ 32)
    (hdecoded : decodeAppDirect platform deviceUid m tableLength a goal = (rc, decoded)) :
    decodeEntry platform deviceUid m tableLength (a, goal) =
      if rc = .success then .inl (a + (24 + 48 * devices.length), decoded)
      else .inr (rc, decoded) := by
  have hsmall := hdevices.length
  obtain ⟨htype, hlen, -, -, hmemory, -⟩ := read_interleaveTable h
    (by rw [length_tableOfSet]; omega)
  rw [length_tableOfSet] at hlen
  have hnext : (a + extensionLength m a) % 2 ^ 32 = a + (24 + 48 * devices.length) := by
    rw [hlen]
    omega
  have hnot : ¬ extensionType m a = partitionChangeTable := by
    rw [htype]
    decide
  have happDirect : view m a 7 = interleaveMemoryTypeAppDirect := hmemory
  have hread : decodeExtension platform deviceUid m tableLength a goal = (rc, decoded) := by
    unfold decodeExtension
    dsimp only
    rw [if_neg hnot, if_pos htype, if_pos happDirect, hdecoded]
  unfold decodeEntry
  dsimp only
  rw [hnext, if_pos (by omega), if_neg (by omega), hread]
  by_cases hrc : rc = .success
  · rw [if_pos hrc, hrc]
  · rw [if_neg hrc]
    split
    · next heq => exact absurd (congrArg Prod.fst heq) hrc
    · next heq =>
      obtain ⟨rfl, rfl⟩ := Prod.mk.inj heq
      rfl

variable (deviceUid) in
/-- What is read for an interleave set into a slot that is still zeroed. -/
private theorem decodeDimms_tableOfSet (hdevices : SetDevices platform qos devices)
    (h : Holds m a (tableOfSet qos sizeGiB offsetGiB setId (headerRevision m) devices).bytes)
    (hroom : a + (24 + 48 * devices.length) ≤ tableLength) (hlength : tableLength < 2 ^ 32) :
    interleaveIndex (view m a) = setId ∧
      decodeSettings (view m a) {} = { qos with dimms := [] } ∧
      decodeDimms platform deviceUid m tableLength (view m a 6).toNat 0
          ((a + interleaveInfoTableSize) % 2 ^ 32) [] 0 =
        (.success, devices.map (readBackUid platform (headerRevision m)),
          readBackSize platform deviceUid (headerRevision m) sizeGiB devices) := by
  obtain ⟨hways, hpos, hsmall⟩ := hdevices.length
  obtain ⟨-, -, hindex, hcount, -, hformat, hmirror, hdimms⟩ := read_interleaveTable h
    (by rw [length_tableOfSet]; omega)
  have hcount' : (view m a 6).toNat = devices.length := by
    rw [hcount, hways]
    exact UInt8.toNat_ofNat_of_lt' (by rw [← hways]; exact Nat.lt_of_le_of_lt hsmall (by decide))
  have hoffset : (a + interleaveInfoTableSize) % 2 ^ 32 = a + interleaveInfoTableSize := by
    unfold interleaveInfoTableSize
    omega
  refine ⟨hindex, ?_, ?_⟩
  · have hmirrored : decide (view m a 12 ≠ 0) = qos.mirrored := by
      rw [Bool.eq_iff_iff, decide_eq_true_iff, hmirror]
      rfl
    unfold decodeSettings
    rw [hformat, hmirrored]
    simp only [tableOfSet, interleaveFormatToStruct_toFormat]
  · rw [hcount', hoffset]
    have hread : decodeDimms platform deviceUid m tableLength devices.length ([] : List Uid).length
        (a + interleaveInfoTableSize) [] 0 = _ :=
      decodeDimms_populated devices hdimms
        (by unfold interleaveInfoTableSize dimmInfoTableSize; omega)
    exact hread

/-- The first interleave set is read into a goal without sets. -/
theorem decodeAppDirect_first (hdevices : SetDevices platform qos devices)
    (h : Holds m a (tableOfSet qos sizeGiB offsetGiB setId (headerRevision m) devices).bytes)
    (hroom : a + (24 + 48 * devices.length) ≤ tableLength) (hlength : tableLength < 2 ^ 32)
    (hsize : goal.appDirect1Size = 0) (hsettings : goal.appDirect1Settings = {}) :
    decodeAppDirect platform deviceUid m tableLength a goal =
      (.success, { goal with
        appDirectCount := 1
        appDirect1SetId := setId
        appDirect1Settings := readBackSettings platform (headerRevision m) qos devices
        appDirect1Size := readBackSize platform deviceUid (headerRevision m) sizeGiB devices }) := by
  obtain ⟨hindex, hqos, hdimms⟩ := decodeDimms_tableOfSet deviceUid hdevices h hroom hlength
  unfold decodeAppDirect
  dsimp only
  rw [hsize, if_neg (not_not.mpr rfl), hsettings, hqos]
  dsimp only
  rw [hdimms, hindex]
  rfl

/-- The second interleave set is read behind a first one with a size. -/
theorem decodeAppDirect_second (hdevices : SetDevices platform qos devices)
    (h : Holds m a (tableOfSet qos sizeGiB offsetGiB setId (headerRevision m) devices).bytes)
    (hroom : a + (24 + 48 * devices.length) ≤ tableLength) (hlength : tableLength < 2 ^ 32)
    (hfirst : goal.appDirect1Size ≠ 0) (hsize : goal.appDirect2Size = 0)
    (hsettings : goal.appDirect2Settings = {}) :
    decodeAppDirect platform deviceUid m tableLength a goal =
      (.success, { goal with
        appDirectCount := 2
        appDirect2SetId := setId
        appDirect2Settings := readBackSettings platform (headerRevision m) qos devices
        appDirect2Size := readBackSize platform deviceUid (headerRevision m) sizeGiB devices }) := by
  obtain ⟨hindex, hqos, hdimms⟩ := decodeDimms_tableOfSet deviceUid hdevices h hroom hlength
  unfold decodeAppDirect
  dsimp only
  rw [if_pos hfirst, hsize, if_neg (not_not.mpr rfl), hsettings, hqos]
  dsimp only
  rw [hdimms, hindex]
  rfl

/-- Without a size of the first interleave set, the next one is taken for the first. -/
theorem appDirectCount_decodeAppDirect (hsize : goal.appDirect1Size = 0) :
    (decodeAppDirect platform deviceUid m tableLength a goal).2.appDirectCount = 1 := by
  unfold decodeAppDirect
  dsimp only
  rw [if_neg (not_not.mpr hsize)]

end Walk

/-! ### Accepted goals with given sizes -/

section Accepted

variable {goal : ConfigGoal} {capabilities : PlatformCapabilities} {discovery : DeviceDiscovery}

/-- The size of an accepted set that is given. -/
def GivenSize (size : UInt64) (mirrored : Bool) : Prop :=
  size ≠ 0 ∧ if mirrored then size.toNat % 2 ^ 63 < 2 ^ 33 else size.toNat < 2 ^ 34

/-- The sizes of an accepted goal that are given. -/
theorem given_of_validateConfigGoal
    (h : validateConfigGoal goal capabilities discovery = .success)
    (hmemory : goal.memorySize ≠ remainingSize)
    (hfirst : 0 < goal.appDirectCount → goal.appDirect1Size ≠ remainingSize)
    (hsecond : 1 < goal.appDirectCount → goal.appDirect2Size ≠ remainingSize) :
    goal.memorySize.toNat ≤ wholeGiB discovery.capacity ∧
      (0 < goal.appDirectCount →
        GivenSize goal.appDirect1Size goal.appDirect1Settings.mirrored) ∧
      (1 < goal.appDirectCount →
        GivenSize goal.appDirect2Size goal.appDirect2Settings.mirrored) := by
  obtain ⟨-, -, remaining, hremaining, rest, hsets⟩ := validateConfigGoal_success h
  obtain ⟨hused, hleft, hsmall⟩ :=
    validateInterleaveSetSize_ok (toNat_usableCapacityBytes discovery.capacity) hremaining
  have hsmall := hsmall hmemory
  simp only [usedGiB, if_neg hmemory, Bool.false_eq_true, if_false] at hused hsmall
  refine ⟨by omega, fun hpos => ?_, fun htwo => ?_⟩
  · have hpos' : goal.appDirectCount.toNat = goal.appDirectCount.toNat - 1 + 1 := by
      have := UInt16.lt_iff_toNat_lt.mp hpos
      rw [UInt16.toNat_zero] at this
      omega
    rw [ConfigGoal.appDirectSets, hpos', List.take_succ_cons] at hsets
    obtain ⟨hzero, left, hset, -⟩ := validateAppDirectSizes_cons_ok hsets
    exact ⟨hzero, (validateInterleaveSetSize_ok hleft hset).2.2 (hfirst hpos)⟩
  · have htwo' : goal.appDirectCount.toNat = goal.appDirectCount.toNat - 2 + 1 + 1 := by
      have : 1 < goal.appDirectCount.toNat := UInt16.lt_iff_toNat_lt.mp htwo
      omega
    rw [ConfigGoal.appDirectSets, htwo', List.take_succ_cons, List.take_succ_cons] at hsets
    obtain ⟨-, left, hset, hsets⟩ := validateAppDirectSizes_cons_ok hsets
    obtain ⟨hzero, left', hset', -⟩ := validateAppDirectSizes_cons_ok hsets
    obtain ⟨-, hleft', -⟩ := validateInterleaveSetSize_ok hleft hset
    exact ⟨hzero, (validateInterleaveSetSize_ok hleft' hset').2.2 (hsecond htwo)⟩

end Accepted

/-! ### The round trip -/

/-- A goal is read back for a DIMM from a table. -/
def ReadsBack (platform : Platform) (deviceUid : Uid) (goal : ConfigGoal) (table : ConfigInputTable) :
    Prop :=
  ∃ decoded, Returns (fun fuel => configInputTableToConfigGoal fuel platform deviceUid
      (ofList table.bytes) TableKind.configInput.structSize table.length {}) (.success, decoded) ∧
    SameGoal goal decoded

section RoundTrip

variable {platform : Platform} {deviceUid : Uid} {goal : ConfigGoal} {discovery : DeviceDiscovery}
  {seqNum : UInt32} {revision : UInt8}

/-- The walk from the interleave tables on. -/
private def walkSets (platform : Platform) (deviceUid : Uid) (table : ConfigInputTable)
    (memorySize : UInt64) (fuel : ℕ) : Option (ReturnCode × ConfigGoal) :=
  runLoop (decodeEntry platform deviceUid (ofList table.bytes) table.length) fuel
    (64, { memorySize := memorySize })

/-- The walk gets to the interleave tables with the size for memory mode. -/
private theorem returns_of_walkSets {table : ConfigInputTable} {r : ReturnCode × ConfigGoal}
    (hpartition : table.partitionTable = configGoalToPartitionExtTable goal discovery)
    (hlength : table.length < 2 ^ 32) (hlookup : lookupDevUid platform deviceUid = .ok discovery)
    (hexplicit : goal.memorySize ≠ remainingSize)
    (hfits : goal.memorySize.toNat ≤ wholeGiB discovery.capacity)
    (h : Returns (walkSets platform deviceUid table goal.memorySize) r) :
    Returns (fun fuel => configInputTableToConfigGoal fuel platform deviceUid (ofList table.bytes)
      TableKind.configInput.structSize table.length {}) r := by
  obtain ⟨-, hbytes, -⟩ := read_configInputTable (holds_ofList table.bytes)
  rw [hpartition] at hbytes
  have hroom : 48 + 16 ≤ table.length := by
    simp only [ConfigInputTable.length, TableKind.structSize, partitionSizeChangeTableSize]
    omega
  obtain ⟨fuel, hfuel⟩ := h
  exact ⟨fuel + 1, (runLoop_succ_of_inl
    (decodeEntry_partition hbytes hroom hlength hlookup hexplicit hfits) fuel).trans hfuel⟩

/-- The walk ends behind the last table. -/
private theorem decodeEntry_end (m : Bytes) (tableLength : ℕ) (goal : ConfigGoal) :
    decodeEntry platform deviceUid m tableLength (tableLength, goal) = .inr (.success, goal) := by
  unfold decodeEntry
  dsimp only
  rw [if_neg (Nat.lt_irrefl _)]

section Sets

variable {table : ConfigInputTable} {memorySize : UInt64}

/-- Without interleave tables the walk is at its end. -/
private theorem returns_none (h : table.interleaveTables = []) :
    Returns (walkSets platform deviceUid table memorySize)
      (.success, { memorySize := memorySize }) := by
  have hlength : table.length = 64 := by
    rw [ConfigInputTable.length, h]
    rfl
  refine ⟨1, ?_⟩
  unfold walkSets
  rw [hlength]
  exact runLoop_succ_of_inr (decodeEntry_end _ _ _) 0

variable {qos₁ qos₂ : AppDirectAttributes} {size₁ size₂ offset₁ offset₂ : UInt64}
  {setId₁ setId₂ : UInt16} {devices₁ devices₂ : List DeviceDiscovery}

/-- The goal with one interleave set that is read back. -/
private def goalOfOne (platform : Platform) (deviceUid : Uid) (revision : UInt8) (memorySize : UInt64)
    (qos : AppDirectAttributes) (size : UInt64) (setId : UInt16) (devices : List DeviceDiscovery) :
    ConfigGoal where
  memorySize := memorySize
  appDirectCount := 1
  appDirect1SetId := setId
  appDirect1Settings := readBackSettings platform revision qos devices
  appDirect1Size := readBackSize platform deviceUid revision size devices

variable (deviceUid memorySize) in
/-- The walk after the first interleave table. -/
private theorem walkSets_succ (hdevices₁ : SetDevices platform qos₁ devices₁)
    {rest : List InterleaveInfoExtensionTable} (hlength : table.length < 2 ^ 32)
    (h : table.interleaveTables = tableOfSet qos₁ size₁ offset₁ setId₁ table.revision devices₁ :: rest)
    (fuel : ℕ) :
    walkSets platform deviceUid table memorySize (fuel + 1) =
      runLoop (decodeEntry platform deviceUid (ofList table.bytes) table.length) fuel
        (64 + (24 + 48 * devices₁.length),
          goalOfOne platform deviceUid table.revision memorySize qos₁ size₁ setId₁ devices₁) := by
  obtain ⟨hrevision, -, htables⟩ := read_configInputTable (holds_ofList table.bytes)
  rw [h, List.flatMap_cons, holds_append] at htables
  have hroom : 64 + (24 + 48 * devices₁.length) ≤ table.length := by
    rw [ConfigInputTable.length, h, List.map_cons, List.sum_cons, length_tableOfSet,
      TableKind.structSize, partitionSizeChangeTableSize]
    omega
  have hheld := htables.1
  rw [← hrevision] at hheld
  refine runLoop_succ_of_inl ?_ fuel
  rw [decodeEntry_tableOfSet hdevices₁ hheld hroom hlength
    (decodeAppDirect_first hdevices₁ hheld hroom hlength rfl rfl), if_pos rfl, hrevision]
  rfl

variable (deviceUid memorySize) in
/-- One interleave set is read. -/
private theorem returns_one (hdevices₁ : SetDevices platform qos₁ devices₁)
    (h : table.interleaveTables = [tableOfSet qos₁ size₁ offset₁ setId₁ table.revision devices₁]) :
    table.length < 2 ^ 32 ∧ Returns (walkSets platform deviceUid table memorySize)
      (.success,
        goalOfOne platform deviceUid table.revision memorySize qos₁ size₁ setId₁ devices₁) := by
  have hsmall := hdevices₁.length
  have hlength : table.length = 64 + (24 + 48 * devices₁.length) := by
    rw [ConfigInputTable.length, h, List.map_singleton, List.sum_singleton, length_tableOfSet]
    rfl
  have hlt : table.length < 2 ^ 32 := by omega
  refine ⟨hlt, 2, ?_⟩
  rw [walkSets_succ deviceUid memorySize hdevices₁ hlt h, ← hlength]
  exact runLoop_succ_of_inr (decodeEntry_end _ _ _) 0

variable (deviceUid memorySize) in
/-- Two interleave sets are read; if no size is found for the first one, only one is. -/
private theorem returns_two (hdevices₁ : SetDevices platform qos₁ devices₁)
    (hdevices₂ : SetDevices platform qos₂ devices₂)
    (h : table.interleaveTables = [tableOfSet qos₁ size₁ offset₁ setId₁ table.revision devices₁,
      tableOfSet qos₂ size₂ offset₂ setId₂ table.revision devices₂]) :
    table.length < 2 ^ 32 ∧
      (readBackSize platform deviceUid table.revision size₁ devices₁ ≠ 0 →
        Returns (walkSets platform deviceUid table memorySize)
          (.success, { goalOfOne platform deviceUid table.revision memorySize qos₁ size₁ setId₁
              devices₁ with
            appDirectCount := 2
            appDirect2SetId := setId₂
            appDirect2Settings := readBackSettings platform table.revision qos₂ devices₂
            appDirect2Size :=
              readBackSize platform deviceUid table.revision size₂ devices₂ })) ∧
      (readBackSize platform deviceUid table.revision size₁ devices₁ = 0 →
        ∃ r, Returns (walkSets platform deviceUid table memorySize) r ∧
          r.2.appDirectCount = 1) := by
  have hsmall₁ := hdevices₁.length
  have hsmall₂ := hdevices₂.length
  have hlength : table.length =
      64 + (24 + 48 * devices₁.length) + (24 + 48 * devices₂.length) := by
    rw [ConfigInputTable.length, h, List.map_cons, List.map_singleton, List.sum_cons,
      List.sum_singleton, length_tableOfSet, length_tableOfSet, TableKind.structSize,
      partitionSizeChangeTableSize]
    omega
  have hlt : table.length < 2 ^ 32 := by omega
  obtain ⟨hrevision, -, htables⟩ := read_configInputTable (holds_ofList table.bytes)
  rw [h, List.flatMap_cons, List.flatMap_cons, holds_append, holds_append,
    length_bytes_tableOfSet] at htables
  have hheld := htables.2.1
  rw [← hrevision] at hheld
  refine ⟨hlt, fun hsize => ⟨3, ?_⟩, fun hsize => ?_⟩
  · rw [walkSets_succ deviceUid memorySize hdevices₁ hlt h, runLoop_succ_of_inl (by
      rw [decodeEntry_tableOfSet hdevices₂ hheld hlength.ge hlt
        (decodeAppDirect_second hdevices₂ hheld hlength.ge hlt hsize rfl rfl), if_pos rfl, hrevision,
        ← hlength])]
    exact runLoop_succ_of_inr (decodeEntry_end _ _ _) 0
  · -- the second set is taken for the first, whatever is found for its DIMMs
    have hwalk := walkSets_succ deviceUid memorySize hdevices₁ hlt h
    generalize hgoal : goalOfOne platform deviceUid table.revision memorySize qos₁ size₁ setId₁
      devices₁ = goal at hwalk
    have hzero : goal.appDirect1Size = 0 := by
      rw [← hgoal]
      exact hsize
    cases hread : decodeAppDirect platform deviceUid (ofList table.bytes) table.length
      (64 + (24 + 48 * devices₁.length)) goal with
    | mk rc decoded =>
      have hcount : decoded.appDirectCount = 1 := by
        have hone : (decodeAppDirect platform deviceUid (ofList table.bytes) table.length
            (64 + (24 + 48 * devices₁.length)) goal).2.appDirectCount = 1 :=
          appDirectCount_decodeAppDirect hzero
        rwa [hread] at hone
      have hstep := decodeEntry_tableOfSet hdevices₂ hheld hlength.ge hlt hread
      rw [← hlength] at hstep
      refine ⟨(rc, decoded), ?_, hcount⟩
      split_ifs at hstep with hrc
      · refine ⟨3, ?_⟩
        rw [hwalk, runLoop_succ_of_inl hstep, hrc]
        exact runLoop_succ_of_inr (decodeEntry_end _ _ _) 0
      · refine ⟨2, ?_⟩
        rw [hwalk]
        exact runLoop_succ_of_inr hstep 0

end Sets

/-- A goal is read back or not by the only result of the walk. -/
private theorem readsBack_iff {table : ConfigInputTable} {r : ReturnCode × ConfigGoal}
    (h : Returns (fun fuel => configInputTableToConfigGoal fuel platform deviceUid
      (ofList table.bytes) TableKind.configInput.structSize table.length {}) r) :
    ReadsBack platform deviceUid goal table ↔ r.1 = .success ∧ SameGoal goal r.2 := by
  constructor
  · rintro ⟨decoded, hreturns, hsame⟩
    obtain rfl := hreturns.unique (fuelMono_runLoop _ _) h
    exact ⟨rfl, hsame⟩
  · rintro ⟨hsuccess, hsame⟩
    exact ⟨r.2, by rwa [← hsuccess], hsame⟩

end RoundTrip

section Sets

variable {platform : Platform} {deviceUid : Uid} {goal : ConfigGoal} {discovery : DeviceDiscovery}
  {table : ConfigInputTable} {devices₁ devices₂ : List DeviceDiscovery}

/-- A goal with one interleave set is read back exactly when the set survives. -/
private theorem readsBack_one_iff (hcount : goal.appDirectCount = 1)
    (hreturns : table.length < 2 ^ 32 → ∀ r,
      Returns (walkSets platform deviceUid table goal.memorySize) r →
      (ReadsBack platform deviceUid goal table ↔ r.1 = .success ∧ SameGoal goal r.2))
    (hdevices : SetDevices platform goal.appDirect1Settings devices₁)
    (hsets : table.interleaveTables = [firstTable goal discovery table.revision devices₁])
    (hexplicit : goal.appDirect1Size ≠ remainingSize)
    (htarget : ∃ u ∈ goal.appDirect1Settings.setDimms, uidCmp u deviceUid = true)
    (hgiven : GivenSize goal.appDirect1Size goal.appDirect1Settings.mirrored) :
    ReadsBack platform deviceUid goal table ↔
      SetSurvives platform table.revision goal.appDirect1Size goal.appDirect1Settings := by
  have hone : ¬ 1 < goal.appDirectCount := by
    rw [hcount]
    decide
  have hgib : firstSetGiB goal discovery = goal.appDirect1Size := if_neg hexplicit
  obtain ⟨hlength, hwalk⟩ := returns_one deviceUid goal.memorySize hdevices hsets
  rw [hgib] at hwalk
  rw [hreturns hlength _ hwalk, ← sameSet_readBack_iff table.revision goal.appDirect1SetId hdevices
    hgiven.1 hgiven.2 htarget]
  constructor
  · rintro ⟨-, hsame⟩
    exact hsame.first (by rw [hcount]; decide)
  · exact fun hset => ⟨rfl, rfl, hcount.symm, fun _ => hset, fun h => absurd h hone⟩

/-- A goal with two interleave sets is read back exactly when both survive. -/
private theorem readsBack_two_iff (hcount : goal.appDirectCount = 2)
    (hreturns : table.length < 2 ^ 32 → ∀ r,
      Returns (walkSets platform deviceUid table goal.memorySize) r →
      (ReadsBack platform deviceUid goal table ↔ r.1 = .success ∧ SameGoal goal r.2))
    (hdevices₁ : SetDevices platform goal.appDirect1Settings devices₁)
    (hdevices₂ : SetDevices platform goal.appDirect2Settings devices₂)
    (hsets : table.interleaveTables = [firstTable goal discovery table.revision devices₁,
      secondTable goal discovery table.revision devices₂])
    (hexplicit₁ : goal.appDirect1Size ≠ remainingSize)
    (hexplicit₂ : goal.appDirect2Size ≠ remainingSize)
    (htarget₁ : ∃ u ∈ goal.appDirect1Settings.setDimms, uidCmp u deviceUid = true)
    (htarget₂ : ∃ u ∈ goal.appDirect2Settings.setDimms, uidCmp u deviceUid = true)
    (hgiven₁ : GivenSize goal.appDirect1Size goal.appDirect1Settings.mirrored)
    (hgiven₂ : GivenSize goal.appDirect2Size goal.appDirect2Settings.mirrored) :
    ReadsBack platform deviceUid goal table ↔
      SetSurvives platform table.revision goal.appDirect1Size goal.appDirect1Settings ∧
      SetSurvives platform table.revision goal.appDirect2Size goal.appDirect2Settings := by
  have hgib₁ : firstSetGiB goal discovery = goal.appDirect1Size := if_neg hexplicit₁
  have hgib₂ : secondSetGiB goal discovery = goal.appDirect2Size := if_neg hexplicit₂
  obtain ⟨hlength, hsome, hnone⟩ := returns_two deviceUid goal.memorySize hdevices₁ hdevices₂ hsets
  rw [hgib₁] at hsome hnone
  rw [hgib₂] at hsome
  rw [← sameSet_readBack_iff table.revision goal.appDirect1SetId hdevices₁ hgiven₁.1 hgiven₁.2
      htarget₁,
    ← sameSet_readBack_iff table.revision goal.appDirect2SetId hdevices₂ hgiven₂.1 hgiven₂.2 htarget₂]
  by_cases hread : readBackSize platform deviceUid table.revision goal.appDirect1Size devices₁ = 0
  · -- a first set without a size is overwritten by the second one
    obtain ⟨r, hwalk, hone⟩ := hnone hread
    rw [hreturns hlength r hwalk]
    refine iff_of_false ?_ ?_
    · rintro ⟨-, hsame⟩
      have hcount' := hsame.appDirectCount
      rw [hone, hcount] at hcount'
      exact absurd hcount' (by decide)
    · rintro ⟨hsame, -⟩
      exact hgiven₁.1 (hsame.size.symm.trans hread)
  · rw [hreturns hlength _ (hsome hread)]
    constructor
    · rintro ⟨-, hsame⟩
      exact ⟨hsame.first (by rw [hcount]; decide), hsame.second (by rw [hcount]; decide)⟩
    · rintro ⟨hfirst, hsecond⟩
      exact ⟨rfl, rfl, hcount.symm, fun _ => hfirst, fun _ => hsecond⟩

end Sets

/-- A goal with given sizes that is accepted for a DIMM, and whose interleave sets have the DIMM, is
read back from its table exactly when its interleave sets survive. -/
theorem configGoal_roundTrip_iff {platform : Platform} {deviceUid : Uid} {goal : ConfigGoal}
    {capabilities : PlatformCapabilities} {discovery : DeviceDiscovery} {seqNum : UInt32}
    {tableRevision : UInt8} {table : ConfigInputTable}
    (hlookup : lookupDevUid platform deviceUid = .ok discovery)
    (hvalid : validateConfigGoal goal capabilities discovery = .success)
    (hmemory : goal.memorySize ≠ remainingSize)
    (hfirst : 0 < goal.appDirectCount → goal.appDirect1Size ≠ remainingSize ∧
      ∃ u ∈ goal.appDirect1Settings.setDimms, uidCmp u deviceUid = true)
    (hsecond : 1 < goal.appDirectCount → goal.appDirect2Size ≠ remainingSize ∧
      ∃ u ∈ goal.appDirect2Settings.setDimms, uidCmp u deviceUid = true)
    (htable : configGoalToConfigInput platform goal discovery seqNum tableRevision = .ok table) :
    ReadsBack platform deviceUid goal table ↔
      (0 < goal.appDirectCount →
        SetSurvives platform tableRevision goal.appDirect1Size goal.appDirect1Settings) ∧
      (1 < goal.appDirectCount →
        SetSurvives platform tableRevision goal.appDirect2Size goal.appDirect2Settings) := by
  obtain ⟨hfits, hgiven₁, hgiven₂⟩ := given_of_validateConfigGoal hvalid hmemory
    (fun h => (hfirst h).1) fun h => (hsecond h).1
  obtain ⟨tables, htables, hshape⟩ := configGoalToConfigInput_ok htable
  have hpartition : table.partitionTable = configGoalToPartitionExtTable goal discovery := by
    rw [hshape]
  have hrevision : table.revision = tableRevision := by rw [hshape]
  have hsets : table.interleaveTables = tables := by rw [hshape]
  subst hrevision
  have hreturns : table.length < 2 ^ 32 → ∀ r,
      Returns (walkSets platform deviceUid table goal.memorySize) r →
      (ReadsBack platform deviceUid goal table ↔ r.1 = .success ∧ SameGoal goal r.2) :=
    fun hlength r hwalk =>
      readsBack_iff (returns_of_walkSets hpartition hlength hlookup hmemory hfits hwalk)
  cases htables with
  | none hcount =>
    have hzero : ¬ 0 < goal.appDirectCount := by rw [hcount]; decide
    have hone : ¬ 1 < goal.appDirectCount := by rw [hcount]; decide
    have hlength : table.length < 2 ^ 32 := by
      rw [ConfigInputTable.length, hsets]
      decide
    rw [hreturns hlength _ (returns_none hsets)]
    exact iff_of_true ⟨rfl, rfl, hcount.symm, fun h => absurd h hzero, fun h => absurd h hone⟩
      ⟨fun h => absurd h hzero, fun h => absurd h hone⟩
  | one hcount hdevices =>
    have hzero : 0 < goal.appDirectCount := by rw [hcount]; decide
    have hone : ¬ 1 < goal.appDirectCount := by rw [hcount]; decide
    rw [readsBack_one_iff hcount hreturns hdevices hsets (hfirst hzero).1 (hfirst hzero).2
      (hgiven₁ hzero)]
    exact ⟨fun h => ⟨fun _ => h, fun h => absurd h hone⟩, fun h => h.1 hzero⟩
  | two hcount hdevices₁ hdevices₂ =>
    have hcount' : goal.appDirectCount = 2 := by
      have hle := UInt16.le_iff_toNat_le.mp (validateConfigGoal_success hvalid).1
      have hlt := UInt16.lt_iff_toNat_lt.mp hcount
      exact UInt16.toNat_inj.mp (Nat.le_antisymm hle hlt)
    have hzero : 0 < goal.appDirectCount := by rw [hcount']; decide
    rw [readsBack_two_iff hcount' hreturns hdevices₁ hdevices₂ hsets (hfirst hzero).1
      (hsecond hcount).1 (hfirst hzero).2 (hsecond hcount).2 (hgiven₁ hzero) (hgiven₂ hcount)]
    exact ⟨fun h => ⟨fun _ => h.1, fun _ => h.2⟩, fun h => ⟨h.1 hzero, h.2 hcount⟩⟩

/-- A goal with a GiB for memory mode and two GiB for an interleave set is read back. -/
theorem configGoal_roundTrip_solo :
    ReadsBack soloPlatform soloDevice.uid (soloGoal 1 2) (soloTable 1 2) := by
  have hlookup : lookupDevUid soloPlatform soloDevice.uid = .ok soloDevice := by decide +kernel
  have hvalid : validateConfigGoal (soloGoal 1 2) {} soloDevice = .success := by decide +kernel
  have htable : configGoalToConfigInput soloPlatform (soloGoal 1 2) soloDevice 1 1 =
      .ok (soloTable 1 2) := by
    decide +kernel
  have hdimms : (soloGoal 1 2).appDirect1Settings.setDimms = [soloDevice.uid] := rfl
  have hone : ¬ 1 < (soloGoal 1 2).appDirectCount := by decide
  refine (configGoal_roundTrip_iff hlookup hvalid (by decide)
    (fun _ => ⟨by decide, soloDevice.uid, by rw [hdimms]; exact List.mem_singleton_self _,
      by decide +kernel⟩)
    (fun h => absurd h hone) htable).mpr
      ⟨fun _ => ⟨fun h => Bool.noConfusion h, ?_⟩, fun h => absurd h hone⟩
  rw [hdimms]
  intro uid huid device hdevice
  obtain rfl := List.mem_singleton.mp huid
  rw [hlookup] at hdevice
  obtain rfl := Except.ok.inj hdevice
  exact ⟨soloDevice, by decide +kernel, rfl⟩

/-- A DIMM whose manufacturing data is said to be valid and is zero. -/
def blankDevice : DeviceDiscovery := { soloDevice with manufacturingInfoValid := true }

/-- A platform with that DIMM only. -/
def blankPlatform : Platform := ⟨.ok [blankDevice], .ok 1⟩

/-- A goal with an interleave set of that DIMM. -/
def blankGoal : ConfigGoal where
  appDirectCount := 1
  appDirect1Size := 2
  appDirect1SetId := 1
  appDirect1Settings := { soloSettings with dimms := [blankDevice.uid] }

/-- The goal for that DIMM is not read back from a table of revision 2: the DIMM is not found in its
own interleave set. -/
theorem configGoal_not_roundTrip :
    ¬ ∀ (platform : Platform) (deviceUid : Uid) (goal : ConfigGoal)
      (capabilities : PlatformCapabilities) (discovery : DeviceDiscovery) (seqNum : UInt32)
      (tableRevision : UInt8) (table : ConfigInputTable),
      lookupDevUid platform deviceUid = .ok discovery →
      validateConfigGoal goal capabilities discovery = .success →
      goal.memorySize ≠ remainingSize →
      (0 < goal.appDirectCount → goal.appDirect1Size ≠ remainingSize ∧
        ∃ u ∈ goal.appDirect1Settings.setDimms, uidCmp u deviceUid = true) →
      (1 < goal.appDirectCount → goal.appDirect2Size ≠ remainingSize ∧
        ∃ u ∈ goal.appDirect2Settings.setDimms, uidCmp u deviceUid = true) →
      configGoalToConfigInput platform goal discovery seqNum tableRevision = .ok table →
      ReadsBack platform deviceUid goal table := by
  intro hall
  have hdimms : blankGoal.appDirect1Settings.setDimms = [blankDevice.uid] := rfl
  have hone : ¬ 1 < blankGoal.appDirectCount := by decide
  obtain ⟨decoded, hreturns, hsame⟩ := hall blankPlatform blankDevice.uid blankGoal {} blankDevice 1 2
    ⟨2, 1, configGoalToPartitionExtTable blankGoal blankDevice,
      [firstTable blankGoal blankDevice 2 [blankDevice]]⟩
    (by decide +kernel) (by decide +kernel) (by decide)
    (fun _ => ⟨by decide, blankDevice.uid, by rw [hdimms]; exact List.mem_singleton_self _,
      by decide +kernel⟩)
    (fun h => absurd h hone) (by decide +kernel)
  have hwalk : (configInputTableToConfigGoal 3 blankPlatform blankDevice.uid
      (ofList (ConfigInputTable.mk 2 1 (configGoalToPartitionExtTable blankGoal blankDevice)
        [firstTable blankGoal blankDevice 2 [blankDevice]]).bytes)
      TableKind.configInput.structSize
      (ConfigInputTable.mk 2 1 (configGoalToPartitionExtTable blankGoal blankDevice)
        [firstTable blankGoal blankDevice 2 [blankDevice]]).length {}).map
        (fun r => r.2.appDirect1Size) = some 0 := by
    decide +kernel
  obtain ⟨r, hr, hzero⟩ := Option.map_eq_some_iff.mp hwalk
  have hunique := hreturns.unique (fuelMono_runLoop _ _) ⟨3, hr⟩
  have hsize := (hsame.first (by decide)).size
  rw [← hunique] at hzero
  exact absurd (hsize.symm.trans hzero) (by decide)

end IxpDimm
