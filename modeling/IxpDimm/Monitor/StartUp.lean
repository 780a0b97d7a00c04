import IxpDimm.Foundation.OrderedMap
import IxpDimm.Monitor.Store
import Mathlib.Data.Char
import Mathlib.Data.List.Lex

/-!
# The start-up check of the event monitor

`checkDeviceStartUpStatus` of `EventMonitor.cpp`.  The devices that the library lists and the rows of
the saved topology are merged into one map by their unique ids; two passes over the map log what has
been added, replaced, moved or lost, a third one looks for goals that the BIOS has applied, and the
listed devices are saved for the next start.

The library calls and the reads of the database can fail.  A failed listing leaves the map without
devices, and a failed read leaves the saved topology out or makes it count as not valid.
-/

namespace IxpDimm

open Foundation

/-! ### The library and the database -/

/-- `struct device_status`, as far as the monitor reads it. -/
structure MonitoredStatus where
  /-- The health. -/
  health : DeviceHealth := .unknown
  /-- Whether the device is not incorporated with the others. -/
  isNew : Bool := false
  /-- The status of the last configuration request. -/
  configStatus : ConfigStatus := .notConfigured
  /-- The status of a sanitize operation. -/
  sanitizeStatus : DeviceSanitizeStatus := .unknown
  deriving DecidableEq, Repr

/-- The library calls of the monitor; `none` is an exception. -/
structure MonitorLibrary where
  /-- `getDevices`. -/
  getDevices : Option (List DeviceDiscovery)
  /-- `getDeviceStatus`. -/
  getDeviceStatus : Uid → Option MonitoredStatus
  /-- The status of the goal that `getConfigGoal` returns. -/
  getConfigGoal : Uid → Option ConfigGoalStatus
  /-- The readings of the sensors that `getSensors` returns. -/
  getSensors : Uid → Option (List UInt64)

/-- The calls on the database that fail. -/
structure DbFaults where
  /-- The read of the flag before the saved topology is added to the map. -/
  validForMap : Bool := false
  /-- The read of the flag before the rows are read. -/
  validForStates : Bool := false
  /-- The read of the flag before the topology is checked for changes. -/
  validForChanges : Bool := false
  /-- `db_get_topology_state_count`. -/
  stateCount : Bool := false
  /-- `db_get_topology_states` returns fewer rows than were counted, or an error. -/
  states : Bool := false
  /-- `db_delete_all_topology_states`. -/
  deleteStates : Bool := false
  /-- `db_add_topology_state` for a DIMM, for another reason than its key. -/
  addState : Uid → Bool := fun _ => false

/-- `struct deviceInfo`. -/
structure DeviceInfo where
  /-- The library has listed the device. -/
  discovered : Bool := false
  /-- What the library has said about it. -/
  discovery : DeviceDiscovery := {}
  /-- Its status. -/
  status : MonitoredStatus := {}
  /-- The device is in the saved topology. -/
  stored : Bool := false
  /-- Its row. -/
  storedState : TopologyState := {}

/-- `DeviceMap`. -/
abbrev DeviceMap := List (Uid × DeviceInfo)

/-! ### The map of devices -/

/-- `getTopologyInfoForDevice`. -/
def getTopologyInfoForDevice (lib : MonitorLibrary) (device : DeviceDiscovery) : DeviceInfo where
  discovered := true
  discovery := device
  status :=
    if device.manageability = .validConfig then (lib.getDeviceStatus device.uid).getD {} else {}

/-- `addCurrentDevicesToDeviceMap`. -/
def addCurrentDevicesToDeviceMap (lib : MonitorLibrary) (map : DeviceMap) : DeviceMap :=
  match lib.getDevices with
  | none => map
  | some devList => fillMap DeviceDiscovery.uid (fun device _ => getTopologyInfoForDevice lib device)
      devList map

/-- `getCurrentDeviceMap`. -/
def getCurrentDeviceMap (lib : MonitorLibrary) : DeviceMap := addCurrentDevicesToDeviceMap lib []

/-- `isSavedTopologyStateValid`, with whether the read of the flag fails. -/
def isSavedTopologyStateValid (fails : Bool) (store : MonitorStore) : Bool :=
  !fails && store.topologyStateValid.getD 0 != 0

/-- `getSavedTopologyState`. -/
def getSavedTopologyState (faults : DbFaults) (store : MonitorStore) : List TopologyState :=
  if isSavedTopologyStateValid faults.validForStates store then
    if !faults.stateCount && 0 < store.topology.length then
      if !faults.states then store.topology else []
    else []
  else []

/-- What is stored in the map for a row of the saved topology. -/
def storedDeviceInfo (row : TopologyState) (found : Option DeviceInfo) : DeviceInfo :=
  match found with
  | none => { discovered := false, stored := true, storedState := row }
  | some info => { info with stored := true, storedState := row }

/-- `addSavedTopologyStateToDeviceMap`. -/
def addSavedTopologyStateToDeviceMap (faults : DbFaults) (store : MonitorStore) (map : DeviceMap) :
    DeviceMap :=
  fillMap TopologyState.uid storedDeviceInfo (getSavedTopologyState faults store) map

/-- `getCurrentDeviceMapWithSavedTopology`. -/
def getCurrentDeviceMapWithSavedTopology (lib : MonitorLibrary) (faults : DbFaults)
    (store : MonitorStore) : DeviceMap :=
  if isSavedTopologyStateValid faults.validForMap store then
    addSavedTopologyStateToDeviceMap faults store (getCurrentDeviceMap lib)
  else getCurrentDeviceMap lib

/-! ### Changes of the topology -/

/-- `LOG_NEW_DIMM_EVENT`. -/
def newDimmEvent (code : EventCode) (uid : Uid) (args : List (List Char)) : Event where
  type := .config
  severity := .info
  code := code
  uid := uid
  actionRequired := false
  args := args

/-- `getReplacedDimmUid`. -/
def getReplacedDimmUid (devices : DeviceMap) (handle : UInt32) : Uid :=
  match devices.find? fun e =>
      !e.2.discovered && e.2.stored && e.2.storedState.deviceHandle == handle with
  | some e => e.2.storedState.uid
  | none => []

/-- One iteration of `processTopologyNewDimms`, with the uids of the replaced DIMMs. -/
def processTopologyNewDimm (devices : DeviceMap) (state : MonitorStore × List Uid)
    (entry : Uid × DeviceInfo) : MonitorStore × List Uid :=
  let (store, replacedUids) := state
  let (uidStr, device) := entry
  if device.discovered && !device.stored then
    let replacedUid := getReplacedDimmUid devices device.discovery.deviceHandle
    if replacedUid = [] then
      let code := if device.status.isNew then EventCode.configTopologyAddedNewDevice
        else .configTopologyAddedConfiguredDevice
      (storeEvent (newDimmEvent code device.discovery.uid [uidStr]) store, replacedUids)
    else
      let code := if device.status.isNew then EventCode.configTopologyReplacedNewDevice
        else .configTopologyReplacedConfiguredDevice
      let store := storeEvent (newDimmEvent code device.discovery.uid [replacedUid, uidStr]) store
      (acknowledgeEvents (filterEventCodeForDevice none replacedUid) store,
        replacedUids ++ [replacedUid])
  else (store, replacedUids)

/-- `processTopologyNewDimms`. -/
def processTopologyNewDimms (devices : DeviceMap) (store : MonitorStore) : MonitorStore × List Uid :=
  devices.foldl (processTopologyNewDimm devices) (store, [])

/-- One iteration of `processTopologyModifiedDimms`. -/
def processTopologyModifiedDimm (replacedUids : List Uid) (store : MonitorStore)
    (entry : Uid × DeviceInfo) : MonitorStore :=
  let (uidStr, device) := entry
  if device.discovered && device.stored &&
      device.discovery.deviceHandle != device.storedState.deviceHandle then
    storeEvent ⟨.config, .info, .configTopologyMovedDevice, device.discovery.uid, false, [uidStr]⟩
      store
  else if device.stored && !device.discovered then
    if replacedUids.contains uidStr then store
    else
      let store := storeEvent
        ⟨.config, .critical, .configTopologyMissingDevice, uidStr, false, [uidStr]⟩ store
      acknowledgeEvents (filterEventCodeForDevice none uidStr) store
  else store

/-- `processTopologyModifiedDimms`. -/
def processTopologyModifiedDimms (devices : DeviceMap) (replacedUids : List Uid)
    (store : MonitorStore) : MonitorStore :=
  devices.foldl (processTopologyModifiedDimm replacedUids) store

/-- `checkDeviceTopologyForChanges`. -/
def checkDeviceTopologyForChanges (faults : DbFaults) (devMap : DeviceMap) (store : MonitorStore) :
    MonitorStore :=
  if isSavedTopologyStateValid faults.validForChanges store then
    let (store, replacedUids) := processTopologyNewDimms devMap store
    processTopologyModifiedDimms devMap replacedUids store
  else store

/-! ### Goals -/

/-- `getConfigGoalStatusForDevice`. -/
def getConfigGoalStatusForDevice (lib : MonitorLibrary) (uid : Uid) : ConfigGoalStatus :=
  (lib.getConfigGoal uid).getD .unknown

/-- `checkConfigGoalStatus`, with `createEventForConfigGoalAppliedOnDevice` and
`acknowledgePlatformConfigEventsForDevice`. -/
def checkConfigGoalStatus (lib : MonitorLibrary) (uidStr : Uid) (device : DeviceInfo)
    (store : MonitorStore) : MonitorStore :=
  let status := getConfigGoalStatusForDevice lib uidStr
  if !device.stored || status != device.storedState.configGoalStatus then
    if status = .success then
      let store := storeEvent ⟨.config, .info, .configGoalApplied, uidStr, false, [uidStr]⟩ store
      let store := acknowledgeEvents (filterEventTypeForDevice .config uidStr) store
      acknowledgeEvents (filterEventTypeForDevice .diagPlatformConfig uidStr) store
    else store
  else store

/-- `checkConfigStatusForAllDevices`. -/
def checkConfigStatusForAllDevices (lib : MonitorLibrary) (devMap : DeviceMap)
    (store : MonitorStore) : MonitorStore :=
  devMap.foldl (fun store e =>
    if e.2.discovered && e.2.discovery.manageability = .validConfig then
      checkConfigGoalStatus lib e.1 e.2 store
    else store) store

/-! ### Saving the topology -/

/-- `MANUFACTURER_TO_UINT`. -/
def manufacturerToUint (manufacturer : Vector UInt8 2) : UInt32 :=
  (manufacturer[1].toUInt32 <<< 8) ||| manufacturer[0].toUInt32

/-- `SERIAL_NUMBER_TO_UINT`. -/
def serialNumberToUint (serial : Vector UInt8 4) : UInt32 :=
  ((serial.toList.getD 3 0).toUInt32 <<< 24) ||| ((serial.toList.getD 2 0).toUInt32 <<< 16) |||
    ((serial.toList.getD 1 0).toUInt32 <<< 8) ||| (serial.toList.getD 0 0).toUInt32

/-- The row that is saved for a device. -/
def topologyStateFor (lib : MonitorLibrary) (uidStr : Uid) (device : DeviceInfo) : TopologyState where
  deviceHandle := device.discovery.deviceHandle
  uid := uidStr
  manufacturer := manufacturerToUint device.discovery.manufacturer
  serialNum := serialNumberToUint device.discovery.serialNumber
  partNum := device.discovery.partNumber.toList.takeWhile (· ≠ 0)
  currentConfigStatus := device.status.configStatus
  configGoalStatus :=
    if device.discovery.manageability = .validConfig then getConfigGoalStatusForDevice lib uidStr
    else .unknown

/-- The loop of `saveCurrentTopologyState`: the store after it and whether every row was added. -/
def addTopologyStates (lib : MonitorLibrary) (faults : DbFaults) :
    DeviceMap → MonitorStore → MonitorStore × Bool
  | [], store => (store, true)
  | (uidStr, device) :: devices, store =>
    if device.discovered then
      if faults.addState uidStr then (store, false)
      else
        match dbAddTopologyState (topologyStateFor lib uidStr device) store with
        | some store => addTopologyStates lib faults devices store
        | none => (store, false)
    else addTopologyStates lib faults devices store

/-- `saveCurrentTopologyState`. -/
def saveCurrentTopologyState (lib : MonitorLibrary) (faults : DbFaults) (devices : DeviceMap)
    (store : MonitorStore) : MonitorStore :=
  let (store, saved) :=
    if faults.deleteStates then (store, false)
    else addTopologyStates lib faults devices { store with topology := [] }
  { store with topologyStateValid := some (if saved then 1 else 0) }

/-- `checkDeviceStartUpStatus`. -/
def checkDeviceStartUpStatus (lib : MonitorLibrary) (faults : DbFaults) (store : MonitorStore) :
    MonitorStore :=
  let devMap := getCurrentDeviceMapWithSavedTopology lib faults store
  let store := checkDeviceTopologyForChanges faults devMap store
  let store := checkConfigStatusForAllDevices lib devMap store
  saveCurrentTopologyState lib faults devMap store

end IxpDimm
