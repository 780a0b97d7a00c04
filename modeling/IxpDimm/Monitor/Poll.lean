import IxpDimm.Monitor.StartUp

/-!
# A poll of the event monitor

`monitorChangesForDevice` of `EventMonitor.cpp`.  What was observed at the last poll is a row of the
database under the handle of the DIMM.  A poll reads it, compares it with what the library says now
(the firmware errors, the health and the sanitize operation, in this order), logs what has changed
and writes the row back.  Without a row nothing is compared, and the observation is saved.

`monitorChangesForDevice_of_none` and `monitorChangesForDevice_of_some` say which events a poll logs
and which row it leaves.
-/

namespace IxpDimm

/-! ### Sensors -/

/-- `SENSOR_FWERRORLOGCOUNT`. -/
def sensorFwErrorLogCount : ℕ := 7

/-- `getSensorsForDevice`: no sensors when the call fails. -/
def getSensorsForDevice (lib : MonitorLibrary) (device : DeviceInfo) : List UInt64 :=
  (lib.getSensors device.discovery.uid).getD []

/-- `sensorsIncludeType`. -/
def sensorsIncludeType (sensors : List UInt64) (type : ℕ) : Bool := type < sensors.length

/-- `sensorReadingHasIncreased`. -/
def sensorReadingHasIncreased (sensors : List UInt64) (sensorType : ℕ) (oldReading : UInt64) : Bool :=
  sensorsIncludeType sensors sensorType && oldReading < sensors.getD sensorType 0

/-- `getLatestSensorReading`. -/
def getLatestSensorReading (sensors : List UInt64) (sensorType : ℕ) (oldReading : UInt64) : UInt64 :=
  if sensorsIncludeType sensors sensorType then sensors.getD sensorType 0 else oldReading

/-- The event of `createFwErrorLogEvent`. -/
def fwErrorLogEvent (deviceUid : Uid) (errorCount : UInt64) : Event :=
  ⟨.health, .warn, .healthNewFwErrorsFound, deviceUid, false,
    [deviceUid, (Nat.repr errorCount.toNat).toList]⟩

/-- `detectFwErrorSensorChanges`. -/
def detectFwErrorSensorChanges (sensors : List UInt64) (deviceUid : Uid) (savedState : DimmState)
    (store : MonitorStore) : MonitorStore :=
  if sensorReadingHasIncreased sensors sensorFwErrorLogCount savedState.fwLogErrors then
    storeEvent (fwErrorLogEvent deviceUid
      (sensors.getD sensorFwErrorLogCount 0 - savedState.fwLogErrors)) store
  else store

/-- `updateStateForFwErrorSensors`. -/
def updateStateForFwErrorSensors (dimmState : DimmState) (sensors : List UInt64) : DimmState :=
  { dimmState with
    fwLogErrors := getLatestSensorReading sensors sensorFwErrorLogCount dimmState.fwLogErrors }

/-- `processSensorStateChangesForDevice`. -/
def processSensorStateChangesForDevice (lib : MonitorLibrary) (device : DeviceInfo)
    (dimmState : DimmState) (store : MonitorStore) : DimmState × MonitorStore :=
  let sensors := getSensorsForDevice lib device
  (updateStateForFwErrorSensors dimmState sensors,
    detectFwErrorSensorChanges sensors device.discovery.uid dimmState store)

/-! ### Health -/

/-- `deviceHealthToStr`. -/
def deviceHealthToStr : DeviceHealth → List Char
  | .normal => "Healthy".toList
  | .noncritical => "Minor Failure".toList
  | .critical => "Critical Failure".toList
  | .fatal => "Non-recoverable error".toList
  | .unknown => "Unknown".toList

/-- `isActionRequiredForDeviceHealth`. -/
def isActionRequiredForDeviceHealth (health : DeviceHealth) : Bool :=
  health = .critical || health = .fatal

/-- `getEventSeverityForDeviceHealth`. -/
def getEventSeverityForDeviceHealth : DeviceHealth → EventSeverity
  | .fatal => .fatal
  | .critical => .critical
  | .normal => .info
  | .noncritical | .unknown => .warn

/-- The event of `createDeviceHealthEvent`. -/
def deviceHealthEvent (uid : Uid) (oldHealth newHealth : DeviceHealth) : Event :=
  ⟨.health, getEventSeverityForDeviceHealth newHealth, .healthHealthStateChanged, uid,
    isActionRequiredForDeviceHealth newHealth,
    [uid, deviceHealthToStr oldHealth, deviceHealthToStr newHealth]⟩

/-- `processHealthChangesForDevice`. -/
def processHealthChangesForDevice (device : DeviceInfo) (dimmState : DimmState)
    (store : MonitorStore) : DimmState × MonitorStore :=
  let uid := device.discovery.uid
  let oldHealth := dimmState.healthState
  let newHealth := device.status.health
  if newHealth ≠ oldHealth then
    let store := acknowledgeEvents
      (filterEventCodeForDevice (some .healthHealthStateChanged) uid) store
    ({ dimmState with healthState := newHealth },
      storeEvent (deviceHealthEvent uid oldHealth newHealth) store)
  else (dimmState, store)

/-! ### Sanitize operations -/

/-- An event of `createSanitizeOperationEvent`. -/
def sanitizeEvent (code : EventCode) (uid : Uid) : Event :=
  ⟨.health, .critical, code, uid, true, [uid]⟩

/-- `createSanitizeOperationEvent`. -/
def createSanitizeOperationEvent (uid : Uid) (newSanitizeStatus : DeviceSanitizeStatus)
    (store : MonitorStore) : MonitorStore :=
  if newSanitizeStatus = .inProgress then
    storeEvent (sanitizeEvent .healthSanitizeInProgress uid) store
  else if newSanitizeStatus = .complete then
    let store := acknowledgeEvents
      (filterEventCodeForDevice (some .healthSanitizeInProgress) uid) store
    storeEvent (sanitizeEvent .healthSanitizeComplete uid) store
  else store

/-- `processSanitizeChangesForDevice`. -/
def processSanitizeChangesForDevice (device : DeviceInfo) (dimmState : DimmState)
    (store : MonitorStore) : DimmState × MonitorStore :=
  let oldSanitizeStatus := dimmState.sanitizeStatus
  let newSanitizeStatus := device.status.sanitizeStatus
  if (newSanitizeStatus = .inProgress ∨ newSanitizeStatus = .complete) ∧
      newSanitizeStatus ≠ oldSanitizeStatus then
    ({ dimmState with sanitizeStatus := newSanitizeStatus },
      createSanitizeOperationEvent device.discovery.uid newSanitizeStatus store)
  else (dimmState, store)

/-! ### The poll -/

/-- `getSavedStateForDevice`; `none` is `NoDeviceSavedState`. -/
def getSavedStateForDevice (device : DeviceInfo) (store : MonitorStore) : Option DimmState :=
  dbGetDimmStateByDeviceHandle device.discovery.deviceHandle store

/-- `initializeDimmState`. -/
def initializeDimmState (lib : MonitorLibrary) (device : DeviceInfo) : DimmState where
  deviceHandle := device.discovery.deviceHandle
  healthState := device.status.health
  sanitizeStatus := device.status.sanitizeStatus
  fwLogErrors := getLatestSensorReading (getSensorsForDevice lib device) sensorFwErrorLogCount 0

/-- `saveStateForDevice`. -/
def saveStateForDevice (newState : DimmState) (store : MonitorStore) : MonitorStore :=
  let store := dbDeleteDimmStateByDeviceHandle newState.deviceHandle store
  (dbAddDimmState newState store).getD store

/-- `monitorChangesForDevice`. -/
def monitorChangesForDevice (lib : MonitorLibrary) (device : DeviceInfo) (store : MonitorStore) :
    MonitorStore :=
  if device.discovery.manageability = .validConfig then
    match getSavedStateForDevice device store with
    | some savedState =>
      let (dimmState, store) := processSensorStateChangesForDevice lib device savedState store
      let (dimmState, store) := processHealthChangesForDevice device dimmState store
      let (dimmState, store) := processSanitizeChangesForDevice device dimmState store
      saveStateForDevice dimmState store
    | none => saveStateForDevice (initializeDimmState lib device) store
  else store

/-! ### What a poll logs -/

/-- The new firmware errors that are reported. -/
def newFwErrors (lib : MonitorLibrary) (device : DeviceInfo) (savedState : DimmState) :
    Option UInt64 :=
  let sensors := getSensorsForDevice lib device
  if sensorReadingHasIncreased sensors sensorFwErrorLogCount savedState.fwLogErrors then
    some (sensors.getD sensorFwErrorLogCount 0 - savedState.fwLogErrors)
  else none

/-- The code of the event about a sanitize operation. -/
def sanitizeCode (oldSanitizeStatus newSanitizeStatus : DeviceSanitizeStatus) : Option EventCode :=
  if newSanitizeStatus = oldSanitizeStatus then none
  else if newSanitizeStatus = .inProgress then some .healthSanitizeInProgress
  else if newSanitizeStatus = .complete then some .healthSanitizeComplete
  else none

/-- An event as it is after it has been acknowledged. -/
def Event.acknowledged (event : Event) : Event := { event with actionRequired := false }

/-- The events that a poll logs. -/
def pollEvents (lib : MonitorLibrary) (device : DeviceInfo) (savedState : DimmState) : List Event :=
  ((newFwErrors lib device savedState).map (fwErrorLogEvent device.discovery.uid)).toList ++
    (if device.status.health = savedState.healthState then []
      else [deviceHealthEvent device.discovery.uid savedState.healthState device.status.health]) ++
    ((sanitizeCode savedState.sanitizeStatus device.status.sanitizeStatus).map
      fun code => sanitizeEvent code device.discovery.uid).toList

/-- The row that a poll leaves for the next one. -/
def observedState (lib : MonitorLibrary) (device : DeviceInfo) (savedState : DimmState) :
    DimmState where
  deviceHandle := savedState.deviceHandle
  healthState := device.status.health
  sanitizeStatus :=
    if device.status.sanitizeStatus = .inProgress ∨ device.status.sanitizeStatus = .complete then
      device.status.sanitizeStatus
    else savedState.sanitizeStatus
  fwLogErrors := getLatestSensorReading (getSensorsForDevice lib device) sensorFwErrorLogCount
    savedState.fwLogErrors

/-- The logged events but for what an acknowledgement changes. -/
def loggedEvents (store : MonitorStore) : List Event := store.events.map Event.acknowledged

/-- An event is logged. -/
theorem loggedEvents_storeEvent (event : Event) (store : MonitorStore) :
    loggedEvents (storeEvent event store) = loggedEvents store ++ [event.acknowledged] :=
  List.map_append

/-- An acknowledgement logs nothing. -/
theorem loggedEvents_acknowledgeEvents (filter : EventFilter) (store : MonitorStore) :
    loggedEvents (acknowledgeEvents filter store) = loggedEvents store := by
  have hkept : ∀ event : Event, (event.acknowledge filter).acknowledged = event.acknowledged := by
    intro event
    rw [Event.acknowledge]
    split_ifs <;> rfl
  rw [loggedEvents, acknowledgeEvents, List.map_map]
  exact List.map_congr_left fun event _ => hkept event

/-- The firmware errors. -/
theorem processSensorStateChangesForDevice_eq (lib : MonitorLibrary) (device : DeviceInfo)
    (state : DimmState) (store : MonitorStore) :
    (processSensorStateChangesForDevice lib device state store).1 = { state with
        fwLogErrors := getLatestSensorReading (getSensorsForDevice lib device)
          sensorFwErrorLogCount state.fwLogErrors } ∧
      (processSensorStateChangesForDevice lib device state store).2 =
        ((newFwErrors lib device state).map (fwErrorLogEvent device.discovery.uid)).elim store
          (storeEvent · store) := by
  refine ⟨rfl, ?_⟩
  rw [processSensorStateChangesForDevice, newFwErrors]
  dsimp only
  rw [detectFwErrorSensorChanges]
  split_ifs <;> rfl

/-- The health. -/
theorem processHealthChangesForDevice_eq (device : DeviceInfo) (state : DimmState)
    (store : MonitorStore) :
    (processHealthChangesForDevice device state store).1 =
        { state with healthState := device.status.health } ∧
      loggedEvents (processHealthChangesForDevice device state store).2 = loggedEvents store ++
        (if device.status.health = state.healthState then []
          else [deviceHealthEvent device.discovery.uid state.healthState
            device.status.health]).map Event.acknowledged := by
  rw [processHealthChangesForDevice]
  dsimp only
  by_cases hsame : device.status.health = state.healthState
  · rw [if_neg (not_not.mpr hsame), if_pos hsame, hsame, List.map_nil, List.append_nil]
    exact ⟨rfl, rfl⟩
  · rw [if_pos hsame, if_neg hsame]
    refine ⟨rfl, ?_⟩
    rw [loggedEvents_storeEvent, loggedEvents_acknowledgeEvents]
    rfl

/-- The sanitize operation. -/
theorem processSanitizeChangesForDevice_eq (device : DeviceInfo) (state : DimmState)
    (store : MonitorStore) :
    (processSanitizeChangesForDevice device state store).1 =
        { state with
          sanitizeStatus :=
            if device.status.sanitizeStatus = .inProgress ∨
                device.status.sanitizeStatus = .complete then
              device.status.sanitizeStatus
            else state.sanitizeStatus } ∧
      loggedEvents (processSanitizeChangesForDevice device state store).2 = loggedEvents store ++
        (((sanitizeCode state.sanitizeStatus device.status.sanitizeStatus).map
          fun code => sanitizeEvent code device.discovery.uid).toList).map Event.acknowledged := by
  rw [processSanitizeChangesForDevice, sanitizeCode]
  by_cases hsame : device.status.sanitizeStatus = state.sanitizeStatus
  · rw [if_neg fun h => h.2 hsame, if_pos hsame, hsame, ite_self]
    exact ⟨rfl, (List.append_nil _).symm⟩
  · rw [if_neg hsame]
    by_cases hprogress : device.status.sanitizeStatus = .inProgress
    · rw [if_pos ⟨.inl hprogress, hsame⟩, if_pos (.inl hprogress), if_pos hprogress,
        createSanitizeOperationEvent, if_pos hprogress, loggedEvents_storeEvent]
      exact ⟨rfl, rfl⟩
    · rw [if_neg hprogress]
      by_cases hcomplete : device.status.sanitizeStatus = .complete
      · rw [if_pos ⟨.inr hcomplete, hsame⟩, if_pos (.inr hcomplete), if_pos hcomplete,
          createSanitizeOperationEvent, if_neg hprogress, if_pos hcomplete]
        dsimp only
        rw [loggedEvents_storeEvent, loggedEvents_acknowledgeEvents]
        exact ⟨rfl, rfl⟩
      · have hneither : ¬ (device.status.sanitizeStatus = .inProgress ∨
            device.status.sanitizeStatus = .complete) := not_or.mpr ⟨hprogress, hcomplete⟩
        rw [if_neg fun h => hneither h.1, if_neg hneither, if_neg hcomplete]
        exact ⟨rfl, (List.append_nil _).symm⟩

/-! ### What a poll leaves -/

/-- Saving a row logs nothing. -/
theorem events_saveStateForDevice (state : DimmState) (store : MonitorStore) :
    (saveStateForDevice state store).events = store.events := by
  rw [saveStateForDevice, dbAddDimmState]
  cases insertRow DimmState.deviceHandle state
    (dbDeleteDimmStateByDeviceHandle state.deviceHandle store).dimmStates <;> rfl

/-- The row that has been saved is found. -/
theorem dbGetDimmStateByDeviceHandle_saveStateForDevice (state : DimmState) (store : MonitorStore) :
    dbGetDimmStateByDeviceHandle state.deviceHandle (saveStateForDevice state store) =
      some state := by
  have hdeleted : state.deviceHandle ∉
      (dbDeleteDimmStateByDeviceHandle state.deviceHandle store).dimmStates.map
        DimmState.deviceHandle := by
    intro hmem
    obtain ⟨row, hrow, hhandle⟩ := List.mem_map.mp hmem
    exact of_decide_eq_true (List.mem_filter.mp hrow).2 hhandle
  obtain ⟨rows, hrows⟩ := insertRow_of_notMem hdeleted
  have hperm := perm_of_insertRow hrows
  rw [saveStateForDevice, dbAddDimmState, hrows, dbGetDimmStateByDeviceHandle]
  dsimp only [Option.map_some, Option.getD_some]
  cases hfound : rows.find? fun row => row.deviceHandle = state.deviceHandle with
  | none =>
    have hnot := List.find?_eq_none.mp hfound state (hperm.symm.subset List.mem_cons_self)
    exact absurd (decide_eq_true rfl) hnot
  | some row =>
    have hhandle := List.find?_some hfound
    rcases List.mem_cons.mp (hperm.subset (List.mem_of_find?_eq_some hfound)) with rfl | hrow
    · rfl
    · exact absurd (List.mem_map.mpr ⟨row, hrow, of_decide_eq_true hhandle⟩) hdeleted

/-- A first poll logs nothing and saves the observation. -/
theorem monitorChangesForDevice_of_none (lib : MonitorLibrary) {device : DeviceInfo}
    {store : MonitorStore} (hvalid : device.discovery.manageability = .validConfig)
    (hsaved : getSavedStateForDevice device store = none) :
    loggedEvents (monitorChangesForDevice lib device store) = loggedEvents store ∧
      getSavedStateForDevice device (monitorChangesForDevice lib device store) =
        some (initializeDimmState lib device) := by
  rw [monitorChangesForDevice, if_pos hvalid, hsaved]
  dsimp only
  rw [loggedEvents, events_saveStateForDevice]
  exact ⟨rfl, dbGetDimmStateByDeviceHandle_saveStateForDevice (initializeDimmState lib device) store⟩

/-- A later poll logs the changes and saves the observation. -/
theorem monitorChangesForDevice_of_some (lib : MonitorLibrary) {device : DeviceInfo}
    {store : MonitorStore} {savedState : DimmState}
    (hvalid : device.discovery.manageability = .validConfig)
    (hsaved : getSavedStateForDevice device store = some savedState) :
    loggedEvents (monitorChangesForDevice lib device store) =
        loggedEvents store ++ (pollEvents lib device savedState).map Event.acknowledged ∧
      getSavedStateForDevice device (monitorChangesForDevice lib device store) =
        some (observedState lib device savedState) := by
  have hhandle : savedState.deviceHandle = device.discovery.deviceHandle := by
    have hkey := List.find?_some hsaved
    exact of_decide_eq_true hkey
  obtain ⟨hsensor, hsensorStore⟩ := processSensorStateChangesForDevice_eq lib device savedState store
  obtain ⟨hhealth, hhealthEvents⟩ := processHealthChangesForDevice_eq device
    (processSensorStateChangesForDevice lib device savedState store).1
    (processSensorStateChangesForDevice lib device savedState store).2
  obtain ⟨hsanitize, hsanitizeEvents⟩ := processSanitizeChangesForDevice_eq device
    (processHealthChangesForDevice device
      (processSensorStateChangesForDevice lib device savedState store).1
      (processSensorStateChangesForDevice lib device savedState store).2).1
    (processHealthChangesForDevice device
      (processSensorStateChangesForDevice lib device savedState store).1
      (processSensorStateChangesForDevice lib device savedState store).2).2
  have hfwEvents : loggedEvents (processSensorStateChangesForDevice lib device savedState store).2 =
      loggedEvents store ++ ((newFwErrors lib device savedState).map
        (fwErrorLogEvent device.discovery.uid)).toList.map Event.acknowledged := by
    rw [hsensorStore]
    cases newFwErrors lib device savedState with
    | none => exact (List.append_nil _).symm
    | some count => exact loggedEvents_storeEvent _ store
  rw [monitorChangesForDevice, if_pos hvalid, hsaved]
  dsimp only
  constructor
  · rw [loggedEvents, events_saveStateForDevice, ← loggedEvents, hsanitizeEvents, hhealthEvents,
      hfwEvents, hhealth, hsensor, pollEvents, List.map_append, List.map_append, List.append_assoc,
      List.append_assoc, List.append_assoc]
  · rw [hsanitize, hhealth, hsensor, getSavedStateForDevice, ← hhandle]
    exact dbGetDimmStateByDeviceHandle_saveStateForDevice (observedState lib device savedState) _

end IxpDimm
