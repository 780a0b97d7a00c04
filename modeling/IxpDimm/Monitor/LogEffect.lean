import IxpDimm.Monitor.StartUp

/-!
# What the start-up check reports

The passes of the start-up check change the event log only: they acknowledge events by filters and
log new ones, none of which requires an action, so that a later acknowledgement leaves them as they
are.  `LogEffect` says this of a pass, `LogEffect.foldl` of a loop, and the passes over the map of
devices are given by the events and filters of its entries.
-/

namespace IxpDimm

open Foundation

/-! ### Acknowledging and logging -/

/-- An event after filters have been acknowledged, one after the other. -/
def acknowledgeAll (filters : List EventFilter) (event : Event) : Event :=
  filters.foldl (fun event filter => event.acknowledge filter) event

/-- An event that requires no action is left as it is. -/
theorem Event.acknowledge_eq_self {event : Event} (h : event.actionRequired = false)
    (filter : EventFilter) : event.acknowledge filter = event := by
  unfold acknowledge
  split_ifs
  · rw [← h]
  · rfl

/-- An event that requires no action is left as it is by all filters. -/
theorem acknowledgeAll_eq_self {event : Event} (h : event.actionRequired = false)
    (filters : List EventFilter) : acknowledgeAll filters event = event := by
  induction filters with
  | nil => rfl
  | cons filter filters ih =>
    rw [acknowledgeAll, List.foldl_cons, Event.acknowledge_eq_self h]
    exact ih

/-- A store with other events. -/
structure LogEffect (store after : MonitorStore) (filters : List EventFilter) (new : List Event) :
    Prop where
  /-- The events that were there have been acknowledged by the filters, and the new ones follow. -/
  events : after.events = store.events.map (acknowledgeAll filters) ++ new
  /-- The new events require no action. -/
  quiet : ∀ event ∈ new, event.actionRequired = false
  /-- The saved topology is the same. -/
  topology : after.topology = store.topology
  /-- Its flag is the same. -/
  valid : after.topologyStateValid = store.topologyStateValid
  /-- The observations are the same. -/
  dimmStates : after.dimmStates = store.dimmStates

/-- Nothing is reported. -/
theorem LogEffect.refl (store : MonitorStore) : LogEffect store store [] [] := by
  refine ⟨?_, fun event hevent => absurd hevent List.not_mem_nil, rfl, rfl, rfl⟩
  rw [List.append_nil]
  exact (List.map_id _).symm

/-- Two passes report what the first and then the second reports. -/
theorem LogEffect.trans {store mid after : MonitorStore} {filters filters' : List EventFilter}
    {new new' : List Event} (h : LogEffect store mid filters new)
    (h' : LogEffect mid after filters' new') :
    LogEffect store after (filters ++ filters') (new ++ new') := by
  refine ⟨?_, fun event hevent => ?_, h'.topology.trans h.topology, h'.valid.trans h.valid,
    h'.dimmStates.trans h.dimmStates⟩
  · have hnew : new.map (acknowledgeAll filters') = new.map id :=
      List.map_congr_left fun event hevent => acknowledgeAll_eq_self (h.quiet event hevent) _
    have hold : (acknowledgeAll filters') ∘ (acknowledgeAll filters) =
        acknowledgeAll (filters ++ filters') :=
      funext fun event => (List.foldl_append).symm
    rw [h'.events, h.events, List.map_append, List.map_map, hold, hnew, List.map_id,
      List.append_assoc]
  · rcases List.mem_append.mp hevent with hevent | hevent
    · exact h.quiet event hevent
    · exact h'.quiet event hevent

/-- Logging an event that requires no action. -/
theorem LogEffect.storeEvent (store : MonitorStore) {event : Event}
    (h : event.actionRequired = false) : LogEffect store (storeEvent event store) [] [event] := by
  refine ⟨congrArg (· ++ [event]) (List.map_id _).symm, fun e he => ?_, rfl, rfl, rfl⟩
  rw [List.mem_singleton.mp he]
  exact h

/-- Acknowledging events. -/
theorem LogEffect.acknowledgeEvents (store : MonitorStore) (filter : EventFilter) :
    LogEffect store (acknowledgeEvents filter store) [filter] [] :=
  ⟨(List.append_nil _).symm, fun _ he => absurd he List.not_mem_nil, rfl, rfl, rfl⟩

/-- A loop reports what its iterations report. -/
theorem LogEffect.foldl {ε : Type*} {step : MonitorStore → ε → MonitorStore}
    {filters : ε → List EventFilter} {new : ε → List Event}
    (h : ∀ store e, LogEffect store (step store e) (filters e) (new e)) (l : List ε)
    (store : MonitorStore) :
    LogEffect store (l.foldl step store) (l.flatMap filters) (l.flatMap new) := by
  induction l generalizing store with
  | nil => exact .refl store
  | cons e l ih => exact (h store e).trans (ih (step store e))

/-! ### The passes over the map -/

/-- A device is listed and was not saved. -/
def DeviceInfo.isAdded (device : DeviceInfo) : Bool := device.discovered && !device.stored

/-- The uid of the DIMM that an added device replaces, if there is one. -/
def replacedUidsOf (devices : DeviceMap) (entry : Uid × DeviceInfo) : List Uid :=
  if entry.2.isAdded ∧ getReplacedDimmUid devices entry.2.discovery.deviceHandle ≠ [] then
    [getReplacedDimmUid devices entry.2.discovery.deviceHandle]
  else []

/-- The event for a device that is added and replaces none. -/
def addedEvent (uidStr : Uid) (device : DeviceInfo) : Event :=
  newDimmEvent (if device.status.isNew then .configTopologyAddedNewDevice
    else .configTopologyAddedConfiguredDevice) device.discovery.uid [uidStr]

/-- The event for a device that is added and replaces another. -/
def replacedEvent (replacedUid uidStr : Uid) (device : DeviceInfo) : Event :=
  newDimmEvent (if device.status.isNew then .configTopologyReplacedNewDevice
    else .configTopologyReplacedConfiguredDevice) device.discovery.uid [replacedUid, uidStr]

/-- The events of the first pass for an entry. -/
def newDimmEvents (devices : DeviceMap) (entry : Uid × DeviceInfo) : List Event :=
  if entry.2.isAdded then
    if getReplacedDimmUid devices entry.2.discovery.deviceHandle = [] then
      [addedEvent entry.1 entry.2]
    else
      [replacedEvent (getReplacedDimmUid devices entry.2.discovery.deviceHandle) entry.1 entry.2]
  else []

/-- The first pass. -/
theorem processTopologyNewDimms_effect (devices : DeviceMap) (store : MonitorStore) :
    LogEffect store (processTopologyNewDimms devices store).1
        (devices.flatMap fun e => (replacedUidsOf devices e).map (filterEventCodeForDevice none))
        (devices.flatMap (newDimmEvents devices)) ∧
      (processTopologyNewDimms devices store).2 = devices.flatMap (replacedUidsOf devices) := by
  have hstep : ∀ (state : MonitorStore × List Uid) e,
      LogEffect state.1 (processTopologyNewDimm devices state e).1
          ((replacedUidsOf devices e).map (filterEventCodeForDevice none))
          (newDimmEvents devices e) ∧
        (processTopologyNewDimm devices state e).2 = state.2 ++ replacedUidsOf devices e := by
    rintro ⟨store, replacedUids⟩ ⟨uidStr, device⟩
    have heq : processTopologyNewDimm devices (store, replacedUids) (uidStr, device) =
        if device.isAdded then
          if getReplacedDimmUid devices device.discovery.deviceHandle = [] then
            (storeEvent (addedEvent uidStr device) store, replacedUids)
          else
            (acknowledgeEvents (filterEventCodeForDevice none
                (getReplacedDimmUid devices device.discovery.deviceHandle))
              (storeEvent (replacedEvent (getReplacedDimmUid devices
                device.discovery.deviceHandle) uidStr device) store),
              replacedUids ++ [getReplacedDimmUid devices device.discovery.deviceHandle])
        else (store, replacedUids) := rfl
    rw [heq, replacedUidsOf, newDimmEvents]
    dsimp only
    by_cases hadded : device.isAdded = true
    · by_cases hnone : getReplacedDimmUid devices device.discovery.deviceHandle = []
      · rw [if_pos hadded, if_pos hadded, if_pos hnone, if_pos hnone, if_neg fun h => h.2 hnone]
        exact ⟨.storeEvent store rfl, (List.append_nil _).symm⟩
      · rw [if_pos hadded, if_pos hadded, if_neg hnone, if_neg hnone, if_pos ⟨hadded, hnone⟩]
        exact ⟨(LogEffect.storeEvent store rfl).trans (.acknowledgeEvents _ _), rfl⟩
    · rw [if_neg hadded, if_neg hadded, if_neg fun h => hadded h.1]
      exact ⟨.refl store, (List.append_nil _).symm⟩
  have hrun : ∀ (l : DeviceMap) (state : MonitorStore × List Uid),
      LogEffect state.1 (l.foldl (processTopologyNewDimm devices) state).1
          (l.flatMap fun e => (replacedUidsOf devices e).map (filterEventCodeForDevice none))
          (l.flatMap (newDimmEvents devices)) ∧
        (l.foldl (processTopologyNewDimm devices) state).2 =
          state.2 ++ l.flatMap (replacedUidsOf devices) := by
    intro l
    induction l with
    | nil => exact fun state => ⟨.refl state.1, (List.append_nil _).symm⟩
    | cons e l ih =>
      intro state
      obtain ⟨hfirst, hfirstUids⟩ := hstep state e
      obtain ⟨hrest, hrestUids⟩ := ih (processTopologyNewDimm devices state e)
      refine ⟨hfirst.trans hrest, ?_⟩
      rw [List.foldl_cons, hrestUids, hfirstUids, List.append_assoc, List.flatMap_cons]
  exact hrun devices (store, [])

/-- A device is listed at another handle than it was saved with. -/
def DeviceInfo.isMoved (device : DeviceInfo) : Bool :=
  device.discovered && device.stored &&
    device.discovery.deviceHandle != device.storedState.deviceHandle

/-- A saved device is not listed. -/
def DeviceInfo.isMissing (device : DeviceInfo) : Bool := device.stored && !device.discovered

/-- The event for a device at another handle. -/
def movedEvent (uidStr : Uid) (device : DeviceInfo) : Event :=
  ⟨.config, .info, .configTopologyMovedDevice, device.discovery.uid, false, [uidStr]⟩

/-- The event for a device that is not there. -/
def missingEvent (uidStr : Uid) : Event :=
  ⟨.config, .critical, .configTopologyMissingDevice, uidStr, false, [uidStr]⟩

/-- The uids of the DIMMs that the second pass reports as missing. -/
def missingUidsOf (replacedUids : List Uid) (entry : Uid × DeviceInfo) : List Uid :=
  if entry.2.isMissing ∧ entry.1 ∉ replacedUids then [entry.1] else []

/-- The events of the second pass for an entry. -/
def modifiedDimmEvents (replacedUids : List Uid) (entry : Uid × DeviceInfo) : List Event :=
  if entry.2.isMoved then [movedEvent entry.1 entry.2]
  else (missingUidsOf replacedUids entry).map missingEvent

/-- A device is not both at another handle and missing. -/
theorem DeviceInfo.not_isMissing_of_isMoved {device : DeviceInfo} (h : device.isMoved = true) :
    ¬ device.isMissing = true := by
  unfold isMoved at h
  unfold isMissing
  rw [Bool.and_eq_true, Bool.and_eq_true] at h
  rw [h.1.1, h.1.2]
  decide

/-- The second pass. -/
theorem processTopologyModifiedDimms_effect (devices : DeviceMap) (replacedUids : List Uid)
    (store : MonitorStore) :
    LogEffect store (processTopologyModifiedDimms devices replacedUids store)
      (devices.flatMap fun e =>
        (missingUidsOf replacedUids e).map (filterEventCodeForDevice none))
      (devices.flatMap (modifiedDimmEvents replacedUids)) := by
  refine LogEffect.foldl (fun store e => ?_) devices store
  obtain ⟨uidStr, device⟩ := e
  have heq : processTopologyModifiedDimm replacedUids store (uidStr, device) =
      if device.isMoved then storeEvent (movedEvent uidStr device) store
      else if device.isMissing then
        if replacedUids.contains uidStr then store
        else acknowledgeEvents (filterEventCodeForDevice none uidStr)
          (storeEvent (missingEvent uidStr) store)
      else store := rfl
  rw [heq, modifiedDimmEvents, missingUidsOf]
  dsimp only
  by_cases hmoved : device.isMoved = true
  · rw [if_pos hmoved, if_pos hmoved, if_neg fun h => device.not_isMissing_of_isMoved hmoved h.1]
    exact .storeEvent store rfl
  · rw [if_neg hmoved, if_neg hmoved]
    by_cases hmissing : device.isMissing = true
    · rw [if_pos hmissing]
      by_cases hreplaced : uidStr ∈ replacedUids
      · rw [if_pos (List.contains_iff_mem.mpr hreplaced), if_neg fun h => h.2 hreplaced]
        exact .refl store
      · rw [if_neg fun h => hreplaced (List.contains_iff_mem.mp h), if_pos ⟨hmissing, hreplaced⟩]
        exact (LogEffect.storeEvent store rfl).trans (.acknowledgeEvents _ _)
    · rw [if_neg hmissing, if_neg fun h => hmissing h.1]
      exact .refl store

/-- The check of the topology for changes: its filters. -/
def changeFilters (devices : DeviceMap) : List EventFilter :=
  (devices.flatMap fun e => (replacedUidsOf devices e).map (filterEventCodeForDevice none)) ++
    devices.flatMap fun e =>
      (missingUidsOf (devices.flatMap (replacedUidsOf devices)) e).map
        (filterEventCodeForDevice none)

/-- The check of the topology for changes: its events. -/
def changeEvents (devices : DeviceMap) : List Event :=
  devices.flatMap (newDimmEvents devices) ++
    devices.flatMap (modifiedDimmEvents (devices.flatMap (replacedUidsOf devices)))

/-- The check of the topology for changes, when the saved one is read as valid. -/
theorem checkDeviceTopologyForChanges_effect {faults : DbFaults} {store : MonitorStore}
    (h : isSavedTopologyStateValid faults.validForChanges store = true) (devices : DeviceMap) :
    LogEffect store (checkDeviceTopologyForChanges faults devices store) (changeFilters devices)
      (changeEvents devices) := by
  obtain ⟨hfirst, huids⟩ := processTopologyNewDimms_effect devices store
  have hsecond := processTopologyModifiedDimms_effect devices
    (processTopologyNewDimms devices store).2 (processTopologyNewDimms devices store).1
  rw [checkDeviceTopologyForChanges, if_pos h]
  dsimp only
  rw [huids] at hsecond ⊢
  exact hfirst.trans hsecond

/-- A goal of a listed device has been applied and was not saved as applied. -/
def goalApplied (lib : MonitorLibrary) (entry : Uid × DeviceInfo) : Bool :=
  (entry.2.discovered && entry.2.discovery.manageability = .validConfig) &&
    (!entry.2.stored ||
      getConfigGoalStatusForDevice lib entry.1 != entry.2.storedState.configGoalStatus) &&
    getConfigGoalStatusForDevice lib entry.1 = .success

/-- The filters of the third pass for an entry. -/
def goalFilters (lib : MonitorLibrary) (entry : Uid × DeviceInfo) : List EventFilter :=
  if goalApplied lib entry then [filterEventTypeForDevice .config entry.1,
    filterEventTypeForDevice .diagPlatformConfig entry.1] else []

/-- The events of the third pass for an entry. -/
def goalEvents (lib : MonitorLibrary) (entry : Uid × DeviceInfo) : List Event :=
  if goalApplied lib entry then
    [⟨.config, .info, .configGoalApplied, entry.1, false, [entry.1]⟩] else []

/-- The third pass. -/
theorem checkConfigStatusForAllDevices_effect (lib : MonitorLibrary) (devices : DeviceMap)
    (store : MonitorStore) :
    LogEffect store (checkConfigStatusForAllDevices lib devices store)
      (devices.flatMap (goalFilters lib)) (devices.flatMap (goalEvents lib)) := by
  refine LogEffect.foldl (fun store e => ?_) devices store
  rw [goalFilters, goalEvents]
  by_cases hlisted : (e.2.discovered && decide (e.2.discovery.manageability = .validConfig)) = true
  · rw [if_pos hlisted, checkConfigGoalStatus]
    dsimp only
    by_cases hnew : (!e.2.stored || getConfigGoalStatusForDevice lib e.1 !=
        e.2.storedState.configGoalStatus) = true
    · rw [if_pos hnew]
      by_cases hsuccess : getConfigGoalStatusForDevice lib e.1 = .success
      · have happlied : goalApplied lib e = true := by
          rw [goalApplied, hlisted, hnew, decide_eq_true hsuccess]
          rfl
        rw [if_pos hsuccess, if_pos happlied, if_pos happlied]
        exact ((LogEffect.storeEvent store rfl).trans (.acknowledgeEvents _ _)).trans
          (.acknowledgeEvents _ _)
      · have hnot : ¬ goalApplied lib e = true := by
          rw [goalApplied, decide_eq_false hsuccess, Bool.and_false]
          exact Bool.false_ne_true
        rw [if_neg hsuccess, if_neg hnot, if_neg hnot]
        exact .refl store
    · have hnot : ¬ goalApplied lib e = true := by
        rw [goalApplied, Bool.eq_false_iff.mpr hnew, Bool.and_false, Bool.false_and]
        exact Bool.false_ne_true
      rw [if_neg hnew, if_neg hnot, if_neg hnot]
      exact .refl store
  · have hnot : ¬ goalApplied lib e = true := by
      rw [goalApplied, Bool.eq_false_iff.mpr hlisted, Bool.false_and, Bool.false_and]
      exact Bool.false_ne_true
    rw [if_neg hlisted, if_neg hnot, if_neg hnot]
    exact .refl store

/-! ### The saved rows -/

/-- The rows that are saved for a map of devices. -/
def rowsToSave (lib : MonitorLibrary) (devices : DeviceMap) : List TopologyState :=
  (devices.filter fun e => e.2.discovered).map fun e => topologyStateFor lib e.1 e.2

/-- Rows are added to a table one after the other, up to the first that is refused. -/
def insertRows : List TopologyState → List TopologyState → List TopologyState × Bool
  | [], table => (table, true)
  | row :: rows, table =>
    match insertRow TopologyState.deviceHandle row table with
    | some table => insertRows rows table
    | none => (table, false)

/-- A table to which all rows have been added has these rows and those it had. -/
theorem perm_of_insertRows {rows table : List TopologyState} (h : (insertRows rows table).2 = true) :
    (insertRows rows table).1.Perm (rows ++ table) := by
  induction rows generalizing table with
  | nil => exact .refl _
  | cons row rows ih =>
    rw [insertRows] at h ⊢
    cases hinsert : insertRow TopologyState.deviceHandle row table with
    | none =>
      rw [hinsert] at h
      cases h
    | some table' =>
      rw [hinsert] at h
      exact (ih h).trans (((perm_of_insertRow hinsert).append_left rows).trans List.perm_middle)

/-- Rows with keys of their own are all added. -/
theorem insertRows_of_nodup {rows table : List TopologyState}
    (h : ((rows ++ table).map TopologyState.deviceHandle).Nodup) :
    (insertRows rows table).2 = true := by
  induction rows generalizing table with
  | nil => rfl
  | cons row rows ih =>
    rw [List.cons_append, List.map_cons, List.nodup_cons, List.map_append, List.mem_append,
      not_or] at h
    obtain ⟨table', htable'⟩ := insertRow_of_notMem h.1.2
    have hmid : (rows ++ table').Perm (row :: (rows ++ table)) :=
      ((perm_of_insertRow htable').append_left rows).trans List.perm_middle
    rw [insertRows, htable']
    refine ih ((hmid.map _).nodup_iff.mpr ?_)
    rw [List.map_cons, List.nodup_cons, List.map_append, List.mem_append, not_or]
    exact h

/-- No write to the database fails, but for the key of a row. -/
structure DbFaults.WritesSucceed (faults : DbFaults) : Prop where
  /-- The old rows are deleted. -/
  deleteStates : faults.deleteStates = false
  /-- The rows are added. -/
  addState : ∀ uid, faults.addState uid = false

/-- The loop that saves the rows. -/
theorem addTopologyStates_eq {faults : DbFaults} (h : faults.WritesSucceed) (lib : MonitorLibrary)
    (devices : DeviceMap) (store : MonitorStore) :
    addTopologyStates lib faults devices store =
      ({ store with topology := (insertRows (rowsToSave lib devices) store.topology).1 },
        (insertRows (rowsToSave lib devices) store.topology).2) := by
  induction devices generalizing store with
  | nil => rfl
  | cons e devices ih =>
    obtain ⟨uidStr, device⟩ := e
    rw [addTopologyStates, rowsToSave]
    by_cases hdiscovered : device.discovered = true
    · rw [if_pos hdiscovered, h.addState, if_neg Bool.false_ne_true,
        List.filter_cons_of_pos (p := fun e : Uid × DeviceInfo => e.2.discovered) hdiscovered,
        List.map_cons, insertRows, dbAddTopologyState]
      cases insertRow TopologyState.deviceHandle (topologyStateFor lib uidStr device)
          store.topology with
      | none => rfl
      | some rows => exact ih _
    · rw [if_neg hdiscovered,
        List.filter_cons_of_neg (p := fun e : Uid × DeviceInfo => e.2.discovered) hdiscovered]
      exact ih store

/-- The whole check: what it does to the log, and what it saves. -/
theorem checkDeviceStartUpStatus_eq {faults : DbFaults} (h : faults.WritesSucceed)
    (lib : MonitorLibrary) (store : MonitorStore) {devices : DeviceMap}
    (hdevices : getCurrentDeviceMapWithSavedTopology lib faults store = devices) :
    ∃ logged, LogEffect store logged
        ((if isSavedTopologyStateValid faults.validForChanges store then changeFilters devices
          else []) ++ devices.flatMap (goalFilters lib))
        ((if isSavedTopologyStateValid faults.validForChanges store then changeEvents devices
          else []) ++ devices.flatMap (goalEvents lib)) ∧
      checkDeviceStartUpStatus lib faults store =
        { logged with
          topology := (insertRows (rowsToSave lib devices) []).1
          topologyStateValid :=
            some (if (insertRows (rowsToSave lib devices) []).2 then 1 else 0) } := by
  have hchanges : LogEffect store (checkDeviceTopologyForChanges faults devices store)
      (if isSavedTopologyStateValid faults.validForChanges store then changeFilters devices else [])
      (if isSavedTopologyStateValid faults.validForChanges store then changeEvents devices
        else []) := by
    by_cases hvalid : isSavedTopologyStateValid faults.validForChanges store = true
    · rw [if_pos hvalid, if_pos hvalid]
      exact checkDeviceTopologyForChanges_effect hvalid devices
    · rw [checkDeviceTopologyForChanges, if_neg hvalid, if_neg hvalid, if_neg hvalid]
      exact .refl store
  refine ⟨_, hchanges.trans (checkConfigStatusForAllDevices_effect lib devices _), ?_⟩
  rw [checkDeviceStartUpStatus, hdevices, saveCurrentTopologyState, h.deleteStates,
    if_neg Bool.false_ne_true, addTopologyStates_eq h]

end IxpDimm
