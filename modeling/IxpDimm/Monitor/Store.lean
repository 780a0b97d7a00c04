import IxpDimm.Pool.Types
import Mathlib.Data.List.Perm.Basic

/-!
# The database of the monitor

The tables that the event monitor reads and writes: the event log, the saved topology with the flag
that marks it as valid, and the last observation of each DIMM.  An event stays in the log; what is
taken back of it, when it is acknowledged, is that it requires an action.

The tables of the topology and of the observations have the device handle as their primary key: a
second row with the same handle is refused, and the rows are read in the order of the handles.
-/

namespace IxpDimm

/-! ### Events -/

/-- `enum event_type`, without the two values that only a filter has. -/
inductive EventType
  | config | health | mgmt | diagQuick | diagPlatformConfig | diagSecurity | diagFwConsistency
  deriving DecidableEq, Repr

/-- `enum event_severity`. -/
inductive EventSeverity
  | info | warn | critical | fatal
  deriving DecidableEq, Repr

/-- The event codes of the monitor, and those of other parts of the library. -/
inductive EventCode
  | configGoalApplied
  | configTopologyAddedConfiguredDevice
  | configTopologyAddedNewDevice
  | configTopologyMissingDevice
  | configTopologyReplacedConfiguredDevice
  | configTopologyReplacedNewDevice
  | configTopologyMovedDevice
  | healthHealthStateChanged
  | healthNamespaceHealthStateChanged
  | healthNewFwErrorsFound
  | healthSanitizeInProgress
  | healthSanitizeComplete
  | other (code : UInt16)
  deriving DecidableEq, Repr

/-- `struct event`, as far as it is stored by `store_event_by_parts`. -/
structure Event where
  /-- The type. -/
  type : EventType
  /-- The severity. -/
  severity : EventSeverity
  /-- The code. -/
  code : EventCode
  /-- The unique id of the item that had the event. -/
  uid : Uid
  /-- Whether a corrective action is needed. -/
  actionRequired : Bool
  /-- The arguments of the message that are not `NULL`. -/
  args : List (List Char)
  deriving DecidableEq, Repr

/-- `struct event_filter`: the values whose bit is set in the mask. -/
structure EventFilter where
  /-- `NVM_FILTER_ON_TYPE`. -/
  type : Option EventType := none
  /-- `NVM_FILTER_ON_CODE`. -/
  code : Option EventCode := none
  /-- `NVM_FILTER_ON_UID`. -/
  uid : Option Uid := none
  /-- `NVM_FILTER_ON_AR`. -/
  actionRequired : Option Bool := none
  deriving DecidableEq, Repr

/-- `event_matches_filter`. -/
def eventMatchesFilter (filter : EventFilter) (event : Event) : Bool :=
  (filter.type.all fun type => type = event.type) &&
    (filter.code.all fun code => code = event.code) &&
    (filter.uid.all fun uid => uidCmp event.uid uid) &&
    (filter.actionRequired.all fun actionRequired => actionRequired = event.actionRequired)

/-- `acknowledge_events` for one event. -/
def Event.acknowledge (filter : EventFilter) (event : Event) : Event :=
  if eventMatchesFilter filter event then { event with actionRequired := false } else event

/-- The filter of `acknowledgeEventCodeForDevice`.  A code takes the place of the requirement that
an action is required. -/
def filterEventCodeForDevice (code : Option EventCode) (uid : Uid) : EventFilter :=
  match code with
  | none => { actionRequired := some true, uid := some uid }
  | some code => { code := some code, uid := some uid }

/-- The filter of `acknowledgeEventTypeForDevice`. -/
def filterEventTypeForDevice (type : EventType) (uid : Uid) : EventFilter :=
  { type := some type, uid := some uid }

/-! ### Tables -/

/-- `struct db_topology_state`. -/
structure TopologyState where
  /-- The device handle. -/
  deviceHandle : UInt32 := 0
  /-- The unique id. -/
  uid : Uid := []
  /-- The manufacturer. -/
  manufacturer : UInt32 := 0
  /-- The serial number. -/
  serialNum : UInt32 := 0
  /-- The part number, up to its terminator. -/
  partNum : List UInt8 := []
  /-- The status of the last configuration request. -/
  currentConfigStatus : ConfigStatus := .notConfigured
  /-- The status of the goal. -/
  configGoalStatus : ConfigGoalStatus := .unknown
  deriving DecidableEq, Repr

/-- `enum device_sanitize_status`. -/
inductive DeviceSanitizeStatus
  | unknown | notStarted | inProgress | complete
  deriving DecidableEq, Repr

/-- `struct db_dimm_state`. -/
structure DimmState where
  /-- The device handle. -/
  deviceHandle : UInt32 := 0
  /-- The health. -/
  healthState : DeviceHealth := .unknown
  /-- The sanitize status. -/
  sanitizeStatus : DeviceSanitizeStatus := .unknown
  /-- The reading of the firmware error sensor. -/
  fwLogErrors : UInt64 := 0
  deriving DecidableEq, Repr

/-- The database, as far as the monitor uses it. -/
structure MonitorStore where
  /-- The table `event`. -/
  events : List Event := []
  /-- The table `topology_state`. -/
  topology : List TopologyState := []
  /-- The value of `TOPOLOGY_STATE_VALID`, if there is one. -/
  topologyStateValid : Option ℤ := none
  /-- The table `dimm_state`. -/
  dimmStates : List DimmState := []
  deriving DecidableEq, Repr

/-- `store_event_by_parts`. -/
def storeEvent (event : Event) (store : MonitorStore) : MonitorStore :=
  { store with events := store.events ++ [event] }

/-- `acknowledge_events`. -/
def acknowledgeEvents (filter : EventFilter) (store : MonitorStore) : MonitorStore :=
  { store with events := store.events.map (Event.acknowledge filter) }

/-- A row is put at the place of its key, which is not there yet. -/
def insertRow {ρ : Type*} (key : ρ → UInt32) (row : ρ) : List ρ → Option (List ρ)
  | [] => some [row]
  | r :: rows =>
    if key row < key r then some (row :: r :: rows)
    else if key row = key r then none
    else (insertRow key row rows).map (r :: ·)

/-- A row whose key is not in the table is inserted. -/
theorem insertRow_of_notMem {ρ : Type*} {key : ρ → UInt32} {row : ρ} {rows : List ρ}
    (h : key row ∉ rows.map key) : ∃ rows', insertRow key row rows = some rows' := by
  induction rows with
  | nil => exact ⟨[row], rfl⟩
  | cons r rows ih =>
    rw [List.map_cons, List.mem_cons, not_or] at h
    obtain ⟨rows', hrows'⟩ := ih h.2
    rw [insertRow, if_neg h.1, hrows', Option.map_some]
    split_ifs
    · exact ⟨_, rfl⟩
    · exact ⟨_, rfl⟩

/-- A table with a row inserted has this row and the others. -/
theorem perm_of_insertRow {ρ : Type*} {key : ρ → UInt32} {row : ρ} {rows rows' : List ρ}
    (h : insertRow key row rows = some rows') : rows'.Perm (row :: rows) := by
  induction rows generalizing rows' with
  | nil =>
    obtain rfl := Option.some.inj h
    exact .refl _
  | cons r rows ih =>
    rw [insertRow] at h
    split_ifs at h with hlt
    · obtain rfl := Option.some.inj h
      exact .refl _
    · obtain ⟨rest, hrest, rfl⟩ := Option.map_eq_some_iff.mp h
      exact ((ih hrest).cons r).trans (.swap row r rows)

/-- `db_add_topology_state`. -/
def dbAddTopologyState (row : TopologyState) (store : MonitorStore) : Option MonitorStore :=
  (insertRow TopologyState.deviceHandle row store.topology).map fun rows =>
    { store with topology := rows }

/-- `db_get_dimm_state_by_device_handle`. -/
def dbGetDimmStateByDeviceHandle (handle : UInt32) (store : MonitorStore) : Option DimmState :=
  store.dimmStates.find? fun row => row.deviceHandle = handle

/-- `db_delete_dimm_state_by_device_handle`. -/
def dbDeleteDimmStateByDeviceHandle (handle : UInt32) (store : MonitorStore) : MonitorStore :=
  { store with dimmStates := store.dimmStates.filter fun row => row.deviceHandle ≠ handle }

/-- `db_add_dimm_state`. -/
def dbAddDimmState (row : DimmState) (store : MonitorStore) : Option MonitorStore :=
  (insertRow DimmState.deviceHandle row store.dimmStates).map fun rows =>
    { store with dimmStates := rows }

end IxpDimm
