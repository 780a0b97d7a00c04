import IxpDimm.Monitor.Poll
import Mathlib.Data.List.Chain

/-!
# Changes of the status over a run of polls

A DIMM is polled again and again.  Its row is the memory of the monitor: a change is seen when the
row differs from what is observed.  The health is written back whenever it has changed, but the
status of the sanitize operation only when an operation is in progress or complete.  After an
operation in progress has been seen, a return to "not started" is not written, and the next operation
is not logged.

`observesRun_iff` says that the polls log what has changed from one to the next, and save what they
have observed, exactly when the status of the sanitize operation never changes to another value than
"in progress" and "complete".
-/

namespace IxpDimm

/-! ### Runs of polls -/

/-- A poll of a DIMM. -/
structure Poll where
  /-- The library at the time of the poll. -/
  lib : MonitorLibrary
  /-- What it says about the DIMM. -/
  device : DeviceInfo
  /-- The database before the poll. -/
  store : MonitorStore

namespace Poll

/-- The database after the poll. -/
def after (poll : Poll) : MonitorStore := monitorChangesForDevice poll.lib poll.device poll.store

/-- The events that the poll has logged. -/
def logged (poll : Poll) : List Event := poll.after.events.drop poll.store.events.length

/-- The poll has logged an event with a code. -/
def Logs (poll : Poll) (code : EventCode) : Prop := ∃ event ∈ poll.logged, event.code = code

/-- The health that is observed. -/
def health (poll : Poll) : DeviceHealth := poll.device.status.health

/-- The status of the sanitize operation that is observed. -/
def sanitizeStatus (poll : Poll) : DeviceSanitizeStatus := poll.device.status.sanitizeStatus

/-- The row of the DIMM after the poll is what was observed. -/
def SavesObservation (poll : Poll) : Prop :=
  ∃ row, dbGetDimmStateByDeviceHandle poll.device.discovery.deviceHandle poll.after = some row ∧
    row.healthState = poll.health ∧ row.sanitizeStatus = poll.sanitizeStatus

end Poll

/-- Polls of a manageable DIMM at a handle.  Between two polls anything may happen to the database,
but for the row of the DIMM. -/
structure PollsOf (handle : UInt32) (polls : List Poll) : Prop where
  /-- The DIMM is manageable. -/
  manageable : ∀ poll ∈ polls, poll.device.discovery.manageability = .validConfig
  /-- It is at the handle. -/
  atHandle : ∀ poll ∈ polls, poll.device.discovery.deviceHandle = handle
  /-- A poll finds the row that the one before has left. -/
  rowKept : polls.IsChain fun previous poll =>
    dbGetDimmStateByDeviceHandle handle poll.store =
      dbGetDimmStateByDeviceHandle handle previous.after

/-- A poll logs what has changed since the one before. -/
structure LogsChanges (previous poll : Poll) : Prop where
  /-- A change of the health. -/
  health : poll.Logs .healthHealthStateChanged ↔ poll.health ≠ previous.health
  /-- A sanitize operation that is in progress. -/
  inProgress : poll.Logs .healthSanitizeInProgress ↔
    poll.sanitizeStatus = .inProgress ∧ poll.sanitizeStatus ≠ previous.sanitizeStatus
  /-- A sanitize operation that is complete. -/
  complete : poll.Logs .healthSanitizeComplete ↔
    poll.sanitizeStatus = .complete ∧ poll.sanitizeStatus ≠ previous.sanitizeStatus

/-- Every poll after the first logs what has changed, and every poll saves what it has observed. -/
structure ObservesRun (polls : List Poll) : Prop where
  /-- The changes are logged. -/
  changes : polls.IsChain LogsChanges
  /-- The observations are saved. -/
  saved : ∀ poll ∈ polls, poll.SavesObservation

/-- The status of the sanitize operation is one that is written back, or is already there. -/
def SanitizeKept (status saved : DeviceSanitizeStatus) : Prop :=
  status = .inProgress ∨ status = .complete ∨ status = saved

/-- The status of the sanitize operation never changes to another value than "in progress" and
"complete": not from the row that the first poll finds, and not from one poll to the next. -/
structure SanitizeStatusesKept (polls : List Poll) : Prop where
  /-- The first poll finds no row, or one that it leaves right. -/
  first : ∀ poll ∈ polls.head?, ∀ row,
    dbGetDimmStateByDeviceHandle poll.device.discovery.deviceHandle poll.store = some row →
      SanitizeKept poll.sanitizeStatus row.sanitizeStatus
  /-- From one poll to the next. -/
  later : polls.IsChain fun previous poll =>
    SanitizeKept poll.sanitizeStatus previous.sanitizeStatus

/-- The polls of the DIMM at a handle. -/
def pollsAt (handle : UInt32) (polls : List Poll) : List Poll :=
  polls.filter fun poll => poll.device.discovery.deviceHandle = handle

/-- Polls of DIMMs, one after the other. -/
def runPolls : List (MonitorLibrary × DeviceInfo) → MonitorStore → List Poll
  | [], _ => []
  | (lib, device) :: observations, store =>
    ⟨lib, device, store⟩ :: runPolls observations (monitorChangesForDevice lib device store)

/-! ### One poll -/

/-- The events that a poll with a row logs. -/
theorem Poll.map_acknowledged_logged {poll : Poll} {state : DimmState}
    (hvalid : poll.device.discovery.manageability = .validConfig)
    (hsaved : getSavedStateForDevice poll.device poll.store = some state) :
    poll.logged.map Event.acknowledged =
      (pollEvents poll.lib poll.device state).map Event.acknowledged := by
  obtain ⟨hevents, -⟩ := monitorChangesForDevice_of_some poll.lib hvalid hsaved
  have hlength : (loggedEvents poll.store).length = poll.store.events.length := List.length_map _
  rw [Poll.logged, List.map_drop, ← loggedEvents, Poll.after, hevents, List.drop_left' hlength]

/-- The codes that a poll with a row logs. -/
private theorem logs_iff {poll : Poll} {state : DimmState}
    (hvalid : poll.device.discovery.manageability = .validConfig)
    (hsaved : getSavedStateForDevice poll.device poll.store = some state) (code : EventCode) :
    poll.Logs code ↔ code ∈ (pollEvents poll.lib poll.device state).map Event.code := by
  have hcodes (events : List Event) :
      events.map Event.code = (events.map Event.acknowledged).map Event.code := by
    rw [List.map_map]
    rfl
  rw [hcodes, ← Poll.map_acknowledged_logged hvalid hsaved, ← hcodes, List.mem_map]
  rfl

/-- The codes of the events about the status. -/
private theorem mem_codes_pollEvents (lib : MonitorLibrary) (device : DeviceInfo)
    (state : DimmState) :
    (.healthHealthStateChanged ∈ (pollEvents lib device state).map Event.code ↔
        device.status.health ≠ state.healthState) ∧
      (.healthSanitizeInProgress ∈ (pollEvents lib device state).map Event.code ↔
        device.status.sanitizeStatus = .inProgress ∧
          device.status.sanitizeStatus ≠ state.sanitizeStatus) ∧
      (.healthSanitizeComplete ∈ (pollEvents lib device state).map Event.code ↔
        device.status.sanitizeStatus = .complete ∧
          device.status.sanitizeStatus ≠ state.sanitizeStatus) := by
  have hcodes : (pollEvents lib device state).map Event.code =
      (newFwErrors lib device state).toList.map (fun _ => .healthNewFwErrorsFound) ++
        (if device.status.health = state.healthState then [] else [.healthHealthStateChanged]) ++
        (sanitizeCode state.sanitizeStatus device.status.sanitizeStatus).toList := by
    rw [pollEvents, List.map_append, List.map_append, apply_ite (List.map Event.code)]
    cases newFwErrors lib device state <;>
      cases sanitizeCode state.sanitizeStatus device.status.sanitizeStatus <;> rfl
  have herrors : ∀ code : EventCode, code ≠ .healthNewFwErrorsFound →
      code ∉ (newFwErrors lib device state).toList.map fun _ => .healthNewFwErrorsFound := by
    intro code hcode hmem
    obtain ⟨_, -, heq⟩ := List.mem_map.mp hmem
    exact hcode heq.symm
  have hhealth : ∀ code : EventCode,
      (code ∈ if device.status.health = state.healthState then []
        else [EventCode.healthHealthStateChanged]) ↔
        code = .healthHealthStateChanged ∧ device.status.health ≠ state.healthState := by
    intro code
    by_cases hsame : device.status.health = state.healthState
    · rw [if_pos hsame]
      exact iff_of_false List.not_mem_nil fun h => h.2 hsame
    · rw [if_neg hsame, List.mem_singleton]
      exact ⟨fun h => ⟨h, hsame⟩, And.left⟩
  have hsanitize : ∀ old new : DeviceSanitizeStatus,
      .healthHealthStateChanged ∉ (sanitizeCode old new).toList ∧
        (.healthSanitizeInProgress ∈ (sanitizeCode old new).toList ↔
          new = .inProgress ∧ new ≠ old) ∧
        (.healthSanitizeComplete ∈ (sanitizeCode old new).toList ↔
          new = .complete ∧ new ≠ old) := by
    intro old new
    cases old <;> cases new <;> decide
  obtain ⟨hnot, hprogress, hcomplete⟩ :=
    hsanitize state.sanitizeStatus device.status.sanitizeStatus
  rw [hcodes]
  simp only [List.mem_append, hhealth, hprogress, hcomplete, hnot,
    herrors .healthHealthStateChanged (by decide), herrors .healthSanitizeInProgress (by decide),
    herrors .healthSanitizeComplete (by decide), false_or, or_false, true_and, reduceCtorEq,
    false_and]

/-- A poll saves what it observes when the status of the sanitize operation is kept. -/
private theorem savesObservation_iff {poll : Poll}
    (hvalid : poll.device.discovery.manageability = .validConfig) :
    poll.SavesObservation ↔ ∀ row,
      dbGetDimmStateByDeviceHandle poll.device.discovery.deviceHandle poll.store = some row →
        SanitizeKept poll.sanitizeStatus row.sanitizeStatus := by
  rw [Poll.SavesObservation, Poll.after]
  cases hsaved : getSavedStateForDevice poll.device poll.store with
  | none =>
    obtain ⟨-, hrow⟩ := monitorChangesForDevice_of_none poll.lib hvalid hsaved
    rw [getSavedStateForDevice] at hsaved hrow
    rw [hsaved, hrow]
    exact iff_of_true ⟨_, rfl, rfl, rfl⟩ fun row hnone => by cases hnone
  | some state =>
    obtain ⟨-, hrow⟩ := monitorChangesForDevice_of_some poll.lib hvalid hsaved
    rw [getSavedStateForDevice] at hsaved hrow
    rw [hsaved, hrow]
    constructor
    · rintro ⟨row, hobserved, -, hsanitize⟩ row' hsome
      obtain rfl := Option.some.inj hobserved
      obtain rfl := Option.some.inj hsome
      by_cases hwritten : poll.sanitizeStatus = .inProgress ∨ poll.sanitizeStatus = .complete
      · exact hwritten.elim .inl fun h => .inr (.inl h)
      · refine .inr (.inr (hsanitize.symm.trans ?_))
        exact if_neg hwritten
    · intro hkept
      refine ⟨_, rfl, rfl, ?_⟩
      rw [observedState]
      rcases hkept state rfl with hprogress | hcomplete | hsame
      · exact if_pos (.inl hprogress)
      · exact if_pos (.inr hcomplete)
      · exact (ite_congr rfl (fun _ => rfl) fun _ => hsame.symm).trans (ite_self _)

/-- A poll that finds the observation of the one before logs what has changed. -/
private theorem logsChanges_of_saved {previous poll : Poll} {handle : UInt32}
    (hvalid : poll.device.discovery.manageability = .validConfig)
    (hsaved : previous.SavesObservation)
    (hprevious : previous.device.discovery.deviceHandle = handle)
    (hhandle : poll.device.discovery.deviceHandle = handle)
    (hrow : dbGetDimmStateByDeviceHandle handle poll.store =
      dbGetDimmStateByDeviceHandle handle previous.after) :
    LogsChanges previous poll := by
  obtain ⟨row, hfound, hhealth, hsanitize⟩ := hsaved
  rw [hprevious, ← hrow, ← hhandle] at hfound
  obtain ⟨hchanged, hprogress, hcomplete⟩ := mem_codes_pollEvents poll.lib poll.device row
  refine ⟨?_, ?_, ?_⟩
  · rw [logs_iff hvalid hfound, hchanged, hhealth]
    rfl
  · rw [logs_iff hvalid hfound, hprogress, hsanitize]
    rfl
  · rw [logs_iff hvalid hfound, hcomplete, hsanitize]
    rfl

/-- After a poll that saves what it observes, the next one finds this observation. -/
private theorem sanitizeKept_next {previous poll : Poll} {handle : UInt32}
    (hsaved : previous.SavesObservation)
    (hprevious : previous.device.discovery.deviceHandle = handle)
    (hhandle : poll.device.discovery.deviceHandle = handle)
    (hrow : dbGetDimmStateByDeviceHandle handle poll.store =
      dbGetDimmStateByDeviceHandle handle previous.after) :
    (∀ row, dbGetDimmStateByDeviceHandle poll.device.discovery.deviceHandle poll.store = some row →
      SanitizeKept poll.sanitizeStatus row.sanitizeStatus) ↔
        SanitizeKept poll.sanitizeStatus previous.sanitizeStatus := by
  obtain ⟨row, hfound, -, hsanitize⟩ := hsaved
  rw [hprevious, ← hrow, ← hhandle] at hfound
  rw [hfound, ← hsanitize]
  constructor
  · exact fun h => h row rfl
  · intro h row' hrow'
    rwa [← Option.some.inj hrow']

/-! ### All polls -/

/-- The polls after the first one. -/
theorem PollsOf.tail {handle : UInt32} {poll : Poll} {polls : List Poll}
    (h : PollsOf handle (poll :: polls)) : PollsOf handle polls :=
  ⟨fun p hp => h.manageable p (List.mem_cons_of_mem _ hp),
    fun p hp => h.atHandle p (List.mem_cons_of_mem _ hp), h.rowKept.tail⟩

/-- The observations are saved when the status of the sanitize operation is kept. -/
private theorem forall_savesObservation_iff {handle : UInt32} {poll : Poll} {polls : List Poll}
    (h : PollsOf handle (poll :: polls)) :
    (∀ p ∈ poll :: polls, p.SavesObservation) ↔ SanitizeStatusesKept (poll :: polls) := by
  have hpoll := savesObservation_iff (h.manageable poll List.mem_cons_self)
  have hfirst : ∀ {rest : List Poll}, SanitizeStatusesKept (poll :: rest) →
      poll.SavesObservation := fun hkept => hpoll.mpr (hkept.first poll rfl)
  induction polls generalizing poll with
  | nil =>
    rw [List.forall_mem_singleton]
    refine ⟨fun hsaved => ⟨fun p hp => ?_, .singleton _⟩, hfirst⟩
    obtain rfl := Option.some.inj hp
    exact hpoll.mp hsaved
  | cons next polls ih =>
    have hnext := savesObservation_iff (h.tail.manageable next List.mem_cons_self)
    have hstep (hsaved : poll.SavesObservation) := sanitizeKept_next hsaved
      (h.atHandle poll List.mem_cons_self) (h.tail.atHandle next List.mem_cons_self)
      (List.isChain_cons_cons.mp h.rowKept).1
    have hrest : (∀ p ∈ next :: polls, p.SavesObservation) ↔ SanitizeStatusesKept (next :: polls) :=
      ih h.tail hnext fun hkept => hnext.mpr (hkept.first next rfl)
    rw [List.forall_mem_cons, hrest]
    constructor
    · rintro ⟨hsaved, hkept⟩
      refine ⟨fun p hp => ?_, List.isChain_cons_cons.mpr ⟨?_, hkept.later⟩⟩
      · obtain rfl := Option.some.inj hp
        exact hpoll.mp hsaved
      · exact (hstep hsaved).mp (hkept.first next rfl)
    · intro hkept
      obtain ⟨hnow, hlater⟩ := List.isChain_cons_cons.mp hkept.later
      refine ⟨hfirst hkept, fun p hp => ?_, hlater⟩
      obtain rfl := Option.some.inj hp
      exact (hstep (hfirst hkept)).mpr hnow

/-- Polls that save what they observe log what has changed. -/
private theorem isChain_logsChanges {handle : UInt32} {polls : List Poll} (h : PollsOf handle polls)
    (hsaved : ∀ p ∈ polls, p.SavesObservation) : polls.IsChain LogsChanges := by
  induction polls with
  | nil => exact .nil
  | cons poll polls ih =>
    cases polls with
    | nil => exact .singleton poll
    | cons next polls =>
      rw [List.forall_mem_cons] at hsaved
      refine List.isChain_cons_cons.mpr ⟨?_, ih h.tail hsaved.2⟩
      exact logsChanges_of_saved (h.tail.manageable next List.mem_cons_self) hsaved.1
        (h.atHandle poll List.mem_cons_self) (h.tail.atHandle next List.mem_cons_self)
        (List.isChain_cons_cons.mp h.rowKept).1

/-- A run of polls logs the changes and saves the observations exactly when the status of the sanitize
operation is kept. -/
theorem observesRun_iff {handle : UInt32} {polls : List Poll} (h : PollsOf handle polls) :
    ObservesRun polls ↔ SanitizeStatusesKept polls := by
  cases polls with
  | nil =>
    refine iff_of_true ⟨.nil, fun p hp => absurd hp List.not_mem_nil⟩ ⟨?_, .nil⟩
    exact fun p hp => (Option.not_mem_none _ hp).elim
  | cons poll polls =>
    rw [← forall_savesObservation_iff h]
    exact ⟨ObservesRun.saved, fun hsaved => ⟨isChain_logsChanges h hsaved, hsaved⟩⟩

/-! ### Polls of several DIMMs -/

/-- A row is inserted, and the row of another handle stays. -/
private theorem find?_of_insertRow {row : DimmState} {rows rows' : List DimmState} {handle : UInt32}
    (hne : row.deviceHandle ≠ handle)
    (h : insertRow DimmState.deviceHandle row rows = some rows') :
    rows'.find? (fun r => r.deviceHandle = handle) = rows.find? fun r => r.deviceHandle = handle := by
  induction rows generalizing rows' with
  | nil =>
    obtain rfl := Option.some.inj h
    exact List.find?_cons_of_neg fun hkey => hne (of_decide_eq_true hkey)
  | cons r rows ih =>
    rw [insertRow] at h
    split_ifs at h
    · obtain rfl := Option.some.inj h
      exact List.find?_cons_of_neg fun hkey => hne (of_decide_eq_true hkey)
    · obtain ⟨rest, hrest, rfl⟩ := Option.map_eq_some_iff.mp h
      rw [List.find?_cons, List.find?_cons, ih hrest]

/-- Saving the row of a DIMM keeps the rows of the others. -/
private theorem dbGetDimmState_saveStateForDevice_of_ne {state : DimmState} {handle : UInt32}
    (hne : state.deviceHandle ≠ handle) (store : MonitorStore) :
    dbGetDimmStateByDeviceHandle handle (saveStateForDevice state store) =
      dbGetDimmStateByDeviceHandle handle store := by
  have hdeleted : (store.dimmStates.filter fun row => row.deviceHandle ≠ state.deviceHandle).find?
      (fun row => row.deviceHandle = handle) =
        store.dimmStates.find? fun row => row.deviceHandle = handle := by
    rw [List.find?_filter]
    congr 1
    funext row
    by_cases hrow : row.deviceHandle = handle
    · have hother : row.deviceHandle ≠ state.deviceHandle := fun h => hne (h.symm.trans hrow)
      simp only [hrow, decide_true, and_true, decide_eq_true_eq]
      exact hrow ▸ hother
    · simp only [hrow, decide_false, Bool.false_eq_true, and_false]
  rw [saveStateForDevice, dbAddDimmState]
  cases hinsert : insertRow DimmState.deviceHandle state
      (dbDeleteDimmStateByDeviceHandle state.deviceHandle store).dimmStates with
  | none => exact hdeleted
  | some rows => exact (find?_of_insertRow hne hinsert).trans hdeleted

/-- The poll of a DIMM keeps the rows of the others. -/
theorem dbGetDimmState_monitorChangesForDevice_of_ne (lib : MonitorLibrary) {device : DeviceInfo}
    {handle : UInt32} (hne : device.discovery.deviceHandle ≠ handle) (store : MonitorStore) :
    dbGetDimmStateByDeviceHandle handle (monitorChangesForDevice lib device store) =
      dbGetDimmStateByDeviceHandle handle store := by
  rw [monitorChangesForDevice]
  by_cases hvalid : device.discovery.manageability = .validConfig
  · rw [if_pos hvalid]
    cases hsaved : getSavedStateForDevice device store with
    | none => exact dbGetDimmState_saveStateForDevice_of_ne hne store
    | some savedState =>
      have hhandle : savedState.deviceHandle = device.discovery.deviceHandle := by
        have hkey := List.find?_some hsaved
        exact of_decide_eq_true hkey
      have hsensor (state : DimmState) (store : MonitorStore) :
          (processSensorStateChangesForDevice lib device state store).2.dimmStates =
            store.dimmStates := by
        rw [processSensorStateChangesForDevice, detectFwErrorSensorChanges]
        split_ifs <;> rfl
      have hhealth (state : DimmState) (store : MonitorStore) :
          (processHealthChangesForDevice device state store).2.dimmStates = store.dimmStates := by
        rw [processHealthChangesForDevice]
        split_ifs <;> rfl
      have hsanitize (state : DimmState) (store : MonitorStore) :
          (processSanitizeChangesForDevice device state store).2.dimmStates = store.dimmStates := by
        rw [processSanitizeChangesForDevice, createSanitizeOperationEvent]
        split_ifs <;> rfl
      dsimp only
      rw [dbGetDimmState_saveStateForDevice_of_ne, dbGetDimmStateByDeviceHandle, hsanitize, hhealth,
        hsensor, dbGetDimmStateByDeviceHandle]
      rw [(processSanitizeChangesForDevice_eq device _ _).1,
        (processHealthChangesForDevice_eq device _ _).1,
        (processSensorStateChangesForDevice_eq lib device _ _).1, hhandle]
      exact hne
  · rw [if_neg hvalid]

/-- In a run of polls of several DIMMs, those at one handle are polls of the DIMM there. -/
theorem pollsOf_runPolls {handle : UInt32} {observations : List (MonitorLibrary × DeviceInfo)}
    (h : ∀ o ∈ observations, o.2.discovery.deviceHandle = handle →
      o.2.discovery.manageability = .validConfig) (store : MonitorStore) :
    PollsOf handle (pollsAt handle (runPolls observations store)) ∧
      ∀ poll ∈ (pollsAt handle (runPolls observations store)).head?,
        dbGetDimmStateByDeviceHandle handle poll.store =
          dbGetDimmStateByDeviceHandle handle store := by
  induction observations generalizing store with
  | nil =>
    refine ⟨⟨fun p hp => ?_, fun p hp => ?_, .nil⟩, fun p hp => (Option.not_mem_none _ hp).elim⟩
    · exact absurd hp List.not_mem_nil
    · exact absurd hp List.not_mem_nil
  | cons observation observations ih =>
    obtain ⟨lib, device⟩ := observation
    rw [List.forall_mem_cons] at h
    obtain ⟨hrest, hhead⟩ := ih h.2 (monitorChangesForDevice lib device store)
    rw [runPolls, pollsAt, List.filter_cons]
    by_cases hhandle : device.discovery.deviceHandle = handle
    · rw [if_pos (decide_eq_true hhandle)]
      refine ⟨⟨?_, ?_, List.isChain_cons.mpr ⟨hhead, hrest.rowKept⟩⟩, fun p hp => ?_⟩
      · exact List.forall_mem_cons.mpr ⟨h.1 hhandle, hrest.manageable⟩
      · exact List.forall_mem_cons.mpr ⟨hhandle, hrest.atHandle⟩
      · rw [← Option.some.inj hp]
    · rw [if_neg fun hkey => hhandle (of_decide_eq_true hkey)]
      refine ⟨hrest, fun p hp => (hhead p hp).trans ?_⟩
      exact dbGetDimmState_monitorChangesForDevice_of_ne lib hhandle store

/-- A manageable DIMM that is healthy and has a sanitize status, and no sensors. -/
private def sanitizing (status : DeviceSanitizeStatus) : MonitorLibrary × DeviceInfo :=
  (⟨none, fun _ => none, fun _ => none, fun _ => none⟩,
    { discovered := true
      discovery := { manageability := .validConfig }
      status := { health := .normal, sanitizeStatus := status } })

/-- A sanitize operation that is seen once is logged. -/
theorem observesRun_oneSanitize :
    PollsOf 0 (pollsAt 0
        (runPolls [sanitizing .notStarted, sanitizing .inProgress, sanitizing .complete] {})) ∧
      ObservesRun (pollsAt 0
        (runPolls [sanitizing .notStarted, sanitizing .inProgress, sanitizing .complete] {})) := by
  have hpolls : PollsOf 0 (pollsAt 0
      (runPolls [sanitizing .notStarted, sanitizing .inProgress, sanitizing .complete] {})) :=
    (pollsOf_runPolls (by simp [sanitizing]) {}).1
  refine ⟨hpolls, (observesRun_iff hpolls).mpr ⟨fun poll hpoll row hrow => ?_, ?_⟩⟩
  · obtain rfl := Option.some.inj hpoll
    cases hrow
  · exact .cons_cons (.inl rfl) (.cons_cons (.inr (.inl rfl)) (.singleton _))

/-- A DIMM is sanitized twice, and the second operation is not logged: the row still says that one is
in progress. -/
theorem not_observesRun_twoSanitizes :
    PollsOf 0 (pollsAt 0 (runPolls [sanitizing .notStarted, sanitizing .inProgress,
        sanitizing .notStarted, sanitizing .inProgress] {})) ∧
      ¬ ObservesRun (pollsAt 0 (runPolls [sanitizing .notStarted, sanitizing .inProgress,
        sanitizing .notStarted, sanitizing .inProgress] {})) := by
  refine ⟨(pollsOf_runPolls (by simp [sanitizing]) {}).1, fun hruns => ?_⟩
  obtain ⟨-, hchanges⟩ := List.isChain_cons_cons.mp hruns.changes
  obtain ⟨-, hchanges⟩ := List.isChain_cons_cons.mp hchanges
  obtain ⟨hlast, -⟩ := List.isChain_cons_cons.mp hchanges
  have hnone : ∀ poll ∈ (pollsAt 0 (runPolls [sanitizing .notStarted, sanitizing .inProgress,
      sanitizing .notStarted, sanitizing .inProgress] {})).drop 3, poll.logged = [] := by
    decide +kernel
  obtain ⟨event, hevent, -⟩ := hlast.inProgress.mpr ⟨rfl, by decide⟩
  rw [hnone _ List.mem_cons_self] at hevent
  exact List.not_mem_nil hevent

end IxpDimm
