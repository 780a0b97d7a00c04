import IxpDimm.Firmware.ErrorLog
import IxpDimm.Monitor.StatusChanges
import Mathlib.Algebra.BigOperators.Group.List.Basic
import Mathlib.Data.List.GetD

/-!
# New firmware errors over a run of polls

The firmware appends entries to the error logs of a DIMM, and the monitor polls the DIMM.  A poll
reads the number of entries from a sensor and reports by how much it has grown.

`errorsReported_iff` says that the counts are right and the reports add up to the entries that were
appended exactly in the runs in which every log is empty whenever it is read.
-/

namespace IxpDimm

/-! ### The sensors of a DIMM -/

/-- `KEEP_ERROR`. -/
def keepError (rc rcNew : ℤ) : ℤ := if rc < 0 then rc else rcNew

/-- The sensor of the firmware errors is one of the ten. -/
theorem fwErrorCount_lt : 7 < 10 := by decide

/-- `getSensors` of `NvmLibrary`, over `nvm_get_sensors`: the readings of the sensors, with the return
code and the readings of `get_smart_log_sensors`. -/
def getSensors (smartRc : ℤ) (smartReadings : Vector UInt64 10)
    (logInfo : FwErrorLogId → Except ℤ FwLogInfoData) : Option (List UInt64) :=
  let (fwRc, errorCount) := getFwErrorLogSensors logInfo
  let rc := keepError (keepError 0 smartRc) fwRc
  if rc < 0 then none
  else if fwRc = 0 then some (smartReadings.set 7 errorCount.toUInt64 fwErrorCount_lt).toList
  else some smartReadings.toList

/-! ### Runs -/

/-- The error logs of a DIMM. -/
abbrev FwErrorLogs := FwErrorLogId → FwErrorLog

/-- The logs after an entry has been appended. -/
def appendEntry (logs : FwErrorLogs) (id : FwErrorLogId) : FwErrorLogs :=
  Function.update logs id (logs id).append

/-- The logs after entries have been appended, one after the other. -/
def appendEntries (logs : FwErrorLogs) (appended : List FwErrorLogId) : FwErrorLogs :=
  appended.foldl appendEntry logs

/-- A poll of a DIMM, with what has happened to its error logs. -/
structure FwPoll where
  /-- The logs to which entries have been appended since the last poll. -/
  appended : List FwErrorLogId
  /-- The return code of the query of a log. -/
  queryRc : FwErrorLogId → ℤ
  /-- The return code of `get_smart_log_sensors`. -/
  smartRc : ℤ
  /-- The readings of the other sensors. -/
  smartReadings : Vector UInt64 10
  /-- The poll. -/
  poll : Poll

namespace FwPoll

/-- What `fw_get_fw_error_log_info_data` returns for a log. -/
def logInfo (emptyInfo : FwErrorLogId → FwLogInfoData) (logs : FwErrorLogs) (p : FwPoll)
    (id : FwErrorLogId) : Except ℤ FwLogInfoData :=
  if p.queryRc id = 0 then .ok ((logs id).info (emptyInfo id)) else .error (p.queryRc id)

/-- All calls of the poll succeed. -/
structure Succeeds (p : FwPoll) : Prop where
  /-- The queries of the logs. -/
  queries : ∀ id, p.queryRc id = 0
  /-- The other sensors. -/
  smart : p.smartRc = 0

end FwPoll

/-- The number of new errors that a poll reports. -/
def Poll.reportedErrors (poll : Poll) : ℕ :=
  ((getSavedStateForDevice poll.device poll.store).bind
    (newFwErrors poll.lib poll.device)).elim 0 UInt64.toNat

/-- The polls of a run, each with the logs that it finds. -/
def pollsWithLogs : FwErrorLogs → List FwPoll → List (FwPoll × FwErrorLogs)
  | _, [] => []
  | logs, p :: polls =>
    (p, appendEntries logs p.appended) :: pollsWithLogs (appendEntries logs p.appended) polls

/-- A run of polls of the DIMM at a handle, whose sensors read its logs. -/
structure FwRun (emptyInfo : FwErrorLogId → FwLogInfoData) (handle : UInt32) (logs : FwErrorLogs)
    (polls : List FwPoll) : Prop where
  /-- They are polls of the DIMM. -/
  pollsOf : PollsOf handle (polls.map FwPoll.poll)
  /-- The library reads the sensors of the DIMM. -/
  sensors : ∀ e ∈ pollsWithLogs logs polls,
    e.1.poll.lib.getSensors e.1.poll.device.discovery.uid =
      getSensors e.1.smartRc e.1.smartReadings (e.1.logInfo emptyInfo e.2)

/-- The counts are right, and the reports add up. -/
structure ErrorsReported (emptyInfo : FwErrorLogId → FwLogInfoData) (logs : FwErrorLogs)
    (polls : List FwPoll) : Prop where
  /-- The count of a log that is read and not empty is the number of its entries. -/
  count : ∀ e ∈ pollsWithLogs logs polls, ∀ id, e.1.queryRc id = 0 → (e.2 id).entries ≠ [] →
    fwGetFwErrorLogCount (e.1.logInfo emptyInfo e.2 id) = (e.2 id).entries.length
  /-- From the first poll on, the reports add up to the entries that have been appended, as long as
  no call fails and fewer entries are appended to a log between two polls than it keeps. -/
  sum : ∀ first later, first :: later <+: polls → (∀ p ∈ first :: later, p.Succeeds) →
    (∀ p ∈ later, ∀ id, p.appended.count id < (logs id).maxLogEntries.toNat) →
    (later.map fun p => p.poll.reportedErrors).sum = (later.map fun p => p.appended.length).sum

/-- Every log that is read is empty. -/
def ReadsEmptyLogs (logs : FwErrorLogs) (polls : List FwPoll) : Prop :=
  ∀ e ∈ pollsWithLogs logs polls, ∀ id, e.1.queryRc id = 0 → (e.2 id).entries = []

/-! ### What is reported -/

/-! ### The logs of a run -/

/-- A log keeps its size when an entry is appended. -/
private theorem maxLogEntries_appendEntry (logs : FwErrorLogs) (id id' : FwErrorLogId) :
    (appendEntry logs id id').maxLogEntries = (logs id').maxLogEntries := by
  rw [appendEntry]
  by_cases hid : id' = id
  · subst hid
    rw [Function.update_self]
    rfl
  · rw [Function.update_of_ne hid]

/-- A log keeps its size when entries are appended. -/
private theorem maxLogEntries_appendEntries (logs : FwErrorLogs) (appended : List FwErrorLogId)
    (id : FwErrorLogId) :
    (appendEntries logs appended id).maxLogEntries = (logs id).maxLogEntries := by
  induction appended generalizing logs with
  | nil => rfl
  | cons first appended ih => exact (ih _).trans (maxLogEntries_appendEntry logs first id)

/-- A log holds an entry when it has held one, or one has been appended. -/
private theorem entries_appendEntries_ne_nil {logs : FwErrorLogs} {appended : List FwErrorLogId}
    {id : FwErrorLogId} (hpos : 0 < (logs id).maxLogEntries.toNat)
    (h : (logs id).entries ≠ [] ∨ id ∈ appended) : (appendEntries logs appended id).entries ≠ [] := by
  induction appended generalizing logs with
  | nil => exact h.resolve_right List.not_mem_nil
  | cons first appended ih =>
    rw [appendEntries, List.foldl_cons, ← appendEntries]
    apply ih
    · rwa [maxLogEntries_appendEntry]
    · by_cases hid : id = first
      · subst hid
        rw [appendEntry, Function.update_self]
        exact .inl (FwErrorLog.append_entries_ne_nil hpos)
      · rw [appendEntry, Function.update_of_ne hid]
        exact h.imp_right fun hmem => (List.mem_cons.mp hmem).resolve_left hid

/-- No entry has been appended when all logs are still empty. -/
private theorem appended_eq_nil {logs : FwErrorLogs} {polls : List FwPoll}
    (hempty : ∀ e ∈ pollsWithLogs logs polls, ∀ id, (e.2 id).entries = [])
    (hfew : ∀ p ∈ polls, ∀ id, p.appended.count id < (logs id).maxLogEntries.toNat) :
    ∀ p ∈ polls, p.appended = [] := by
  induction polls with
  | nil => exact fun p hp => absurd hp List.not_mem_nil
  | cons p polls ih =>
    rw [pollsWithLogs, List.forall_mem_cons] at hempty
    rw [List.forall_mem_cons] at hfew ⊢
    have hnone : p.appended = [] := by
      refine List.eq_nil_iff_forall_not_mem.mpr fun id hid => ?_
      exact entries_appendEntries_ne_nil (Nat.zero_lt_of_lt (hfew.1 id)) (.inr hid) (hempty.1 id)
    have hlogs : appendEntries logs p.appended = logs := by
      rw [hnone]
      rfl
    rw [hlogs] at hempty
    exact ⟨hnone, ih hempty.2 hfew.2⟩

/-! ### Polls with the same reading -/

/-- The reading of the sensor that counts the errors, if the sensors can be read. -/
def Poll.fwErrorReading (poll : Poll) : Option UInt64 :=
  (getSensorsForDevice poll.lib poll.device)[sensorFwErrorLogCount]?

/-- The reading, if there is one, is saved. -/
private theorem exists_row_after {poll : Poll}
    (hvalid : poll.device.discovery.manageability = .validConfig) :
    ∃ row, dbGetDimmStateByDeviceHandle poll.device.discovery.deviceHandle poll.after = some row ∧
      ∀ reading, poll.fwErrorReading = some reading → row.fwLogErrors = reading := by
  have hlatest : ∀ old reading, poll.fwErrorReading = some reading →
      getLatestSensorReading (getSensorsForDevice poll.lib poll.device) sensorFwErrorLogCount old =
        reading := by
    intro old reading hreading
    obtain ⟨hlength, hget⟩ := List.getElem?_eq_some_iff.mp hreading
    rw [getLatestSensorReading, sensorsIncludeType, if_pos (decide_eq_true hlength),
      List.getD_eq_getElem _ _ hlength, hget]
  cases hsaved : getSavedStateForDevice poll.device poll.store with
  | none => exact ⟨_, (monitorChangesForDevice_of_none poll.lib hvalid hsaved).2, hlatest 0⟩
  | some state => exact ⟨_, (monitorChangesForDevice_of_some poll.lib hvalid hsaved).2, hlatest _⟩

/-- Nothing is reported when the reading, if there is one, is the saved one. -/
private theorem reportedErrors_eq_zero {poll : Poll} {row : DimmState}
    (hrow : dbGetDimmStateByDeviceHandle poll.device.discovery.deviceHandle poll.store = some row)
    (h : ∀ reading, poll.fwErrorReading = some reading → row.fwLogErrors = reading) :
    poll.reportedErrors = 0 := by
  have hsame : ¬ sensorReadingHasIncreased (getSensorsForDevice poll.lib poll.device)
      sensorFwErrorLogCount row.fwLogErrors = true := by
    intro hincreased
    rw [sensorReadingHasIncreased, Bool.and_eq_true, sensorsIncludeType, decide_eq_true_iff,
      decide_eq_true_iff] at hincreased
    obtain ⟨hlength, hlt⟩ := hincreased
    rw [List.getD_eq_getElem _ _ hlength,
      h _ (List.getElem?_eq_some_iff.mpr ⟨hlength, rfl⟩)] at hlt
    exact UInt64.lt_irrefl _ hlt
  rw [Poll.reportedErrors, getSavedStateForDevice, hrow, Option.bind_some, newFwErrors,
    if_neg hsame]
  rfl

/-- Nothing is reported by polls that all have the same reading. -/
private theorem reportedErrors_of_sameReading {handle : UInt32} {first : Poll} {later : List Poll}
    (h : PollsOf handle (first :: later))
    (hsame : ∀ poll ∈ later, poll.fwErrorReading = first.fwErrorReading) :
    ∀ poll ∈ later, poll.reportedErrors = 0 := by
  induction later generalizing first with
  | nil => exact fun poll hpoll => absurd hpoll List.not_mem_nil
  | cons next later ih =>
    rw [List.forall_mem_cons] at hsame ⊢
    constructor
    · obtain ⟨row, hrow, hreading⟩ := exists_row_after (h.manageable first List.mem_cons_self)
      rw [h.atHandle first List.mem_cons_self, ← (List.isChain_cons_cons.mp h.rowKept).1,
        ← h.tail.atHandle next List.mem_cons_self] at hrow
      exact reportedErrors_eq_zero hrow fun reading hnext => hreading reading (hsame.1 ▸ hnext)
    · exact ih h.tail fun poll hpoll => (hsame.2 poll hpoll).trans hsame.1.symm

/-! ### Runs that read empty logs -/

/-- The reading that the sensors of a DIMM give. -/
private theorem reading_getSensors (readings : Vector UInt64 10)
    (logInfo : FwErrorLogId → Except ℤ FwLogInfoData) :
    ((getSensors 0 readings logInfo).getD [])[sensorFwErrorLogCount]? =
      if (getFwErrorLogSensors logInfo).1 < 0 then none
      else some (getFwErrorLogSensors logInfo).2.toUInt64 := by
  have hle := getFwErrorLogSensors_fst_le logInfo
  have hrc : keepError (keepError 0 0) (getFwErrorLogSensors logInfo).1 =
      (getFwErrorLogSensors logInfo).1 := rfl
  rw [getSensors]
  dsimp only
  rw [hrc]
  by_cases hneg : (getFwErrorLogSensors logInfo).1 < 0
  · rw [if_pos hneg, if_pos hneg]
    rfl
  · have hzero : (getFwErrorLogSensors logInfo).1 = 0 := le_antisymm hle (not_lt.mp hneg)
    rw [if_neg hneg, if_neg hneg, if_pos hzero, Option.getD_some, sensorFwErrorLogCount,
      Vector.getElem?_toList]
    exact Vector.getElem?_set_self _

/-- The polls of a run. -/
private theorem map_fst_pollsWithLogs (logs : FwErrorLogs) (polls : List FwPoll) :
    (pollsWithLogs logs polls).map Prod.fst = polls := by
  induction polls generalizing logs with
  | nil => rfl
  | cons p polls ih => rw [pollsWithLogs, List.map_cons, ih]

/-- The first polls of a run find the logs that they find in the run. -/
private theorem pollsWithLogs_subset (logs : FwErrorLogs) {polls polls' : List FwPoll}
    (h : polls <+: polls') : pollsWithLogs logs polls ⊆ pollsWithLogs logs polls' := by
  induction polls generalizing logs polls' with
  | nil => exact fun e he => absurd he List.not_mem_nil
  | cons p polls ih =>
    obtain ⟨rest, rfl⟩ := h
    rw [List.cons_append, pollsWithLogs, pollsWithLogs]
    exact List.cons_subset_cons _ (ih _ (List.prefix_append polls rest))

/-- The first polls of a run. -/
private theorem FwRun.ofStart {emptyInfo : FwErrorLogId → FwLogInfoData} {handle : UInt32}
    {logs : FwErrorLogs} {polls polls' : List FwPoll} (h : FwRun emptyInfo handle logs polls')
    (hstart : polls <+: polls') : FwRun emptyInfo handle logs polls := by
  obtain ⟨rest, hrest⟩ := hstart.map FwPoll.poll
  have hmem : ∀ p ∈ polls.map FwPoll.poll, p ∈ polls'.map FwPoll.poll :=
    fun p hp => hrest ▸ List.mem_append_left rest hp
  refine ⟨⟨fun p hp => h.pollsOf.manageable p (hmem p hp),
    fun p hp => h.pollsOf.atHandle p (hmem p hp), ?_⟩,
    fun e he => h.sensors e (pollsWithLogs_subset logs hstart he)⟩
  have hchain := h.pollsOf.rowKept
  rw [← hrest] at hchain
  exact hchain.left_of_append

/-- A poll that succeeds and finds empty logs reads what the firmware says about them. -/
private theorem fwErrorReading_of_empty {emptyInfo : FwErrorLogId → FwLogInfoData} {handle : UInt32}
    {logs : FwErrorLogs} {polls : List FwPoll} (h : FwRun emptyInfo handle logs polls)
    (hsucceeds : ∀ p ∈ polls, p.Succeeds)
    (hempty : ∀ e ∈ pollsWithLogs logs polls, ∀ id, (e.2 id).entries = []) :
    ∀ p ∈ polls, p.poll.fwErrorReading =
      if (getFwErrorLogSensors fun id => .ok (emptyInfo id)).1 < 0 then none
      else some (getFwErrorLogSensors fun id => .ok (emptyInfo id)).2.toUInt64 := by
  intro p hp
  have hmem := hp
  rw [← map_fst_pollsWithLogs logs polls] at hmem
  obtain ⟨e, he, rfl⟩ := List.mem_map.mp hmem
  have hinfo : e.1.logInfo emptyInfo e.2 = fun id => .ok (emptyInfo id) := by
    funext id
    rw [FwPoll.logInfo, if_pos ((hsucceeds _ hp).queries id),
      FwErrorLog.info_of_nil _ (hempty e he id)]
  rw [Poll.fwErrorReading, getSensorsForDevice, h.sensors e he, hinfo, (hsucceeds _ hp).smart]
  exact reading_getSensors _ _

/-- In a run of polls, the counts are right and the reports add up exactly when every log that is read
is empty. -/
theorem errorsReported_iff {emptyInfo : FwErrorLogId → FwLogInfoData} {handle : UInt32}
    {logs : FwErrorLogs} {polls : List FwPoll} (h : FwRun emptyInfo handle logs polls) :
    ErrorsReported emptyInfo logs polls ↔ ReadsEmptyLogs logs polls := by
  constructor
  · intro hreported e he id hquery
    by_contra hentries
    have hcount := hreported.count e he id hquery hentries
    rw [FwPoll.logInfo, if_pos hquery] at hcount
    exact fwGetFwErrorLogCount_info_ne (emptyInfo id) hentries hcount
  · intro hempty
    refine ⟨fun e he id hquery hentries => absurd (hempty e he id hquery) hentries, ?_⟩
    intro first later hstart hsucceeds hfew
    have hrun := h.ofStart hstart
    have hmem : ∀ e ∈ pollsWithLogs logs (first :: later), e.1 ∈ first :: later := by
      intro e he
      rw [← map_fst_pollsWithLogs logs (first :: later)]
      exact List.mem_map_of_mem he
    have hall : ∀ e ∈ pollsWithLogs logs (first :: later), ∀ id, (e.2 id).entries = [] :=
      fun e he id => hempty e (pollsWithLogs_subset logs hstart he) id
        ((hsucceeds e.1 (hmem e he)).queries id)
    have hreading := fwErrorReading_of_empty hrun hsucceeds hall
    have hreported : ∀ p ∈ later, p.poll.reportedErrors = 0 := by
      intro p hp
      refine reportedErrors_of_sameReading hrun.pollsOf (fun poll hpoll => ?_) p.poll
        (List.mem_map_of_mem hp)
      obtain ⟨p', hp', rfl⟩ := List.mem_map.mp hpoll
      rw [hreading p' (List.mem_cons_of_mem _ hp'), hreading first List.mem_cons_self]
    have happended : ∀ p ∈ later, p.appended = [] := by
      refine appended_eq_nil (List.forall_mem_cons.mp hall).2 fun p hp id => ?_
      rw [maxLogEntries_appendEntries]
      exact hfew p hp id
    rw [List.map_congr_left hreported, List.map_congr_left fun p hp =>
      congrArg List.length (happended p hp)]
    rfl

/-- Four logs without entries. -/
private def emptyLogs : FwErrorLogs :=
  fun _ => ⟨4, [], 0, Nat.zero_le _, .singleton _⟩

/-- A poll of a manageable DIMM whose calls succeed. -/
private def pollOfLogs (appended : List FwErrorLogId) (logs : FwErrorLogs) (store : MonitorStore) :
    FwPoll where
  appended := appended
  queryRc := fun _ => 0
  smartRc := 0
  smartReadings := Vector.replicate 10 0
  poll :=
    { lib :=
        { getDevices := none
          getDeviceStatus := fun _ => none
          getConfigGoal := fun _ => none
          getSensors := fun _ => getSensors 0 (Vector.replicate 10 0) fun id =>
            .ok ((logs id).info ⟨0, 0⟩) }
      device := { discovered := true, discovery := { manageability := .validConfig } }
      store := store }

/-- The polls of a DIMM, before and after entries are appended to its logs. -/
private def pollTwice (appended : List FwErrorLogId) : List FwPoll :=
  [pollOfLogs [] emptyLogs {}, pollOfLogs appended (appendEntries emptyLogs appended)
    (pollOfLogs [] emptyLogs {}).poll.after]

/-- The two polls are a run. -/
private theorem fwRun_pollTwice (appended : List FwErrorLogId) :
    FwRun (fun _ => ⟨0, 0⟩) 0 emptyLogs (pollTwice appended) := by
  refine ⟨⟨?_, ?_, .cons_cons rfl (.singleton _)⟩, ?_⟩
  · exact List.forall_mem_cons.mpr ⟨rfl, List.forall_mem_singleton.mpr rfl⟩
  · exact List.forall_mem_cons.mpr ⟨rfl, List.forall_mem_singleton.mpr rfl⟩
  · exact List.forall_mem_cons.mpr ⟨rfl, List.forall_mem_singleton.mpr rfl⟩

/-- Without errors nothing is reported. -/
theorem errorsReported_noErrors :
    FwRun (fun _ => ⟨0, 0⟩) 0 emptyLogs (pollTwice []) ∧
      ErrorsReported (fun _ => ⟨0, 0⟩) emptyLogs (pollTwice []) := by
  refine ⟨fwRun_pollTwice [], (errorsReported_iff (fwRun_pollTwice [])).mpr ?_⟩
  exact List.forall_mem_cons.mpr ⟨fun _ _ => rfl, List.forall_mem_singleton.mpr fun _ _ => rfl⟩

/-- The first error is neither counted nor reported. -/
theorem not_errorsReported_oneError :
    FwRun (fun _ => ⟨0, 0⟩) 0 emptyLogs (pollTwice [.mediaLow]) ∧
      (pollTwice [.mediaLow]).map (fun p => p.poll.reportedErrors) = [0, 0] ∧
      ¬ ErrorsReported (fun _ => ⟨0, 0⟩) emptyLogs (pollTwice [.mediaLow]) := by
  refine ⟨fwRun_pollTwice [.mediaLow], by decide +kernel, fun hreported => ?_⟩
  have hcount := hreported.count _ (List.mem_cons_of_mem _ List.mem_cons_self) .mediaLow rfl
    (by decide)
  exact absurd hcount (by decide)

end IxpDimm
