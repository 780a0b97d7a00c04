import IxpDimm.Device.Inventory
import IxpDimm.Foundation.Tally
import IxpDimm.Pool.Types

/-!
# Diagnostics and their events

What the four diagnostics of `nvm_run_diagnostic` have in common: the events that they store, the
request with its excluded checks and its thresholds, and the comparison `diag_check`.

A diagnostic is a program that stores events and counts its results; the two are separate statements
everywhere in the source, and separate operations here.  Its log also has an entry for each query to
the library, which says whether the query succeeded.  An event is stored whenever it is to be, and an
argument of an event is given by what its text is printed from.
-/

namespace IxpDimm.Diagnostic

open Foundation

/-! ### Return codes -/

/-- The codes of errors. -/
abbrev ErrorCode : Type := {code : ℤ // code < 0}

/-- `NVM_SUCCESS`. -/
def nvmSuccess : ℤ := 0

/-- `KEEP_ERROR`. -/
def keepError (rc new : ℤ) : ℤ := if rc < 0 then rc else new

/-- The return code of a query that returns a number or an error. -/
def codeOf (answer : Except ErrorCode ℕ) : ℤ :=
  match answer with
  | .ok n => n
  | .error e => e.val

/-! ### Events -/

/-- `enum diagnostic_test`, which stands for the event types of the diagnostics too. -/
inductive DiagnosticTest
  | quick | platformConfig | security | fwConsistency
  deriving DecidableEq, Repr

/-- `enum event_severity`. -/
inductive EventSeverity
  | info | warn | critical | fatal
  deriving DecidableEq, Repr

/-- `enum diagnostic_result`. -/
inductive DiagnosticResult
  | unknown | ok | warning | failed | aborted
  deriving DecidableEq, Repr

/-- The event codes that the diagnostics store. -/
inductive EventCode
  -- enum event_code_diag_quick
  | quickSuccess | notManageableVendorId | notManageableDeviceId | notManageableFwApi | badHealth
  | badMediaTemp | badSpare | badPercentUsed | badCoreTemp | unreadableBsr | mediaNotReady
  | mediaReadyError | noPostCode | fwInitializationIncomplete | fwHitAssert | fwStalled | viralState
  | badDriver | aitDramNotReady | mediaDisabled | aitDramDisabled | fwLoadFailed | internalCpuError
  | ddrtIoInitFailed | quickUnknown
  -- enum event_code_diag_security
  | securitySuccess | securityNoDimms | securityInconsistent | securityAllDisabled
  | securityAllNotSupported
  -- enum event_code_diag_fw_consistency
  | fwSuccess | fwNoDimms | fwInconsistent | badTempMediaThreshold | badTempControllerThreshold
  | badSpareBlock | badFwLogLevel | systemTimeDrift | badPowerMgmtPolicy | badDieSparingPolicy
  -- enum event_code_diag_platform_config
  | pconfigSuccess | pconfigNoDimms | invalidNfit | invalidPcat | invalidPcd | invalidCurrentPcd
  | unconfigured | brokenIset | duplicateSerialNumbers | rebootNeededToApplyGoal
  | poolNeedsAppDirectNamespaces | dimmConfigUnbalanced | dimmsDifferentSizes
  | dimmSecuritySkusMixed | dimmModeSkusMixed | dimmDieSparingSkusMixed | dimmInitFailed
  | dimmSkuViolation | dimmGoalSkuViolation | poolsFailed | namespacesFailed | noBiosConfigSupport
  deriving DecidableEq, Repr

/-- What the text of an argument is printed from. -/
inductive EventArg
  /-- A unique id. -/
  | uid (uid : Uid)
  /-- A list of unique ids, each with a comma after it. -/
  | uids (uids : List Uid)
  /-- A text. -/
  | text (text : List Char)
  /-- A number. -/
  | number (n : ℤ)
  /-- A number in hexadecimal digits. -/
  | hex (n : ℕ)
  /-- A serial number. -/
  | serial (serial : List UInt8)
  /-- The name of a field and its value. -/
  | field (name : String) (value : ℕ)
  /-- The limits of a range. -/
  | bounds (lo hi : ℤ)
  /-- A health. -/
  | health (health : DeviceHealth)
  /-- The numbers of DIMMs in lock states. -/
  | states (counts : List (ℕ × LockState))
  /-- The major and the minor checkpoint. -/
  | checkpoint (major minor : ℕ)
  deriving DecidableEq, Repr

/-- The arguments of `store_event_by_parts`; an argument that is the null pointer is left out. -/
structure DiagEvent where
  /-- The type. -/
  type : DiagnosticTest
  /-- The severity. -/
  severity : EventSeverity
  /-- The code. -/
  code : EventCode
  /-- The unique id of the device or the pool. -/
  uid : Option Uid := none
  /-- Whether action is required. -/
  actionRequired : Bool := false
  /-- The arguments of the message. -/
  args : List EventArg := []
  /-- The result. -/
  result : DiagnosticResult
  deriving DecidableEq, Repr

/-! ### Programs -/

/-- An entry of the log of a diagnostic. -/
inductive Action
  /-- An event is stored. -/
  | stored (event : DiagEvent)
  /-- A query to the library is answered. -/
  | asked (succeeded : Bool)
  deriving DecidableEq, Repr

/-- A part of a diagnostic: `*p_results` is the counter. -/
abbrev Diag (α : Type) : Type := Tally Action α

/-- `store_event_by_parts`. -/
def storeEvent (event : DiagEvent) : Diag Unit := Tally.note (.stored event)

/-- `(*p_results)++`. -/
def countResult : Diag Unit := Tally.tick

/-- An event is stored and counted. -/
def report (event : DiagEvent) : Diag Unit := do
  storeEvent event
  countResult

/-- An event is reported if there is a reason to. -/
def reportIf (condition : Bool) (event : DiagEvent) : Diag Unit :=
  if condition then report event else pure ()

/-- A query to the library. -/
def ask {α : Type} (answer : Except ErrorCode α) : Diag (Except ErrorCode α) := do
  Tally.note (.asked answer.toBool)
  pure answer

/-- The events of a log. -/
def events (log : List Action) : List DiagEvent :=
  log.filterMap fun
    | .stored event => some event
    | .asked _ => none

/-- Whether an entry is an event. -/
def Action.isStored : Action → Bool
  | .stored _ => true
  | .asked _ => false

section Programs

variable {α : Type} (event : DiagEvent) (answer : Except ErrorCode α)

@[simp] theorem events_nil : events [] = [] := rfl

@[simp] theorem events_append (log log' : List Action) :
    events (log ++ log') = events log ++ events log' := List.filterMap_append

@[simp] theorem count_storeEvent : (storeEvent event).count = 0 := rfl
@[simp] theorem log_storeEvent : (storeEvent event).log = [.stored event] := rfl

@[simp] theorem count_report : (report event).count = 1 := rfl
@[simp] theorem log_report : (report event).log = [.stored event] := rfl

@[simp] theorem value_ask : (ask answer).value = answer := rfl
@[simp] theorem count_ask : (ask answer).count = 0 := rfl
@[simp] theorem log_ask : (ask answer).log = [.asked answer.toBool] := rfl

@[simp] theorem events_stored : events [.stored event] = [event] := rfl
@[simp] theorem events_asked (succeeded : Bool) : events [.asked succeeded] = [] := rfl

/-- The events of a loop are those of its passes. -/
@[simp] theorem events_flatMap {β : Type} (l : List β) (f : β → List Action) :
    events (l.flatMap f) = l.flatMap fun b => events (f b) := by
  unfold events
  rw [List.filterMap_flatMap]

end Programs

/-! ### Events that are counted -/

/-- What is known of an entry of the log, in terms of its event. -/
def Action.OnEvent (P : DiagEvent → Prop) : Action → Prop
  | .stored event => P event
  | .asked _ => True

/-- Every event of the program has `P` and is counted. -/
abbrev Reports {α : Type} (P : DiagEvent → Prop) (x : Diag α) : Prop :=
  x.Counts Action.isStored (Action.OnEvent P)

section Reported

variable {P : DiagEvent → Prop} {α : Type}

/-- An event that is counted when it is stored. -/
theorem reports_report {event : DiagEvent} (h : P event) : Reports P (report event) :=
  Tally.counts_note_tick rfl h

/-- An event that is reported if there is a reason to. -/
theorem reports_reportIf {P : DiagEvent → Prop} {event : DiagEvent} (h : P event)
    (condition : Bool) : Reports P (reportIf condition event) := by
  unfold reportIf
  split_ifs
  · exact reports_report h
  · exact Tally.counts_pure _

/-- A query is no event. -/
theorem reports_ask (answer : Except ErrorCode α) : Reports P (ask answer) :=
  Tally.counts_bind (Tally.counts_note rfl trivial) (Tally.counts_pure _)

/-- An event is stored if an entry says so. -/
theorem mem_events {event : DiagEvent} {log : List Action} :
    event ∈ events log ↔ .stored event ∈ log := by
  unfold events
  rw [List.mem_filterMap]
  constructor
  · rintro ⟨action, haction, hevent⟩
    cases action with
    | stored event' =>
      obtain rfl := Option.some.inj hevent
      exact haction
    | asked succeeded => cases hevent
  · exact fun h => ⟨.stored event, h, rfl⟩

/-- The entries that are events are as many as the events. -/
theorem countP_isStored (log : List Action) : log.countP Action.isStored = (events log).length := by
  unfold events
  rw [List.length_filterMap_eq_countP]
  refine List.countP_congr fun action _ => ?_
  cases action <;> rfl

/-- The counter and the events of a program. -/
theorem reports_iff {x : Diag α} :
    Reports P x ↔ x.count = (events x.log).length ∧ ∀ event ∈ events x.log, P event := by
  constructor
  · intro h
    refine ⟨h.count_eq.trans (countP_isStored _), fun event hevent => ?_⟩
    exact h.log_mem _ (mem_events.mp hevent)
  · rintro ⟨hcount, hevents⟩
    refine ⟨hcount.trans (countP_isStored _).symm, fun action haction => ?_⟩
    cases action with
    | stored event => exact hevents event (mem_events.mpr haction)
    | asked succeeded => trivial

end Reported

/-! ### Programs with known events -/

/-- The events of the program are those of a list, and they are counted. -/
def Emits {α : Type} (expected : List DiagEvent) (x : Diag α) : Prop :=
  events x.log = expected ∧ x.count = expected.length

section Emitted

variable {α β : Type} {expected expected' : List DiagEvent}

/-- A value has no events. -/
theorem emits_pure (a : α) : Emits [] (pure a : Diag α) := ⟨rfl, rfl⟩

/-- The events of a sequence. -/
theorem emits_bind {x : Diag α} {f : α → Diag β} (hx : Emits expected x)
    (hf : Emits expected' (f x.value)) : Emits (expected ++ expected') (x >>= f) := by
  constructor
  · rw [Tally.log_bind, events_append, hx.1, hf.1]
  · rw [Tally.count_bind, hx.2, hf.2, List.length_append]

/-- A program without events behind one. -/
theorem emits_then {x : Diag α} {f : α → Diag β} (hx : Emits expected x)
    (hf : Emits [] (f x.value)) : Emits expected (x >>= f) := by
  have h := emits_bind hx hf
  rwa [List.append_nil] at h

/-- A query in front of a program. -/
theorem emits_ask {answer : Except ErrorCode α} {f : Except ErrorCode α → Diag β}
    (hf : Emits expected (f answer)) : Emits expected (ask answer >>= f) :=
  emits_bind ⟨rfl, rfl⟩ hf

/-- An event that is reported if there is a reason to. -/
theorem emits_reportIf (condition : Bool) (event : DiagEvent) :
    Emits (if condition then [event] else []) (reportIf condition event) := by
  cases condition with
  | true => exact ⟨rfl, rfl⟩
  | false => exact ⟨rfl, rfl⟩

/-- The events of a loop. -/
theorem emits_forM {l : List β} {f : β → Diag PUnit} {expected : β → List DiagEvent}
    (h : ∀ b, Emits (expected b) (f b)) : Emits (l.flatMap expected) (l.forM f) := by
  induction l with
  | nil => exact emits_pure _
  | cons b l ih => exact emits_bind (h b) ih

end Emitted

/-! ### Requests -/

/-- The numeric part of `struct diagnostic_threshold`. -/
structure DiagnosticThreshold where
  /-- The check, by its bit. -/
  type : UInt64
  /-- The threshold. -/
  threshold : UInt64
  deriving DecidableEq, Repr

/-- `struct diagnostic`, without the test. -/
structure DiagnosticRequest where
  /-- The checks that are not to be made, as a mask. -/
  excludes : UInt64 := 0
  /-- The thresholds that the caller sets. -/
  overrides : List DiagnosticThreshold := []
  deriving DecidableEq, Repr

/-- Whether a check is excluded. -/
def DiagnosticRequest.excluded (request : DiagnosticRequest) (indicator : UInt64) : Bool :=
  request.excludes &&& indicator != 0

/-- `enum equality`. -/
inductive Equality
  | lessThan | lessThanEqual | equal | greaterThanEqual | greaterThan | notEqual
  deriving DecidableEq, Repr

/-- The comparison of two numbers. -/
def Equality.holds : Equality → UInt64 → UInt64 → Bool
  | .lessThan, actual, expected => actual < expected
  | .lessThanEqual, actual, expected => actual ≤ expected
  | .equal, actual, expected => actual == expected
  | .greaterThanEqual, actual, expected => expected ≤ actual
  | .greaterThan, actual, expected => expected < actual
  | .notEqual, actual, expected => actual != expected

/-- The threshold that a check compares with: that of the caller, if there is one. -/
def DiagnosticRequest.expected (request : DiagnosticRequest) (indicator expected : UInt64) : UInt64 :=
  ((request.overrides.find? (·.type == indicator)).map (·.threshold)).getD expected

/-- `diag_check`: the outcome, and the threshold that is left behind. -/
def diagCheck (request : DiagnosticRequest) (indicator actual expected : UInt64) (e : Equality) :
    Bool × UInt64 :=
  if request.excluded indicator then (true, expected)
  else (e.holds actual (request.expected indicator expected), request.expected indicator expected)

/-- A threshold that a check has left behind is compared with as the one before. -/
theorem diagCheck_diagCheck (request : DiagnosticRequest) (indicator actual actual' expected : UInt64)
    (e e' : Equality) :
    diagCheck request indicator actual (diagCheck request indicator actual' expected e').2 e =
      diagCheck request indicator actual expected e := by
  unfold diagCheck
  split_ifs with hexcluded
  · rfl
  · have hsame : request.expected indicator (request.expected indicator expected) =
        request.expected indicator expected := by
      unfold DiagnosticRequest.expected
      cases request.overrides.find? (·.type == indicator) with
      | none => rfl
      | some override => rfl
    dsimp only
    rw [hsame]

/-! ### Thresholds -/

/-- `DIAG_THRESHOLD_QUICK_HEALTH`. -/
def quickHealth : UInt64 := (1 : UInt64) <<< 0
/-- `DIAG_THRESHOLD_QUICK_MEDIA_TEMP`. -/
def quickMediaTemp : UInt64 := (1 : UInt64) <<< 1
/-- `DIAG_THRESHOLD_QUICK_CONTROLLER_TEMP`. -/
def quickControllerTemp : UInt64 := (1 : UInt64) <<< 2
/-- `DIAG_THRESHOLD_QUICK_AVAIL_SPARE`. -/
def quickAvailSpare : UInt64 := (1 : UInt64) <<< 3
/-- `DIAG_THRESHOLD_QUICK_PERC_USED`. -/
def quickPercUsed : UInt64 := (1 : UInt64) <<< 4
/-- `DIAG_THRESHOLD_SECURITY_CONSISTENT`. -/
def securityConsistent : UInt64 := (1 : UInt64) <<< 13
/-- `DIAG_THRESHOLD_SECURITY_ALL_DISABLED`. -/
def securityAllDisabled : UInt64 := (1 : UInt64) <<< 14
/-- `DIAG_THRESHOLD_SECURITY_ALL_NOTSUPPORTED`. -/
def securityAllNotsupported : UInt64 := (1 : UInt64) <<< 15
/-- `DIAG_THRESHOLD_FW_CONSISTENT`. -/
def fwConsistent : UInt64 := (1 : UInt64) <<< 16
/-- `DIAG_THRESHOLD_FW_MEDIA_TEMP`. -/
def fwMediaTemp : UInt64 := (1 : UInt64) <<< 17
/-- `DIAG_THRESHOLD_FW_CORE_TEMP`. -/
def fwCoreTemp : UInt64 := (1 : UInt64) <<< 18
/-- `DIAG_THRESHOLD_FW_SPARE`. -/
def fwSpare : UInt64 := (1 : UInt64) <<< 19
/-- `DIAG_THRESHOLD_FW_POW_MGMT_POLICY`. -/
def fwPowMgmtPolicy : UInt64 := (1 : UInt64) <<< 20
/-- `DIAG_THRESHOLD_FW_PEAK_POW_BUDGET_MIN`. -/
def fwPeakPowBudgetMin : UInt64 := (1 : UInt64) <<< 21
/-- `DIAG_THRESHOLD_FW_PEAK_POW_BUDGET_MAX`. -/
def fwPeakPowBudgetMax : UInt64 := (1 : UInt64) <<< 22
/-- `DIAG_THRESHOLD_FW_AVG_POW_BUDGET_MIN`. -/
def fwAvgPowBudgetMin : UInt64 := (1 : UInt64) <<< 23
/-- `DIAG_THRESHOLD_FW_AVG_POW_BUDGET_MAX`. -/
def fwAvgPowBudgetMax : UInt64 := (1 : UInt64) <<< 24
/-- `DIAG_THRESHOLD_FW_DIE_SPARING_POLICY`. -/
def fwDieSparingPolicy : UInt64 := (1 : UInt64) <<< 25
/-- `DIAG_THRESHOLD_FW_DIE_SPARING_LEVEL`. -/
def fwDieSparingLevel : UInt64 := (1 : UInt64) <<< 26
/-- `DIAG_THRESHOLD_FW_TIME`. -/
def fwTime : UInt64 := (1 : UInt64) <<< 27
/-- `DIAG_THRESHOLD_FW_DEBUGLOG`. -/
def fwDebuglog : UInt64 := (1 : UInt64) <<< 28
/-- `DIAG_THRESHOLD_PCONFIG_NFIT`. -/
def pconfigNfit : UInt64 := (1 : UInt64) <<< 29
/-- `DIAG_THRESHOLD_PCONFIG_PCAT`. -/
def pconfigPcat : UInt64 := (1 : UInt64) <<< 30
/-- `DIAG_THRESHOLD_PCONFIG_PCD`. -/
def pconfigPcd : UInt64 := (1 : UInt64) <<< 31
/-- `DIAG_THRESHOLD_PCONFIG_CURRENT_PCD`. -/
def pconfigCurrentPcd : UInt64 := (1 : UInt64) <<< 32
/-- `DIAG_THRESHOLD_PCONFIG_UNCONFIGURED`. -/
def pconfigUnconfigured : UInt64 := (1 : UInt64) <<< 33
/-- `DIAG_THRESHOLD_PCONFIG_BROKEN_ISET`. -/
def pconfigBrokenIset : UInt64 := (1 : UInt64) <<< 34
/-- `DIAG_THRESHOLD_PCONFIG_BEST_PRACTICES`. -/
def pconfigBestPractices : UInt64 := (1 : UInt64) <<< 36

/-! ### The devices -/

/-- `struct device_discovery` with the fields that the diagnostics read. -/
structure DiagDiscovery extends SecureDiscovery where
  /-- The subsystem vendor. -/
  subsystemVendorId : UInt16 := 0
  /-- The subsystem device. -/
  subsystemDeviceId : UInt16 := 0
  /-- The firmware revision. -/
  fwRevision : List Char := []
  /-- The revision of the firmware interface. -/
  fwApiVersion : List Char := []
  /-- `device_capabilities.die_sparing_capable`. -/
  dieSparingCapable : Bool := false
  /-- `security_capabilities.unlock_device_capable`. -/
  unlockDeviceCapable : Bool := false
  deriving DecidableEq, Repr

/-- The unique id. -/
def DiagDiscovery.uid (device : DiagDiscovery) : Uid := device.toDeviceDiscovery.uid

/-- Whether a device is manageable. -/
def DiagDiscovery.manageable (device : DiagDiscovery) : Bool :=
  device.manageability == .validConfig

/-- `SUPPORTED_DEVICE_IDS`. -/
def supportedDeviceIds : List UInt16 := [0x7909, 0x7A09, 0x7B09]

/-- What a query returns that fills in an array. -/
structure Filled (α : Type) where
  /-- The number that is returned. -/
  returned : ℕ
  /-- The entries of the array. -/
  entries : List α

/-- What the diagnostics are answered that do not look at a single DIMM. -/
structure DeviceQueries where
  /-- `IS_NVM_FEATURE_SUPPORTED` for the feature of a diagnostic. -/
  isFeatureSupported : DiagnosticTest → Except ErrorCode Unit
  /-- `nvm_get_device_count`. -/
  getDeviceCount : Except ErrorCode ℕ
  /-- `nvm_get_devices` with an array of that many entries. -/
  getDevices : ℕ → Except ErrorCode (Filled DiagDiscovery)

/-- The end of a diagnostic: without errors and results, success is reported. -/
def reportSuccess (rc : ℤ) (results : ℕ) (success : DiagEvent) : Diag ℤ :=
  if rc = nvmSuccess ∧ results = 0 then do
    report success
    pure rc
  else pure rc

end IxpDimm.Diagnostic
