import IxpDimm.Common.Revision
import IxpDimm.Diagnostic.Accounting

/-!
# The firmware consistency diagnostic

`diag_firmware_check` compares the firmware revisions of DIMMs of the same kind, and then looks at the
settings of one DIMM after another: the alarm thresholds of its sensors, the log level of its firmware,
its clock, and its power management and die sparing policies.

One return code goes through the loop over the DIMMs.  Each DIMM assigns it anew, so the diagnostic
returns that of the last DIMM.

Temperatures are floating point numbers, of which the model has the operations as an argument.
-/

namespace IxpDimm.Diagnostic

open Foundation

/-! ### What the diagnostic is answered -/

/-- The operations on `NVM_REAL32`. -/
structure RealOps (ρ : Type) where
  /-- The number for a threshold of the caller. -/
  ofThreshold : UInt64 → ρ
  /-- `nvm_decode_temperature`. -/
  decodeTemperature : UInt64 → ρ
  /-- The comparisons. -/
  holds : Equality → ρ → ρ → Bool
  /-- The text with four decimals. -/
  print : ρ → List Char

/-- The settings of the diagnostic. -/
structure FwSettings (ρ : Type) where
  /-- The default threshold of the media temperature. -/
  mediaTemperature : ρ
  /-- The default threshold of the controller temperature. -/
  controllerTemperature : ρ
  /-- The default threshold of the spare capacity. -/
  spareBlock : ℤ
  /-- The default log level. -/
  fwLogLevel : ℤ
  /-- The reasonable time drift. -/
  timeDrift : ℤ
  /-- The lower limit of the peak power budget. -/
  peakPowBudgetMin : ℤ
  /-- The upper limit of the peak power budget. -/
  peakPowBudgetMax : ℤ
  /-- The lower limit of the average power budget. -/
  avgPowBudgetMin : ℤ
  /-- The upper limit of the average power budget. -/
  avgPowBudgetMax : ℤ
  /-- The default aggressiveness of die sparing. -/
  dieSparingAggressiveness : ℤ

/-- The thresholds of the sensors that are looked at. -/
structure SensorThresholds where
  /-- The upper noncritical threshold of the media temperature. -/
  mediaTemperature : UInt64
  /-- The upper noncritical threshold of the controller temperature. -/
  controllerTemperature : UInt64
  /-- The lower noncritical threshold of the spare capacity. -/
  spareCapacity : UInt64

/-- `struct pt_payload_power_mgmt_policy`. -/
structure PowerMgmtPolicy where
  /-- Whether the policy is enabled. -/
  enabled : UInt8
  /-- The peak power budget. -/
  peakPowerBudget : UInt16
  /-- The average power budget. -/
  averagePowerBudget : UInt16

/-- `struct pt_get_die_spare_policy`. -/
structure DieSparePolicy where
  /-- Whether the policy is enabled. -/
  enable : UInt8
  /-- The aggressiveness. -/
  aggressiveness : UInt8

/-- What the diagnostic is answered about a DIMM. -/
structure FwDimmQueries where
  /-- `exists_and_manageable`. -/
  existsAndManageable : Except ErrorCode DiagDiscovery
  /-- `nvm_get_sensors`: what becomes of the array, which is that of the DIMM before. -/
  getSensors : SensorThresholds → SensorThresholds
  /-- `nvm_get_fw_log_level`. -/
  getFwLogLevel : Except ErrorCode ℕ
  /-- `time`. -/
  now : ℤ
  /-- `get_fw_system_time`. -/
  getFwSystemTime : Except ErrorCode UInt64
  /-- The payload after `get_fw_power_mgmt_policy`. -/
  powerMgmtPolicy : PowerMgmtPolicy
  /-- The payload after `get_fw_die_spare_policy`. -/
  dieSparePolicy : DieSparePolicy

/-- What the diagnostic is answered. -/
structure FwQueries (ρ : Type) extends DeviceQueries where
  /-- The operations on temperatures. -/
  reals : RealOps ρ
  /-- The settings. -/
  settings : FwSettings ρ
  /-- The array of the sensors before the first DIMM. -/
  sensors : SensorThresholds
  /-- What is answered about the DIMM at a place of the array. -/
  dimm : ℕ → FwDimmQueries

variable {ρ : Type}

/-! ### Events -/

/-- An event of the firmware consistency diagnostic. -/
def fwEvent (severity : EventSeverity) (code : EventCode) (uid : Option Uid) (args : List EventArg)
    (result : DiagnosticResult) : DiagEvent where
  type := .fwConsistency
  severity := severity
  code := code
  uid := uid
  args := args
  result := result

/-- The event of success. -/
def fwSuccessEvent : DiagEvent := fwEvent .info .fwSuccess none [] .ok

/-- The event of a setting of a DIMM that is not as it should be. -/
def badSettingEvent (code : EventCode) (uid : Uid) (args : List EventArg) : DiagEvent :=
  fwEvent .warn code (some uid) (.uid uid :: args) .warning

/-! ### Firmware revisions -/

/-- The comparison of `find_optimal_fw_revision`. -/
def MainRevision.less (opt revision : MainRevision) : Bool :=
  if opt.major < revision.major then true
  else if opt.major = revision.major then
    if opt.minor < revision.minor then true
    else if opt.minor = revision.minor then
      if opt.hotfix < revision.hotfix then true
      else if opt.hotfix = revision.hotfix then opt.build < revision.build
      else false
    else false
  else false

/-- `find_optimal_fw_revision`. -/
def findOptimalFwRevision (subsysDevId : UInt16) (dimms : List DiagDiscovery) : List Char :=
  dimms.foldl (fun optimal dimm =>
    if subsysDevId = dimm.subsystemDeviceId ∧
        MainRevision.less (parseMainRevision optimal) (parseMainRevision dimm.fwRevision) then
      dimm.fwRevision
    else optimal) "00.00.00.0000".toList

/-- The DIMMs of a kind whose revision is another one. -/
def inconsistentUids (subsysDevId : UInt16) (dimms : List DiagDiscovery) : List Uid :=
  (dimms.filter fun dimm => subsysDevId == dimm.subsystemDeviceId &&
    cString (findOptimalFwRevision subsysDevId dimms) != cString dimm.fwRevision).map (·.uid)

/-- The comparison of the revisions of one kind of DIMM.  The list of unique ids that is reported is
not emptied before the next kind. -/
def checkFwRevisionsOf (dimms : List DiagDiscovery) (uids : List Uid) (subsysDevId : UInt16) :
    Diag (List Uid) :=
  if inconsistentUids subsysDevId dimms = [] then pure uids
  else do
    report (fwEvent .warn .fwInconsistent none
      [.uids (uids ++ inconsistentUids subsysDevId dimms), .number subsysDevId.toNat,
        .text (findOptimalFwRevision subsysDevId dimms)] .warning)
    pure (uids ++ inconsistentUids subsysDevId dimms)

/-- The comparison of the firmware revisions. -/
def checkFwRevisions (request : DiagnosticRequest) (dimms : List DiagDiscovery) : Diag Unit :=
  if request.excluded fwConsistent then pure ()
  else do
    let _ ← supportedDeviceIds.foldlM (checkFwRevisionsOf dimms) []
    pure ()

/-! ### The settings of a DIMM -/

section Settings

variable (request : DiagnosticRequest) (queries : FwQueries ρ) (uid : Uid) (dimm : FwDimmQueries)

/-- `diag_check_real`: the outcome, and the threshold that is left behind. -/
def diagCheckReal (reals : RealOps ρ) (indicator : UInt64) (actual expected : ρ) (e : Equality) :
    Bool × ρ :=
  if request.excluded indicator then (true, expected)
  else
    let expected := ((request.overrides.find? (·.type == indicator)).map fun override =>
      reals.ofThreshold override.threshold).getD expected
    (reals.holds e actual expected, expected)

/-- The check of a temperature threshold. -/
def checkTemperature (indicator : UInt64) (code : EventCode) (actual : UInt64) (expected : ρ) :
    Diag Unit :=
  let actual := queries.reals.decodeTemperature actual
  let (passed, expected) := diagCheckReal request queries.reals indicator actual expected
    .lessThanEqual
  if passed then pure ()
  else
    report (badSettingEvent code uid [.text ((queries.reals.print actual).take 9),
      .text (queries.reals.print expected)])

/-- The check of the spare capacity threshold. -/
def checkSpareBlock (sensors : SensorThresholds) : Diag Unit :=
  if (diagCheck request fwSpare sensors.spareCapacity (UInt64.ofInt queries.settings.spareBlock)
      .greaterThanEqual).1 then pure ()
  else
    report (badSettingEvent .badSpareBlock uid
      [.number queries.settings.spareBlock, .number sensors.spareCapacity.toNat])

/-- The check of the log level of the firmware. -/
def checkFwLogLevel : Diag Unit := do
  match ← ask dimm.getFwLogLevel with
  | .error _ => pure ()
  | .ok logLevel =>
    if request.excluded fwDebuglog = false ∧ (logLevel : ℤ) ≠ queries.settings.fwLogLevel then
      report (badSettingEvent .badFwLogLevel uid
        [.number logLevel, .number queries.settings.fwLogLevel])
    else pure ()

/-- `abs` of a number that is converted to an `int`. -/
def intAbs (n : ℤ) : ℤ := Int.bmod |Int.bmod n (2 ^ 32)| (2 ^ 32)

/-- The comparison of the clock of a DIMM with that of the host. -/
def checkTimeDrift (time : UInt64) : Diag Unit :=
  let drift := Int.bmod (dimm.now - time.toNat) (2 ^ 64)
  if 0 < drift ∧ queries.settings.timeDrift < drift then
    report (badSettingEvent .systemTimeDrift uid [.text ['<'], .number drift])
  else if drift < 0 ∧ queries.settings.timeDrift < intAbs drift then
    report (badSettingEvent .systemTimeDrift uid [.text ['>'], .number (intAbs drift)])
  else pure ()

/-- The check of the clock of a DIMM, which returns the code of the query. -/
def checkSystemTime : Diag ℤ :=
  if request.excluded fwTime then pure nvmSuccess
  else do
    match ← ask dimm.getFwSystemTime with
    | .error e => pure e.val
    | .ok time => do
      checkTimeDrift queries uid dimm time
      pure nvmSuccess

/-- The check of a power budget, which is reported if it is below its lower limit or above its upper
limit, and also if one of these checks is excluded. -/
def checkPowerBudget (indicatorMin indicatorMax : UInt64) (name : String) (actual : UInt16)
    (lo hi : ℤ) : Diag Unit :=
  if (diagCheck request indicatorMin actual.toUInt64 (UInt64.ofInt lo) .lessThan).1 ||
      (diagCheck request indicatorMax actual.toUInt64 (UInt64.ofInt hi) .greaterThan).1 then
    report (badSettingEvent .badPowerMgmtPolicy uid [.field name actual.toNat, .bounds lo hi])
  else pure ()

/-- The check of the average power budget. -/
def checkAveragePowerBudget : Diag Unit :=
  checkPowerBudget request uid fwAvgPowBudgetMin fwAvgPowBudgetMax "average power budget"
    dimm.powerMgmtPolicy.averagePowerBudget queries.settings.avgPowBudgetMin
    queries.settings.avgPowBudgetMax

/-- The check of the peak power budget. -/
def checkPeakPowerBudget : Diag Unit :=
  checkPowerBudget request uid fwPeakPowBudgetMin fwPeakPowBudgetMax "peak power budget"
    dimm.powerMgmtPolicy.peakPowerBudget queries.settings.peakPowBudgetMin
    queries.settings.peakPowBudgetMax

/-- The check of the power management policy. -/
def checkPowerMgmtPolicy : Diag Unit :=
  if request.excluded fwPowMgmtPolicy then pure ()
  else if dimm.powerMgmtPolicy.enabled ≠ 0 then do
    checkAveragePowerBudget request queries uid dimm
    checkPeakPowerBudget request queries uid dimm
  else
    report (badSettingEvent .badPowerMgmtPolicy uid
      [.field "power management policy enable" dimm.powerMgmtPolicy.enabled.toNat, .number 1])

/-- The check of the die sparing policy. -/
def checkDieSparingPolicy (discovery : DiagDiscovery) : Diag Unit :=
  if discovery.dieSparingCapable = false then pure ()
  else if request.excluded fwDieSparingPolicy then pure ()
  else if dimm.dieSparePolicy.enable ≠ 0 then
    if (diagCheck request fwDieSparingLevel dimm.dieSparePolicy.aggressiveness.toUInt64
        (UInt64.ofInt queries.settings.dieSparingAggressiveness) .equal).1 then pure ()
    else
      report (badSettingEvent .badDieSparingPolicy uid
        [.field "die sparing aggressiveness" dimm.dieSparePolicy.aggressiveness.toNat,
          .number queries.settings.dieSparingAggressiveness])
  else
    report (badSettingEvent .badDieSparingPolicy uid
      [.field "die sparing policy enable" dimm.dieSparePolicy.enable.toNat, .number 1])

/-- A pass of the loop over the DIMMs, on the return code and the sensors. -/
def checkFwDimm (state : ℤ × SensorThresholds) : Diag (ℤ × SensorThresholds) := do
  match ← ask dimm.existsAndManageable with
  | .error e => pure (e.val, state.2)
  | .ok discovery => do
    let sensors := dimm.getSensors state.2
    checkTemperature request queries uid fwMediaTemp .badTempMediaThreshold
      sensors.mediaTemperature queries.settings.mediaTemperature
    checkTemperature request queries uid fwCoreTemp .badTempControllerThreshold
      sensors.controllerTemperature queries.settings.controllerTemperature
    checkSpareBlock request queries uid sensors
    checkFwLogLevel request queries uid dimm
    let rc ← checkSystemTime request queries uid dimm
    checkPowerMgmtPolicy request queries uid dimm
    checkDieSparingPolicy request queries uid dimm discovery
    pure (rc, sensors)

end Settings

/-! ### The diagnostic -/

/-- The loop over the DIMMs, which are numbered. -/
def checkFwDimms (request : DiagnosticRequest) (queries : FwQueries ρ)
    (dimms : List (DiagDiscovery × ℕ)) : Diag (ℤ × SensorThresholds) :=
  dimms.foldlM (fun state dimm =>
    checkFwDimm request queries dimm.1.uid (queries.dimm dimm.2) state)
    (nvmSuccess, queries.sensors)

/-- The checks of the DIMMs that are found. -/
def fwChecks (request : DiagnosticRequest) (queries : FwQueries ρ) (dimms : List DiagDiscovery) :
    Diag ℤ := do
  checkFwRevisions request dimms
  let state ← checkFwDimms request queries dimms.zipIdx
  pure state.1

/-- `diag_firmware_check`. -/
def diagFirmwareCheck (request : DiagnosticRequest) (queries : FwQueries ρ) : Diag ℤ := do
  match ← ask (queries.isFeatureSupported .fwConsistency) with
  | .error e => pure e.val
  | .ok () => do
    match ← ask queries.getDeviceCount with
    | .error e => pure e.val
    | .ok 0 => do
      report (fwEvent .info .fwNoDimms none [] .aborted)
      pure nvmSuccess
    | .ok (n + 1) => do
      match ← ask (queries.getDevices (n + 1)) with
      | .error e => pure e.val
      | .ok filled =>
        if filled.returned = 0 then pure nvmSuccess
        else do
          let result ← (fwChecks request queries (filled.entries.take filled.returned)).listen
          reportSuccess result.1 result.2 fwSuccessEvent

/-- The DIMMs of a run. -/
def DeviceQueries.dimms (queries : DeviceQueries) : List DiagDiscovery :=
  match queries.getDeviceCount with
  | .ok (n + 1) =>
    match queries.getDevices (n + 1) with
    | .ok filled => filled.entries.take filled.returned
    | .error _ => []
  | _ => []

/-! ### Its events -/

/-- `P` holds of the events of the diagnostic with a code. -/
def HoldsOfCode (P : DiagEvent → Prop) (code : EventCode) : Prop :=
  ∀ event : DiagEvent, event.type = .fwConsistency → event.code = code → P event

/-- `P` holds of every event that the checks of the DIMMs store. -/
structure FwEvents (request : DiagnosticRequest) (queries : FwQueries ρ) (P : DiagEvent → Prop) :
    Prop where
  /-- The events that are not about power management. -/
  plain : ∀ code, code ≠ .fwSuccess → code ≠ .badPowerMgmtPolicy → HoldsOfCode P code
  /-- The events about power management. -/
  power : ∀ uid dimm, Reports P (checkPowerMgmtPolicy request queries uid dimm)

/-- `P` holds of every event that a pass of the loop over the DIMMs stores. -/
structure FwDimmEvents (request : DiagnosticRequest) (queries : FwQueries ρ)
    (P : DiagEvent → Prop) : Prop where
  /-- The events that are not about power management. -/
  plain : ∀ code, code ≠ .fwSuccess → code ≠ .fwInconsistent → code ≠ .badPowerMgmtPolicy →
    HoldsOfCode P code
  /-- The events about power management. -/
  power : ∀ uid dimm, Reports P (checkPowerMgmtPolicy request queries uid dimm)

section Accounted

variable (request : DiagnosticRequest) (queries : FwQueries ρ) (uid : Uid) (dimm : FwDimmQueries)
variable {P : DiagEvent → Prop}

/-- The loop over the DIMMs stores events of the checks. -/
theorem FwEvents.dimmEvents {request : DiagnosticRequest} {queries : FwQueries ρ}
    (h : FwEvents request queries P) : FwDimmEvents request queries P :=
  ⟨fun code hsuccess _ hpower => h.plain code hsuccess hpower, h.power⟩

/-- The comparison of the revisions of one kind counts its event. -/
private theorem reports_checkFwRevisionsOf (h : HoldsOfCode P .fwInconsistent)
    (dimms : List DiagDiscovery) (uids : List Uid) (subsysDevId : UInt16) :
    Reports P (checkFwRevisionsOf dimms uids subsysDevId) := by
  unfold checkFwRevisionsOf
  split_ifs
  · exact Tally.counts_pure _
  · exact Tally.counts_bind (reports_report (h _ rfl rfl)) (Tally.counts_pure _)

/-- The comparison of the revisions counts its events. -/
theorem reports_checkFwRevisions (h : HoldsOfCode P .fwInconsistent) (dimms : List DiagDiscovery) :
    Reports P (checkFwRevisions request dimms) := by
  unfold checkFwRevisions
  split_ifs
  · exact Tally.counts_pure _
  · refine Tally.counts_bind (Tally.counts_foldlM (fun uids id _ => ?_) _) (Tally.counts_pure _)
    exact reports_checkFwRevisionsOf h dimms uids id

/-- The check of a temperature threshold counts its event. -/
private theorem reports_checkTemperature {indicator actual : UInt64} {code : EventCode} {expected : ρ}
    (h : HoldsOfCode P code) :
    Reports P (checkTemperature request queries uid indicator code actual expected) := by
  unfold checkTemperature
  dsimp only
  split_ifs
  · exact Tally.counts_pure _
  · exact reports_report (h _ rfl rfl)

/-- The check of the spare capacity threshold counts its event. -/
private theorem reports_checkSpareBlock (h : HoldsOfCode P .badSpareBlock)
    (sensors : SensorThresholds) : Reports P (checkSpareBlock request queries uid sensors) := by
  unfold checkSpareBlock
  split_ifs
  · exact Tally.counts_pure _
  · exact reports_report (h _ rfl rfl)

/-- The check of the log level counts its event. -/
private theorem reports_checkFwLogLevel (h : HoldsOfCode P .badFwLogLevel) :
    Reports P (checkFwLogLevel request queries uid dimm) := by
  refine Tally.counts_bind (reports_ask _) ?_
  rw [value_ask]
  cases dimm.getFwLogLevel with
  | error e => exact Tally.counts_pure _
  | ok logLevel =>
    dsimp only
    split_ifs
    · exact reports_report (h _ rfl rfl)
    · exact Tally.counts_pure _

/-- The comparison of the clocks counts its event. -/
private theorem reports_checkTimeDrift (h : HoldsOfCode P .systemTimeDrift) (time : UInt64) :
    Reports P (checkTimeDrift queries uid dimm time) := by
  unfold checkTimeDrift
  dsimp only
  split_ifs
  · exact reports_report (h _ rfl rfl)
  · exact reports_report (h _ rfl rfl)
  · exact Tally.counts_pure _

/-- The check of the clock counts its event. -/
theorem reports_checkSystemTime (h : HoldsOfCode P .systemTimeDrift) :
    Reports P (checkSystemTime request queries uid dimm) := by
  unfold checkSystemTime
  split_ifs
  · exact Tally.counts_pure _
  refine Tally.counts_bind (reports_ask _) ?_
  rw [value_ask]
  cases dimm.getFwSystemTime with
  | error e => exact Tally.counts_pure _
  | ok time =>
    exact Tally.counts_bind (reports_checkTimeDrift queries uid dimm h time) (Tally.counts_pure _)

/-- The check of a power budget counts its event. -/
theorem reports_checkPowerBudget {indicatorMin indicatorMax : UInt64} {name : String}
    {actual : UInt16} {lo hi : ℤ}
    (h : P (badSettingEvent .badPowerMgmtPolicy uid [.field name actual.toNat, .bounds lo hi])) :
    Reports P (checkPowerBudget request uid indicatorMin indicatorMax name actual lo hi) := by
  unfold checkPowerBudget
  split_ifs
  · exact reports_report h
  · exact Tally.counts_pure _

/-- The check of the die sparing policy counts its event. -/
private theorem reports_checkDieSparingPolicy (h : HoldsOfCode P .badDieSparingPolicy)
    (discovery : DiagDiscovery) :
    Reports P (checkDieSparingPolicy request queries uid dimm discovery) := by
  unfold checkDieSparingPolicy
  split
  · exact Tally.counts_pure _
  split
  · exact Tally.counts_pure _
  split
  · split
    · exact Tally.counts_pure _
    · exact reports_report (h _ rfl rfl)
  · exact reports_report (h _ rfl rfl)

variable {request queries}

/-- A pass of the loop over the DIMMs counts its events. -/
private theorem reports_checkFwDimm (h : FwDimmEvents request queries P)
    (state : ℤ × SensorThresholds) :
    Reports P (checkFwDimm request queries uid dimm state) := by
  refine Tally.counts_bind (reports_ask _) ?_
  rw [value_ask]
  cases dimm.existsAndManageable with
  | error e => exact Tally.counts_pure _
  | ok discovery =>
    refine Tally.counts_bind (reports_checkTemperature request queries uid
      (h.plain _ (by decide) (by decide) (by decide))) ?_
    refine Tally.counts_bind (reports_checkTemperature request queries uid
      (h.plain _ (by decide) (by decide) (by decide))) ?_
    refine Tally.counts_bind (reports_checkSpareBlock request queries uid
      (h.plain _ (by decide) (by decide) (by decide)) _) ?_
    refine Tally.counts_bind (reports_checkFwLogLevel request queries uid dimm
      (h.plain _ (by decide) (by decide) (by decide))) ?_
    refine Tally.counts_bind (reports_checkSystemTime request queries uid dimm
      (h.plain _ (by decide) (by decide) (by decide))) ?_
    refine Tally.counts_bind (h.power uid dimm) ?_
    exact Tally.counts_bind (reports_checkDieSparingPolicy request queries uid dimm
      (h.plain _ (by decide) (by decide) (by decide)) discovery) (Tally.counts_pure _)

/-- The loop over the DIMMs counts its events. -/
theorem reports_checkFwDimms (h : FwDimmEvents request queries P)
    (dimms : List (DiagDiscovery × ℕ)) : Reports P (checkFwDimms request queries dimms) :=
  Tally.counts_foldlM
    (fun state dimm _ => reports_checkFwDimm dimm.1.uid (queries.dimm dimm.2) h state) _

/-- The checks of the DIMMs count their events. -/
theorem reports_fwChecks (h : FwEvents request queries P) (dimms : List DiagDiscovery) :
    Reports P (fwChecks request queries dimms) := by
  refine Tally.counts_bind
    (reports_checkFwRevisions request (h.plain _ (by decide) (by decide)) dimms) ?_
  exact Tally.counts_bind (reports_checkFwDimms h.dimmEvents _) (Tally.counts_pure _)

variable (request queries)

/-- The check of the power management policy counts its events. -/
theorem reports_checkPowerMgmtPolicy (h : HoldsOfCode P .badPowerMgmtPolicy) :
    Reports P (checkPowerMgmtPolicy request queries uid dimm) := by
  unfold checkPowerMgmtPolicy
  split
  · exact Tally.counts_pure _
  split
  · exact Tally.counts_bind (reports_checkPowerBudget request uid (h _ rfl rfl))
      (reports_checkPowerBudget request uid (h _ rfl rfl))
  · exact reports_report (h _ rfl rfl)

/-- The events of the checks are findings. -/
theorem fwEvents_isFinding : FwEvents request queries (IsFinding fwSuccessEvent) where
  plain code hcode _ event htype heq := ⟨htype, heq ▸ hcode⟩
  power uid dimm := by
    refine reports_checkPowerMgmtPolicy request queries uid dimm fun event htype hcode => ?_
    exact ⟨htype, fun h => by rw [hcode] at h; cases h⟩

/-! ### Its return code -/

/-- The queries about a DIMM on which the return code depends are answered. -/
def FwDimmQueries.Answered (dimm : FwDimmQueries) (request : DiagnosticRequest) : Prop :=
  (∃ discovery, dimm.existsAndManageable = .ok discovery) ∧
    (request.excluded fwTime = false → ∃ time, dimm.getFwSystemTime = .ok time)

/-- The check of the clock returns success exactly if the clock is read or not looked at. -/
private theorem value_checkSystemTime :
    (checkSystemTime request queries uid dimm).value = nvmSuccess ↔
      (request.excluded fwTime = false → ∃ time, dimm.getFwSystemTime = .ok time) := by
  unfold checkSystemTime
  split_ifs with hexcluded
  · refine iff_of_true rfl fun h => ?_
    rw [hexcluded] at h
    cases h
  · rw [Tally.value_bind, value_ask]
    cases dimm.getFwSystemTime with
    | error e =>
      refine iff_of_false (fun h => ?_) fun h => ?_
      · exact e.property.ne h
      · obtain ⟨_, htime⟩ := h (Bool.eq_false_of_not_eq_true hexcluded)
        cases htime
    | ok time => exact iff_of_true rfl fun _ => ⟨time, rfl⟩

/-- A pass of the loop leaves success exactly if its queries are answered. -/
private theorem value_checkFwDimm (state : ℤ × SensorThresholds) :
    (checkFwDimm request queries uid dimm state).value.1 = nvmSuccess ↔ dimm.Answered request := by
  unfold FwDimmQueries.Answered checkFwDimm
  rw [Tally.value_bind, value_ask]
  cases dimm.existsAndManageable with
  | error e =>
    refine iff_of_false (fun h => ?_) ?_
    · exact e.property.ne h
    · rintro ⟨⟨_, h⟩, -⟩
      cases h
  | ok discovery =>
    rw [and_iff_right ⟨discovery, rfl⟩]
    exact value_checkSystemTime request queries uid dimm

/-- The last DIMM decides about the return code. -/
private theorem value_fwChecks {dimms : List DiagDiscovery} (hdimms : dimms ≠ []) :
    (fwChecks request queries dimms).value = nvmSuccess ↔
      (queries.dimm (dimms.length - 1)).Answered request := by
  have hsplit : dimms.zipIdx = dimms.dropLast.zipIdx ++
      [(dimms.getLast hdimms, dimms.length - 1)] := by
    conv_lhs => rw [← List.dropLast_append_getLast hdimms]
    rw [List.zipIdx_append, List.length_dropLast, Nat.zero_add]
    rfl
  have hvalue : (fwChecks request queries dimms).value =
      (checkFwDimms request queries dimms.zipIdx).value.1 := rfl
  rw [hvalue, checkFwDimms, hsplit, Tally.foldlM_concat]
  exact value_checkFwDimm request queries _ _ _

/-- Without a failed query, a pass of the loop leaves success. -/
private theorem answered_of_log {state : ℤ × SensorThresholds}
    (h : .asked false ∉ (checkFwDimm request queries uid dimm state).log) :
    dimm.Answered request := by
  unfold checkFwDimm at h
  rw [Tally.log_bind, value_ask, log_ask, List.mem_append, not_or] at h
  obtain ⟨hlookup, h⟩ := h
  cases hdimm : dimm.existsAndManageable with
  | error e =>
    rw [hdimm] at hlookup
    exact absurd (List.mem_singleton_self _) hlookup
  | ok discovery =>
    refine ⟨⟨discovery, hdimm⟩, fun hincluded => ?_⟩
    rw [hdimm] at h
    simp only [Tally.log_bind, List.mem_append, not_or] at h
    have htime := h.2.2.2.2.1
    rw [checkSystemTime, if_neg (Bool.not_eq_true _ ▸ hincluded), Tally.log_bind, log_ask,
      List.mem_append, not_or] at htime
    cases hanswer : dimm.getFwSystemTime with
    | error e =>
      rw [hanswer] at htime
      exact absurd (List.mem_singleton_self _) htime.1
    | ok time => exact ⟨time, rfl⟩

/-- Without a failed query, the checks return success. -/
private theorem settled_fwChecks (dimms : List DiagDiscovery) :
    Settled (fwChecks request queries dimms) := by
  refine settles_bind fun _ _ => settles_bind fun hasked _ _ _ => ?_
  have hloop : ∀ (l : List (DiagDiscovery × ℕ)) (state : ℤ × SensorThresholds),
      state.1 = nvmSuccess →
      .asked false ∉ (l.foldlM (fun state dimm => checkFwDimm request queries dimm.1.uid
        (queries.dimm dimm.2) state) state : Diag (ℤ × SensorThresholds)).log →
      (l.foldlM (fun state dimm => checkFwDimm request queries dimm.1.uid
        (queries.dimm dimm.2) state) state : Diag (ℤ × SensorThresholds)).value.1 = nvmSuccess := by
    intro l
    induction l with
    | nil => exact fun _ hstate _ => hstate
    | cons dimm l ih =>
      intro state _ hlog
      rw [List.foldlM_cons, Tally.log_bind, List.mem_append, not_or] at hlog
      rw [List.foldlM_cons, Tally.value_bind]
      refine ih _ ?_ hlog.2
      rw [value_checkFwDimm]
      exact answered_of_log request queries _ _ hlog.1
  exact hloop _ _ rfl hasked

end Accounted

/-- The firmware consistency diagnostic accounts for its events. -/
theorem accounts_diagFirmwareCheck (request : DiagnosticRequest) (queries : FwQueries ρ) :
    Accounts fwSuccessEvent (queries.dimms ≠ []) (diagFirmwareCheck request queries) := by
  refine accounts_ask (fun e he => by rw [he]) fun _ hsupported => ?_
  rw [hsupported]
  refine accounts_ask (fun e he => by rw [he]) fun count hcount => ?_
  rw [hcount]
  match count with
  | 0 =>
    refine accounts_of_reports (Tally.counts_bind
      (reports_report ⟨rfl, fun h => by cases h⟩) (Tally.counts_pure _)) fun _ _ hnone => ?_
    cases hnone
  | n + 1 =>
    refine accounts_ask (fun e he => by rw [he]) fun filled hfilled => ?_
    rw [hfilled]
    dsimp only
    split_ifs with hreturned
    · refine accounts_of_reports (Tally.counts_pure _) fun hdimms => ?_
      have hnone : queries.dimms = [] := by
        simp only [DeviceQueries.dimms, hcount, hfilled, hreturned, List.take_zero]
      exact absurd hnone hdimms
    · exact accounts_reportSuccess (reports_fwChecks (fwEvents_isFinding request queries) _)
        fun _ => settled_fwChecks request queries _

/-- A run with DIMMs succeeds exactly if the queries about the last one are answered. -/
theorem value_diagFirmwareCheck {request : DiagnosticRequest} {queries : FwQueries ρ}
    (hsupported : queries.isFeatureSupported .fwConsistency = .ok ()) (hdimms : queries.dimms ≠ []) :
    (diagFirmwareCheck request queries).value = nvmSuccess ↔
      (queries.dimm (queries.dimms.length - 1)).Answered request := by
  unfold diagFirmwareCheck
  simp only [Tally.value_bind, value_ask, hsupported]
  match hcount : queries.getDeviceCount with
  | .error e => exact absurd (by simp only [DeviceQueries.dimms, hcount]) hdimms
  | .ok 0 => exact absurd (by simp only [DeviceQueries.dimms, hcount]) hdimms
  | .ok (n + 1) =>
    simp only [Tally.value_bind, value_ask]
    cases hfilled : queries.getDevices (n + 1) with
    | error e => exact absurd (by simp only [DeviceQueries.dimms, hcount, hfilled]) hdimms
    | ok filled =>
      have heq : queries.dimms = filled.entries.take filled.returned := by
        simp only [DeviceQueries.dimms, hcount, hfilled]
      have hreturned : filled.returned ≠ 0 := by
        intro hzero
        rw [heq, hzero, List.take_zero] at hdimms
        exact hdimms rfl
      dsimp only
      rw [if_neg hreturned, ← heq, ← value_fwChecks request queries hdimms, Tally.value_bind,
        Tally.value_listen, reportSuccess]
      split_ifs
      · rfl
      · rfl

end IxpDimm.Diagnostic
