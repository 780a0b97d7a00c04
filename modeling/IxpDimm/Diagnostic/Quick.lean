import IxpDimm.Common.Revision
import IxpDimm.Diagnostic.Accounting

/-!
# The quick health diagnostic

`diag_quick_health_check` looks at one DIMM: whether it can be managed, its boot status register, its
health and its alarm thresholds, its viral state, the last firmware update and the DDR-T training.

The conversion of the firmware interface version to a floating point number is an argument of the
model, as far as it is compared with 1.5 and 1.6.
-/

namespace IxpDimm.Diagnostic

open Foundation

/-! ### What the diagnostic is answered -/

/-- `struct pt_payload_smart_health`: a field is `none` if its validation flag is not set. -/
structure SmartHealth where
  /-- The health status. -/
  healthStatus : Option UInt8
  /-- The remaining spare capacity. -/
  spare : Option UInt8
  /-- The used part of the life span. -/
  percentageUsed : Option UInt8
  /-- The media temperature. -/
  mediaTemperature : Option UInt16
  /-- The controller temperature. -/
  controllerTemperature : Option UInt16
  /-- The state of the address indirection table. -/
  aitDramStatus : Option UInt8

/-- `struct pt_payload_alarm_thresholds`. -/
structure AlarmThresholds where
  /-- The spare capacity. -/
  spare : UInt8
  /-- The media temperature. -/
  mediaTemperature : UInt16
  /-- The controller temperature. -/
  controllerTemperature : UInt16

/-- What the quick diagnostic is answered about the DIMM. -/
structure QuickQueries where
  /-- `is_supported_driver_available`. -/
  isSupportedDriverAvailable : Bool
  /-- `lookup_dev_uid`. -/
  lookupDevUid : Except ErrorCode DiagDiscovery
  /-- `fw_get_bsr` in `check_dimm_bsr`. -/
  getBsr : Except ErrorCode UInt64
  /-- `nvm_get_device_discovery` in `check_ait_dram_not_ready`. -/
  getDeviceDiscovery : Except ErrorCode DiagDiscovery
  /-- `fw_get_smart_health`. -/
  getSmartHealth : Except ErrorCode SmartHealth
  /-- `fw_get_alarm_thresholds`. -/
  getAlarmThresholds : Except ErrorCode AlarmThresholds
  /-- `fw_get_config_data_policy`, for the viral status. -/
  getConfigDataPolicy : Except ErrorCode UInt8
  /-- `fw_get_fw_image_info`, for the status of the last update. -/
  getFwImageInfo : Except ErrorCode UInt8
  /-- The interface version in `check_ddrt_io_init_done`, where a failure to get it is ignored. -/
  fwApiVersion : List Char
  /-- `fw_get_ddrt_io_init`, for the training status. -/
  getDdrtIoInit : Except ErrorCode UInt8
  /-- `fw_get_bsr` in `check_ddrt_io_init_done`. -/
  getBsrAgain : Except ErrorCode UInt64
  /-- Whether `atof` of a text is at least 1.5. -/
  atLeast15 : List Char → Bool
  /-- Whether `atof` of a text is at least 1.6. -/
  atLeast16 : List Char → Bool
  /-- The setting of the highest health status. -/
  maxHealthStatus : ℤ
  /-- The setting of the used part of the life span. -/
  percentUsedThreshold : ℤ

/-! ### The checks -/

/-- An event of the quick diagnostic about a DIMM. -/
def quickEvent (uid : Uid) (severity : EventSeverity) (code : EventCode) (actionRequired : Bool)
    (args : List EventArg) (result : DiagnosticResult) : DiagEvent where
  type := .quick
  severity := severity
  code := code
  uid := some uid
  actionRequired := actionRequired
  args := args
  result := result

/-- The event of a critical state of a DIMM. -/
def criticalEvent (uid : Uid) (code : EventCode) (args : List EventArg) : DiagEvent :=
  quickEvent uid .critical code true (.uid uid :: args) .failed

/-- The event of a value that a DIMM should not have. -/
def badValueEvent (uid : Uid) (code : EventCode) (actual expected : EventArg) : DiagEvent :=
  quickEvent uid .warn code false [.uid uid, actual, expected] .warning

/-- The event of a DIMM that cannot be managed. -/
def notManageableEvent (uid : Uid) (code : EventCode) (arg : EventArg) : DiagEvent :=
  quickEvent uid .warn code false [.uid uid, arg] .aborted

/-- The event of success. -/
def quickSuccessEvent (uid : Uid) : DiagEvent := quickEvent uid .info .quickSuccess false [] .ok

/-- The event of `generate_event_for_bad_driver`. -/
def badDriverEvent : DiagEvent where
  type := .quick
  severity := .critical
  code := .badDriver
  actionRequired := true
  result := .failed

section Checks

variable (request : DiagnosticRequest) (queries : QuickQueries) (uid : Uid)

/-- `NVM_DIMM_SUBSYSTEM_VENDOR_ID`. -/
def nvmDimmSubsystemVendorId : UInt16 := 0x8089

/-- `check_dimm_manageability`. -/
def checkDimmManageability (discovery : DiagDiscovery) : Diag ℤ := do
  if discovery.subsystemVendorId ≠ nvmDimmSubsystemVendorId then do
    report (notManageableEvent uid .notManageableVendorId
      (.hex discovery.subsystemVendorId.toNat))
    pure (-5)
  else if discovery.subsystemDeviceId ∉ supportedDeviceIds then do
    report (notManageableEvent uid .notManageableDeviceId
      (.hex discovery.subsystemDeviceId.toNat))
    pure (-5)
  else if isFwApiVersionSupported (parseFwRevision discovery.fwApiVersion) = false then do
    report (notManageableEvent uid .notManageableFwApi (.text discovery.fwApiVersion))
    pure (-5)
  else pure nvmSuccess

/-- `check_media_disabled_status`. -/
def checkMediaDisabledStatus (bsr : UInt64) : Diag Unit :=
  reportIf (bsr &&& (1 : UInt64) <<< 24 != 0) (criticalEvent uid .mediaDisabled [])

/-- `check_media_ready_status`. -/
def checkMediaReadyStatus (bsr : UInt64) : Diag Unit :=
  if bsr &&& (3 : UInt64) <<< 16 = 0 then report (criticalEvent uid .mediaNotReady [])
  else reportIf (bsr &&& (2 : UInt64) <<< 16 != 0) (criticalEvent uid .mediaReadyError [])

/-- `check_fw_boot_status`. -/
def checkFwBootStatus (bsr : UInt64) : Diag Unit :=
  let major := bsr &&& 0xFF
  let checkpoint := EventArg.checkpoint major.toNat ((bsr &&& 0xFF00) >>> 8).toNat
  if major = 0x00 then report (criticalEvent uid .noPostCode [.text []])
  else if major = 0xE1 then report (criticalEvent uid .internalCpuError [checkpoint])
  else reportIf (major == 0xA1) (criticalEvent uid .fwInitializationIncomplete [checkpoint])

/-- `check_fw_assert`. -/
def checkFwAssert (bsr : UInt64) : Diag Unit :=
  reportIf (bsr &&& (1 : UInt64) <<< 32 != 0) (criticalEvent uid .fwHitAssert [])

/-- `check_fw_stalled`. -/
def checkFwStalled (bsr : UInt64) : Diag Unit :=
  reportIf (bsr &&& (1 : UInt64) <<< 33 != 0) (criticalEvent uid .fwStalled [])

/-- `check_ait_dram_not_ready`. -/
def checkAitDramNotReady (bsr : UInt64) : Diag Unit := do
  match ← ask queries.getDeviceDiscovery with
  | .error _ => report (criticalEvent uid .quickUnknown [])
  | .ok discovery =>
    let ready :=
      if queries.atLeast15 discovery.fwApiVersion then (bsr >>> 27) &&& 3 == 3
      else bsr &&& (1 : UInt64) <<< 34 != 0
    reportIf (!ready) (criticalEvent uid .aitDramNotReady [])

/-- `check_dimm_bsr`. -/
def checkDimmBsr : Diag ℤ := do
  match ← ask queries.getBsr with
  | .error e => do
    report (criticalEvent uid .unreadableBsr [])
    pure e.val
  | .ok bsr => do
    checkMediaDisabledStatus uid bsr
    checkMediaReadyStatus uid bsr
    checkFwBootStatus uid bsr
    checkFwAssert uid bsr
    checkFwStalled uid bsr
    checkAitDramNotReady queries uid bsr
    pure nvmSuccess

/-- A value of the DIMM that is checked if its validation flag is set. -/
def checkValue (indicator : UInt64) (actual : Option UInt64) (expected : UInt64) (e : Equality)
    (event : UInt64 → UInt64 → DiagEvent) : Diag Unit :=
  match actual with
  | none => pure ()
  | some actual =>
    let (passed, expected) := diagCheck request indicator actual expected e
    reportIf (!passed) (event actual expected)

/-- `check_dimm_alarm_thresholds`. -/
def checkDimmAlarmThresholds (smart : SmartHealth) : Diag ℤ := do
  match ← ask queries.getAlarmThresholds with
  | .error e => pure e.val
  | .ok thresholds => do
    checkValue request quickMediaTemp (smart.mediaTemperature.map (·.toUInt64))
      thresholds.mediaTemperature.toUInt64 .lessThan fun actual expected =>
        badValueEvent uid .badMediaTemp (.number actual.toNat) (.number expected.toNat)
    checkValue request quickControllerTemp (smart.controllerTemperature.map (·.toUInt64))
      thresholds.controllerTemperature.toUInt64 .lessThan fun actual expected =>
        badValueEvent uid .badCoreTemp (.number actual.toNat) (.number expected.toNat)
    checkValue request quickAvailSpare (smart.spare.map (·.toUInt64)) thresholds.spare.toUInt64
      .greaterThanEqual fun actual expected =>
        badValueEvent uid .badSpare (.number actual.toNat) (.number expected.toNat)
    checkValue request quickPercUsed (smart.percentageUsed.map (·.toUInt64))
      (UInt64.ofInt queries.percentUsedThreshold) .lessThan fun actual expected =>
        badValueEvent uid .badPercentUsed (.number actual.toNat) (.number expected.toNat)
    pure nvmSuccess

/-- `smart_health_status_to_device_health`. -/
def smartHealthStatusToDeviceHealth (status : ℤ) : DeviceHealth :=
  if status = 0 then .normal
  else if status = 1 then .noncritical
  else if status = 2 then .critical
  else if status = 4 then .fatal
  else .unknown

/-- `check_dimm_smart_health_status`. -/
def checkDimmSmartHealthStatus (smart : SmartHealth) : Diag Unit :=
  checkValue request quickHealth (smart.healthStatus.map (·.toUInt64))
    (UInt64.ofInt queries.maxHealthStatus) .lessThanEqual fun actual _ =>
      badValueEvent uid .badHealth (.health (smartHealthStatusToDeviceHealth actual.toNat))
        (.health (smartHealthStatusToDeviceHealth queries.maxHealthStatus))

/-- `check_dimm_ait_dram_status`. -/
def checkDimmAitDramStatus (smart : SmartHealth) : Diag Unit :=
  reportIf (smart.aitDramStatus == some 0) (criticalEvent uid .aitDramDisabled [])

/-- `check_dimm_health`. -/
def checkDimmHealth : Diag ℤ := do
  match ← ask queries.getSmartHealth with
  | .error e => pure e.val
  | .ok smart => do
    checkDimmSmartHealthStatus request queries uid smart
    checkDimmAitDramStatus uid smart
    checkDimmAlarmThresholds request queries uid smart

/-- The common body of the checks of one byte of an answer of the firmware. -/
def checkFwByte (answer : Except ErrorCode UInt8) (bad : UInt8 → Bool) (code : EventCode) :
    Diag ℤ := do
  match ← ask answer with
  | .error e => pure e.val
  | .ok byte => do
    reportIf (bad byte) (criticalEvent uid code [])
    pure nvmSuccess

/-- `check_dimm_viral_state`. -/
def checkDimmViralState : Diag ℤ :=
  checkFwByte uid queries.getConfigDataPolicy (· != 0) .viralState

/-- `check_dimm_fw_update_status`. -/
def checkDimmFwUpdateStatus : Diag ℤ :=
  checkFwByte uid queries.getFwImageInfo (· == 3) .fwLoadFailed

/-- `check_ddrt_io_init_done`, which reports a failure to get the status as a failed training.  The
boot status register is zero if it cannot be read. -/
def checkDdrtIoInitDone : Diag ℤ :=
  if queries.atLeast16 queries.fwApiVersion then do
    match ← ask queries.getDdrtIoInit with
    | .error e => do
      report (criticalEvent uid .ddrtIoInitFailed [])
      pure e.val
    | .ok status => do
      reportIf (status != 1) (criticalEvent uid .ddrtIoInitFailed [])
      pure nvmSuccess
  else do
    match ← ask queries.getBsrAgain with
    | .error e => do
      report (criticalEvent uid .ddrtIoInitFailed [])
      pure e.val
    | .ok bsr => do
      reportIf ((bsr &&& (3 : UInt64) <<< 18) >>> 18 == 0) (criticalEvent uid .ddrtIoInitFailed [])
      pure nvmSuccess

/-- The checks of a DIMM that can be managed. -/
def checkManageableDimm (rc : ℤ) : Diag ℤ := do
  let bsr ← checkDimmBsr queries uid
  let health ← checkDimmHealth request queries uid
  let viral ← checkDimmViralState queries uid
  let update ← checkDimmFwUpdateStatus queries uid
  let ddrt ← checkDdrtIoInitDone queries uid
  pure (keepError (keepError (keepError (keepError (keepError rc bsr) health) viral) update) ddrt)

/-- The part of `diag_quick_health_check` for a unique id, up to the report of success. -/
def quickChecks (isFeatureSupported : Except ErrorCode Unit) : Diag ℤ :=
  if queries.isSupportedDriverAvailable = false then do
    report badDriverEvent
    pure (-46)
  else do
    match ← ask isFeatureSupported with
    | .error e => pure e.val
    | .ok () => do
      match ← ask queries.lookupDevUid with
      | .error e => pure e.val
      | .ok discovery => do
        let rc ← checkDimmManageability uid discovery
        if discovery.manageable then checkManageableDimm request queries uid rc else pure rc

end Checks

/-- `diag_quick_health_check`; `none` is the null pointer. -/
def diagQuickHealthCheck (request : DiagnosticRequest) (devices : DeviceQueries)
    (queries : QuickQueries) : Option Uid → Diag ℤ
  | none => pure (-4)
  | some uid => do
    let result ← (quickChecks request queries uid (devices.isFeatureSupported .quick)).listen
    reportSuccess result.1 result.2 (quickSuccessEvent uid)

/-! ### Its events -/

section Accounted

variable (request : DiagnosticRequest) (queries : QuickQueries) (uid : Uid)

/-- An event about the DIMM with a code other than success is a finding. -/
private theorem isFinding_quickEvent {severity : EventSeverity} {code : EventCode}
    {actionRequired : Bool} {args : List EventArg} {result : DiagnosticResult}
    (h : code ≠ .quickSuccess) :
    IsFinding (quickSuccessEvent uid) (quickEvent uid severity code actionRequired args result) :=
  ⟨rfl, h⟩

/-- The check of the manageability counts its events. -/
private theorem reports_checkDimmManageability (discovery : DiagDiscovery) :
    Reports (IsFinding (quickSuccessEvent uid)) (checkDimmManageability uid discovery) := by
  have hreport : ∀ {code : EventCode} (arg : EventArg), code ≠ .quickSuccess →
      Reports (IsFinding (quickSuccessEvent uid)) (do
        report (notManageableEvent uid code arg)
        pure (-5 : ℤ)) := fun _ hcode =>
    Tally.counts_bind (reports_report (isFinding_quickEvent uid hcode)) (Tally.counts_pure _)
  unfold checkDimmManageability
  split
  · exact hreport _ (by decide)
  split
  · exact hreport _ (by decide)
  split
  · exact hreport _ (by decide)
  · exact Tally.counts_pure _

/-- The check of the media counts its events. -/
private theorem reports_checkMediaReadyStatus (bsr : UInt64) :
    Reports (IsFinding (quickSuccessEvent uid)) (checkMediaReadyStatus uid bsr) := by
  unfold checkMediaReadyStatus
  split_ifs
  · exact reports_report (isFinding_quickEvent uid (by decide))
  · exact reports_reportIf (isFinding_quickEvent uid (by decide)) _

/-- The check of the boot status counts its events. -/
private theorem reports_checkFwBootStatus (bsr : UInt64) :
    Reports (IsFinding (quickSuccessEvent uid)) (checkFwBootStatus uid bsr) := by
  unfold checkFwBootStatus
  dsimp only
  split_ifs
  · exact reports_report (isFinding_quickEvent uid (by decide))
  · exact reports_report (isFinding_quickEvent uid (by decide))
  · exact reports_reportIf (isFinding_quickEvent uid (by decide)) _

/-- The check of the address indirection table counts its events. -/
private theorem reports_checkAitDramNotReady (bsr : UInt64) :
    Reports (IsFinding (quickSuccessEvent uid)) (checkAitDramNotReady queries uid bsr) := by
  refine Tally.counts_bind (reports_ask _) ?_
  rw [value_ask]
  cases queries.getDeviceDiscovery with
  | error e => exact reports_report (isFinding_quickEvent uid (by decide))
  | ok discovery => exact reports_reportIf (isFinding_quickEvent uid (by decide)) _

/-- The checks of the boot status register count their events. -/
private theorem reports_checkDimmBsr :
    Reports (IsFinding (quickSuccessEvent uid)) (checkDimmBsr queries uid) := by
  refine Tally.counts_bind (reports_ask _) ?_
  rw [value_ask]
  cases queries.getBsr with
  | error e =>
    exact Tally.counts_bind (reports_report (isFinding_quickEvent uid (by decide)))
      (Tally.counts_pure _)
  | ok bsr =>
    refine Tally.counts_bind (reports_reportIf (isFinding_quickEvent uid (by decide)) _) ?_
    refine Tally.counts_bind (reports_checkMediaReadyStatus uid bsr) ?_
    refine Tally.counts_bind (reports_checkFwBootStatus uid bsr) ?_
    refine Tally.counts_bind (reports_reportIf (isFinding_quickEvent uid (by decide)) _) ?_
    refine Tally.counts_bind (reports_reportIf (isFinding_quickEvent uid (by decide)) _) ?_
    exact Tally.counts_bind (reports_checkAitDramNotReady queries uid bsr) (Tally.counts_pure _)

/-- The check of a value counts its event. -/
private theorem reports_checkValue {P : DiagEvent → Prop} {indicator expected : UInt64}
    {actual : Option UInt64} {e : Equality} {event : UInt64 → UInt64 → DiagEvent}
    (h : ∀ actual expected, P (event actual expected)) :
    Reports P (checkValue request indicator actual expected e event) := by
  unfold checkValue
  cases actual with
  | none => exact Tally.counts_pure _
  | some actual => exact reports_reportIf (h _ _) _

/-- The checks of the alarm thresholds count their events. -/
private theorem reports_checkDimmAlarmThresholds (smart : SmartHealth) :
    Reports (IsFinding (quickSuccessEvent uid))
      (checkDimmAlarmThresholds request queries uid smart) := by
  refine Tally.counts_bind (reports_ask _) ?_
  rw [value_ask]
  cases queries.getAlarmThresholds with
  | error e => exact Tally.counts_pure _
  | ok thresholds =>
    have hvalue : ∀ {code : EventCode}, code ≠ .quickSuccess → ∀ actual expected : UInt64,
        IsFinding (quickSuccessEvent uid)
          (badValueEvent uid code (.number actual.toNat) (.number expected.toNat)) :=
      fun hcode _ _ => isFinding_quickEvent uid hcode
    refine Tally.counts_bind (reports_checkValue request (hvalue (by decide))) ?_
    refine Tally.counts_bind (reports_checkValue request (hvalue (by decide))) ?_
    refine Tally.counts_bind (reports_checkValue request (hvalue (by decide))) ?_
    exact Tally.counts_bind (reports_checkValue request (hvalue (by decide))) (Tally.counts_pure _)

/-- The checks of the health count their events. -/
private theorem reports_checkDimmHealth :
    Reports (IsFinding (quickSuccessEvent uid)) (checkDimmHealth request queries uid) := by
  refine Tally.counts_bind (reports_ask _) ?_
  rw [value_ask]
  cases queries.getSmartHealth with
  | error e => exact Tally.counts_pure _
  | ok smart =>
    refine Tally.counts_bind (reports_checkValue request fun _ _ =>
      isFinding_quickEvent uid (by decide)) ?_
    refine Tally.counts_bind (reports_reportIf (isFinding_quickEvent uid (by decide)) _) ?_
    exact reports_checkDimmAlarmThresholds request queries uid smart

/-- The check of a byte counts its event. -/
private theorem reports_checkFwByte {answer : Except ErrorCode UInt8} {bad : UInt8 → Bool}
    {code : EventCode} (h : code ≠ .quickSuccess) :
    Reports (IsFinding (quickSuccessEvent uid)) (checkFwByte uid answer bad code) := by
  refine Tally.counts_bind (reports_ask _) ?_
  rw [value_ask]
  cases answer with
  | error e => exact Tally.counts_pure _
  | ok byte =>
    exact Tally.counts_bind (reports_reportIf (isFinding_quickEvent uid h) _) (Tally.counts_pure _)

/-- The check of the training counts its event. -/
private theorem reports_checkDdrtIoInitDone :
    Reports (IsFinding (quickSuccessEvent uid)) (checkDdrtIoInitDone queries uid) := by
  have hfailed : IsFinding (quickSuccessEvent uid) (criticalEvent uid .ddrtIoInitFailed []) :=
    isFinding_quickEvent uid (by decide)
  unfold checkDdrtIoInitDone
  split_ifs
  · refine Tally.counts_bind (reports_ask _) ?_
    rw [value_ask]
    cases queries.getDdrtIoInit with
    | error e => exact Tally.counts_bind (reports_report hfailed) (Tally.counts_pure _)
    | ok status => exact Tally.counts_bind (reports_reportIf hfailed _) (Tally.counts_pure _)
  · refine Tally.counts_bind (reports_ask _) ?_
    rw [value_ask]
    cases queries.getBsrAgain with
    | error e => exact Tally.counts_bind (reports_report hfailed) (Tally.counts_pure _)
    | ok bsr => exact Tally.counts_bind (reports_reportIf hfailed _) (Tally.counts_pure _)

/-- The checks of a DIMM that can be managed count their events. -/
private theorem reports_checkManageableDimm (rc : ℤ) :
    Reports (IsFinding (quickSuccessEvent uid)) (checkManageableDimm request queries uid rc) := by
  refine Tally.counts_bind (reports_checkDimmBsr queries uid) ?_
  refine Tally.counts_bind (reports_checkDimmHealth request queries uid) ?_
  refine Tally.counts_bind (reports_checkFwByte uid (by decide)) ?_
  refine Tally.counts_bind (reports_checkFwByte uid (by decide)) ?_
  exact Tally.counts_bind (reports_checkDdrtIoInitDone queries uid) (Tally.counts_pure _)

/-- The quick diagnostic counts the events that it stores, except success. -/
private theorem reports_quickChecks (isFeatureSupported : Except ErrorCode Unit) :
    Reports (IsFinding (quickSuccessEvent uid))
      (quickChecks request queries uid isFeatureSupported) := by
  unfold quickChecks
  split_ifs
  · refine Tally.counts_bind (reports_report ?_) (Tally.counts_pure _)
    exact ⟨rfl, fun h => by cases h⟩
  refine Tally.counts_bind (reports_ask _) ?_
  rw [value_ask]
  cases isFeatureSupported with
  | error e => exact Tally.counts_pure _
  | ok _ =>
    refine Tally.counts_bind (reports_ask _) ?_
    rw [value_ask]
    cases queries.lookupDevUid with
    | error e => exact Tally.counts_pure _
    | ok discovery =>
      refine Tally.counts_bind (reports_checkDimmManageability uid discovery) ?_
      split_ifs
      · exact reports_checkManageableDimm request queries uid _
      · exact Tally.counts_pure _

/-! ### When there is nothing to report -/

/-- A DIMM that cannot be managed is reported. -/
private theorem settled_checkDimmManageability (discovery : DiagDiscovery) :
    Settled (checkDimmManageability uid discovery) := by
  unfold checkDimmManageability
  split
  · exact settles_report _ _
  split
  · exact settles_report _ _
  split
  · exact settles_report _ _
  · exact settled_pure

/-- The checks of the boot status register return success. -/
private theorem settled_checkDimmBsr : Settled (checkDimmBsr queries uid) := by
  refine settles_ask fun bsr hbsr => ?_
  rw [hbsr]
  refine settles_bind fun _ _ => settles_bind fun _ _ => settles_bind fun _ _ => ?_
  exact settles_bind fun _ _ => settles_bind fun _ _ => settles_bind fun _ _ => settled_pure

/-- The checks of the health return success. -/
private theorem settled_checkDimmHealth : Settled (checkDimmHealth request queries uid) := by
  refine settles_ask fun smart hsmart => ?_
  rw [hsmart]
  refine settles_bind fun _ _ => settles_bind fun _ _ => settles_ask fun thresholds hthresholds => ?_
  rw [hthresholds]
  refine settles_bind fun _ _ => settles_bind fun _ _ => settles_bind fun _ _ => ?_
  exact settles_bind fun _ _ => settled_pure

/-- The check of a byte returns success. -/
private theorem settled_checkFwByte (answer : Except ErrorCode UInt8) (bad : UInt8 → Bool)
    (code : EventCode) : Settled (checkFwByte uid answer bad code) := by
  refine settles_ask fun byte hbyte => ?_
  rw [hbyte]
  exact settles_bind fun _ _ => settled_pure

/-- The check of the training returns success. -/
private theorem settled_checkDdrtIoInitDone : Settled (checkDdrtIoInitDone queries uid) := by
  unfold checkDdrtIoInitDone
  split_ifs
  · refine settles_ask fun status hstatus => ?_
    rw [hstatus]
    exact settles_bind fun _ _ => settled_pure
  · refine settles_ask fun bsr hbsr => ?_
    rw [hbsr]
    exact settles_bind fun _ _ => settled_pure

/-- The checks of a DIMM that can be managed return success. -/
private theorem settled_checkManageableDimm :
    Settled (checkManageableDimm request queries uid nvmSuccess) := by
  refine settles_then (settled_checkDimmBsr queries uid) fun hbsr => ?_
  refine settles_then (settled_checkDimmHealth request queries uid) fun hhealth => ?_
  refine settles_then (settled_checkFwByte uid _ _ _) fun hviral => ?_
  refine settles_then (settled_checkFwByte uid _ _ _) fun hupdate => ?_
  refine settles_then (settled_checkDdrtIoInitDone queries uid) fun hddrt => ?_
  intro _ _
  rw [hbsr, hhealth, hviral, hupdate, hddrt]
  rfl

/-- Without a failed query and without an event, the checks return success. -/
private theorem settled_quickChecks (isFeatureSupported : Except ErrorCode Unit) :
    Settled (quickChecks request queries uid isFeatureSupported) := by
  unfold quickChecks
  split_ifs
  · exact settles_report _ _
  refine settles_ask fun _ hsupported => ?_
  rw [hsupported]
  refine settles_ask fun discovery hdiscovery => ?_
  rw [hdiscovery]
  refine settles_then (settled_checkDimmManageability uid discovery) fun hrc => ?_
  rw [hrc]
  split_ifs
  · exact settled_checkManageableDimm request queries uid
  · exact settled_pure

/-- The quick diagnostic of a unique id accounts for its events. -/
theorem accounts_diagQuickHealthCheck (devices : DeviceQueries) (hasDimm : Prop) :
    Accounts (quickSuccessEvent uid) hasDimm
      (diagQuickHealthCheck request devices queries (some uid)) :=
  accounts_reportSuccess (reports_quickChecks request queries uid _)
    fun _ => settled_quickChecks request queries uid _

end Accounted

end IxpDimm.Diagnostic
