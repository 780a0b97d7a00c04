import IxpDimm.ConfigGoal.Decode
import IxpDimm.Diagnostic.Nfit
import IxpDimm.Pcat.Capabilities

/-!
# The platform config data check of the platform configuration diagnostic

`verify_pcd` goes through the devices.  For each that is manageable it reads the platform config data,
looks at the current configuration and its interleave sets, at a goal that is not applied yet, and at
modes that the device does not support.

The functions that look a device up work on a list of devices and are not entered in the log.  A config
input table whose tables do not end has no goal here.
-/

namespace IxpDimm.Diagnostic

open Foundation

/-! ### What the check is answered -/

/-- What the check is answered. -/
structure PcdQueries where
  /-- The devices in which a device is looked up. -/
  platform : Platform
  /-- `get_dimm_platform_config` for a device handle. -/
  getDimmPlatformConfig : UInt32 → Except ErrorCode Bytes
  /-- `nvm_get_nvm_capabilities`. -/
  getNvmCapabilities : Except ErrorCode Pcat.NvmCapabilities

/-- An event of the platform configuration diagnostic about a device, whose unique id is the first
argument. -/
def deviceEvent (severity : EventSeverity) (code : EventCode) (uid : Uid) (actionRequired : Bool)
    (args : List EventArg) (result : DiagnosticResult) : DiagEvent :=
  { pconfigEvent severity code (.uid uid :: args) result with
    uid := some uid
    actionRequired := actionRequired }

/-! ### Interleave sets -/

section Sets

variable (platform : Platform) (uid : Uid) (revision : UInt8)

/-- `is_interleave_dimm_missing`. -/
def isInterleaveDimmMissing (dimm : Bytes) : Bool :=
  if revision = 1 then
    match lookupDevManufacturerSerialPart platform dimm (view dimm 2) (view dimm 6) with
    | .ok _ => false
    | .error _ => true
  else
    match lookupDevUid platform (deviceUidBytesToString dimm) with
    | .error .errBadDevice => true
    | _ => false

/-- `populate_dimm_identifier_for_event`. -/
def dimmIdentifierForEvent (dimm : Bytes) : EventArg :=
  if revision = 1 then .serial [dimm 2, dimm 3, dimm 4, dimm 5]
  else .uid (deviceUidBytesToString dimm)

/-- The event of a DIMM that an interleave set misses. -/
def brokenIsetEvent (index : ℕ) (dimm : Bytes) : DiagEvent :=
  pconfigEvent .warn .brokenIset [.number index, dimmIdentifierForEvent revision dimm] .failed

/-- The DIMMs of an interleave table. -/
def interleaveTableDimms (entry : Bytes) : List Bytes :=
  (List.range (entry 6).toNat).map fun i =>
    view entry (interleaveInfoTableSize + i * dimmInfoTableSize)

/-- The part of `check_interleave_sets` for one extension table. -/
def checkInterleaveTable (entry : Bytes) : Diag Unit :=
  if extensionType entry 0 = interleaveTable then
    (interleaveTableDimms entry).forM fun dimm =>
      reportIf (isInterleaveDimmMissing platform revision dimm)
        (brokenIsetEvent revision (readLE entry 4 2) dimm)
  else pure ()

/-- The event of an extension table without a length. -/
def invalidCurrentPcdEvent : DiagEvent :=
  deviceEvent .warn .invalidCurrentPcd uid false [] .failed

/-- The walk of `check_interleave_sets` over the extension tables, which ends at a table without a
length. -/
def checkExtensionTables (tables : Bytes) (totalLength offset : ℕ) : Diag Unit :=
  if offset < totalLength then
    if _hlength : extensionLength tables offset = 0 then report (invalidCurrentPcdEvent uid)
    else do
      checkInterleaveTable platform revision (view tables offset)
      checkExtensionTables tables totalLength (offset + extensionLength tables offset)
  else pure ()
  termination_by totalLength - offset

end Sets

/-- `check_interleave_sets`. -/
def checkInterleaveSets (platform : Platform) (uid : Uid) (currentConfig : Bytes) : Diag Unit :=
  checkExtensionTables platform uid (headerRevision currentConfig)
    (view currentConfig TableKind.currentConfig.structSize)
    (headerLength currentConfig - TableKind.currentConfig.structSize) 0

/-! ### The data of a device -/

section Device

variable (request : DiagnosticRequest) (queries : PcdQueries) (device : DiagDiscovery)

/-- `config_status` of a current config table. -/
def currentConfigStatus (currentConfig : Bytes) : ℕ := readLE currentConfig 36 2

/-- `CURRENT_CONFIG_STATUS_SUCCESS`. -/
def currentConfigStatusSuccess : ℕ := 1
/-- `CURRENT_CONFIG_STATUS_UNCONFIGURED`. -/
def currentConfigStatusUnconfigured : ℕ := 5
/-- `CURRENT_CONFIG_STATUS_ERROR_UNMAPPED`. -/
def currentConfigStatusErrorUnmapped : ℕ := 7

/-- The event of a device without a configuration. -/
def unconfiguredEvent : DiagEvent := deviceEvent .info .unconfigured device.uid false [] .ok

/-- `check_unmapped_device_config`. -/
def checkUnmappedDeviceConfig (currentConfig : Bytes) : Diag Unit :=
  reportIf (currentConfigStatus currentConfig == currentConfigStatusUnconfigured ||
    currentConfigStatus currentConfig == currentConfigStatusErrorUnmapped)
    (unconfiguredEvent device)

/-- The status check of `check_pcd_current_config_for_device`. -/
def checkConfigStatus (currentConfig : Bytes) : Diag Unit :=
  if currentConfigStatus currentConfig ≠ currentConfigStatusSuccess ∧
      request.excluded pconfigUnconfigured = false then
    checkUnmappedDeviceConfig device currentConfig
  else pure ()

/-- The interleave set check of `check_pcd_current_config_for_device`. -/
def checkBrokenIsets (currentConfig : Bytes) : Diag Unit :=
  if request.excluded pconfigBrokenIset then pure ()
  else checkInterleaveSets queries.platform device.uid currentConfig

/-- `check_pcd_current_config_for_device`, which returns success. -/
def checkPcdCurrentConfigForDevice (config : Bytes) : Diag Unit :=
  match castCurrentConfig config with
  | none => pure ()
  | some currentConfig => do
    checkConfigStatus request device currentConfig
    checkBrokenIsets request queries device currentConfig

/-- The check of the current configuration, if it is not excluded. -/
def checkCurrentPcd (config : Bytes) : Diag Unit :=
  if request.excluded pconfigCurrentPcd then pure ()
  else checkPcdCurrentConfigForDevice request queries device config

/-- `config_goal_is_unapplied`. -/
def configGoalIsUnapplied (configInput configOutput : Option Bytes) : Bool :=
  match configInput, configOutput with
  | some input, some output => sequenceNumber input != sequenceNumber output
  | some _, none => true
  | none, _ => false

/-- `check_for_unapplied_config_goal`. -/
def checkForUnappliedConfigGoal (config : Bytes) : Diag Unit :=
  reportIf (configGoalIsUnapplied (castConfigInput config) (castConfigOutput config))
    (deviceEvent .info .rebootNeededToApplyGoal device.uid true [] .ok)

/-- The common body of the checks of a current configuration and of a goal: whether the modes that they
use are supported. -/
def checkModes (code : EventCode) (capabilities : Pcat.NvmCapabilities) (memory appDirect : Bool) :
    Diag Unit := do
  reportIf (memory && (!capabilities.nvmFeatures.memoryMode ||
      !device.deviceCapabilities.memoryModeCapable))
    (deviceEvent .critical code device.uid false [.text "memory".toList] .failed)
  reportIf (appDirect && (!capabilities.nvmFeatures.appDirectMode ||
      !device.deviceCapabilities.appDirectModeCapable))
    (deviceEvent .critical code device.uid false [.text "App Direct".toList] .failed)

/-- `check_current_sku_violations`. -/
def checkCurrentSkuViolations (config : Bytes) (capabilities : Pcat.NvmCapabilities) : Diag Unit :=
  match castCurrentConfig config with
  | none => pure ()
  | some currentConfig =>
    checkModes device .dimmSkuViolation capabilities
      (0 < readLE currentConfig 40 8) (0 < readLE currentConfig 48 8)

/-- `check_goal_sku_violations`. -/
def checkGoalSkuViolations (config : Bytes) (capabilities : Pcat.NvmCapabilities) : Diag Unit :=
  match castConfigInput config with
  | none => pure ()
  | some configInput =>
    match configInputTableToConfigGoal (headerLength configInput + 1) queries.platform device.uid
      configInput TableKind.configInput.structSize (headerLength configInput) {} with
    | some (.success, goal) =>
      checkModes device .dimmGoalSkuViolation capabilities (0 < goal.memorySize)
        (0 < goal.appDirectCount)
    | _ => pure ()

/-- The event of platform config data that cannot be read. -/
def invalidPcdEvent : DiagEvent :=
  deviceEvent .critical .invalidPcd device.uid true [] .failed

/-- The checks of the modes, which need the capabilities of the platform. -/
def checkSkuViolations (config : Bytes) : Diag ℤ := do
  match ← ask queries.getNvmCapabilities with
  | .error e => pure e.val
  | .ok capabilities => do
    checkCurrentSkuViolations device config capabilities
    checkGoalSkuViolations queries device config capabilities
    pure nvmSuccess

/-- `check_platform_config_data_for_device`. -/
def checkPlatformConfigDataForDevice : Diag ℤ := do
  match ← ask (queries.getDimmPlatformConfig device.deviceHandle) with
  | .error _ => do
    reportIf (!request.excluded pconfigPcd) (invalidPcdEvent device)
    pure nvmSuccess
  | .ok config => do
    checkCurrentPcd request queries device config
    checkForUnappliedConfigGoal device config
    checkSkuViolations queries device config

end Device

/-! ### The loop over the devices -/

/-- The loop of `verify_pcd`, with the first error kept. -/
def verifyPcdDevices (request : DiagnosticRequest) (queries : PcdQueries)
    (devices : List DiagDiscovery) : Diag ℤ :=
  devices.foldlM (fun rc device =>
    if device.manageable then do
      let new ← checkPlatformConfigDataForDevice request queries device
      pure (keepError rc new)
    else pure rc) nvmSuccess

/-- `verify_pcd` for a number of devices, which may be an error. -/
def verifyPcd (request : DiagnosticRequest) (devices : DeviceQueries) (queries : PcdQueries)
    (devCount : ℤ) : Diag ℤ :=
  if 0 < devCount then do
    match ← ask (devices.getDevices devCount.toNat) with
    | .error e => pure e.val
    | .ok filled => verifyPcdDevices request queries (filled.entries.take filled.returned)
  else pure devCount

/-! ### Its events -/

/-- The codes of the events of the check. -/
def pcdCodes : List EventCode :=
  [.invalidPcd, .rebootNeededToApplyGoal, .dimmSkuViolation, .dimmGoalSkuViolation] ++
    [.unconfigured, .invalidCurrentPcd, .brokenIset]

/-- `P` holds of every event that the check of a current configuration can store. -/
structure CurrentConfigEvents (request : DiagnosticRequest) (P : DiagEvent → Prop) : Prop where
  /-- The event of a device without a configuration. -/
  unconfigured : request.excluded pconfigUnconfigured = false →
    ∀ event, event.type = .platformConfig → event.code = .unconfigured → P event
  /-- The events of the interleave sets. -/
  sets : request.excluded pconfigBrokenIset = false →
    ∀ event, event.type = .platformConfig → event.code ∈ [.invalidCurrentPcd, .brokenIset] → P event

/-- `P` holds of every event that the check can store. -/
structure PcdEvents (request : DiagnosticRequest) (P : DiagEvent → Prop) : Prop where
  /-- The events that are not about the current configuration. -/
  pcd : ∀ event, event.type = .platformConfig →
    event.code ∈ [.invalidPcd, .rebootNeededToApplyGoal, .dimmSkuViolation, .dimmGoalSkuViolation] →
      P event
  /-- The events of the current configuration. -/
  current : request.excluded pconfigCurrentPcd = false → CurrentConfigEvents request P

section Accounted

variable (request : DiagnosticRequest) (queries : PcdQueries) (device : DiagDiscovery)
variable (platform : Platform) (uid : Uid) (revision : UInt8) {P : DiagEvent → Prop}

/-- The check of an interleave table counts its events. -/
private theorem reports_checkInterleaveTable (entry : Bytes)
    (h : ∀ event : DiagEvent, event.type = .platformConfig →
      event.code ∈ [.invalidCurrentPcd, .brokenIset] → P event) :
    Reports P (checkInterleaveTable platform revision entry) := by
  unfold checkInterleaveTable
  split_ifs
  · exact Tally.counts_forM fun _ _ => reports_reportIf (h _ rfl (List.mem_cons_of_mem _
      (List.mem_singleton_self _))) _
  · exact Tally.counts_pure _

/-- The walk over the extension tables counts its events. -/
private theorem reports_checkExtensionTables (tables : Bytes) (totalLength offset : ℕ)
    (h : ∀ event : DiagEvent, event.type = .platformConfig →
      event.code ∈ [.invalidCurrentPcd, .brokenIset] → P event) :
    Reports P (checkExtensionTables platform uid revision tables totalLength offset) := by
  fun_induction checkExtensionTables platform uid revision tables totalLength offset with
  | case1 => exact reports_report (h _ rfl List.mem_cons_self)
  | case2 offset hoffset hlength ih =>
    exact Tally.counts_bind (reports_checkInterleaveTable platform revision _ h) ih
  | case3 => exact Tally.counts_pure _

/-- The check of the interleave sets counts its events. -/
theorem reports_checkInterleaveSets (currentConfig : Bytes)
    (h : ∀ event : DiagEvent, event.type = .platformConfig →
      event.code ∈ [.invalidCurrentPcd, .brokenIset] → P event) :
    Reports P (checkInterleaveSets platform uid currentConfig) :=
  reports_checkExtensionTables platform uid _ _ _ _ h

variable {request}

/-- The check of the current configuration counts its events. -/
theorem reports_checkPcdCurrentConfigForDevice (h : CurrentConfigEvents request P)
    (config : Bytes) :
    Reports P (checkPcdCurrentConfigForDevice request queries device config) := by
  unfold checkPcdCurrentConfigForDevice
  cases castCurrentConfig config with
  | none => exact Tally.counts_pure _
  | some currentConfig =>
    refine Tally.counts_bind ?_ ?_
    · unfold checkConfigStatus
      split_ifs with hstatus
      · exact reports_reportIf (h.unconfigured hstatus.2 _ rfl rfl) _
      · exact Tally.counts_pure _
    · unfold checkBrokenIsets
      split_ifs with hexcluded
      · exact Tally.counts_pure _
      · exact reports_checkInterleaveSets _ _ _
          (h.sets (Bool.eq_false_of_not_eq_true hexcluded))

/-- The check of the modes counts its events. -/
private theorem reports_checkModes {code : EventCode}
    (h : ∀ event : DiagEvent, event.type = .platformConfig → event.code = code → P event)
    (capabilities : Pcat.NvmCapabilities) (memory appDirect : Bool) :
    Reports P (checkModes device code capabilities memory appDirect) :=
  Tally.counts_bind (reports_reportIf (h _ rfl rfl) _) (reports_reportIf (h _ rfl rfl) _)

/-- The checks of the modes count their events. -/
private theorem reports_checkSkuViolations (h : PcdEvents request P) (config : Bytes) :
    Reports P (checkSkuViolations queries device config) := by
  have hcode : ∀ code ∈ [EventCode.dimmSkuViolation, .dimmGoalSkuViolation],
      ∀ event : DiagEvent, event.type = .platformConfig → event.code = code → P event := by
    intro code hmem event htype heq
    refine h.pcd event htype ?_
    rw [heq]
    exact List.mem_cons_of_mem _ (List.mem_cons_of_mem _ hmem)
  refine Tally.counts_bind (reports_ask _) ?_
  rw [value_ask]
  cases queries.getNvmCapabilities with
  | error e => exact Tally.counts_pure _
  | ok capabilities =>
    refine Tally.counts_bind ?_ (Tally.counts_bind ?_ (Tally.counts_pure _))
    · unfold checkCurrentSkuViolations
      split
      · exact Tally.counts_pure _
      · exact reports_checkModes device (hcode _ List.mem_cons_self) _ _ _
    · unfold checkGoalSkuViolations
      split
      · exact Tally.counts_pure _
      split
      · exact reports_checkModes device (hcode _ (List.mem_cons_of_mem _ List.mem_cons_self)) _ _ _
      · exact Tally.counts_pure _

/-- The check of a device counts its events. -/
private theorem reports_checkPlatformConfigDataForDevice (h : PcdEvents request P) :
    Reports P (checkPlatformConfigDataForDevice request queries device) := by
  refine Tally.counts_bind (reports_ask _) ?_
  rw [value_ask]
  cases queries.getDimmPlatformConfig device.deviceHandle with
  | error e =>
    exact Tally.counts_bind (reports_reportIf (h.pcd _ rfl List.mem_cons_self) _)
      (Tally.counts_pure _)
  | ok config =>
    refine Tally.counts_bind ?_ (Tally.counts_bind ?_ ?_)
    · unfold checkCurrentPcd
      split_ifs with hexcluded
      · exact Tally.counts_pure _
      · exact reports_checkPcdCurrentConfigForDevice queries device
          (h.current (Bool.eq_false_of_not_eq_true hexcluded)) config
    · exact reports_reportIf
        (h.pcd _ rfl (List.mem_cons_of_mem _ List.mem_cons_self)) _
    · exact reports_checkSkuViolations queries device h config

/-- The check of the platform config data counts its events. -/
theorem reports_verifyPcd (h : PcdEvents request P) (devices : DeviceQueries) (devCount : ℤ) :
    Reports P (verifyPcd request devices queries devCount) := by
  unfold verifyPcd
  split_ifs
  · refine Tally.counts_bind (reports_ask _) ?_
    rw [value_ask]
    cases devices.getDevices devCount.toNat with
    | error e => exact Tally.counts_pure _
    | ok filled =>
      refine Tally.counts_foldlM (fun rc device _ => ?_) _
      split_ifs
      · exact Tally.counts_bind (reports_checkPlatformConfigDataForDevice queries device h)
          (Tally.counts_pure _)
      · exact Tally.counts_pure _
  · exact Tally.counts_pure _

/-- `P` holds of the events of the check if it holds of those with its codes. -/
theorem pcdEvents_of_code (h : ∀ event, HasCode pcdCodes event → P event) : PcdEvents request P where
  pcd event htype hcode := h event ⟨htype, List.mem_append_left _ hcode⟩
  current _ :=
    { unconfigured := fun _ event htype hcode => h event ⟨htype, by rw [hcode]; decide⟩
      sets := fun _ event htype hcode => h event
        ⟨htype, List.mem_append_right _ (List.mem_cons_of_mem _ hcode)⟩ }

/-- The events of the check are findings. -/
theorem pcdEvents_isFinding : PcdEvents request (IsFinding pconfigSuccessEvent) :=
  pcdEvents_of_code fun _ h => h.isFinding (by decide)

variable (request)

/-- Without a failed query, the check of a device returns success. -/
private theorem settled_checkPlatformConfigDataForDevice :
    Settled (checkPlatformConfigDataForDevice request queries device) := by
  refine settles_ask fun config hconfig => ?_
  rw [hconfig]
  refine settles_bind fun _ _ => settles_bind fun _ _ => ?_
  refine settles_ask fun capabilities hcapabilities => ?_
  rw [hcapabilities]
  exact settles_bind fun _ _ => settles_bind fun _ _ => settled_pure

/-- Without a failed query, the loop over the devices returns success. -/
private theorem settled_verifyPcdDevices (devices : List DiagDiscovery) :
    Settled (verifyPcdDevices request queries devices) := by
  have hloop : ∀ (l : List DiagDiscovery) (rc : ℤ), rc = nvmSuccess →
      Settled (l.foldlM (fun rc device =>
        if device.manageable then do
          let new ← checkPlatformConfigDataForDevice request queries device
          pure (keepError rc new)
        else pure rc) rc) := by
    intro l
    induction l with
    | nil => exact fun rc hrc => settles_pure hrc
    | cons device l ih =>
      intro rc hrc
      rw [List.foldlM_cons]
      refine settles_then (Q := (· = nvmSuccess)) ?_ (ih _)
      split_ifs
      · refine settles_then (settled_checkPlatformConfigDataForDevice request queries device)
          fun hnew => settles_pure ?_
        rw [hrc, hnew]
        rfl
      · exact settles_pure hrc
  exact hloop devices nvmSuccess rfl

/-- Without a failed query, the check of the platform config data returns success, if there are
devices. -/
theorem settled_verifyPcd (devices : DeviceQueries) {devCount : ℤ} (h : 0 ≤ devCount) :
    Settled (verifyPcd request devices queries devCount) := by
  unfold verifyPcd
  split_ifs with hpos
  · refine settles_ask fun filled hfilled => ?_
    rw [hfilled]
    exact settled_verifyPcdDevices request queries _
  · exact settles_pure (le_antisymm (not_lt.mp hpos) h)

end Accounted

end IxpDimm.Diagnostic
