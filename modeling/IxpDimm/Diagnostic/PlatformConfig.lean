import IxpDimm.Diagnostic.BestPractices
import IxpDimm.Diagnostic.PlatformData

/-!
# The platform configuration diagnostic

`diag_platform_config_check` makes the NFIT check and, if it reports nothing, the checks of the
platform capabilities, of the platform config data of the devices and of best practices.  The number of
devices whose data are checked comes from the NFIT check; it is zero if that check is excluded.
-/

namespace IxpDimm.Diagnostic

open Foundation

/-! ### The diagnostic -/

/-- What the diagnostic is answered. -/
structure PlatformConfigQueries where
  /-- The answers to the NFIT check. -/
  nfit : NfitQueries
  /-- `nvm_get_nvm_capabilities` in `get_nvm_capabilities_from_pcat`. -/
  getNvmCapabilities : Except ErrorCode Pcat.NvmCapabilities
  /-- The answers to the check of the platform config data. -/
  pcd : PcdQueries
  /-- The answers to the check of best practices. -/
  bestPractices : BestPracticesQueries

section Checks

variable (request : DiagnosticRequest) (devices : DeviceQueries) (queries : PlatformConfigQueries)

/-- The NFIT check, if it is not excluded: the number of devices and the return code. -/
def checkNfit : Diag (ℤ × ℤ) :=
  if request.excluded pconfigNfit then pure (0, nvmSuccess)
  else do
    let nfit ← verifyNfit queries.nfit
    pure (nfit.1, keepError nvmSuccess nfit.2)

/-- `get_nvm_capabilities_from_pcat` with `check_bios_config_support`. -/
def getNvmCapabilitiesFromPcat : Diag Unit := do
  match ← ask queries.getNvmCapabilities with
  | .error _ => report (pconfigEvent .warn .invalidPcat [] .failed)
  | .ok capabilities =>
    reportIf (!capabilities.platformCapabilities.biosConfigSupport)
      (pconfigEvent .warn .noBiosConfigSupport [] .warning)

/-- The check of the platform capabilities, if it is not excluded. -/
def checkPcat : Diag Unit :=
  if request.excluded pconfigPcat then pure () else getNvmCapabilitiesFromPcat queries

/-- The check of the platform config data, if it is not excluded. -/
def checkPcd (devCount rc : ℤ) : Diag ℤ :=
  if request.excluded pconfigPcd then pure rc
  else do
    let new ← verifyPcd request devices queries.pcd devCount
    pure (keepError rc new)

/-- The check of best practices, if it is not excluded. -/
def checkBestPractices (rc : ℤ) : Diag ℤ :=
  if request.excluded pconfigBestPractices then pure rc
  else do
    let new ← checkPlatformConfigBestPractices devices queries.bestPractices
    pure (keepError rc new)

/-- The checks that are made if the NFIT check reports nothing. -/
def checkPlatform (devCount rc : ℤ) : Diag ℤ := do
  checkPcat request queries
  let rc ← checkPcd request devices queries devCount rc
  checkBestPractices request devices queries rc

/-- The part of `diag_platform_config_check` up to the report of success. -/
def platformConfigChecks : Diag ℤ := do
  let nfit ← (checkNfit request queries).listen
  if nfit.2 = 0 then checkPlatform request devices queries nfit.1.1 nfit.1.2
  else pure nfit.1.2

/-- `diag_platform_config_check`. -/
def diagPlatformConfigCheck : Diag ℤ := do
  match ← ask (devices.isFeatureSupported .platformConfig) with
  | .error e => pure e.val
  | .ok () => do
    let result ← (platformConfigChecks request devices queries).listen
    reportSuccess result.1 result.2 pconfigSuccessEvent

end Checks

/-! ### Its events -/

/-- The checks after the NFIT check are made: it is excluded, or it has nothing to report. -/
def NfitPasses (request : DiagnosticRequest) (queries : PlatformConfigQueries) : Prop :=
  request.excluded pconfigNfit = false → NfitSilent queries.nfit

/-- An event of the check of best practices is stored without being counted: the check is made, there
are pools, and the namespaces cannot be listed. -/
structure LosesResult (request : DiagnosticRequest) (devices : DeviceQueries)
    (queries : PlatformConfigQueries) : Prop where
  /-- The diagnostic is supported. -/
  supported : devices.isFeatureSupported .platformConfig = .ok ()
  /-- The checks after the NFIT check are made. -/
  passes : NfitPasses request queries
  /-- The check of best practices is not excluded. -/
  included : request.excluded pconfigBestPractices = false
  /-- There are pools. -/
  pools : HasPools queries.bestPractices
  /-- The namespaces cannot be listed. -/
  fails : NamespacesFail queries.bestPractices

section Accounted

variable {request : DiagnosticRequest} {devices : DeviceQueries} {queries : PlatformConfigQueries}

/-- The NFIT check counts its events. -/
theorem reports_checkNfit :
    Reports (IsFinding pconfigSuccessEvent) (checkNfit request queries) := by
  unfold checkNfit
  split_ifs
  · exact Tally.counts_pure _
  · exact Tally.counts_bind (reports_verifyNfit queries.nfit) (Tally.counts_pure _)

/-- The NFIT check counts nothing exactly if it is excluded or has nothing to report. -/
theorem count_checkNfit_eq_zero_iff :
    (checkNfit request queries).count = 0 ↔ NfitPasses request queries := by
  unfold checkNfit NfitPasses
  split_ifs with hexcluded
  · refine iff_of_true rfl fun h => ?_
    rw [hexcluded] at h
    cases h
  · have hcount := (reports_iff.mp (reports_verifyNfit queries.nfit)).1
    rw [Tally.count_bind, Tally.count_pure, Nat.add_zero, hcount, List.length_eq_zero_iff,
      nfitSilent_iff]
    exact ⟨fun h _ => h, fun h => h (Bool.eq_false_of_not_eq_true hexcluded)⟩

/-- The check of the platform capabilities counts its events. -/
theorem reports_checkPcat {P : DiagEvent → Prop}
    (h : ∀ event, HasCode [.invalidPcat, .noBiosConfigSupport] event → P event) :
    Reports P (checkPcat request queries) := by
  unfold checkPcat
  split_ifs
  · exact Tally.counts_pure _
  refine Tally.counts_bind (reports_ask _) ?_
  rw [value_ask]
  cases queries.getNvmCapabilities with
  | error e => exact reports_report (h _ ⟨rfl, List.mem_cons_self⟩)
  | ok capabilities =>
    exact reports_reportIf (h _ ⟨rfl, List.mem_cons_of_mem _ List.mem_cons_self⟩) _

/-- The check of the platform config data counts its events. -/
theorem reports_checkPcd (devCount rc : ℤ) :
    Reports (IsFinding pconfigSuccessEvent) (checkPcd request devices queries devCount rc) := by
  unfold checkPcd
  split_ifs
  · exact Tally.counts_pure _
  · exact Tally.counts_bind (reports_verifyPcd queries.pcd pcdEvents_isFinding devices devCount)
      (Tally.counts_pure _)

/-- The check of the platform capabilities stores findings. -/
theorem reports_checkPcat_findings :
    Reports (IsFinding pconfigSuccessEvent) (checkPcat request queries) :=
  reports_checkPcat fun _ h => h.isFinding (by decide)

/-- The checks after the NFIT check count their events, unless one of best practices is lost. -/
private theorem reports_checkPlatform (devCount rc : ℤ)
    (h : request.excluded pconfigBestPractices = false →
      ¬ (HasPools queries.bestPractices ∧ NamespacesFail queries.bestPractices)) :
    Reports (IsFinding pconfigSuccessEvent)
      (checkPlatform request devices queries devCount rc) := by
  refine Tally.counts_bind reports_checkPcat_findings
    (Tally.counts_bind (reports_checkPcd devCount rc) ?_)
  unfold checkBestPractices
  split_ifs with hexcluded
  · exact Tally.counts_pure _
  · have hreports := reports_checkPlatformConfigBestPractices queries.bestPractices devices
      (h (Bool.eq_false_of_not_eq_true hexcluded))
    refine Tally.counts_bind (reports_iff.mpr ⟨(reports_iff.mp hreports).1, fun event hevent => ?_⟩)
      (Tally.counts_pure _)
    exact ((reports_iff.mp hreports).2 event hevent).isFinding (by decide)

/-- If an event of best practices is lost, the checks do not count it. -/
private theorem misses_checkPlatform (devCount rc : ℤ)
    (hincluded : request.excluded pconfigBestPractices = false)
    (hpools : HasPools queries.bestPractices) (hfails : NamespacesFail queries.bestPractices) :
    Misses (IsFinding pconfigSuccessEvent)
      (checkPlatform request devices queries devCount rc) := by
  refine misses_then reports_checkPcat_findings (misses_then (reports_checkPcd devCount rc) ?_)
  have hmisses := misses_checkPlatformConfigBestPractices queries.bestPractices devices hpools hfails
  rw [checkBestPractices, if_neg (Bool.not_eq_true _ ▸ hincluded)]
  refine misses_before ⟨hmisses.count, fun event hevent => ?_⟩ (Tally.counts_pure _)
  exact (hmisses.findings event hevent).isFinding (by decide)

/-- Without a failed query, the checks after the NFIT check return success. -/
private theorem settled_checkPlatform {devCount : ℤ} (h : 0 ≤ devCount) :
    Settled (checkPlatform request devices queries devCount nvmSuccess) := by
  have hpcd : Settled (checkPcd request devices queries devCount nvmSuccess) := by
    unfold checkPcd
    split_ifs
    · exact settled_pure
    · exact settles_then (settled_verifyPcd request queries.pcd devices h) fun hnew =>
        settles_pure hnew
  refine settles_bind fun _ _ => settles_then hpcd fun hrc => ?_
  unfold checkBestPractices
  split_ifs
  · exact settles_pure hrc
  · refine settles_then
      (settled_checkPlatformConfigBestPractices queries.bestPractices devices) fun hnew => ?_
    refine settles_pure ?_
    rw [hrc, hnew]
    rfl

/-- Without a failed query and without an event, the NFIT check finds a number of devices and returns
success. -/
private theorem settles_checkNfit :
    Settles (fun nfit => 0 ≤ nfit.1 ∧ nfit.2 = nvmSuccess) (checkNfit request queries) := by
  unfold checkNfit
  split_ifs
  · exact settles_pure ⟨le_rfl, rfl⟩
  · refine settles_bind fun hasked hnone => settles_pure ⟨?_, ?_⟩
    · obtain ⟨n, -, hvalue⟩ := value_verifyNfit_of_silent queries.nfit
        ((nfitSilent_iff queries.nfit).mp hnone)
      rw [hvalue]
      exact Int.natCast_nonneg _
    · exact settles_verifyNfit queries.nfit hasked hnone

/-- Without a failed query, the checks return success. -/
private theorem settled_platformConfigChecks :
    Settled (platformConfigChecks request devices queries) := by
  refine settles_then (Q := fun nfit => 0 ≤ nfit.1.1 ∧ nfit.1.2 = nvmSuccess)
    (fun hasked hnone => settles_checkNfit hasked hnone) fun hnfit => ?_
  split_ifs
  · rw [hnfit.2]
    exact settled_checkPlatform hnfit.1
  · exact settles_pure hnfit.2

/-- The platform configuration diagnostic accounts for its events exactly if none is lost. -/
theorem accounts_diagPlatformConfigCheck_iff (hasDimm : Prop) :
    Accounts pconfigSuccessEvent hasDimm (diagPlatformConfigCheck request devices queries) ↔
      ¬ LosesResult request devices queries := by
  have hlisten : Reports (IsFinding pconfigSuccessEvent) (checkNfit request queries).listen :=
    Tally.counts_listen reports_checkNfit
  constructor
  · rintro haccounts ⟨hsupported, hpasses, hincluded, hpools, hfails⟩
    have hmisses : Misses (IsFinding pconfigSuccessEvent)
        (platformConfigChecks request devices queries) := by
      refine misses_then hlisten ?_
      rw [Tally.value_listen, if_pos (count_checkNfit_eq_zero_iff.mpr hpasses)]
      exact misses_checkPlatform _ _ hincluded hpools hfails
    rw [diagPlatformConfigCheck, hsupported] at haccounts
    exact not_accounts_reportSuccess hmisses (accounts_ask_ok_iff.mp haccounts)
  · intro hloses
    refine accounts_ask (fun e he => by rw [he]) fun _ hsupported => ?_
    rw [hsupported]
    refine accounts_reportSuccess (Tally.counts_bind hlisten ?_)
      fun _ => settled_platformConfigChecks
    rw [Tally.value_listen]
    split_ifs with hcount
    · refine reports_checkPlatform _ _ fun hincluded hboth => hloses ?_
      exact ⟨hsupported, count_checkNfit_eq_zero_iff.mp hcount, hincluded, hboth.1, hboth.2⟩
    · exact Tally.counts_pure _

end Accounted

end IxpDimm.Diagnostic
