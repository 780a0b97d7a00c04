import IxpDimm.Diagnostic.Exclusions
import IxpDimm.Diagnostic.PlatformConfig

/-!
# Excluded checks of the platform configuration diagnostic

The checks of the platform config data skip what is excluded.  But the number of devices whose data are
checked is set by the NFIT check only, so that excluding that check takes the findings of the platform
config data away.
-/

namespace IxpDimm.Diagnostic

open Foundation

/-- Excluding the NFIT check takes findings of the platform config data away: only the second request
excludes it, that request includes the check of the data, and this has something to report about a
device that is found for the topology. -/
structure PcdLost (request request' : DiagnosticRequest) (devices : DeviceQueries)
    (queries : PlatformConfigQueries) : Prop where
  /-- The diagnostic is supported. -/
  supported : devices.isFeatureSupported .platformConfig = .ok ()
  /-- The first request includes the NFIT check. -/
  included : request.excluded pconfigNfit = false
  /-- The second request excludes it. -/
  excluded : request'.excluded pconfigNfit = true
  /-- The second request includes the check of the platform config data. -/
  pcd : request'.excluded pconfigPcd = false
  /-- A device that has something to report. -/
  device : ∃ n filled, queries.nfit.getTopologyCount = .ok (n + 1) ∧
    devices.getDevices (n + 1) = .ok filled ∧
      ∃ device ∈ filled.entries.take filled.returned, device.manageable = true ∧
        events (checkPlatformConfigDataForDevice request' queries.pcd device).log ≠ []

/-! ### The check of the platform config data -/

section Data

variable {request request' : DiagnosticRequest} (queries : PcdQueries)

/-- The events of the current configuration come from its check. -/
private theorem currentConfigEvents_covers :
    CurrentConfigEvents request (Covers pconfigCurrentPcd) where
  unconfigured _ _ _ hcode := (covers_of_code (congrArg EventCode.checks hcode)).of_subset (by decide)
  sets _ event _ hcode := by
    have hcodes : ∀ code ∈ [EventCode.invalidCurrentPcd, .brokenIset],
        code.checks &&& pconfigCurrentPcd = pconfigCurrentPcd := by decide
    exact (covers_of_code rfl).of_subset (hcodes event.code hcode)

/-- The events of the interleave sets come from their check. -/
private theorem covers_sets (platform : Platform) (uid : Uid) (currentConfig : Bytes) :
    Reports (Covers pconfigBrokenIset) (checkInterleaveSets platform uid currentConfig) := by
  refine reports_checkInterleaveSets platform uid currentConfig fun event _ hcode =>
    (covers_of_code rfl).of_subset ?_
  have hcodes : ∀ code ∈ [EventCode.invalidCurrentPcd, .brokenIset],
      code.checks &&& pconfigBrokenIset = pconfigBrokenIset := by decide
  exact hcodes event.code hcode

/-- The events of the check come from it. -/
private theorem pcdEvents_covers : PcdEvents request (Covers pconfigPcd) := by
  refine pcdEvents_of_code fun event hevent => ?_
  have hcodes : ∀ code ∈ pcdCodes, code.checks &&& pconfigPcd = pconfigPcd := by decide
  exact (covers_of_code rfl).of_subset (hcodes event.code hevent.2)

/-- No check of an event of the check is excluded. -/
private theorem pcdEvents_unexcluded (hpcd : request.excluded pconfigPcd = false) :
    PcdEvents request (Unexcluded request.excludes) := by
  have hzero : pconfigPcd &&& request.excludes = 0 := by
    rw [UInt64.and_comm]
    exact excluded_eq_false_iff.mp hpcd
  constructor
  · intro event htype hcode
    have hchecks : ∀ code ∈ [EventCode.invalidPcd, .rebootNeededToApplyGoal, .dimmSkuViolation,
        .dimmGoalSkuViolation], code.checks = pconfigPcd := by decide
    rw [Unexcluded, checks_of_platformConfig htype, hchecks event.code hcode, hzero]
  · intro hcurrent
    constructor
    · intro hunconfigured event htype hcode
      rw [Unexcluded, checks_of_platformConfig htype, hcode]
      exact or_and_excludes_eq_zero (or_and_excludes_eq_zero hzero hcurrent) hunconfigured
    · intro hsets event htype hcode
      have hchecks : ∀ code ∈ [EventCode.invalidCurrentPcd, .brokenIset],
          code.checks = pconfigPcd ||| pconfigCurrentPcd ||| pconfigBrokenIset := by decide
      rw [Unexcluded, checks_of_platformConfig htype, hchecks event.code hcode]
      exact or_and_excludes_eq_zero (or_and_excludes_eq_zero hzero hcurrent) hsets

variable (h : request.ExcludesMore request') (device : DiagDiscovery)

include h

/-- The check of the status only loses its event. -/
private theorem prunes_checkConfigStatus (currentConfig : Bytes) :
    Prunes request'.excludes (checkConfigStatus request device currentConfig)
      (checkConfigStatus request' device currentConfig) := by
  have hif : ∀ request : DiagnosticRequest, checkConfigStatus request device currentConfig =
      if request.excluded pconfigUnconfigured then pure ()
      else if currentConfigStatus currentConfig ≠ currentConfigStatusSuccess then
        checkUnmappedDeviceConfig device currentConfig
      else pure () := by
    intro request
    unfold checkConfigStatus
    cases request.excluded pconfigUnconfigured with
    | false => simp only [and_true, Bool.false_eq_true, if_false]
    | true => simp only [Bool.true_eq_false, and_false, if_false, if_true]
  rw [hif, hif]
  refine prunes_unless h (fun _ => pruned_refl _) fun _ => ?_
  split_ifs
  · have hreports : Reports (Covers pconfigUnconfigured)
        (checkUnmappedDeviceConfig device currentConfig) :=
      reports_reportIf ((covers_of_code rfl).of_subset
        (show EventCode.unconfigured.checks &&& pconfigUnconfigured = _ by decide)) _
    exact (reports_iff.mp hreports).2
  · exact List.forall_mem_nil _

/-- The check of the current configuration only loses events. -/
private theorem prunes_checkCurrentPcd (config : Bytes) :
    Prunes request'.excludes (checkCurrentPcd request queries device config)
      (checkCurrentPcd request' queries device config) := by
  refine prunes_unless h (fun _ => ?_) fun _ => ?_
  · unfold checkPcdCurrentConfigForDevice
    cases castCurrentConfig config with
    | none => exact pruned_refl _
    | some currentConfig =>
      refine prunes_bind (prunes_checkConfigStatus h device currentConfig) ?_
      exact prunes_unless h (fun _ => pruned_refl _) fun _ =>
        (reports_iff.mp (covers_sets queries.platform device.uid currentConfig)).2
  · exact (reports_iff.mp (reports_checkPcdCurrentConfigForDevice queries device
      currentConfigEvents_covers config)).2

/-- The check of a device only loses events. -/
private theorem prunes_checkPlatformConfigDataForDevice
    (hpcd : request'.excluded pconfigPcd = false) :
    Prunes request'.excludes (checkPlatformConfigDataForDevice request queries device)
      (checkPlatformConfigDataForDevice request' queries device) := by
  refine prunes_bind_left ?_
  rw [value_ask, hpcd, h.included hpcd]
  cases queries.getDimmPlatformConfig device.deviceHandle with
  | error e => exact pruned_refl _
  | ok config =>
    exact prunes_bind (prunes_checkCurrentPcd queries h device config) (pruned_refl _)

/-- The check of the data of a number of devices only loses events. -/
private theorem prunes_verifyPcd (hpcd : request'.excluded pconfigPcd = false)
    (devices : DeviceQueries) (devCount : ℤ) :
    Prunes request'.excludes (verifyPcd request devices queries devCount)
      (verifyPcd request' devices queries devCount) := by
  unfold verifyPcd
  by_cases hpos : 0 < devCount
  · rw [if_pos hpos, if_pos hpos]
    refine prunes_bind_left ?_
    rw [value_ask]
    cases devices.getDevices devCount.toNat with
    | error e => exact pruned_refl _
    | ok filled =>
      refine prunes_foldlM (R := fun _ _ => True) (fun rc rc' device _ _ => ⟨?_, trivial⟩) trivial
      cases device.manageable with
      | false => exact pruned_refl _
      | true =>
        exact prunes_bind (prunes_checkPlatformConfigDataForDevice queries h device hpcd)
          (pruned_refl _)
  · rw [if_neg hpos, if_neg hpos]
    exact pruned_refl _

end Data

/-! ### The devices of the topology -/

/-- The check of the data reports what the checks of the manageable devices report. -/
private theorem events_verifyPcd (request : DiagnosticRequest) (devices : DeviceQueries)
    (queries : PcdQueries) (n : ℕ) :
    events (verifyPcd request devices queries ((n + 1 : ℕ) : ℤ)).log =
      match devices.getDevices (n + 1) with
      | .error _ => []
      | .ok filled => (filled.entries.take filled.returned).flatMap fun device =>
          if device.manageable then
            events (checkPlatformConfigDataForDevice request queries device).log
          else [] := by
  have hpos : (0 : ℤ) < ((n + 1 : ℕ) : ℤ) := Int.natCast_pos.mpr n.succ_pos
  rw [verifyPcd, if_pos hpos, Int.toNat_natCast, Tally.log_bind, value_ask, events_append, log_ask,
    events_asked, List.nil_append]
  cases devices.getDevices (n + 1) with
  | error e => rfl
  | ok filled =>
    have hpass : ∀ (rc : ℤ) (device : DiagDiscovery), (if device.manageable then do
          let new ← checkPlatformConfigDataForDevice request queries device
          pure (keepError rc new)
        else pure rc : Diag ℤ).log =
          if device.manageable then (checkPlatformConfigDataForDevice request queries device).log
          else [] := by
      intro rc device
      cases device.manageable with
      | false => rfl
      | true => exact List.append_nil _
    dsimp only
    rw [verifyPcdDevices, Tally.log_foldlM hpass, events_flatMap]
    refine List.flatMap_congr fun device _ => ?_
    split_ifs <;> rfl

/-! ### The diagnostic -/

section Runs

variable {request request' : DiagnosticRequest} {devices : DeviceQueries}
variable {queries : PlatformConfigQueries}

/-- The number of devices of the NFIT check with nothing to report. -/
private theorem value_checkNfit {n : ℕ} (hsilent : NfitSilent queries.nfit)
    (hn : queries.nfit.getTopologyCount = .ok (n + 1)) :
    (checkNfit request queries).value.1 =
      if request.excluded pconfigNfit then 0 else ((n + 1 : ℕ) : ℤ) := by
  unfold checkNfit
  split_ifs
  · rfl
  · obtain ⟨m, hm, hvalue⟩ := value_verifyNfit_of_silent queries.nfit hsilent
    obtain rfl : n = m := Nat.succ.inj (Except.ok.inj (hn.symm.trans hm))
    exact hvalue

/-- With nothing for the NFIT check to report, the events are those of the checks after it. -/
private theorem events_platformConfigChecks (hsilent : NfitSilent queries.nfit) :
    events (platformConfigChecks request devices queries).log =
      events (checkPlatform request devices queries (checkNfit request queries).value.1
        (checkNfit request queries).value.2).log := by
  have hcount : (checkNfit request queries).count = 0 :=
    count_checkNfit_eq_zero_iff.mpr fun _ => hsilent
  have hnone : events (checkNfit request queries).log = [] :=
    List.length_eq_zero_iff.mp ((reports_iff.mp reports_checkNfit).1.symm.trans hcount)
  rw [platformConfigChecks, Tally.log_bind, Tally.log_listen, Tally.value_listen, events_append,
    hnone, List.nil_append, if_pos hcount]

/-- The events of the check of the platform capabilities come from it. -/
private theorem prunes_checkPcat (h : request.ExcludesMore request') :
    Prunes request'.excludes (checkPcat request queries) (checkPcat request' queries) := by
  refine prunes_unless h (fun _ => pruned_refl _) fun hincluded => ?_
  have hreports : Reports (Covers pconfigPcat) (checkPcat request queries) := by
    refine reports_checkPcat fun event hevent => covers_of_code ?_
    have hcodes : ∀ code ∈ [EventCode.invalidPcat, .noBiosConfigSupport],
        code.checks = pconfigPcat := by decide
    exact hcodes event.code hevent.2
  rw [checkPcat, if_neg (Bool.not_eq_true _ ▸ hincluded)] at hreports
  exact (reports_iff.mp hreports).2

/-- The events of the check of best practices come from it. -/
private theorem prunes_checkBestPractices (h : request.ExcludesMore request') (rc rc' : ℤ) :
    Prunes request'.excludes (checkBestPractices request devices queries rc)
      (checkBestPractices request' devices queries rc') := by
  refine prunes_unless h (fun _ => prunes_bind_left (pruned_refl _)) fun _ event hevent => ?_
  rw [Tally.log_bind, Tally.log_pure, List.append_nil] at hevent
  have hcodes : ∀ code ∈ bestPracticesCodes, code.checks = pconfigBestPractices := by decide
  exact covers_of_code (hcodes event.code
    (hasCode_of_mem_bestPractices queries.bestPractices devices hevent).2)

/-- The check of the data of the same devices only loses events. -/
private theorem prunes_checkPcd (h : request.ExcludesMore request') (rc rc' : ℤ)
    {devCount devCount' : ℤ} (hprunes : request'.excluded pconfigPcd = false →
      Prunes request'.excludes (verifyPcd request devices queries.pcd devCount)
        (verifyPcd request' devices queries.pcd devCount')) :
    Prunes request'.excludes (checkPcd request devices queries devCount rc)
      (checkPcd request' devices queries devCount' rc') := by
  refine prunes_unless h (fun hpcd => prunes_bind (hprunes hpcd) (pruned_refl _))
    fun _ event hevent => ?_
  rw [Tally.log_bind, Tally.log_pure, List.append_nil] at hevent
  exact (reports_iff.mp (reports_verifyPcd queries.pcd pcdEvents_covers devices devCount)).2
    event hevent

/-- Two runs differ by exclusions if no finding of the platform config data is taken away. -/
private theorem prunes_platformConfigChecks (h : request.ExcludesMore request')
    (hsupported : devices.isFeatureSupported .platformConfig = .ok ())
    (hsilent : NfitSilent queries.nfit) (hlost : ¬ PcdLost request request' devices queries) :
    Prunes request'.excludes (platformConfigChecks request devices queries)
      (platformConfigChecks request' devices queries) := by
  obtain ⟨n, hn, -⟩ := value_verifyNfit_of_silent queries.nfit hsilent
  rw [Prunes, events_platformConfigChecks hsilent, events_platformConfigChecks hsilent]
  refine prunes_bind (prunes_checkPcat h)
    (prunes_bind (prunes_checkPcd h _ _ fun hpcd => ?_) (prunes_checkBestPractices h _ _))
  rw [value_checkNfit hsilent hn, value_checkNfit hsilent hn]
  cases hexcluded' : request'.excluded pconfigNfit with
  | false =>
    rw [h.included hexcluded', if_neg Bool.false_ne_true]
    exact prunes_verifyPcd queries.pcd h hpcd devices _
  | true =>
    cases hexcluded : request.excluded pconfigNfit with
    | true => exact prunes_verifyPcd queries.pcd h hpcd devices _
    | false =>
      rw [if_neg Bool.false_ne_true, if_pos rfl]
      -- the first run checks the data, the second does not
      have hnone : events (verifyPcd request' devices queries.pcd ((n + 1 : ℕ) : ℤ)).log = [] := by
        rw [events_verifyPcd]
        cases hfilled : devices.getDevices (n + 1) with
        | error e => rfl
        | ok filled =>
          refine List.flatMap_eq_nil_iff.mpr fun device hdevice => ?_
          cases hmanageable : device.manageable with
          | false => rfl
          | true =>
            rw [if_pos rfl]
            by_contra hsome
            exact hlost ⟨hsupported, hexcluded, hexcluded', hpcd, n, filled, hn, hfilled, device,
              hdevice, hmanageable, hsome⟩
      have hprunes := prunes_verifyPcd queries.pcd h hpcd devices ((n + 1 : ℕ) : ℤ)
      rw [Prunes, hnone] at hprunes
      exact hprunes

/-- If a finding of the platform config data is taken away, two runs do not differ by exclusions. -/
private theorem not_prunes_platformConfigChecks (h : request.ExcludesMore request')
    (hsilent : NfitSilent queries.nfit) (hlost : PcdLost request request' devices queries) :
    ¬ Prunes request'.excludes (platformConfigChecks request devices queries)
      (platformConfigChecks request' devices queries) := by
  obtain ⟨-, hexcluded, hexcluded', hpcd, n, filled, hn, hfilled, device, hdevice, hmanageable,
    hsome⟩ := hlost
  obtain ⟨event, hevent⟩ := List.exists_mem_of_ne_nil _ hsome
  have hmem' : event ∈ events (verifyPcd request' devices queries.pcd ((n + 1 : ℕ) : ℤ)).log := by
    rw [events_verifyPcd, hfilled]
    refine List.mem_flatMap.mpr ⟨device, hdevice, ?_⟩
    rw [if_pos hmanageable]
    exact hevent
  have hmem := (prunes_verifyPcd queries.pcd h hpcd devices _).subset event hmem'
  have hunexcluded := (reports_iff.mp (reports_verifyPcd queries.pcd (pcdEvents_unexcluded hpcd)
    devices _)).2 event hmem'
  have hcode : HasCode pcdCodes event := (reports_iff.mp (reports_verifyPcd queries.pcd
    (pcdEvents_of_code fun _ hcode => hcode) devices _)).2 event hmem'
  intro hprunes
  rw [Prunes, events_platformConfigChecks hsilent, events_platformConfigChecks hsilent,
    value_checkNfit hsilent hn, value_checkNfit hsilent hn, hexcluded, hexcluded',
    if_neg Bool.false_ne_true, if_pos rfl] at hprunes
  have hrun : event ∈ events (checkPlatform request devices queries ((n + 1 : ℕ) : ℤ)
      (checkNfit request queries).value.2).log := by
    rw [checkPlatform, Tally.log_bind, Tally.log_bind, events_append, events_append, checkPcd,
      if_neg (Bool.not_eq_true _ ▸ h.included hpcd), Tally.log_bind, events_append]
    exact List.mem_append_right _ (List.mem_append_left _ (List.mem_append_left _ hmem))
  have hrun' := hprunes.kept event hrun hunexcluded
  rw [checkPlatform, Tally.log_bind, Tally.log_bind, events_append, events_append, List.mem_append,
    List.mem_append] at hrun'
  rcases hrun' with hpcat | hdata | hbest
  · have hother : HasCode [.invalidPcat, .noBiosConfigSupport] event :=
      (reports_iff.mp (reports_checkPcat fun _ hcode => hcode)).2 event hpcat
    have hdisjoint : ∀ code ∈ pcdCodes, code ∉ [EventCode.invalidPcat, .noBiosConfigSupport] := by
      decide
    exact hdisjoint event.code hcode.2 hother.2
  · rw [checkPcd, if_neg (Bool.not_eq_true _ ▸ hpcd)] at hdata
    cases hdata
  · unfold checkBestPractices at hbest
    split_ifs at hbest
    · cases hbest
    · rw [Tally.log_bind, Tally.log_pure, List.append_nil] at hbest
      have hdisjoint : ∀ code ∈ pcdCodes, code ∉ bestPracticesCodes := by decide
      exact hdisjoint event.code hcode.2
        (hasCode_of_mem_bestPractices queries.bestPractices devices hbest).2

/-- The events before the report of success are findings. -/
private theorem findings_platformConfigChecks (hsilent : NfitSilent queries.nfit) :
    ∀ event ∈ events (platformConfigChecks request devices queries).log,
      IsFinding pconfigSuccessEvent event := by
  intro event hevent
  rw [events_platformConfigChecks hsilent, checkPlatform, Tally.log_bind, Tally.log_bind,
    events_append, events_append, List.mem_append, List.mem_append] at hevent
  rcases hevent with hpcat | hdata | hbest
  · exact (reports_iff.mp reports_checkPcat_findings).2 event hpcat
  · exact (reports_iff.mp (reports_checkPcd _ _)).2 event hdata
  · unfold checkBestPractices at hbest
    split_ifs at hbest
    · cases hbest
    · rw [Tally.log_bind, Tally.log_pure, List.append_nil] at hbest
      exact (hasCode_of_mem_bestPractices queries.bestPractices devices hbest).isFinding (by decide)

/-- With nothing for the NFIT check to report, two runs of the platform configuration diagnostic differ
by exclusions exactly if no finding of the platform config data is taken away. -/
theorem onlyRemoves_diagPlatformConfigCheck_iff (h : request.ExcludesMore request')
    (hsilent : NfitSilent queries.nfit) :
    OnlyRemoves pconfigSuccessEvent request'.excludes (diagPlatformConfigCheck request devices queries)
      (diagPlatformConfigCheck request' devices queries) ↔
        ¬ PcdLost request request' devices queries := by
  unfold diagPlatformConfigCheck
  cases hsupported : devices.isFeatureSupported .platformConfig with
  | error e =>
    refine iff_of_true (onlyRemoves_of_events_eq rfl) fun hlost => ?_
    rw [hlost.supported] at hsupported
    cases hsupported
  | ok _ =>
    rw [onlyRemoves_ask_ok_iff]
    dsimp only
    rw [onlyRemoves_reportSuccess_iff (findings_platformConfigChecks hsilent)
      (findings_platformConfigChecks hsilent)]
    exact ⟨fun hprunes hlost => not_prunes_platformConfigChecks h hsilent hlost hprunes,
      prunes_platformConfigChecks h hsupported hsilent⟩

end Runs

end IxpDimm.Diagnostic
