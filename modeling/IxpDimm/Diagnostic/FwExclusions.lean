import IxpDimm.Diagnostic.Exclusions
import IxpDimm.Diagnostic.FwConsistency

/-!
# Excluded checks of the firmware consistency diagnostic

Most checks of the diagnostic are skipped if they are excluded, or make a comparison that then passes.
The two checks of a power budget are the exception: the budget is reported if one of two comparisons
holds, and `diag_check` answers an excluded comparison as if it held.  Excluding one of them therefore
reports a budget that is in its range.
-/

namespace IxpDimm.Diagnostic

open Foundation

variable {ρ : Type}

/-! ### Power budgets -/

/-- The two power budgets. -/
inductive Budget
  | average | peak
  deriving DecidableEq, Repr

namespace Budget

/-- The check of the lower limit. -/
def indicatorMin : Budget → UInt64
  | average => fwAvgPowBudgetMin
  | peak => fwPeakPowBudgetMin

/-- The check of the upper limit. -/
def indicatorMax : Budget → UInt64
  | average => fwAvgPowBudgetMax
  | peak => fwPeakPowBudgetMax

/-- The name in the event. -/
def name : Budget → String
  | average => "average power budget"
  | peak => "peak power budget"

/-- The budget of a DIMM. -/
def actual (policy : PowerMgmtPolicy) : Budget → UInt16
  | average => policy.averagePowerBudget
  | peak => policy.peakPowerBudget

/-- The lower limit of the settings. -/
def lo (settings : FwSettings ρ) : Budget → ℤ
  | average => settings.avgPowBudgetMin
  | peak => settings.peakPowBudgetMin

/-- The upper limit of the settings. -/
def hi (settings : FwSettings ρ) : Budget → ℤ
  | average => settings.avgPowBudgetMax
  | peak => settings.peakPowBudgetMax

variable (request : DiagnosticRequest) (queries : FwQueries ρ) (uid : Uid) (dimm : FwDimmQueries)
variable (budget : Budget)

/-- The check of a budget. -/
def check : Diag Unit :=
  checkPowerBudget request uid budget.indicatorMin budget.indicatorMax budget.name
    (budget.actual dimm.powerMgmtPolicy) (budget.lo queries.settings) (budget.hi queries.settings)

/-- The event of a budget. -/
def event : DiagEvent :=
  badSettingEvent .badPowerMgmtPolicy uid
    [.field budget.name (budget.actual dimm.powerMgmtPolicy).toNat,
      .bounds (budget.lo queries.settings) (budget.hi queries.settings)]

/-- Whether a budget is below its lower or above its upper limit. -/
def isOutside : Bool :=
  Equality.lessThan.holds (budget.actual dimm.powerMgmtPolicy).toUInt64
      (request.expected budget.indicatorMin (UInt64.ofInt (budget.lo queries.settings))) ||
    Equality.greaterThan.holds (budget.actual dimm.powerMgmtPolicy).toUInt64
      (request.expected budget.indicatorMax (UInt64.ofInt (budget.hi queries.settings)))

/-- Whether one of the two checks of a budget is excluded. -/
def isExcluded : Bool :=
  request.excluded budget.indicatorMin || request.excluded budget.indicatorMax

/-- A budget is reported if it is outside of its range, and also if one of its checks is excluded. -/
theorem check_eq :
    budget.check request queries uid dimm =
      reportIf (budget.isExcluded request || budget.isOutside request queries dimm)
        (budget.event queries uid dimm) := by
  unfold check checkPowerBudget isExcluded isOutside diagCheck reportIf event
  cases request.excluded budget.indicatorMin <;> cases request.excluded budget.indicatorMax <;>
    simp

end Budget

/-- The check of the policy checks both budgets. -/
private theorem checkPowerMgmtPolicy_eq (request : DiagnosticRequest) (queries : FwQueries ρ)
    (uid : Uid) (dimm : FwDimmQueries) :
    checkPowerMgmtPolicy request queries uid dimm =
      if request.excluded fwPowMgmtPolicy then pure ()
      else if dimm.powerMgmtPolicy.enabled ≠ 0 then
        Budget.average.check request queries uid dimm >>= fun _ =>
          Budget.peak.check request queries uid dimm
      else
        report (badSettingEvent .badPowerMgmtPolicy uid
          [.field "power management policy enable" dimm.powerMgmtPolicy.enabled.toNat,
            .number 1]) := rfl

/-- Excluding a check of a budget reports it: only the second request excludes one, and the budget is
in its range. -/
structure BudgetShifts (request request' : DiagnosticRequest) (queries : FwQueries ρ)
    (dimm : FwDimmQueries) (budget : Budget) : Prop where
  /-- The first request includes both checks. -/
  included : budget.isExcluded request = false
  /-- The second request excludes one of them. -/
  excluded : budget.isExcluded request' = true
  /-- The budget is in its range. -/
  inside : budget.isOutside request queries dimm = false

/-- Excluding a check of a power budget of a DIMM reports it. -/
structure PowerShifts (request request' : DiagnosticRequest) (queries : FwQueries ρ)
    (dimm : FwDimmQueries) : Prop where
  /-- The DIMM is examined. -/
  examined : ∃ discovery, dimm.existsAndManageable = .ok discovery
  /-- The second request includes the check of the policy. -/
  included : request'.excluded fwPowMgmtPolicy = false
  /-- The policy is enabled. -/
  enabled : dimm.powerMgmtPolicy.enabled ≠ 0
  /-- Excluding a check of a budget reports it. -/
  budget : ∃ budget, BudgetShifts request request' queries dimm budget

/-- Excluding a check of a power budget reports it, for a DIMM of the run. -/
structure FwShifts (request request' : DiagnosticRequest) (queries : FwQueries ρ) : Prop where
  /-- The diagnostic is supported. -/
  supported : queries.isFeatureSupported .fwConsistency = .ok ()
  /-- A DIMM. -/
  dimm : ∃ i < queries.dimms.length, PowerShifts request request' queries (queries.dimm i)

/-! ### Checks without a shift -/

section Checks

variable {request request' : DiagnosticRequest} (h : request.ExcludesMore request')
variable (queries : FwQueries ρ) (uid : Uid) (dimm : FwDimmQueries)

/-- The field of a budget has its two checks. -/
private theorem fieldChecks_name (budget : Budget) :
    fieldChecks budget.name = budget.indicatorMin ||| budget.indicatorMax := by
  unfold fieldChecks
  cases budget with
  | average => exact if_pos rfl
  | peak => exact (if_neg (by decide)).trans (if_pos rfl)

/-- The event of a budget comes from the check of the policy and the two checks of the budget. -/
private theorem covers_event (budget : Budget) :
    Covers fwPowMgmtPolicy (budget.event queries uid dimm) ∧
      Covers budget.indicatorMin (budget.event queries uid dimm) ∧
        Covers budget.indicatorMax (budget.event queries uid dimm) := by
  have hchecks : (budget.event queries uid dimm).checks =
      fwPowMgmtPolicy ||| (budget.indicatorMin ||| budget.indicatorMax) :=
    congrArg (fwPowMgmtPolicy ||| ·) (fieldChecks_name budget)
  unfold Covers
  rw [hchecks]
  cases budget with
  | average => decide
  | peak => decide

/-- The event of the aggressiveness of die sparing comes from its check. -/
private theorem covers_level (value : ℕ) (arg : EventArg) :
    Covers fwDieSparingLevel (badSettingEvent .badDieSparingPolicy uid
      [.field "die sparing aggressiveness" value, arg]) := by
  have hfield : fieldChecks "die sparing aggressiveness" = fwDieSparingLevel :=
    (if_neg (by decide)).trans ((if_neg (by decide)).trans (if_pos rfl))
  have hchecks : (badSettingEvent .badDieSparingPolicy uid
      [.field "die sparing aggressiveness" value, arg]).checks =
        fwDieSparingPolicy ||| fwDieSparingLevel := congrArg (fwDieSparingPolicy ||| ·) hfield
  unfold Covers
  rw [hchecks]
  decide

include h

/-- More checks of a budget are excluded. -/
private theorem isExcluded_mono {budget : Budget} (hincluded : budget.isExcluded request' = false) :
    budget.isExcluded request = false := by
  unfold Budget.isExcluded at *
  rw [Bool.or_eq_false_iff] at *
  exact ⟨h.included hincluded.1, h.included hincluded.2⟩

/-- The range is the same. -/
private theorem isOutside_eq (budget : Budget) :
    budget.isOutside request' queries dimm = budget.isOutside request queries dimm := by
  unfold Budget.isOutside
  rw [h.expected_eq, h.expected_eq]

/-- Without a shift, the check of a budget only loses its event. -/
private theorem prunes_budget {budget : Budget}
    (hshifts : ¬ BudgetShifts request request' queries dimm budget) :
    Prunes request'.excludes (budget.check request queries uid dimm)
      (budget.check request' queries uid dimm) := by
  rw [Budget.check_eq, Budget.check_eq, isOutside_eq h]
  cases houtside : budget.isOutside request queries dimm with
  | true =>
    rw [Bool.or_true, Bool.or_true]
    exact pruned_refl _
  | false =>
    rw [Bool.or_false, Bool.or_false]
    cases hexcluded : budget.isExcluded request with
    | true =>
      have hexcluded' : budget.isExcluded request' = true :=
        Bool.eq_true_of_not_eq_false fun hincluded => by
          rw [isExcluded_mono h hincluded] at hexcluded
          cases hexcluded
      rw [hexcluded']
      exact pruned_refl _
    | false =>
      have hexcluded' : budget.isExcluded request' = false :=
        Bool.eq_false_of_not_eq_true fun hexcluded' => hshifts ⟨hexcluded, hexcluded', houtside⟩
      rw [hexcluded']
      exact pruned_refl _

/-- Without a shift, the check of the policy only loses events. -/
private theorem prunes_checkPowerMgmtPolicy (hshifts : request'.excluded fwPowMgmtPolicy = false →
    dimm.powerMgmtPolicy.enabled ≠ 0 →
      ∀ budget, ¬ BudgetShifts request request' queries dimm budget) :
    Prunes request'.excludes (checkPowerMgmtPolicy request queries uid dimm)
      (checkPowerMgmtPolicy request' queries uid dimm) := by
  rw [checkPowerMgmtPolicy_eq, checkPowerMgmtPolicy_eq]
  refine prunes_unless h (fun hincluded => ?_) fun _ => ?_
  · by_cases henabled : dimm.powerMgmtPolicy.enabled ≠ 0
    · rw [if_pos henabled, if_pos henabled]
      exact prunes_bind (prunes_budget h queries uid dimm (hshifts hincluded henabled .average))
        (prunes_budget h queries uid dimm (hshifts hincluded henabled .peak))
    · rw [if_neg henabled, if_neg henabled]
      exact pruned_refl _
  · have hcovers : ∀ budget : Budget, Reports (Covers fwPowMgmtPolicy)
        (budget.check request queries uid dimm) := by
      intro budget
      rw [Budget.check_eq]
      exact reports_reportIf (covers_event queries uid dimm budget).1 _
    by_cases henabled : dimm.powerMgmtPolicy.enabled ≠ 0
    · rw [if_pos henabled]
      exact (reports_iff.mp (Tally.counts_bind (hcovers .average) (hcovers .peak))).2
    · rw [if_neg henabled]
      exact List.forall_mem_singleton.mpr (covers_of_code rfl)

/-- The check of the die sparing policy only loses its event. -/
private theorem prunes_checkDieSparingPolicy (discovery : DiagDiscovery) :
    Prunes request'.excludes (checkDieSparingPolicy request queries uid dimm discovery)
      (checkDieSparingPolicy request' queries uid dimm discovery) := by
  unfold checkDieSparingPolicy
  by_cases hcapable : discovery.dieSparingCapable = false
  · rw [if_pos hcapable, if_pos hcapable]
    exact pruned_refl _
  rw [if_neg hcapable, if_neg hcapable]
  refine prunes_unless h (fun _ => ?_) fun _ => ?_
  · by_cases henable : dimm.dieSparePolicy.enable ≠ 0
    · rw [if_pos henable, if_pos henable]
      exact prunes_diagCheck h (covers_level _ _ _) _ _ _
    · rw [if_neg henable, if_neg henable]
      exact pruned_refl _
  · split_ifs
    · exact List.forall_mem_nil _
    · exact List.forall_mem_singleton.mpr (covers_of_code rfl)
    · exact List.forall_mem_singleton.mpr (covers_of_code rfl)

/-- The check of a temperature only loses its event. -/
private theorem prunes_checkTemperature {indicator : UInt64} {code : EventCode}
    (hcode : code.checks = indicator) (actual : UInt64) (expected : ρ) :
    Prunes request'.excludes
      (checkTemperature request queries uid indicator code actual expected)
      (checkTemperature request' queries uid indicator code actual expected) := by
  unfold checkTemperature diagCheckReal
  rw [h.overrides]
  cases hexcluded' : request'.excluded indicator with
  | false =>
    rw [h.included hexcluded']
    exact pruned_refl _
  | true =>
    simp only [if_true]
    refine pruned_nil fun event hevent => ?_
    cases hexcluded : request.excluded indicator with
    | true =>
      rw [hexcluded] at hevent
      cases hevent
    | false =>
      rw [hexcluded] at hevent
      simp only [Bool.false_eq_true, if_false] at hevent
      split_ifs at hevent
      · cases hevent
      · rw [List.mem_singleton.mp hevent]
        exact (covers_of_code hcode).not_unexcluded hexcluded'

/-- The check of the spare capacity only loses its event. -/
private theorem prunes_checkSpareBlock (sensors : SensorThresholds) :
    Prunes request'.excludes (checkSpareBlock request queries uid sensors)
      (checkSpareBlock request' queries uid sensors) := by
  have hcovers : Covers fwSpare (badSettingEvent .badSpareBlock uid
      [.number queries.settings.spareBlock, .number sensors.spareCapacity.toNat]) :=
    covers_of_code rfl
  exact prunes_diagCheck h hcovers _ _ _

/-- The check of the log level only loses its event. -/
private theorem prunes_checkFwLogLevel :
    Prunes request'.excludes (checkFwLogLevel request queries uid dimm)
      (checkFwLogLevel request' queries uid dimm) := by
  refine prunes_bind_left ?_
  rw [value_ask]
  cases dimm.getFwLogLevel with
  | error e => exact pruned_refl (events (pure () : Diag Unit).log)
  | ok logLevel =>
    have hcovers : Covers fwDebuglog (badSettingEvent .badFwLogLevel uid
        [.number logLevel, .number queries.settings.fwLogLevel]) := covers_of_code rfl
    exact prunes_reportUnless h hcovers _

/-- The check of the clock only loses its event. -/
private theorem prunes_checkSystemTime :
    Prunes request'.excludes (checkSystemTime request queries uid dimm)
      (checkSystemTime request' queries uid dimm) := by
  refine prunes_unless h (fun _ => pruned_refl _) fun hincluded => ?_
  have hreports : Reports (Covers fwTime) (checkSystemTime request queries uid dimm) :=
    reports_checkSystemTime request queries uid dimm fun _ _ hcode =>
      covers_of_code (hcode ▸ rfl)
  rw [checkSystemTime, if_neg (Bool.not_eq_true _ ▸ hincluded)] at hreports
  exact (reports_iff.mp hreports).2

/-- The comparison of the revisions only loses its events. -/
private theorem prunes_checkFwRevisions (dimms : List DiagDiscovery) :
    Prunes request'.excludes (checkFwRevisions request dimms) (checkFwRevisions request' dimms) := by
  refine prunes_unless h (fun _ => pruned_refl _) fun hincluded => ?_
  have hreports : Reports (Covers fwConsistent) (checkFwRevisions request dimms) :=
    reports_checkFwRevisions request (fun _ _ hcode => covers_of_code (hcode ▸ rfl)) dimms
  rw [checkFwRevisions, if_neg (Bool.not_eq_true _ ▸ hincluded)] at hreports
  exact (reports_iff.mp hreports).2

/-- Without a shift, a pass of the loop only loses events, and leaves the same sensors. -/
private theorem prunes_checkFwDimm (hshifts : ¬ PowerShifts request request' queries dimm)
    {state state' : ℤ × SensorThresholds} (hstate : state.2 = state'.2) :
    Prunes request'.excludes (checkFwDimm request queries uid dimm state)
        (checkFwDimm request' queries uid dimm state') ∧
      (checkFwDimm request queries uid dimm state).value.2 =
        (checkFwDimm request' queries uid dimm state').value.2 := by
  unfold checkFwDimm
  rw [hstate]
  cases hlookup : dimm.existsAndManageable with
  | error e => exact ⟨pruned_refl _, rfl⟩
  | ok discovery =>
    have hmedia : EventCode.badTempMediaThreshold.checks = fwMediaTemp := rfl
    have hcore : EventCode.badTempControllerThreshold.checks = fwCoreTemp := rfl
    refine ⟨prunes_bind_left ?_, rfl⟩
    rw [value_ask]
    refine prunes_bind (prunes_checkTemperature h queries uid hmedia _ _) ?_
    refine prunes_bind (prunes_checkTemperature h queries uid hcore _ _) ?_
    refine prunes_bind (prunes_checkSpareBlock h queries uid _) ?_
    refine prunes_bind (prunes_checkFwLogLevel h queries uid dimm) ?_
    refine prunes_bind (prunes_checkSystemTime h queries uid dimm) ?_
    refine prunes_bind (prunes_checkPowerMgmtPolicy h queries uid dimm
      fun hincluded henabled budget hbudget =>
        hshifts ⟨⟨discovery, hlookup⟩, hincluded, henabled, budget, hbudget⟩) ?_
    exact prunes_bind (prunes_checkDieSparingPolicy h queries uid dimm discovery) (pruned_refl _)

/-- Without a shift, the checks of the DIMMs only lose events. -/
private theorem prunes_fwChecks {dimms : List DiagDiscovery}
    (hshifts : ∀ i < dimms.length, ¬ PowerShifts request request' queries (queries.dimm i)) :
    Prunes request'.excludes (fwChecks request queries dimms) (fwChecks request' queries dimms) := by
  refine prunes_bind (prunes_checkFwRevisions h dimms) (prunes_bind ?_ (pruned_refl _))
  refine prunes_foldlM (R := fun state state' => state.2 = state'.2)
    (fun state state' dimm hdimm hstate => ?_) rfl
  refine prunes_checkFwDimm h queries _ _ (hshifts dimm.2 ?_) hstate
  exact (List.mem_zipIdx' hdimm).1

end Checks

/-! ### Checks with a shift -/

section Shifted

variable {request request' : DiagnosticRequest} {queries : FwQueries ρ}

/-- The budgets have different names. -/
private theorem name_injective {budget budget' : Budget} (h : budget.name = budget'.name) :
    budget = budget' := by
  cases budget with
  | average =>
    cases budget' with
    | average => rfl
    | peak => exact absurd h (by decide)
  | peak =>
    cases budget' with
    | average => exact absurd h (by decide)
    | peak => rfl

/-- The event of a budget has its name and its value. -/
private theorem event_inj {uid uid' : Uid} {dimm dimm' : FwDimmQueries} {budget budget' : Budget}
    (h : budget.event queries uid dimm = budget'.event queries uid' dimm') :
    budget.name = budget'.name ∧
      budget.actual dimm.powerMgmtPolicy = budget'.actual dimm'.powerMgmtPolicy := by
  have hargs := congrArg DiagEvent.args h
  unfold Budget.event badSettingEvent fwEvent at hargs
  simp only [List.cons.injEq, EventArg.field.injEq, EventArg.uid.injEq] at hargs
  exact ⟨hargs.2.1.1, UInt16.toNat_inj.mp hargs.2.1.2⟩

/-- The event of a budget that is in its range is not reported by the first request, whichever DIMM it
is about. -/
private theorem reports_ne_budget {dimm : FwDimmQueries} {budget : Budget}
    (hincluded : budget.isExcluded request = false)
    (hinside : budget.isOutside request queries dimm = false) (uid : Uid) (dimm' : FwDimmQueries)
    (uid' : Uid) (budget' : Budget) :
    Reports (· ≠ budget.event queries uid dimm) (budget'.check request queries uid' dimm') := by
  rw [Budget.check_eq]
  unfold reportIf
  split_ifs with hreport
  · refine reports_report fun heq => ?_
    obtain ⟨hname, hactual⟩ := event_inj heq
    obtain rfl : budget' = budget := name_injective hname
    have hsame : budget'.isOutside request queries dimm' =
        budget'.isOutside request queries dimm := by
      unfold Budget.isOutside
      rw [hactual]
    rw [hincluded, hsame, hinside] at hreport
    cases hreport
  · exact Tally.counts_pure _

/-- The event of a budget that is in its range is not reported by the first request. -/
private theorem fwEvents_ne_event {dimm : FwDimmQueries} {budget : Budget}
    (hincluded : budget.isExcluded request = false)
    (hinside : budget.isOutside request queries dimm = false) (uid : Uid) :
    FwEvents request queries (· ≠ budget.event queries uid dimm) where
  plain code _ hcode event _ hevent heq := by
    rw [heq] at hevent
    exact hcode hevent.symm
  power uid' dimm' := by
    rw [checkPowerMgmtPolicy_eq]
    split
    · exact Tally.counts_pure _
    split
    · exact Tally.counts_bind (reports_ne_budget hincluded hinside uid dimm' uid' .average)
        (reports_ne_budget hincluded hinside uid dimm' uid' .peak)
    · refine reports_report fun heq => ?_
      have hargs := congrArg DiagEvent.args heq
      unfold Budget.event badSettingEvent fwEvent at hargs
      simp only [List.cons.injEq] at hargs
      cases hargs.2.2.1

/-- The second request reports the budget. -/
private theorem event_mem_checkFwDimm {dimm : FwDimmQueries} {budget : Budget}
    (hexamined : ∃ discovery, dimm.existsAndManageable = .ok discovery)
    (hpolicy : request.excluded fwPowMgmtPolicy = false)
    (henabled : dimm.powerMgmtPolicy.enabled ≠ 0) (hexcluded : budget.isExcluded request = true)
    (uid : Uid) (state : ℤ × SensorThresholds) :
    .stored (budget.event queries uid dimm) ∈
      (checkFwDimm request queries uid dimm state).log := by
  obtain ⟨discovery, hlookup⟩ := hexamined
  have hcheck : .stored (budget.event queries uid dimm) ∈
      (budget.check request queries uid dimm).log := by
    rw [Budget.check_eq, hexcluded, Bool.true_or]
    exact List.mem_singleton_self _
  have hmem : .stored (budget.event queries uid dimm) ∈
      (checkPowerMgmtPolicy request queries uid dimm).log := by
    rw [checkPowerMgmtPolicy_eq, if_neg (Bool.not_eq_true _ ▸ hpolicy), if_pos henabled,
      Tally.log_bind, List.mem_append]
    cases budget with
    | average => exact Or.inl hcheck
    | peak => exact Or.inr hcheck
  unfold checkFwDimm
  simp only [Tally.log_bind, value_ask, hlookup, List.mem_append]
  exact Or.inr (Or.inr (Or.inr (Or.inr (Or.inr (Or.inr (Or.inl hmem))))))

/-- With a shift, the second request reports a budget that the first does not. -/
private theorem not_prunes_fwChecks {dimms : List DiagDiscovery} {excludes : UInt64} {i : ℕ}
    (hi : i < dimms.length) (hshifts : PowerShifts request request' queries (queries.dimm i)) :
    ¬ Prunes excludes (fwChecks request queries dimms) (fwChecks request' queries dimms) := by
  obtain ⟨hexamined, hpolicy, henabled, budget, hincluded, hexcluded, hinside⟩ := hshifts
  intro hprunes
  have hzip : (dimms[i], i) ∈ dimms.zipIdx := List.mk_mem_zipIdx_iff_getElem?.mpr
    (List.getElem?_eq_getElem hi)
  have hmem : budget.event queries dimms[i].uid (queries.dimm i) ∈
      events (fwChecks request' queries dimms).log := by
    rw [mem_events, fwChecks, Tally.log_bind, Tally.log_bind, List.mem_append, List.mem_append]
    refine Or.inr (Or.inl (Tally.mem_log_foldlM hzip (fun state => ?_) _))
    exact event_mem_checkFwDimm hexamined hpolicy henabled hexcluded dimms[i].uid state
  have hnone := (reports_iff.mp (reports_fwChecks (fwEvents_ne_event hincluded hinside
    dimms[i].uid) dimms)).2
  exact hnone _ (hprunes.subset _ hmem) rfl

end Shifted

/-! ### The diagnostic -/

/-- Two runs of the firmware consistency diagnostic differ by exclusions exactly if excluding a check of
a power budget reports none. -/
theorem onlyRemoves_diagFirmwareCheck_iff {request request' : DiagnosticRequest}
    (h : request.ExcludesMore request') (queries : FwQueries ρ) :
    OnlyRemoves fwSuccessEvent request'.excludes (diagFirmwareCheck request queries)
      (diagFirmwareCheck request' queries) ↔ ¬ FwShifts request request' queries := by
  have hnone : queries.dimms = [] → ¬ FwShifts request request' queries := by
    rintro hdimms ⟨-, i, hi, -⟩
    rw [hdimms] at hi
    exact Nat.not_lt_zero i hi
  unfold diagFirmwareCheck
  cases hsupported : queries.isFeatureSupported .fwConsistency with
  | error e =>
    refine iff_of_true (onlyRemoves_of_events_eq rfl) fun hshifts => ?_
    rw [hshifts.supported] at hsupported
    cases hsupported
  | ok _ =>
    rw [onlyRemoves_ask_ok_iff]
    match hcount : queries.getDeviceCount with
    | .error e =>
      refine iff_of_true (onlyRemoves_of_events_eq rfl) (hnone ?_)
      simp only [DeviceQueries.dimms, hcount]
    | .ok 0 =>
      refine iff_of_true (onlyRemoves_of_events_eq rfl) (hnone ?_)
      simp only [DeviceQueries.dimms, hcount]
    | .ok (n + 1) =>
      dsimp only
      rw [onlyRemoves_ask_ok_iff]
      dsimp only
      cases hfilled : queries.getDevices (n + 1) with
      | error e =>
        refine iff_of_true (onlyRemoves_of_events_eq rfl) (hnone ?_)
        simp only [DeviceQueries.dimms, hcount, hfilled]
      | ok filled =>
        have heq : queries.dimms = filled.entries.take filled.returned := by
          simp only [DeviceQueries.dimms, hcount, hfilled]
        rw [onlyRemoves_ask_ok_iff]
        dsimp only
        split_ifs with hreturned
        · refine iff_of_true (onlyRemoves_of_events_eq rfl) (hnone ?_)
          rw [heq, hreturned, List.take_zero]
        · rw [← heq, onlyRemoves_reportSuccess_iff
            (reports_iff.mp (reports_fwChecks (fwEvents_isFinding request queries) _)).2
            (reports_iff.mp (reports_fwChecks (fwEvents_isFinding request' queries) _)).2]
          constructor
          · rintro hprunes ⟨-, i, hi, hshifts⟩
            exact not_prunes_fwChecks hi hshifts hprunes
          · intro hshifts
            exact prunes_fwChecks h queries fun i hi hpower =>
              hshifts ⟨hsupported, i, hi, hpower⟩

end IxpDimm.Diagnostic
