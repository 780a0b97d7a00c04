import IxpDimm.Diagnostic.FwExclusions
import IxpDimm.Diagnostic.PlatformExclusions
import IxpDimm.Diagnostic.Results
import IxpDimm.Diagnostic.SecurityExclusions

/-!
# Exclusions only remove findings

Two runs on the same state with the same thresholds, of which the second excludes more checks, should
differ only by findings of excluded checks.  `exclusionLaw_iff` gives the three situations in which they
do not: the NFIT check that sets the number of devices whose platform config data are checked, the
chain of checks of the security diagnostic without a manageable DIMM, and the power budgets, for which
an excluded comparison counts as one that holds.
-/

namespace IxpDimm.Diagnostic

open Foundation

variable {ρ : Type}

/-- More exclusions only remove findings. -/
structure ExclusionLaw (queries : SystemQueries ρ) (request request' : DiagnosticRequest) : Prop where
  /-- The platform configuration diagnostic. -/
  platformConfig : OnlyRemoves pconfigSuccessEvent request'.excludes
    (nvmRunDiagnostic queries none request .platformConfig)
    (nvmRunDiagnostic queries none request' .platformConfig)
  /-- The security diagnostic. -/
  security : OnlyRemoves securitySuccessEvent request'.excludes
    (nvmRunDiagnostic queries none request .security)
    (nvmRunDiagnostic queries none request' .security)
  /-- The firmware consistency diagnostic. -/
  fwConsistency : OnlyRemoves fwSuccessEvent request'.excludes
    (nvmRunDiagnostic queries none request .fwConsistency)
    (nvmRunDiagnostic queries none request' .fwConsistency)

/-- Nothing is taken away, and nothing is brought about. -/
structure ExclusionsKeep (queries : SystemQueries ρ) (request request' : DiagnosticRequest) : Prop where
  /-- No finding of the platform config data is taken away. -/
  pcd : ¬ PcdLost request request' queries.toDeviceQueries queries.platformConfig
  /-- No event of the security diagnostic is brought about. -/
  security : ¬ SecurityShifts request request' queries.toDeviceQueries
  /-- No power budget is reported because a check of it is excluded. -/
  power : ¬ FwShifts request request' queries.toFwQueries

/-- In states in which the NFIT check has nothing to report, more exclusions only remove findings
exactly if nothing is taken away and nothing is brought about. -/
theorem exclusionLaw_iff (queries : SystemQueries ρ) {request request' : DiagnosticRequest}
    (h : request.ExcludesMore request') (hsilent : NfitSilent queries.platformConfig.nfit) :
    ExclusionLaw queries request request' ↔ ExclusionsKeep queries request request' := by
  constructor
  · rintro ⟨hplatform, hsecurity, hfw⟩
    exact ⟨(onlyRemoves_diagPlatformConfigCheck_iff h hsilent).mp hplatform,
      (onlyRemoves_diagSecurityCheck_iff h).mp hsecurity,
      (onlyRemoves_diagFirmwareCheck_iff h queries.toFwQueries).mp hfw⟩
  · rintro ⟨hpcd, hsecurity, hpower⟩
    exact ⟨(onlyRemoves_diagPlatformConfigCheck_iff h hsilent).mpr hpcd,
      (onlyRemoves_diagSecurityCheck_iff h).mpr hsecurity,
      (onlyRemoves_diagFirmwareCheck_iff h queries.toFwQueries).mpr hpower⟩

/-! ### A power budget in its range -/

/-- A system with one DIMM, whose power management policy is enabled and whose power budgets are in
their ranges. -/
def budgetQueries : SystemQueries Unit :=
  { uncountedQueries with
    getDeviceCount := .ok 1
    getDevices := fun _ => .ok ⟨1, [{}]⟩
    dimm := fun _ =>
      { existsAndManageable := .ok {}
        getSensors := id
        getFwLogLevel := .ok 0
        now := 0
        getFwSystemTime := .ok 0
        powerMgmtPolicy := ⟨1, 0, 0⟩
        dieSparePolicy := ⟨0, 0⟩ }
    platformConfig :=
      { uncountedQueries.platformConfig with
        nfit :=
          { getTopologyCount := .ok 1
            getTopology := fun _ => .ok ⟨1, [⟨0, Vector.replicate 4 0⟩]⟩
            getSmbiosInventoryCount := .ok 0
            getSmbiosInventory := fun _ => .error failedQuery } } }

/-- The NFIT check of that system has nothing to report. -/
private theorem nfitSilent_budgetQueries : NfitSilent budgetQueries.platformConfig.nfit :=
  ⟨0, _, rfl, rfl, Nat.one_ne_zero, rfl, List.nodup_singleton _⟩

/-- Excluding the check of the lower limit excludes more than nothing. -/
private theorem excludesMore_budgetMin :
    DiagnosticRequest.ExcludesMore {} { excludes := fwAvgPowBudgetMin } := ⟨by decide, rfl⟩

/-- The law of exclusions for that system. -/
theorem exclusionLaw_iff_budgetQueries :
    DiagnosticRequest.ExcludesMore {} { excludes := fwAvgPowBudgetMin } ∧
      NfitSilent budgetQueries.platformConfig.nfit ∧
        (ExclusionLaw budgetQueries {} { excludes := fwAvgPowBudgetMin } ↔
          ExclusionsKeep budgetQueries {} { excludes := fwAvgPowBudgetMin }) :=
  ⟨excludesMore_budgetMin, nfitSilent_budgetQueries,
    exclusionLaw_iff budgetQueries excludesMore_budgetMin nfitSilent_budgetQueries⟩

/-- Excluding the check of the lower limit of the average power budget reports that budget. -/
theorem not_exclusionLaw_budgetQueries :
    DiagnosticRequest.ExcludesMore {} { excludes := fwAvgPowBudgetMin } ∧
      NfitSilent budgetQueries.platformConfig.nfit ∧
        ¬ ExclusionLaw budgetQueries {} { excludes := fwAvgPowBudgetMin } := by
  refine ⟨excludesMore_budgetMin, nfitSilent_budgetQueries, fun hlaw => ?_⟩
  refine (onlyRemoves_diagFirmwareCheck_iff excludesMore_budgetMin budgetQueries.toFwQueries).mp
    hlaw.fwConsistency ?_
  refine ⟨rfl, 0, ?_, ⟨{}, rfl⟩, by decide, by decide, .average, by decide, by decide, by decide⟩
  exact Nat.zero_lt_one

end IxpDimm.Diagnostic
