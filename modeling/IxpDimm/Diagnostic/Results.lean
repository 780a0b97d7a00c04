import IxpDimm.Diagnostic.FwConsistency
import IxpDimm.Diagnostic.PlatformConfig
import IxpDimm.Diagnostic.Quick
import IxpDimm.Diagnostic.Security

/-!
# The results of a diagnostic

A run of one of the four diagnostics leaves events, the number of results and a return code.
`AccountingLaw` says that these agree.  The code keeps the law except in two situations:

* the platform configuration diagnostic stores the event that the namespaces cannot be listed without
  counting it, where the event that the pools cannot be listed is counted;
* the firmware consistency diagnostic assigns its return code anew for each DIMM, so that the code of
  the last one hides the failure of another.

`accountingLaw_iff` says that there are no others.
-/

namespace IxpDimm.Diagnostic

open Foundation

variable {ρ : Type}

/-- What the four diagnostics are answered. -/
structure SystemQueries (ρ : Type) extends FwQueries ρ where
  /-- The answers to the quick diagnostic, about its DIMM. -/
  quick : QuickQueries
  /-- The answers to the platform configuration diagnostic. -/
  platformConfig : PlatformConfigQueries

/-- `nvm_run_diagnostic` with a valid request; the unique id is that of the quick diagnostic. -/
def nvmRunDiagnostic (queries : SystemQueries ρ) (uid : Option Uid) (request : DiagnosticRequest) :
    DiagnosticTest → Diag ℤ
  | .quick => diagQuickHealthCheck request queries.toDeviceQueries queries.quick uid
  | .platformConfig =>
    diagPlatformConfigCheck request queries.toDeviceQueries queries.platformConfig
  | .security => diagSecurityCheck request queries.toDeviceQueries
  | .fwConsistency => diagFirmwareCheck request queries.toFwQueries

/-- The event of success of a diagnostic. -/
def successEvent (uid : Option Uid) : DiagnosticTest → DiagEvent
  | .quick => quickSuccessEvent (uid.getD [])
  | .platformConfig => pconfigSuccessEvent
  | .security => securitySuccessEvent
  | .fwConsistency => fwSuccessEvent

/-- There is a DIMM: one to be looked at, or one that is found. -/
def HasDimm (queries : SystemQueries ρ) (uid : Option Uid) : DiagnosticTest → Prop
  | .quick => uid ≠ none
  | _ => queries.dimms ≠ []

/-- The queries of the firmware consistency diagnostic on which the return code depends are answered,
for every DIMM. -/
def AllAnswered (queries : SystemQueries ρ) (request : DiagnosticRequest) : Prop :=
  ∀ i < queries.dimms.length, (queries.dimm i).Answered request

/-- The events, the results and the return codes agree. -/
structure AccountingLaw (queries : SystemQueries ρ) (uid : Option Uid) (request : DiagnosticRequest) :
    Prop where
  /-- Every diagnostic accounts for its events. -/
  accounts : ∀ test, Accounts (successEvent uid test) (HasDimm queries uid test)
    (nvmRunDiagnostic queries uid request test)
  /-- Success of the firmware consistency diagnostic means that every DIMM has been looked at. -/
  answered : (nvmRunDiagnostic queries uid request .fwConsistency).value = nvmSuccess →
    AllAnswered queries request

/-- No event is lost and no failure is hidden. -/
structure AccountsFor (queries : SystemQueries ρ) (request : DiagnosticRequest) : Prop where
  /-- The platform configuration diagnostic loses no event. -/
  counted : ¬ LosesResult request queries.toDeviceQueries queries.platformConfig
  /-- If the queries about the last DIMM are answered, those about the others are too. -/
  last : queries.isFeatureSupported .fwConsistency = .ok () →
    (queries.dimm (queries.dimms.length - 1)).Answered request → AllAnswered queries request

/-- Success of the firmware consistency diagnostic means that every DIMM has been looked at exactly if
the last DIMM does not hide another. -/
private theorem answered_iff (queries : SystemQueries ρ) (request : DiagnosticRequest) :
    ((diagFirmwareCheck request queries.toFwQueries).value = nvmSuccess →
      AllAnswered queries request) ↔
        (queries.isFeatureSupported .fwConsistency = .ok () →
          (queries.dimm (queries.dimms.length - 1)).Answered request →
            AllAnswered queries request) := by
  by_cases hdimms : queries.dimms = []
  · have hall : AllAnswered queries request := by
      intro i hi
      rw [hdimms] at hi
      exact absurd hi (Nat.not_lt_zero i)
    exact iff_of_true (fun _ => hall) fun _ _ => hall
  cases hsupported : queries.isFeatureSupported .fwConsistency with
  | error e =>
    refine iff_of_true (fun hvalue => absurd hvalue ?_) fun h => by cases h
    rw [diagFirmwareCheck, Tally.value_bind, value_ask, hsupported]
    exact e.property.ne
  | ok _ =>
    rw [value_diagFirmwareCheck hsupported hdimms]
    exact ⟨fun h _ => h, fun h => h rfl⟩

/-- The law of the results holds exactly if no event is lost and no failure is hidden. -/
theorem accountingLaw_iff (queries : SystemQueries ρ) (uid : Option Uid)
    (request : DiagnosticRequest) :
    AccountingLaw queries uid request ↔ AccountsFor queries request := by
  constructor
  · rintro ⟨haccounts, hanswered⟩
    exact ⟨(accounts_diagPlatformConfigCheck_iff _).mp (haccounts .platformConfig),
      (answered_iff queries request).mp hanswered⟩
  · rintro ⟨hcounted, hlast⟩
    refine ⟨fun test => ?_, (answered_iff queries request).mpr hlast⟩
    cases test with
    | quick =>
      cases uid with
      | none => exact accounts_of_reports (Tally.counts_pure _) fun h => absurd rfl h
      | some uid => exact accounts_diagQuickHealthCheck request queries.quick uid _ _
    | platformConfig => exact (accounts_diagPlatformConfigCheck_iff _).mpr hcounted
    | security => exact accounts_diagSecurityCheck request queries.toDeviceQueries _
    | fwConsistency => exact accounts_diagFirmwareCheck request queries.toFwQueries

/-! ### A lost event -/

/-- The error of a query that fails. -/
def failedQuery : ErrorCode := ⟨-1, by decide⟩

/-- A system with a pool whose namespaces cannot be counted; every other query that returns a code
fails too. -/
def uncountedQueries : SystemQueries Unit where
  isFeatureSupported _ := .ok ()
  getDeviceCount := .error failedQuery
  getDevices _ := .error failedQuery
  reals :=
    { ofThreshold := fun _ => ()
      decodeTemperature := fun _ => ()
      holds := fun _ _ _ => true
      print := fun _ => [] }
  settings :=
    { mediaTemperature := ()
      controllerTemperature := ()
      spareBlock := 0
      fwLogLevel := 0
      timeDrift := 0
      peakPowBudgetMin := 0
      peakPowBudgetMax := 0
      avgPowBudgetMin := 0
      avgPowBudgetMax := 0
      dieSparingAggressiveness := 0 }
  sensors := ⟨0, 0, 0⟩
  dimm _ :=
    { existsAndManageable := .error failedQuery
      getSensors := id
      getFwLogLevel := .error failedQuery
      now := 0
      getFwSystemTime := .error failedQuery
      powerMgmtPolicy := ⟨0, 0, 0⟩
      dieSparePolicy := ⟨0, 0⟩ }
  quick :=
    { isSupportedDriverAvailable := true
      lookupDevUid := .error failedQuery
      getBsr := .error failedQuery
      getDeviceDiscovery := .error failedQuery
      getSmartHealth := .error failedQuery
      getAlarmThresholds := .error failedQuery
      getConfigDataPolicy := .error failedQuery
      getFwImageInfo := .error failedQuery
      fwApiVersion := []
      getDdrtIoInit := .error failedQuery
      getBsrAgain := .error failedQuery
      atLeast15 := fun _ => false
      atLeast16 := fun _ => false
      maxHealthStatus := 0
      percentUsedThreshold := 0 }
  platformConfig :=
    { nfit :=
        { getTopologyCount := .error failedQuery
          getTopology := fun _ => .error failedQuery
          getSmbiosInventoryCount := .error failedQuery
          getSmbiosInventory := fun _ => .error failedQuery }
      getNvmCapabilities := .error failedQuery
      pcd :=
        { platform := ⟨.ok [], .error .errBadDevice⟩
          getDimmPlatformConfig := fun _ => .error failedQuery
          getNvmCapabilities := .error failedQuery }
      bestPractices :=
        { getSocketCount := .error failedQuery
          getSockets := fun _ => .error failedQuery
          getPoolCount := .ok 1
          allocPools := .ok ()
          getPools := fun _ => .ok ⟨1, [{ type := .persistent, socketId := 0, poolUid := [] }]⟩
          getNamespaceCount := .error failedQuery
          getNamespaces := fun _ => .error failedQuery
          getNamespaceDetails := fun _ => .error failedQuery
          uninitializedDetails := [] } }

/-- With the NFIT check excluded, the platform configuration diagnostic of that system loses an event. -/
theorem not_accountingLaw_uncounted :
    ¬ AccountingLaw uncountedQueries none { excludes := pconfigNfit } := by
  intro hlaw
  refine (accounts_diagPlatformConfigCheck_iff _).mp (hlaw.accounts .platformConfig) ?_
  constructor
  · rfl
  · intro hincluded
    exact absurd hincluded (by decide)
  · decide
  · exact ⟨0, _, rfl, rfl, rfl, Nat.one_ne_zero⟩
  · exact Or.inl ⟨failedQuery, rfl⟩

end IxpDimm.Diagnostic
