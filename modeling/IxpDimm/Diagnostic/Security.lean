import IxpDimm.Diagnostic.Accounting

/-!
# The security diagnostic

`diag_security_check` counts the manageable DIMMs by their lock states.  It reports that security is
not supported, or disabled, on all of them, and otherwise that they are not all in the same state.
-/

namespace IxpDimm.Diagnostic

open Foundation

/-! ### The diagnostic -/

/-- An event of the security diagnostic. -/
def securityEvent (severity : EventSeverity) (code : EventCode) (result : DiagnosticResult)
    (args : List EventArg) : DiagEvent where
  type := .security
  severity := severity
  code := code
  args := args
  result := result

/-- The event of success. -/
def securitySuccessEvent : DiagEvent := securityEvent .info .securitySuccess .ok []

/-- The event that security is supported by no DIMM. -/
def allNotSupportedEvent : DiagEvent := securityEvent .info .securityAllNotSupported .ok []

/-- The event that security is disabled on all DIMMs. -/
def allDisabledEvent : DiagEvent := securityEvent .info .securityAllDisabled .ok []

/-- The number of manageable DIMMs. -/
def manageableCount (dimms : List DiagDiscovery) : ℕ := dimms.countP (·.manageable)

/-- The number of manageable DIMMs in a lock state. -/
def stateCount (dimms : List DiagDiscovery) (state : LockState) : ℕ :=
  dimms.countP fun dimm => dimm.manageable && dimm.lockState == state

/-- Whether all manageable DIMMs have the same state, one of two. -/
def checkUniformState (request : DiagnosticRequest) (dimms : List DiagDiscovery) : Diag Unit :=
  if stateCount dimms .notSupported = manageableCount dimms ∧
      request.excluded securityAllNotsupported = false then
    report allNotSupportedEvent
  else if stateCount dimms .disabled = manageableCount dimms ∧
      request.excluded securityAllDisabled = false then
    report allDisabledEvent
  else pure ()

/-- The lock states that the loop goes through. -/
def comparedStates : List LockState :=
  [.unknown, .disabled, .unlocked, .locked, .frozen, .passphraseLimit]

/-- The lock states that some manageable DIMMs are in, but not all, with their numbers. -/
def inconsistentStates (dimms : List DiagDiscovery) : List (ℕ × LockState) :=
  (comparedStates.map fun state => (stateCount dimms state, state)).filter fun counted =>
    0 < counted.1 && counted.1 != manageableCount dimms

/-- The event that the states differ. -/
def inconsistentStateEvent (dimms : List DiagDiscovery) : DiagEvent :=
  securityEvent .warn .securityInconsistent .warning [.states (inconsistentStates dimms)]

/-- Whether all manageable DIMMs have the same state. -/
def checkConsistentState (request : DiagnosticRequest) (dimms : List DiagDiscovery) : Diag Unit :=
  if request.excluded securityConsistent = false ∧ inconsistentStates dimms ≠ [] then
    report (inconsistentStateEvent dimms)
  else pure ()

/-- The checks of the devices that are found. -/
def checkLockStates (request : DiagnosticRequest) (dimms : List DiagDiscovery) : Diag Unit := do
  let uniform ← (checkUniformState request dimms).listen
  if uniform.2 = 0 then checkConsistentState request dimms else pure ()

/-- The part of `diag_security_check` up to the report of success. -/
def securityChecks (request : DiagnosticRequest) (queries : DeviceQueries) : Diag ℤ := do
  match ← ask queries.getDeviceCount with
  | .error e => pure e.val
  | .ok 0 => do
    report (securityEvent .info .securityNoDimms .aborted [])
    pure nvmSuccess
  | .ok (n + 1) => do
    match ← ask (queries.getDevices (n + 1)) with
    | .error e => pure e.val
    | .ok filled =>
      if filled.returned = 0 then pure nvmSuccess
      else do
        checkLockStates request (filled.entries.take filled.returned)
        pure nvmSuccess

/-- `diag_security_check`. -/
def diagSecurityCheck (request : DiagnosticRequest) (queries : DeviceQueries) : Diag ℤ := do
  match ← ask (queries.isFeatureSupported .security) with
  | .error e => pure e.val
  | .ok () => do
    let result ← (securityChecks request queries).listen
    reportSuccess result.1 result.2 securitySuccessEvent

/-! ### Its events -/

section Accounted

variable (request : DiagnosticRequest) (queries : DeviceQueries) (dimms : List DiagDiscovery)

/-- A security event with a code other than success is a finding. -/
private theorem isFinding_securityEvent {severity : EventSeverity} {code : EventCode}
    {result : DiagnosticResult} {args : List EventArg} (h : code ≠ .securitySuccess) :
    IsFinding securitySuccessEvent (securityEvent severity code result args) := ⟨rfl, h⟩

/-- The comparison with the two states counts its events. -/
private theorem reports_checkUniformState :
    Reports (IsFinding securitySuccessEvent) (checkUniformState request dimms) := by
  unfold checkUniformState
  split_ifs
  · exact reports_report (isFinding_securityEvent (by decide))
  · exact reports_report (isFinding_securityEvent (by decide))
  · exact Tally.counts_pure _

/-- The comparison of the states counts its events. -/
private theorem reports_checkConsistentState :
    Reports (IsFinding securitySuccessEvent) (checkConsistentState request dimms) := by
  unfold checkConsistentState
  split_ifs
  · exact reports_report (isFinding_securityEvent (by decide))
  · exact Tally.counts_pure _

/-- The checks of the devices count their events. -/
private theorem reports_checkLockStates :
    Reports (IsFinding securitySuccessEvent) (checkLockStates request dimms) := by
  refine Tally.counts_bind (Tally.counts_listen (reports_checkUniformState request dimms)) ?_
  split_ifs
  · exact reports_checkConsistentState request dimms
  · exact Tally.counts_pure _

/-- The security diagnostic counts the events that it stores, except success. -/
theorem reports_securityChecks :
    Reports (IsFinding securitySuccessEvent) (securityChecks request queries) := by
  refine Tally.counts_bind (reports_ask _) ?_
  rw [value_ask]
  match queries.getDeviceCount with
  | .error e => exact Tally.counts_pure _
  | .ok 0 =>
    exact Tally.counts_bind (reports_report (isFinding_securityEvent (by decide)))
      (Tally.counts_pure _)
  | .ok (n + 1) =>
    refine Tally.counts_bind (reports_ask _) ?_
    rw [value_ask]
    cases queries.getDevices (n + 1) with
    | error e => exact Tally.counts_pure _
    | ok filled =>
      dsimp only
      split_ifs
      · exact Tally.counts_pure _
      · exact Tally.counts_bind (reports_checkLockStates request _) (Tally.counts_pure _)

/-- Without a failed query, the checks return success. -/
private theorem settled_securityChecks : Settled (securityChecks request queries) := by
  refine settles_ask fun count hcount => ?_
  rw [hcount]
  match count with
  | 0 => exact settles_report _ _
  | n + 1 =>
    refine settles_ask fun filled hfilled => ?_
    rw [hfilled]
    dsimp only
    split_ifs
    · exact settled_pure
    · exact settles_bind fun _ _ => settled_pure

/-- The security diagnostic accounts for its events. -/
theorem accounts_diagSecurityCheck (hasDimm : Prop) :
    Accounts securitySuccessEvent hasDimm (diagSecurityCheck request queries) := by
  refine accounts_ask (fun e he => ?_) fun _ he => ?_
  · rw [he]
  · rw [he]
    exact accounts_reportSuccess (reports_securityChecks request queries)
      fun _ => settled_securityChecks request queries

end Accounted

end IxpDimm.Diagnostic
