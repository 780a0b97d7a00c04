import IxpDimm.Diagnostic.Exclusions
import IxpDimm.Diagnostic.Security

/-!
# Excluded checks of the security diagnostic

The three checks of the security diagnostic form a chain: the next one is made if the one before does
not report.  When some manageable DIMM is found, at most one of them can report, and an excluded check
only takes its own event away.  Without a manageable DIMM the first two both hold, and excluding the
first brings the event of the second about.
-/

namespace IxpDimm.Diagnostic

open Foundation

/-- Excluding the first check brings the event of the second about: no manageable DIMM is among those
that are found, and the first check is excluded only by the second request, which does not exclude the
second check. -/
structure SecurityShifts (request request' : DiagnosticRequest) (queries : DeviceQueries) : Prop where
  /-- The diagnostic is supported. -/
  supported : queries.isFeatureSupported .security = .ok ()
  /-- DIMMs are found, and none of them is manageable. -/
  found : ∃ n filled, queries.getDeviceCount = .ok (n + 1) ∧ queries.getDevices (n + 1) = .ok filled ∧
    filled.returned ≠ 0 ∧ manageableCount (filled.entries.take filled.returned) = 0
  /-- The first request includes the first check. -/
  included : request.excluded securityAllNotsupported = false
  /-- The second request excludes it. -/
  excluded : request'.excluded securityAllNotsupported = true
  /-- The second request includes the second check. -/
  next : request'.excluded securityAllDisabled = false

section LockStates

variable {dimms : List DiagDiscovery}

/-- The numbers of DIMMs in two different states add up to at most the number of DIMMs. -/
private theorem stateCount_add_le {state state' : LockState} (h : state ≠ state') :
    stateCount dimms state + stateCount dimms state' ≤ manageableCount dimms := by
  unfold stateCount manageableCount
  induction dimms with
  | nil => exact Nat.le_refl 0
  | cons dimm dimms ih =>
    rw [List.countP_cons, List.countP_cons, List.countP_cons]
    cases dimm.manageable with
    | false =>
      simp only [Bool.false_and, Bool.false_eq_true, if_false, Nat.add_zero]
      exact ih
    | true =>
      simp only [Bool.true_and, beq_iff_eq, if_true]
      split_ifs with hfirst hsecond
      · exact absurd (hfirst.symm.trans hsecond) h
      · omega
      · omega
      · omega

/-- If all manageable DIMMs are in one state, the states do not differ. -/
private theorem inconsistentStates_eq_nil {state : LockState}
    (h : stateCount dimms state = manageableCount dimms) : inconsistentStates dimms = [] := by
  refine List.filter_eq_nil_iff.mpr fun counted hcounted => ?_
  obtain ⟨other, -, rfl⟩ := List.mem_map.mp hcounted
  rw [Bool.and_eq_true, decide_eq_true_eq, bne_iff_ne]
  rintro ⟨hpos, hne⟩
  by_cases hsame : other = state
  · rw [hsame] at hne
    exact hne h
  · have hadd : stateCount dimms other + stateCount dimms state ≤ manageableCount dimms :=
      stateCount_add_le hsame
    have hzero : stateCount dimms other = 0 := by omega
    rw [hzero] at hpos
    cases hpos

/-- The events of the checks. -/
private theorem events_checkLockStates (request : DiagnosticRequest) (dimms : List DiagDiscovery) :
    events (checkLockStates request dimms).log =
      if stateCount dimms .notSupported = manageableCount dimms ∧
          request.excluded securityAllNotsupported = false then [allNotSupportedEvent]
      else if stateCount dimms .disabled = manageableCount dimms ∧
          request.excluded securityAllDisabled = false then [allDisabledEvent]
      else if request.excluded securityConsistent = false ∧ inconsistentStates dimms ≠ [] then
        [inconsistentStateEvent dimms]
      else [] := by
  unfold checkLockStates checkUniformState checkConsistentState
  split_ifs <;> rfl

variable {request request' : DiagnosticRequest}

/-- An event is left out if its check is excluded. -/
private theorem pruned_ite (h : request.ExcludesMore request') {mask : UInt64} {event : DiagEvent}
    (hcovers : Covers mask event) :
    Pruned (Unexcluded request'.excludes) (if request.excluded mask = false then [event] else [])
      (if request'.excluded mask = false then [event] else []) := by
  cases hexcluded' : request'.excluded mask with
  | false =>
    rw [h.included hexcluded']
    exact pruned_refl _
  | true =>
    simp only [Bool.true_eq_false, if_false]
    refine pruned_nil fun other hother => ?_
    split_ifs at hother
    · rw [List.mem_singleton.mp hother]
      exact hcovers.not_unexcluded hexcluded'
    · cases hother

/-- With a manageable DIMM, excluding more checks only removes events: at most one of the three checks
can report. -/
private theorem prunes_checkLockStates_of_pos (h : request.ExcludesMore request')
    (hpos : manageableCount dimms ≠ 0) :
    Prunes request'.excludes (checkLockStates request dimms) (checkLockStates request' dimms) := by
  rw [Prunes, events_checkLockStates, events_checkLockStates]
  have hadd : stateCount dimms .notSupported + stateCount dimms .disabled ≤ manageableCount dimms :=
    stateCount_add_le (by decide)
  by_cases hnotSupported : stateCount dimms .notSupported = manageableCount dimms
  · have hdisabled : stateCount dimms .disabled ≠ manageableCount dimms := by omega
    simp only [hnotSupported, hdisabled, inconsistentStates_eq_nil hnotSupported, true_and, false_and,
      ne_eq, not_true_eq_false, and_false, if_false]
    exact pruned_ite h (covers_of_code rfl)
  by_cases hdisabled : stateCount dimms .disabled = manageableCount dimms
  · simp only [hnotSupported, hdisabled, inconsistentStates_eq_nil hdisabled, true_and, false_and,
      ne_eq, not_true_eq_false, and_false, if_false]
    exact pruned_ite h (covers_of_code rfl)
  by_cases hconsistent : inconsistentStates dimms = []
  · simp only [hnotSupported, hdisabled, hconsistent, false_and, ne_eq, not_true_eq_false, and_false,
      if_false]
    exact pruned_refl _
  · simp only [hnotSupported, hdisabled, hconsistent, false_and, ne_eq, not_false_eq_true, and_true,
      if_false]
    exact pruned_ite h (covers_of_code rfl)

/-- Without a manageable DIMM, the first two checks both hold. -/
private theorem events_checkLockStates_of_zero (request : DiagnosticRequest)
    (hzero : manageableCount dimms = 0) :
    events (checkLockStates request dimms).log =
      if request.excluded securityAllNotsupported = false then [allNotSupportedEvent]
      else if request.excluded securityAllDisabled = false then [allDisabledEvent]
      else [] := by
  have hstate : ∀ state, stateCount dimms state = 0 := by
    intro state
    refine Nat.le_zero.mp (hzero ▸ ?_)
    exact List.countP_mono_left fun dimm _ hdimm => (Bool.and_eq_true_iff.mp hdimm).1
  have hconsistent : inconsistentStates dimms = [] :=
    inconsistentStates_eq_nil ((hstate .unknown).trans hzero.symm)
  rw [events_checkLockStates]
  simp only [hstate, hzero, hconsistent, true_and, ne_eq, not_true_eq_false, and_false, if_false]

/-- Without a manageable DIMM, excluding more checks only removes events unless it brings the event of
the second check about. -/
private theorem prunes_checkLockStates_of_zero (h : request.ExcludesMore request')
    (hzero : manageableCount dimms = 0) :
    Prunes request'.excludes (checkLockStates request dimms) (checkLockStates request' dimms) ↔
      ¬ (request.excluded securityAllNotsupported = false ∧
        request'.excluded securityAllNotsupported = true ∧
          request'.excluded securityAllDisabled = false) := by
  rw [Prunes, events_checkLockStates_of_zero _ hzero, events_checkLockStates_of_zero _ hzero]
  cases hexcluded' : request'.excluded securityAllNotsupported with
  | false =>
    rw [h.included hexcluded', if_pos rfl]
    exact iff_of_true (pruned_refl _) fun hboth => Bool.noConfusion hboth.2.1
  | true =>
    simp only [Bool.true_eq_false, if_false]
    cases hexcluded : request.excluded securityAllNotsupported with
    | true =>
      simp only [Bool.true_eq_false, if_false]
      exact iff_of_true (pruned_ite h (covers_of_code rfl)) fun hboth => hboth.1
    | false =>
      rw [if_pos rfl]
      cases hnext : request'.excluded securityAllDisabled with
      | false =>
        refine iff_of_false (fun hprunes => ?_) fun hnot => hnot ⟨rfl, trivial, rfl⟩
        have hmem := hprunes.subset allDisabledEvent (List.mem_singleton_self _)
        exact absurd (List.mem_singleton.mp hmem) (by decide)
      | true =>
        refine iff_of_true (pruned_nil fun event hevent => ?_) fun hboth =>
          Bool.noConfusion hboth.2.2
        rw [List.mem_singleton.mp hevent]
        exact (covers_of_code rfl).not_unexcluded hexcluded'

end LockStates

/-! ### The diagnostic -/

section Runs

variable {request request' : DiagnosticRequest} {queries : DeviceQueries}

/-- Nothing is brought about if no DIMM is found. -/
private theorem not_securityShifts (h : ∀ n filled, queries.getDeviceCount = .ok (n + 1) →
    queries.getDevices (n + 1) = .ok filled → filled.returned = 0) :
    ¬ SecurityShifts request request' queries := by
  rintro ⟨-, ⟨n, filled, hcount, hfilled, hreturned, -⟩, -⟩
  exact hreturned (h n filled hcount hfilled)

/-- The checks differ by exclusions exactly if no event is brought about. -/
private theorem prunes_securityChecks_iff (h : request.ExcludesMore request')
    (hsupported : queries.isFeatureSupported .security = .ok ()) :
    Prunes request'.excludes (securityChecks request queries) (securityChecks request' queries) ↔
      ¬ SecurityShifts request request' queries := by
  unfold securityChecks
  match hcount : queries.getDeviceCount with
  | .error e =>
    refine iff_of_true (pruned_refl _) (not_securityShifts fun n filled hfound _ => ?_)
    rw [hcount] at hfound
    cases hfound
  | .ok 0 =>
    refine iff_of_true (pruned_refl _) (not_securityShifts fun n filled hfound _ => ?_)
    rw [hcount] at hfound
    cases hfound
  | .ok (n + 1) =>
    cases hfilled : queries.getDevices (n + 1) with
    | error e =>
      simp only [Prunes, Tally.log_bind, value_ask, hfilled]
      refine iff_of_true (pruned_refl _) (not_securityShifts fun m filled hfound hget => ?_)
      obtain rfl : n = m := Nat.succ.inj (Except.ok.inj (hcount.symm.trans hfound))
      rw [hfilled] at hget
      cases hget
    | ok filled =>
      simp only [Prunes, Tally.log_bind, value_ask, hfilled]
      split_ifs with hreturned
      · refine iff_of_true (pruned_refl _) (not_securityShifts fun m filled' hfound hget => ?_)
        obtain rfl : n = m := Nat.succ.inj (Except.ok.inj (hcount.symm.trans hfound))
        obtain rfl : filled = filled' := Except.ok.inj (hfilled.symm.trans hget)
        exact hreturned
      · simp only [events_append, log_ask, events_asked, List.nil_append, Tally.log_bind,
          Tally.log_pure, List.append_nil]
        by_cases hzero : manageableCount (filled.entries.take filled.returned) = 0
        · refine (prunes_checkLockStates_of_zero h hzero).trans (not_congr ⟨?_, ?_⟩)
          · exact fun hshifts => ⟨hsupported, ⟨n, filled, hcount, hfilled, hreturned, hzero⟩,
              hshifts.1, hshifts.2.1, hshifts.2.2⟩
          · exact fun hshifts => ⟨hshifts.included, hshifts.excluded, hshifts.next⟩
        · refine iff_of_true (prunes_checkLockStates_of_pos h hzero) ?_
          rintro ⟨-, ⟨m, filled', hfound, hget, -, hnone⟩, -⟩
          obtain rfl : n = m := Nat.succ.inj (Except.ok.inj (hcount.symm.trans hfound))
          obtain rfl : filled = filled' := Except.ok.inj (hfilled.symm.trans hget)
          exact hzero hnone

/-- Two runs of the security diagnostic differ by exclusions exactly if no event is brought about. -/
theorem onlyRemoves_diagSecurityCheck_iff (h : request.ExcludesMore request') :
    OnlyRemoves securitySuccessEvent request'.excludes (diagSecurityCheck request queries)
      (diagSecurityCheck request' queries) ↔ ¬ SecurityShifts request request' queries := by
  unfold diagSecurityCheck
  cases hsupported : queries.isFeatureSupported .security with
  | error e =>
    refine iff_of_true (onlyRemoves_of_events_eq rfl) fun hshifts => ?_
    rw [hshifts.supported] at hsupported
    cases hsupported
  | ok _ =>
    rw [onlyRemoves_ask_ok_iff, ← prunes_securityChecks_iff h hsupported]
    exact onlyRemoves_reportSuccess_iff
      (reports_iff.mp (reports_securityChecks request queries)).2
      (reports_iff.mp (reports_securityChecks request' queries)).2

end Runs

end IxpDimm.Diagnostic
