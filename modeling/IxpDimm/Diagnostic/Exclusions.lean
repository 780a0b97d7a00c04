import IxpDimm.Diagnostic.Accounting
import IxpDimm.Foundation.Pruned

/-!
# Excluded checks

A request can exclude checks, and a check can be made inside another one.  Every finding comes from its
own check and the checks that enclose it, which `DiagEvent.checks` lists.  Two runs of a diagnostic on
the same state whose requests differ by more exclusions should differ only by findings that come from
an excluded check: `OnlyRemoves`.
-/

namespace IxpDimm.Diagnostic

open Foundation

/-! ### The checks of a finding -/

/-- The checks from which an event with a code comes: its own and those that enclose it. -/
def EventCode.checks : EventCode → UInt64
  | .securityInconsistent => securityConsistent
  | .securityAllDisabled => Diagnostic.securityAllDisabled
  | .securityAllNotSupported => securityAllNotsupported
  | .fwInconsistent => fwConsistent
  | .badTempMediaThreshold => fwMediaTemp
  | .badTempControllerThreshold => fwCoreTemp
  | .badSpareBlock => fwSpare
  | .badFwLogLevel => fwDebuglog
  | .systemTimeDrift => fwTime
  | .badPowerMgmtPolicy => fwPowMgmtPolicy
  | .badDieSparingPolicy => fwDieSparingPolicy
  | .invalidNfit | .pconfigNoDimms | .duplicateSerialNumbers | .dimmInitFailed => pconfigNfit
  | .invalidPcat | .noBiosConfigSupport => pconfigPcat
  | .invalidPcd | .rebootNeededToApplyGoal | .dimmSkuViolation | .dimmGoalSkuViolation => pconfigPcd
  | .unconfigured => pconfigPcd ||| pconfigCurrentPcd ||| pconfigUnconfigured
  | .invalidCurrentPcd | .brokenIset => pconfigPcd ||| pconfigCurrentPcd ||| pconfigBrokenIset
  | .poolNeedsAppDirectNamespaces | .dimmConfigUnbalanced | .dimmsDifferentSizes
  | .dimmSecuritySkusMixed | .dimmModeSkusMixed | .dimmDieSparingSkusMixed | .poolsFailed
  | .namespacesFailed => pconfigBestPractices
  | _ => 0

/-- The checks of a field of a policy. -/
def fieldChecks (name : String) : UInt64 :=
  if name = "average power budget" then fwAvgPowBudgetMin ||| fwAvgPowBudgetMax
  else if name = "peak power budget" then fwPeakPowBudgetMin ||| fwPeakPowBudgetMax
  else if name = "die sparing aggressiveness" then fwDieSparingLevel
  else 0

/-- The checks of the field that an event is about, which the firmware consistency diagnostic has. -/
def DiagEvent.argChecks (event : DiagEvent) : UInt64 :=
  match event.type, event.args with
  | .fwConsistency, [_, .field name _, _] => fieldChecks name
  | _, _ => 0

/-- The checks from which an event comes: its own and those that enclose it. -/
def DiagEvent.checks (event : DiagEvent) : UInt64 := event.code.checks ||| event.argChecks

/-- An event comes from some checks, among others. -/
def Covers (mask : UInt64) (event : DiagEvent) : Prop := event.checks &&& mask = mask

/-- None of the checks of an event is excluded. -/
def Unexcluded (excludes : UInt64) (event : DiagEvent) : Prop := event.checks &&& excludes = 0

/-! ### Requests -/

/-- A request excludes more than another one. -/
structure DiagnosticRequest.ExcludesMore (request request' : DiagnosticRequest) : Prop where
  /-- The excluded checks are excluded too. -/
  excludes : request.excludes &&& request'.excludes = request.excludes
  /-- The thresholds are the same. -/
  overrides : request'.overrides = request.overrides

section Requests

variable {request request' : DiagnosticRequest} {mask : UInt64}

/-- A check is not excluded if its bits are not. -/
theorem excluded_eq_false_iff : request.excluded mask = false ↔ request.excludes &&& mask = 0 := by
  unfold DiagnosticRequest.excluded
  rw [bne_eq_false_iff_eq]

/-- A check that is not excluded by more exclusions is not excluded. -/
theorem DiagnosticRequest.ExcludesMore.included (h : request.ExcludesMore request')
    (hincluded : request'.excluded mask = false) : request.excluded mask = false := by
  rw [excluded_eq_false_iff] at hincluded ⊢
  rw [← h.excludes, UInt64.and_assoc, hincluded, UInt64.and_zero]

/-- The thresholds are the same. -/
theorem DiagnosticRequest.ExcludesMore.expected_eq (h : request.ExcludesMore request')
    (indicator expected : UInt64) :
    request'.expected indicator expected = request.expected indicator expected := by
  unfold DiagnosticRequest.expected
  rw [h.overrides]

/-- A mask selects from two groups of checks what it selects from each. -/
private theorem uint64_and_or_distrib (a b c : UInt64) : a &&& (b ||| c) = a &&& b ||| a &&& c :=
  UInt64.toBitVec_inj.mp BitVec.and_or_distrib_left

/-- An event comes from the checks of its code, among others. -/
theorem covers_of_code {event : DiagEvent} (hcode : event.code.checks = mask) :
    Covers mask event := by
  have habsorb : mask ||| mask &&& event.argChecks = mask := by
    refine UInt64.toBitVec_inj.mp (BitVec.eq_of_getLsbD_eq fun i _ => ?_)
    rw [UInt64.toBitVec_or, UInt64.toBitVec_and, BitVec.getLsbD_or, BitVec.getLsbD_and]
    cases mask.toBitVec.getLsbD i with
    | false => rfl
    | true => rfl
  rw [Covers, DiagEvent.checks, hcode, UInt64.and_comm, uint64_and_or_distrib, UInt64.and_self,
    habsorb]

/-- An event that comes from some checks comes from each of them. -/
theorem Covers.of_subset {event : DiagEvent} {mask' : UInt64} (h : Covers mask' event)
    (hsubset : mask' &&& mask = mask) : Covers mask event :=
  calc event.checks &&& mask
      = event.checks &&& (mask' &&& mask) := by rw [hsubset]
    _ = mask' &&& mask := by rw [← UInt64.and_assoc, h]
    _ = mask := hsubset

/-- An event of the platform configuration diagnostic comes from the checks of its code. -/
theorem checks_of_platformConfig {event : DiagEvent} (h : event.type = .platformConfig) :
    event.checks = event.code.checks := by
  rw [DiagEvent.checks, DiagEvent.argChecks, h, UInt64.or_zero]

/-- An event of an excluded check has an excluded check. -/
theorem Covers.not_unexcluded {event : DiagEvent} (hcovers : Covers mask event)
    (hexcluded : request.excluded mask = true) : ¬ Unexcluded request.excludes event := by
  intro hnone
  have hzero : request.excludes &&& mask = 0 :=
    calc request.excludes &&& mask
        = request.excludes &&& (event.checks &&& mask) := by rw [hcovers]
      _ = event.checks &&& request.excludes &&& mask := by
        rw [← UInt64.and_assoc, UInt64.and_comm request.excludes]
      _ = 0 := by rw [hnone, UInt64.zero_and]
  rw [excluded_eq_false_iff.mpr hzero] at hexcluded
  cases hexcluded

/-- Of two groups of checks that are included, none is excluded. -/
theorem or_and_excludes_eq_zero {mask' : UInt64} (h : mask &&& request.excludes = 0)
    (h' : request.excluded mask' = false) : (mask ||| mask') &&& request.excludes = 0 := by
  rw [excluded_eq_false_iff] at h'
  rw [UInt64.and_comm, uint64_and_or_distrib, UInt64.and_comm, h, h', UInt64.or_zero]

end Requests

/-! ### Two programs -/

/-- The events of the second program are those of the first, except some with an excluded check. -/
abbrev Prunes {α β : Type} (excludes : UInt64) (x : Diag α) (x' : Diag β) : Prop :=
  Pruned (Unexcluded excludes) (events x.log) (events x'.log)

section Programs

variable {α β γ δ : Type} {excludes : UInt64}

/-- Two programs one after the other. -/
theorem prunes_bind {x : Diag α} {x' : Diag γ} {f : α → Diag β} {f' : γ → Diag δ}
    (hx : Prunes excludes x x') (hf : Prunes excludes (f x.value) (f' x'.value)) :
    Prunes excludes (x >>= f) (x' >>= f') := by
  rw [Prunes, Tally.log_bind, Tally.log_bind, events_append, events_append]
  exact hx.append hf

/-- The same program before two others. -/
theorem prunes_bind_left {x : Diag α} {f f' : α → Diag β}
    (hf : Prunes excludes (f x.value) (f' x.value)) : Prunes excludes (x >>= f) (x >>= f') :=
  prunes_bind (pruned_refl _) hf

/-- Two loops over the same list whose accumulators stay related. -/
theorem prunes_foldlM {R : β → β → Prop} {l : List α} {f f' : β → α → Diag β}
    (h : ∀ b b', ∀ a ∈ l, R b b' →
      Prunes excludes (f b a) (f' b' a) ∧ R (f b a).value (f' b' a).value)
    {b b' : β} (hb : R b b') : Prunes excludes (l.foldlM f b) (l.foldlM f' b') := by
  induction l generalizing b b' with
  | nil => exact pruned_refl _
  | cons a l ih =>
    rw [List.foldlM_cons, List.foldlM_cons]
    obtain ⟨hpass, hnext⟩ := h b b' a List.mem_cons_self hb
    exact prunes_bind hpass (ih (fun b b' c hc => h b b' c (List.mem_cons_of_mem a hc)) hnext)

variable {request request' : DiagnosticRequest} {mask : UInt64}

/-- A check that is made unless it is excluded. -/
theorem prunes_unless (h : request.ExcludesMore request') {x x' : Diag α} {a a' : α}
    (hx : request'.excluded mask = false → Prunes request'.excludes x x')
    (hcovers : request.excluded mask = false → ∀ event ∈ events x.log, Covers mask event) :
    Prunes request'.excludes (if request.excluded mask then pure a else x)
      (if request'.excluded mask then pure a' else x') := by
  cases hexcluded' : request'.excluded mask with
  | false =>
    rw [h.included hexcluded', if_neg Bool.false_ne_true, if_neg Bool.false_ne_true]
    exact hx hexcluded'
  | true =>
    rw [if_pos rfl]
    refine pruned_nil fun event hevent => ?_
    cases hexcluded : request.excluded mask with
    | false =>
      rw [hexcluded, if_neg Bool.false_ne_true] at hevent
      exact (hcovers hexcluded event hevent).not_unexcluded hexcluded'
    | true =>
      rw [hexcluded, if_pos rfl] at hevent
      cases hevent

/-- A report if there is a reason to, and unless the check is excluded. -/
theorem prunes_reportUnless (h : request.ExcludesMore request') {event : DiagEvent}
    (hcovers : Covers mask event) (condition : Prop) [Decidable condition] :
    Prunes request'.excludes
      (if request.excluded mask = false ∧ condition then report event else pure ())
      (if request'.excluded mask = false ∧ condition then report event else pure ()) := by
  by_cases hcondition : condition
  · have hif : ∀ request : DiagnosticRequest,
        (if request.excluded mask = false ∧ condition then report event else pure ()) =
          if request.excluded mask then pure () else report event := by
      intro request
      cases request.excluded mask with
      | false => rw [if_pos ⟨rfl, hcondition⟩, if_neg Bool.false_ne_true]
      | true => rw [if_neg fun hboth => Bool.noConfusion hboth.1, if_pos rfl]
    rw [hif, hif]
    refine prunes_unless h (fun _ => pruned_refl _) fun _ => ?_
    exact List.forall_mem_singleton.mpr hcovers
  · rw [if_neg fun hboth => hcondition hboth.2, if_neg fun hboth => hcondition hboth.2]
    exact pruned_refl _

/-- A comparison that is reported if it fails. -/
theorem prunes_diagCheck (h : request.ExcludesMore request') {event : DiagEvent}
    (hcovers : Covers mask event) (actual expected : UInt64) (e : Equality) :
    Prunes request'.excludes
      (if (diagCheck request mask actual expected e).1 then pure () else report event)
      (if (diagCheck request' mask actual expected e).1 then pure () else report event) := by
  have hif : ∀ request : DiagnosticRequest,
      (if (diagCheck request mask actual expected e).1 then pure () else report event) =
        if request.excluded mask then pure ()
        else if e.holds actual (request.expected mask expected) then pure ()
        else report event := by
    intro request
    unfold diagCheck
    cases request.excluded mask with
    | false => rfl
    | true => rfl
  rw [hif, hif, h.expected_eq]
  refine prunes_unless h (fun _ => pruned_refl _) fun _ => ?_
  split_ifs
  · exact List.forall_mem_nil _
  · exact List.forall_mem_singleton.mpr hcovers

end Programs

/-! ### Two runs -/

/-- The findings of the second run are those of the first, except some with an excluded check. -/
structure OnlyRemoves (success : DiagEvent) (excludes : UInt64) (x x' : Diag ℤ) : Prop where
  /-- A finding of the second run is one of the first. -/
  removed : ∀ event ∈ events x'.log, IsFinding success event → event ∈ events x.log
  /-- A finding of the first run of which no check is excluded is one of the second. -/
  kept : ∀ event ∈ events x.log, IsFinding success event → Unexcluded excludes event →
    event ∈ events x'.log

section Runs

variable {success : DiagEvent} {excludes : UInt64}

/-- A run has the findings of the part before the report of success. -/
private theorem mem_events_reportSuccess {body : Diag ℤ} {event : DiagEvent}
    (h : IsFinding success event) :
    event ∈ events (body.listen >>= fun result => reportSuccess result.1 result.2 success).log ↔
      event ∈ events body.log := by
  rw [Tally.log_bind, Tally.log_listen, Tally.value_listen, events_append, List.mem_append]
  refine or_iff_left fun hsuccess => ?_
  unfold reportSuccess at hsuccess
  split_ifs at hsuccess with hend
  · obtain rfl := List.mem_singleton.mp hsuccess
    exact h.2 rfl
  · cases hsuccess

/-- Two runs differ by exclusions exactly if the parts before the report of success do. -/
theorem onlyRemoves_reportSuccess_iff {body body' : Diag ℤ}
    (hfindings : ∀ event ∈ events body.log, IsFinding success event)
    (hfindings' : ∀ event ∈ events body'.log, IsFinding success event) :
    OnlyRemoves success excludes
      (body.listen >>= fun result => reportSuccess result.1 result.2 success)
      (body'.listen >>= fun result => reportSuccess result.1 result.2 success) ↔
        Prunes excludes body body' := by
  constructor
  · rintro ⟨hremoved, hkept⟩
    constructor
    · intro event hevent
      have hfinding := hfindings' event hevent
      exact (mem_events_reportSuccess hfinding).mp
        (hremoved event ((mem_events_reportSuccess hfinding).mpr hevent) hfinding)
    · intro event hevent hunexcluded
      have hfinding := hfindings event hevent
      exact (mem_events_reportSuccess hfinding).mp
        (hkept event ((mem_events_reportSuccess hfinding).mpr hevent) hfinding hunexcluded)
  · rintro ⟨hsubset, hkept⟩
    constructor
    · intro event hevent hfinding
      rw [mem_events_reportSuccess hfinding] at hevent ⊢
      exact hsubset event hevent
    · intro event hevent hfinding hunexcluded
      rw [mem_events_reportSuccess hfinding] at hevent ⊢
      exact hkept event hevent hunexcluded

/-- Runs with the same events differ by no exclusion. -/
theorem onlyRemoves_of_events_eq {x x' : Diag ℤ} (h : events x'.log = events x.log) :
    OnlyRemoves success excludes x x' :=
  ⟨fun _ hevent _ => h ▸ hevent, fun _ hevent _ _ => h ▸ hevent⟩

/-- A query that succeeds before two runs. -/
theorem onlyRemoves_ask_ok_iff {α : Type} {a : α} {f f' : Except ErrorCode α → Diag ℤ} :
    OnlyRemoves success excludes (ask (.ok a) >>= f) (ask (.ok a) >>= f') ↔
      OnlyRemoves success excludes (f (.ok a)) (f' (.ok a)) :=
  ⟨fun h => ⟨h.removed, h.kept⟩, fun h => ⟨h.removed, h.kept⟩⟩

end Runs

end IxpDimm.Diagnostic
