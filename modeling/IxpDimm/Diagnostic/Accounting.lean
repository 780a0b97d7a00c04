import IxpDimm.Diagnostic.Events

/-!
# The accounting of a diagnostic

The caller of a diagnostic gets a return code and the number of results, and finds the events in the
event log.  `Accounts` says that the three agree: the results are the events of the diagnostic, success
is stored alone, and it is stored when there was nothing else to report.
-/

namespace IxpDimm.Diagnostic

open Foundation

/-- The results, the events and the return code of a run agree. -/
structure Accounts (success : DiagEvent) (hasDimm : Prop) (x : Diag ℤ) : Prop where
  /-- The results are the events of the diagnostic. -/
  counted : x.count = ((events x.log).filter fun event => event.type = success.type).length
  /-- Success is stored if there is no other event and the run succeeds. -/
  success_alone : success ∈ events x.log →
    ((events x.log).filter fun event => event.type = success.type) = [success] ∧
      x.value = nvmSuccess
  /-- Success is stored and returned if there is a DIMM, every query has succeeded and there is no
  other event. -/
  success_stored : hasDimm → .asked false ∉ x.log →
    (∀ event ∈ events x.log, event.type = success.type → event = success) →
      success ∈ events x.log ∧ x.value = nvmSuccess

/-- An event of the diagnostic other than success. -/
def IsFinding (success event : DiagEvent) : Prop :=
  event.type = success.type ∧ event.code ≠ success.code

/-- Every event of the program has `P`, and all but one are counted. -/
structure Misses {α : Type} (P : DiagEvent → Prop) (x : Diag α) : Prop where
  /-- One event is not counted. -/
  count : x.count + 1 = (events x.log).length
  /-- Every event has `P`. -/
  findings : ∀ event ∈ events x.log, P event

section Missing

variable {α β : Type} {P : DiagEvent → Prop} {x : Diag α} {f : α → Diag β}

/-- An event that is stored without being counted. -/
theorem misses_storeEvent {event : DiagEvent} (h : P event) : Misses P (storeEvent event) where
  count := rfl
  findings := List.forall_mem_singleton.mpr h

/-- A program that counts its events before one that does not. -/
theorem misses_then (hx : Reports P x) (hf : Misses P (f x.value)) : Misses P (x >>= f) := by
  obtain ⟨hcount, hevents⟩ := reports_iff.mp hx
  constructor
  · rw [Tally.count_bind, Tally.log_bind, events_append, List.length_append, ← hcount, ← hf.count,
      Nat.add_assoc]
  · rw [Tally.log_bind, events_append]
    exact List.forall_mem_append.mpr ⟨hevents, hf.findings⟩

/-- A program that does not count its events before one that does. -/
theorem misses_before (hx : Misses P x) (hf : Reports P (f x.value)) : Misses P (x >>= f) := by
  obtain ⟨hcount, hevents⟩ := reports_iff.mp hf
  constructor
  · rw [Tally.count_bind, Tally.log_bind, events_append, List.length_append, ← hcount, ← hx.count,
      Nat.add_right_comm]
  · rw [Tally.log_bind, events_append]
    exact List.forall_mem_append.mpr ⟨hx.findings, hevents⟩

end Missing

/-- Without a failed query and without an event, the value of the program has `P`. -/
def Settles {α : Type} (P : α → Prop) (x : Diag α) : Prop :=
  .asked false ∉ x.log → events x.log = [] → P x.value

/-- Without a failed query and without an event, the program returns success. -/
abbrev Settled (x : Diag ℤ) : Prop := Settles (· = nvmSuccess) x

section Settling

variable {α β : Type} {P : β → Prop}

/-- A value with `P` is returned. -/
theorem settles_pure {b : β} (h : P b) : Settles P (pure b) := fun _ _ => h

/-- Success is returned. -/
theorem settled_pure : Settled (pure nvmSuccess) := settles_pure rfl

/-- A part before a program has the log before. -/
theorem settles_bind {x : Diag α} {f : α → Diag β}
    (h : .asked false ∉ x.log → events x.log = [] → Settles P (f x.value)) :
    Settles P (x >>= f) := by
  intro hasked hnone
  rw [Tally.log_bind, List.mem_append, not_or] at hasked
  rw [Tally.log_bind, events_append, List.append_eq_nil_iff] at hnone
  exact h hasked.1 hnone.1 hasked.2 hnone.2

/-- A query before a program. -/
theorem settles_ask {answer : Except ErrorCode α} {f : Except ErrorCode α → Diag β}
    (h : ∀ a, answer = .ok a → Settles P (f answer)) : Settles P (ask answer >>= f) := by
  refine settles_bind fun hasked _ => ?_
  cases answer with
  | error e => exact absurd (List.mem_singleton_self _) hasked
  | ok a => exact h a rfl

/-- A part that settles before a program. -/
theorem settles_then {Q : α → Prop} {x : Diag α} {f : α → Diag β} (hx : Settles Q x)
    (hf : Q x.value → Settles P (f x.value)) : Settles P (x >>= f) :=
  settles_bind fun hasked hnone => hf (hx hasked hnone)

/-- An event is stored. -/
theorem settles_report (event : DiagEvent) (b : β) :
    Settles P (report event >>= fun _ => pure b) := by
  intro _ hnone
  cases hnone

end Settling

section Rules

variable {success : DiagEvent} {hasDimm : Prop}

/-- Success is no finding. -/
private theorem not_isFinding_success : ¬ IsFinding success success := fun h => h.2 rfl

/-- Findings are events of the diagnostic. -/
private theorem filter_findings {log : List DiagEvent}
    (h : ∀ event ∈ log, IsFinding success event) :
    (log.filter fun event => event.type = success.type) = log :=
  List.filter_eq_self.mpr fun event hevent => decide_eq_true (h event hevent).1

/-- A run that stores findings only accounts for them, if it has something to report. -/
theorem accounts_of_reports {x : Diag ℤ} (h : Reports (IsFinding success) x)
    (hstored : hasDimm → .asked false ∉ x.log → events x.log ≠ []) :
    Accounts success hasDimm x := by
  obtain ⟨hcount, hfindings⟩ := reports_iff.mp h
  constructor
  · rw [filter_findings hfindings, hcount]
  · intro hsuccess
    exact absurd (hfindings success hsuccess) not_isFinding_success
  · intro hdimm hasked honly
    obtain ⟨event, hevent⟩ := List.exists_mem_of_ne_nil _ (hstored hdimm hasked)
    have hfinding := hfindings event hevent
    rw [honly event hevent hfinding.1] at hfinding
    exact absurd hfinding not_isFinding_success

/-- A part that returns success and counts nothing is followed by the event of success. -/
private theorem run_reportSuccess_of {body : Diag ℤ} (h : body.value = nvmSuccess ∧ body.count = 0) :
    (body.listen >>= fun result => reportSuccess result.1 result.2 success) =
      ⟨body.value, body.count + 1, body.log ++ [.stored success]⟩ := by
  have htail : reportSuccess body.value body.count success =
      ⟨body.value, 1, [.stored success]⟩ := if_pos h
  show (⟨(reportSuccess body.value body.count success).value, _, _⟩ : Diag ℤ) = _
  simp only [Tally.value_listen, Tally.count_listen, Tally.log_listen, htail]

/-- Otherwise nothing follows. -/
private theorem run_reportSuccess_of_not {body : Diag ℤ}
    (h : ¬ (body.value = nvmSuccess ∧ body.count = 0)) :
    (body.listen >>= fun result => reportSuccess result.1 result.2 success) = body := by
  have htail : reportSuccess body.value body.count success = ⟨body.value, 0, []⟩ := if_neg h
  show (⟨(reportSuccess body.value body.count success).value, _, _⟩ : Diag ℤ) = _
  simp only [Tally.value_listen, Tally.count_listen, Tally.log_listen, htail, Nat.add_zero,
    List.append_nil]

/-- The event of success is an event of the diagnostic. -/
private theorem filter_success :
    ([success].filter fun event => event.type = success.type) = [success] := by
  refine List.filter_eq_self.mpr fun event hevent => ?_
  rw [List.mem_singleton.mp hevent]
  exact decide_eq_true rfl

/-- A run that reports success after a part that stores findings accounts for its events, if the part
returns success when nothing has failed and nothing is found. -/
theorem accounts_reportSuccess {body : Diag ℤ} (h : Reports (IsFinding success) body)
    (hsettled : hasDimm → Settled body) :
    Accounts success hasDimm
      (body.listen >>= fun result => reportSuccess result.1 result.2 success) := by
  obtain ⟨hcount, hfindings⟩ := reports_iff.mp h
  by_cases hend : body.value = nvmSuccess ∧ body.count = 0
  · -- success is reported
    have hnone : events body.log = [] := List.length_eq_zero_iff.mp (hcount.symm.trans hend.2)
    have hlog : events (body.log ++ [.stored success]) = [success] := by
      rw [events_append, hnone, events_stored, List.nil_append]
    rw [run_reportSuccess_of hend]
    constructor
    · rw [hlog, filter_success, hend.2]
      rfl
    · intro _
      rw [hlog, filter_success]
      exact ⟨rfl, hend.1⟩
    · intro _ _ _
      rw [hlog]
      exact ⟨List.mem_singleton_self _, hend.1⟩
  · -- nothing is added
    rw [run_reportSuccess_of_not hend]
    refine accounts_of_reports h fun hdimm hasked hnone =>
      hend ⟨hsettled hdimm hasked hnone, ?_⟩
    rw [hcount, hnone]
    rfl

/-- A run does not account for its events after a part that has stored a finding without counting
it. -/
theorem not_accounts_reportSuccess {body : Diag ℤ} (h : Misses (IsFinding success) body) :
    ¬ Accounts success hasDimm
      (body.listen >>= fun result => reportSuccess result.1 result.2 success) := by
  intro haccounts
  have hcounted := haccounts.counted
  have hbody : body.count + 1 = (events body.log).length := h.count
  by_cases hend : body.value = nvmSuccess ∧ body.count = 0
  · rw [run_reportSuccess_of hend] at hcounted
    dsimp only at hcounted
    rw [events_append, events_stored, List.filter_append, filter_findings h.findings, filter_success,
      List.length_append, List.length_singleton] at hcounted
    omega
  · rw [run_reportSuccess_of_not hend, filter_findings h.findings] at hcounted
    omega

/-- A query that succeeds before a run. -/
theorem accounts_ask_ok_iff {α : Type} {a : α} {f : Except ErrorCode α → Diag ℤ} :
    Accounts success hasDimm (ask (.ok a) >>= f) ↔ Accounts success hasDimm (f (.ok a)) := by
  have hlog : (ask (.ok a) >>= f).log = .asked true :: (f (.ok a)).log := rfl
  have hevents : events (ask (.ok a) >>= f).log = events (f (.ok a)).log := rfl
  have hcount : (ask (.ok a) >>= f).count = (f (.ok a)).count := Nat.zero_add _
  have hvalue : (ask (.ok a) >>= f).value = (f (.ok a)).value := rfl
  have hasked : .asked false ∉ (ask (.ok a) >>= f).log ↔ .asked false ∉ (f (.ok a)).log := by
    rw [hlog, List.mem_cons, or_iff_right (fun h => by cases h)]
  constructor
  · rintro ⟨hcounted, halone, hstored⟩
    rw [hcount, hevents] at hcounted
    rw [hevents, hvalue] at halone hstored
    rw [hasked] at hstored
    exact ⟨hcounted, halone, hstored⟩
  · rintro ⟨hcounted, halone, hstored⟩
    constructor
    · rw [hcount, hevents, hcounted]
    · rw [hevents, hvalue]
      exact halone
    · rw [hevents, hvalue, hasked]
      exact hstored

/-- A query before a run: the run ends with the error, or goes on. -/
theorem accounts_ask {α : Type} {answer : Except ErrorCode α} {f : Except ErrorCode α → Diag ℤ}
    (herror : ∀ e, answer = .error e → f answer = pure e.val)
    (hok : ∀ a, answer = .ok a → Accounts success hasDimm (f answer)) :
    Accounts success hasDimm (ask answer >>= f) := by
  cases answer with
  | error e =>
    have hlog : (ask (.error e) >>= f).log = [.asked false] := by
      rw [Tally.log_bind, value_ask, herror e rfl]
      rfl
    have hcount : (ask (.error e) >>= f).count = 0 := by
      rw [Tally.count_bind, value_ask, herror e rfl]
      rfl
    constructor
    · rw [hlog, hcount]
      rfl
    · intro hsuccess
      rw [hlog] at hsuccess
      cases hsuccess
    · intro _ hasked
      rw [hlog] at hasked
      exact absurd (List.mem_singleton_self _) hasked
  | ok a => exact accounts_ask_ok_iff.mpr (hok a rfl)

end Rules

end IxpDimm.Diagnostic
