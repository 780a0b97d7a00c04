import Mathlib.Order.Basic
import Mathlib.Tactic.Common

/-!
# Bounded evaluation of `while` loops

A loop is given by its body `step : σ → σ ⊕ ρ`: from the current state one pass either continues
with a new state (`inl`) or leaves the loop with a result (`inr`).  `runLoop step fuel s` makes at
most `fuel` passes and returns `none` when they do not suffice, so a loop that never leaves is one
whose evaluation is `none` for every bound.

The rules below are the ones a verification of such a loop needs: the bound does not matter once it
is large enough, an invariant of the body holds of every result, a measure that every pass lowers
gives a bound that suffices, and a pass that returns to its own state makes the loop run forever.

A call that runs such loops takes the bound as an argument; it returns `r` when its result is
`some r` for some bound (`Returns`).  `FuelMono` says that the bound does not matter otherwise, and
sequences of such calls are taken apart with `returns_bind_iff`.
-/

namespace Foundation

variable {σ ρ : Type*}

/-- Evaluation of the loop with body `step` from the state `s`, for at most `fuel` passes. -/
def runLoop (step : σ → σ ⊕ ρ) : ℕ → σ → Option ρ
  | 0, _ => none
  | fuel + 1, s =>
    match step s with
    | .inl s' => runLoop step fuel s'
    | .inr r => some r

/-- The states the loop is in at the start of its passes when it is entered in state `s`. -/
inductive LoopReaches (step : σ → σ ⊕ ρ) (s : σ) : σ → Prop
  /-- The loop starts in `s`. -/
  | refl : LoopReaches step s s
  /-- A pass that continues leads to the next state. -/
  | tail {t u : σ} : LoopReaches step s t → step t = .inl u → LoopReaches step s u

/-- The loop entered in state `s` leaves after finitely many passes. -/
def LoopHalts (step : σ → σ ⊕ ρ) (s : σ) : Prop := ∃ fuel r, runLoop step fuel s = some r

/-- A pass that leaves the loop gives its result, whatever is left of the bound. -/
theorem runLoop_succ_of_inr {step : σ → σ ⊕ ρ} {s : σ} {r : ρ} (h : step s = .inr r) (fuel : ℕ) :
    runLoop step (fuel + 1) s = some r := by
  simp [runLoop, h]

/-- A pass that continues hands the rest of the bound to the next state. -/
theorem runLoop_succ_of_inl {step : σ → σ ⊕ ρ} {s s' : σ} (h : step s = .inl s') (fuel : ℕ) :
    runLoop step (fuel + 1) s = runLoop step fuel s' := by
  simp [runLoop, h]

/-- A larger bound does not change the result of a loop that leaves within the smaller one. -/
theorem runLoop_mono {step : σ → σ ⊕ ρ} {m n : ℕ} (hmn : m ≤ n) {s : σ} {r : ρ}
    (h : runLoop step m s = some r) : runLoop step n s = some r := by
  induction m generalizing n s with
  | zero => simp [runLoop] at h
  | succ m ih =>
    obtain ⟨n, rfl⟩ : ∃ k, n = k + 1 := ⟨n - 1, by omega⟩
    cases hs : step s with
    | inl s' =>
      rw [runLoop_succ_of_inl hs] at h ⊢
      exact ih (by omega) h
    | inr r' =>
      rw [runLoop_succ_of_inr hs] at h ⊢
      exact h

/-- Two bounds within which the loop leaves give the same result. -/
theorem runLoop_unique {step : σ → σ ⊕ ρ} {m n : ℕ} {s : σ} {r r' : ρ}
    (h : runLoop step m s = some r) (h' : runLoop step n s = some r') : r = r' := by
  have h₁ := runLoop_mono (Nat.le_max_left m n) h
  have h₂ := runLoop_mono (Nat.le_max_right m n) h'
  exact Option.some.inj (h₁.symm.trans h₂)

/-- The invariant rule: a property of states kept by every pass that continues, and turned into a
property of results by every pass that leaves, holds of whatever the loop returns. -/
theorem runLoop_rule {step : σ → σ ⊕ ρ} (I : σ → Prop) (Q : ρ → Prop)
    (hstep : ∀ s s', I s → step s = .inl s' → I s')
    (hexit : ∀ s r, I s → step s = .inr r → Q r) :
    ∀ {fuel : ℕ} {s : σ} {r : ρ}, I s → runLoop step fuel s = some r → Q r := by
  intro fuel
  induction fuel with
  | zero => intro s r _ h; simp [runLoop] at h
  | succ fuel ih =>
    intro s r hI h
    cases hs : step s with
    | inl s' =>
      rw [runLoop_succ_of_inl hs] at h
      exact ih (hstep s s' hI hs) h
    | inr r' =>
      rw [runLoop_succ_of_inr hs] at h
      obtain rfl := Option.some.inj h
      exact hexit s r' hI hs

/-- The variant rule: if, under an invariant, every pass that continues lowers the measure `μ`,
then `μ s + 1` passes from `s` suffice. -/
theorem runLoop_isSome_of_measure {step : σ → σ ⊕ ρ} (I : σ → Prop) (μ : σ → ℕ)
    (hstep : ∀ s s', I s → step s = .inl s' → I s' ∧ μ s' < μ s) :
    ∀ {fuel : ℕ} {s : σ}, I s → μ s < fuel → (runLoop step fuel s).isSome := by
  intro fuel
  induction fuel with
  | zero => intro s _ h; omega
  | succ fuel ih =>
    intro s hI hlt
    cases hs : step s with
    | inl s' =>
      rw [runLoop_succ_of_inl hs]
      obtain ⟨hI', hμ⟩ := hstep s s' hI hs
      exact ih hI' (by omega)
    | inr r => rw [runLoop_succ_of_inr hs]; rfl

/-- The states behind the first pass are those the loop reaches from the state after it. -/
theorem LoopReaches.head_cases {step : σ → σ ⊕ ρ} {s t : σ} (h : LoopReaches step s t) :
    t = s ∨ ∃ s', step s = .inl s' ∧ LoopReaches step s' t := by
  induction h with
  | refl => exact Or.inl rfl
  | tail _ hstep ih =>
    rcases ih with rfl | ⟨s', hfirst, hreach⟩
    · exact Or.inr ⟨_, hstep, LoopReaches.refl⟩
    · exact Or.inr ⟨s', hfirst, hreach.tail hstep⟩

/-- A loop that leaves from a later state leaves from the earlier one, with the same result. -/
theorem runLoop_of_reaches {step : σ → σ ⊕ ρ} {s t : σ} (hr : LoopReaches step s t) {fuel : ℕ}
    {r : ρ} (h : runLoop step fuel t = some r) : ∃ fuel', runLoop step fuel' s = some r := by
  induction hr generalizing fuel with
  | refl => exact ⟨fuel, h⟩
  | tail _ hstep ih =>
    rw [← runLoop_succ_of_inl hstep] at h
    exact ih h

/-- A loop that leaves from `s` leaves from every state it passes through. -/
theorem loopHalts_of_reaches {step : σ → σ ⊕ ρ} {s t : σ} (hr : LoopReaches step s t)
    (h : LoopHalts step s) : LoopHalts step t := by
  induction hr with
  | refl => exact h
  | tail _ hstep ih =>
    obtain ⟨fuel, r, hrun⟩ := ih
    cases fuel with
    | zero => simp [runLoop] at hrun
    | succ fuel => exact ⟨fuel, r, by rwa [runLoop_succ_of_inl hstep] at hrun⟩

/-- A loop that leaves does so by a pass from a state that is behind every state it comes through. -/
theorem exists_exit_of_reaches {step : σ → σ ⊕ ρ} {s t : σ} (hr : LoopReaches step s t) {fuel : ℕ}
    {r : ρ} (h : runLoop step fuel s = some r) : ∃ u, LoopReaches step t u ∧ step u = .inr r := by
  obtain ⟨fuel', r', hrun⟩ := loopHalts_of_reaches hr ⟨fuel, r, h⟩
  obtain ⟨fuel'', hrun'⟩ := runLoop_of_reaches hr hrun
  obtain rfl := runLoop_unique h hrun'
  exact runLoop_rule (LoopReaches step t) (fun r => ∃ u, LoopReaches step t u ∧ step u = .inr r)
    (fun _ _ hu hstep => hu.tail hstep) (fun u _ hu hstep => ⟨u, hu, hstep⟩) LoopReaches.refl hrun

/-- A pass that comes back to its own state makes the loop run forever. -/
theorem not_loopHalts_of_fixed {step : σ → σ ⊕ ρ} {s : σ} (h : step s = .inl s) :
    ¬ LoopHalts step s := by
  rintro ⟨fuel, r, hrun⟩
  induction fuel with
  | zero => simp [runLoop] at hrun
  | succ fuel ih => exact ih (by rwa [runLoop_succ_of_inl h] at hrun)

/-- If every pass from a state the loop reaches lowers the measure, the loop leaves. -/
theorem loopHalts_of_measure {step : σ → σ ⊕ ρ} {s : σ} (μ : σ → ℕ)
    (h : ∀ t u, LoopReaches step s t → step t = .inl u → μ u < μ t) : LoopHalts step s := by
  have hsome := runLoop_isSome_of_measure (LoopReaches step s) μ
    (fun t u ht hu => ⟨ht.tail hu, h t u ht hu⟩) LoopReaches.refl (Nat.lt_succ_self (μ s))
  obtain ⟨r, hr⟩ := Option.isSome_iff_exists.mp hsome
  exact ⟨_, r, hr⟩

/-! ### Calls that may not return -/

/-- The call returns a value within some bound. -/
def Returns (call : ℕ → Option ρ) (r : ρ) : Prop := ∃ fuel, call fuel = some r

/-- A larger bound does not change what the call returns. -/
def FuelMono (call : ℕ → Option ρ) : Prop := ∀ m n r, m ≤ n → call m = some r → call n = some r

/-- A call that runs no loop. -/
theorem fuelMono_const (x : Option ρ) : FuelMono fun _ => x := fun _ _ _ _ h => h

/-- A call that runs a loop. -/
theorem fuelMono_runLoop (step : σ → σ ⊕ ρ) (s : σ) : FuelMono fun fuel => runLoop step fuel s :=
  fun _ _ _ hmn h => runLoop_mono hmn h

/-- A sequence of calls. -/
theorem FuelMono.bind {τ : Type*} {first : ℕ → Option ρ} {next : ρ → ℕ → Option τ}
    (hfirst : FuelMono first) (hnext : ∀ a, FuelMono (next a)) :
    FuelMono fun fuel => (first fuel).bind fun a => next a fuel := by
  intro m n r hmn h
  obtain ⟨a, ha, hr⟩ := Option.bind_eq_some_iff.mp h
  exact Option.bind_eq_some_iff.mpr ⟨a, hfirst m n a hmn ha, hnext a m n r hmn hr⟩

/-- The result of a call, converted. -/
theorem FuelMono.map {τ : Type*} {call : ℕ → Option ρ} (hcall : FuelMono call) (f : ρ → τ) :
    FuelMono fun fuel => (call fuel).map f := by
  intro m n r hmn h
  obtain ⟨a, ha, hr⟩ := Option.map_eq_some_iff.mp h
  exact Option.map_eq_some_iff.mpr ⟨a, hcall m n a hmn ha, hr⟩

/-- A call returns one value only. -/
theorem Returns.unique {call : ℕ → Option ρ} (hmono : FuelMono call) {r r' : ρ}
    (h : Returns call r) (h' : Returns call r') : r = r' := by
  obtain ⟨m, hm⟩ := h
  obtain ⟨n, hn⟩ := h'
  have h₁ := hmono m (max m n) r (Nat.le_max_left m n) hm
  have h₂ := hmono n (max m n) r' (Nat.le_max_right m n) hn
  exact Option.some.inj (h₁.symm.trans h₂)

/-- A call that runs no loop returns its value. -/
theorem returns_some_iff {a r : ρ} : Returns (fun _ => some a) r ↔ a = r :=
  ⟨fun ⟨_, h⟩ => Option.some.inj h, fun h => ⟨0, congrArg some h⟩⟩

/-- A sequence of calls returns when each of them does. -/
theorem returns_bind_iff {τ : Type*} {first : ℕ → Option ρ} {next : ρ → ℕ → Option τ}
    (hfirst : FuelMono first) (hnext : ∀ a, FuelMono (next a)) {r : τ} :
    Returns (fun fuel => (first fuel).bind fun a => next a fuel) r ↔
      ∃ a, Returns first a ∧ Returns (next a) r := by
  constructor
  · rintro ⟨fuel, h⟩
    obtain ⟨a, ha, hr⟩ := Option.bind_eq_some_iff.mp h
    exact ⟨a, ⟨fuel, ha⟩, fuel, hr⟩
  · rintro ⟨a, ⟨m, hm⟩, n, hn⟩
    refine ⟨max m n, Option.bind_eq_some_iff.mpr ⟨a, ?_, ?_⟩⟩
    · exact hfirst m (max m n) a (Nat.le_max_left m n) hm
    · exact hnext a n (max m n) r (Nat.le_max_right m n) hn

/-- What a converted call returns. -/
theorem returns_map_iff {τ : Type*} {call : ℕ → Option ρ} {f : ρ → τ} {r : τ} :
    Returns (fun fuel => (call fuel).map f) r ↔ ∃ a, Returns call a ∧ f a = r := by
  constructor
  · rintro ⟨fuel, h⟩
    obtain ⟨a, ha, hr⟩ := Option.map_eq_some_iff.mp h
    exact ⟨a, ⟨fuel, ha⟩, hr⟩
  · rintro ⟨a, ⟨fuel, ha⟩, hr⟩
    exact ⟨fuel, Option.map_eq_some_iff.mpr ⟨a, ha, hr⟩⟩

/-- The rule for total correctness: under an invariant, every pass that continues lowers the measure
`μ`, and every pass that leaves establishes the property of the result. -/
theorem exists_returns_of_measure {step : σ → σ ⊕ ρ} (I : σ → Prop) (Q : ρ → Prop) (μ : σ → ℕ)
    (hstep : ∀ s s', I s → step s = .inl s' → I s' ∧ μ s' < μ s)
    (hexit : ∀ s r, I s → step s = .inr r → Q r) {s : σ} (hs : I s) :
    ∃ r, Returns (fun fuel => runLoop step fuel s) r ∧ Q r := by
  have hsome := runLoop_isSome_of_measure I μ hstep hs (Nat.lt_succ_self (μ s))
  obtain ⟨r, hr⟩ := Option.isSome_iff_exists.mp hsome
  exact ⟨r, ⟨_, hr⟩, runLoop_rule I Q (fun s s' hI h => (hstep s s' hI h).1) hexit hs hr⟩

/-- A loop returns exactly when it halts. -/
theorem exists_returns_runLoop_iff {step : σ → σ ⊕ ρ} {s : σ} :
    (∃ r, Returns (fun fuel => runLoop step fuel s) r) ↔ LoopHalts step s :=
  exists_comm

end Foundation
