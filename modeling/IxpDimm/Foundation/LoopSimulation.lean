import IxpDimm.Foundation.WhileLoop

/-!
# Two loops in step

A loop that goes along with another one, pass by pass, returns what the other one returns: the states
stay related, and a pass of one leaves the loop exactly when that of the other does.
-/

namespace Foundation

variable {σ σ' ρ ρ' : Type*}

/-- The simulation rule: when related states make the passes of two loops do the same, the loops
return the same within every bound. -/
theorem runLoop_simulation {step : σ → σ ⊕ ρ} {step' : σ' → σ' ⊕ ρ'} (R : σ → σ' → Prop)
    (result : ρ → ρ')
    (hinl : ∀ s s' t, R s s' → step s = .inl t → ∃ t', step' s' = .inl t' ∧ R t t')
    (hinr : ∀ s s' r, R s s' → step s = .inr r → step' s' = .inr (result r)) :
    ∀ {fuel : ℕ} {s : σ} {s' : σ'}, R s s' →
      runLoop step' fuel s' = (runLoop step fuel s).map result := by
  intro fuel
  induction fuel with
  | zero => exact fun _ => rfl
  | succ fuel ih =>
    intro s s' hR
    cases hstep : step s with
    | inl t =>
      obtain ⟨t', hstep', hR'⟩ := hinl s s' t hR hstep
      rw [runLoop_succ_of_inl hstep, runLoop_succ_of_inl hstep']
      exact ih hR'
    | inr r =>
      rw [runLoop_succ_of_inr hstep, runLoop_succ_of_inr (hinr s s' r hR hstep)]
      rfl

end Foundation
