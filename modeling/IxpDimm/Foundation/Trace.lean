import IxpDimm.Foundation.Effects
import IxpDimm.Foundation.WhileLoop

/-!
# What a loop has done

The states in which the passes of a loop start (`loopTrace`), and the elements and states at which
the body of a loop over a list runs (`forMTrace`).  A program that records something at each of them
is described by a relation between the state before, what was recorded, and the state after: what
holds of one pass and composes holds of the whole loop.
-/

namespace Foundation

variable {σ ρ ε α β : Type}

/-- The states in which the passes that go on start. -/
def loopTrace (step : σ → σ ⊕ ρ) : ℕ → σ → List σ
  | 0, _ => []
  | fuel + 1, s =>
    match step s with
    | .inl s' => s :: loopTrace step fuel s'
    | .inr _ => []

/-- The elements and states at which the body of a loop over a list runs. -/
def forMTrace (f : α → EStateM ε σ PUnit) : List α → σ → List (α × σ)
  | [], _ => []
  | a :: l, s =>
    (a, s) :: match f a s with
      | .ok _ s' => forMTrace f l s'
      | .error _ _ => []

/-- A relation between a state, what is recorded from it on, and the state after, that composes. -/
structure Composes (R : σ → List β → σ → Prop) : Prop where
  /-- Nothing is recorded when nothing runs. -/
  nil : ∀ s, R s [] s
  /-- What is recorded one after the other. -/
  append : ∀ {s t u xs ys}, R s xs t → R t ys u → R s (xs ++ ys) u

/-- The rule for a loop: what is recorded of its passes, when every pass that goes on records
something and one that leaves changes nothing. -/
theorem loopTrace_rule {τ : Type} {R : τ → List β → τ → Prop} (hR : Composes R) {step : σ → σ ⊕ ρ}
    (view : σ → τ) (result : ρ → τ) (record : σ → List β)
    (hstep : ∀ s s', step s = .inl s' → R (view s) (record s) (view s'))
    (hexit : ∀ s r, step s = .inr r → result r = view s) :
    ∀ {fuel : ℕ} {s : σ} {r : ρ}, runLoop step fuel s = some r →
      R (view s) ((loopTrace step fuel s).flatMap record) (result r) := by
  intro fuel
  induction fuel with
  | zero =>
    intro s r h
    cases h
  | succ fuel ih =>
    intro s r h
    rw [loopTrace]
    cases hs : step s with
    | inl s' =>
      rw [runLoop_succ_of_inl hs] at h
      rw [List.flatMap_cons]
      exact hR.append (hstep s s' hs) (ih h)
    | inr r' =>
      rw [runLoop_succ_of_inr hs] at h
      obtain rfl := Option.some.inj h
      rw [hexit s r' hs]
      exact hR.nil _

/-- The rule for a loop over a list. -/
theorem forMTrace_rule {R : σ → List β → σ → Prop} (hR : Composes R) {f : α → EStateM ε σ PUnit}
    (record : α → σ → List β) (l : List α)
    (hf : ∀ a ∈ l, ∀ s, R s (record a s) (finalState (f a s))) (s : σ) :
    R s ((forMTrace f l s).flatMap fun p => record p.1 p.2) (finalState (l.forM f s)) := by
  induction l generalizing s with
  | nil => exact hR.nil s
  | cons a l ih =>
    have hfirst := hf a List.mem_cons_self s
    have hrest : (a :: l).forM f s = (f a >>= fun _ => l.forM f) s := rfl
    rw [forMTrace, List.flatMap_cons, hrest, bind_apply]
    cases hrun : f a s with
    | ok _ s' =>
      rw [hrun] at hfirst
      exact hR.append hfirst (ih (fun b hb => hf b (List.mem_cons_of_mem a hb)) s')
    | error e s' =>
      rw [hrun] at hfirst
      rw [List.flatMap_nil, List.append_nil]
      exact hfirst

end Foundation
