import Mathlib.Data.List.Basic

/-!
# Lists with entries left out

`Pruned keep l l'` says that the entries of `l'` are among those of `l`, and that an entry of `l` with
`keep` is one of `l'`.  Order and repetitions do not matter.
-/

namespace Foundation

/-- The second list has entries of the first, and all of those that are to be kept. -/
structure Pruned {α : Type*} (keep : α → Prop) (l l' : List α) : Prop where
  /-- No entry is new. -/
  subset : ∀ a ∈ l', a ∈ l
  /-- The entries that are to be kept are kept. -/
  kept : ∀ a ∈ l, keep a → a ∈ l'

section Rules

variable {α β : Type*} {keep : α → Prop}

/-- Nothing need be left out. -/
theorem pruned_refl (l : List α) : Pruned keep l l := ⟨fun _ h => h, fun _ h _ => h⟩

/-- Everything may be left out if nothing is to be kept. -/
theorem pruned_nil {l : List α} (h : ∀ a ∈ l, ¬ keep a) : Pruned keep l [] :=
  ⟨fun _ hmem => absurd hmem List.not_mem_nil, fun a hmem hkeep => absurd hkeep (h a hmem)⟩

/-- Two lists with entries left out, one after the other. -/
theorem Pruned.append {l₁ l₁' l₂ l₂' : List α} (h₁ : Pruned keep l₁ l₁') (h₂ : Pruned keep l₂ l₂') :
    Pruned keep (l₁ ++ l₂) (l₁' ++ l₂') where
  subset a ha := by
    rw [List.mem_append] at ha ⊢
    exact ha.imp (h₁.subset a) (h₂.subset a)
  kept a ha hkeep := by
    rw [List.mem_append] at ha ⊢
    exact ha.imp (fun h => h₁.kept a h hkeep) (fun h => h₂.kept a h hkeep)

end Rules

end Foundation
