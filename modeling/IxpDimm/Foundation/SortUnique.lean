import Mathlib.Data.Finset.Card
import Mathlib.Data.List.Destutter
import Mathlib.Data.List.Sort

/-!
# Sorting a list and removing repetitions

`std::list::unique` removes an element that is equal to the one before it, so it leaves a list without
repetitions when the list was sorted before.  What is left then is the set of the elements of the
list, in their order.
-/

namespace Foundation

section Unique

variable {α : Type*} [DecidableEq α]

/-- Removing what follows itself loses no element. -/
private theorem mem_destutter' {l : List α} {a b : α} :
    a ∈ l.destutter' (· ≠ ·) b ↔ a = b ∨ a ∈ l := by
  induction l generalizing b with
  | nil => simp
  | cons c l ih =>
    by_cases hne : b ≠ c
    · rw [List.destutter'_cons_pos _ hne, List.mem_cons, ih, List.mem_cons]
    · obtain rfl := not_not.mp hne
      rw [List.destutter'_cons_neg _ hne, ih, List.mem_cons]
      tauto

/-- `unique` loses no element. -/
theorem mem_destutter_ne {l : List α} {a : α} : a ∈ l.destutter (· ≠ ·) ↔ a ∈ l := by
  cases l with
  | nil => rfl
  | cons b l => rw [List.destutter_cons', mem_destutter', List.mem_cons]

end Unique

section Sorting

variable {α β : Type*} [DecidableEq α] [LinearOrder β] {key : α → β}

/-- `std::list::sort` and then `std::list::unique`, for elements that are ordered by a key. -/
def sortUnique (key : α → β) (l : List α) : List α :=
  (l.insertionSort fun a b => key a ≤ key b).destutter (· ≠ ·)

/-- The sort and `unique` lose no element. -/
theorem mem_sortUnique {l : List α} {a : α} : a ∈ sortUnique key l ↔ a ∈ l := by
  rw [sortUnique, mem_destutter_ne, List.mem_insertionSort]

/-- If the keys tell the elements apart, there are as many as the list has different elements. -/
theorem length_sortUnique (hkey : Function.Injective key) (l : List α) :
    (sortUnique key l).length = l.toFinset.card := by
  let r : α → α → Prop := fun a b => key a ≤ key b
  have : Std.Total r := ⟨fun a b => le_total (key a) (key b)⟩
  have : IsTrans α r := ⟨fun a b c => le_trans⟩
  have : Std.Antisymm r := ⟨fun a b hab hba => hkey (le_antisymm hab hba)⟩
  have hdedup : sortUnique key l = (l.insertionSort r).dedup :=
    (List.pairwise_insertionSort r l).destutter_eq_dedup
  rw [hdedup, List.card_toFinset]
  exact (List.perm_insertionSort r l).dedup.length_eq

end Sorting

end Foundation
