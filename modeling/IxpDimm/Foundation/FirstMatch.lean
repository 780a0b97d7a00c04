import Mathlib.Data.Finset.Max

/-!
# First matches in a list

Elements of a list can be looked up by one key or by another, and a lookup takes the first element
that matches.  If the elements of a set are what a lookup by the first key finds, and looking them up
by the second key yields elements with the same first keys as a whole, then it does so one by one
(`key_eq_of_surjective`): a lookup can only move towards the front of the list.

An update that leaves what a lookup compares changes what this lookup finds and nothing else
(`find?_modifyFirst`).
-/

namespace Foundation

variable {α β γ : Type*} [DecidableEq β] [DecidableEq γ]

/-- The first element of a list with a key. -/
def firstMatch (key : α → β) (l : List α) (b : β) : Option α := l.find? fun a => key a = b

/-- The place of the first element with a key. -/
private def place (key : α → β) (l : List α) (b : β) : ℕ := l.findIdx fun a => key a = b

/-- An element with a key is not before the first one. -/
private theorem place_le (key : α → β) {l : List α} {i : ℕ} (hi : i < l.length) :
    place key l (key l[i]) ≤ i := by
  by_contra hlt
  have hnot := List.not_of_lt_findIdx (p := fun a => decide (key a = key l[i])) (Nat.not_le.mp hlt)
  simp at hnot

/-- The first element with a key is at its place. -/
private theorem getElem_place {key : α → β} {l : List α} {b : β} {a : α}
    (h : firstMatch key l b = some a) : l[place key l b]? = some a := by
  rw [firstMatch, List.find?_eq_some_iff_getElem] at h
  obtain ⟨hkey, i, hi, rfl, hfirst⟩ := h
  have hplace : place key l b = i := by
    refine (List.findIdx_eq hi).mpr ⟨hkey, fun j hj => ?_⟩
    simpa using hfirst j hj
  rw [hplace, List.getElem?_eq_getElem hi]

/-- Looking elements up by a second key yields elements with the same first keys, one by one, if it
does so as a whole. -/
theorem key_eq_of_surjective {key : α → β} {key' : α → γ} {l : List α} {members : Finset α}
    {back : α → α} (hmembers : ∀ a ∈ members, firstMatch key l (key a) = some a)
    (hback : ∀ a ∈ members, firstMatch key' l (key' a) = some (back a))
    (hsurj : ∀ a ∈ members, ∃ a' ∈ members, key (back a') = key a) :
    ∀ a ∈ members, key (back a) = key a := by
  classical
  -- what is found by the second key is not behind the element itself
  have hle : ∀ a ∈ members, place key l (key (back a)) ≤ place key l (key a) := by
    intro a ha
    have hplace := getElem_place (hmembers a ha)
    have hplace' := getElem_place (hback a ha)
    obtain ⟨hlt, hval⟩ := List.getElem?_eq_some_iff.mp hplace
    obtain ⟨hlt', hval'⟩ := List.getElem?_eq_some_iff.mp hplace'
    have hfirst := place_le key' hlt
    rw [hval] at hfirst
    have hsecond := place_le key hlt'
    rw [hval'] at hsecond
    exact hsecond.trans hfirst
  have hinj : ∀ a ∈ members, ∀ a' ∈ members,
      place key l (key a) = place key l (key a') → a = a' := by
    intro a ha a' ha' hplace
    have h := getElem_place (hmembers a ha)
    rw [hplace, getElem_place (hmembers a' ha')] at h
    exact (Option.some.inj h).symm
  by_contra hnot
  -- the last element that is moved is itself what some element is moved to
  obtain ⟨a₀, ha₀⟩ : ∃ a, a ∈ members.filter fun a => key (back a) ≠ key a := by
    simpa using hnot
  obtain ⟨a, ha, hmax⟩ := Finset.exists_max_image (members.filter fun a => key (back a) ≠ key a)
    (fun a => place key l (key a)) ⟨a₀, ha₀⟩
  obtain ⟨hmem, hmoved⟩ := Finset.mem_filter.mp ha
  obtain ⟨a', hmem', heq⟩ := hsurj a hmem
  have hlast := hle a' hmem'
  rw [heq] at hlast
  by_cases hfixed : key (back a') = key a'
  · have hsame := hinj a hmem a' hmem' (by rw [← heq, hfixed])
    exact hmoved (hsame ▸ hfixed)
  · have hsame := hinj a hmem a' hmem'
      (Nat.le_antisymm hlast (hmax a' (Finset.mem_filter.mpr ⟨hmem', hfixed⟩)))
    exact hmoved (hsame ▸ heq)

/-! ### Updating the first match -/

/-- The first element that matches is replaced. -/
def modifyFirst (p : α → Bool) (f : α → α) : List α → List α
  | [] => []
  | a :: l => if p a then f a :: l else a :: modifyFirst p f l

/-- The list keeps its length. -/
theorem length_modifyFirst (p : α → Bool) (f : α → α) (l : List α) :
    (modifyFirst p f l).length = l.length := by
  induction l with
  | nil => rfl
  | cons a l ih =>
    rw [modifyFirst]
    split_ifs
    · rfl
    · rw [List.length_cons, ih, List.length_cons]

/-- If no two elements match, the elements that match are replaced. -/
theorem modifyFirst_eq_map {p : α → Bool} {f : α → α} {l : List α}
    (h : l.Pairwise fun a b => ¬ (p a = true ∧ p b = true)) :
    modifyFirst p f l = l.map fun a => if p a then f a else a := by
  induction l with
  | nil => rfl
  | cons a l ih =>
    obtain ⟨hfirst, hrest⟩ := List.pairwise_cons.mp h
    rw [modifyFirst, List.map_cons]
    split_ifs with hp
    · congr 1
      refine (List.map_id l).symm.trans (List.map_congr_left fun b hb => ?_)
      rw [if_neg fun hpb => hfirst b hb ⟨hp, hpb⟩, id]
    · rw [ih hrest]

/-- What is found afterwards is what was found before, replaced. -/
theorem find?_modifyFirst {p : α → Bool} {f : α → α} (hf : ∀ a, p a = true → p (f a) = true)
    (l : List α) : (modifyFirst p f l).find? p = (l.find? p).map f := by
  induction l with
  | nil => rfl
  | cons a l ih =>
    rw [modifyFirst]
    split_ifs with h
    · rw [List.find?_cons_of_pos (hf a h), List.find?_cons_of_pos h, Option.map_some]
    · rw [List.find?_cons_of_neg h, List.find?_cons_of_neg h, ih]

end Foundation
