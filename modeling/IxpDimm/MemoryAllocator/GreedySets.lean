import IxpDimm.MemoryAllocator.StepAppDirect

/-!
# The greedy cover of a socket

The sets that the loop over a socket takes from its DIMMs do not depend on the capacities: each is
the largest one that can be interleaved among the DIMMs that remain, and its members are removed.
The sets of a cover are disjoint, and each of them occupies the positions of one of the interleave
sets.
-/

namespace IxpDimm

open Foundation

namespace InterleaveableDimmSetBuilder

/-! ### The positions of a set -/

/-- The DIMMs occupy the positions of an interleave set, one DIMM at each. -/
structure Occupies (dimms : List Dimm) (interleaveSetMap : ℕ) : Prop where
  /-- No two DIMMs share a position. -/
  nodup : (dimms.map dimmLocation).Nodup
  /-- Their positions are those of the map. -/
  positions : ∀ i, i ∈ dimms.map dimmLocation ↔ dimmPopulated interleaveSetMap i = true

/-- Clearing a position leaves the others. -/
private theorem testBit_clearDimm {map i j : ℕ} :
    (clearDimm map i).testBit j = true ↔ map.testBit j = true ∧ j ≠ i := by
  rw [clearDimm, Nat.testBit_xor, Nat.testBit_and, Nat.testBit_two_pow]
  by_cases hij : i = j
  · subst hij
    simp
  · simp [hij, Ne.symm hij]

/-- What is left after the positions of some DIMMs are cleared. -/
private theorem testBit_foldl_clearDimm {dimms : List Dimm} {map j : ℕ} :
    (dimms.foldl (fun map dimm => clearDimm map (dimmLocation dimm)) map).testBit j = true ↔
      map.testBit j = true ∧ j ∉ dimms.map dimmLocation := by
  induction dimms generalizing map with
  | nil => simp
  | cons d dimms ih =>
    rw [List.foldl_cons, ih, testBit_clearDimm, List.map_cons, List.mem_cons, not_or, and_assoc]

/-- DIMMs at distinct positions that match an interleave set occupy it. -/
private theorem occupies_of_matching {dimms : List Dimm} {map : ℕ}
    (hnd : (dimms.map dimmLocation).Nodup)
    (h : getDimmsFromListMatchingInterleaveSet dimms map ≠ []) :
    Occupies (getDimmsFromListMatchingInterleaveSet dimms map) map := by
  have hsub := getDimmsFromListMatchingInterleaveSet_sublist dimms map
  refine ⟨hnd.sublist (hsub.map _), fun i => ?_⟩
  unfold getDimmsFromListMatchingInterleaveSet at h ⊢
  dsimp only at h ⊢
  split_ifs at h ⊢ with hnone
  · exact absurd rfl h
  rw [not_not] at hnone
  constructor
  · intro hi
    obtain ⟨d, hd, rfl⟩ := List.mem_map.mp hi
    exact (List.mem_filter.mp hd).2
  · intro hbit
    -- the position would not have been cleared
    by_contra hi
    have hleft := testBit_foldl_clearDimm.mpr ⟨hbit, hi⟩
    rw [hnone, Nat.zero_testBit] at hleft
    exact absurd hleft Bool.false_ne_true

/-- A set that is found among DIMMs at distinct positions occupies an interleave set. -/
theorem getLargestSetOfInterleavableDimms_occupies {dimms set : List Dimm}
    (hnd : (dimms.map dimmLocation).Nodup)
    (h : getLargestSetOfInterleavableDimms dimms = .ok set) (hset : set ≠ []) :
    ∃ map ∈ interleaveSets, Occupies set map := by
  unfold getLargestSetOfInterleavableDimms at h
  split_ifs at h
  obtain rfl := Except.ok.inj h
  cases hfind : (interleaveSets.map (getDimmsFromListMatchingInterleaveSet dimms)).find?
      fun set => !set.isEmpty with
  | none => exact absurd (congrArg (fun found => found.getD []) hfind) hset
  | some found =>
    obtain ⟨map, hmap, rfl⟩ := List.mem_map.mp (List.mem_of_find?_eq_some hfind)
    rw [hfind] at hset
    exact ⟨map, hmap, occupies_of_matching hnd hset⟩

end InterleaveableDimmSetBuilder

namespace LayoutStepAppDirect

open InterleaveableDimmSetBuilder

/-! ### The cover -/

/-- The sets that the loop over a socket takes one after the other from the DIMMs that remain.  An
empty set at the end stands for none that is found. -/
def greedySets (remaining : List Dimm) : List (List Dimm) :=
  if remaining = [] then []
  else
    match _h : getLargestSetOfInterleavableDimms remaining with
    | .error _ => [[]]
    | .ok set =>
      if _hset : set = [] then [[]]
      else set :: greedySets (removeDimmsFromList set remaining)
termination_by remaining.length
decreasing_by
  exact length_removeDimmsFromList_lt _hset (getLargestSetOfInterleavableDimms_sublist _h).subset

section
variable {remaining : List Dimm}

/-- When no DIMM remains the cover is complete. -/
theorem greedySets_nil : greedySets [] = [] := by
  rw [greedySets, if_pos rfl]

/-- When no set is found the cover stops. -/
theorem greedySets_of_not_found (hne : remaining ≠ [])
    (h : ∀ set, getLargestSetOfInterleavableDimms remaining = .ok set → set = []) :
    greedySets remaining = [[]] := by
  rw [greedySets, if_neg hne]
  split
  · rfl
  · rename_i set hfound
    rw [dif_pos (h set hfound)]

/-- A set that is found is removed from the DIMMs that remain. -/
theorem greedySets_of_found {set : List Dimm}
    (h : getLargestSetOfInterleavableDimms remaining = .ok set) (hset : set ≠ []) :
    greedySets remaining = set :: greedySets (removeDimmsFromList set remaining) := by
  have hne : remaining ≠ [] := by
    rintro rfl
    exact hset (List.sublist_nil.mp (getLargestSetOfInterleavableDimms_sublist h))
  rw [greedySets, if_neg hne]
  split
  · rename_i hfound
    rw [h] at hfound
    cases hfound
  · rename_i found hfound
    obtain rfl := Except.ok.inj (h.symm.trans hfound)
    rw [dif_neg hset]

/-- The rule for a cover: a statement about the DIMMs that remain and their cover. -/
theorem greedySets_rule {P : List Dimm → List (List Dimm) → Prop} (hnil : P [] [])
    (hnone : ∀ remaining, remaining ≠ [] →
      (∀ set, getLargestSetOfInterleavableDimms remaining = .ok set → set = []) →
      P remaining [[]])
    (hset : ∀ remaining set, getLargestSetOfInterleavableDimms remaining = .ok set → set ≠ [] →
      P (removeDimmsFromList set remaining) (greedySets (removeDimmsFromList set remaining)) →
      P remaining (set :: greedySets (removeDimmsFromList set remaining)))
    (remaining : List Dimm) : P remaining (greedySets remaining) := by
  induction hlength : remaining.length using Nat.strong_induction_on generalizing remaining with
  | _ n ih =>
    subst hlength
    by_cases hne : remaining = []
    · rw [hne, greedySets_nil]
      exact hnil
    · by_cases hfound : ∃ set, getLargestSetOfInterleavableDimms remaining = .ok set ∧ set ≠ []
      · obtain ⟨set, hfound, hset'⟩ := hfound
        rw [greedySets_of_found hfound hset']
        refine hset remaining set hfound hset' (ih _ ?_ _ rfl)
        exact length_removeDimmsFromList_lt hset'
          (getLargestSetOfInterleavableDimms_sublist hfound).subset
      · have hnotfound : ∀ set, getLargestSetOfInterleavableDimms remaining = .ok set → set = [] := by
          intro set h
          by_contra hset'
          exact hfound ⟨set, h, hset'⟩
        rw [greedySets_of_not_found hne hnotfound]
        exact hnone remaining hne hnotfound

/-- The sets of a cover are taken from the DIMMs that remain. -/
theorem sublist_of_mem_greedySets (remaining : List Dimm) :
    ∀ set ∈ greedySets remaining, set.Sublist remaining := by
  refine greedySets_rule (P := fun remaining sets => ∀ set ∈ sets, set.Sublist remaining)
    ?_ ?_ ?_ remaining
  · intro set hset
    cases hset
  · intro remaining _ _ set hset
    rw [List.mem_singleton.mp hset]
    exact List.nil_sublist _
  · intro remaining set hfound _ ih other hother
    rcases List.mem_cons.mp hother with rfl | hother
    · exact getLargestSetOfInterleavableDimms_sublist hfound
    · exact (ih other hother).trans (removeDimmsFromList_sublist set remaining)

/-- The sets of a cover have no DIMM in common. -/
theorem pairwise_disjoint_greedySets (hnd : (remaining.map Dimm.uid).Nodup) :
    (greedySets remaining).Pairwise fun set other =>
      List.Disjoint (set.map Dimm.uid) (other.map Dimm.uid) := by
  revert hnd
  refine greedySets_rule (P := fun remaining sets => (remaining.map Dimm.uid).Nodup →
    sets.Pairwise fun set other => List.Disjoint (set.map Dimm.uid) (other.map Dimm.uid))
    ?_ ?_ ?_ remaining
  · exact fun _ => List.Pairwise.nil
  · exact fun _ _ _ _ => List.pairwise_singleton _ _
  · intro remaining set _ _ ih hnd
    have hsub := removeDimmsFromList_sublist set remaining
    rw [List.pairwise_cons]
    refine ⟨fun other hother uid huid huid' => ?_, ih (hnd.sublist (hsub.map _))⟩
    obtain ⟨d, hd, rfl⟩ := List.mem_map.mp huid'
    have hleft := (sublist_of_mem_greedySets _ other hother).subset hd
    exact uid_notMem_of_mem_removeDimmsFromList hnd hleft huid

/-- At distinct positions every set of a cover that has a member occupies an interleave set. -/
theorem occupies_of_mem_greedySets (hnd : (remaining.map dimmLocation).Nodup) :
    ∀ set ∈ greedySets remaining, set ≠ [] → ∃ map ∈ interleaveSets, Occupies set map := by
  revert hnd
  refine greedySets_rule (P := fun remaining sets => (remaining.map dimmLocation).Nodup →
    ∀ set ∈ sets, set ≠ [] → ∃ map ∈ interleaveSets, Occupies set map) ?_ ?_ ?_ remaining
  · intro _ set hset
    cases hset
  · intro remaining _ _ _ set hset hne
    exact absurd (List.mem_singleton.mp hset) hne
  · intro remaining set hfound hset ih hnd other hother hne
    rcases List.mem_cons.mp hother with rfl | hother
    · exact getLargestSetOfInterleavableDimms_occupies hnd hfound hset
    · exact ih (hnd.sublist ((removeDimmsFromList_sublist set remaining).map _)) other hother hne

end

end LayoutStepAppDirect

end IxpDimm
