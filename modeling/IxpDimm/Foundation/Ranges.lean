import Mathlib.Data.List.Sort

/-!
# Ranges that do not overlap

A range is the pair of its start and its end.  Ranges of a space can be checked for overlaps by going
through them in the order of their starts: each has to start where the one before has ended, and the
last has to end within the space.  `chained_inOrder_iff` says what that check decides.
-/

namespace Foundation

/-- Going through ranges one after the other: each starts at or after the end of the one before, the
first at or after `start`, and the last ends at or before `limit`. -/
def chained (limit : ℕ) : ℕ → List (ℕ × ℕ) → Bool
  | start, [] => decide (start ≤ limit)
  | start, range :: ranges => decide (start ≤ range.1) && chained limit range.2 ranges

/-- The ranges in the order of their starts. -/
def inOrder (ranges : List (ℕ × ℕ)) : List (ℕ × ℕ) := ranges.insertionSort fun r s => r.1 ≤ s.1

/-- One of the ranges ends before the other starts. -/
def DisjointRanges (r s : ℕ × ℕ) : Prop := r.2 ≤ s.1 ∨ s.2 ≤ r.1

/-- Going through ranges that are not empty succeeds exactly when all of them are within the limits
and each ends before every later one starts. -/
private theorem chained_iff {limit start : ℕ} {ranges : List (ℕ × ℕ)}
    (hne : ∀ r ∈ ranges, r.1 < r.2) :
    chained limit start ranges = true ↔ start ≤ limit ∧
      (∀ r ∈ ranges, start ≤ r.1 ∧ r.2 ≤ limit) ∧ ranges.Pairwise fun r s => r.2 ≤ s.1 := by
  induction ranges generalizing start with
  | nil => simp [chained]
  | cons range ranges ih =>
    have hrange := hne range List.mem_cons_self
    rw [chained, Bool.and_eq_true, decide_eq_true_iff,
      ih fun r hr => hne r (List.mem_cons_of_mem _ hr), List.pairwise_cons]
    constructor
    · rintro ⟨hstart, hlimit, hrest, hpair⟩
      refine ⟨by omega, ?_, fun r hr => (hrest r hr).1, hpair⟩
      intro r hr
      rcases List.mem_cons.mp hr with rfl | hr
      · exact ⟨hstart, hlimit⟩
      · have := hrest r hr
        omega
    · rintro ⟨-, hall, hfirst, hpair⟩
      have := hall range List.mem_cons_self
      exact ⟨this.1, this.2, fun r hr => ⟨hfirst r hr, (hall r (List.mem_cons_of_mem _ hr)).2⟩,
        hpair⟩

/-- Of two ranges that are not empty, the one that starts first has to end first. -/
private theorem disjointRanges_iff_of_le {r s : ℕ × ℕ} (hs : s.1 < s.2) (h : r.1 ≤ s.1) :
    DisjointRanges r s ↔ r.2 ≤ s.1 := by
  unfold DisjointRanges
  omega

/-- Being disjoint is symmetric. -/
theorem DisjointRanges.symm {r s : ℕ × ℕ} (h : DisjointRanges r s) : DisjointRanges s r := Or.symm h

/-- The check of ranges that are not empty succeeds exactly when all of them are within the limits
and no two of them overlap. -/
theorem chained_inOrder_iff {limit start : ℕ} {ranges : List (ℕ × ℕ)}
    (hne : ∀ r ∈ ranges, r.1 < r.2) :
    chained limit start (inOrder ranges) = true ↔ start ≤ limit ∧
      (∀ r ∈ ranges, start ≤ r.1 ∧ r.2 ≤ limit) ∧ ranges.Pairwise DisjointRanges := by
  have hperm : (inOrder ranges).Perm ranges := List.perm_insertionSort _ _
  have hsorted : (inOrder ranges).Pairwise fun r s => r.1 ≤ s.1 :=
    haveI : Std.Total fun r s : ℕ × ℕ => r.1 ≤ s.1 := ⟨fun r s => le_total r.1 s.1⟩
    haveI : IsTrans (ℕ × ℕ) fun r s => r.1 ≤ s.1 := ⟨fun _ _ _ => le_trans⟩
    List.pairwise_insertionSort _ _
  have hne' : ∀ r ∈ inOrder ranges, r.1 < r.2 := fun r hr => hne r (hperm.mem_iff.mp hr)
  have hpair : ((inOrder ranges).Pairwise fun r s => r.2 ≤ s.1) ↔
      ranges.Pairwise DisjointRanges := by
    rw [← hperm.pairwise_iff DisjointRanges.symm]
    constructor
    · exact fun h => h.imp Or.inl
    · intro h
      refine (hsorted.and h).imp_of_mem fun {r s} _ hs hrs => ?_
      exact (disjointRanges_iff_of_le (hne' s hs) hrs.1).mp hrs.2
  rw [chained_iff hne', hpair]
  simp only [hperm.mem_iff]

end Foundation
