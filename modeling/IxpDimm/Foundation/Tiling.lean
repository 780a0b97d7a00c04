import Mathlib.Data.List.Basic
import Mathlib.Tactic.Common

/-!
# Chunks that tile a range

A chunk is the pair of its offset and its size.  Chunks tile the range from `a` to `b` when they are
not empty, the first starts at `a`, each of the others where the one before has ended, and the last
ends at `b`.  They are then disjoint, and cover exactly the range.
-/

namespace Foundation

/-- The chunks of a list tile the range from `a` to `b`. -/
def Tiles : ℕ → List (ℕ × ℕ) → ℕ → Prop
  | a, [], b => a = b
  | a, chunk :: chunks, b => chunk.1 = a ∧ 0 < chunk.2 ∧ Tiles (a + chunk.2) chunks b

variable {a b : ℕ} {chunks : List (ℕ × ℕ)}

/-- No chunk tiles an empty range. -/
theorem tiles_nil (a : ℕ) : Tiles a [] a := rfl

/-- A range that is tiled does not end before it starts. -/
theorem Tiles.le (h : Tiles a chunks b) : a ≤ b := by
  induction chunks generalizing a with
  | nil => exact Nat.le_of_eq h
  | cons chunk chunks ih =>
    obtain ⟨-, -, hrest⟩ := h
    exact Nat.le_trans (Nat.le_add_right a chunk.2) (ih hrest)

/-- The chunks are not empty. -/
theorem Tiles.pos (h : Tiles a chunks b) {chunk : ℕ × ℕ} (hmem : chunk ∈ chunks) :
    0 < chunk.2 := by
  induction chunks generalizing a with
  | nil => cases hmem
  | cons first chunks ih =>
    obtain ⟨-, hpos, hrest⟩ := h
    rcases List.mem_cons.mp hmem with rfl | hmem
    · exact hpos
    · exact ih hrest hmem

/-- A chunk is added at the end. -/
theorem Tiles.snoc (h : Tiles a chunks b) {n : ℕ} (hn : 0 < n) :
    Tiles a (chunks ++ [(b, n)]) (b + n) := by
  induction chunks generalizing a with
  | nil =>
    obtain rfl : a = b := h
    exact ⟨rfl, hn, rfl⟩
  | cons chunk chunks ih =>
    obtain ⟨hstart, hpos, hrest⟩ := h
    exact ⟨hstart, hpos, ih hrest⟩

/-- The chunks cover exactly the range. -/
theorem Tiles.mem_iff (h : Tiles a chunks b) (i : ℕ) :
    (∃ chunk ∈ chunks, chunk.1 ≤ i ∧ i < chunk.1 + chunk.2) ↔ a ≤ i ∧ i < b := by
  induction chunks generalizing a with
  | nil =>
    obtain rfl : a = b := h
    simp
  | cons chunk chunks ih =>
    obtain ⟨rfl, hpos, hrest⟩ := h
    have hle := hrest.le
    rw [List.exists_mem_cons_iff, ih hrest]
    omega

/-- The chunks do not overlap. -/
theorem Tiles.pairwise (h : Tiles a chunks b) :
    chunks.Pairwise fun c d => c.1 + c.2 ≤ d.1 := by
  induction chunks generalizing a with
  | nil => exact List.Pairwise.nil
  | cons chunk chunks ih =>
    obtain ⟨rfl, hpos, hrest⟩ := h
    refine List.Pairwise.cons (fun d hd => ?_) (ih hrest)
    -- a later chunk is part of the rest of the range
    have hpos' := hrest.pos hd
    have hcovered := (hrest.mem_iff d.1).mp ⟨d, hd, Nat.le_refl _, Nat.lt_add_of_pos_right hpos'⟩
    exact hcovered.1

end Foundation
