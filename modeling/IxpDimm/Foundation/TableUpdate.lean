import Mathlib.Data.List.Nodup
import Mathlib.Logic.Function.Basic
import Mathlib.Logic.Function.Iterate
import Mathlib.Tactic.Common

/-!
# Updating a table along a list of keys, and grouping a list by a key

`updateAll key h l g` walks the list `l` and replaces, at the key of each element `a`, the entry
`v` by `h a v`.  When the keys of the list are pairwise distinct every entry is replaced at most
once, so the result is given entry by entry; the other entries are those of `g`.

`groupByKey key l` is the ordered map from keys to the elements with that key, in list order, that
repeated `map[key].push_back(element)` builds.
-/

namespace Foundation

variable {α κ ν : Type*} [DecidableEq κ]

/-- Replace the entries of the table `g` at the keys of `l`, one after the other. -/
def updateAll (key : α → κ) (h : α → ν → ν) (l : List α) (g : κ → ν) : κ → ν :=
  l.foldl (fun g a => Function.update g (key a) (h a (g (key a)))) g

section UpdateAll

variable {key : α → κ} {h : α → ν → ν}

@[simp] theorem updateAll_nil (g : κ → ν) : updateAll key h [] g = g := rfl

@[simp] theorem updateAll_cons (a : α) (l : List α) (g : κ → ν) :
    updateAll key h (a :: l) g =
      updateAll key h l (Function.update g (key a) (h a (g (key a)))) := rfl

/-- An entry whose key does not occur in the list is left alone. -/
theorem updateAll_apply_of_notMem {l : List α} {k : κ} (hk : k ∉ l.map key) (g : κ → ν) :
    updateAll key h l g k = g k := by
  induction l generalizing g with
  | nil => rfl
  | cons a l ih =>
    rw [List.map_cons, List.mem_cons, not_or] at hk
    rw [updateAll_cons, ih hk.2, Function.update_of_ne hk.1]

/-- With distinct keys, the entry of an element is replaced once, from its original value. -/
theorem updateAll_apply_of_mem {l : List α} (hnd : (l.map key).Nodup) {a : α} (ha : a ∈ l)
    (g : κ → ν) : updateAll key h l g (key a) = h a (g (key a)) := by
  induction l generalizing g with
  | nil => simp at ha
  | cons b l ih =>
    rw [List.map_cons, List.nodup_cons] at hnd
    rw [updateAll_cons]
    rcases List.mem_cons.mp ha with rfl | ha
    · rw [updateAll_apply_of_notMem hnd.1, Function.update_self]
    · have hne : key a ≠ key b := fun heq => hnd.1 (heq ▸ List.mem_map_of_mem ha)
      rw [ih hnd.2 ha, Function.update_of_ne hne]

/-- A property of entries that every replacement keeps holds of all entries afterwards. -/
theorem updateAll_forall {P : κ → ν → Prop} {l : List α}
    (hP : ∀ a ∈ l, ∀ v, P (key a) v → P (key a) (h a v)) {g : κ → ν} (hg : ∀ k, P k (g k)) (k : κ) :
    P k (updateAll key h l g k) := by
  induction l generalizing g with
  | nil => exact hg k
  | cons a l ih =>
    rw [updateAll_cons]
    refine ih (fun b hb => hP b (List.mem_cons_of_mem a hb)) fun j => ?_
    by_cases hj : j = key a
    · subst hj
      rw [Function.update_self]
      exact hP a List.mem_cons_self _ (hg _)
    · rw [Function.update_of_ne hj]
      exact hg j

/-- An update that does not depend on the element is applied as often as the key occurs. -/
theorem updateAll_const_apply [BEq κ] [LawfulBEq κ] (f : ν → ν) (l : List α) (g : κ → ν) (k : κ) :
    updateAll key (fun _ => f) l g k = f^[(l.map key).count k] (g k) := by
  induction l generalizing g with
  | nil => rfl
  | cons a l ih =>
    rw [updateAll_cons, ih, List.map_cons]
    by_cases hk : key a = k
    · subst hk
      rw [Function.update_self, List.count_cons_self, Function.iterate_succ_apply]
    · rw [Function.update_of_ne (Ne.symm hk), List.count_cons_of_ne hk]

end UpdateAll

/-! ### Grouping by a key -/

section Group

variable [LT κ] [DecidableLT κ]

/-- `map[key].push_back(v)` on a map given by its entries in key order. -/
def pushBack (key : κ) (v : ν) : List (κ × List ν) → List (κ × List ν)
  | [] => [(key, [v])]
  | (k, vs) :: rest =>
    if key = k then (k, vs ++ [v]) :: rest
    else if key < k then (key, [v]) :: (k, vs) :: rest
    else (k, vs) :: pushBack key v rest

/-- The elements of a list grouped by their key, the groups in key order. -/
def groupByKey (key : α → κ) (l : List α) : List (κ × List α) :=
  l.foldl (fun m a => pushBack (key a) a m) []

/-- Appending an element to its group adds it, once, to the elements of the map. -/
theorem perm_flatMap_pushBack (key : κ) (v : ν) (m : List (κ × List ν)) :
    ((pushBack key v m).flatMap Prod.snd).Perm (v :: m.flatMap Prod.snd) := by
  induction m with
  | nil => simp [pushBack]
  | cons e m ih =>
    obtain ⟨k, vs⟩ := e
    unfold pushBack
    split_ifs
    · simp only [List.flatMap_cons, List.append_assoc, List.singleton_append]
      exact List.perm_middle
    · simp
    · simp only [List.flatMap_cons]
      exact (ih.append_left vs).trans List.perm_middle

/-- The groups hold every element of the list exactly once. -/
theorem perm_flatMap_groupByKey (key : α → κ) (l : List α) :
    ((groupByKey key l).flatMap Prod.snd).Perm l := by
  have hfold : ∀ (l : List α) (m : List (κ × List α)),
      ((l.foldl (fun m a => pushBack (key a) a m) m).flatMap Prod.snd).Perm
        (m.flatMap Prod.snd ++ l) := by
    intro l
    induction l with
    | nil => intro m; simp
    | cons a l ih =>
      intro m
      rw [List.foldl_cons]
      refine (ih _).trans ?_
      refine ((perm_flatMap_pushBack (key a) a m).append_right l).trans ?_
      simp only [List.cons_append]
      exact List.perm_middle.symm
  simpa [groupByKey] using hfold l []

/-- The elements of a group belong to the list. -/
theorem mem_of_mem_groupByKey {key : α → κ} {l : List α} {e : κ × List α}
    (he : e ∈ groupByKey key l) {a : α} (ha : a ∈ e.2) : a ∈ l :=
  (perm_flatMap_groupByKey key l).mem_iff.mp (List.mem_flatMap.mpr ⟨e, he, ha⟩)

/-- Appending an element under its own key keeps every element under its key. -/
private theorem keyed_pushBack {key : α → κ} {a : α} {m : List (κ × List α)}
    (hm : ∀ e ∈ m, ∀ b ∈ e.2, key b = e.1) :
    ∀ e ∈ pushBack (key a) a m, ∀ b ∈ e.2, key b = e.1 := by
  have hnew : ∀ b ∈ [a], key b = key a := fun b hb => congrArg key (List.mem_singleton.mp hb)
  induction m with
  | nil => exact List.forall_mem_singleton.mpr hnew
  | cons e m ih =>
    obtain ⟨k, vs⟩ := e
    rw [List.forall_mem_cons] at hm
    unfold pushBack
    split_ifs with hkey
    · refine List.forall_mem_cons.mpr ⟨fun b hb => ?_, hm.2⟩
      rcases List.mem_append.mp hb with hb | hb
      · exact hm.1 b hb
      · exact (hnew b hb).trans hkey
    · exact List.forall_mem_cons.mpr ⟨hnew, List.forall_mem_cons.mpr hm⟩
    · exact List.forall_mem_cons.mpr ⟨hm.1, ih hm.2⟩

/-- The elements of a group have its key. -/
theorem key_of_mem_groupByKey {key : α → κ} {l : List α} {e : κ × List α}
    (he : e ∈ groupByKey key l) {a : α} (ha : a ∈ e.2) : key a = e.1 := by
  have hfold : ∀ (l : List α) (m : List (κ × List α)), (∀ e ∈ m, ∀ b ∈ e.2, key b = e.1) →
      ∀ e ∈ l.foldl (fun m a => pushBack (key a) a m) m, ∀ b ∈ e.2, key b = e.1 := by
    intro l
    induction l with
    | nil => exact fun _ hm => hm
    | cons a l ih => exact fun m hm => ih _ (keyed_pushBack hm)
  exact hfold l [] (List.forall_mem_nil _) e he a ha

/-- The keys after an element has been appended: its own and those of before. -/
private theorem mem_keys_pushBack {key : κ} {v : ν} {m : List (κ × List ν)} {k : κ}
    (h : k ∈ (pushBack key v m).map Prod.fst) : k = key ∨ k ∈ m.map Prod.fst := by
  induction m with
  | nil => exact .inl (by simpa [pushBack] using h)
  | cons e m ih =>
    obtain ⟨k', vs⟩ := e
    unfold pushBack at h
    split_ifs at h
    · exact .inr h
    · rcases List.mem_cons.mp h with h | h
      · exact .inl h
      · exact .inr h
    · rcases List.mem_cons.mp h with h | h
      · exact .inr (List.mem_cons.mpr (.inl h))
      · rcases ih h with h | h
        · exact .inl h
        · exact .inr (List.mem_cons_of_mem _ h)

end Group

/-! ### Looking a group up -/

section Lookup

variable [LT κ] [DecidableLT κ] [LE κ] [Std.IsLinearOrder κ] [Std.LawfulOrderLT κ]

/-- The keys of the entries are in increasing order. -/
def KeysAscend (m : List (κ × List ν)) : Prop := (m.map Prod.fst).Pairwise (· < ·)

/-- Appending an element keeps the keys in order. -/
theorem KeysAscend.pushBack {m : List (κ × List ν)} (h : KeysAscend m) (key : κ) (v : ν) :
    KeysAscend (pushBack key v m) := by
  induction m with
  | nil => exact List.pairwise_singleton _ _
  | cons e m ih =>
    obtain ⟨k, vs⟩ := e
    unfold KeysAscend at h ih ⊢
    rw [List.map_cons, List.pairwise_cons] at h
    unfold Foundation.pushBack
    split_ifs with heq hlt
    · exact List.pairwise_cons.mpr h
    · refine List.pairwise_cons.mpr ⟨fun j hj => ?_, List.pairwise_cons.mpr h⟩
      rcases List.mem_cons.mp hj with rfl | hj
      · exact hlt
      · exact Std.lt_trans hlt (h.1 j hj)
    · have hgt : k < key := by
        rcases Std.lt_trichotomy key k with h | h | h
        · exact absurd h hlt
        · exact absurd h heq
        · exact h
      refine List.pairwise_cons.mpr ⟨fun j hj => ?_, ih h.2⟩
      rcases mem_keys_pushBack hj with rfl | hj
      · exact hgt
      · exact h.1 j hj

/-- The group of a key, empty when there is none. -/
def groupAt (k : κ) (m : List (κ × List ν)) : List ν :=
  ((m.find? fun entry => entry.1 == k).map Prod.snd).getD []

/-- Appending an element makes its group longer and leaves the others. -/
theorem groupAt_pushBack {m : List (κ × List ν)} (h : KeysAscend m) (key : κ) (v : ν) (k : κ) :
    groupAt k (pushBack key v m) = if key = k then groupAt k m ++ [v] else groupAt k m := by
  induction m with
  | nil =>
    by_cases hk : key = k
    · simp [groupAt, pushBack, hk]
    · simp [groupAt, pushBack, hk]
  | cons e m ih =>
    obtain ⟨j, vs⟩ := e
    unfold KeysAscend at h ih
    rw [List.map_cons, List.pairwise_cons] at h
    unfold pushBack
    split_ifs with heq hk hlt hk hk
    · subst heq hk
      simp [groupAt]
    · subst heq
      simp [groupAt, hk]
    · -- The key is below all of the map, so it has no group in it yet.
      subst hk
      have hnone : m.find? (fun entry => entry.1 == key) = none := by
        refine List.find?_eq_none.mpr fun entry hentry heq' => ?_
        have hj := h.1 entry.1 (List.mem_map_of_mem hentry)
        rw [beq_iff_eq.mp heq'] at hj
        exact Std.lt_irrefl (Std.lt_trans hlt hj)
      simp [groupAt, Ne.symm heq, hnone]
    · simp [groupAt, hk]
    · have := ih h.2
      rw [if_pos hk] at this
      unfold groupAt at this ⊢
      subst hk
      simpa [List.find?_cons, Ne.symm heq] using this
    · have := ih h.2
      rw [if_neg hk] at this
      unfold groupAt at this ⊢
      by_cases hjk : j = k
      · simp [hjk]
      · simpa [List.find?_cons, hjk] using this

/-- The map that appending the elements of a list builds: its keys are in order and the group of a
key has the elements with that key. -/
theorem groupAt_foldl_pushBack (key : α → κ) (value : α → ν) (l : List α) :
    KeysAscend (l.foldl (fun m a => pushBack (key a) (value a) m) []) ∧
      ∀ k, groupAt k (l.foldl (fun m a => pushBack (key a) (value a) m) []) =
        (l.filter fun a => key a = k).map value := by
  have hfold : ∀ (l : List α) (m : List (κ × List ν)), KeysAscend m →
      KeysAscend (l.foldl (fun m a => pushBack (key a) (value a) m) m) ∧
        ∀ k, groupAt k (l.foldl (fun m a => pushBack (key a) (value a) m) m) =
          groupAt k m ++ (l.filter fun a => key a = k).map value := by
    intro l
    induction l with
    | nil => exact fun m hm => ⟨hm, fun k => by simp⟩
    | cons a l ih =>
      intro m hm
      obtain ⟨hsorted, hgroup⟩ := ih _ (hm.pushBack (key a) (value a))
      refine ⟨hsorted, fun k => ?_⟩
      rw [List.foldl_cons, hgroup, groupAt_pushBack hm, List.filter_cons]
      by_cases hk : key a = k
      · simp [hk]
      · simp [hk]
  obtain ⟨hsorted, hgroup⟩ := hfold l [] List.Pairwise.nil
  refine ⟨hsorted, fun k => ?_⟩
  rw [hgroup]
  rfl

end Lookup

end Foundation
