import Mathlib.Algebra.BigOperators.Group.List.Basic
import Mathlib.Tactic.Common

/-!
# Programs that count and keep a log

`Tally ε α` is the type of programs that return a value, raise a counter and append entries to a log.
Counting and logging are separate operations, so that a program which is to count certain entries of
its log can fail to: `Counts p Q x` says that the program `x` has counted exactly its entries with `p`,
and that all its entries have `Q`.  The counter can be read by `listen`, which gives what a part of
the program has counted.
-/

namespace Foundation

/-- A value with what was counted and logged on the way. -/
structure Tally (ε α : Type) where
  /-- The value that is returned. -/
  value : α
  /-- The number of times the counter was raised. -/
  count : ℕ
  /-- The entries in the order in which they were appended. -/
  log : List ε

namespace Tally

variable {ε α β : Type}

instance : Monad (Tally ε) where
  pure a := ⟨a, 0, []⟩
  bind x f := ⟨(f x.value).value, x.count + (f x.value).count, x.log ++ (f x.value).log⟩

/-- An entry is appended to the log. -/
def note (e : ε) : Tally ε Unit := ⟨(), 0, [e]⟩

/-- The counter is raised. -/
def tick : Tally ε Unit := ⟨(), 1, []⟩

/-- A program with what it has counted. -/
def listen (x : Tally ε α) : Tally ε (α × ℕ) := ⟨(x.value, x.count), x.count, x.log⟩

/-! ### What programs return, count and log -/

section Parts

variable (a : α) (x : Tally ε α) (f : α → Tally ε β) (e : ε)

@[simp] theorem value_pure : (pure a : Tally ε α).value = a := rfl
@[simp] theorem count_pure : (pure a : Tally ε α).count = 0 := rfl
@[simp] theorem log_pure : (pure a : Tally ε α).log = [] := rfl

@[simp] theorem value_bind : (x >>= f).value = (f x.value).value := rfl
@[simp] theorem count_bind : (x >>= f).count = x.count + (f x.value).count := rfl
@[simp] theorem log_bind : (x >>= f).log = x.log ++ (f x.value).log := rfl

@[simp] theorem count_note : (note e).count = 0 := rfl
@[simp] theorem log_note : (note e).log = [e] := rfl

@[simp] theorem count_tick : (tick : Tally ε Unit).count = 1 := rfl
@[simp] theorem log_tick : (tick : Tally ε Unit).log = [] := rfl

@[simp] theorem value_listen : x.listen.value = (x.value, x.count) := rfl
@[simp] theorem count_listen : x.listen.count = x.count := rfl
@[simp] theorem log_listen : x.listen.log = x.log := rfl

end Parts

/-- A loop logs what its passes log. -/
@[simp] theorem log_forM (l : List α) (f : α → Tally ε PUnit) :
    (l.forM f).log = l.flatMap fun a => (f a).log := by
  induction l with
  | nil => rfl
  | cons a l ih =>
    rw [List.flatMap_cons, ← ih]
    rfl

/-- A loop that accumulates logs what its passes log, if that does not depend on the accumulator. -/
theorem log_foldlM {f : β → α → Tally ε β} {g : α → List ε} (h : ∀ b a, (f b a).log = g a)
    (l : List α) (b : β) : (l.foldlM f b).log = l.flatMap g := by
  induction l generalizing b with
  | nil => rfl
  | cons a l ih => rw [List.foldlM_cons, log_bind, h, ih, List.flatMap_cons]

/-- A loop that accumulates has the entries that one of its passes always has. -/
theorem mem_log_foldlM {f : β → α → Tally ε β} {l : List α} {a : α} (ha : a ∈ l) {e : ε}
    (h : ∀ b, e ∈ (f b a).log) (b : β) : e ∈ (l.foldlM f b).log := by
  induction l generalizing b with
  | nil => cases ha
  | cons c l ih =>
    rw [List.foldlM_cons, log_bind, List.mem_append]
    rcases List.mem_cons.mp ha with rfl | htail
    · exact Or.inl (h b)
    · exact Or.inr (ih htail _)

/-- A loop that accumulates, with its last pass apart. -/
theorem foldlM_concat (l : List α) (a : α) (f : β → α → Tally ε β) (b : β) :
    ((l ++ [a]).foldlM f b).value = (f (l.foldlM f b).value a).value := by
  induction l generalizing b with
  | nil => rfl
  | cons c l ih =>
    rw [List.cons_append, List.foldlM_cons, List.foldlM_cons, value_bind, value_bind, ih]

/-! ### Programs that count their entries -/

/-- The program counts the entries with `p` that it logs, and all its entries have `Q`. -/
structure Counts (p : ε → Bool) (Q : ε → Prop) (x : Tally ε α) : Prop where
  /-- The counter is raised once for each entry with `p`. -/
  count_eq : x.count = x.log.countP p
  /-- Every entry has `Q`. -/
  log_mem : ∀ e ∈ x.log, Q e

section Rules

variable {p : ε → Bool} {Q : ε → Prop}

/-- A value is returned without counting and logging. -/
theorem counts_pure (a : α) : Counts p Q (pure a : Tally ε α) := ⟨rfl, List.forall_mem_nil _⟩

/-- A sequence of programs that count their entries. -/
theorem counts_bind {x : Tally ε α} {f : α → Tally ε β} (hx : Counts p Q x)
    (hf : Counts p Q (f x.value)) : Counts p Q (x >>= f) where
  count_eq := by rw [count_bind, log_bind, List.countP_append, hx.count_eq, hf.count_eq]
  log_mem := List.forall_mem_append.mpr ⟨hx.log_mem, hf.log_mem⟩

/-- An entry without `p` need not be counted. -/
theorem counts_note {e : ε} (hp : p e = false) (hQ : Q e) : Counts p Q (note e) where
  count_eq := by
    rw [log_note, List.countP_singleton, hp]
    rfl
  log_mem := List.forall_mem_singleton.mpr hQ

/-- An entry with `p` is counted. -/
theorem counts_note_tick {e : ε} (hp : p e = true) (hQ : Q e) :
    Counts p Q (note e >>= fun _ => (tick : Tally ε Unit)) where
  count_eq := by
    rw [log_bind, log_note, log_tick, List.append_nil, List.countP_singleton, hp]
    rfl
  log_mem := List.forall_mem_singleton.mpr hQ

/-- A program whose count is read. -/
theorem counts_listen {x : Tally ε α} (h : Counts p Q x) : Counts p Q x.listen :=
  ⟨h.count_eq, h.log_mem⟩

/-- A loop whose passes count their entries. -/
theorem counts_forM {l : List α} {f : α → Tally ε PUnit} (h : ∀ a ∈ l, Counts p Q (f a)) :
    Counts p Q (l.forM f) := by
  induction l with
  | nil => exact counts_pure _
  | cons a l ih =>
    exact counts_bind (h a List.mem_cons_self) (ih fun b hb => h b (List.mem_cons_of_mem a hb))

/-- A loop that accumulates whose passes count their entries. -/
theorem counts_foldlM {l : List α} {f : β → α → Tally ε β}
    (h : ∀ b, ∀ a ∈ l, Counts p Q (f b a)) (b : β) : Counts p Q (l.foldlM f b) := by
  induction l generalizing b with
  | nil => exact counts_pure _
  | cons a l ih =>
    rw [List.foldlM_cons]
    exact counts_bind (h b a List.mem_cons_self)
      (ih (fun b c hc => h b c (List.mem_cons_of_mem a hc)) _)

/-- The entries may be described by less. -/
theorem Counts.mono {R : ε → Prop} {x : Tally ε α} (h : Counts p Q x) (hR : ∀ e, Q e → R e) :
    Counts p R x :=
  ⟨h.count_eq, fun e he => hR e (h.log_mem e he)⟩

end Rules

end Tally

end Foundation
