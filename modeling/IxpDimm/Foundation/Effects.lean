import Mathlib.Algebra.BigOperators.Group.List.Basic
import Mathlib.Tactic.Common
import Mathlib.Tactic.Linarith

/-!
# Programs that update a state and may stop with an exception

`EStateM ε σ α` is the type of programs that run on a state `σ` and end either with a value or with
an exception, the state they have built so far surviving in both cases.  That is how an object that
is passed by reference behaves when a function leaves by an exception.

`Keeps I x` says that the program `x` preserves the state property `I` however it ends.  The rules
compose it along the shape of a program: sequencing, reading and updating the state, a loop over a
list, a handler.
-/

namespace Foundation

variable {ε σ α β : Type}

/-! ### Where an error comes from -/

/-- A sequence fails in its first part or in its second. -/
theorem except_bind_error {x : Except ε α} {f : α → Except ε β} {e : ε}
    (h : (x >>= f) = .error e) : x = .error e ∨ ∃ a, x = .ok a ∧ f a = .error e := by
  cases x with
  | error e' =>
    cases h
    exact Or.inl rfl
  | ok a => exact Or.inr ⟨a, rfl, h⟩

/-- A sequence that succeeds succeeds in both parts. -/
theorem except_bind_ok {x : Except ε α} {f : α → Except ε β} {b : β}
    (h : (x >>= f) = .ok b) : ∃ a, x = .ok a ∧ f a = .ok b := by
  cases x with
  | error e => cases h
  | ok a => exact ⟨a, rfl, h⟩

/-- A loop that accumulates fails in one of its passes. -/
theorem except_foldlM_error {f : β → α → Except ε β} {l : List α} {b : β} {e : ε}
    (h : l.foldlM f b = .error e) : ∃ a ∈ l, ∃ b, f b a = .error e := by
  induction l generalizing b with
  | nil => cases h
  | cons a l ih =>
    rw [List.foldlM_cons] at h
    rcases except_bind_error h with hfirst | ⟨b', -, hrest⟩
    · exact ⟨a, List.mem_cons_self, b, hfirst⟩
    · obtain ⟨c, hc, hfail⟩ := ih hrest
      exact ⟨c, List.mem_cons_of_mem a hc, hfail⟩

/-- A loop that collects results fails at one of the elements. -/
theorem except_mapM_error {f : α → Except ε β} {l : List α} {e : ε}
    (h : l.mapM f = .error e) : ∃ a ∈ l, f a = .error e := by
  induction l with
  | nil => cases h
  | cons a l ih =>
    rw [List.mapM_cons] at h
    rcases except_bind_error h with hfirst | ⟨b, -, hrest⟩
    · exact ⟨a, List.mem_cons_self, hfirst⟩
    · rcases except_bind_error hrest with hrest | ⟨bs, -, hpure⟩
      · obtain ⟨c, hc, hfail⟩ := ih hrest
        exact ⟨c, List.mem_cons_of_mem a hc, hfail⟩
      · cases hpure

/-- What a loop that collects results returns are results at its elements. -/
theorem except_mapM_ok_mem {f : α → Except ε β} {l : List α} {bs : List β}
    (h : l.mapM f = .ok bs) {b : β} (hb : b ∈ bs) : ∃ a ∈ l, f a = .ok b := by
  induction l generalizing bs with
  | nil =>
    cases h
    cases hb
  | cons a l ih =>
    rw [List.mapM_cons] at h
    obtain ⟨c, hc, hrest⟩ := except_bind_ok h
    obtain ⟨cs, hcs, hpure⟩ := except_bind_ok hrest
    cases hpure
    rcases List.mem_cons.mp hb with rfl | hb
    · exact ⟨a, List.mem_cons_self, hc⟩
    · obtain ⟨d, hd, hfd⟩ := ih hcs hb
      exact ⟨d, List.mem_cons_of_mem a hd, hfd⟩

/-- The results of a loop whose every visit that succeeds has a known result. -/
theorem except_mapM_ok_eq_map {f : α → Except ε β} {g : α → β} {l : List α} {bs : List β}
    (hf : ∀ a b, f a = .ok b → b = g a) (h : l.mapM f = .ok bs) : bs = l.map g := by
  induction l generalizing bs with
  | nil =>
    obtain rfl := Except.ok.inj h
    rfl
  | cons a l ih =>
    rw [List.mapM_cons] at h
    obtain ⟨b, hb, h⟩ := except_bind_ok h
    obtain ⟨rest, hrest, hpure⟩ := except_bind_ok h
    obtain rfl := Except.ok.inj hpure
    rw [List.map_cons, hf a b hb, ih hrest]

/-- A loop that collects results succeeds when it does at each element. -/
theorem except_mapM_eq_ok {f : α → Except ε β} {g : α → β} {l : List α}
    (h : ∀ a ∈ l, f a = .ok (g a)) : l.mapM f = .ok (l.map g) := by
  induction l with
  | nil => rfl
  | cons a l ih =>
    rw [List.mapM_cons, h a List.mem_cons_self, ih fun b hb => h b (List.mem_cons_of_mem a hb)]
    rfl

/-- A loop that collects results succeeds exactly when it does at each element. -/
theorem except_mapM_isOk_iff {f : α → Except ε β} {l : List α} :
    (∃ bs, l.mapM f = .ok bs) ↔ ∀ a ∈ l, ∃ b, f a = .ok b := by
  induction l with
  | nil => exact iff_of_true ⟨[], rfl⟩ (List.forall_mem_nil _)
  | cons a l ih =>
    rw [List.forall_mem_cons, ← ih, List.mapM_cons]
    constructor
    · rintro ⟨bs, h⟩
      obtain ⟨b, hb, h⟩ := except_bind_ok h
      obtain ⟨rest, hrest, -⟩ := except_bind_ok h
      exact ⟨⟨b, hb⟩, rest, hrest⟩
    · rintro ⟨⟨b, hb⟩, rest, hrest⟩
      refine ⟨b :: rest, ?_⟩
      rw [hb, hrest]
      rfl

/-- A loop that accumulates succeeds exactly when the elements allow each of its passes. -/
theorem except_foldlM_isOk_iff {f : β → α → Except ε β} {P : α → Prop}
    (hf : ∀ b a, (∃ b', f b a = .ok b') ↔ P a) {l : List α} {b : β} :
    (∃ b', l.foldlM f b = .ok b') ↔ ∀ a ∈ l, P a := by
  induction l generalizing b with
  | nil => exact iff_of_true ⟨b, rfl⟩ (List.forall_mem_nil _)
  | cons a l ih =>
    rw [List.forall_mem_cons, ← hf b a, List.foldlM_cons]
    constructor
    · rintro ⟨c, h⟩
      obtain ⟨b', hb', hrest⟩ := except_bind_ok h
      exact ⟨⟨b', hb'⟩, ih.mp ⟨c, hrest⟩⟩
    · rintro ⟨⟨b', hb'⟩, hrest⟩
      rw [hb']
      exact ih.mpr hrest

/-- A loop that accumulates and succeeds is a fold, if the passes that succeed have known results. -/
theorem except_foldlM_ok_eq_foldl {f : β → α → Except ε β} {g : β → α → β}
    (hf : ∀ b a b', f b a = .ok b' → b' = g b a) {l : List α} {b b' : β}
    (h : l.foldlM f b = .ok b') : b' = l.foldl g b := by
  induction l generalizing b with
  | nil => exact (Except.ok.inj h).symm
  | cons a l ih =>
    rw [List.foldlM_cons] at h
    obtain ⟨c, hc, hrest⟩ := except_bind_ok h
    rw [ih hrest, List.foldl_cons, hf b a c hc]

/-! ### What a program keeps -/

/-- The state a program leaves behind, whether it ends normally or by an exception. -/
def finalState : EStateM.Result ε σ α → σ
  | .ok _ s => s
  | .error _ s => s

@[simp] theorem finalState_ok (a : α) (s : σ) :
    finalState (.ok a s : EStateM.Result ε σ α) = s := rfl

@[simp] theorem finalState_error (e : ε) (s : σ) :
    finalState (.error e s : EStateM.Result ε σ α) = s := rfl

/-- The program preserves `I`, whether it ends normally or by an exception. -/
def Keeps (I : σ → Prop) (x : EStateM ε σ α) : Prop := ∀ s, I s → I (finalState (x s))

section Rules

variable {I : σ → Prop}

/-- Running a sequence: the continuation runs on the value and the state of the first part. -/
theorem bind_apply (x : EStateM ε σ α) (f : α → EStateM ε σ β) (s : σ) :
    (x >>= f) s = match x s with
      | .ok a s' => f a s'
      | .error e s' => .error e s' := rfl

/-- A program that returns a value keeps everything. -/
theorem keeps_pure (a : α) : Keeps I (pure a : EStateM ε σ α) := fun _ h => h

/-- Sequencing. -/
theorem Keeps.bind {x : EStateM ε σ α} {f : α → EStateM ε σ β} (hx : Keeps I x)
    (hf : ∀ a, Keeps I (f a)) : Keeps I (x >>= f) := by
  intro s hs
  have h := hx s hs
  rw [bind_apply]
  cases hxs : x s with
  | ok a s' =>
    rw [hxs] at h
    exact hf a s' h
  | error e s' =>
    rw [hxs] at h
    exact h

/-- Reading the state: the rest may use what holds of it. -/
theorem keeps_get_bind {f : σ → EStateM ε σ β} (hf : ∀ s, I s → I (finalState (f s s))) :
    Keeps I (get >>= f) := fun s hs => hf s hs

/-- Updating the state. -/
theorem keeps_modify {g : σ → σ} (hg : ∀ s, I s → I (g s)) :
    Keeps I (modify g : EStateM ε σ Unit) := fun s hs => hg s hs

/-- A loop over a list whose body keeps the property at every element. -/
theorem keeps_forM {l : List α} {f : α → EStateM ε σ PUnit} (hf : ∀ a ∈ l, Keeps I (f a)) :
    Keeps I (l.forM f) := by
  induction l with
  | nil => exact keeps_pure _
  | cons a l ih =>
    refine Keeps.bind (hf a List.mem_cons_self) fun _ => ?_
    exact ih fun b hb => hf b (List.mem_cons_of_mem a hb)

end Rules

/-- A loop over a list in two parts. -/
theorem forM_append_apply (l₁ l₂ : List α) (f : α → EStateM ε σ PUnit) (s : σ) :
    (l₁ ++ l₂).forM f s = (l₁.forM f >>= fun _ => l₂.forM f) s := by
  have h : (forM (l₁ ++ l₂) f : EStateM ε σ PUnit) =
      (forM l₁ f >>= fun _ => forM l₂ f) := List.forM_append
  exact congrFun h s

/-- What a loop over a list can raise: what its passes raise from states with the property. -/
theorem forM_error {I : σ → Prop} {E : ε → Prop} {l : List α} {f : α → EStateM ε σ PUnit}
    (hkeep : ∀ a ∈ l, Keeps I (f a))
    (hraise : ∀ a ∈ l, ∀ s, I s → ∀ e s', f a s = .error e s' → E e) :
    ∀ s, I s → ∀ e s', l.forM f s = .error e s' → E e := by
  induction l with
  | nil => intro s _ e s' h; simp [pure, EStateM.pure] at h
  | cons a l ih =>
    intro s hI e s' h
    have hcons : (a :: l).forM f s = (f a >>= fun _ => l.forM f) s := rfl
    have hI' := hkeep a List.mem_cons_self s hI
    rw [hcons, bind_apply] at h
    cases hrun : f a s with
    | ok u t =>
      rw [hrun] at h hI'
      exact ih (fun b hb => hkeep b (List.mem_cons_of_mem a hb))
        (fun b hb => hraise b (List.mem_cons_of_mem a hb)) t hI' e s' h
    | error e' t =>
      rw [hrun] at h
      obtain ⟨rfl, rfl⟩ := EStateM.Result.error.inj h
      exact hraise a List.mem_cons_self s hI e' t hrun

/-- A loop whose passes use up a resource: if every pass raises the amount used by at most its own
cost, the loop raises it by at most the sum of the costs, also when it is left by an exception. -/
theorem forM_cost {I : ℕ → σ → Prop} (hmono : ∀ m n s, m ≤ n → I m s → I n s) (cost : α → ℕ)
    {l : List α} {f : α → EStateM ε σ PUnit}
    (hpass : ∀ a ∈ l, ∀ n s, I n s → I (n + cost a) (finalState (f a s))) :
    ∀ n s, I n s → I (n + (l.map cost).sum) (finalState (l.forM f s)) := by
  induction l with
  | nil => intro n s hI; exact hI
  | cons a l ih =>
    intro n s hI
    have hcons : (a :: l).forM f s = (f a >>= fun _ => l.forM f) s := rfl
    have ha := hpass a List.mem_cons_self n s hI
    rw [hcons, bind_apply, List.map_cons, List.sum_cons, ← Nat.add_assoc]
    cases hrun : f a s with
    | ok u s' =>
      rw [hrun] at ha
      exact ih (fun b hb => hpass b (List.mem_cons_of_mem a hb)) _ s' ha
    | error e s' =>
      rw [hrun] at ha
      exact hmono _ _ s' (Nat.le_add_right _ _) ha

/-! ### Sequences of programs with a turning point -/

/-- A list of programs that keeps `I` up to one program, which turns `I` into the weaker `J`, and
keeps `J` from there on: `J` holds after every initial part of the list, however it ends. -/
theorem forM_take_phases {I J : σ → Prop} (hIJ : ∀ s, I s → J s) {f : α → EStateM ε σ PUnit}
    {before after : List α} {turn : α} (hbefore : ∀ a ∈ before, Keeps I (f a))
    (hturn : ∀ s, I s → J (finalState (f turn s))) (hafter : ∀ a ∈ after, Keeps J (f a))
    (k : ℕ) (s : σ) (hs : I s) :
    J (finalState (((before ++ turn :: after).take k).forM f s)) := by
  induction before generalizing k s with
  | nil =>
    cases k with
    | zero => exact hIJ s hs
    | succ k =>
      show J (finalState ((f turn >>= fun _ => (after.take k).forM f) s))
      have hJ := hturn s hs
      rw [bind_apply]
      cases hrun : f turn s with
      | ok u s' =>
        rw [hrun] at hJ
        exact keeps_forM (fun a ha => hafter a (List.mem_of_mem_take ha)) s' hJ
      | error e s' =>
        rw [hrun] at hJ
        exact hJ
  | cons a before ih =>
    cases k with
    | zero => exact hIJ s hs
    | succ k =>
      show J (finalState ((f a >>= fun _ => ((before ++ turn :: after).take k).forM f) s))
      have hI := hbefore a List.mem_cons_self s hs
      rw [bind_apply]
      cases hrun : f a s with
      | ok u s' =>
        rw [hrun] at hI
        exact ih (fun b hb => hbefore b (List.mem_cons_of_mem a hb)) k s' hI
      | error e s' =>
        rw [hrun] at hI
        exact hIJ s' hI

/-- One more program of a list: it runs when those before it have ended normally. -/
theorem finalState_forM_take_succ {l : List α} {f : α → EStateM ε σ PUnit} {s : σ} {k : ℕ} {a : α}
    (ha : l[k]? = some a) :
    finalState ((l.take (k + 1)).forM f s) =
      match (l.take k).forM f s with
      | .ok _ s' => finalState (f a s')
      | .error _ s' => s' := by
  have htake : l.take (k + 1) = l.take k ++ [a] := by rw [List.take_add_one, ha]; rfl
  rw [htake, forM_append_apply, bind_apply]
  cases hrun : (l.take k).forM f s with
  | ok u s' =>
    show finalState ((f a >>= fun _ => pure PUnit.unit) s') = finalState (f a s')
    rw [bind_apply]
    cases f a s' with
    | ok v t => rfl
    | error e t => rfl
  | error e s' => rfl

/-- A list of programs with a property for each number of programs that have run: every program
that is reached takes one property into the next, so one of them holds after every initial part of
the list. -/
theorem forM_take_reached {J : ℕ → σ → Prop} {l : List α} {f : α → EStateM ε σ PUnit} {s : σ}
    (hstart : J 0 s)
    (hstep : ∀ j a s', l[j]? = some a → (l.take j).forM f s = .ok ⟨⟩ s' → J j s' →
      J (j + 1) (finalState (f a s'))) (k : ℕ) :
    (∀ s', (l.take k).forM f s = .ok ⟨⟩ s' → J (min k l.length) s') ∧
      ∃ j, J j (finalState ((l.take k).forM f s)) := by
  induction k with
  | zero =>
    refine ⟨fun s' hrun => ?_, 0, hstart⟩
    obtain ⟨-, rfl⟩ := EStateM.Result.ok.inj hrun
    rw [Nat.zero_min]
    exact hstart
  | succ k ih =>
    obtain ⟨ihok, j, ihj⟩ := ih
    cases ha : l[k]? with
    | none =>
      have hlen := List.getElem?_eq_none_iff.mp ha
      rw [List.take_of_length_le hlen] at ihok ihj
      rw [List.take_of_length_le (Nat.le_succ_of_le hlen), Nat.min_eq_right (Nat.le_succ_of_le hlen)]
      rw [Nat.min_eq_right hlen] at ihok
      exact ⟨ihok, j, ihj⟩
    | some a =>
      have hlen : k < l.length := (List.getElem?_eq_some_iff.mp ha).1
      have hfinal := finalState_forM_take_succ (f := f) (s := s) ha
      rw [Nat.min_eq_left (Nat.le_of_lt hlen)] at ihok
      rw [Nat.min_eq_left hlen]
      cases hrun : (l.take k).forM f s with
      | ok u s' =>
        rw [hrun] at hfinal
        have hJ := hstep k a s' ha hrun (ihok s' hrun)
        refine ⟨fun t ht => ?_, k + 1, hfinal ▸ hJ⟩
        rw [ht] at hfinal
        rw [show t = finalState (f a s') from hfinal]
        exact hJ
      | error e s' =>
        rw [hrun] at hfinal ihj
        refine ⟨fun t ht => ?_, j, hfinal ▸ ihj⟩
        -- The list before the program has raised, so the longer one does not end normally.
        exfalso
        have htake : l.take (k + 1) = l.take k ++ [a] := by rw [List.take_add_one, ha]; rfl
        rw [htake, forM_append_apply, bind_apply, hrun] at ht
        cases ht

/-! ### Loops whose passes touch disjoint parts of a table -/

section Footprint

variable {κ ν : Type}

/-- The program changes the table only at the given keys, however it ends. -/
def Touches (view : σ → κ → ν) (keys : List κ) (x : EStateM ε σ β) : Prop :=
  ∀ s k, k ∉ keys → view (finalState (x s)) k = view s k

/-- A loop whose passes have disjoint footprints: if every pass turns `P` into `Q` on its own
footprint, the loop turns `P` into `Q` on all of them, also when it is left by an exception. -/
theorem forM_footprint (view : σ → κ → ν) (foot : α → List κ) {P Q : κ → ν → Prop} {l : List α}
    {f : α → EStateM ε σ PUnit} (hnd : (l.flatMap foot).Nodup) (hweak : ∀ k v, P k v → Q k v)
    (htouch : ∀ a ∈ l, Touches view (foot a) (f a))
    (hpass : ∀ a ∈ l, ∀ s, (∀ k ∈ foot a, P k (view s k)) →
      ∀ k ∈ foot a, Q k (view (finalState (f a s)) k))
    (s : σ) (hP : ∀ k ∈ l.flatMap foot, P k (view s k)) :
    (∀ k ∈ l.flatMap foot, Q k (view (finalState (l.forM f s)) k)) ∧
      ∀ k, k ∉ l.flatMap foot → view (finalState (l.forM f s)) k = view s k := by
  induction l generalizing s with
  | nil => exact ⟨fun k hk => by simp at hk, fun k _ => rfl⟩
  | cons a l ih =>
    rw [List.flatMap_cons, List.nodup_append] at hnd
    obtain ⟨-, hndl, hdisj⟩ := hnd
    have htouch_a := htouch a List.mem_cons_self s
    have hQa := hpass a List.mem_cons_self s fun k hk => hP k (by simp [hk])
    -- the rest of the loop finds its own keys as they were
    have hPl : ∀ k ∈ l.flatMap foot, P k (view (finalState (f a s)) k) := by
      intro k hk
      rw [htouch_a k fun hka => hdisj k hka k hk rfl]
      exact hP k (by simp only [List.flatMap_cons, List.mem_append, hk, or_true])
    show _ ∧ ∀ k, _ → view (finalState ((f a >>= fun _ => l.forM f) s)) k = _
    have hcons : (a :: l).forM f s = (f a >>= fun _ => l.forM f) s := rfl
    rw [hcons, bind_apply]
    cases hrun : f a s with
    | ok u s' =>
      rw [hrun] at hQa hPl htouch_a
      obtain ⟨hQl, hframe⟩ := ih hndl (fun b hb => htouch b (List.mem_cons_of_mem a hb))
        (fun b hb => hpass b (List.mem_cons_of_mem a hb)) s' hPl
      constructor
      · intro k hk
        rcases List.mem_append.mp hk with hk | hk
        · show Q k (view (finalState (l.forM f s')) k)
          rw [hframe k fun hkl => hdisj k hk k hkl rfl]
          exact hQa k hk
        · exact hQl k hk
      · intro k hk
        rw [List.flatMap_cons, List.mem_append, not_or] at hk
        exact (hframe k hk.2).trans (htouch_a k hk.1)
    | error e s' =>
      rw [hrun] at hQa hPl htouch_a
      constructor
      · intro k hk
        rcases List.mem_append.mp hk with hk | hk
        · exact hQa k hk
        · exact hweak k _ (hPl k hk)
      · intro k hk
        rw [List.flatMap_cons, List.mem_append, not_or] at hk
        exact htouch_a k hk.1

/-- A loop whose passes have disjoint footprints and that ends normally: what every pass that ends
normally makes of its own footprint, the loop makes of all of them. -/
theorem forM_footprint_ok (view : σ → κ → ν) (foot : α → List κ) {P Q : κ → ν → Prop} {l : List α}
    {f : α → EStateM ε σ PUnit} (hnd : (l.flatMap foot).Nodup)
    (htouch : ∀ a ∈ l, Touches view (foot a) (f a))
    (hpass : ∀ a ∈ l, ∀ s s', (∀ k ∈ foot a, P k (view s k)) → f a s = .ok ⟨⟩ s' →
      ∀ k ∈ foot a, Q k (view s' k))
    {s s' : σ} (hP : ∀ k ∈ l.flatMap foot, P k (view s k)) (h : l.forM f s = .ok ⟨⟩ s') :
    (∀ k ∈ l.flatMap foot, Q k (view s' k)) ∧ ∀ k, k ∉ l.flatMap foot → view s' k = view s k := by
  induction l generalizing s with
  | nil =>
    obtain ⟨-, rfl⟩ := EStateM.Result.ok.inj h
    exact ⟨fun k hk => by simp at hk, fun k _ => rfl⟩
  | cons a l ih =>
    rw [List.flatMap_cons, List.nodup_append] at hnd
    obtain ⟨-, hndl, hdisj⟩ := hnd
    have htouch_a := htouch a List.mem_cons_self s
    have hcons : (a :: l).forM f s = (f a >>= fun _ => l.forM f) s := rfl
    rw [hcons, bind_apply] at h
    cases hrun : f a s with
    | error e t =>
      rw [hrun] at h
      cases h
    | ok u t =>
      rw [hrun] at h htouch_a
      have hQa := hpass a List.mem_cons_self s t (fun k hk => hP k (by simp [hk])) hrun
      obtain ⟨hQ, hframe⟩ := ih hndl (fun b hb => htouch b (List.mem_cons_of_mem a hb))
        (fun b hb => hpass b (List.mem_cons_of_mem a hb))
        (fun k hk => by
          have hsame : view t k = view s k := htouch_a k fun hka => hdisj k hka k hk rfl
          rw [hsame]
          exact hP k (by simp only [List.flatMap_cons, List.mem_append, hk, or_true])) h
      constructor
      · intro k hk
        rw [List.flatMap_cons] at hk
        rcases List.mem_append.mp hk with hka | hkl
        · rw [hframe k fun hkl => hdisj k hka k hkl rfl]
          exact hQa k hka
        · exact hQ k hkl
      · intro k hk
        rw [List.flatMap_cons, List.mem_append, not_or] at hk
        exact (hframe k hk.2).trans (htouch_a k hk.1)

/-- What such a loop can raise: what its passes raise where `P` holds on their footprint. -/
theorem forM_footprint_error (view : σ → κ → ν) (foot : α → List κ) {P : κ → ν → Prop}
    {E : ε → Prop} {l : List α} {f : α → EStateM ε σ PUnit} (hnd : (l.flatMap foot).Nodup)
    (htouch : ∀ a ∈ l, Touches view (foot a) (f a))
    (hraise : ∀ a ∈ l, ∀ s, (∀ k ∈ foot a, P k (view s k)) →
      ∀ e s', f a s = .error e s' → E e)
    (s : σ) (hP : ∀ k ∈ l.flatMap foot, P k (view s k)) :
    ∀ e s', l.forM f s = .error e s' → E e := by
  induction l generalizing s with
  | nil => intro e s' h; simp [pure, EStateM.pure] at h
  | cons a l ih =>
    intro e s' h
    rw [List.flatMap_cons, List.nodup_append] at hnd
    obtain ⟨-, hndl, hdisj⟩ := hnd
    have htouch_a := htouch a List.mem_cons_self s
    have hcons : (a :: l).forM f s = (f a >>= fun _ => l.forM f) s := rfl
    rw [hcons, bind_apply] at h
    cases hrun : f a s with
    | ok u t =>
      rw [hrun] at h htouch_a
      refine ih hndl (fun b hb => htouch b (List.mem_cons_of_mem a hb))
        (fun b hb => hraise b (List.mem_cons_of_mem a hb)) t ?_ e s' h
      intro k hk
      have hsame : view t k = view s k := htouch_a k fun hka => hdisj k hka k hk rfl
      rw [hsame]
      exact hP k (by simp only [List.flatMap_cons, List.mem_append, hk, or_true])
    | error e' t =>
      rw [hrun] at h
      obtain ⟨rfl, rfl⟩ := EStateM.Result.error.inj h
      exact hraise a List.mem_cons_self s (fun k hk => hP k (by simp [hk])) e' t hrun

end Footprint

end Foundation
