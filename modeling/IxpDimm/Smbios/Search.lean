import IxpDimm.Smbios.Walk

/-!
# Searches through an SMBIOS table

What `smbios_get_next_structure_of_type` and `smbios_get_structure_with_handle` return: the
structure that the search comes to and does not skip.  Both searches terminate, since the remaining
length falls with every structure.  The search for a handle stays within the table; the search for a
type reads the byte behind it when it leaves a structure that starts with the last byte
(`SearchInside`).
-/

namespace IxpDimm.Smbios

open Foundation

/-! ### The next structure of a type -/

/-- The search for the next structure of a type behind `p` skips `p` and the structures of other
types. -/
def SkipsType (buffer : List UInt8) (type p q : ℕ) : Prop := q = p ∨ typeAt buffer q ≠ type

/-- No structure that the search for a type leaves starts with the last byte of the table. -/
def SearchInside (buffer : List UInt8) (type p : ℕ) : Prop :=
  ∀ q, Follows buffer (SkipsType buffer type p) p q → SkipsType buffer type p q →
    q + 1 ≠ buffer.length

/-- A search goes forward. -/
theorem Follows.le {buffer : List UInt8} {skips : ℕ → Prop} {p q : ℕ}
    (h : Follows buffer skips p q) : p ≤ q := by
  induction h with
  | refl => exact le_rfl
  | tail _ hstep ih => exact ih.trans (by have := nextStart_bounds hstep.2; omega)

/-- A pass at the last byte of the table. -/
private theorem nextOfTypePass_last {buffer : List UInt8} {type q : ℕ}
    (h : q + 1 = buffer.length) :
    nextOfTypePass buffer type ⟨some q, buffer.length - q⟩ = .inr (.error buffer.length) := by
  simp only [nextOfTypePass]
  rw [if_pos (by omega), smbiosGetNextStructure_last h]
  rfl

/-- A pass at the last structure. -/
private theorem nextOfTypePass_none {buffer : List UInt8} {type q : ℕ}
    (h : q + 1 < buffer.length) (hnext : nextStart buffer q = none) :
    nextOfTypePass buffer type ⟨some q, buffer.length - q⟩ = .inl ⟨none, 0⟩ := by
  simp only [nextOfTypePass]
  rw [if_pos (by omega), smbiosGetNextStructure_at h, hnext]
  rfl

/-- A pass at a structure that has one behind it. -/
private theorem nextOfTypePass_some {buffer : List UInt8} {type q q' : ℕ}
    (hnext : nextStart buffer q = some q') :
    nextOfTypePass buffer type ⟨some q, buffer.length - q⟩ =
      if typeAt buffer q' = type then .inr (.ok ⟨some q', buffer.length - q'⟩)
      else .inl ⟨some q', buffer.length - q'⟩ := by
  obtain ⟨hle, hlt⟩ := nextStart_bounds hnext
  simp only [nextOfTypePass]
  rw [if_pos (by omega), smbiosGetNextStructure_at (by omega), hnext, ok_bind, cursorAt_some,
    hasType_at hlt, ok_bind, pure_eq_ok]
  by_cases htype : typeAt buffer q' = type
  · rw [decide_eq_true htype, if_pos htype]
    rfl
  · rw [decide_eq_false htype, if_neg htype]
    rfl

/-- The loop is entered when there is a structure with bytes behind it. -/
private theorem smbiosGetNextStructureOfType_eq {buffer : List UInt8} {type p : ℕ}
    (hp : p < buffer.length) :
    smbiosGetNextStructureOfType buffer type ⟨some p, buffer.length - p⟩ =
      fun fuel => runLoop (nextOfTypePass buffer type) fuel ⟨some p, buffer.length - p⟩ := by
  funext fuel
  rw [smbiosGetNextStructureOfType, if_pos ⟨rfl, by show 0 < buffer.length - p; omega⟩]

/-- `smbios_get_next_structure_of_type` returns the structure at which the search stops. -/
theorem returns_nextOfType {buffer : List UInt8} {type p : ℕ} (hp : p < buffer.length)
    (hinside : SearchInside buffer type p) :
    ∃ o, Returns (smbiosGetNextStructureOfType buffer type ⟨some p, buffer.length - p⟩)
        (.ok (cursorAt buffer.length o)) ∧
      ∀ q, o = some q ↔
        Follows buffer (SkipsType buffer type p) p q ∧ ¬ SkipsType buffer type p q := by
  rw [smbiosGetNextStructureOfType_eq hp]
  -- the search is at a structure that it skips, or has left the last one
  let I : Cursor → Prop := fun c =>
    (c = ⟨none, 0⟩ ∧ ∃ q, Follows buffer (SkipsType buffer type p) p q ∧
      SkipsType buffer type p q ∧ nextStart buffer q = none) ∨
    ∃ q, c = ⟨some q, buffer.length - q⟩ ∧
      Follows buffer (SkipsType buffer type p) p q ∧ SkipsType buffer type p q
  have htotal : ∃ r,
      Returns (fun fuel => runLoop (nextOfTypePass buffer type) fuel ⟨some p, buffer.length - p⟩) r ∧
        ∃ o, r = .ok (cursorAt buffer.length o) ∧ ∀ q, o = some q ↔
          Follows buffer (SkipsType buffer type p) p q ∧ ¬ SkipsType buffer type p q := by
    refine exists_returns_of_measure I _ Cursor.remaining ?_ ?_
      (Or.inr ⟨p, rfl, Relation.ReflTransGen.refl, Or.inl rfl⟩)
    · rintro c c' (⟨rfl, -⟩ | ⟨q, rfl, hq, hskip⟩) hstep
      · cases hstep
      · have hlt : q + 1 < buffer.length := by
          have := hinside q hq hskip
          have := hq.lt_length hp
          omega
        cases hnext : nextStart buffer q with
        | none =>
          rw [nextOfTypePass_none hlt hnext] at hstep
          obtain rfl := Sum.inl.inj hstep
          exact ⟨Or.inl ⟨rfl, q, hq, hskip, hnext⟩, by show 0 < buffer.length - q; omega⟩
        | some q' =>
          have hbounds := nextStart_bounds hnext
          rw [nextOfTypePass_some hnext] at hstep
          split_ifs at hstep with htype
          obtain rfl := Sum.inl.inj hstep
          exact ⟨Or.inr ⟨q', rfl, hq.tail ⟨hskip, hnext⟩, Or.inr htype⟩,
            by show buffer.length - q' < buffer.length - q; omega⟩
    · rintro c r (⟨rfl, q, hq, hskip, hend⟩ | ⟨q, rfl, hq, hskip⟩) hstep
      · obtain rfl := Sum.inr.inj hstep
        refine ⟨none, rfl, fun q' => iff_of_false (Option.some_ne_none q').symm ?_⟩
        exact fun h => h.2 (hq.not_of_end hskip hend h.1)
      · have hlt : q + 1 < buffer.length := by
          have := hinside q hq hskip
          have := hq.lt_length hp
          omega
        cases hnext : nextStart buffer q with
        | none =>
          rw [nextOfTypePass_none hlt hnext] at hstep
          cases hstep
        | some q' =>
          have hbounds := nextStart_bounds hnext
          rw [nextOfTypePass_some hnext] at hstep
          split_ifs at hstep with htype
          obtain rfl := Sum.inr.inj hstep
          have hstop : ¬ SkipsType buffer type p q' := by
            rintro (rfl | hne)
            · have := hq.le
              omega
            · exact hne htype
          have hfollows : Follows buffer (SkipsType buffer type p) p q' := hq.tail ⟨hskip, hnext⟩
          refine ⟨some q', rfl, fun q'' => ⟨?_, fun h => ?_⟩⟩
          · intro heq
            obtain rfl := Option.some.inj heq
            exact ⟨hfollows, hstop⟩
          · exact congrArg some (hfollows.unique hstop h.1 h.2)
  obtain ⟨r, hr, o, rfl, ho⟩ := htotal
  exact ⟨o, hr, ho⟩

/-- The loop comes to the structures that the search follows. -/
private theorem loopReaches_of_follows {buffer : List UInt8} {type p q : ℕ}
    (h : Follows buffer (SkipsType buffer type p) p q) (hskip : SkipsType buffer type p q) :
    LoopReaches (nextOfTypePass buffer type) ⟨some p, buffer.length - p⟩
      ⟨some q, buffer.length - q⟩ := by
  induction h with
  | refl => exact LoopReaches.refl
  | @tail q q' hq hstep ih =>
    refine (ih hstep.1).tail ?_
    rw [nextOfTypePass_some hstep.2, if_neg]
    rcases hskip with rfl | hne
    · have := Follows.le hq
      have := nextStart_bounds hstep.2
      omega
    · exact hne

/-- The search for a type reads the byte behind the table when it leaves a structure that starts
with the last byte. -/
theorem exists_returns_nextOfType_iff {buffer : List UInt8} {type p : ℕ}
    (hp : p < buffer.length) :
    (∃ c, Returns (smbiosGetNextStructureOfType buffer type ⟨some p, buffer.length - p⟩) (.ok c)) ↔
      SearchInside buffer type p := by
  constructor
  · rintro ⟨c, fuel, hc⟩ q hq hskip hlast
    rw [smbiosGetNextStructureOfType_eq hp] at hc
    obtain ⟨fuel', herror⟩ := runLoop_of_reaches (loopReaches_of_follows hq hskip)
      (runLoop_succ_of_inr (nextOfTypePass_last hlast) 0)
    cases runLoop_unique hc herror
  · intro hinside
    obtain ⟨o, ho, -⟩ := returns_nextOfType hp hinside
    exact ⟨_, ho⟩

/-! ### The structure with a handle -/

/-- The search for a handle skips the structures that have a header with another handle. -/
def SkipsHandle (buffer : List UInt8) (handle q : ℕ) : Prop :=
  q + sizeofHeader ≤ buffer.length ∧ handleAt buffer q ≠ handle

/-- A pass at a structure that has a header. -/
private theorem withHandlePass_eq {buffer : List UInt8} {handle q : ℕ}
    (h : q + sizeofHeader ≤ buffer.length) :
    withHandlePass buffer handle ⟨some q, buffer.length - q⟩ =
      if handleAt buffer q = handle then .inr (.ok ⟨some q, buffer.length - q⟩)
      else if (cursorAt buffer.length (nextStart buffer q)).pStruct.isSome ∧
          sizeofHeader ≤ (cursorAt buffer.length (nextStart buffer q)).remaining then
        .inl (cursorAt buffer.length (nextStart buffer q))
      else .inr (.ok (cursorAt buffer.length (nextStart buffer q))) := by
  rw [sizeofHeader] at h
  simp only [withHandlePass]
  rw [readNumber_of_le (by omega), smbiosGetNextStructure_at (by omega)]
  rfl

/-- `smbios_get_structure_with_handle` returns the structure at which the search stops: the first
one with the handle, or what is too short for a header. -/
theorem returns_withHandle {buffer : List UInt8} {p : ℕ} (handle : ℕ)
    (hp : p + sizeofHeader ≤ buffer.length) :
    ∃ o, Returns (smbiosGetStructureWithHandle buffer handle ⟨some p, buffer.length - p⟩)
        (.ok (cursorAt buffer.length o)) ∧
      ∀ q, o = some q ↔
        Follows buffer (SkipsHandle buffer handle) p q ∧ ¬ SkipsHandle buffer handle q := by
  have hcall : smbiosGetStructureWithHandle buffer handle ⟨some p, buffer.length - p⟩ =
      fun fuel => runLoop (withHandlePass buffer handle) fuel ⟨some p, buffer.length - p⟩ := by
    funext fuel
    rw [smbiosGetStructureWithHandle,
      if_pos ⟨rfl, by show sizeofHeader ≤ buffer.length - p; omega⟩]
  rw [hcall]
  have htotal : ∃ r,
      Returns (fun fuel => runLoop (withHandlePass buffer handle) fuel ⟨some p, buffer.length - p⟩)
        r ∧ ∃ o, r = .ok (cursorAt buffer.length o) ∧ ∀ q, o = some q ↔
          Follows buffer (SkipsHandle buffer handle) p q ∧ ¬ SkipsHandle buffer handle q := by
    refine exists_returns_of_measure (fun c => ∃ q, c = ⟨some q, buffer.length - q⟩ ∧
      Follows buffer (SkipsHandle buffer handle) p q ∧ q + sizeofHeader ≤ buffer.length) _
      Cursor.remaining ?_ ?_ ⟨p, rfl, Relation.ReflTransGen.refl, hp⟩
    · rintro c c' ⟨q, rfl, hq, hheader⟩ hstep
      rw [withHandlePass_eq hheader] at hstep
      split_ifs at hstep with hhandle hnext
      obtain rfl := Sum.inl.inj hstep
      cases hstart : nextStart buffer q with
      | none =>
        rw [hstart] at hnext
        exact absurd hnext.1 Bool.false_ne_true
      | some q' =>
        rw [hstart] at hnext
        have hbounds := nextStart_bounds hstart
        have hheader' : sizeofHeader ≤ buffer.length - q' := hnext.2
        exact ⟨⟨q', rfl, hq.tail ⟨⟨hheader, hhandle⟩, hstart⟩, by omega⟩,
          by show buffer.length - q' < buffer.length - q; omega⟩
    · rintro c r ⟨q, rfl, hq, hheader⟩ hstep
      -- the search stops at the structure with the offset `stop`
      have hstops : ∀ stop, Follows buffer (SkipsHandle buffer handle) p stop →
          ¬ SkipsHandle buffer handle stop → ∀ q', some stop = some q' ↔
            Follows buffer (SkipsHandle buffer handle) p q' ∧ ¬ SkipsHandle buffer handle q' := by
        intro stop hstop hskip q'
        constructor
        · intro heq
          obtain rfl := Option.some.inj heq
          exact ⟨hstop, hskip⟩
        · exact fun h => congrArg some (hstop.unique hskip h.1 h.2)
      rw [withHandlePass_eq hheader] at hstep
      split_ifs at hstep with hhandle hnext
      · obtain rfl := Sum.inr.inj hstep
        exact ⟨some q, rfl, hstops q hq fun h => h.2 hhandle⟩
      · obtain rfl := Sum.inr.inj hstep
        refine ⟨nextStart buffer q, rfl, ?_⟩
        cases hstart : nextStart buffer q with
        | none =>
          refine fun q' => iff_of_false (Option.some_ne_none q').symm ?_
          exact fun h => h.2 (hq.not_of_end ⟨hheader, hhandle⟩ hstart h.1)
        | some q' =>
          rw [hstart] at hnext
          refine hstops q' (hq.tail ⟨⟨hheader, hhandle⟩, hstart⟩) fun hskip => hnext ⟨rfl, ?_⟩
          have := hskip.1
          show sizeofHeader ≤ buffer.length - q'
          omega
  obtain ⟨r, hr, o, rfl, ho⟩ := htotal
  exact ⟨o, hr, ho⟩

end IxpDimm.Smbios
