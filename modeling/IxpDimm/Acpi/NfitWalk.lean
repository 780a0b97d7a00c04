import IxpDimm.Acpi.Nfit
import Mathlib.Data.List.Induction
import Mathlib.Tactic.IntervalCases

/-!
# The walk along the sub-tables

The walk stops on every buffer: a pass that continues moves on by a length that is not zero.

On a well-formed table it keeps in step with the sub-tables as long as each of them is
`ExtensionTable.Readable`: its length fits the one byte that is loaded, its type is not mistaken for
another one, and a structure of its kind is neither longer nor shorter than the sub-table.  Then the
parser returns what the table says.  A sub-table that is not readable spoils the result, at the
latest when the bytes behind its length are zeros.
-/

namespace IxpDimm

open Foundation

variable {buffer : Bytes} {bufferSize : ℕ}

/-! ### One pass -/

/-- The `switch` either adds a structure of the kind that has the type, or no kind has the type and
nothing happens. -/
private theorem createExtensionTable_cases (type : ℕ) (buffer : Bytes) (w : NfitWalk) :
    (∃ t : SubTable, t.type = type ∧
      createExtensionTable type buffer w = addToParsedNfit t buffer w) ∨
    ((∀ t : SubTable, t.type ≠ type) ∧ createExtensionTable type buffer w = w) := by
  by_cases h : type < 7
  · left
    interval_cases type
    · exact ⟨.spa, rfl, rfl⟩
    · exact ⟨.regionMapping, rfl, rfl⟩
    · exact ⟨.interleave, rfl, rfl⟩
    · exact ⟨.smbiosManagementInfo, rfl, rfl⟩
    · exact ⟨.controlRegion, rfl, rfl⟩
    · exact ⟨.blockDataWindowRegion, rfl, rfl⟩
    · exact ⟨.flushHintAddress, rfl, rfl⟩
  · right
    obtain ⟨k, rfl⟩ : ∃ k, type = k + 7 := ⟨type - 7, by omega⟩
    refine ⟨?_, rfl⟩
    rintro (_ | _) <;> simp [SubTable.type]

/-- The types of two kinds differ. -/
private theorem subTable_type_injective : Function.Injective SubTable.type := by
  intro t t' h
  cases t <;> cases t' <;> first | rfl | exact absurd h (by decide)

/-- The types of the kinds are small. -/
private theorem subTable_type_lt (t : SubTable) : t.type < 7 := by
  cases t <;> decide

/-- The structures have room for the type and the length. -/
private theorem four_le_structSize (t : SubTable) : 4 ≤ t.structSize := by
  cases t <;> decide

/-- The walk where a pass has loaded a type and a length. -/
private def NfitWalk.loaded (w : NfitWalk) : NfitWalk :=
  { w with reads := w.reads ++ [(w.offset, 1), (w.offset + 2, 1)] }

/-- The `switch` leaves the offset. -/
private theorem createExtensionTable_offset (type : ℕ) (buffer : Bytes) (w : NfitWalk) :
    (createExtensionTable type buffer w).offset = w.offset := by
  rcases createExtensionTable_cases type buffer w with ⟨t, _, h⟩ | ⟨_, h⟩
  · rw [h, addToParsedNfit]
  · rw [h]

/-- A pass inside of the table either finds it bad or moves on by the length it has loaded. -/
private theorem nfitPass_cases (buffer : Bytes) {w : NfitWalk} (h : w.offset < bufferSize) :
    (∃ reads, nfitPass buffer bufferSize w = .inr ⟨.badNfit, none, reads⟩) ∨
    (0 < (buffer (w.offset + 2)).toNat ∧
      nfitPass buffer bufferSize w = .inl
        ((createExtensionTable (buffer w.offset).toNat buffer w.loaded).advance
          (buffer (w.offset + 2)).toNat)) := by
  rw [nfitPass, if_pos h]
  dsimp only
  by_cases hbad : (buffer (w.offset + 2)).toNat = 0 ∨
      bufferSize < (buffer (w.offset + 2)).toNat + w.offset
  · rw [if_pos hbad]
    exact .inl ⟨_, rfl⟩
  · rw [if_neg hbad]
    exact .inr ⟨by omega, rfl⟩

/-- A pass that continues was inside of the table. -/
private theorem offset_lt_of_inl {w w' : NfitWalk} (h : nfitPass buffer bufferSize w = .inl w') :
    w.offset < bufferSize := by
  by_contra hge
  rw [nfitPass, if_neg hge] at h
  cases h

/-- A pass that continues moves on. -/
private theorem lt_offset_of_inl {w w' : NfitWalk} (h : nfitPass buffer bufferSize w = .inl w') :
    w.offset < w'.offset := by
  rcases nfitPass_cases buffer (offset_lt_of_inl h) with ⟨reads, hbad⟩ | ⟨hpos, hok⟩
  · rw [hbad] at h
    cases h
  · rw [hok] at h
    obtain rfl := Sum.inl.inj h
    rw [NfitWalk.advance, createExtensionTable_offset]
    exact Nat.lt_add_of_pos_right hpos

/-- The lists only grow at their ends. -/
private theorem list_prefix_of_reaches {w w' : NfitWalk}
    (h : LoopReaches (nfitPass buffer bufferSize) w w') (t : SubTable) :
    w.parsed.list t <+: w'.parsed.list t := by
  induction h with
  | refl => exact List.prefix_rfl
  | @tail u v _ hstep ih =>
    refine ih.trans ?_
    rcases nfitPass_cases buffer (offset_lt_of_inl hstep) with ⟨_, hbad⟩ | ⟨_, hok⟩
    · rw [hbad] at hstep
      cases hstep
    · rw [hok] at hstep
      obtain rfl := Sum.inl.inj hstep
      rw [NfitWalk.advance]
      rcases createExtensionTable_cases (buffer u.offset).toNat buffer u.loaded with
        ⟨s, _, hadd⟩ | ⟨_, hskip⟩
      · rw [hadd]
        by_cases hs : t = s
        · subst hs
          simp [addToParsedNfit, NfitWalk.loaded]
        · simp [addToParsedNfit, NfitWalk.loaded, Function.update_of_ne hs]
      · rw [hskip]
        exact List.prefix_rfl

/-! ### Every buffer -/

/-- The parser returns on every buffer. -/
private theorem exists_returns_nfitParseRawNfit (buffer : Option Bytes) (bufferSize : ℕ) :
    ∃ r, Returns (nfitParseRawNfit buffer bufferSize) r := by
  by_cases hsize : bufferSize = 0
  · exact ⟨⟨.badInput, none, []⟩, 0, by simp [nfitParseRawNfit, hsize]⟩
  cases buffer with
  | none => exact ⟨⟨.badInput, none, []⟩, 0, by simp [nfitParseRawNfit]⟩
  | some buffer =>
    have hhalts : LoopHalts (nfitPass buffer bufferSize) (nfitStart buffer) := by
      apply loopHalts_of_measure fun w : NfitWalk => bufferSize - w.offset
      intro w w' _ hstep
      have hin := offset_lt_of_inl hstep
      have hmove := lt_offset_of_inl hstep
      omega
    obtain ⟨fuel, r, hr⟩ := hhalts
    exact ⟨r, fuel, by simpa only [nfitParseRawNfit, if_neg hsize] using hr⟩

/-- On a buffer that is there, the parser returns what its loop leaves with. -/
private theorem returns_nfitParseRawNfit_iff (hsize : bufferSize ≠ 0) {r : NfitResult} :
    Returns (nfitParseRawNfit (some buffer) bufferSize) r ↔
      Returns (fun fuel => runLoop (nfitPass buffer bufferSize) fuel (nfitStart buffer)) r := by
  simp only [Returns, nfitParseRawNfit, if_neg hsize]

/-! ### Sub-tables that are read right -/

/-- The parser reads the sub-table right: its length fits one byte, and if the low byte of its type
is the type of a kind, the sub-table is of that kind and as long as the structure of the kind. -/
structure ExtensionTable.Readable (e : ExtensionTable) : Prop where
  /-- The length fits one byte. -/
  length_lt_byte : e.length < 256
  /-- The type is not mistaken, and the structure has the sub-table's length. -/
  kind : ∀ t : SubTable, e.type.toNat % 256 = t.type → e.IsKind t ∧ e.length = t.structSize

/-- The number of bytes of a sub-table is its length. -/
theorem ExtensionTable.length_bytes (e : ExtensionTable) : e.bytes.length = e.length := by
  simp only [bytes, length, List.length_append, length_leList]
  omega

/-- A sub-table of a kind has the type as its low byte. -/
private theorem mod_eq_of_isKind {e : ExtensionTable} {t : SubTable} (h : e.IsKind t) :
    e.type.toNat % 256 = t.type := by
  have ht := subTable_type_lt t
  rw [h]
  exact Nat.mod_eq_of_lt (by omega)

/-- The four bytes the sub-table starts with. -/
private theorem header_bytes {e : ExtensionTable} {a : ℕ} (h : Holds buffer a e.bytes) :
    (buffer a).toNat = e.type.toNat % 256 ∧ (buffer (a + 1)).toNat = e.type.toNat / 256 ∧
      (buffer (a + 2)).toNat = e.length % 256 ∧ (buffer (a + 3)).toNat = e.length / 256 := by
  have htype : e.type.toNat < 2 ^ 16 := e.type.toNat_lt
  have hlen : e.length < 2 ^ 16 := e.length_lt
  have hfour : 4 ≤ e.bytes.length := by
    rw [e.length_bytes, ExtensionTable.length]
    omega
  have h0 := h.apply (i := 0) (by omega)
  have h1 := h.apply (i := 1) (by omega)
  have h2 := h.apply (i := 2) (by omega)
  have h3 := h.apply (i := 3) (by omega)
  simp only [ofList, ExtensionTable.bytes, leList, leBytes, List.range, List.range.loop,
    List.map_cons, List.map_nil, List.cons_append, List.nil_append, List.getD_cons_zero,
    List.getD_cons_succ, Nat.pow_zero, Nat.div_one, Nat.pow_one, Nat.add_zero] at h0 h1 h2 h3
  rw [h0, h1, h2, h3]
  simp only [UInt8.toNat_ofNat']
  refine ⟨trivial, ?_, trivial, ?_⟩
  · exact Nat.mod_eq_of_lt (by omega)
  · exact Nat.mod_eq_of_lt (by omega)

/-- A byte behind the length of a sub-table. -/
private theorem body_byte {e : ExtensionTable} {a i : ℕ} (h : Holds buffer a e.bytes)
    (hi : i + 4 < e.length) : buffer (a + (i + 4)) = e.body.getD i 0 := by
  have hbyte := h.apply (i := i + 4) (by rw [e.length_bytes]; exact hi)
  rw [hbyte, ofList, ExtensionTable.bytes, ← List.append_assoc]
  rw [List.getD_append_right _ _ _ _ (by simp)]
  simp

/-- The state `w'` is that of the walk from `w` behind the sub-tables of a list. -/
private structure Walked (w w' : NfitWalk) (tables : List ExtensionTable) : Prop where
  /-- The walk is behind the sub-tables. -/
  offset : w'.offset = w.offset + (tables.flatMap ExtensionTable.bytes).length
  /-- The header has stayed. -/
  nfit : w'.parsed.nfit = w.parsed.nfit
  /-- The sub-tables of each kind were added. -/
  list : ∀ t, w'.parsed.list t =
    w.parsed.list t ++ (tables.filter fun e => e.IsKind t).map ExtensionTable.bytes
  /-- Nothing behind the sub-tables was read. -/
  reads : ∀ r ∈ w'.reads, r ∈ w.reads ∨ r.1 + r.2 ≤ w'.offset

/-- The pass at a readable sub-table. -/
private theorem exists_walked_single {w : NfitWalk} {e : ExtensionTable} (he : e.Readable)
    (hmem : Holds buffer w.offset e.bytes) (hsize : w.offset + e.length ≤ bufferSize) :
    ∃ w', nfitPass buffer bufferSize w = .inl w' ∧ Walked w w' [e] := by
  obtain ⟨htype, _, hlength, _⟩ := header_bytes hmem
  have hfour : 4 ≤ e.length := by
    rw [ExtensionTable.length]
    omega
  rw [Nat.mod_eq_of_lt he.length_lt_byte] at hlength
  have hpass : nfitPass buffer bufferSize w = .inl
      ((createExtensionTable (buffer w.offset).toNat buffer w.loaded).advance e.length) := by
    rw [nfitPass, if_pos (by omega)]
    dsimp only
    rw [if_neg (by omega), hlength, NfitWalk.loaded]
  refine ⟨_, hpass, ?_⟩
  have hoffset : ((createExtensionTable (buffer w.offset).toNat buffer w.loaded).advance
      e.length).offset = w.offset + e.length := by
    rw [NfitWalk.advance, createExtensionTable_offset, NfitWalk.loaded]
  have hbytes : ([e].flatMap ExtensionTable.bytes).length = e.length := by
    rw [List.flatMap_singleton, e.length_bytes]
  rcases createExtensionTable_cases (buffer w.offset).toNat buffer w.loaded with
    ⟨t, ht, hadd⟩ | ⟨hno, hskip⟩
  · obtain ⟨hkind, hstruct⟩ := he.kind t (by rw [← htype, ht])
    refine ⟨by rw [hoffset, hbytes], ?_, ?_, ?_⟩
    · rw [hadd, NfitWalk.advance, addToParsedNfit, NfitWalk.loaded]
    · intro s
      rw [hadd, NfitWalk.advance]
      by_cases hs : s = t
      · subst hs
        have hcopy : bytesAt buffer w.offset s.structSize = e.bytes := by
          rw [← hstruct, ← e.length_bytes, hmem.bytesAt_eq]
        simp [addToParsedNfit, NfitWalk.loaded, hkind, hcopy]
      · have hnot : ¬ e.IsKind s := by
          intro hk
          exact hs (subTable_type_injective (hk.symm.trans hkind))
        simp [addToParsedNfit, NfitWalk.loaded, hnot, Function.update_of_ne hs]
    · intro r hr
      rw [hoffset]
      rw [hadd] at hr
      simp only [NfitWalk.advance, addToParsedNfit, NfitWalk.loaded, List.mem_append,
        List.mem_cons, List.not_mem_nil, or_false] at hr
      rcases hr with (hr | rfl | rfl) | rfl
      · exact .inl hr
      · right; dsimp only; omega
      · right; dsimp only; omega
      · right; dsimp only; omega
  · refine ⟨by rw [hoffset, hbytes], ?_, ?_, ?_⟩
    · rw [hskip, NfitWalk.advance, NfitWalk.loaded]
    · intro s
      have hnot : ¬ e.IsKind s := by
        intro hk
        exact hno s (by rw [htype, mod_eq_of_isKind hk])
      rw [hskip]
      simp [NfitWalk.advance, NfitWalk.loaded, hnot]
    · intro r hr
      rw [hoffset]
      rw [hskip] at hr
      simp only [NfitWalk.advance, NfitWalk.loaded, List.mem_append,
        List.mem_cons, List.not_mem_nil, or_false] at hr
      rcases hr with hr | rfl | rfl
      · exact .inl hr
      · right; dsimp only; omega
      · right; dsimp only; omega

/-- The walk along readable sub-tables. -/
private theorem exists_walked (tables : List ExtensionTable) :
    ∀ {w : NfitWalk}, (∀ e ∈ tables, e.Readable) →
      Holds buffer w.offset (tables.flatMap ExtensionTable.bytes) →
      w.offset + (tables.flatMap ExtensionTable.bytes).length ≤ bufferSize →
      ∃ w', LoopReaches (nfitPass buffer bufferSize) w w' ∧ Walked w w' tables := by
  -- Induction from the end, because the states reached are extended at their end.
  induction tables using List.reverseRecOn with
  | nil =>
    intro w _ _ _
    refine ⟨w, .refl, by simp, rfl, by simp, fun r hr => .inl hr⟩
  | append_singleton tables e ih =>
    intro w hread hmem hsize
    simp only [List.flatMap_append, List.flatMap_singleton, List.length_append,
      e.length_bytes] at hmem hsize
    obtain ⟨hfirst, hlast⟩ := holds_append.mp hmem
    obtain ⟨u, hreach, hu⟩ := ih (fun x hx => hread x (List.mem_append_left _ hx)) hfirst (by omega)
    rw [← hu.offset] at hlast
    have hroom : u.offset + e.length ≤ bufferSize := by
      rw [hu.offset]
      omega
    obtain ⟨v, hpass, hv⟩ := exists_walked_single (hread e (by simp)) hlast hroom
    have hvu := hv.offset
    rw [List.flatMap_singleton, e.length_bytes] at hvu
    refine ⟨v, hreach.tail hpass, ?_, hv.nfit.trans hu.nfit, ?_, ?_⟩
    · simp only [List.flatMap_append, List.flatMap_singleton, List.length_append, e.length_bytes]
      rw [hvu, hu.offset, Nat.add_assoc]
    · intro t
      rw [hv.list, hu.list, List.append_assoc, ← List.map_append, ← List.filter_append]
    · intro r hr
      rcases hv.reads r hr with hr | hr
      · rcases hu.reads r hr with hr | hr
        · exact .inl hr
        · exact .inr (by omega)
      · exact .inr hr

/-! ### The parser on well-formed tables -/

/-- On a buffer the parser returns with success what the table says, and it reads no byte outside of
the table. -/
def Nfit.ParsedRight (n : Nfit) (buffer : Bytes) : Prop :=
  ∃ r, Returns (nfitParseRawNfit (some buffer) n.bytes.length) r ∧
    r.error = .success ∧ r.parsed = some n.contents ∧
    ∀ range ∈ r.reads, range.1 + range.2 ≤ n.bytes.length

/-- Two tables have sub-tables of the same types and lengths. -/
def Nfit.SameLayout (n n' : Nfit) : Prop :=
  n.tables.map (fun e => (e.type, e.length)) = n'.tables.map fun e => (e.type, e.length)

/-- The size of a table. -/
private theorem Nfit.length_bytes (n : Nfit) :
    n.bytes.length = 40 + (n.tables.flatMap ExtensionTable.bytes).length := by
  rw [Nfit.bytes, List.length_append, n.header_length, nfitHeaderSize]

/-- A table is not empty. -/
private theorem Nfit.length_bytes_ne_zero (n : Nfit) : n.bytes.length ≠ 0 := by
  rw [n.length_bytes]
  omega

/-- Every sub-table before a given one is walked along, if they are readable. -/
private theorem exists_walked_start {n : Nfit} (hmem : Holds buffer 0 n.bytes)
    {first rest : List ExtensionTable} (htables : n.tables = first ++ rest)
    (hread : ∀ e ∈ first, e.Readable) :
    ∃ w, LoopReaches (nfitPass buffer n.bytes.length) (nfitStart buffer) w ∧
      Walked (nfitStart buffer) w first ∧
      Holds buffer w.offset (rest.flatMap ExtensionTable.bytes) ∧
      w.offset + (rest.flatMap ExtensionTable.bytes).length = n.bytes.length := by
  have hbytes : n.bytes = n.header ++ (first.flatMap ExtensionTable.bytes ++
      rest.flatMap ExtensionTable.bytes) := by
    rw [Nfit.bytes, htables, List.flatMap_append]
  have hlen : n.bytes.length = 40 + ((first.flatMap ExtensionTable.bytes).length +
      (rest.flatMap ExtensionTable.bytes).length) := by
    rw [n.length_bytes, htables, List.flatMap_append, List.length_append]
  rw [hbytes] at hmem
  obtain ⟨_, hbody⟩ := holds_append.mp hmem
  rw [Nat.zero_add, n.header_length] at hbody
  obtain ⟨hfirst, hrest⟩ := holds_append.mp hbody
  have hroom : (nfitStart buffer).offset + (first.flatMap ExtensionTable.bytes).length ≤
      n.bytes.length := by
    rw [hlen, nfitStart, nfitHeaderSize]
    dsimp only
    omega
  obtain ⟨w, hreach, hw⟩ := exists_walked first hread hfirst hroom
  have hoffset := hw.offset
  refine ⟨w, hreach, hw, ?_, ?_⟩
  · rw [hoffset]
    exact hrest
  · rw [hoffset, hlen, nfitStart, nfitHeaderSize]
    dsimp only
    omega

/-- Readable sub-tables are returned. -/
private theorem parsedRight_of_readable {n : Nfit} (hmem : Holds buffer 0 n.bytes)
    (hread : ∀ e ∈ n.tables, e.Readable) : n.ParsedRight buffer := by
  obtain ⟨w, hreach, hw, _, hend⟩ :=
    exists_walked_start hmem (List.append_nil n.tables).symm hread
  rw [List.flatMap_nil, List.length_nil, Nat.add_zero] at hend
  have hexit : nfitPass buffer n.bytes.length w = .inr ⟨.success, some w.parsed, w.reads⟩ := by
    rw [nfitPass, if_neg (by omega)]
  obtain ⟨fuel, hrun⟩ := runLoop_of_reaches hreach (runLoop_succ_of_inr hexit 0)
  have hheader : bytesAt buffer 0 nfitHeaderSize = n.header := by
    rw [Nfit.bytes, holds_append] at hmem
    rw [← n.header_length]
    exact hmem.1.bytesAt_eq
  have hparsed : w.parsed = n.contents := by
    have hlists : w.parsed.list = n.contents.list := by
      funext t
      rw [hw.list t, n.contents_list, nfitStart, List.nil_append]
    have hnfit : w.parsed.nfit = n.contents.nfit := by
      rw [hw.nfit]
      exact hheader
    exact ParsedNfit.ext hnfit hlists
  refine ⟨_, (returns_nfitParseRawNfit_iff n.length_bytes_ne_zero).mpr ⟨fuel, hrun⟩, rfl,
    congrArg some hparsed, ?_⟩
  intro range hrange
  rcases hw.reads range hrange with hr | hr
  · have hr : range = (0, nfitHeaderSize) := by simpa [nfitStart] using hr
    rw [hr, n.length_bytes]
    exact Nat.le_add_right 40 _
  · omega

/-- When the walk comes to a state, and the loop then reports a bad table, the result is not right. -/
private theorem not_parsedRight_of_bad {n : Nfit} {w : NfitWalk}
    (hreach : LoopReaches (nfitPass buffer n.bytes.length) (nfitStart buffer) w)
    {reads : List (ℕ × ℕ)} (hbad : nfitPass buffer n.bytes.length w = .inr ⟨.badNfit, none, reads⟩) :
    ¬ n.ParsedRight buffer := by
  rintro ⟨r, hr, hsuccess, _⟩
  obtain ⟨fuel, hrun⟩ := runLoop_of_reaches hreach (runLoop_succ_of_inr hbad 0)
  rw [returns_nfitParseRawNfit_iff n.length_bytes_ne_zero] at hr
  have heq := hr.unique (fuelMono_runLoop _ _) ⟨fuel, hrun⟩
  rw [heq] at hsuccess
  cases hsuccess

/-- The loop leaves with success only behind the table, with what it has copied. -/
private theorem parsed_of_success {w : NfitWalk} {r : NfitResult}
    (h : nfitPass buffer bufferSize w = .inr r) (hr : r.error = .success) :
    r.parsed = some w.parsed := by
  by_cases hin : w.offset < bufferSize
  · rcases nfitPass_cases buffer hin with ⟨reads, hbad⟩ | ⟨_, hok⟩
    · rw [hbad] at h
      obtain rfl := Sum.inr.inj h
      cases hr
    · rw [hok] at h
      cases h
  · rw [nfitPass, if_neg hin] at h
    obtain rfl := Sum.inr.inj h
    rfl

/-- The structure a pass copies is in the list of its kind when the parser is right. -/
private theorem prefix_contents_of_parsedRight {n : Nfit} {w : NfitWalk} {t : SubTable}
    (hreach : LoopReaches (nfitPass buffer n.bytes.length) (nfitStart buffer) w)
    (hin : w.offset < n.bytes.length) (ht : (buffer w.offset).toNat = t.type)
    (hright : n.ParsedRight buffer) :
    w.parsed.list t ++ [bytesAt buffer w.offset t.structSize] <+: n.contents.list t := by
  rcases nfitPass_cases buffer hin with ⟨reads, hbad⟩ | ⟨_, hok⟩
  · exact absurd hright (not_parsedRight_of_bad hreach hbad)
  obtain ⟨r, hr, hsuccess, hparsed, _⟩ := hright
  rw [returns_nfitParseRawNfit_iff n.length_bytes_ne_zero] at hr
  obtain ⟨fuel, hrun⟩ := hr
  obtain ⟨u, hu, hexit⟩ := exists_exit_of_reaches (hreach.tail hok) hrun
  rw [parsed_of_success hexit hsuccess] at hparsed
  rw [← Option.some.inj hparsed]
  refine List.IsPrefix.trans ?_ (list_prefix_of_reaches hu t)
  rcases createExtensionTable_cases (buffer w.offset).toNat buffer w.loaded with
    ⟨s, hs, hadd⟩ | ⟨hno, _⟩
  · obtain rfl : s = t := subTable_type_injective (hs.trans ht)
    rw [hadd]
    simp [NfitWalk.advance, addToParsedNfit, NfitWalk.loaded]
  · exact absurd ht.symm (hno t)

/-- A sub-table whose type is mistaken, or whose structure has another size, puts a wrong structure
into the list of the kind. -/
private theorem not_parsedRight_of_kind {n : Nfit} (hmem : Holds buffer 0 n.bytes)
    {first rest : List ExtensionTable} {e : ExtensionTable} (htables : n.tables = first ++ e :: rest)
    (hread : ∀ x ∈ first, x.Readable) {t : SubTable} (ht : e.type.toNat % 256 = t.type)
    (hnot : ¬ (e.IsKind t ∧ e.length = t.structSize)) : ¬ n.ParsedRight buffer := by
  intro hright
  obtain ⟨w, hreach, hw, hrest, hend⟩ := exists_walked_start hmem htables hread
  rw [List.flatMap_cons, holds_append] at hrest
  rw [List.flatMap_cons, List.length_append, e.length_bytes] at hend
  obtain ⟨htype, hhigh, _, _⟩ := header_bytes hrest.1
  have hfour : 4 ≤ e.length := Nat.le_add_left 4 _
  have hpre := prefix_contents_of_parsedRight hreach (by omega) (htype.trans ht) hright
  rw [hw.list t, n.contents_list, htables, List.filter_append, List.map_append] at hpre
  simp only [nfitStart, List.nil_append, List.prefix_append_right_inj] at hpre
  by_cases hkind : e.IsKind t
  · -- The structure has another size than the sub-table it was copied from.
    rw [List.filter_cons_of_pos (by simpa using hkind), List.map_cons,
      List.cons_prefix_cons] at hpre
    have hsize := congrArg List.length hpre.1
    rw [length_bytesAt, e.length_bytes] at hsize
    exact hnot ⟨hkind, hsize.symm⟩
  · -- The high byte of the type is that of no sub-table of the kind.
    rw [List.filter_cons_of_neg (by simpa using hkind)] at hpre
    have hin : bytesAt buffer w.offset t.structSize ∈
        (rest.filter fun x => x.IsKind t).map ExtensionTable.bytes :=
      hpre.subset (List.mem_singleton.mpr rfl)
    obtain ⟨x, hx, hbytes⟩ := List.mem_map.mp hin
    have hxkind : x.IsKind t := by simpa using (List.mem_filter.mp hx).2
    obtain ⟨_, hxhigh, _, _⟩ := header_bytes (holds_ofList x.bytes)
    have hone : buffer (w.offset + 1) = ofList x.bytes 1 := by
      have h4 := four_le_structSize t
      rw [hbytes]
      simp [ofList, bytesAt, show 1 < t.structSize by omega]
    have hxtype := subTable_type_lt t
    rw [Nat.zero_add, ← hone, hhigh, hxkind] at hxhigh
    exact hkind (show e.type.toNat = t.type by omega)

/-- A pass that loads the length zero finds the table bad. -/
private theorem nfitPass_of_zero {w : NfitWalk} (hin : w.offset < bufferSize)
    (hzero : buffer (w.offset + 2) = 0) :
    ∃ reads, nfitPass buffer bufferSize w = .inr ⟨.badNfit, none, reads⟩ := by
  rcases nfitPass_cases buffer hin with hbad | ⟨hpos, _⟩
  · exact hbad
  · rw [hzero] at hpos
    exact absurd hpos (by decide)

/-- A sub-table of 256 bytes or more, with zeros behind its length, makes the parser fail. -/
private theorem not_parsedRight_of_long {n : Nfit} (hmem : Holds buffer 0 n.bytes)
    {first rest : List ExtensionTable} {e : ExtensionTable} (htables : n.tables = first ++ e :: rest)
    (hread : ∀ x ∈ first, x.Readable) (hlong : 256 ≤ e.length)
    (hzeros : ∀ i, e.body.getD i 0 = 0) : ¬ n.ParsedRight buffer := by
  obtain ⟨w, hreach, hw, hrest, hend⟩ := exists_walked_start hmem htables hread
  rw [List.flatMap_cons, holds_append] at hrest
  rw [List.flatMap_cons, List.length_append, e.length_bytes] at hend
  obtain ⟨_, _, hlow, hhigh⟩ := header_bytes hrest.1
  have hbound : e.length < 2 ^ 16 := e.length_lt
  have hzero : ∀ i, 4 ≤ i → i < e.length → buffer (w.offset + i) = 0 := by
    intro i hi hlt
    obtain ⟨j, rfl⟩ : ∃ j, i = j + 4 := ⟨i - 4, by omega⟩
    rw [body_byte hrest.1 hlt, hzeros]
  rcases nfitPass_cases buffer (show w.offset < n.bytes.length by omega) with
    ⟨reads, hbad⟩ | ⟨hpos, hok⟩
  · exact not_parsedRight_of_bad hreach hbad
  have hoffset : ((createExtensionTable (buffer w.offset).toNat buffer w.loaded).advance
      (buffer (w.offset + 2)).toNat).offset = w.offset + e.length % 256 := by
    rw [NfitWalk.advance, createExtensionTable_offset, NfitWalk.loaded, hlow]
  have hnext := hreach.tail hok
  generalize (createExtensionTable (buffer w.offset).toNat buffer w.loaded).advance
    (buffer (w.offset + 2)).toNat = v at hoffset hnext
  have hvin : v.offset < n.bytes.length := by omega
  -- The walk is now inside of the sub-table, and in its zeros unless the low byte was one.
  by_cases hone : e.length % 256 = 1
  · rcases nfitPass_cases buffer hvin with ⟨reads, hbad⟩ | ⟨_, hok'⟩
    · exact not_parsedRight_of_bad hnext hbad
    have hlength : (buffer (v.offset + 2)).toNat = e.length / 256 := by
      rw [hoffset, hone, ← hhigh]
    have hoffset' : ((createExtensionTable (buffer v.offset).toNat buffer v.loaded).advance
        (buffer (v.offset + 2)).toNat).offset = w.offset + (1 + e.length / 256) := by
      rw [NfitWalk.advance, createExtensionTable_offset, NfitWalk.loaded, hlength, hoffset, hone,
        Nat.add_assoc]
    have hnext' := hnext.tail hok'
    generalize (createExtensionTable (buffer v.offset).toNat buffer v.loaded).advance
      (buffer (v.offset + 2)).toNat = u at hoffset' hnext'
    have hu : buffer (u.offset + 2) = 0 := by
      rw [hoffset', Nat.add_assoc]
      exact hzero _ (by omega) (by omega)
    obtain ⟨reads, hbad⟩ := nfitPass_of_zero (show u.offset < n.bytes.length by omega) hu
    exact not_parsedRight_of_bad hnext' hbad
  · have hv : buffer (v.offset + 2) = 0 := by
      rw [hoffset, Nat.add_assoc]
      exact hzero _ (by omega) (by omega)
    obtain ⟨reads, hbad⟩ := nfitPass_of_zero hvin hv
    exact not_parsedRight_of_bad hnext hbad

/-! ### The layouts that are parsed right -/

/-- The sub-table with zeros behind its length. -/
private def ExtensionTable.zeroed (e : ExtensionTable) : ExtensionTable where
  type := e.type
  body := List.replicate e.body.length 0
  length_lt := by
    rw [List.length_replicate]
    exact e.length_lt

/-- Zeros behind the length leave the length. -/
private theorem ExtensionTable.length_zeroed (e : ExtensionTable) : e.zeroed.length = e.length := by
  rw [length, length, zeroed, List.length_replicate]

/-- Being readable depends on the type and the length only. -/
private theorem readable_congr {e e' : ExtensionTable} (htype : e.type = e'.type)
    (hlength : e.length = e'.length) (h : e.Readable) : e'.Readable := by
  refine ⟨hlength ▸ h.length_lt_byte, fun t ht => ?_⟩
  rw [← htype] at ht
  obtain ⟨hkind, hsize⟩ := h.kind t ht
  refine ⟨?_, hlength ▸ hsize⟩
  rw [ExtensionTable.IsKind, ← htype]
  exact hkind

/-- The table with zeros behind the lengths. -/
private def Nfit.zeroed (n : Nfit) : Nfit where
  header := n.header
  header_length := n.header_length
  tables := n.tables.map ExtensionTable.zeroed

/-- Zeros behind the lengths leave the layout. -/
private theorem sameLayout_zeroed (n : Nfit) : n.SameLayout n.zeroed := by
  rw [Nfit.SameLayout, Nfit.zeroed, List.map_map]
  apply List.map_congr_left
  intro e _
  rw [Function.comp_apply, e.length_zeroed, ExtensionTable.zeroed]

/-- A sub-table that is not readable spoils a table of the layout. -/
private theorem exists_not_parsedRight {n : Nfit} {first rest : List ExtensionTable}
    {e : ExtensionTable} (htables : n.tables = first ++ e :: rest)
    (hread : ∀ x ∈ first, x.Readable) (hbad : ¬ e.Readable) :
    ∃ n' : Nfit, n.SameLayout n' ∧ ¬ n'.ParsedRight (ofList n'.bytes) := by
  by_cases hlong : 256 ≤ e.length
  · refine ⟨n.zeroed, sameLayout_zeroed n, ?_⟩
    have htables' : n.zeroed.tables = first.map ExtensionTable.zeroed ++
        e.zeroed :: rest.map ExtensionTable.zeroed := by
      rw [Nfit.zeroed, htables, List.map_append, List.map_cons]
    apply not_parsedRight_of_long (holds_ofList _) htables'
    · intro x hx
      obtain ⟨y, hy, rfl⟩ := List.mem_map.mp hx
      exact readable_congr (e := y) rfl y.length_zeroed.symm (hread y hy)
    · rw [e.length_zeroed]
      exact hlong
    · intro i
      by_cases hi : i < e.body.length
      · simp [ExtensionTable.zeroed, hi]
      · simp [ExtensionTable.zeroed, Nat.not_lt.mp hi]
  · refine ⟨n, rfl, ?_⟩
    -- The length is right, so the type or the size of the structure is not.
    have hkind : ¬ ∀ t : SubTable, e.type.toNat % 256 = t.type →
        e.IsKind t ∧ e.length = t.structSize := by
      intro h
      exact hbad ⟨by omega, h⟩
    push Not at hkind
    obtain ⟨t, ht, hnot⟩ := hkind
    exact not_parsedRight_of_kind (holds_ofList _) htables hread ht (fun h => hnot h.1 h.2)

/-- The parser returns on every buffer, and the tables whose sub-tables have given types and lengths
are parsed right, whatever else they hold and whatever is behind them, exactly when each of these
sub-tables is readable. -/
theorem nfitParseRawNfit_layout_iff (n : Nfit) :
    (∀ (buffer : Option Bytes) (bufferSize : ℕ),
      ∃ r, Returns (nfitParseRawNfit buffer bufferSize) r) ∧
    ((∀ n' : Nfit, n.SameLayout n' → ∀ buffer, Holds buffer 0 n'.bytes → n'.ParsedRight buffer) ↔
      ∀ e ∈ n.tables, e.Readable) := by
  refine ⟨exists_returns_nfitParseRawNfit, ⟨?_, ?_⟩⟩
  · intro hright
    by_contra hnot
    classical
    -- The first sub-table that is not readable.
    obtain ⟨e, hfind⟩ : ∃ e, n.tables.find? (fun e => decide (¬ e.Readable)) = some e := by
      push Not at hnot
      obtain ⟨x, hx, hxbad⟩ := hnot
      rw [← Option.isSome_iff_exists, List.find?_isSome]
      exact ⟨x, hx, by simpa using hxbad⟩
    obtain ⟨hbad, first, rest, htables, hfirst⟩ := List.find?_eq_some_iff_append.mp hfind
    have hread : ∀ x ∈ first, x.Readable := fun x hx => by simpa using hfirst x hx
    obtain ⟨n', hlayout, hwrong⟩ := exists_not_parsedRight htables hread (by simpa using hbad)
    exact hwrong (hright n' hlayout _ (holds_ofList _))
  · intro hread n' hlayout buffer hmem
    apply parsedRight_of_readable hmem
    intro e' he'
    have hmem' : (e'.type, e'.length) ∈ n.tables.map fun e => (e.type, e.length) := by
      rw [hlayout]
      exact List.mem_map.mpr ⟨e', he', rfl⟩
    obtain ⟨e, he, heq⟩ := List.mem_map.mp hmem'
    obtain ⟨htype, hlength⟩ := Prod.mk.inj heq
    exact readable_congr htype hlength (hread e he)

/-- A table with one `interleave` of 60 lines: the structure and 60 line offsets are 256 bytes. -/
def sixtyLines : Nfit where
  header := List.replicate 40 0
  header_length := List.length_replicate
  tables := [⟨2, List.replicate 252 1, by rw [List.length_replicate]; decide⟩]

/-- The low byte of the length 256 is zero, so the parser takes the well-formed table for a bad
one. -/
theorem not_parsedRight_sixtyLines :
    Holds (ofList sixtyLines.bytes) 0 sixtyLines.bytes ∧
      ¬ sixtyLines.ParsedRight (ofList sixtyLines.bytes) := by
  refine ⟨holds_ofList _, ?_⟩
  have hin : (nfitStart (ofList sixtyLines.bytes)).offset < sixtyLines.bytes.length := by
    decide +kernel
  have hzero : ofList sixtyLines.bytes ((nfitStart (ofList sixtyLines.bytes)).offset + 2) = 0 := by
    decide +kernel
  obtain ⟨reads, hbad⟩ := nfitPass_of_zero hin hzero
  exact not_parsedRight_of_bad .refl hbad

end IxpDimm
