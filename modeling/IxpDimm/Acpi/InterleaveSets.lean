import IxpDimm.Acpi.Topology
import IxpDimm.Device.Capacities
import IxpDimm.Namespace.Labels

/-!
# The interleave sets from the NFIT

A system physical address range of persistent memory is an interleave set, and the region mappings
that name the range say which DIMMs it has.  `nfit_interleave.c` collects them, each DIMM once, into
arrays of twelve entries that it does not guard; `nfit_utilities.c` hands the sets on to the driver
layer and refuses a set over more than one socket.

`interleave_sets_from_nfit` says which sets there are, and when the arrays are overrun.
-/

namespace IxpDimm.Acpi

open Foundation

/-! ### The tables -/

/-- `struct spa`. -/
structure Spa where
  /-- `spa_range_index`. -/
  spaRangeIndex : UInt16 := 0
  /-- `proximity_domain`. -/
  proximityDomain : UInt32 := 0
  /-- `address_range_type_guid`. -/
  addressRangeTypeGuid : List UInt8 := pmGuid
  /-- `spa_range_base`. -/
  spaRangeBase : UInt64 := 0
  /-- `spa_range_length`. -/
  spaRangeLength : UInt64 := 0
  /-- `address_range_memory_mapping_attribute`. -/
  addressRangeMemoryMappingAttribute : UInt64 := 0
  deriving DecidableEq, Repr

/-- The fields of a range. -/
def Spa.ofBytes (bytes : List UInt8) : Spa where
  spaRangeIndex := .ofNat (fieldAt bytes 4 2)
  proximityDomain := .ofNat (fieldAt bytes 12 4)
  addressRangeTypeGuid := bytesAt (ofList bytes) 16 16
  spaRangeBase := .ofNat (fieldAt bytes 32 8)
  spaRangeLength := .ofNat (fieldAt bytes 40 8)
  addressRangeMemoryMappingAttribute := .ofNat (fieldAt bytes 48 8)

/-- `spa_list`. -/
def spas (nfit : ParsedNfit) : List Spa := (nfit.list .spa).map .ofBytes

/-! ### The sets of the table -/

/-- `NFIT_MAX_DIMMS`. -/
def nfitMaxDimms : ℕ := 12

/-- One entry of the arrays `dimms`, `dimm_region_pdas`, `dimm_region_offsets` and `dimm_sizes`. -/
structure RegionEntry where
  /-- The handle of the DIMM. -/
  handle : UInt32
  /-- Where the region of the DIMM starts. -/
  regionPda : UInt64
  /-- The offset of the region. -/
  regionOffset : UInt64
  /-- What the DIMM contributes to the set. -/
  size : UInt64
  deriving DecidableEq, Repr

/-- The entry of a region mapping. -/
def RegionEntry.ofMapping (mapping : RegionMapping) : RegionEntry where
  handle := mapping.handle
  regionPda := mapping.physicalAddressRegionBase
  regionOffset := mapping.regionOffset
  size := mapping.regionSize

/-- `struct nfit_interleave_set`; its arrays are the list of their `dimm_count` entries. -/
structure NfitInterleaveSet where
  /-- `id`. -/
  id : UInt16
  /-- `proximity_domain`. -/
  proximityDomain : UInt32
  /-- `address`. -/
  address : UInt64
  /-- `size`. -/
  size : UInt64
  /-- `attributes`. -/
  attributes : UInt64
  /-- The DIMMs of the set. -/
  dimms : List RegionEntry := []
  /-- The arrays have `NFIT_MAX_DIMMS` entries. -/
  length_le : dimms.length ≤ nfitMaxDimms := by decide
  deriving DecidableEq, Repr

/-- The arrays have room for one more entry behind `n` others. -/
def hasEntry (n : ℕ) (_ : RegionEntry) : Except Unit Unit :=
  if n < nfitMaxDimms then .ok () else .error ()

/-- The entries that fit into the arrays. -/
private theorem admitAll_hasEntry {n : ℕ} (hn : n ≤ nfitMaxDimms) (entries : List RegionEntry) :
    admitAll hasEntry n entries =
      if n + entries.length ≤ nfitMaxDimms then .ok () else .error () :=
  admitAll_room (fun _ _ => rfl) hn entries

/-- What is collected fits into the arrays. -/
private theorem length_le_of_collected {entries kept dimms : List RegionEntry}
    (hkept : kept.length ≤ nfitMaxDimms)
    (h : collectFirsts RegionEntry.handle hasEntry entries kept = .ok dimms) :
    dimms.length ≤ nfitMaxDimms := by
  rw [collectFirsts_eq, admitAll_hasEntry hkept] at h
  split_ifs at h with hroom
  · rw [← Except.ok.inj h, List.length_append]
    exact hroom
  · cases h

/-- `populate_interleave_set_dimm_info`; none when an entry is written behind the arrays.  The loop
passes over the mappings of other ranges, and over DIMMs that are in the set
(`is_dimm_already_added`). -/
def populateInterleaveSetDimmInfo (nfit : ParsedNfit) (set : NfitInterleaveSet) :
    Option NfitInterleaveSet :=
  match h : collectFirsts RegionEntry.handle hasEntry
      (((regionMappings nfit).filter fun mapping => mapping.spaIndex = set.id).map .ofMapping)
      set.dimms with
  | .error _ => none
  | .ok dimms => some { set with
      dimms := dimms
      length_le := length_le_of_collected set.length_le h }

/-- A set before its DIMMs are filled in. -/
def NfitInterleaveSet.ofSpa (spa : Spa) : NfitInterleaveSet where
  id := spa.spaRangeIndex
  proximityDomain := spa.proximityDomain
  address := spa.spaRangeBase
  size := spa.spaRangeLength
  attributes := spa.addressRangeMemoryMappingAttribute

/-- The loop over the ranges with an array of `count` entries. -/
def fillInterleaveSets (nfit : ParsedNfit) (count : ℕ) : List Spa → List NfitInterleaveSet →
    Option (Except NfitError (List NfitInterleaveSet))
  | [], sets => some (.ok sets)
  | spa :: spas, sets =>
    if pmGuid = spa.addressRangeTypeGuid then
      if count ≤ sets.length then some (.error .badInput)
      else
        (populateInterleaveSetDimmInfo nfit (.ofSpa spa)).bind fun set =>
          fillInterleaveSets nfit count spas (sets ++ [set])
    else fillInterleaveSets nfit count spas sets

/-- The ranges of persistent memory. -/
def pmRanges (ranges : List Spa) : List Spa :=
  ranges.filter fun spa => pmGuid = spa.addressRangeTypeGuid

/-- `nfit_get_interleave_sets_from_parsed_nfit` with an array of `count` entries: the number of sets
and, unless `count` is 0, the sets; none when the arrays of a set are overrun. -/
def nfitGetInterleaveSetsFromParsedNfit (count : ℕ) (nfit : ParsedNfit) :
    Option (Except NfitError (ℕ × List NfitInterleaveSet)) :=
  if count = 0 then some (.ok ((pmRanges (spas nfit)).length, []))
  else (fillInterleaveSets nfit count (spas nfit) []).map
    (Except.map fun sets => (sets.length, sets))

/-! ### The sets of the driver layer -/

/-- The socket of a DIMM. -/
def RegionEntry.socketId (entry : RegionEntry) : UInt8 := (handleSocketId entry.handle).toUInt8

/-- One entry of the arrays of the driver layer. -/
def RegionEntry.toIsetDimm (entry : RegionEntry) : IsetDimm where
  handle := entry.handle
  regionPda := entry.regionPda
  size := entry.size

/-- The socket of a set, that of its first DIMM. -/
def NfitInterleaveSet.socketId (set : NfitInterleaveSet) : UInt8 :=
  match set.dimms with
  | [] => 0
  | entry :: _ => entry.socketId

/-- `nfit_iset_to_nvm_iset` into an entry that is zero. -/
def nfitIsetToNvmIset (set : NfitInterleaveSet) : ReturnCode × NvmInterleaveSet :=
  (if set.dimms.any fun entry => set.socketId != entry.socketId then .errInterleaveSet
    else .success,
    { id := set.id.toUInt8
      socketId := set.socketId
      size := set.size
      attributes := set.attributes
      dimms := set.dimms.map RegionEntry.toIsetDimm
      length_le := by
        rw [List.length_map]
        exact set.length_le.trans (by decide) })

/-- The loop that converts the sets. -/
def convertIsets : List NfitInterleaveSet → Except ReturnCode (List NvmInterleaveSet)
  | [] => .ok []
  | set :: sets =>
    match nfitIsetToNvmIset set with
    | (.success, iset) => (convertIsets sets).map (iset :: ·)
    | (rc, _) => .error rc

/-- `get_interleave_set_count_from_nfit`, when `get_parsed_nfit` returns `parsed`. -/
def getInterleaveSetCountFromNfit (parsed : Except ReturnCode ParsedNfit) :
    Option (Except ReturnCode ℕ) :=
  match parsed with
  | .error rc => some (.error rc)
  | .ok nfit =>
    (nfitGetInterleaveSetsFromParsedNfit 0 nfit).map fun result =>
      match result with
      | .error error => .error (nfitErrToLibErr error)
      | .ok (count, _) => .ok count

/-- `get_interleave_sets_from_nfit`, when `get_parsed_nfit` returns `parsed`: the entries of the array
that are filled; none when the arrays of a set are overrun. -/
def getInterleaveSetsFromNfit (parsed : Except ReturnCode ParsedNfit) (count : UInt8) :
    Option (Except ReturnCode (List NvmInterleaveSet)) :=
  if count = 0 then some (.error .errInvalidParameter)
  else
    match parsed with
    | .error rc => some (.error rc)
    | .ok nfit =>
      (getInterleaveSetCountFromNfit parsed).bind fun result =>
        match result with
        | .error rc => some (.error rc)
        | .ok 0 => some (.ok [])
        | .ok (n + 1) =>
          (nfitGetInterleaveSetsFromParsedNfit (n + 1) nfit).map fun result =>
            match result with
            | .error error => .error (nfitErrToLibErr error)
            | .ok (setCount, sets) =>
              if count.toNat < setCount then .error .errArrayTooSmall else convertIsets sets

/-! ### What the table says -/

section Table

variable (nfit : ParsedNfit)

/-- The DIMMs of a range: of the mappings that name the range, those that are the first of their
handles. -/
def dimmsOf (spa : Spa) : List RegionEntry :=
  firsts RegionEntry.handle
    (((regionMappings nfit).filter fun mapping => mapping.spaIndex = spa.spaRangeIndex).map .ofMapping)

/-- A range of persistent memory has more DIMMs than the arrays have entries. -/
def Overruns (ranges : List Spa) : Prop :=
  ∃ spa ∈ pmRanges ranges, nfitMaxDimms < (dimmsOf nfit spa).length

instance (ranges : List Spa) : Decidable (Overruns nfit ranges) :=
  inferInstanceAs (Decidable (∃ spa ∈ pmRanges ranges, nfitMaxDimms < (dimmsOf nfit spa).length))

/-- The set of a range. -/
def nfitSetOf (spa : Spa) : NfitInterleaveSet where
  id := spa.spaRangeIndex
  proximityDomain := spa.proximityDomain
  address := spa.spaRangeBase
  size := spa.spaRangeLength
  attributes := spa.addressRangeMemoryMappingAttribute
  dimms := (dimmsOf nfit spa).take nfitMaxDimms
  length_le := List.length_take_le _ _

/-- Two DIMMs of a set are on different sockets. -/
def NfitInterleaveSet.SpansSockets (set : NfitInterleaveSet) : Prop :=
  ∃ entry ∈ set.dimms, ∃ other ∈ set.dimms, entry.socketId ≠ other.socketId

instance (set : NfitInterleaveSet) : Decidable set.SpansSockets :=
  inferInstanceAs (Decidable
    (∃ entry ∈ set.dimms, ∃ other ∈ set.dimms, entry.socketId ≠ other.socketId))

end Table

/-! ### One range -/

section Range

variable {nfit : ParsedNfit}

/-- The DIMMs of a range are filled in, if the arrays hold them. -/
private theorem populateInterleaveSetDimmInfo_eq (spa : Spa) :
    populateInterleaveSetDimmInfo nfit (.ofSpa spa) =
      if (dimmsOf nfit spa).length ≤ nfitMaxDimms then some (nfitSetOf nfit spa) else none := by
  have hcollect : collectFirsts RegionEntry.handle hasEntry
      (((regionMappings nfit).filter fun mapping =>
        mapping.spaIndex = (NfitInterleaveSet.ofSpa spa).id).map .ofMapping)
      (NfitInterleaveSet.ofSpa spa).dimms =
        if (dimmsOf nfit spa).length ≤ nfitMaxDimms then .ok (dimmsOf nfit spa) else .error () := by
    rw [collectFirsts_eq, admitAll_hasEntry (NfitInterleaveSet.ofSpa spa).length_le]
    change Except.map _ (if 0 + (dimmsOf nfit spa).length ≤ nfitMaxDimms then _ else _) = _
    rw [Nat.zero_add]
    split_ifs <;> rfl
  unfold populateInterleaveSetDimmInfo
  split
  · next heq =>
    rw [hcollect] at heq
    split_ifs at heq with hroom
    rw [if_neg hroom]
  · next dimms heq =>
    rw [hcollect] at heq
    split_ifs at heq with hroom
    obtain rfl : (dimmsOf nfit spa).take nfitMaxDimms = dimms :=
      (List.take_of_length_le hroom).trans (Except.ok.inj heq)
    rw [if_pos hroom]
    rfl

/-- A range in front of others, as one of persistent memory or not. -/
private theorem pmRanges_cons (spa : Spa) (ranges : List Spa) : pmRanges (spa :: ranges) =
    if pmGuid = spa.addressRangeTypeGuid then spa :: pmRanges ranges else pmRanges ranges := by
  rw [pmRanges, List.filter_cons]
  exact if_congr decide_eq_true_iff rfl rfl

/-- The sets of the ranges of persistent memory are filled in, one behind the other. -/
private theorem fillInterleaveSets_eq {count : ℕ} (ranges : List Spa) {sets : List NfitInterleaveSet}
    (hcount : sets.length + (pmRanges ranges).length ≤ count) :
    fillInterleaveSets nfit count ranges sets = if Overruns nfit ranges then none
      else some (.ok (sets ++ (pmRanges ranges).map (nfitSetOf nfit))) := by
  induction ranges generalizing sets with
  | nil => rw [fillInterleaveSets, if_neg (by simp [Overruns, pmRanges]), pmRanges, List.filter_nil,
      List.map_nil, List.append_nil]
  | cons spa ranges ih =>
    rw [fillInterleaveSets]
    by_cases hpm : pmGuid = spa.addressRangeTypeGuid
    · have hranges : pmRanges (spa :: ranges) = spa :: pmRanges ranges :=
        (pmRanges_cons spa ranges).trans (if_pos hpm)
      have hoverruns : Overruns nfit (spa :: ranges) ↔
          nfitMaxDimms < (dimmsOf nfit spa).length ∨ Overruns nfit ranges := by
        rw [Overruns, hranges, List.exists_mem_cons_iff, Overruns]
      rw [hranges, List.length_cons] at hcount
      rw [if_pos hpm, if_neg (by omega), populateInterleaveSetDimmInfo_eq]
      by_cases hroom : (dimmsOf nfit spa).length ≤ nfitMaxDimms
      · have hrest : (sets ++ [nfitSetOf nfit spa]).length + (pmRanges ranges).length ≤ count := by
          rw [List.length_append, List.length_singleton]
          omega
        rw [if_pos hroom, Option.bind_some, ih hrest, hranges, List.map_cons, List.append_assoc,
          List.singleton_append]
        exact if_congr (hoverruns.trans (or_iff_right hroom.not_gt)).symm rfl rfl
      · rw [if_neg hroom, Option.bind_none, if_pos (hoverruns.mpr (.inl (not_le.mp hroom)))]
    · have hranges : pmRanges (spa :: ranges) = pmRanges ranges :=
        (pmRanges_cons spa ranges).trans (if_neg hpm)
      rw [hranges] at hcount
      rw [if_neg hpm, ih hcount, hranges]
      refine if_congr ?_ rfl rfl
      rw [Overruns, Overruns, hranges]

end Range

/-! ### All ranges -/

section Sets

variable {nfit : ParsedNfit}

/-- The sets of the table. -/
private theorem nfitGetInterleaveSetsFromParsedNfit_eq {count : ℕ} (hcount : count ≠ 0)
    (hroom : (pmRanges (spas nfit)).length ≤ count) :
    nfitGetInterleaveSetsFromParsedNfit count nfit =
      if Overruns nfit (spas nfit) then none
      else some (.ok ((pmRanges (spas nfit)).length,
        (pmRanges (spas nfit)).map (nfitSetOf nfit))) := by
  rw [nfitGetInterleaveSetsFromParsedNfit, if_neg hcount,
    fillInterleaveSets_eq (spas nfit) (by rw [List.length_nil, Nat.zero_add]; exact hroom)]
  split_ifs
  · rfl
  · rw [List.nil_append, Option.map_some, Except.map, List.length_map]

/-- A set is on the socket of its first DIMM, unless two of its DIMMs are on different ones. -/
private theorem any_socketId_iff (set : NfitInterleaveSet) :
    (set.dimms.any fun entry => set.socketId != entry.socketId) = true ↔ set.SpansSockets := by
  rw [List.any_eq_true, NfitInterleaveSet.socketId, NfitInterleaveSet.SpansSockets]
  cases set.dimms with
  | nil => simp
  | cons first dimms =>
    dsimp only
    constructor
    · rintro ⟨entry, hmem, hne⟩
      exact ⟨first, List.mem_cons_self, entry, hmem, bne_iff_ne.mp hne⟩
    · rintro ⟨entry, hentry, other, hother, hne⟩
      by_cases heq : first.socketId = entry.socketId
      · exact ⟨other, hother, bne_iff_ne.mpr (heq ▸ hne)⟩
      · exact ⟨entry, hentry, bne_iff_ne.mpr heq⟩

/-- The sets are converted if each of them is on one socket. -/
private theorem convertIsets_eq (sets : List NfitInterleaveSet) :
    convertIsets sets = if ∃ set ∈ sets, set.SpansSockets then .error .errInterleaveSet
      else .ok (sets.map fun set => (nfitIsetToNvmIset set).2) := by
  induction sets with
  | nil => rw [convertIsets, if_neg (by simp), List.map_nil]
  | cons set sets ih =>
    have hcode : (nfitIsetToNvmIset set).1 =
        if set.SpansSockets then .errInterleaveSet else .success := by
      rw [nfitIsetToNvmIset]
      exact if_congr (any_socketId_iff set) rfl rfl
    rw [convertIsets, ← Prod.eta (nfitIsetToNvmIset set), hcode]
    simp only [List.exists_mem_cons_iff]
    by_cases hspans : set.SpansSockets
    · rw [if_pos hspans, if_pos (.inl hspans)]
      rfl
    · rw [if_neg hspans]
      dsimp only
      rw [ih]
      simp only [hspans, false_or]
      split_ifs <;> rfl

/-- The number of sets. -/
private theorem getInterleaveSetCountFromNfit_eq (nfit : ParsedNfit) :
    getInterleaveSetCountFromNfit (.ok nfit) = some (.ok (pmRanges (spas nfit)).length) := rfl

/-- The entries of the sets. -/
private theorem getInterleaveSetsFromNfit_eq (nfit : ParsedNfit) (count : UInt8) :
    getInterleaveSetsFromNfit (.ok nfit) count =
      if count = 0 then some (.error .errInvalidParameter)
      else if Overruns nfit (spas nfit) then none
      else if count.toNat < (pmRanges (spas nfit)).length then some (.error .errArrayTooSmall)
      else if ∃ spa ∈ pmRanges (spas nfit), (nfitSetOf nfit spa).SpansSockets then
        some (.error .errInterleaveSet)
      else some (.ok ((pmRanges (spas nfit)).map fun spa =>
        (nfitIsetToNvmIset (nfitSetOf nfit spa)).2)) := by
  rw [getInterleaveSetsFromNfit]
  refine if_congr Iff.rfl rfl ?_
  rw [getInterleaveSetCountFromNfit_eq, Option.bind_some]
  cases hlength : (pmRanges (spas nfit)).length with
  | zero =>
    have hnone := List.length_eq_zero_iff.mp hlength
    have hoverruns : ¬ Overruns nfit (spas nfit) := by simp [Overruns, hnone]
    rw [if_neg hoverruns, if_neg (Nat.not_lt_zero _), hnone, if_neg (by simp)]
    rfl
  | succ n =>
    dsimp only
    rw [nfitGetInterleaveSetsFromParsedNfit_eq (Nat.succ_ne_zero n) hlength.le, hlength]
    by_cases hoverruns : Overruns nfit (spas nfit)
    · rw [if_pos hoverruns, if_pos hoverruns]
      rfl
    · rw [if_neg hoverruns, if_neg hoverruns, Option.map_some]
      dsimp only
      rw [convertIsets_eq, List.map_map]
      simp only [List.mem_map, exists_exists_and_eq_and]
      split_ifs <;> rfl

/-- The DIMMs of a converted set are different, and on its socket if the set is on one. -/
private theorem dimms_nfitIsetToNvmIset (spa : Spa) (h : ¬ (nfitSetOf nfit spa).SpansSockets)
    {set : NvmInterleaveSet} (hset : (nfitIsetToNvmIset (nfitSetOf nfit spa)).2 = set) :
    (set.dimms.map IsetDimm.handle).Nodup ∧
      ∀ dimm ∈ set.dimms, (handleSocketId dimm.handle).toUInt8 = set.socketId := by
  obtain rfl := hset
  constructor
  · have hhandles : (nfitIsetToNvmIset (nfitSetOf nfit spa)).2.dimms.map IsetDimm.handle =
        ((dimmsOf nfit spa).take nfitMaxDimms).map RegionEntry.handle :=
      List.map_map
    rw [hhandles]
    exact (nodup_firstsFrom [] _).sublist ((List.take_sublist _ _).map _)
  · intro dimm hmem
    obtain ⟨entry, hentry, rfl⟩ := List.mem_map.mp hmem
    by_contra hne
    refine h ((any_socketId_iff _).mp (List.any_eq_true.mpr ⟨entry, hentry, ?_⟩))
    exact bne_iff_ne.mpr fun heq => hne heq.symm

end Sets

/-- There is a set for each range of persistent memory: its DIMMs are those of the mappings that name
the range, each once and in the order in which they come up.  A range with more than twelve DIMMs
overruns the arrays; otherwise the array must be large enough, and no set may be over more than one
socket. -/
theorem interleave_sets_from_nfit (nfit : ParsedNfit) (count : UInt8) :
    (getInterleaveSetsFromNfit (.ok nfit) count =
      if count = 0 then some (.error .errInvalidParameter)
      else if Overruns nfit (spas nfit) then none
      else if count.toNat < (pmRanges (spas nfit)).length then some (.error .errArrayTooSmall)
      else if ∃ spa ∈ pmRanges (spas nfit), (nfitSetOf nfit spa).SpansSockets then
        some (.error .errInterleaveSet)
      else some (.ok ((pmRanges (spas nfit)).map fun spa =>
        (nfitIsetToNvmIset (nfitSetOf nfit spa)).2))) ∧
      ∀ sets, getInterleaveSetsFromNfit (.ok nfit) count = some (.ok sets) → ∀ set ∈ sets,
        (set.dimms.map IsetDimm.handle).Nodup ∧
          ∀ dimm ∈ set.dimms, (handleSocketId dimm.handle).toUInt8 = set.socketId := by
  refine ⟨getInterleaveSetsFromNfit_eq nfit count, fun sets h set hmem => ?_⟩
  rw [getInterleaveSetsFromNfit_eq] at h
  split_ifs at h with hcount hoverruns hroom hspans
  · cases h
  · cases h
  · cases h
  · rw [← Except.ok.inj (Option.some.inj h)] at hmem
    obtain ⟨spa, hspa, hset⟩ := List.mem_map.mp hmem
    exact dimms_nfitIsetToNvmIset spa (fun hone => hspans ⟨spa, hspa, hone⟩) hset

end IxpDimm.Acpi
