import IxpDimm.Pool.Contents
import Mathlib.Algebra.BigOperators.Group.List.Basic
import Mathlib.Algebra.Order.BigOperators.Group.List

/-!
# The set that an interleave set of the driver is converted to

`nvm_interleave_to_interleave` writes the unique id of a DIMM to the entry of the set at the position
that the DIMM has in the set of the driver, and counts the DIMMs it finds.  The entries that are read
afterwards are as many leading ones as were counted.  They are the DIMMs that were found exactly when
no entry names several DIMMs and none that names a DIMM comes behind one that does not
(`members_eq_iff`).

The free size of the set is shared out among its DIMMs when they are added to their pool, except that
each DIMM of a set that is not interleaved brings in the whole of it.  `convertsSoundly_iff` says when
the converted set lists its DIMMs and adds no more free capacity to a pool than its size.
-/

namespace IxpDimm

open Foundation

/-! ### Entries and DIMMs -/

/-- The manageable DIMMs that entries of a set name, entry by entry. -/
def foundDimms (data : PoolData) (entries : List IsetDimm) : List PoolDimmData :=
  entries.flatMap fun entry => dimmsWithHandle data entry.handle

/-- The text that the inner loop leaves in the entry of the converted set. -/
def writtenUid (data : PoolData) (entry : IsetDimm) : Uid :=
  ((dimmsWithHandle data entry.handle).getLast?.map fun dimm => dimm.discovery.uid).getD []

/-- Leading entries name one manageable DIMM each, and the others none. -/
def EntriesPacked (data : PoolData) (entries : List IsetDimm) : Prop :=
  ∃ named missing, entries = named ++ missing ∧
    (∀ entry ∈ named, (dimmsWithHandle data entry.handle).length = 1) ∧
    ∀ entry ∈ missing, (dimmsWithHandle data entry.handle).length = 0

/-- What the loops of `nvm_interleave_to_interleave` keep of a set. -/
structure SameSizes (set set' : InterleaveSet) : Prop where
  /-- The size. -/
  size_eq : set'.size = set.size
  /-- The free size. -/
  available_eq : set'.availableSize = set.availableSize

/-- The loop over the DIMMs with a handle counts them and leaves the entries and the sizes. -/
theorem foldl_joinDimm (data : PoolData) (iset : NvmInterleaveSet) (entry : IsetDimm)
    (found : List PoolDimmData) (state : InterleaveSet × Bool) :
    (found.foldl (joinDimm data iset entry) state).1.dimms = state.1.dimms ∧
      (found.foldl (joinDimm data iset entry) state).1.dimmCount =
        state.1.dimmCount + found.length ∧
      SameSizes state.1 (found.foldl (joinDimm data iset entry) state).1 := by
  induction found generalizing state with
  | nil => exact ⟨rfl, rfl, rfl, rfl⟩
  | cons dimm found ih =>
    obtain ⟨hdimms, hcount, hsize, havailable⟩ := ih (joinDimm data iset entry state dimm)
    have hone : (joinDimm data iset entry state dimm).1.dimmCount = state.1.dimmCount + 1 := rfl
    refine ⟨hdimms, ?_, hsize, havailable⟩
    rw [List.foldl_cons, hcount, hone, List.length_cons]
    omega

/-- The loop over the entries of a set writes one entry for each, and counts the DIMMs. -/
theorem foldl_joinEntry (data : PoolData) (iset : NvmInterleaveSet) (entries : List IsetDimm)
    (set : InterleaveSet) :
    (entries.foldl (joinEntry data iset) set).dimms =
        set.dimms ++ entries.map (writtenUid data) ∧
      (entries.foldl (joinEntry data iset) set).dimmCount =
        set.dimmCount + (foundDimms data entries).length ∧
      SameSizes set (entries.foldl (joinEntry data iset) set) := by
  induction entries generalizing set with
  | nil => exact ⟨(List.append_nil _).symm, rfl, rfl, rfl⟩
  | cons entry entries ih =>
    obtain ⟨hdimms, hcount, hsize, havailable⟩ := ih (joinEntry data iset set entry)
    obtain ⟨hkeep, hadd, hsize', havailable'⟩ := foldl_joinDimm data iset entry
      (dimmsWithHandle data entry.handle) (set, false)
    have hentry : (joinEntry data iset set entry).dimms = set.dimms ++ [writtenUid data entry] := by
      rw [joinEntry]
      dsimp only
      rw [hkeep, writtenUid]
    refine ⟨?_, ?_, hsize.trans hsize', havailable.trans havailable'⟩
    · rw [List.foldl_cons, hdimms, hentry, List.map_cons, List.append_assoc, List.singleton_append]
    · have hone : (joinEntry data iset set entry).dimmCount =
          set.dimmCount + (dimmsWithHandle data entry.handle).length := hadd
      have hcons : foundDimms data (entry :: entries) =
          dimmsWithHandle data entry.handle ++ foundDimms data entries := List.flatMap_cons
      rw [List.foldl_cons, hcount, hone, hcons, List.length_append, Nat.add_assoc]

/-- A set that is marked as failed. -/
def markFailed (set : InterleaveSet) : InterleaveSet :=
  { set with health := .failed, encryption := .off, eraseCapable := false }

/-- The set that `nvm_interleave_to_interleave` starts from. -/
def startSet (data : PoolData) (iset : NvmInterleaveSet) : InterleaveSet where
  driverId := iset.id.toUInt32
  size := iset.size
  availableSize := calculateIsetFreeCapacity data iset.id.toUInt32 iset.size
  socketId := iset.socketId
  health := if iset.dimms = [] then .unknown else .normal
  encryption := if iset.dimms = [] then .off else .on
  eraseCapable := iset.dimms ≠ []

/-- `nvm_interleave_to_interleave` runs its loop, and may mark the set as failed in the end. -/
theorem nvmInterleaveToInterleave_eq (data : PoolData) (iset : NvmInterleaveSet) :
    nvmInterleaveToInterleave data iset =
        iset.dimms.foldl (joinEntry data iset) (startSet data iset) ∨
      nvmInterleaveToInterleave data iset =
        markFailed (iset.dimms.foldl (joinEntry data iset) (startSet data iset)) := by
  have hunfold : nvmInterleaveToInterleave data iset =
      if (iset.dimms.foldl (joinEntry data iset) (startSet data iset)).dimmCount ≠
          iset.dimms.length then
        markFailed (iset.dimms.foldl (joinEntry data iset) (startSet data iset))
      else iset.dimms.foldl (joinEntry data iset) (startSet data iset) := rfl
  rw [hunfold]
  split_ifs
  · exact Or.inr rfl
  · exact Or.inl rfl

/-- The entries, the number of DIMMs and the sizes of a converted set. -/
theorem nvmInterleaveToInterleave_spec (data : PoolData) (iset : NvmInterleaveSet) :
    (nvmInterleaveToInterleave data iset).dimms = iset.dimms.map (writtenUid data) ∧
      (nvmInterleaveToInterleave data iset).dimmCount = (foundDimms data iset.dimms).length ∧
      SameSizes (startSet data iset) (nvmInterleaveToInterleave data iset) := by
  obtain ⟨hdimms, hcount, hsizes⟩ := foldl_joinEntry data iset iset.dimms (startSet data iset)
  have hcount' : (iset.dimms.foldl (joinEntry data iset) (startSet data iset)).dimmCount =
      (foundDimms data iset.dimms).length := hcount.trans (Nat.zero_add _)
  rcases nvmInterleaveToInterleave_eq data iset with h | h
  · rw [h]
    exact ⟨hdimms, hcount', hsizes⟩
  · rw [h]
    exact ⟨hdimms, hcount', hsizes.size_eq, hsizes.available_eq⟩

/-! ### The entries that are read -/

/-- As long as no more entries are read than were written, they are the leading ones. -/
theorem InterleaveSet.members_eq_take {set : InterleaveSet} (h : set.dimmCount ≤ set.dimms.length) :
    set.members = set.dimms.take set.dimmCount := by
  refine List.ext_getElem ?_ fun i hi hi' => ?_
  · rw [InterleaveSet.members, List.length_map, List.length_range, List.length_take]
    exact (min_eq_left h).symm
  · rw [List.length_take] at hi'
    have hlt : i < set.dimms.length := lt_of_lt_of_le hi' (min_le_right _ _)
    simp only [InterleaveSet.members, List.getElem_map, List.getElem_range, List.getElem_take,
      List.getD_eq_getElem?_getD, List.getElem?_eq_getElem hlt, Option.getD_some]

/-- Numbers from one on whose sum is their count are all one. -/
private theorem eq_one_of_sum_eq_length {counts : List ℕ} (hpos : ∀ n ∈ counts, 1 ≤ n)
    (hsum : counts.sum ≤ counts.length) : ∀ n ∈ counts, n = 1 := by
  induction counts with
  | nil => exact List.forall_mem_nil _
  | cons n counts ih =>
    obtain ⟨hn, hrest⟩ := List.forall_mem_cons.mp hpos
    have hle := List.length_le_sum_of_one_le counts hrest
    rw [List.sum_cons, List.length_cons] at hsum
    refine List.forall_mem_cons.mpr ⟨?_, ih hrest ?_⟩
    · omega
    · omega

/-- The entry of a handle stays empty exactly when no DIMM has the handle. -/
theorem writtenUid_eq_nil_iff (data : PoolData) (entry : IsetDimm) :
    writtenUid data entry = [] ↔ dimmsWithHandle data entry.handle = [] := by
  rw [writtenUid]
  rcases hlast : (dimmsWithHandle data entry.handle).getLast? with - | dimm
  · exact iff_of_true rfl (List.getLast?_eq_none_iff.mp hlast)
  · refine iff_of_false dimm.discovery.uid_ne_nil fun hnil => ?_
    rw [hnil] at hlast
    cases hlast

/-- The number of the DIMMs that entries name is the sum over the entries. -/
private theorem length_foundDimms (data : PoolData) (entries : List IsetDimm) :
    (foundDimms data entries).length =
      (entries.map fun entry => (dimmsWithHandle data entry.handle).length).sum := by
  rw [foundDimms, List.length_flatMap]

/-- Entries that name one DIMM each are written with the unique ids of the DIMMs they name. -/
private theorem map_writtenUid {data : PoolData} {entries : List IsetDimm}
    (h : ∀ entry ∈ entries, (dimmsWithHandle data entry.handle).length = 1) :
    entries.map (writtenUid data) =
      (foundDimms data entries).map fun dimm => dimm.discovery.uid := by
  induction entries with
  | nil => rfl
  | cons entry entries ih =>
    obtain ⟨hone, hrest⟩ := List.forall_mem_cons.mp h
    obtain ⟨dimm, hdimm⟩ := List.length_eq_one_iff.mp hone
    have huid : writtenUid data entry = dimm.discovery.uid := by
      rw [writtenUid, hdimm]
      rfl
    have hcons : foundDimms data (entry :: entries) = dimm :: foundDimms data entries := by
      rw [foundDimms, List.flatMap_cons, hdimm]
      rfl
    rw [List.map_cons, huid, ih hrest, hcons, List.map_cons]

/-- Leading entries that name one DIMM each are all that counts. -/
private theorem foundDimms_packed {data : PoolData} {named missing : List IsetDimm}
    (hnamed : ∀ entry ∈ named, (dimmsWithHandle data entry.handle).length = 1)
    (hmissing : ∀ entry ∈ missing, (dimmsWithHandle data entry.handle).length = 0) :
    foundDimms data (named ++ missing) = foundDimms data named ∧
      (foundDimms data named).length = named.length := by
  have hnil : foundDimms data missing = [] :=
    List.flatMap_eq_nil_iff.mpr fun entry hentry =>
      List.eq_nil_of_length_eq_zero (hmissing entry hentry)
  constructor
  · rw [foundDimms, List.flatMap_append]
    exact (congrArg _ hnil).trans (List.append_nil _)
  · have hlength := congrArg List.length (map_writtenUid hnamed)
    rw [List.length_map, List.length_map] at hlength
    exact hlength.symm

/-- The entries that are read are the DIMMs that were found exactly when leading entries name one
DIMM each and the others none. -/
theorem members_eq_iff (data : PoolData) (iset : NvmInterleaveSet) :
    (nvmInterleaveToInterleave data iset).members =
        (foundDimms data iset.dimms).map (fun dimm => dimm.discovery.uid) ↔
      EntriesPacked data iset.dimms := by
  obtain ⟨hdimms, hcount, -⟩ := nvmInterleaveToInterleave_spec data iset
  constructor
  · intro hmembers
    -- no entry that is read is empty, so there are as many entries as DIMMs
    have hread : ∀ i < (foundDimms data iset.dimms).length,
        (iset.dimms.map (writtenUid data)).getD i [] ≠ [] := by
      intro i hi hnil
      have hmem : ([] : Uid) ∈ (nvmInterleaveToInterleave data iset).members := by
        rw [InterleaveSet.members, hdimms, hcount]
        exact List.mem_map.mpr ⟨i, List.mem_range.mpr hi, hnil⟩
      rw [hmembers] at hmem
      obtain ⟨dimm, -, hdimm⟩ := List.mem_map.mp hmem
      exact dimm.discovery.uid_ne_nil hdimm
    have hle : (foundDimms data iset.dimms).length ≤ iset.dimms.length := by
      by_contra hlt
      apply hread iset.dimms.length (not_le.mp hlt)
      rw [List.getD_eq_getElem?_getD, List.getElem?_eq_none (List.length_map ..).le,
        Option.getD_none]
    refine ⟨iset.dimms.take (foundDimms data iset.dimms).length,
      iset.dimms.drop (foundDimms data iset.dimms).length, (List.take_append_drop _ _).symm, ?_⟩
    have hpos : ∀ entry ∈ iset.dimms.take (foundDimms data iset.dimms).length,
        1 ≤ (dimmsWithHandle data entry.handle).length := by
      intro entry hentry
      obtain ⟨i, hi, rfl⟩ := List.mem_iff_getElem.mp hentry
      rw [List.length_take] at hi
      have hne := hread i (lt_of_lt_of_le hi (min_le_left _ _))
      rw [List.getD_eq_getElem?_getD, List.getElem?_map,
        List.getElem?_eq_getElem (lt_of_lt_of_le hi (min_le_right _ _)), Option.map_some,
        Option.getD_some] at hne
      rw [List.getElem_take, Nat.one_le_iff_ne_zero, Ne, List.length_eq_zero_iff,
        ← writtenUid_eq_nil_iff]
      exact hne
    -- each of the leading entries names a DIMM, and all entries together name no more than these
    have htotal := length_foundDimms data iset.dimms
    rw [← List.take_append_drop (foundDimms data iset.dimms).length iset.dimms, List.map_append,
      List.sum_append, List.take_append_drop] at htotal
    have hlength : ((iset.dimms.take (foundDimms data iset.dimms).length).map fun entry =>
        (dimmsWithHandle data entry.handle).length).length =
          (foundDimms data iset.dimms).length := by
      rw [List.length_map, List.length_take, min_eq_left hle]
    have hpos' := List.forall_mem_map.mpr hpos
    have hsum := List.length_le_sum_of_one_le _ hpos'
    constructor
    · exact List.forall_mem_map.mp (eq_one_of_sum_eq_length hpos' (by omega))
    · have hzero : ((iset.dimms.drop (foundDimms data iset.dimms).length).map fun entry =>
          (dimmsWithHandle data entry.handle).length).sum = 0 := by omega
      exact List.forall_mem_map.mp (List.sum_eq_zero_iff.mp hzero)
  · rintro ⟨named, missing, hentries, hnamed, hmissing⟩
    obtain ⟨hfound, hlength⟩ := foundDimms_packed hnamed hmissing
    rw [InterleaveSet.members_eq_take, hdimms, hcount, hentries, hfound, hlength, List.map_append,
      List.take_append_of_le_length (List.length_map ..).ge, List.take_of_length_le
        (List.length_map ..).le, map_writtenUid hnamed]
    rw [hdimms, hcount, hentries, hfound, hlength, List.length_map, List.length_append]
    exact Nat.le_add_right _ _

/-! ### Sizes, mirroring and format -/

/-- The namespace is on the interleave set. -/
def isNamespaceOf (iset : NvmInterleaveSet) (ns : NvmNamespaceDetails) : Bool :=
  ns.type = .appDirect ∧ ns.interleaveSetid = iset.id.toUInt32

/-- What the namespaces of an interleave set take of it, over the exact integers. -/
def usedSize (data : PoolData) (iset : NvmInterleaveSet) : ℕ :=
  ((data.namespaceList.filter (isNamespaceOf iset)).map fun ns =>
    (ns.blockCount * ns.blockSize.toUInt64).toNat).sum

/-- What the namespaces leave of an interleave set. -/
def freeSize (data : PoolData) (iset : NvmInterleaveSet) : ℕ :=
  iset.size.toNat - usedSize data iset

/-- Reducing a capacity is the truncated subtraction. -/
private theorem toNat_reduceCapacity (current less : UInt64) :
    (reduceCapacity current less).toNat = current.toNat - less.toNat := by
  unfold reduceCapacity
  split_ifs with h
  · have hle := UInt64.le_iff_toNat_le.mp h
    exact (Nat.sub_eq_zero_of_le hle).symm
  · rw [ge_iff_le, UInt64.le_iff_toNat_le, not_le] at h
    exact toNat_sub_of_toNat_le h.le

/-- The free size of a converted set is what its namespaces leave. -/
theorem toNat_availableSize (data : PoolData) (iset : NvmInterleaveSet) :
    (nvmInterleaveToInterleave data iset).availableSize.toNat = freeSize data iset := by
  have hfold : ∀ (namespaces : List NvmNamespaceDetails) (available : UInt64),
      (namespaces.foldl (fun available ns =>
        if ns.type = .appDirect ∧ ns.interleaveSetid = iset.id.toUInt32 then
          reduceCapacity available (ns.blockCount * ns.blockSize.toUInt64)
        else available) available).toNat =
      available.toNat - ((namespaces.filter (isNamespaceOf iset)).map fun ns =>
        (ns.blockCount * ns.blockSize.toUInt64).toNat).sum := by
    intro namespaces
    induction namespaces with
    | nil => exact fun available => rfl
    | cons ns namespaces ih =>
      intro available
      rw [List.foldl_cons, ih]
      by_cases hns : ns.type = .appDirect ∧ ns.interleaveSetid = iset.id.toUInt32
      · have hyes : isNamespaceOf iset ns = true := decide_eq_true hns
        rw [if_pos hns, toNat_reduceCapacity, List.filter_cons_of_pos hyes, List.map_cons,
          List.sum_cons, Nat.sub_sub]
      · have hnot : ¬ isNamespaceOf iset ns = true := fun h => hns (of_decide_eq_true h)
        rw [if_neg hns, List.filter_cons_of_neg hnot]
  rw [(nvmInterleaveToInterleave_spec data iset).2.2.available_eq]
  exact hfold data.namespaceList iset.size

/-- The index and the format that the platform config data of the DIMMs of some entries leaves, one
DIMM asked after the other. -/
def formatRead (data : PoolData) (entries : List IsetDimm)
    (state : UInt32 × InterleaveFormat) : UInt32 × InterleaveFormat :=
  entries.foldl (fun state entry => (dimmsWithHandle data entry.handle).foldl (fun state dimm =>
    (data.fillSettings dimm.discovery.deviceHandle entry.regionPda state).2) state) state

/-- A set that has found a DIMM knows whether it is mirrored. -/
private theorem mirrored_foldl_joinEntry (data : PoolData) (iset : NvmInterleaveSet)
    (entries : List IsetDimm) (set : InterleaveSet)
    (h : foundDimms data entries ≠ [] ∨ set.mirrored = mirroredInterleave iset.attributes) :
    (entries.foldl (joinEntry data iset) set).mirrored = mirroredInterleave iset.attributes := by
  have hjoin : ∀ (entry : IsetDimm) (found : List PoolDimmData) (state : InterleaveSet × Bool),
      found ≠ [] ∨ state.1.mirrored = mirroredInterleave iset.attributes →
      (found.foldl (joinDimm data iset entry) state).1.mirrored =
        mirroredInterleave iset.attributes := by
    intro entry found
    induction found with
    | nil => exact fun state h => h.resolve_left fun hne => hne rfl
    | cons dimm found ih => exact fun state _ => ih _ (Or.inr rfl)
  induction entries generalizing set with
  | nil => exact h.resolve_left fun hne => hne rfl
  | cons entry entries ih =>
    rw [List.foldl_cons]
    apply ih
    by_cases hfound : dimmsWithHandle data entry.handle = []
    · rcases h with h | h
      · refine Or.inl fun hnil => h ?_
        rw [foundDimms, List.flatMap_cons, hfound]
        exact hnil
      · exact Or.inr (hjoin entry _ (set, false) (Or.inr h))
    · exact Or.inr (hjoin entry _ (set, false) (Or.inl hfound))

/-- As long as no entry names several DIMMs, the set has the index and the format that are read. -/
private theorem settings_foldl_joinEntry (data : PoolData) (iset : NvmInterleaveSet)
    (entries : List IsetDimm)
    (hle : ∀ entry ∈ entries, (dimmsWithHandle data entry.handle).length ≤ 1)
    (set : InterleaveSet) :
    ((entries.foldl (joinEntry data iset) set).setIndex,
        (entries.foldl (joinEntry data iset) set).settings) =
      formatRead data entries (set.setIndex, set.settings) := by
  induction entries generalizing set with
  | nil => rfl
  | cons entry entries ih =>
    obtain ⟨hone, hrest⟩ := List.forall_mem_cons.mp hle
    rw [List.foldl_cons, ih hrest, formatRead, formatRead, List.foldl_cons]
    congr 1
    rcases hfound : dimmsWithHandle data entry.handle with - | ⟨dimm, found⟩
    · rw [joinEntry, hfound]
      rfl
    · have hnil : found = [] := by
        rw [hfound, List.length_cons] at hone
        exact List.eq_nil_of_length_eq_zero (by omega)
      rw [joinEntry, hfound, hnil]
      rfl

/-! ### What a set adds to its pool -/

section Packed

variable {data : PoolData} {iset : NvmInterleaveSet} (hpacked : EntriesPacked data iset.dimms)
include hpacked

/-- No more DIMMs are found than the set has entries. -/
private theorem length_foundDimms_le : (foundDimms data iset.dimms).length ≤ 24 := by
  obtain ⟨named, missing, hentries, hnamed, hmissing⟩ := hpacked
  have hlength := iset.length_le
  obtain ⟨hfound, hnumber⟩ := foundDimms_packed hnamed hmissing
  rw [hentries, List.length_append] at hlength
  rw [hentries, hfound, hnumber]
  exact (Nat.le_add_right _ _).trans hlength

/-- Every member of the converted set is found again by its unique id. -/
private theorem length_setDimms :
    (setDimms data (nvmInterleaveToInterleave data iset)).length =
      (foundDimms data iset.dimms).length := by
  have hlength : ((foundDimms data iset.dimms).map fun dimm => dimm.discovery.uid).length =
      (foundDimms data iset.dimms).length := List.length_map ..
  rw [setDimms, (members_eq_iff data iset).mpr hpacked, ← hlength, List.filterMap_length_eq_length]
  refine List.forall_mem_map.mpr fun dimm hdimm => List.find?_isSome.mpr ⟨dimm, ?_, ?_⟩
  · obtain ⟨entry, -, hentry⟩ := List.mem_flatMap.mp hdimm
    exact (List.mem_filter.mp hentry).1
  · exact (uidCmp_uid_iff dimm dimm).mpr rfl

/-- The share of a DIMM in the free size is an equal part of it, or all of it if the set is neither
mirrored nor interleaved. -/
private theorem toNat_memberShare (hfound : foundDimms data iset.dimms ≠ []) :
    (memberShare (isetPoolType iset) (nvmInterleaveToInterleave data iset)).toNat =
      if mirroredInterleave iset.attributes = true ∨
          (formatRead data iset.dimms (0, {})).2.ways ≠ .ways1 then
        freeSize data iset / (foundDimms data iset.dimms).length
      else freeSize data iset := by
  have hle : ∀ entry ∈ iset.dimms, (dimmsWithHandle data entry.handle).length ≤ 1 := by
    obtain ⟨named, missing, hentries, hnamed, hmissing⟩ := hpacked
    rw [hentries]
    refine List.forall_mem_append.mpr ⟨fun entry h => (hnamed entry h).le, fun entry h => ?_⟩
    exact (hmissing entry h).trans_le (Nat.zero_le 1)
  have hlength := length_foundDimms_le hpacked
  obtain ⟨hmirrored, hsettings⟩ : (nvmInterleaveToInterleave data iset).mirrored =
      mirroredInterleave iset.attributes ∧
      (nvmInterleaveToInterleave data iset).settings = (formatRead data iset.dimms (0, {})).2 := by
    have hmirrored := mirrored_foldl_joinEntry data iset iset.dimms (startSet data iset)
      (Or.inl hfound)
    have hsettings := congrArg Prod.snd
      (settings_foldl_joinEntry data iset iset.dimms hle (startSet data iset))
    rcases nvmInterleaveToInterleave_eq data iset with h | h
    · rw [h]
      exact ⟨hmirrored, hsettings⟩
    · rw [h]
      exact ⟨hmirrored, hsettings⟩
  have hshare : ((nvmInterleaveToInterleave data iset).availableSize /
      UInt64.ofNat (nvmInterleaveToInterleave data iset).dimmCount).toNat =
        freeSize data iset / (foundDimms data iset.dimms).length := by
    rw [UInt64.toNat_div, toNat_availableSize, (nvmInterleaveToInterleave_spec data iset).2.1,
      toNat_ofNat_of_lt (by omega)]
  rw [isetPoolType]
  by_cases hmirror : mirroredInterleave iset.attributes = true
  · rw [if_pos hmirror, if_pos (Or.inl hmirror), memberShare, hmirrored, if_pos hmirror]
    exact hshare
  · rw [if_neg hmirror, memberShare, hmirrored, if_neg hmirror, hsettings]
    by_cases hways : (formatRead data iset.dimms (0, {})).2.ways = .ways1
    · have hnot : ¬ (mirroredInterleave iset.attributes = true ∨
          (formatRead data iset.dimms (0, {})).2.ways ≠ .ways1) :=
        fun h => h.elim hmirror fun hne => hne hways
      rw [if_pos hways, if_neg hnot]
      exact toNat_availableSize data iset
    · rw [if_neg hways, if_pos (Or.inr hways)]
      exact hshare

end Packed

/-- Adding an interleave set to a pool adds the shares of its DIMMs to the free capacity. -/
theorem freeCapacity_addInterleaveSetToPool {data : PoolData} {iset : NvmInterleaveSet}
    (happ : data.capabilities.appDirectMode = true) {pool : Pool} (htype : pool.type.IsPersistent) :
    (addInterleaveSetToPool data iset pool).freeCapacity.toNat =
      (pool.freeCapacity.toNat + offeredBy data pool.type iset) % 2 ^ 64 := by
  have hlast : ∀ dimm ∈ setDimms data (nvmInterleaveToInterleave data iset),
      LastSet (nvmInterleaveToInterleave data iset) dimm.discovery.uid
        { pool with ilsets := pool.ilsets ++ [nvmInterleaveToInterleave data iset] } :=
    fun dimm hdimm => ⟨List.getLastD_concat .., (mem_setDimms hdimm).2⟩
  have htype' : ({ pool with
      ilsets := pool.ilsets ++ [nvmInterleaveToInterleave data iset] } : Pool).type.IsPersistent :=
    htype
  have hadd := (freeCapacity_foldl_addDimmToPool happ
    (setDimms data (nvmInterleaveToInterleave data iset)) htype' hlast).1
  rw [addInterleaveSetToPool]
  obtain ⟨enabled, capable, erase, hsecurity⟩ := updatePoolSecurityFromIset_eq data
    (nvmInterleaveToInterleave data iset) _
  rw [hsecurity]
  exact hadd

/-- The type of the pool of an interleave set is persistent. -/
theorem isPersistent_isetPoolType (iset : NvmInterleaveSet) :
    (isetPoolType iset).IsPersistent := by
  unfold isetPoolType
  split_ifs
  · exact Or.inr rfl
  · exact Or.inl rfl

/-- What the entries of a converted set bring into a pool that has no other set: its free capacities,
DIMM by DIMM. -/
def memberCapacities (data : PoolData) (iset : NvmInterleaveSet) : List ℕ :=
  let set := nvmInterleaveToInterleave data iset
  let pool := { initPool (isetPoolType iset) iset.socketId.toNat with ilsets := [set] }
  set.members.map fun uid => (addFreeCapacities pool (getDimmFreeCapacities uid pool)).toNat

/-- The converted set lists the DIMMs that were found, and neither its free size nor what it adds to
the free capacity of a pool is larger than its size. -/
structure ConvertsSoundly (data : PoolData) (iset : NvmInterleaveSet) : Prop where
  /-- The entries that are read are the DIMMs of the set that were found, in their order. -/
  members_eq : (nvmInterleaveToInterleave data iset).members =
    (foundDimms data iset.dimms).map fun dimm => dimm.discovery.uid
  /-- The free size. -/
  available_le : (nvmInterleaveToInterleave data iset).availableSize.toNat ≤
    (nvmInterleaveToInterleave data iset).size.toNat
  /-- The free capacity of a pool that the set is added to. -/
  added_le : ∀ pool, pool.type = isetPoolType iset →
    (addInterleaveSetToPool data iset pool).freeCapacity.toNat ≤
      pool.freeCapacity.toNat + (nvmInterleaveToInterleave data iset).size.toNat
  /-- The least free capacity of a DIMM, taken as often as there are DIMMs. -/
  least_mul_le : ∀ least, (∀ capacity ∈ memberCapacities data iset, least ≤ capacity) →
    least * (nvmInterleaveToInterleave data iset).dimmCount ≤ (memberCapacities data iset).sum

/-- A set is converted soundly exactly when leading entries name one DIMM each and the others none,
and the set is mirrored, or its format is another one than by one, or its free size fits into it as
often as it has DIMMs. -/
theorem convertsSoundly_iff {data : PoolData} (happ : data.capabilities.appDirectMode = true)
    (iset : NvmInterleaveSet) :
    ConvertsSoundly data iset ↔
      EntriesPacked data iset.dimms ∧
        (mirroredInterleave iset.attributes = true ∨
          (formatRead data iset.dimms (0, {})).2.ways ≠ .ways1 ∨
          (foundDimms data iset.dimms).length * freeSize data iset % 2 ^ 64 ≤ iset.size.toNat) := by
  have hsize : (nvmInterleaveToInterleave data iset).size = iset.size :=
    (nvmInterleaveToInterleave_spec data iset).2.2.size_eq
  have hfree : freeSize data iset ≤ iset.size.toNat := Nat.sub_le _ _
  constructor
  · rintro ⟨hmembers, -, hadded, -⟩
    have hpacked := (members_eq_iff data iset).mp hmembers
    refine ⟨hpacked, ?_⟩
    by_contra hnot
    rw [← or_assoc, not_or] at hnot
    obtain ⟨hways, hfit⟩ := hnot
    have hfound : foundDimms data iset.dimms ≠ [] := by
      intro hnil
      rw [hnil, List.length_nil, Nat.zero_mul, Nat.zero_mod] at hfit
      exact hfit (Nat.zero_le _)
    -- an empty pool shows what the set adds
    have hfresh := hadded (initPool (isetPoolType iset) iset.socketId.toNat) rfl
    rw [freeCapacity_addInterleaveSetToPool happ (isPersistent_isetPoolType iset), hsize, offeredBy,
      length_setDimms hpacked] at hfresh
    have hshare := toNat_memberShare hpacked hfound
    rw [if_neg hways] at hshare
    have htype : (initPool (isetPoolType iset) iset.socketId.toNat).type = isetPoolType iset := rfl
    have hzero : (initPool (isetPoolType iset) iset.socketId.toNat).freeCapacity.toNat = 0 := rfl
    rw [htype, hshare, hzero, Nat.zero_add, Nat.zero_add] at hfresh
    exact hfit hfresh
  · rintro ⟨hpacked, hfit⟩
    refine ⟨(members_eq_iff data iset).mpr hpacked, ?_, ?_, ?_⟩
    · rw [toNat_availableSize, hsize]
      exact hfree
    · intro pool htype
      rw [freeCapacity_addInterleaveSetToPool happ (htype ▸ isPersistent_isetPoolType iset), hsize,
        offeredBy, length_setDimms hpacked, htype, ← Nat.add_mod_mod]
      refine (Nat.mod_le _ _).trans (Nat.add_le_add_left ?_ _)
      by_cases hfound : foundDimms data iset.dimms = []
      · rw [hfound, List.length_nil, Nat.zero_mul, Nat.zero_mod]
        exact Nat.zero_le _
      rw [toNat_memberShare hpacked hfound]
      split_ifs with hways
      · refine (Nat.mod_le _ _).trans ((Nat.mul_div_le _ _).trans hfree)
      · rw [← or_assoc] at hfit
        exact hfit.resolve_left hways
    · intro least hleast
      have hlength : (nvmInterleaveToInterleave data iset).dimmCount =
          (memberCapacities data iset).length := by
        rw [memberCapacities, List.length_map, InterleaveSet.members, List.length_map,
          List.length_range]
      rw [hlength, Nat.mul_comm]
      exact List.card_nsmul_le_sum _ _ hleast

/-- Two DIMMs that are manageable. -/
def twoDimms : PoolData where
  capabilities := { appDirectMode := true }
  dimmList := [
    { discovery := { deviceHandle := 1, vendorId := 1 } },
    { discovery := { deviceHandle := 2, vendorId := 2 } }]
  isetList := []
  namespaceList := []
  fillSettings := fun _ _ settings => (true, settings)

/-- A set of both DIMMs is converted soundly. -/
theorem convertsSoundly_twoDimms :
    ConvertsSoundly twoDimms
      { id := 1, size := 0x80000000, dimms := [{ handle := 1 }, { handle := 2 }] } :=
  (convertsSoundly_iff rfl _).mpr ⟨⟨_, [], (List.append_nil _).symm, by decide, by decide⟩,
    Or.inr (Or.inl (by decide))⟩

/-- A set whose first DIMM is not manageable: the entry that is read is the empty one. -/
theorem not_convertsSoundly_missing :
    ¬ ∀ data : PoolData, data.capabilities.appDirectMode = true →
      ∀ iset : NvmInterleaveSet, ConvertsSoundly data iset := by
  intro h
  have hmembers := (h twoDimms rfl
    { id := 1, size := 0x80000000, dimms := [{ handle := 3 }, { handle := 2 }] }).members_eq
  rw [members_eq_iff] at hmembers
  obtain ⟨named, missing, hentries, hnamed, hmissing⟩ := hmembers
  rcases named with - | ⟨entry, named⟩
  · have hnone : ({ handle := 2 } : IsetDimm) ∈ missing := by
      rw [← List.nil_append missing, ← hentries]
      exact List.mem_cons_of_mem _ List.mem_cons_self
    exact absurd (hmissing _ hnone) (by decide)
  · obtain ⟨hentry, -⟩ := List.cons.inj hentries
    have hone := hnamed entry List.mem_cons_self
    rw [← hentry] at hone
    exact absurd hone (by decide)

end IxpDimm
