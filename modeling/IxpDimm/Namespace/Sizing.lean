import IxpDimm.Namespace.FindIlset

/-!
# The sizes that a pool supports

`get_pool_supported_size_ranges` of `namespace.c` reports the largest and the smallest size of an App
Direct namespace on a pool, `find_interleave_with_capacity` decides whether there is a set for one.
The two go through the same interleave sets.  The report takes the alignment of the capabilities for
an exponent and the search takes it for a number of bytes; the report goes by the set with the fewest
DIMMs of all, the search only by the sets that are unlocked, match, and have room.

`rangeAgrees_iff` says when what is accepted lies in the reported range and the smallest reported size
is accepted.
-/

namespace IxpDimm

open Foundation

/-! ### The report -/

/-- `struct possible_namespace_ranges`. -/
structure PossibleNamespaceRanges where
  /-- `largest_possible_app_direct_ns`. -/
  largestPossibleAppDirectNs : UInt64 := 0
  /-- `smallest_possible_app_direct_ns`. -/
  smallestPossibleAppDirectNs : UInt64 := 0
  /-- `app_direct_increment`. -/
  appDirectIncrement : UInt64 := 0
  deriving DecidableEq, Repr

/-- The sets that `get_largest_app_direct_namespace` looks at: those with as many ways as asked for,
and all of them if no number is asked for. -/
def countsFor (ways : UInt8) (set : InterleaveSet) : Bool :=
  decide (ways = 0) || decide (set.settings.ways.count = ways.toNat)

/-- `get_largest_app_direct_namespace`. -/
def getLargestAppDirectNamespace (pool : Pool) (ways : UInt8) : UInt64 :=
  pool.ilsets.foldl (fun size set =>
    if countsFor ways set ∧ set.availableSize > size then set.availableSize else size) 0

/-- `min_way` of `get_smallest_app_direct_namespace`. -/
def minWay (pool : Pool) : ℕ :=
  match pool.ilsets with
  | [] => 0
  | sets => sets.foldl (fun least set => if set.dimmCount < least then set.dimmCount else least)
      pool.dimms.length

/-- `get_smallest_app_direct_namespace`. -/
def getSmallestAppDirectNamespace (pool : Pool) (interleaveAlignmentSize : UInt64) : UInt64 :=
  getMinimumNsSize (.ofNat (minWay pool)) (.ofNat (minWay pool) * interleaveAlignmentSize)

/-- `get_pool_supported_size_ranges` on a cleared structure; none where `pow(2, n)` does not fit an
`NVM_UINT64`. -/
def getPoolSupportedSizeRanges (pool : Pool) (caps : NvmCapabilities) (ways : UInt8) :
    Option PossibleNamespaceRanges :=
  if pool.freeCapacity = 0 then some {}
  else if caps.appDirectMode then
    let largest := getLargestAppDirectNamespace pool ways
    if largest > 0 then
      if caps.interleaveAlignmentSize < 64 then
        let interleaveAlignmentSize := .ofNat (2 ^ caps.interleaveAlignmentSize.toNat)
        some {
          largestPossibleAppDirectNs := largest
          smallestPossibleAppDirectNs := getSmallestAppDirectNamespace pool interleaveAlignmentSize
          appDirectIncrement := interleaveAlignmentSize }
      else none
    else some {}
  else some {}

/-- `validate_ns_size_for_creation` of an App Direct namespace. -/
def validateNsSizeForCreation (pool : Pool) (request : NamespaceRequest)
    (range : PossibleNamespaceRanges) : ReturnCode :=
  let namespaceCapacity := request.blockCount * request.blockSize.toUInt64
  if request.blockSize ≠ 1 then .errBadBlockSize
  else if namespaceCapacity > pool.freeCapacity then .errBadSize
  else if namespaceCapacity > range.largestPossibleAppDirectNs then .errBadSize
  else .success

/-! ### The agreement -/

/-- A set matches a request: none of its DIMMs is locked, and it has the security features and the
format that are asked for. -/
def MatchesRequest (request : NamespaceRequest) (set : InterleaveSet) : Prop :=
  interleaveSetHasLockedDimms request.discover set = false ∧
    interleaveMeetsSecurityCriteria request set = true ∧
      interleaveMeetsAppDirectSettings set request.format = true

/-- A request for a number of blocks. -/
def NamespaceRequest.withCount (request : NamespaceRequest) (n : UInt64) : NamespaceRequest :=
  { request with blockCount := n }

/-- The report and the search agree on the sizes of namespaces. -/
structure RangeAgrees (pool : Pool) (request : NamespaceRequest) (ways : UInt8) : Prop where
  /-- The size that is accepted for a block count lies in the reported range. -/
  inRange : ∀ n driverId count,
    findInterleaveWithCapacity pool (request.withCount n) = some (.ok (driverId, count)) →
      ∃ range, getPoolSupportedSizeRanges pool request.caps ways = some range ∧
        range.smallestPossibleAppDirectNs ≤ count * request.blockSize.toUInt64 ∧
          count * request.blockSize.toUInt64 ≤ range.largestPossibleAppDirectNs
  /-- The smallest reported size is accepted if a set that matches has that much space. -/
  smallest : ∀ range, getPoolSupportedSizeRanges pool request.caps ways = some range →
    range.smallestPossibleAppDirectNs ≠ 0 →
    (∃ set ∈ pool.ilsets, MatchesRequest request set ∧
      range.smallestPossibleAppDirectNs ≤ set.availableSize) →
    ∀ n, n * request.blockSize.toUInt64 = range.smallestPossibleAppDirectNs →
      ∃ found, findInterleaveWithCapacity pool (request.withCount n) = some (.ok found)

/-- A set that matches has a GiB for each of its DIMMs. -/
def MatchesWithRoom (request : NamespaceRequest) (set : InterleaveSet) : Prop :=
  MatchesRequest request set ∧ 2 ^ 30 * set.ways.toNat ≤ set.availableSize.toNat

/-- The alignment, as an exponent, for each of the fewest DIMMs. -/
def leastAlignment (pool : Pool) (caps : NvmCapabilities) : ℕ :=
  minWay pool * 2 ^ caps.interleaveAlignmentSize.toNat % 2 ^ 64

/-- A size is reported at all: the pool has free capacity and App Direct mode, the exponent is below
64, and a set with the ways that are asked for has space. -/
structure SizeReported (pool : Pool) (caps : NvmCapabilities) (ways : UInt8) : Prop where
  /-- The free capacity. -/
  free : pool.freeCapacity ≠ 0
  /-- The mode. -/
  mode : caps.appDirectMode = true
  /-- The exponent. -/
  exponent : caps.interleaveAlignmentSize < 64
  /-- The space. -/
  space : ∃ set ∈ pool.ilsets, countsFor ways set = true ∧ set.availableSize ≠ 0

/-- When the sizes agree. -/
structure RangeSound (pool : Pool) (request : NamespaceRequest) (ways : UInt8) : Prop where
  /-- If a set has room, a size is reported. -/
  reported : ∀ set ∈ pool.ilsets, MatchesWithRoom request set → SizeReported pool request.caps ways
  /-- The alignment for each of the fewest DIMMs is not more than the GiBs of a set with room. -/
  least : ∀ set ∈ pool.ilsets, MatchesWithRoom request set →
    leastAlignment pool request.caps ≤ 2 ^ 30 * set.ways.toNat
  /-- Some set with the ways that are asked for has as much space as a set with room has in whole
  pages on each DIMM. -/
  largest : ∀ set ∈ pool.ilsets, MatchesWithRoom request set → ∃ other ∈ pool.ilsets,
    countsFor ways other = true ∧
      set.availableSize.toNat - set.availableSize.toNat % (4096 * set.ways.toNat) ≤
        other.availableSize.toNat
  /-- If a size is reported and a set that matches has a GiB and the alignment for each of the fewest
  DIMMs, then a set with room has the fewest DIMMs, or no more GiBs than that alignment. -/
  smallest : SizeReported pool request.caps ways → minWay pool ≠ 0 →
    (∃ set ∈ pool.ilsets, MatchesRequest request set ∧
      2 ^ 30 * minWay pool ≤ set.availableSize.toNat ∧
        leastAlignment pool request.caps ≤ set.availableSize.toNat) →
    ∃ other ∈ pool.ilsets, MatchesWithRoom request other ∧ (other.ways.toNat ≤ minWay pool ∨
      2 ^ 30 * other.ways.toNat ≤ leastAlignment pool request.caps)

/-! ### What is reported -/

section Report

variable {pool : Pool} {caps : NvmCapabilities} {ways : UInt8}

/-- The loop over the sets ends with the largest space of those that count, or as it started. -/
private theorem foldl_availableSize_spec (sets : List InterleaveSet) (start : UInt64) {size : UInt64}
    (hsize : sets.foldl (fun size set => if countsFor ways set ∧ set.availableSize > size then
      set.availableSize else size) start = size) :
    start.toNat ≤ size.toNat ∧
      (∀ set ∈ sets, countsFor ways set = true → set.availableSize.toNat ≤ size.toNat) ∧
        (size = start ∨ ∃ set ∈ sets, countsFor ways set = true ∧ set.availableSize = size) := by
  induction sets generalizing start with
  | nil => exact ⟨(congrArg UInt64.toNat hsize).le, List.forall_mem_nil _, .inl hsize.symm⟩
  | cons set sets ih =>
    rw [List.foldl_cons] at hsize
    obtain ⟨hstart, hsets, hreached⟩ := ih _ hsize
    rw [List.forall_mem_cons]
    split_ifs at hstart hreached with hlarger
    · have hlt := UInt64.lt_iff_toNat_lt.mp hlarger.2
      refine ⟨hlt.le.trans hstart, ⟨fun _ => hstart, hsets⟩, .inr ?_⟩
      rcases hreached with heq | ⟨other, hmem, hother⟩
      · exact ⟨set, List.mem_cons_self, hlarger.1, heq.symm⟩
      · exact ⟨other, List.mem_cons_of_mem _ hmem, hother⟩
    · refine ⟨hstart, ⟨fun hcounts => ?_, hsets⟩, ?_⟩
      · have hle : ¬ start.toNat < set.availableSize.toNat := fun h =>
          hlarger ⟨hcounts, UInt64.lt_iff_toNat_lt.mpr h⟩
        exact (not_lt.mp hle).trans hstart
      · rcases hreached with heq | ⟨other, hmem, hother⟩
        · exact .inl heq
        · exact .inr ⟨other, List.mem_cons_of_mem _ hmem, hother⟩

/-- No set that counts has more space than the largest size. -/
theorem availableSize_le_largest {set : InterleaveSet} (hmem : set ∈ pool.ilsets)
    (hcounts : countsFor ways set = true) :
    set.availableSize.toNat ≤ (getLargestAppDirectNamespace pool ways).toNat :=
  (foldl_availableSize_spec pool.ilsets 0 rfl).2.1 set hmem hcounts

/-- The largest size is the space of a set that counts. -/
private theorem exists_largest (h : getLargestAppDirectNamespace pool ways ≠ 0) :
    ∃ set ∈ pool.ilsets, countsFor ways set = true ∧
      set.availableSize = getLargestAppDirectNamespace pool ways :=
  (foldl_availableSize_spec pool.ilsets 0 rfl).2.2.resolve_left h

/-- No set has fewer DIMMs than the fewest. -/
private theorem minWay_le {set : InterleaveSet} (hmem : set ∈ pool.ilsets) :
    minWay pool ≤ set.dimmCount := by
  have hloop : ∀ (sets : List InterleaveSet) (start : ℕ),
      sets.foldl (fun least set => if set.dimmCount < least then set.dimmCount else least) start ≤
        start ∧ ∀ set ∈ sets, sets.foldl (fun least set =>
          if set.dimmCount < least then set.dimmCount else least) start ≤ set.dimmCount := by
    intro sets
    induction sets with
    | nil => exact fun start => ⟨le_rfl, List.forall_mem_nil _⟩
    | cons first sets ih =>
      intro start
      rw [List.foldl_cons, List.forall_mem_cons]
      obtain ⟨hstart, hsets⟩ := ih (if first.dimmCount < start then first.dimmCount else start)
      have hleast : (if first.dimmCount < start then first.dimmCount else start) ≤ start ∧
          (if first.dimmCount < start then first.dimmCount else start) ≤ first.dimmCount := by
        split_ifs <;> omega
      exact ⟨hstart.trans hleast.1, hstart.trans hleast.2, hsets⟩
  unfold minWay
  cases hsets : pool.ilsets with
  | nil =>
    rw [hsets] at hmem
    cases hmem
  | cons first sets =>
    rw [hsets] at hmem
    exact (hloop (first :: sets) pool.dimms.length).2 set hmem

/-- What is reported when a size is reported. -/
private theorem ranges_of_reported (h : SizeReported pool caps ways) :
    getPoolSupportedSizeRanges pool caps ways = some {
      largestPossibleAppDirectNs := getLargestAppDirectNamespace pool ways
      smallestPossibleAppDirectNs := getSmallestAppDirectNamespace pool
        (.ofNat (2 ^ caps.interleaveAlignmentSize.toNat))
      appDirectIncrement := .ofNat (2 ^ caps.interleaveAlignmentSize.toNat) } := by
  obtain ⟨set, hmem, hcounts, hspace⟩ := h.space
  have hle := availableSize_le_largest hmem hcounts
  have hpos : getLargestAppDirectNamespace pool ways > 0 := by
    refine UInt64.lt_iff_toNat_lt.mpr (lt_of_lt_of_le ?_ hle)
    exact Nat.pos_of_ne_zero fun hzero => hspace (toNat_eq_zero_iff.mp hzero)
  rw [getPoolSupportedSizeRanges, if_neg h.free, if_pos h.mode]
  dsimp only
  rw [if_pos hpos, if_pos h.exponent]

/-- Otherwise both sizes are zero. -/
private theorem reported_or_zero {range : PossibleNamespaceRanges}
    (h : getPoolSupportedSizeRanges pool caps ways = some range) :
    SizeReported pool caps ways ∨ range = {} := by
  unfold getPoolSupportedSizeRanges at h
  dsimp only at h
  split_ifs at h with hfree hmode hlargest hexponent
  · exact .inr (Option.some.inj h).symm
  · have hne : getLargestAppDirectNamespace pool ways ≠ 0 := by
      intro hzero
      rw [hzero] at hlargest
      exact absurd hlargest (by decide)
    obtain ⟨set, hmem, hcounts, hspace⟩ := exists_largest hne
    exact .inl ⟨hfree, hmode, hexponent, set, hmem, hcounts, hspace ▸ hne⟩
  · exact .inr (Option.some.inj h).symm
  · exact .inr (Option.some.inj h).symm

/-- The smallest size in bytes: a GiB or the alignment for each of the fewest DIMMs. -/
private theorem toNat_smallest (hway : minWay pool < 256)
    (hexponent : caps.interleaveAlignmentSize < 64) :
    (getSmallestAppDirectNamespace pool (.ofNat (2 ^ caps.interleaveAlignmentSize.toNat))).toNat =
      max (2 ^ 30 * minWay pool) (leastAlignment pool caps) := by
  have hlt : caps.interleaveAlignmentSize.toNat < 64 := UInt16.lt_iff_toNat_lt.mp hexponent
  have hpow : (UInt64.ofNat (2 ^ caps.interleaveAlignmentSize.toNat)).toNat =
      2 ^ caps.interleaveAlignmentSize.toNat :=
    toNat_ofNat_of_lt (Nat.pow_lt_pow_right (by decide) hlt)
  have hgib : (bytesPerGiB * (UInt8.ofNat (minWay pool)).toUInt64).toNat = 2 ^ 30 * minWay pool := by
    rw [UInt64.toNat_mul, UInt8.toNat_toUInt64, UInt8.toNat_ofNat', Nat.mod_eq_of_lt hway,
      show bytesPerGiB.toNat = 2 ^ 30 from rfl]
    exact Nat.mod_eq_of_lt (by omega)
  have halignment : (UInt64.ofNat (minWay pool) *
      UInt64.ofNat (2 ^ caps.interleaveAlignmentSize.toNat)).toNat = leastAlignment pool caps := by
    rw [UInt64.toNat_mul, toNat_ofNat_of_lt (by omega), hpow, leastAlignment]
  unfold getSmallestAppDirectNamespace getMinimumNsSize
  dsimp only
  split_ifs with h
  · have hgt := UInt64.lt_iff_toNat_lt.mp h
    rw [hgib, halignment] at hgt
    rw [hgib, max_eq_left hgt.le]
  · have hle : ¬ _ := fun h' => h (UInt64.lt_iff_toNat_lt.mpr h')
    rw [hgib, halignment] at hle
    rw [halignment, max_eq_right (not_lt.mp hle)]

/-- The smallest size is of whole GiBs. -/
private theorem dvd_smallest :
    2 ^ 30 ∣ max (2 ^ 30 * minWay pool) (leastAlignment pool caps) := by
  by_cases hexponent : caps.interleaveAlignmentSize.toNat ≤ 30
  · have hpow : 2 ^ caps.interleaveAlignmentSize.toNat ≤ 2 ^ 30 :=
      Nat.pow_le_pow_right (by decide) hexponent
    have hle : leastAlignment pool caps ≤ 2 ^ 30 * minWay pool := by
      refine (Nat.mod_le _ _).trans ?_
      rw [Nat.mul_comm]
      exact Nat.mul_le_mul_right _ hpow
    rw [max_eq_left hle]
    exact Nat.dvd_mul_right _ _
  · have hdvd : 2 ^ 30 ∣ leastAlignment pool caps := by
      refine (Nat.dvd_mod_iff (pow_dvd_pow 2 (by decide))).mpr ?_
      exact (pow_dvd_pow 2 (by omega)).trans (Nat.dvd_mul_left _ _)
    rcases max_choice (2 ^ 30 * minWay pool) (leastAlignment pool caps) with h | h
    · rw [h]
      exact Nat.dvd_mul_right _ _
    · rw [h]
      exact hdvd

end Report

/-! ### What is accepted -/

/-- The block sizes that are supported: the validation does not refuse them for any pool. -/
def BlockSizeAccepted (blockSize : UInt16) : Prop :=
  ∀ pool request range, request.blockSize = blockSize →
    validateNsSizeForCreation pool request range ≠ .errBadBlockSize

section Accepted

variable {pool : Pool} {request : NamespaceRequest} {set : InterleaveSet} {n count : UInt64}

/-- An App Direct namespace has blocks of one byte. -/
private theorem eq_one_of_accepted (h : BlockSizeAccepted request.blockSize) :
    request.blockSize = 1 := by
  by_contra hne
  exact h { type := .persistent, socketId := 0 } request {} rfl (if_pos hne)

/-- The least size on a set is a GiB for each DIMM: the alignment is taken for bytes. -/
private theorem toNat_minimumOn (caps : NvmCapabilities) (set : InterleaveSet) :
    (minimumOn caps set).toNat = 2 ^ 30 * set.ways.toNat := by
  have hways := set.ways.toNat_lt
  have halignment := caps.interleaveAlignmentSize.toNat_lt
  have hgib : (bytesPerGiB * set.ways.toUInt64).toNat = 2 ^ 30 * set.ways.toNat := by
    rw [UInt64.toNat_mul, UInt8.toNat_toUInt64, show bytesPerGiB.toNat = 2 ^ 30 from rfl]
    exact Nat.mod_eq_of_lt (by omega)
  have hproduct : set.ways.toNat * caps.interleaveAlignmentSize.toNat ≤ set.ways.toNat * 2 ^ 30 :=
    Nat.mul_le_mul_left _ (by omega)
  have hbytes : (set.ways.toUInt64 * caps.interleaveAlignmentSize.toUInt64).toNat ≤
      2 ^ 30 * set.ways.toNat := by
    rw [UInt64.toNat_mul, UInt8.toNat_toUInt64, UInt16.toNat_toUInt64, Nat.mul_comm (2 ^ 30)]
    exact (Nat.mod_le _ _).trans hproduct
  unfold minimumOn getMinimumNsSize
  dsimp only
  split_ifs with h
  · exact hgib
  · have hle : ¬ _ := fun h' => h (UInt64.lt_iff_toNat_lt.mpr h')
    rw [hgib] at hle
    exact le_antisymm hbytes (not_lt.mp hle)

/-- A set that is usable for a number of bytes matches, and the adjusted number is of whole pages on
each DIMM, a GiB for each of them at least, and not more than the space. -/
theorem usableIlset_iff (hblock : request.blockSize = 1) (hways : 0 < set.ways.toNat) :
    UsableIlset (request.withCount n) set count ↔
      MatchesRequest request set ∧
        adjustNamespaceBlockCountIfAllowed n 1 set.ways request.allowAdjustment = some count ∧
          2 ^ 30 * set.ways.toNat ≤ count.toNat ∧ count.toNat ≤ set.availableSize.toNat ∧
            4096 * set.ways.toNat ∣ count.toNat := by
  have hone : count * request.blockSize.toUInt64 = count := by
    rw [hblock]
    exact UInt64.mul_one count
  have haligned : checkNamespaceAlignment (count * request.blockSize.toUInt64)
      request.blockSize.toUInt32 set.ways = some true ↔ 4096 * set.ways.toNat ∣ count.toNat := by
    rw [hone, hblock, checkNamespaceAlignment_eq (.inl rfl) hways, Option.some_inj,
      decide_eq_true_iff, show UInt32.toNat (UInt16.toUInt32 1) = 1 from rfl, alignmentOf,
      Nat.lcm_one_left]
  have hlocked := @interleaveSetHasLockedDimms_eq_false_iff (request.withCount n) set
  have hsecurity := @interleaveMeetsSecurityCriteria_iff (request.withCount n) set
  have hformat := interleaveMeetsAppDirectSettings_iff set request.format
  constructor
  · intro h
    have hadjusted := h.adjusted
    have hminimum := h.minimum
    have hroom := h.room
    have hpages := h.aligned
    dsimp only [NamespaceRequest.withCount] at hadjusted hminimum hroom hpages
    rw [hblock] at hadjusted
    rw [toNat_minimumOn, hone] at hminimum
    rw [hone] at hroom
    exact ⟨⟨hlocked.mpr h.unlocked, hsecurity.mpr h.security, hformat.mpr h.format⟩, hadjusted,
      hminimum, hroom, haligned.mp hpages⟩
  · rintro ⟨⟨hunlocked, hmet, hshape⟩, hadjusted, hminimum, hroom, hpages⟩
    refine ⟨⟨hlocked.mp hunlocked, ?_, ?_, ?_, hsecurity.mp hmet, hformat.mp hshape⟩,
      haligned.mpr hpages⟩
    · dsimp only [NamespaceRequest.withCount]
      rw [hblock]
      exact hadjusted
    · dsimp only [NamespaceRequest.withCount]
      rw [toNat_minimumOn, hone]
      exact hminimum
    · dsimp only [NamespaceRequest.withCount]
      rw [hone]
      exact hroom

/-- An adjusted number of bytes is rounded up to whole pages on each DIMM. -/
theorem adjustNamespaceBlockCount_one (hways : 0 < set.ways.toNat) (n : UInt64) :
    ∃ adjusted, adjustNamespaceBlockCount n 1 set.ways = some adjusted ∧
      adjusted.toNat = leastMultiple (4096 * set.ways.toNat) n.toNat % 2 ^ 64 := by
  have hsupported : SupportedBlockSize (UInt16.toNat 1) := .inl rfl
  obtain ⟨adjusted, hadjusted, hvalue⟩ := adjustNamespaceBlockCount_eq hsupported hways n
  have hpadded : paddedBlockSize (UInt16.toNat 1) = 1 := rfl
  rw [hpadded, alignmentOf, Nat.lcm_one_left, Nat.div_one, Nat.mul_one,
    Nat.mod_eq_of_lt n.toNat_lt] at hvalue
  exact ⟨adjusted, hadjusted, hvalue⟩

/-- A number of bytes that is usable is at least the one that is asked for, and less than a page for
each DIMM above it. -/
theorem adjusted_bounds (hways : 0 < set.ways.toNat) {allowAdjustment : Bool}
    (h : adjustNamespaceBlockCountIfAllowed n 1 set.ways allowAdjustment = some count)
    (hminimum : 2 ^ 30 * set.ways.toNat ≤ count.toNat) :
    n.toNat ≤ count.toNat ∧ count.toNat < n.toNat + 4096 * set.ways.toNat := by
  have hlt := leastMultiple_lt (show 0 < 4096 * set.ways.toNat by omega) n.toNat
  have hle := le_leastMultiple (show 0 < 4096 * set.ways.toNat by omega) n.toNat
  have hn := n.toNat_lt
  have hbyte := set.ways.toNat_lt
  unfold adjustNamespaceBlockCountIfAllowed at h
  split_ifs at h
  · obtain ⟨adjusted, hadjusted, hvalue⟩ := adjustNamespaceBlockCount_one hways n
    obtain rfl := Option.some.inj (hadjusted.symm.trans h)
    by_cases hfits : leastMultiple (4096 * set.ways.toNat) n.toNat < 2 ^ 64
    · rw [hvalue, Nat.mod_eq_of_lt hfits]
      exact ⟨hle, hlt⟩
    · -- a number that runs over is less than a GiB for each DIMM
      have hover : leastMultiple (4096 * set.ways.toNat) n.toNat % 2 ^ 64 <
          4096 * set.ways.toNat := by
        omega
      omega
  · obtain rfl := Option.some.inj h
    exact ⟨le_rfl, by omega⟩

/-- A number of whole pages on each DIMM is not adjusted. -/
theorem adjusted_of_dvd (hways : 0 < set.ways.toNat) (allowAdjustment : Bool)
    (hdvd : 4096 * set.ways.toNat ∣ n.toNat) :
    adjustNamespaceBlockCountIfAllowed n 1 set.ways allowAdjustment = some n := by
  unfold adjustNamespaceBlockCountIfAllowed
  split_ifs
  · obtain ⟨adjusted, hadjusted, hvalue⟩ := adjustNamespaceBlockCount_one hways n
    rw [leastMultiple_of_dvd (by omega) hdvd, Nat.mod_eq_of_lt n.toNat_lt] at hvalue
    rw [hadjusted, UInt64.toNat_inj.mp hvalue]
  · rfl

/-- Where whole GiBs are asked for, the set gets exactly them if they are at most a GiB for each of
its DIMMs. -/
private theorem count_eq_of_le (hways : 0 < set.ways.toNat) {allowAdjustment : Bool} {gibs : ℕ}
    (h : adjustNamespaceBlockCountIfAllowed n 1 set.ways allowAdjustment = some count)
    (hn : n.toNat = 2 ^ 30 * gibs) (hle : gibs ≤ set.ways.toNat)
    (hminimum : 2 ^ 30 * set.ways.toNat ≤ count.toNat) : gibs = set.ways.toNat := by
  have hbounds := adjusted_bounds hways h hminimum
  have hbyte := set.ways.toNat_lt
  omega

/-- A number of bytes of whole pages on each DIMM of a set that matches is found, on this set or
another one. -/
private theorem exists_found (hblock : request.blockSize = 1)
    (hdimms : ∀ set ∈ pool.ilsets, 0 < set.ways.toNat) (hmem : set ∈ pool.ilsets)
    (hmatches : MatchesRequest request set) (hdvd : 4096 * set.ways.toNat ∣ n.toNat)
    (hminimum : 2 ^ 30 * set.ways.toNat ≤ n.toNat) (hroom : n.toNat ≤ set.availableSize.toNat) :
    ∃ driverId count, findInterleaveWithCapacity pool (request.withCount n) =
      some (.ok (driverId, count)) := by
  have hsupported : SupportedBlockSize (request.withCount n).blockSize.toNat := by
    dsimp only [NamespaceRequest.withCount]
    rw [hblock]
    exact .inl rfl
  have husable : UsableIlset (request.withCount n) set n :=
    (usableIlset_iff hblock (hdimms set hmem)).mpr ⟨hmatches,
      adjusted_of_dvd (hdimms set hmem) _ hdvd, hminimum, hroom, hdvd⟩
  obtain ⟨⟨driverId, count⟩, hfound⟩ :=
    (findInterleaveWithCapacity_succeeds_iff hsupported hdimms).mpr ⟨set, hmem, n, husable⟩
  exact ⟨driverId, count, hfound⟩

/-- Where a number of bytes is found, a set with room gets it, adjusted. -/
private theorem matchesWithRoom_of_found (hblock : request.blockSize = 1)
    (hdimms : ∀ set ∈ pool.ilsets, 0 < set.ways.toNat) {driverId : UInt32}
    (h : findInterleaveWithCapacity pool (request.withCount n) = some (.ok (driverId, count))) :
    ∃ set ∈ pool.ilsets, MatchesWithRoom request set ∧
      adjustNamespaceBlockCountIfAllowed n 1 set.ways request.allowAdjustment = some count ∧
        2 ^ 30 * set.ways.toNat ≤ count.toNat ∧ count.toNat ≤ set.availableSize.toNat ∧
          4096 * set.ways.toNat ∣ count.toNat := by
  obtain ⟨set, hmem, husable⟩ := usableIlset_of_found h
  obtain ⟨hmatches, hadjusted, hminimum, hroom, hdvd⟩ :=
    (usableIlset_iff hblock (hdimms set hmem)).mp husable
  exact ⟨set, hmem, ⟨hmatches, hminimum.trans hroom⟩, hadjusted, hminimum, hroom, hdvd⟩

end Accepted

/-! ### When the sizes agree -/

section Agree

variable {pool : Pool} {request : NamespaceRequest} {ways : UInt8}

/-- The fewest DIMMs are no more than those of any set, which fit a byte. -/
private theorem minWay_le_ways (hbyte : ∀ set ∈ pool.ilsets, set.dimmCount < 2 ^ 8)
    {set : InterleaveSet} (hmem : set ∈ pool.ilsets) : minWay pool ≤ set.ways.toNat := by
  have hways : set.ways.toNat = set.dimmCount := by
    rw [InterleaveSet.ways, UInt8.toNat_ofNat', Nat.mod_eq_of_lt (hbyte set hmem)]
  rw [hways]
  exact minWay_le hmem

/-- A multiple that is not above a number is not above the last multiple before it. -/
private theorem le_sub_mod_of_dvd {m k a : ℕ} (hm : 0 < m) (hdvd : m ∣ k) (hle : k ≤ a) :
    k ≤ a - a % m := by
  obtain ⟨q, rfl⟩ := hdvd
  have hq : q ≤ a / m := (Nat.le_div_iff_mul_le hm).mpr (by rwa [Nat.mul_comm])
  have hsum := Nat.div_add_mod a m
  have hproduct := Nat.mul_le_mul_left m hq
  omega

/-- A set with room for a size that agrees has a size reported, and the largest one covers it. -/
private theorem RangeAgrees.reported (h : RangeAgrees pool request ways)
    (hblock : request.blockSize = 1) (hdimms : ∀ set ∈ pool.ilsets, 0 < set.ways.toNat)
    {set : InterleaveSet} (hmem : set ∈ pool.ilsets) (hroom : MatchesWithRoom request set) :
    SizeReported pool request.caps ways ∧ ∃ other ∈ pool.ilsets, countsFor ways other = true ∧
      set.availableSize.toNat - set.availableSize.toNat % (4096 * set.ways.toNat) ≤
        other.availableSize.toNat := by
  have hways := hdimms set hmem
  obtain ⟨hmatches, hgibs⟩ := hroom
  generalize hsize : set.availableSize.toNat - set.availableSize.toNat % (4096 * set.ways.toNat) =
    size
  have hlt := set.availableSize.toNat_lt
  have hn : (UInt64.ofNat size).toNat = size := toNat_ofNat_of_lt (by omega)
  have hdvd : 4096 * set.ways.toNat ∣ size := hsize ▸ Nat.dvd_sub_mod _
  have hminimum : 2 ^ 30 * set.ways.toNat ≤ size := by
    rw [← hsize]
    refine le_sub_mod_of_dvd (by omega) ?_ hgibs
    exact Nat.mul_dvd_mul_right (by decide) _
  obtain ⟨driverId, count, hfound⟩ := exists_found hblock hdimms hmem hmatches
    (hn.symm ▸ hdvd) (hn.symm ▸ hminimum) (by omega)
  obtain ⟨range, hrange, -, hlargest⟩ := h.inRange _ _ _ hfound
  obtain ⟨other, hother, -, hadjusted, hgibs', -⟩ := matchesWithRoom_of_found hblock hdimms hfound
  have hbounds := adjusted_bounds (hdimms other hother) hadjusted hgibs'
  rw [hblock, show count * UInt16.toUInt64 1 = count from UInt64.mul_one count,
    UInt64.le_iff_toNat_le] at hlargest
  rw [hn] at hbounds
  rcases reported_or_zero hrange with hreported | rfl
  · rw [ranges_of_reported hreported, Option.some.injEq] at hrange
    rw [← hrange] at hlargest
    dsimp only at hlargest
    obtain ⟨most, hmost, hcounts, hspace⟩ := @exists_largest pool ways (by
      intro hzero
      rw [hzero] at hlargest
      have hnone : (0 : UInt64).toNat = 0 := rfl
      omega)
    refine ⟨hreported, most, hmost, hcounts, ?_⟩
    rw [hspace]
    omega
  · have hzero : (0 : UInt64).toNat = 0 := rfl
    dsimp only at hlargest
    omega

/-- What is reported where a size is reported, over the exact integers. -/
private theorem smallest_of_reported (hbyte : ∀ set ∈ pool.ilsets, set.dimmCount < 2 ^ 8)
    (h : SizeReported pool request.caps ways) {range : PossibleNamespaceRanges}
    (hrange : getPoolSupportedSizeRanges pool request.caps ways = some range) :
    range.smallestPossibleAppDirectNs.toNat =
        max (2 ^ 30 * minWay pool) (leastAlignment pool request.caps) ∧
      range.largestPossibleAppDirectNs = getLargestAppDirectNamespace pool ways := by
  obtain ⟨set, hmem, -⟩ := h.space
  have hway := (minWay_le hmem).trans_lt (hbyte set hmem)
  rw [ranges_of_reported h, Option.some.injEq] at hrange
  rw [← hrange]
  exact ⟨toNat_smallest hway h.exponent, rfl⟩

/-- Sizes that agree are not smaller than the alignment for each of the fewest DIMMs. -/
private theorem RangeAgrees.least (h : RangeAgrees pool request ways)
    (hblock : request.blockSize = 1) (hdimms : ∀ set ∈ pool.ilsets, 0 < set.ways.toNat)
    (hbyte : ∀ set ∈ pool.ilsets, set.dimmCount < 2 ^ 8) {set : InterleaveSet}
    (hmem : set ∈ pool.ilsets) (hroom : MatchesWithRoom request set) :
    leastAlignment pool request.caps ≤ 2 ^ 30 * set.ways.toNat := by
  -- a set with the fewest DIMMs among those with room gets a GiB for each of them
  obtain ⟨first, ⟨hfirst, hfirstRoom⟩, hleast⟩ :=
    (measure fun set : InterleaveSet => set.ways.toNat).wf.has_min
      {set | set ∈ pool.ilsets ∧ MatchesWithRoom request set} ⟨set, hmem, hroom⟩
  have hfewest : ∀ other ∈ pool.ilsets, MatchesWithRoom request other →
      first.ways.toNat ≤ other.ways.toNat :=
    fun other hother hotherRoom => not_lt.mp (hleast other ⟨hother, hotherRoom⟩)
  have hways := first.ways.toNat_lt
  have hn : (UInt64.ofNat (2 ^ 30 * first.ways.toNat)).toNat = 2 ^ 30 * first.ways.toNat :=
    toNat_ofNat_of_lt (by omega)
  have hpages : 4096 * first.ways.toNat ∣ 2 ^ 30 * first.ways.toNat :=
    Nat.mul_dvd_mul_right (by decide) _
  obtain ⟨driverId, count, hfound⟩ := exists_found hblock hdimms hfirst hfirstRoom.1
    (hn.symm ▸ hpages) hn.symm.le (hn.symm ▸ hfirstRoom.2)
  obtain ⟨other, hother, hotherRoom, hadjusted, hminimum, -⟩ :=
    matchesWithRoom_of_found hblock hdimms hfound
  have heq := count_eq_of_le (hdimms other hother) hadjusted hn (hfewest other hother hotherRoom)
    hminimum
  rw [adjusted_of_dvd (hdimms other hother) _ (hn.symm ▸ heq ▸ hpages), Option.some.injEq]
    at hadjusted
  obtain ⟨range, hrange, hsmallest, -⟩ := h.inRange _ _ _ hfound
  rw [hblock, show count * UInt16.toUInt64 1 = count from UInt64.mul_one count, ← hadjusted,
    UInt64.le_iff_toNat_le, hn] at hsmallest
  obtain ⟨hreported, -⟩ := h.reported hblock hdimms hmem hroom
  rw [(smallest_of_reported hbyte hreported hrange).1] at hsmallest
  have hset := Nat.mul_le_mul_left (2 ^ 30) (hfewest set hmem hroom)
  exact (le_max_right _ _).trans (hsmallest.trans hset)

/-- Where the smallest size of sizes that agree is accepted. -/
private theorem RangeAgrees.exists_smallest (h : RangeAgrees pool request ways)
    (hblock : request.blockSize = 1) (hdimms : ∀ set ∈ pool.ilsets, 0 < set.ways.toNat)
    (hbyte : ∀ set ∈ pool.ilsets, set.dimmCount < 2 ^ 8)
    (hreported : SizeReported pool request.caps ways) (hway : minWay pool ≠ 0)
    {set : InterleaveSet} (hmem : set ∈ pool.ilsets) (hmatches : MatchesRequest request set)
    (hgibs : 2 ^ 30 * minWay pool ≤ set.availableSize.toNat)
    (halignment : leastAlignment pool request.caps ≤ set.availableSize.toNat) :
    ∃ other ∈ pool.ilsets, MatchesWithRoom request other ∧ (other.ways.toNat ≤ minWay pool ∨
      2 ^ 30 * other.ways.toNat ≤ leastAlignment pool request.caps) := by
  have hrange := ranges_of_reported hreported
  generalize hsmall : getSmallestAppDirectNamespace pool
    (.ofNat (2 ^ request.caps.interleaveAlignmentSize.toNat)) = smallest at hrange
  have hvalue := (smallest_of_reported hbyte hreported hrange).1
  dsimp only at hvalue
  have hne : smallest ≠ 0 := by
    rintro rfl
    have hzero : (0 : UInt64).toNat = 0 := rfl
    omega
  have hone : ∀ n : UInt64, n * request.blockSize.toUInt64 = n := fun n => by
    rw [hblock]
    exact UInt64.mul_one n
  obtain ⟨⟨driverId, count⟩, hfound⟩ := h.smallest _ hrange hne
    ⟨set, hmem, hmatches, UInt64.le_iff_toNat_le.mpr (hvalue.le.trans (max_le hgibs halignment))⟩
    smallest (hone smallest)
  obtain ⟨other, hother, hroom, hadjusted, hminimum, -⟩ :=
    matchesWithRoom_of_found hblock hdimms hfound
  obtain ⟨gibs, hmultiple⟩ := @dvd_smallest pool request.caps
  have hbounds := adjusted_bounds (hdimms other hother) hadjusted hminimum
  have hbyteWays := other.ways.toNat_lt
  refine ⟨other, hother, hroom, ?_⟩
  rw [hmultiple] at hvalue
  rw [hvalue] at hbounds
  have hle : other.ways.toNat ≤ gibs := by omega
  rcases max_choice (2 ^ 30 * minWay pool) (leastAlignment pool request.caps) with heq | heq
  · rw [heq] at hmultiple
    exact .inl (by omega)
  · rw [heq] at hmultiple
    exact .inr (by omega)

/-- What is accepted lies in the reported range. -/
private theorem RangeSound.inRange (h : RangeSound pool request ways) (hblock : request.blockSize = 1)
    (hdimms : ∀ set ∈ pool.ilsets, 0 < set.ways.toNat)
    (hbyte : ∀ set ∈ pool.ilsets, set.dimmCount < 2 ^ 8) {n count : UInt64} {driverId : UInt32}
    (hfound : findInterleaveWithCapacity pool (request.withCount n) = some (.ok (driverId, count))) :
    ∃ range, getPoolSupportedSizeRanges pool request.caps ways = some range ∧
      range.smallestPossibleAppDirectNs ≤ count ∧ count ≤ range.largestPossibleAppDirectNs := by
  obtain ⟨set, hmem, hroom, -, hminimum, hspace, hdvd⟩ :=
    matchesWithRoom_of_found hblock hdimms hfound
  have hreported := h.reported set hmem hroom
  have hrange := ranges_of_reported hreported
  obtain ⟨hsmallest, hlargest⟩ := smallest_of_reported hbyte hreported hrange
  refine ⟨_, hrange, UInt64.le_iff_toNat_le.mpr ?_, UInt64.le_iff_toNat_le.mpr ?_⟩
  · rw [hsmallest]
    have hway := Nat.mul_le_mul_left (2 ^ 30) (minWay_le_ways hbyte hmem)
    exact (max_le hway (h.least set hmem hroom)).trans hminimum
  · rw [hlargest]
    obtain ⟨other, hother, hcounts, hcovers⟩ := h.largest set hmem hroom
    have hways := hdimms set hmem
    exact (le_sub_mod_of_dvd (by omega) hdvd hspace).trans
      (hcovers.trans (availableSize_le_largest hother hcounts))

/-- The smallest reported size is accepted. -/
private theorem RangeSound.accepts (h : RangeSound pool request ways) (hblock : request.blockSize = 1)
    (hdimms : ∀ set ∈ pool.ilsets, 0 < set.ways.toNat)
    (hbyte : ∀ set ∈ pool.ilsets, set.dimmCount < 2 ^ 8) {range : PossibleNamespaceRanges}
    (hrange : getPoolSupportedSizeRanges pool request.caps ways = some range)
    (hne : range.smallestPossibleAppDirectNs ≠ 0) {set : InterleaveSet} (hmem : set ∈ pool.ilsets)
    (hmatches : MatchesRequest request set)
    (hspace : range.smallestPossibleAppDirectNs ≤ set.availableSize) :
    ∃ found, findInterleaveWithCapacity pool
      (request.withCount range.smallestPossibleAppDirectNs) = some (.ok found) := by
  have hreported : SizeReported pool request.caps ways := by
    refine (reported_or_zero hrange).resolve_right fun hzero => hne ?_
    rw [hzero]
  have hvalue := (smallest_of_reported hbyte hreported hrange).1
  have hroom := UInt64.le_iff_toNat_le.mp hspace
  rw [hvalue] at hroom
  have hway : minWay pool ≠ 0 := by
    intro hzero
    refine hne (toNat_eq_zero_iff.mp ?_)
    rw [hvalue, leastAlignment, hzero, Nat.zero_mul, Nat.zero_mod, Nat.mul_zero, max_self]
  obtain ⟨other, hother, hotherRoom, hfew⟩ := h.smallest hreported hway
    ⟨set, hmem, hmatches, (le_max_left _ _).trans hroom, (le_max_right _ _).trans hroom⟩
  have hleast := h.least other hother hotherRoom
  have hfewest := minWay_le_ways hbyte hother
  have hexact : range.smallestPossibleAppDirectNs.toNat = 2 ^ 30 * other.ways.toNat := by
    rw [hvalue]
    rcases hfew with hle | hle
    · rw [le_antisymm hfewest hle]
      exact max_eq_left hleast
    · rw [le_antisymm hleast hle]
      exact max_eq_right (Nat.mul_le_mul_left _ hfewest)
  obtain ⟨driverId, count, hfound⟩ := exists_found hblock hdimms hother hotherRoom.1
    (hexact.symm ▸ Nat.mul_dvd_mul_right (by decide) _) hexact.symm.le
    (hexact.symm ▸ hotherRoom.2)
  exact ⟨_, hfound⟩

end Agree

/-- On sets with DIMMs, the report and the search agree exactly when the sizes are sound. -/
theorem rangeAgrees_iff {pool : Pool} {request : NamespaceRequest} (ways : UInt8)
    (hblock : BlockSizeAccepted request.blockSize)
    (hdimms : ∀ set ∈ pool.ilsets, 0 < set.dimmCount ∧ set.dimmCount < 2 ^ 8) :
    RangeAgrees pool request ways ↔ RangeSound pool request ways := by
  have hbyte : ∀ set ∈ pool.ilsets, set.dimmCount < 2 ^ 8 := fun set hmem => (hdimms set hmem).2
  have hways : ∀ set ∈ pool.ilsets, 0 < set.ways.toNat := by
    intro set hmem
    rw [InterleaveSet.ways, UInt8.toNat_ofNat', Nat.mod_eq_of_lt (hbyte set hmem)]
    exact (hdimms set hmem).1
  have hone := eq_one_of_accepted hblock
  have hbytes : ∀ n : UInt64, n * request.blockSize.toUInt64 = n := fun n => by
    rw [hone]
    exact UInt64.mul_one n
  constructor
  · intro h
    refine ⟨fun set hmem hroom => (h.reported hone hways hmem hroom).1,
      fun set hmem hroom => h.least hone hways hbyte hmem hroom,
      fun set hmem hroom => (h.reported hone hways hmem hroom).2, ?_⟩
    rintro hreported hway ⟨set, hmem, hmatches, hgibs, halignment⟩
    exact h.exists_smallest hone hways hbyte hreported hway hmem hmatches hgibs halignment
  · intro h
    refine ⟨fun n driverId count hfound => ?_, ?_⟩
    · rw [hbytes]
      exact h.inRange hone hways hbyte hfound
    · rintro range hrange hne ⟨set, hmem, hmatches, hspace⟩ n hn
      rw [hbytes] at hn
      rw [hn]
      exact h.accepts hone hways hbyte hrange hne hmem hmatches hspace

/-! ### An alignment of more than a GiB -/

/-- Blocks of one byte are not refused. -/
private theorem blockSizeAccepted_one : BlockSizeAccepted 1 := by
  intro pool request range hblock
  rw [validateNsSizeForCreation, hblock, if_neg (not_not.mpr rfl)]
  split_ifs <;> decide

/-- Any namespace, where sets are aligned to two GiB. -/
def twoGiBAligned : NamespaceRequest where
  discover := fun _ => none
  caps := { appDirectMode := true, interleaveAlignmentSize := 31 }
  blockSize := 1
  blockCount := 1073741824
  allowAdjustment := true

/-- A pool with four GiB on one DIMM. -/
def fourGiBPool : Pool where
  type := .persistent
  socketId := 0
  capacity := 4294967296
  freeCapacity := 4294967296
  dimms := [⟨[], 4294967296, 0⟩]
  ilsets := [{ driverId := 1, availableSize := 4294967296, dimmCount := 1 }]

/-- The set of the pool has a DIMM. -/
private theorem dimms_fourGiBPool :
    ∀ set ∈ fourGiBPool.ilsets, 0 < set.dimmCount ∧ set.dimmCount < 2 ^ 8 :=
  List.forall_mem_singleton.mpr (by decide)

/-- The sizes on the pool. -/
theorem rangeAgrees_fourGiBPool :
    RangeAgrees fourGiBPool twoGiBAligned 0 ↔ RangeSound fourGiBPool twoGiBAligned 0 :=
  rangeAgrees_iff 0 blockSizeAccepted_one dimms_fourGiBPool

/-- A namespace of a GiB is accepted on the pool, and the smallest reported size is two GiB. -/
theorem not_rangeAgrees_fourGiBPool : ¬ ∀ (pool : Pool) (request : NamespaceRequest) (ways : UInt8),
    BlockSizeAccepted request.blockSize →
    (∀ set ∈ pool.ilsets, 0 < set.dimmCount ∧ set.dimmCount < 2 ^ 8) →
      RangeAgrees pool request ways := by
  intro hclaim
  have h := hclaim fourGiBPool twoGiBAligned 0 blockSizeAccepted_one dimms_fourGiBPool
  have hways : ∀ set ∈ fourGiBPool.ilsets, 0 < set.ways.toNat :=
    List.forall_mem_singleton.mpr (by decide)
  have hroom : MatchesWithRoom twoGiBAligned
      { driverId := 1, availableSize := 4294967296, dimmCount := 1 } := by
    refine ⟨⟨rfl, rfl, rfl⟩, by decide⟩
  have hleast := h.least rfl hways (fun set hmem => (dimms_fourGiBPool set hmem).2)
    (List.mem_singleton_self _) hroom
  exact absurd hleast (by decide)

end IxpDimm
