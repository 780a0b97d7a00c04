import IxpDimm.Namespace.BlockCount
import IxpDimm.Pool.Build

/-!
# The interleave set of a new namespace

`find_interleave_with_capacity` of `namespace.c` goes through the interleave sets of a pool for one
that a namespace can be created on.  The block count is adjusted for each set anew, and the return
code of a search in vain says which requirement no set has met.

`findInterleaveWithCapacity_iff` says which set is found and with which block count.
-/

namespace IxpDimm

open Foundation

/-! ### The request -/

/-- `enum erase_capable_status`. -/
inductive EraseCapableStatus
  | no | yes | ignore
  deriving DecidableEq, Repr

/-- What `find_interleave_with_capacity` reads: the security features, the block size and the block
count of `struct namespace_create_settings`, the capabilities, the format that is asked for, and the
discovery information of the DIMMs. -/
structure NamespaceRequest where
  /-- `nvm_get_device_discovery`. -/
  discover : Uid → Option SecureDiscovery
  /-- `p_nvm_caps`. -/
  caps : NvmCapabilities
  /-- `security_features.encryption`. -/
  encryption : EncryptionStatus := .ignore
  /-- `security_features.erase_capable`. -/
  eraseCapable : EraseCapableStatus := .ignore
  /-- `block_size`. -/
  blockSize : UInt16
  /-- `block_count`. -/
  blockCount : UInt64
  /-- `p_format`. -/
  format : Option InterleaveFormat := none
  /-- `allow_adjustment`. -/
  allowAdjustment : Bool

/-- `dimm_count`, which is a byte. -/
def InterleaveSet.ways (set : InterleaveSet) : UInt8 := .ofNat set.dimmCount

/-- `get_minimum_ns_size`. -/
def getMinimumNsSize (ways : UInt8) (driverMinNsSize : UInt64) : UInt64 :=
  let minNsSize := bytesPerGiB * ways.toUInt64
  if minNsSize > driverMinNsSize then minNsSize else driverMinNsSize

/-- The least size of a namespace on a set, from the capabilities. -/
def minimumOn (caps : NvmCapabilities) (set : InterleaveSet) : UInt64 :=
  getMinimumNsSize set.ways (set.ways.toUInt64 * caps.interleaveAlignmentSize.toUInt64)

/-- `interleave_set_has_locked_dimms`. -/
def interleaveSetHasLockedDimms (discover : Uid → Option SecureDiscovery) (set : InterleaveSet) :
    Bool :=
  set.members.any fun uid => (discover uid).any fun discovery => discovery.lockState = .locked

/-- `device_meets_encryption_criteria`. -/
def deviceMeetsEncryptionCriteria (criteria : EncryptionStatus) (discovery : SecureDiscovery) :
    Bool :=
  let encryptionEnabled := deviceIsEncryptionEnabled discovery.lockState
  if criteria = .on ∧ !encryptionEnabled then false
  else if criteria = .off ∧ encryptionEnabled then false
  else true

/-- `device_meets_erase_capable_criteria`. -/
def deviceMeetsEraseCapableCriteria (criteria : EraseCapableStatus) (discovery : SecureDiscovery) :
    Bool :=
  if criteria = .yes ∧ !discovery.eraseCryptoCapable then false
  else if criteria = .no ∧ discovery.eraseCryptoCapable then false
  else true

/-- `device_meets_security_criteria`. -/
def deviceMeetsSecurityCriteria (request : NamespaceRequest) (discovery : SecureDiscovery) : Bool :=
  if request.eraseCapable ≠ .ignore ∨ request.encryption ≠ .ignore then
    deviceMeetsEraseCapableCriteria request.eraseCapable discovery &&
      deviceMeetsEncryptionCriteria request.encryption discovery
  else true

/-- `dimm_meets_security_criteria`. -/
def dimmMeetsSecurityCriteria (request : NamespaceRequest) (uid : Uid) : Bool :=
  (request.discover uid).any (deviceMeetsSecurityCriteria request)

/-- `interleave_meets_security_criteria`. -/
def interleaveMeetsSecurityCriteria (request : NamespaceRequest) (set : InterleaveSet) : Bool :=
  if request.eraseCapable ≠ .ignore ∨ request.encryption ≠ .ignore then
    set.members.all (dimmMeetsSecurityCriteria request)
  else true

/-- `interleave_ways_match`. -/
def interleaveWaysMatch (set : InterleaveSet) (format : InterleaveFormat) : Bool :=
  decide (format.ways = .ways1) == decide (set.settings.ways = .ways1)

/-- `interleave_sizes_match`. -/
def interleaveSizesMatch (set : InterleaveSet) (format : InterleaveFormat) : Bool :=
  format.imc = set.settings.imc ∧ format.channel = set.settings.channel

/-- `interleave_meets_app_direct_settings`. -/
def interleaveMeetsAppDirectSettings (set : InterleaveSet) : Option InterleaveFormat → Bool
  | none => true
  | some format =>
    interleaveWaysMatch set format &&
      (decide (format.ways = .ways1) || interleaveSizesMatch set format)

/-! ### The search -/

/-- The local variables of the loop. -/
structure IlsetSearch where
  /-- `atleast_one_ilset_have_unlocked_dimms`. -/
  unlocked : Bool := false
  /-- `at_least_size_is_good`. -/
  sizeIsGood : Bool := false
  /-- `at_least_one_security_met`. -/
  securityMet : Bool := false
  /-- `at_least_one_interleave_format_met`. -/
  formatMet : Bool := false
  /-- `at_least_one_alignment_met`. -/
  alignmentMet : Bool := false
  /-- `new_block_count`. -/
  newBlockCount : UInt64 := 0
  /-- `*namespace_creation_id`, when `found_ilset` is set. -/
  found : Option UInt32 := none
  deriving DecidableEq, Repr

/-- The body of the loop. -/
def tryIlset (request : NamespaceRequest) (search : IlsetSearch) (set : InterleaveSet) :
    Option IlsetSearch :=
  if interleaveSetHasLockedDimms request.discover set then some search
  else do
    let newBlockCount ← adjustNamespaceBlockCountIfAllowed request.blockCount request.blockSize
      set.ways request.allowAdjustment
    let search := { search with unlocked := true, newBlockCount := newBlockCount }
    let capacity := newBlockCount * request.blockSize.toUInt64
    if set.availableSize ≥ capacity ∧ capacity ≥ minimumOn request.caps set then
      let securityIsMet := interleaveMeetsSecurityCriteria request set
      let formatIsMet := interleaveMeetsAppDirectSettings set request.format
      let alignmentIsGood ← checkNamespaceAlignment capacity request.blockSize.toUInt32 set.ways
      some { search with
        sizeIsGood := true
        securityMet := search.securityMet || securityIsMet
        formatMet := search.formatMet || formatIsMet
        alignmentMet := search.alignmentMet || alignmentIsGood
        found := if securityIsMet && formatIsMet && alignmentIsGood then some set.driverId
          else search.found }
    else some search

/-- The loop over the sets, until one is found. -/
def searchIlsets (request : NamespaceRequest) : List InterleaveSet → IlsetSearch →
    Option IlsetSearch
  | [], search => some search
  | set :: sets, search =>
    if search.found.isSome then some search
    else (tryIlset request search set).bind (searchIlsets request sets)

/-- `find_interleave_with_capacity`: the identifier of the set and the block count that is left in
the settings, none for a division by zero. -/
def findInterleaveWithCapacity (pool : Pool) (request : NamespaceRequest) :
    Option (Except ReturnCode (UInt32 × UInt64)) :=
  (searchIlsets request pool.ilsets {}).map fun search =>
    match search.found with
    | some driverId => .ok (driverId, search.newBlockCount)
    | none =>
      .error (if !search.unlocked then .errBadSecurityState
        else if !search.sizeIsGood then .errBadSize
        else if !search.securityMet then .errBadSecurityGoal
        else if !search.alignmentMet then .errBadAlignment
        else .errBadNamespaceSettings)

/-! ### Usable sets -/

section Request

variable (request : NamespaceRequest)

/-- A namespace of a number of blocks fits on a set: none of the DIMMs of the set is locked, the
number is the one adjusted for the set, its size is at least the minimum and not more than what is
available, and the set has the security features and the format that are asked for. -/
structure FitsOn (set : InterleaveSet) (count : UInt64) : Prop where
  /-- No DIMM is locked. -/
  unlocked : ∀ uid ∈ set.members, ∀ discovery, request.discover uid = some discovery →
    discovery.lockState ≠ .locked
  /-- The block count is adjusted for the set. -/
  adjusted : adjustNamespaceBlockCountIfAllowed request.blockCount request.blockSize set.ways
    request.allowAdjustment = some count
  /-- The size is at least the minimum. -/
  minimum : (minimumOn request.caps set).toNat ≤ (count * request.blockSize.toUInt64).toNat
  /-- There is room for it. -/
  room : (count * request.blockSize.toUInt64).toNat ≤ set.availableSize.toNat
  /-- The security features, unless they are ignored. -/
  security : (request.encryption = .ignore ∧ request.eraseCapable = .ignore) ∨
    ∀ uid ∈ set.members, ∃ discovery, request.discover uid = some discovery ∧
      (request.eraseCapable = .yes → discovery.eraseCryptoCapable = true) ∧
      (request.eraseCapable = .no → discovery.eraseCryptoCapable = false) ∧
      (request.encryption = .on → deviceIsEncryptionEnabled discovery.lockState = true) ∧
      (request.encryption = .off → deviceIsEncryptionEnabled discovery.lockState = false)
  /-- The format: not interleaved for not interleaved, the same sizes otherwise. -/
  format : ∀ format, request.format = some format →
    (format.ways = .ways1 ↔ set.settings.ways = .ways1) ∧
      (format.ways ≠ .ways1 → format.imc = set.settings.imc ∧
        format.channel = set.settings.channel)

/-- A set is usable: the namespace fits on it, and its size has the alignment of the set. -/
structure UsableIlset (set : InterleaveSet) (count : UInt64) : Prop extends
    FitsOn request set count where
  /-- The size is aligned. -/
  aligned : checkNamespaceAlignment (count * request.blockSize.toUInt64)
    request.blockSize.toUInt32 set.ways = some true

/-- Trying a set ends in a division by zero. -/
def DividesByZero (set : InterleaveSet) : Prop :=
  ∀ search, tryIlset request search set = none

/-! ### One set -/

variable {request}

/-- The test for locked DIMMs. -/
theorem interleaveSetHasLockedDimms_eq_false_iff (set : InterleaveSet) :
    interleaveSetHasLockedDimms request.discover set = false ↔
      ∀ uid ∈ set.members, ∀ discovery, request.discover uid = some discovery →
        discovery.lockState ≠ .locked := by
  rw [interleaveSetHasLockedDimms, List.any_eq_false]
  refine forall₂_congr fun uid _ => ?_
  cases request.discover uid with
  | none => simp
  | some discovery => simp

/-- The criteria of one DIMM. -/
private theorem deviceMeetsSecurityCriteria_iff (discovery : SecureDiscovery)
    (hasked : request.eraseCapable ≠ .ignore ∨ request.encryption ≠ .ignore) :
    deviceMeetsSecurityCriteria request discovery = true ↔
      (request.eraseCapable = .yes → discovery.eraseCryptoCapable = true) ∧
      (request.eraseCapable = .no → discovery.eraseCryptoCapable = false) ∧
      (request.encryption = .on → deviceIsEncryptionEnabled discovery.lockState = true) ∧
      (request.encryption = .off → deviceIsEncryptionEnabled discovery.lockState = false) := by
  rw [deviceMeetsSecurityCriteria, if_pos hasked, deviceMeetsEraseCapableCriteria,
    deviceMeetsEncryptionCriteria]
  cases request.eraseCapable <;> cases request.encryption <;>
    cases discovery.eraseCryptoCapable <;>
    cases deviceIsEncryptionEnabled discovery.lockState <;> decide

/-- The security features of a set. -/
theorem interleaveMeetsSecurityCriteria_iff (set : InterleaveSet) :
    interleaveMeetsSecurityCriteria request set = true ↔
      (request.encryption = .ignore ∧ request.eraseCapable = .ignore) ∨
        ∀ uid ∈ set.members, ∃ discovery, request.discover uid = some discovery ∧
          (request.eraseCapable = .yes → discovery.eraseCryptoCapable = true) ∧
          (request.eraseCapable = .no → discovery.eraseCryptoCapable = false) ∧
          (request.encryption = .on → deviceIsEncryptionEnabled discovery.lockState = true) ∧
          (request.encryption = .off →
            deviceIsEncryptionEnabled discovery.lockState = false) := by
  unfold interleaveMeetsSecurityCriteria
  split_ifs with hasked
  · have hnot : ¬ (request.encryption = .ignore ∧ request.eraseCapable = .ignore) := by
      rintro ⟨hencryption, herase⟩
      rcases hasked with h | h
      · exact h herase
      · exact h hencryption
    rw [or_iff_right hnot, List.all_eq_true]
    refine forall₂_congr fun uid _ => ?_
    unfold dimmMeetsSecurityCriteria
    cases request.discover uid with
    | none => simp
    | some discovery =>
      rw [Option.any_some, deviceMeetsSecurityCriteria_iff discovery hasked]
      simp
  · rw [not_or, not_not, not_not] at hasked
    exact iff_of_true rfl (.inl hasked.symm)

/-- The format of a set. -/
theorem interleaveMeetsAppDirectSettings_iff (set : InterleaveSet)
    (format : Option InterleaveFormat) : interleaveMeetsAppDirectSettings set format = true ↔
      ∀ f, format = some f → (f.ways = .ways1 ↔ set.settings.ways = .ways1) ∧
        (f.ways ≠ .ways1 → f.imc = set.settings.imc ∧ f.channel = set.settings.channel) := by
  cases format with
  | none => exact iff_of_true rfl fun _ h => absurd h.symm (Option.some_ne_none _)
  | some f =>
    simp only [interleaveMeetsAppDirectSettings, interleaveWaysMatch, interleaveSizesMatch,
      Bool.and_eq_true, Bool.or_eq_true, beq_iff_eq, decide_eq_decide, decide_eq_true_iff,
      Option.some.injEq, forall_eq']
    exact and_congr_right fun _ => or_iff_not_imp_left

/-- A set is usable with one block count only. -/
theorem UsableIlset.count_unique {set : InterleaveSet} {count count' : UInt64}
    (h : UsableIlset request set count) (h' : UsableIlset request set count') : count = count' :=
  Option.some_inj.mp (h.adjusted.symm.trans h'.adjusted)

/-- What one pass of the loop does: it divides by zero, or it finds a usable set and keeps its block
count, or the set is not usable and nothing is found. -/
private theorem tryIlset_cases (set : InterleaveSet) :
    (DividesByZero request set ∧ ∀ count, ¬ UsableIlset request set count) ∨
      ∀ search, ∃ search', tryIlset request search set = some search' ∧
      ((UsableIlset request set search'.newBlockCount ∧ search'.found = some set.driverId) ∨
        ((∀ count, ¬ UsableIlset request set count) ∧ search'.found = search.found)) := by
  cases hlocked : interleaveSetHasLockedDimms request.discover set with
  | true =>
    refine .inr fun search => ⟨search, if_pos hlocked, .inr ⟨fun count husable => ?_, rfl⟩⟩
    have hunlocked := (interleaveSetHasLockedDimms_eq_false_iff set).mpr husable.unlocked
    rw [hlocked] at hunlocked
    exact Bool.noConfusion hunlocked
  | false =>
    have hunlocked := (interleaveSetHasLockedDimms_eq_false_iff set).mp hlocked
    cases hadjusted : adjustNamespaceBlockCountIfAllowed request.blockCount request.blockSize
        set.ways request.allowAdjustment with
    | none =>
      refine .inl ⟨fun search => ?_, fun count husable => ?_⟩
      · simp only [tryIlset, hlocked, Bool.false_eq_true, if_false, hadjusted,
          Option.bind_eq_bind, Option.bind_none]
      · exact Option.some_ne_none _ (husable.adjusted.symm.trans hadjusted)
    | some count =>
      have hcount : ∀ {count'}, UsableIlset request set count' → count = count' := fun h =>
        Option.some_inj.mp (hadjusted.symm.trans h.adjusted)
      by_cases hsize : set.availableSize ≥ count * request.blockSize.toUInt64 ∧
          count * request.blockSize.toUInt64 ≥ minimumOn request.caps set
      · have hroom := UInt64.le_iff_toNat_le.mp hsize.1
        have hminimum := UInt64.le_iff_toNat_le.mp hsize.2
        cases halignment : checkNamespaceAlignment (count * request.blockSize.toUInt64)
            request.blockSize.toUInt32 set.ways with
        | none =>
          refine .inl ⟨fun search => ?_, fun count' husable => ?_⟩
          · simp only [tryIlset, hlocked, Bool.false_eq_true, if_false, hadjusted,
              Option.bind_eq_bind, Option.bind_some, if_pos hsize, halignment, Option.bind_none]
          · obtain rfl := hcount husable
            exact Option.some_ne_none _ (husable.aligned.symm.trans halignment)
        | some aligned =>
          refine .inr fun search => ?_
          simp only [tryIlset, hlocked, Bool.false_eq_true, if_false, hadjusted,
            Option.bind_eq_bind, Option.bind_some, if_pos hsize, halignment]
          refine ⟨_, rfl, ?_⟩
          dsimp only
          by_cases hmet : (interleaveMeetsSecurityCriteria request set &&
              interleaveMeetsAppDirectSettings set request.format && aligned) = true
          · rw [if_pos hmet]
            simp only [Bool.and_eq_true] at hmet
            refine .inl ⟨⟨⟨hunlocked, hadjusted, hminimum, hroom,
              (interleaveMeetsSecurityCriteria_iff set).mp hmet.1.1,
              (interleaveMeetsAppDirectSettings_iff set _).mp hmet.1.2⟩, ?_⟩, rfl⟩
            rw [halignment, hmet.2]
          · rw [if_neg hmet]
            refine .inr ⟨fun count' husable => hmet ?_, rfl⟩
            have hsecurity := (interleaveMeetsSecurityCriteria_iff set).mpr husable.security
            have hformat := (interleaveMeetsAppDirectSettings_iff set _).mpr husable.format
            obtain rfl := hcount husable
            rw [hsecurity, hformat,
              Option.some_inj.mp (halignment.symm.trans husable.aligned)]
            rfl
      · refine .inr fun search => ⟨{ search with unlocked := true, newBlockCount := count }, ?_,
          .inr ⟨fun count' husable => hsize ?_, rfl⟩⟩
        · simp only [tryIlset, hlocked, Bool.false_eq_true, if_false, hadjusted,
            Option.bind_eq_bind, Option.bind_some, if_neg hsize]
        · obtain rfl := hcount husable
          exact ⟨UInt64.le_iff_toNat_le.mpr husable.room, UInt64.le_iff_toNat_le.mpr husable.minimum⟩

/-! ### All sets -/

variable (request)

/-- The first usable set of a list, with a block count: the sets before it are not usable, and none
of them ends the search with a division by zero. -/
def FirstUsable (sets : List InterleaveSet) (driverId : UInt32) (count : UInt64) : Prop :=
  ∃ before set after, sets = before ++ set :: after ∧ UsableIlset request set count ∧
    set.driverId = driverId ∧
      ∀ other ∈ before, ¬ DividesByZero request other ∧ ∀ count, ¬ UsableIlset request other count

variable {request}

/-- A set is the first one, or it is passed over. -/
private theorem firstUsable_cons_iff {set : InterleaveSet} {sets : List InterleaveSet}
    {driverId : UInt32} {count : UInt64} : FirstUsable request (set :: sets) driverId count ↔
      (UsableIlset request set count ∧ set.driverId = driverId) ∨
        ((¬ DividesByZero request set ∧ ∀ count, ¬ UsableIlset request set count) ∧
          FirstUsable request sets driverId count) := by
  constructor
  · rintro ⟨before, first, after, hsets, husable, hid, hbefore⟩
    cases before with
    | nil =>
      obtain ⟨rfl, rfl⟩ := List.cons.inj hsets
      exact .inl ⟨husable, hid⟩
    | cons other before =>
      obtain ⟨rfl, rfl⟩ := List.cons.inj hsets
      obtain ⟨hother, hbefore⟩ := List.forall_mem_cons.mp hbefore
      exact .inr ⟨hother, before, first, after, rfl, husable, hid, hbefore⟩
  · rintro (⟨husable, hid⟩ | ⟨hpassed, before, first, after, rfl, husable, hid, hbefore⟩)
    · exact ⟨[], set, sets, rfl, husable, hid, List.forall_mem_nil _⟩
    · exact ⟨set :: before, first, after, rfl, husable, hid,
        List.forall_mem_cons.mpr ⟨hpassed, hbefore⟩⟩

/-- The loop stops when a set is found. -/
private theorem searchIlsets_of_found {search : IlsetSearch} (h : search.found.isSome = true)
    (sets : List InterleaveSet) : searchIlsets request sets search = some search := by
  cases sets with
  | nil => rfl
  | cons set sets => exact if_pos h

/-- The loop finds the first usable set. -/
private theorem searchIlsets_iff (sets : List InterleaveSet) {search : IlsetSearch}
    (hfound : search.found = none) (driverId : UInt32) (count : UInt64) :
    (∃ last, searchIlsets request sets search = some last ∧ last.found = some driverId ∧
      last.newBlockCount = count) ↔ FirstUsable request sets driverId count := by
  induction sets generalizing search with
  | nil =>
    refine iff_of_false ?_ ?_
    · rintro ⟨last, hlast, hid, -⟩
      rw [← Option.some_inj.mp hlast, hfound] at hid
      exact Option.some_ne_none _ hid.symm
    · rintro ⟨before, set, after, hsets, -⟩
      exact List.append_ne_nil_of_right_ne_nil _ (List.cons_ne_nil _ _) hsets.symm
  | cons set sets ih =>
    have hstep : searchIlsets request (set :: sets) search =
        (tryIlset request search set).bind (searchIlsets request sets) :=
      if_neg (by rw [hfound]; exact Bool.false_ne_true)
    rw [hstep, firstUsable_cons_iff]
    rcases tryIlset_cases set with ⟨hzero, hnotUsable⟩ | htried
    · rw [hzero]
      refine iff_of_false ?_ ?_
      · rintro ⟨_, h, -⟩
        exact Option.some_ne_none _ h.symm
      · rintro (⟨husable, -⟩ | ⟨⟨hnonzero, -⟩, -⟩)
        · exact hnotUsable count husable
        · exact hnonzero hzero
    · obtain ⟨search', htry, hresult⟩ := htried search
      have hnonzero : ¬ DividesByZero request set := by
        intro hzero
        rw [hzero search] at htry
        exact Option.some_ne_none _ htry.symm
      rw [htry, Option.bind_some]
      rcases hresult with ⟨husable, hid⟩ | ⟨hpassed, hkept⟩
      · rw [searchIlsets_of_found (by rw [hid]; rfl)]
        constructor
        · rintro ⟨last, hlast, hlastId, hlastCount⟩
          obtain rfl := Option.some_inj.mp hlast
          exact .inl ⟨hlastCount ▸ husable, Option.some_inj.mp (hid.symm.trans hlastId)⟩
        · rintro (⟨hother, rfl⟩ | ⟨⟨-, hnotUsable⟩, -⟩)
          · exact ⟨search', rfl, hid, husable.count_unique hother⟩
          · exact absurd husable (hnotUsable _)
      · rw [ih (hkept.trans hfound)]
        refine ⟨fun h => .inr ⟨⟨hnonzero, hpassed⟩, h⟩, ?_⟩
        rintro (⟨husable, -⟩ | ⟨-, h⟩)
        · exact absurd husable (hpassed count)
        · exact h

/-- What the function returns for a search that has ended. -/
theorem findInterleaveWithCapacity_eq_ok_iff (pool : Pool) (driverId : UInt32)
    (count : UInt64) : findInterleaveWithCapacity pool request = some (.ok (driverId, count)) ↔
      FirstUsable request pool.ilsets driverId count := by
  rw [← @searchIlsets_iff request pool.ilsets {} rfl, findInterleaveWithCapacity,
    Option.map_eq_some_iff]
  refine exists_congr fun last => and_congr_right fun _ => ?_
  cases last.found with
  | none =>
    refine iff_of_false (fun h => ?_) fun h => Option.some_ne_none _ h.1.symm
    cases h
  | some id => simp

/-- The search succeeds exactly when there is a usable set that it gets to, and then with the first
one in the order of the list and the block count adjusted for it. -/
theorem findInterleaveWithCapacity_iff (pool : Pool) (request : NamespaceRequest)
    (driverId : UInt32) (count : UInt64) :
    findInterleaveWithCapacity pool request = some (.ok (driverId, count)) ↔
      FirstUsable request pool.ilsets driverId count :=
  findInterleaveWithCapacity_eq_ok_iff pool driverId count

/-- The set that is found is usable. -/
theorem usableIlset_of_found {pool : Pool} {driverId : UInt32} {count : UInt64}
    (h : findInterleaveWithCapacity pool request = some (.ok (driverId, count))) :
    ∃ set ∈ pool.ilsets, UsableIlset request set count := by
  obtain ⟨before, set, after, hsets, husable, -⟩ :=
    (findInterleaveWithCapacity_eq_ok_iff pool driverId count).mp h
  rw [hsets]
  exact ⟨set, List.mem_append_right _ List.mem_cons_self, husable⟩

end Request

/-! ### Sets with DIMMs -/

section Succeeds

variable {request : NamespaceRequest}

/-- A set with a DIMM does not divide by zero at a supported block size. -/
theorem not_dividesByZero (hblock : SupportedBlockSize request.blockSize.toNat)
    {set : InterleaveSet} (hways : 0 < set.ways.toNat) : ¬ DividesByZero request set := by
  intro hzero
  have hnone := hzero {}
  have hadjusted : ∃ count, adjustNamespaceBlockCountIfAllowed request.blockCount request.blockSize
      set.ways request.allowAdjustment = some count := by
    unfold adjustNamespaceBlockCountIfAllowed
    split_ifs
    · obtain ⟨count, hcount, -⟩ := adjustNamespaceBlockCount_eq hblock hways request.blockCount
      exact ⟨count, hcount⟩
    · exact ⟨_, rfl⟩
  obtain ⟨count, hcount⟩ := hadjusted
  have hwide : SupportedBlockSize request.blockSize.toUInt32.toNat := by
    rwa [UInt16.toNat_toUInt32]
  simp only [tryIlset, hcount, checkNamespaceAlignment_eq hwide hways, Option.bind_eq_bind,
    Option.bind_some] at hnone
  split_ifs at hnone

/-- Without a division by zero the search gets to the first usable set. -/
private theorem exists_firstUsable_iff {sets : List InterleaveSet}
    (hnonzero : ∀ set ∈ sets, ¬ DividesByZero request set) :
    (∃ driverId count, FirstUsable request sets driverId count) ↔
      ∃ set ∈ sets, ∃ count, UsableIlset request set count := by
  constructor
  · rintro ⟨driverId, count, before, set, after, rfl, husable, -⟩
    exact ⟨set, List.mem_append_right _ List.mem_cons_self, count, husable⟩
  · rintro ⟨set, hmem, husable⟩
    induction sets with
    | nil => exact absurd hmem List.not_mem_nil
    | cons first sets ih =>
      obtain ⟨hfirst, hsets⟩ := List.forall_mem_cons.mp hnonzero
      by_cases hthis : ∃ count, UsableIlset request first count
      · obtain ⟨count, hcount⟩ := hthis
        exact ⟨_, _, firstUsable_cons_iff.mpr (.inl ⟨hcount, rfl⟩)⟩
      · have hlater : set ∈ sets := by
          rcases List.mem_cons.mp hmem with rfl | hlater
          · exact absurd husable hthis
          · exact hlater
        obtain ⟨driverId, count, h⟩ := ih hsets hlater
        exact ⟨driverId, count, firstUsable_cons_iff.mpr (.inr ⟨⟨hfirst, not_exists.mp hthis⟩, h⟩)⟩

/-- At a supported block size, on sets with DIMMs, the search succeeds exactly when some set is
usable. -/
theorem findInterleaveWithCapacity_succeeds_iff {pool : Pool}
    (hblock : SupportedBlockSize request.blockSize.toNat)
    (hdimms : ∀ set ∈ pool.ilsets, 0 < set.ways.toNat) :
    (∃ found, findInterleaveWithCapacity pool request = some (.ok found)) ↔
      ∃ set ∈ pool.ilsets, ∃ count, UsableIlset request set count := by
  rw [← exists_firstUsable_iff fun set hmem => not_dividesByZero hblock (hdimms set hmem)]
  constructor
  · rintro ⟨⟨driverId, count⟩, hfound⟩
    exact ⟨driverId, count, (findInterleaveWithCapacity_eq_ok_iff pool driverId count).mp hfound⟩
  · rintro ⟨driverId, count, hfirst⟩
    exact ⟨_, (findInterleaveWithCapacity_eq_ok_iff pool driverId count).mpr hfirst⟩

end Succeeds

/-- A request for one byte more than a GiB. -/
def misalignedRequest : NamespaceRequest where
  discover := fun _ => none
  caps := {}
  blockSize := 1
  blockCount := 1073741825
  allowAdjustment := false

/-- A pool with two GiB on one DIMM. -/
def twoGiBPool : Pool where
  type := .persistent
  socketId := 0
  ilsets := [{ driverId := 1, availableSize := 2147483648, dimmCount := 1 }]

/-- A namespace of a GiB and one byte fits on the set, but it is not aligned and none is found. -/
theorem not_found_misaligned : ¬ ∀ (pool : Pool) (request : NamespaceRequest),
    (∃ found, findInterleaveWithCapacity pool request = some (.ok found)) ↔
      ∃ set ∈ pool.ilsets, ∃ count, FitsOn request set count := by
  intro h
  have hblock : SupportedBlockSize misalignedRequest.blockSize.toNat := .inl rfl
  have hdimms : ∀ set ∈ twoGiBPool.ilsets, 0 < set.ways.toNat :=
    List.forall_mem_singleton.mpr (by decide)
  have hfits : FitsOn misalignedRequest { driverId := 1, availableSize := 2147483648, dimmCount := 1 }
      1073741825 := by
    refine ⟨fun uid _ discovery hnone => ?_, rfl, by decide, by decide, .inl ⟨rfl, rfl⟩,
      fun format hnone => ?_⟩
    · exact absurd hnone.symm (Option.some_ne_none _)
    · exact absurd hnone.symm (Option.some_ne_none _)
  have hfound := (h twoGiBPool misalignedRequest).mpr ⟨_, List.mem_singleton_self _, _, hfits⟩
  obtain ⟨set, hmem, count, husable⟩ :=
    (findInterleaveWithCapacity_succeeds_iff hblock hdimms).mp hfound
  obtain rfl := List.mem_singleton.mp hmem
  obtain rfl := Option.some_inj.mp husable.adjusted
  have haligned := husable.aligned
  rw [checkNamespaceAlignment_eq (.inl rfl) (by decide), Option.some_inj] at haligned
  exact absurd haligned (by decide)

end IxpDimm
