import IxpDimm.Namespace.FindIlset

/-!
# The size of a modified namespace

`validate_namespace_size_for_modification` of `namespace.c` checks a new block count against the pool
and against the interleave set that the namespace is on.  It compares sizes that are products of
64 bits.

`modificationSound_iff` says when an accepted count is one that there is room for.
-/

namespace IxpDimm

open Foundation

/-- The body of the loop over the sets in `validate_app_direct_namespace_size_for_modification`, with
the return code and `*p_block_count`; none for a division by zero. -/
def validateOnIlset (details : NvmNamespaceDetails) (caps : NvmCapabilities) (allowAdjustment : Bool)
    (state : ReturnCode × UInt64) (set : InterleaveSet) : Option (ReturnCode × UInt64) :=
  if set.driverId = details.interleaveSetid then do
    let oldCapacity := details.blockCount * details.blockSize.toUInt64
    let newBlockCount ← adjustNamespaceBlockCountIfAllowed state.2 details.blockSize.toUInt16
      set.ways allowAdjustment
    let capacity := newBlockCount * details.blockSize.toUInt64
    if capacity > oldCapacity ∧ set.availableSize < capacity - oldCapacity then
      some (.errBadSize, state.2)
    else if capacity < minimumOn caps set then some (.errBadSize, state.2)
    else do
      let aligned ← checkNamespaceAlignment capacity details.blockSize set.ways
      some (if aligned then (state.1, newBlockCount) else (.errBadAlignment, state.2))
  else some state

/-- `validate_app_direct_namespace_size_for_modification`: the return code and `*p_block_count`. -/
def validateAppDirectNamespaceSizeForModification (pool : Pool) (blockCount : UInt64)
    (details : NvmNamespaceDetails) (caps : NvmCapabilities) (allowAdjustment : Bool) :
    Option (ReturnCode × UInt64) :=
  pool.ilsets.foldlM (validateOnIlset details caps allowAdjustment) (.success, blockCount)

/-- `validate_namespace_size_for_modification`, with the answer of `nvm_get_nvm_capabilities`. -/
def validateNamespaceSizeForModification (pool : Pool) (blockCount : UInt64)
    (details : NvmNamespaceDetails) (caps : Except ReturnCode NvmCapabilities)
    (allowAdjustment : Bool) : Option (ReturnCode × UInt64) :=
  match caps with
  | .error rc => some (rc, blockCount)
  | .ok caps =>
    let capacity := blockCount * details.blockSize.toUInt64
    let oldCapacity := (getRealBlockSize details.blockSize).toUInt64 * details.blockCount
    if capacity > oldCapacity ∧ pool.freeCapacity < capacity - oldCapacity then
      some (.errBadSize, blockCount)
    else if details.type = .appDirect then
      validateAppDirectNamespaceSizeForModification pool blockCount details caps allowAdjustment
    else some (.errBadNamespaceType, blockCount)

/-! ### What an accepted count must be -/

/-- A count that is accepted makes a size, over the exact integers, of at least the minimum, and of at
most what the namespace has and what is available on its set. -/
def ModificationSound (pool : Pool) (set : InterleaveSet) (blockCount : UInt64)
    (details : NvmNamespaceDetails) (caps : Except ReturnCode NvmCapabilities)
    (allowAdjustment : Bool) : Prop :=
  ∀ count, validateNamespaceSizeForModification pool blockCount details caps allowAdjustment =
      some (.success, count) →
    ∀ supported, caps = .ok supported →
      (minimumOn supported set).toNat ≤ count.toNat * details.blockSize.toNat ∧
      count.toNat * details.blockSize.toNat ≤
        details.blockCount.toNat * details.blockSize.toNat + set.availableSize.toNat

/-- A size of 64 bits has room beside an old one: it is not larger, or by no more than what is
available. -/
def HasRoom (size old available : ℕ) : Prop := size ≤ old ∨ size - old ≤ available

instance (size old available : ℕ) : Decidable (HasRoom size old available) :=
  inferInstanceAs (Decidable (_ ∨ _))

/-- The requests that are accepted although there is no room for them: the size of the count that is
checked is `2 ^ 64` at least, and its remainder modulo `2 ^ 64` passes for a size. -/
structure WrapsIntoRange (pool : Pool) (set : InterleaveSet) (blockCount : UInt64)
    (details : NvmNamespaceDetails) (caps : NvmCapabilities) (count : UInt64) : Prop where
  /-- The size does not fit 64 bits. -/
  wraps : 2 ^ 64 ≤ count.toNat * details.blockSize.toNat
  /-- There is no room for it. -/
  tooLarge : details.blockCount.toNat * details.blockSize.toNat + set.availableSize.toNat <
    count.toNat * details.blockSize.toNat
  /-- The remainder of the requested size has room in the pool. -/
  pool : HasRoom (blockCount.toNat * details.blockSize.toNat % 2 ^ 64)
    ((getRealBlockSize details.blockSize).toNat * details.blockCount.toNat % 2 ^ 64)
    pool.freeCapacity.toNat
  /-- The remainder has room on the set. -/
  room : HasRoom (count.toNat * details.blockSize.toNat % 2 ^ 64)
    (details.blockCount.toNat * details.blockSize.toNat % 2 ^ 64) set.availableSize.toNat
  /-- The remainder is at least the minimum. -/
  minimum : (minimumOn caps set).toNat ≤ count.toNat * details.blockSize.toNat % 2 ^ 64
  /-- The remainder is aligned. -/
  aligned : checkNamespaceAlignment (count * details.blockSize.toUInt64) details.blockSize set.ways =
    some true

/-! ### What is accepted -/

section Accepted

variable {pool : Pool} {set : InterleaveSet} {blockCount : UInt64} {details : NvmNamespaceDetails}
  {caps : NvmCapabilities} {allowAdjustment : Bool}

/-- The comparison of a size with the old one and with what is available. -/
private theorem hasRoom_iff (size old available : UInt64) :
    ¬ (size > old ∧ available < size - old) ↔
      HasRoom size.toNat old.toNat available.toNat := by
  rw [gt_iff_lt, UInt64.lt_iff_toNat_lt, UInt64.lt_iff_toNat_lt, not_and_or, not_lt, not_lt, HasRoom]
  rcases Nat.lt_or_ge old.toNat size.toNat with hlarger | hle
  · rw [toNat_sub_of_toNat_le hlarger.le]
  · exact iff_of_true (.inl hle) (.inl hle)

/-- The pass of the loop for the set of the namespace. -/
private theorem validateOnIlset_iff (hid : set.driverId = details.interleaveSetid)
    (count : UInt64) :
    validateOnIlset details caps allowAdjustment (.success, blockCount) set =
        some (.success, count) ↔
      adjustNamespaceBlockCountIfAllowed blockCount details.blockSize.toUInt16 set.ways
          allowAdjustment = some count ∧
        HasRoom (count.toNat * details.blockSize.toNat % 2 ^ 64)
          (details.blockCount.toNat * details.blockSize.toNat % 2 ^ 64) set.availableSize.toNat ∧
        (minimumOn caps set).toNat ≤ count.toNat * details.blockSize.toNat % 2 ^ 64 ∧
        checkNamespaceAlignment (count * details.blockSize.toUInt64) details.blockSize set.ways =
          some true := by
  have hsize : ∀ n : UInt64, (n * details.blockSize.toUInt64).toNat =
      n.toNat * details.blockSize.toNat % 2 ^ 64 := fun n => by
    rw [UInt64.toNat_mul, UInt32.toNat_toUInt64]
  rw [validateOnIlset, if_pos hid]
  cases adjustNamespaceBlockCountIfAllowed blockCount details.blockSize.toUInt16 set.ways
      allowAdjustment with
  | none =>
    rw [Option.bind_eq_bind, Option.bind_none]
    exact iff_of_false (fun h => Option.some_ne_none _ h.symm)
      fun h => Option.some_ne_none _ h.1.symm
  | some adjusted =>
    rw [Option.bind_eq_bind, Option.bind_some, Option.some_inj]
    dsimp only
    have hroom := hasRoom_iff (adjusted * details.blockSize.toUInt64)
      (details.blockCount * details.blockSize.toUInt64) set.availableSize
    have hminimum := UInt64.lt_iff_toNat_lt (a := adjusted * details.blockSize.toUInt64)
      (b := minimumOn caps set)
    rw [hsize, hsize] at hroom
    rw [hsize] at hminimum
    split_ifs with hno hsmall
    · refine iff_of_false (fun h => ?_) ?_
      · cases h
      · rintro ⟨rfl, h, -, -⟩
        exact hroom.mpr h hno
    · refine iff_of_false (fun h => ?_) ?_
      · cases h
      · rintro ⟨rfl, -, h, -⟩
        exact absurd (hminimum.mp hsmall) (Nat.not_lt.mpr h)
    · have hboth : HasRoom (adjusted.toNat * details.blockSize.toNat % 2 ^ 64)
          (details.blockCount.toNat * details.blockSize.toNat % 2 ^ 64) set.availableSize.toNat ∧
          (minimumOn caps set).toNat ≤ adjusted.toNat * details.blockSize.toNat % 2 ^ 64 :=
        ⟨hroom.mp hno, Nat.not_lt.mp (mt hminimum.mpr hsmall)⟩
      cases haligned : checkNamespaceAlignment (adjusted * details.blockSize.toUInt64)
          details.blockSize set.ways with
      | none =>
        rw [Option.bind_eq_bind, Option.bind_none]
        refine iff_of_false (fun h => Option.some_ne_none _ h.symm) ?_
        rintro ⟨rfl, -, -, h⟩
        exact Option.some_ne_none _ (h.symm.trans haligned)
      | some aligned =>
        rw [Option.bind_eq_bind, Option.bind_some, Option.some_inj]
        cases aligned with
        | true =>
          constructor
          · intro h
            obtain rfl := (Prod.mk.inj h).2
            exact ⟨rfl, hboth.1, hboth.2, haligned⟩
          · rintro ⟨rfl, -⟩
            rfl
        | false =>
          refine iff_of_false (fun h => ?_) ?_
          · cases h
          · rintro ⟨rfl, -, -, h⟩
            exact Bool.false_ne_true (Option.some_inj.mp (haligned.symm.trans h))

/-- What is accepted when one set has the identifier of the namespace. -/
theorem validate_eq_success_iff
    (hset : pool.ilsets.filter (·.driverId = details.interleaveSetid) = [set]) (count : UInt64) :
    validateNamespaceSizeForModification pool blockCount details (.ok caps) allowAdjustment =
        some (.success, count) ↔
      details.type = .appDirect ∧
        HasRoom (blockCount.toNat * details.blockSize.toNat % 2 ^ 64)
          ((getRealBlockSize details.blockSize).toNat * details.blockCount.toNat % 2 ^ 64)
          pool.freeCapacity.toNat ∧
        adjustNamespaceBlockCountIfAllowed blockCount details.blockSize.toUInt16 set.ways
          allowAdjustment = some count ∧
        HasRoom (count.toNat * details.blockSize.toNat % 2 ^ 64)
          (details.blockCount.toNat * details.blockSize.toNat % 2 ^ 64) set.availableSize.toNat ∧
        (minimumOn caps set).toNat ≤ count.toNat * details.blockSize.toNat % 2 ^ 64 ∧
        checkNamespaceAlignment (count * details.blockSize.toUInt64) details.blockSize set.ways =
          some true := by
  have hid : set.driverId = details.interleaveSetid := by
    have hmem : set ∈ pool.ilsets.filter (·.driverId = details.interleaveSetid) :=
      hset ▸ List.mem_singleton_self set
    exact of_decide_eq_true (List.mem_filter.mp hmem).2
  have hloop : validateAppDirectNamespaceSizeForModification pool blockCount details caps
      allowAdjustment =
        validateOnIlset details caps allowAdjustment (.success, blockCount) set := by
    have hskip : (fun (state : ReturnCode × UInt64) (other : InterleaveSet) =>
        if decide (other.driverId = details.interleaveSetid) = true then
          validateOnIlset details caps allowAdjustment state other else pure state) =
        validateOnIlset details caps allowAdjustment := by
      funext state other
      by_cases hother : other.driverId = details.interleaveSetid
      · rw [if_pos (decide_eq_true hother)]
      · rw [if_neg (by rw [decide_eq_true_iff]; exact hother), validateOnIlset, if_neg hother]
        rfl
    rw [validateAppDirectNamespaceSizeForModification]
    conv_lhs => rw [← hskip, ← List.foldlM_filter, hset]
    exact bind_pure (m := Option) _
  have hroom := hasRoom_iff (blockCount * details.blockSize.toUInt64)
    ((getRealBlockSize details.blockSize).toUInt64 * details.blockCount) pool.freeCapacity
  rw [UInt64.toNat_mul, UInt64.toNat_mul, UInt32.toNat_toUInt64, UInt32.toNat_toUInt64] at hroom
  rw [← validateOnIlset_iff hid, ← hloop, ← hroom, validateNamespaceSizeForModification]
  split_ifs with hno htype
  · refine iff_of_false (fun h => ?_) fun h => h.2.1 hno
    cases h
  · exact ⟨fun h => ⟨htype, hno, h⟩, fun h => h.2.2⟩
  · refine iff_of_false (fun h => ?_) fun h => htype h.1
    cases h

/-- An accepted size that fits 64 bits is one that there is room for. -/
private theorem bounds_of_fits {size old available minimum : ℕ} (hfits : size < 2 ^ 64)
    (hroom : HasRoom (size % 2 ^ 64) (old % 2 ^ 64) available) (hminimum : minimum ≤ size % 2 ^ 64) :
    minimum ≤ size ∧ size ≤ old + available := by
  have hold := Nat.mod_le old (2 ^ 64)
  rw [Nat.mod_eq_of_lt hfits] at hroom hminimum
  refine ⟨hminimum, ?_⟩
  rcases hroom with h | h <;> omega

end Accepted

/-- For a namespace on one set of the pool, an accepted count is one that there is room for exactly
when the request is not one whose size wraps into the range that is accepted. -/
theorem modificationSound_iff {pool : Pool} {set : InterleaveSet} {details : NvmNamespaceDetails}
    (hset : pool.ilsets.filter (·.driverId = details.interleaveSetid) = [set])
    (blockCount : UInt64) (caps : Except ReturnCode NvmCapabilities) (allowAdjustment : Bool) :
    ModificationSound pool set blockCount details caps allowAdjustment ↔
      ∀ supported count, caps = .ok supported → details.type = .appDirect →
        adjustNamespaceBlockCountIfAllowed blockCount details.blockSize.toUInt16 set.ways
          allowAdjustment = some count →
        ¬ WrapsIntoRange pool set blockCount details supported count := by
  constructor
  · rintro hsound supported count rfl htype hcount hwraps
    have haccepted := (validate_eq_success_iff hset count).mpr
      ⟨htype, hwraps.pool, hcount, hwraps.room, hwraps.minimum, hwraps.aligned⟩
    have hle := (hsound count haccepted supported rfl).2
    exact absurd hwraps.tooLarge (Nat.not_lt.mpr hle)
  · rintro hnot count haccepted supported rfl
    obtain ⟨htype, hpool, hcount, hroom, hminimum, haligned⟩ :=
      (validate_eq_success_iff hset count).mp haccepted
    rcases Nat.lt_or_ge (count.toNat * details.blockSize.toNat) (2 ^ 64) with hfits | hlarge
    · exact bounds_of_fits hfits hroom hminimum
    · refine ⟨hminimum.trans (Nat.mod_le _ _), ?_⟩
      by_contra hmore
      exact hnot supported count rfl htype hcount
        ⟨hlarge, Nat.not_le.mp hmore, hpool, hroom, hminimum, haligned⟩

/-- A namespace of 4 GiB in blocks of 4096 bytes. -/
def fourGiBNamespace : NvmNamespaceDetails where
  namespaceUid := []
  friendlyName := []
  blockSize := 4096
  blockCount := 1048576
  type := .appDirect
  health := .normal
  enabled := .enabled
  btt := false
  interleaveSetid := 1
  memoryPageAllocation := none
  nlabels := 1
  labelSum := 1

/-- The set that the namespace takes up. -/
def fullSet : InterleaveSet := { driverId := 1, size := 4294967296, dimmCount := 1 }

/-- The pool of the set. -/
def fullPool : Pool := { type := .persistent, socketId := 0, ilsets := [fullSet] }

/-- The condition for a namespace that takes up its set. -/
theorem modificationSound_full :
    fullPool.ilsets.filter (·.driverId = fourGiBNamespace.interleaveSetid) = [fullSet] ∧
      (ModificationSound fullPool fullSet 2097152 fourGiBNamespace (.ok {}) false ↔
        ∀ supported count,
          (.ok {} : Except ReturnCode NvmCapabilities) = .ok supported →
          fourGiBNamespace.type = .appDirect →
          adjustNamespaceBlockCountIfAllowed 2097152 fourGiBNamespace.blockSize.toUInt16 fullSet.ways
            false = some count →
          ¬ WrapsIntoRange fullPool fullSet 2097152 fourGiBNamespace supported count) :=
  have hset : fullPool.ilsets.filter (·.driverId = fourGiBNamespace.interleaveSetid) = [fullSet] :=
    rfl
  ⟨hset, modificationSound_iff hset 2097152 (.ok {}) false⟩

/-- A request for `2 ^ 64` bytes more is accepted. -/
theorem not_modificationSound_wraps : ¬ ∀ (pool : Pool) (set : InterleaveSet) (blockCount : UInt64)
    (details : NvmNamespaceDetails) (caps : Except ReturnCode NvmCapabilities)
    (allowAdjustment : Bool),
    pool.ilsets.filter (·.driverId = details.interleaveSetid) = [set] →
      ModificationSound pool set blockCount details caps allowAdjustment := by
  intro hall
  have hset : fullPool.ilsets.filter (·.driverId = fourGiBNamespace.interleaveSetid) = [fullSet] :=
    rfl
  have hsound := hall fullPool fullSet 4503599628419072 fourGiBNamespace (.ok {}) false hset
  have haligned : checkNamespaceAlignment (4503599628419072 * fourGiBNamespace.blockSize.toUInt64)
      fourGiBNamespace.blockSize fullSet.ways = some true := by
    rw [checkNamespaceAlignment_eq (.inr (by decide)) (by decide)]
    decide
  have haccepted := (@validate_eq_success_iff _ _ 4503599628419072 _ {} false hset
    4503599628419072).mpr ⟨rfl, by decide, rfl, by decide, by decide, haligned⟩
  exact absurd (hsound _ haccepted {} rfl).2 (by decide)

end IxpDimm
