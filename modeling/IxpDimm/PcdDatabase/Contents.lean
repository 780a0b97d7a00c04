import IxpDimm.PcdDatabase.Database
import IxpDimm.PlatformConfig.TableSound

/-!
# What platform config data says

The contents of a sub-table (`contents`): the fields behind its header, its partition size changes
and its interleave sets with their DIMMs, in the order in which the check of the data visits them.
The visits are also described by a relation (`ExtensionWalk`), which every list that the check accepts
has, for one list of offsets.
-/

namespace IxpDimm.PcdDatabase

open Foundation

/-! ### Extension tables -/

/-- A DIMM of an interleave set; the unique id is the number of its bytes. -/
structure DimmRecord where
  /-- `uid`. -/
  uid : ℕ
  /-- `offset`. -/
  offset : ℕ
  /-- `size`. -/
  size : ℕ
  deriving DecidableEq

/-- An interleave set. -/
structure InterleaveSet where
  /-- `index`. -/
  index : ℕ
  /-- `memory_type`. -/
  memoryType : ℕ
  /-- `interleave_format`. -/
  interleaveFormat : ℕ
  /-- `mirror_enable`. -/
  mirrorEnable : ℕ
  /-- `status`. -/
  status : ℕ
  /-- `mem_spare`. -/
  memSpare : ℕ
  /-- The DIMMs. -/
  dimms : List DimmRecord
  deriving DecidableEq

/-- A partition size change. -/
structure PartitionChange where
  /-- `status`. -/
  status : ℕ
  /-- `partition_size`. -/
  partitionSize : ℕ
  deriving DecidableEq

/-- The number of DIMMs that the interleave table at an address declares. -/
def dimmCount (m : Bytes) (a : ℕ) : ℕ := readLE m (a + 6) 1

/-- The DIMM at an address. -/
def dimmRecordAt (m : Bytes) (a : ℕ) : DimmRecord :=
  ⟨readLE m a 9, readLE m (a + 32) 8, readLE m (a + 40) 8⟩

/-- The DIMMs from an address on. -/
def dimmRecordsAt (m : Bytes) (a n : ℕ) : List DimmRecord :=
  (List.range n).map fun i => dimmRecordAt m (a + dimmInfoTableSize * i)

/-- The interleave set of the table at an address. -/
def interleaveSetAt (m : Bytes) (a : ℕ) : InterleaveSet where
  index := readLE m (a + 4) 2
  memoryType := readLE m (a + 7) 1
  interleaveFormat := readLE m (a + 8) 4
  mirrorEnable := readLE m (a + 12) 1
  status := readLE m (a + 13) 1
  memSpare := readLE m (a + 14) 1
  dimms := dimmRecordsAt m (a + interleaveInfoTableSize) (dimmCount m a)

/-- The partition size change of the table at an address. -/
def partitionChangeAt (m : Bytes) (a : ℕ) : PartitionChange :=
  ⟨readLE m (a + 4) 4, readLE m (a + 8) 8⟩

/-- The size of the table of an interleave set. -/
def InterleaveSet.size (set : InterleaveSet) : ℕ :=
  interleaveInfoTableSize + dimmInfoTableSize * set.dimms.length

/-! ### Contents -/

/-- The offsets that a walk over extension tables visits from an offset on, up to a number of them. -/
def extensionOffsets (m : Bytes) (length : ℕ) : ℕ → ℕ → List ℕ
  | 0, _ => []
  | n + 1, t =>
    if t < length then t :: extensionOffsets m length n ((t + extensionLength m t) % 2 ^ 32) else []

/-- The offsets of the extension tables of a sub-table. -/
def extensionsOf (kind : TableKind) (table : Bytes) : List ℕ :=
  extensionOffsets (extTables kind table) (headerLength table - kind.structSize)
    (headerLength table - kind.structSize) 0

/-- The offsets of extension tables of a type. -/
def ofType (m : Bytes) (type : ℕ) (offsets : List ℕ) : List ℕ :=
  offsets.filter fun t => extensionType m t == type

/-- What a sub-table says. -/
structure TableContents where
  /-- The fields behind the header: the status and the mapped capacities; the sequence number; that
  and the validation status. -/
  body : List ℕ
  /-- The partition size changes. -/
  partitions : List PartitionChange
  /-- The interleave sets. -/
  interleaves : List InterleaveSet
  deriving DecidableEq

/-- What a sub-table says with extension tables at offsets. -/
def contentsAt (kind : TableKind) (table : Bytes) (offsets : List ℕ) : TableContents where
  body := dbBody kind table
  partitions := (ofType (extTables kind table) partitionChangeTable offsets).map
    (partitionChangeAt (extTables kind table))
  interleaves := (ofType (extTables kind table) interleaveTable offsets).map
    (interleaveSetAt (extTables kind table))

/-- What a sub-table says. -/
def contents (kind : TableKind) (table : Bytes) : TableContents :=
  contentsAt kind table (extensionsOf kind table)

/-- The size of a sub-table with contents. -/
def TableContents.size (kind : TableKind) (d : TableContents) : ℕ :=
  kind.structSize + partitionSizeChangeTableSize * d.partitions.length +
    (d.interleaves.map InterleaveSet.size).sum

/-- The size of a sub-table of platform config data when it is built from its contents. -/
def rebuiltTableSize (m : Bytes) (kind : TableKind) : ℕ :=
  ((castTable kind m).map fun table => (contents kind table).size kind).getD 0

/-- The size of platform config data when it is built from its contents. -/
def rebuiltSize (m : Bytes) : ℕ :=
  platformConfigDataSize + (TableKind.all.map (rebuiltTableSize m)).sum

/-- No interleave set of platform config data is a spare. -/
def NoSpare (m : Bytes) : Prop :=
  ∀ kind, ∀ table ∈ castTable kind m, ∀ set ∈ (contents kind table).interleaves, set.memSpare = 0

/-! ### Walks -/

/-- A walk over extension tables goes from an offset on through a list of offsets to the end. -/
inductive ExtensionWalk (m : Bytes) (length : ℕ) : ℕ → List ℕ → Prop
  /-- The end of the list. -/
  | done {t : ℕ} : length ≤ t → ExtensionWalk m length t []
  /-- An extension table and those behind it. -/
  | entry {t : ℕ} {ts : List ℕ} : t < length → extensionTableHeaderSize ≤ extensionLength m t →
      (t + extensionLength m t) % 2 ^ 32 ≤ length →
      ExtensionWalk m length ((t + extensionLength m t) % 2 ^ 32) ts →
      ExtensionWalk m length t (t :: ts)

section Walk

variable {m : Bytes} {length t : ℕ} {ts : List ℕ}

/-- What the checking walk accepts is walked through. -/
private theorem exists_walk_of_run {fuel : ℕ}
    (h : runLoop (listEntry m length) fuel t = some true) : ∃ ts, ExtensionWalk m length t ts := by
  induction fuel generalizing t with
  | zero => cases h
  | succ fuel ih =>
    cases hstep : listEntry m length t with
    | inl u =>
      rw [runLoop_succ_of_inl hstep] at h
      obtain ⟨hlt, hsize, hle, rfl⟩ := listEntry_inl_iff.mp hstep
      obtain ⟨ts, hts⟩ := ih h
      exact ⟨t :: ts, .entry hlt hsize hle hts⟩
    | inr valid =>
      rw [runLoop_succ_of_inr hstep] at h
      obtain rfl := Option.some.inj h
      unfold listEntry at hstep
      split_ifs at hstep with hlt
      · cases hstep
      · cases hstep
      · exact ⟨[], .done (not_lt.mp hlt)⟩

/-- A list of extension tables that the check accepts is walked through. -/
theorem exists_walk (h : Returns (fun fuel => isExtensionTableListValid fuel m length) true) :
    ∃ ts, ExtensionWalk m length 0 ts := by
  obtain ⟨fuel, h⟩ := h
  dsimp only [isExtensionTableListValid] at h
  split_ifs at h with hpos
  · exact exists_walk_of_run h
  · exact ⟨[], .done (by omega)⟩

/-- There is one walk from an offset on. -/
private theorem ExtensionWalk.unique (h : ExtensionWalk m length t ts) {us : List ℕ}
    (h' : ExtensionWalk m length t us) : ts = us := by
  induction h generalizing us with
  | done hle =>
    cases h' with
    | done => rfl
    | entry hlt => omega
  | entry hlt _ _ _ ih =>
    cases h' with
    | done => omega
    | entry _ _ _ hrest => rw [ih hrest]

/-- The offsets of a walk are before the end. -/
theorem ExtensionWalk.lt (h : ExtensionWalk m length t ts) : ∀ u ∈ ts, u < length := by
  induction h with
  | done => exact List.forall_mem_nil _
  | entry hlt _ _ _ ih => exact List.forall_mem_cons.mpr ⟨hlt, ih⟩

/-- From an offset of a walk on there is a walk that is not longer. -/
private theorem ExtensionWalk.from_mem (h : ExtensionWalk m length t ts) :
    ∀ u ∈ ts, ∃ us, ExtensionWalk m length u us ∧ us.length ≤ ts.length := by
  induction h with
  | done => exact List.forall_mem_nil _
  | entry hlt hsize hle hrest ih =>
    refine List.forall_mem_cons.mpr ⟨⟨_, .entry hlt hsize hle hrest, le_rfl⟩, fun u hu => ?_⟩
    obtain ⟨us, hwalk, hlength⟩ := ih u hu
    exact ⟨us, hwalk, by rw [List.length_cons]; omega⟩

/-- A walk comes to an offset once. -/
theorem ExtensionWalk.nodup (h : ExtensionWalk m length t ts) : ts.Nodup := by
  induction h with
  | done => exact List.nodup_nil
  | @entry t ts hlt hsize hle hrest ih =>
    refine List.nodup_cons.mpr ⟨fun hmem => ?_, ih⟩
    -- a walk that comes back would be as long as a part of itself
    obtain ⟨us, hwalk, hlength⟩ := hrest.from_mem t hmem
    obtain rfl := hwalk.unique (.entry hlt hsize hle hrest)
    rw [List.length_cons] at hlength
    omega

/-- A walk makes at most as many visits as there are offsets. -/
private theorem ExtensionWalk.length_le (h : ExtensionWalk m length t ts) : ts.length ≤ length := by
  have hsubset : ts ⊆ List.range length := fun u hu => List.mem_range.mpr (h.lt u hu)
  have hle := (List.subperm_of_subset h.nodup hsubset).length_le
  rwa [List.length_range] at hle

/-- The offsets of a walk. -/
private theorem ExtensionWalk.offsets_eq (h : ExtensionWalk m length t ts) {n : ℕ}
    (hn : ts.length ≤ n) : extensionOffsets m length n t = ts := by
  induction h generalizing n with
  | done hle =>
    cases n with
    | zero => rfl
    | succ n => rw [extensionOffsets, if_neg (by omega)]
  | entry hlt _ _ _ ih =>
    obtain ⟨n, rfl⟩ : ∃ k, n = k + 1 := ⟨n - 1, by rw [List.length_cons] at hn; omega⟩
    rw [List.length_cons, Nat.add_le_add_iff_right] at hn
    rw [extensionOffsets, if_pos hlt, ih hn]

end Walk

/-- The extension tables of a sub-table that is walked through. -/
theorem extensionsOf_eq {kind : TableKind} {table : Bytes} {ts : List ℕ}
    (h : ExtensionWalk (extTables kind table) (headerLength table - kind.structSize) 0 ts) :
    extensionsOf kind table = ts :=
  h.offsets_eq h.length_le

/-- The extension tables of a valid sub-table are walked through. -/
theorem walk_extensionsOf {kind : TableKind} {table : Bytes}
    (h : Returns (fun fuel => isExtensionTableListValid fuel (extTables kind table)
      (headerLength table - kind.structSize)) true) :
    ExtensionWalk (extTables kind table) (headerLength table - kind.structSize) 0
      (extensionsOf kind table) := by
  obtain ⟨ts, hts⟩ := exists_walk h
  rwa [extensionsOf_eq hts]

end IxpDimm.PcdDatabase
