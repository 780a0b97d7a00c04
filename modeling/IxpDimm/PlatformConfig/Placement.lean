import Mathlib.Data.List.Pairwise
import IxpDimm.Foundation.Ranges
import IxpDimm.PlatformConfig.Walk

/-!
# Where the sub-tables are

The check of the header asks that a sub-table that is present starts behind the header, and the
check of a sub-table that it is as long as its header says.  Neither compares the end of a sub-table
with the size of the data or with the other sub-tables, so the sub-tables of data that is accepted
are in bounds and disjoint exactly when, taken in the order of their offsets, each one starts behind
the end of the one before and the last one ends within the data.
-/

namespace IxpDimm

open Foundation

/-- The sub-tables that the header declares present. -/
def presentTables (m : Bytes) : List TableKind := TableKind.all.filter fun kind => tableSize kind m > 0

/-- The bytes a sub-table takes up. -/
def tableRange (m : Bytes) (kind : TableKind) : ℕ × ℕ :=
  (tableOffset kind m, tableOffset kind m + tableSize kind m)

/-- In the order of their offsets, the sub-tables follow the header and each other within the data. -/
def tablesInSequence (m : Bytes) (pcdSize : UInt64) : Bool :=
  chained pcdSize.toNat platformConfigDataSize (inOrder ((presentTables m).map (tableRange m)))

/-- The sub-tables are in bounds, with their headers, and no two of them overlap. -/
structure TablesInBounds (m : Bytes) (pcdSize : UInt64) : Prop where
  /-- A sub-table starts behind the header of the data. -/
  start : ∀ kind, 0 < tableSize kind m → platformConfigDataSize ≤ tableOffset kind m
  /-- A sub-table ends within the data. -/
  bound : ∀ kind, 0 < tableSize kind m → tableOffset kind m + tableSize kind m ≤ pcdSize.toNat
  /-- The header of a sub-table is within the data. -/
  header : ∀ kind, 0 < tableSize kind m →
    tableOffset kind m + configDataTableHeaderSize ≤ pcdSize.toNat
  /-- Two sub-tables do not overlap. -/
  disjoint : ∀ kind kind', kind ≠ kind' → 0 < tableSize kind m → 0 < tableSize kind' m →
    ∀ i, ¬ ((tableOffset kind m ≤ i ∧ i < tableOffset kind m + tableSize kind m) ∧
      (tableOffset kind' m ≤ i ∧ i < tableOffset kind' m + tableSize kind' m))

section Accepted

variable {m : Bytes} {pcdSize : UInt64}

/-- The sizes and offsets of a valid header. -/
theorem tableOffset_of_header (h : isPlatformConfigHeaderValid m pcdSize = true) (kind : TableKind) :
    (tableSize kind m = 0 ∧ tableOffset kind m = 0) ∨
      (0 < tableSize kind m ∧ platformConfigDataSize ≤ tableOffset kind m) := by
  unfold isPlatformConfigHeaderValid at h
  split_ifs at h
  have hinfo := (Bool.and_eq_true _ _ ▸ h : _ ∧ _).2
  have hkind := List.all_eq_true.mp hinfo kind kind.mem_all
  simpa [arePcdHeaderTableSizeAndOffsetValid] using hkind

/-- Data with a valid header has room for it. -/
theorem size_of_header (h : isPlatformConfigHeaderValid m pcdSize = true) :
    platformConfigDataSize ≤ pcdSize.toNat % 2 ^ 32 := by
  unfold isPlatformConfigHeaderValid at h
  split_ifs at h with hshort
  have hheader := (Bool.and_eq_true _ _ ▸ h : _ ∧ _).1
  unfold isConfigDataTableHeaderValid at hheader
  split_ifs at hheader
  omega

/-- A sub-table of accepted data is at least as large as its structure. -/
theorem structSize_le_of_accepted (h : Accepted m pcdSize) {kind : TableKind}
    (hpresent : 0 < tableSize kind m) : kind.structSize ≤ tableSize kind m := by
  obtain ⟨valid, hvalid, hcode⟩ := (returns_checkTable_iff hpresent).mp ((accepted_iff.mp h).2 kind)
  by_contra hshort
  have hfalse := returns_isTableValid_of_length kind (view m (tableOffset kind m))
    (fun hlength => hshort hlength.1 : ¬ (_ ∧ _ = tableSize kind m))
  obtain rfl := hvalid.unique (fuelMono_isTableValid kind _ _) hfalse
  cases hcode

/-- Two ranges that are not empty have no address in common exactly when one ends before the other
starts. -/
private theorem disjointRanges_iff {r s : ℕ × ℕ} (hr : r.1 < r.2) (hs : s.1 < s.2) :
    DisjointRanges r s ↔ ∀ i, ¬ ((r.1 ≤ i ∧ i < r.2) ∧ (s.1 ≤ i ∧ i < s.2)) := by
  unfold DisjointRanges
  constructor
  · intro h i
    omega
  · intro h
    have hleft := h r.1
    have hright := h s.1
    omega

/-- The kinds are listed once each. -/
private theorem nodup_presentTables : (presentTables m).Nodup :=
  List.Nodup.filter _ (by decide)

/-- The kinds that are listed are those of the sub-tables that are present. -/
private theorem mem_presentTables {kind : TableKind} :
    kind ∈ presentTables m ↔ 0 < tableSize kind m := by
  rw [presentTables, List.mem_filter, decide_eq_true_iff]
  exact ⟨fun h => h.2, fun h => ⟨kind.mem_all, h⟩⟩

/-- The ranges of the sub-tables that are present do not overlap, in pairs. -/
private theorem pairwise_disjointRanges_iff :
    ((presentTables m).map (tableRange m)).Pairwise DisjointRanges ↔
      ∀ kind kind', kind ≠ kind' → 0 < tableSize kind m → 0 < tableSize kind' m →
        ∀ i, ¬ ((tableOffset kind m ≤ i ∧ i < tableOffset kind m + tableSize kind m) ∧
          (tableOffset kind' m ≤ i ∧ i < tableOffset kind' m + tableSize kind' m)) := by
  have hrange : ∀ kind, 0 < tableSize kind m → (tableRange m kind).1 < (tableRange m kind).2 :=
    fun kind h => by
      unfold tableRange
      dsimp only
      omega
  rw [List.pairwise_map]
  constructor
  · intro h kind kind' hne hkind hkind'
    refine (disjointRanges_iff (hrange kind hkind) (hrange kind' hkind')).mp ?_
    have : Std.Symm fun k k' => DisjointRanges (tableRange m k) (tableRange m k') :=
      ⟨fun _ _ hr => hr.symm⟩
    exact h.forall (mem_presentTables.mpr hkind) (mem_presentTables.mpr hkind') hne
  · intro h
    refine nodup_presentTables.pairwise_of_forall_ne fun kind hkind kind' hkind' hne => ?_
    have hkind := mem_presentTables.mp hkind
    have hkind' := mem_presentTables.mp hkind'
    exact (disjointRanges_iff (hrange kind hkind) (hrange kind' hkind')).mpr
      (h kind kind' hne hkind hkind')

end Accepted

/-- A config input table of 48 bytes without extension tables. -/
def plainInputBytes : List UInt8 :=
  [0x43, 0x49, 0x4E, 0x5F, 48, 0, 0, 0, 1, 0x95] ++ List.replicate 26 0 ++ [1, 0, 0, 0] ++
  List.replicate 8 0

/-- Platform config data of 108 bytes whose only sub-table is that config input table. -/
def plainBytes : List UInt8 :=
  [0x44, 0x4D, 0x48, 0x44, 60, 0, 0, 0, 1, 0x3A] ++ List.replicate 34 0 ++
  [48, 0, 0, 0, 60, 0, 0, 0] ++ List.replicate 8 0 ++ plainInputBytes

/-- Platform config data of 168 bytes with a current config table of 108 bytes whose one extension
table holds the config input table. -/
def nestedBytes : List UInt8 :=
  [0x44, 0x4D, 0x48, 0x44, 60, 0, 0, 0, 1, 0x56] ++ List.replicate 26 0 ++
  [108, 0, 0, 0, 60, 0, 0, 0, 48, 0, 0, 0, 120, 0, 0, 0] ++ List.replicate 8 0 ++
  [0x43, 0x43, 0x55, 0x52, 108, 0, 0, 0, 1, 0x32] ++ List.replicate 46 0 ++
  [0, 0, 52, 0] ++ plainInputBytes

end IxpDimm
