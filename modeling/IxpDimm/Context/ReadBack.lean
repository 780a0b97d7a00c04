import IxpDimm.Context.NvmContext

/-!
# Lists of the context read back

A list is set in the library context and read back into the array of a caller.  The four kinds of
lists have their own copies of the two functions, and only that for devices is right for every list
and every array: an empty list of pools or namespaces counts as none at all, the loop over namespaces
runs to the end of the array, and the list of namespaces from platform config data is set without its
count.

`readsRight_iff` says for which lists and arrays a list is read back.  The memory that the set
functions ask for is there.
-/

namespace IxpDimm

namespace NvmContext

variable {Pool Namespace PcdNamespace : Type}

/-! ### What is to be read back -/

/-- A stored list is read back into an array of a size: the return code and the entries that are
copied, from the first entry of the list on. -/
structure ReadsRight {α : Type} (stored : List α) (size : ℕ) (rc : Except ReturnCode ℕ)
    (copied : List (Option α)) : Prop where
  /-- An array that is large enough gets the whole list, and the count is returned. -/
  whole : stored.length ≤ size → rc = .ok stored.length ∧ copied = stored.map some
  /-- An array that is too small is refused. -/
  tooSmall : size < stored.length → rc = .error .errArrayTooSmall
  /-- No entry behind the list or the array is copied. -/
  within : copied.length ≤ min stored.length size

/-- A list for one of the four set functions. -/
inductive StoredList (Pool Namespace PcdNamespace : Type)
  | devices (list : List DeviceDiscovery)
  | pools (list : List Pool)
  | namespaces (list : List Namespace)
  | pcdNamespaces (list : List PcdNamespace)

/-- The list is set in the context and read back. -/
def ReadsBackRight (ctx : NvmContext Pool Namespace PcdNamespace) (size : ℕ) :
    StoredList Pool Namespace PcdNamespace → Prop
  | .devices list =>
    let fetched := ((ctx.setDevices list {}).getDevices size).1
    ReadsRight list size (fetched.map List.length) ((fetched.toOption.getD []).map some)
  | .pools list =>
    let fetched := (ctx.setPools list true).getPools size
    ReadsRight list size fetched.rc fetched.entries
  | .namespaces list =>
    let fetched := (ctx.setNamespaces list {}).getNamespaces size
    ReadsRight list size fetched.rc (fetched.entries.map Option.join)
  | .pcdNamespaces list =>
    let fetched := (ctx.setPcdNamespaces list true).getPcdNamespaces size
    ReadsRight list size fetched.rc fetched.entries

/-- When a list is read back: pools and namespaces unless the list is empty, namespaces only into an
array that is not larger than the list, and namespaces from platform config data if no list of them
is kept while the count that is kept is that of the new list, or at least larger than the array where
that is too small. -/
def Readable (ctx : NvmContext Pool Namespace PcdNamespace) (size : ℕ) :
    StoredList Pool Namespace PcdNamespace → Prop
  | .devices _ => True
  | .pools list => list ≠ []
  | .namespaces list => list ≠ [] ∧ size ≤ list.length
  | .pcdNamespaces list => ctx.pcdNamespaces.list = none ∧
    (size < list.length → size < ctx.pcdNamespaces.count) ∧
    (list.length ≤ size → 0 < ctx.pcdNamespaces.count ∧ ctx.pcdNamespaces.count = list.length)

/-! ### The common parts -/

section Fetch

variable {α : Type}

/-- The entries of a list that are copied from its start. -/
private theorem copyEntries_of_le {entries : List α} {n : ℕ} (h : n ≤ entries.length) :
    CachedList.copyEntries entries n = (entries.take n).map some := by
  apply List.ext_getElem
  · rw [CachedList.copyEntries, List.length_map, List.length_range, List.length_map,
      List.length_take, Nat.min_eq_left h]
  · intro i hi _
    rw [CachedList.copyEntries, List.length_map, List.length_range] at hi
    simp only [CachedList.copyEntries, List.getElem_map, List.getElem_range, List.getElem_take]
    exact List.getElem?_eq_getElem (by omega)

/-- The number of entries that are copied. -/
private theorem length_copyEntries (entries : List α) (n : ℕ) :
    (CachedList.copyEntries entries n).length = n := by
  rw [CachedList.copyEntries, List.length_map, List.length_range]

/-- A list whose count and passes are right is read back. -/
private theorem readsRight_of_count {stored : List α} {size : ℕ} {rc : Except ReturnCode ℕ}
    (hrc : rc = if size < stored.length then .error .errArrayTooSmall else .ok stored.length) :
    ReadsRight stored size rc (CachedList.copyEntries stored (min size stored.length)) := by
  refine ⟨fun hle => ?_, fun hlt => ?_, ?_⟩
  · rw [hrc, if_neg (Nat.not_lt.mpr hle), Nat.min_eq_right hle, copyEntries_of_le le_rfl,
      List.take_length]
    exact ⟨rfl, rfl⟩
  · rw [hrc, if_pos hlt]
  · rw [length_copyEntries, Nat.min_comm]

/-- A list with a count is read with the number of passes. -/
private theorem fetch_of_pos {c : CachedList α} {entries : List α} (hlist : c.list = some entries)
    (hcount : 0 < c.count) (size : ℕ) (passes : ℕ → ℕ) :
    c.fetch size passes = ⟨if size < c.count.toNat then .error .errArrayTooSmall
      else .ok c.count.toNat, CachedList.copyEntries entries (passes c.count.toNat)⟩ := by
  rw [CachedList.fetch, hlist]
  exact if_pos hcount

/-- A list without a positive count is not read. -/
private theorem fetch_of_not_pos {c : CachedList α} (hcount : ¬ 0 < c.count) (size : ℕ)
    (passes : ℕ → ℕ) : c.fetch size passes = ⟨.error .errContext, []⟩ := by
  rw [CachedList.fetch]
  split
  · rw [if_neg hcount]
  · rfl

/-- The error of the context is not what is to be returned. -/
private theorem not_readsRight_errContext {stored : List α} {size : ℕ} {copied : List (Option α)} :
    ¬ ReadsRight stored size (.error .errContext) copied := by
  intro h
  rcases Nat.lt_or_ge size stored.length with hlt | hle
  · cases h.tooSmall hlt
  · cases (h.whole hle).1

end Fetch

/-! ### The four kinds -/

section Kinds

variable (ctx : NvmContext Pool Namespace PcdNamespace) (size : ℕ)

/-- Devices are read back. -/
private theorem readsBackRight_devices (list : List DeviceDiscovery) :
    ReadsBackRight ctx size (.devices list) := by
  have hget : ((ctx.setDevices list {}).getDevices size).1 =
      if size < list.length then .error .errArrayTooSmall else .ok list := by
    have hall : ((list.map ({ discovery := · : NvmDeviceContext })).map some).all Option.isSome =
        true := by
      rw [List.all_map, List.all_eq_true]
      exact fun _ _ => rfl
    have hentries : (((list.map ({ discovery := · : NvmDeviceContext })).map some).filterMap id).map
        NvmDeviceContext.discovery = list := by
      rw [List.filterMap_map, Function.id_comp, List.filterMap_some, List.map_map]
      exact List.map_id _
    simp only [getDevices, setDevices, CachedList.store, Allocation.fill, if_true, hall, hentries,
      List.length_map, Int.ofNat_lt, not_lt.mpr (Int.natCast_nonneg list.length), if_false]
    split_ifs <;> rfl
  rw [ReadsBackRight, hget]
  by_cases hlt : size < list.length
  · rw [if_pos hlt]
    refine ⟨fun hle => absurd hlt (Nat.not_lt.mpr hle), fun _ => rfl, Nat.zero_le _⟩
  · rw [if_neg hlt]
    refine ⟨fun _ => ⟨rfl, rfl⟩, fun h => absurd h hlt, ?_⟩
    change (list.map some).length ≤ _
    rw [List.length_map]
    omega

/-- Pools are read back unless there are none. -/
private theorem readsBackRight_pools_iff (list : List Pool) :
    ReadsBackRight ctx size (.pools list) ↔ list ≠ [] := by
  have hstore : (ctx.setPools list true).pools = ⟨list.length, some list⟩ := rfl
  unfold ReadsBackRight getPools
  dsimp only
  rw [hstore]
  by_cases hne : list = []
  · subst hne
    rw [fetch_of_not_pos (lt_irrefl 0)]
    exact iff_of_false not_readsRight_errContext fun h => h rfl
  · have hpos : (0 : ℤ) < list.length := Int.natCast_pos.mpr (List.length_pos_iff.mpr hne)
    rw [fetch_of_pos rfl hpos]
    exact iff_of_true (readsRight_of_count rfl) hne

/-- Namespaces are read back unless there are none or the array is too large. -/
private theorem readsBackRight_namespaces_iff (list : List Namespace) :
    ReadsBackRight ctx size (.namespaces list) ↔ list ≠ [] ∧ size ≤ list.length := by
  have hstore : (ctx.setNamespaces list {}).namespaces =
      ⟨(list.map some).length, some (list.map some)⟩ := rfl
  unfold ReadsBackRight getNamespaces
  dsimp only
  rw [hstore]
  by_cases hne : list = []
  · subst hne
    rw [fetch_of_not_pos (lt_irrefl 0)]
    exact iff_of_false not_readsRight_errContext fun h => h.1 rfl
  · have hpos : (0 : ℤ) < (list.map some).length := by
      rw [List.length_map]
      exact Int.natCast_pos.mpr (List.length_pos_iff.mpr hne)
    rw [fetch_of_pos rfl hpos]
    dsimp only
    rw [Int.toNat_natCast, List.length_map]
    constructor
    · intro h
      have hwithin := h.within
      rw [List.length_map, length_copyEntries] at hwithin
      exact ⟨hne, hwithin.trans (Nat.min_le_left _ _)⟩
    · rintro ⟨-, hle⟩
      have hcopied : (CachedList.copyEntries (list.map some) size).map Option.join =
          CachedList.copyEntries list (min size list.length) := by
        rw [Nat.min_eq_left hle, copyEntries_of_le hle,
          copyEntries_of_le (by rw [List.length_map]; exact hle), ← List.map_take, List.map_map,
          List.map_map]
        rfl
      rw [hcopied]
      exact readsRight_of_count rfl

/-- Namespaces from platform config data are read back with the right count. -/
private theorem readsBackRight_pcdNamespaces_iff (list : List PcdNamespace) :
    ReadsBackRight ctx size (.pcdNamespaces list) ↔ ctx.pcdNamespaces.list = none ∧
      (size < list.length → size < ctx.pcdNamespaces.count) ∧
      (list.length ≤ size → 0 < ctx.pcdNamespaces.count ∧
        ctx.pcdNamespaces.count = list.length) := by
  have hstore : (ctx.setPcdNamespaces list true).pcdNamespaces =
      ⟨ctx.pcdNamespaces.free.count, some list⟩ := rfl
  unfold ReadsBackRight getPcdNamespaces
  dsimp only
  rw [hstore]
  by_cases hpos : 0 < ctx.pcdNamespaces.count
  · cases hlist : ctx.pcdNamespaces.list with
    | some old =>
      -- the old list is freed, and its count with it
      have hfree : ctx.pcdNamespaces.free.count = -1 := by
        rw [CachedList.free, hlist, if_pos ⟨hpos, rfl⟩]
      rw [hfree, fetch_of_not_pos (show ¬ (0 : ℤ) < -1 by decide)]
      exact iff_of_false not_readsRight_errContext fun h => Option.some_ne_none _ h.1
    | none =>
      have hfree : ctx.pcdNamespaces.free.count = ctx.pcdNamespaces.count := by
        rw [CachedList.free, hlist, if_neg fun h => Bool.false_ne_true h.2]
      rw [hfree, @fetch_of_pos _ ⟨ctx.pcdNamespaces.count, some list⟩ list rfl hpos]
      dsimp only
      generalize ctx.pcdNamespaces.count = count at hpos
      constructor
      · intro h
        refine ⟨rfl, fun hlt => ?_, fun hle => ⟨hpos, ?_⟩⟩
        · have hrc := h.tooSmall hlt
          split_ifs at hrc with hsize
          · omega
        · have hrc := (h.whole hle).1
          split_ifs at hrc with hsize
          have hcount := Except.ok.inj hrc
          omega
      · rintro ⟨-, hsmall, hlarge⟩
        rcases Nat.lt_or_ge size list.length with hlt | hle
        · have hcount := hsmall hlt
          have hmin : min size count.toNat = min size list.length := by omega
          rw [hmin]
          refine readsRight_of_count ?_
          rw [if_pos (by omega), if_pos hlt]
        · obtain ⟨-, hcount⟩ := hlarge hle
          rw [hcount, Int.toNat_natCast]
          exact readsRight_of_count rfl
  · have hfree : ctx.pcdNamespaces.free.count = ctx.pcdNamespaces.count := by
      rw [CachedList.free, if_neg fun h => hpos h.1]
    rw [hfree, @fetch_of_not_pos _ ⟨ctx.pcdNamespaces.count, some list⟩ hpos]
    refine iff_of_false not_readsRight_errContext ?_
    rintro ⟨-, hsmall, hlarge⟩
    rcases Nat.lt_or_ge size list.length with hlt | hle
    · have hcount := hsmall hlt
      omega
    · exact hpos (hlarge hle).1

end Kinds

/-- A list that is set in a context is read back into an array of a size exactly when it is
readable. -/
theorem readsRight_iff (ctx : NvmContext Pool Namespace PcdNamespace) (size : ℕ)
    (stored : StoredList Pool Namespace PcdNamespace) :
    ReadsBackRight ctx size stored ↔ Readable ctx size stored := by
  cases stored with
  | devices list => exact iff_of_true (readsBackRight_devices ctx size list) trivial
  | pools list => exact readsBackRight_pools_iff ctx size list
  | namespaces list => exact readsBackRight_namespaces_iff ctx size list
  | pcdNamespaces list => exact readsBackRight_pcdNamespaces_iff ctx size list

/-- One namespace is not read back into an array of two: the loop reads behind the list. -/
theorem not_readsRight_namespace :
    ¬ ∀ (ctx : NvmContext ℕ ℕ ℕ) (size : ℕ) (stored : StoredList ℕ ℕ ℕ),
      ReadsBackRight ctx size stored := by
  intro h
  have hright := (readsBackRight_namespaces_iff {} 2 [7]).mp (h {} 2 (.namespaces [7]))
  exact absurd hright.2 (by decide)

end NvmContext

end IxpDimm
