import IxpDimm.Device.Inventory
import IxpDimm.Foundation.FirstMatch

/-!
# The library context

`struct nvm_context` of `nvm_context.c` keeps lists of devices, pools and namespaces, each with a
count, so that they are read from the platform once.  A negative count means that nothing is kept.

The four lists are handled by copies of the same functions, which are one definition here.  They
differ in what a list holds: devices and namespaces are kept in blocks of their own, one for each, and
one whose allocation has failed is missing from its list.  The mutex is left out, and the context
exists; whether an allocation succeeds is an argument of the functions that make one.
-/

namespace IxpDimm

open Foundation

/-! ### Lists with a count -/

/-- A list of the context with its count; `none` is the null pointer. -/
structure CachedList (α : Type) where
  /-- The count, which is negative if nothing is kept. -/
  count : ℤ := -1
  /-- The list. -/
  list : Option (List α) := none

/-- What a function that copies a list to an array returns and copies. -/
structure Fetched (α : Type) where
  /-- The number of entries, or an error. -/
  rc : Except ReturnCode ℕ
  /-- The entries that are copied, `none` for one that is read beyond the end of the list. -/
  entries : List (Option α)

namespace CachedList

variable {α : Type}

/-- The common body of the functions that free a list: it is freed only if it has entries. -/
def free (c : CachedList α) : CachedList α :=
  if 0 < c.count ∧ c.list.isSome then {} else c

/-- The common body of the functions that return a count. -/
def getCount (c : CachedList α) : Except ReturnCode ℤ :=
  if 0 ≤ c.count then .ok c.count else .error .errContext

/-- The common body of the functions that set a list with its count; a list that cannot be allocated
leaves the count. -/
def store (c : CachedList α) (entries : List α) (allocated : Bool) : CachedList α :=
  if allocated then ⟨entries.length, some entries⟩ else { c.free with list := none }

/-- The entries that a loop of `n` passes copies. -/
def copyEntries (entries : List α) (n : ℕ) : List (Option α) :=
  (List.range n).map fun i => entries[i]?

/-- The common body of the functions that copy a list to an array of the given size, with the number
of passes of the loop that copies. -/
def fetch (c : CachedList α) (size : ℕ) (passes : ℕ → ℕ) : Fetched α :=
  match c.list with
  | some entries =>
    if 0 < c.count then
      let count := c.count.toNat
      ⟨if size < count then .error .errArrayTooSmall else .ok count, copyEntries entries (passes count)⟩
    else ⟨.error .errContext, []⟩
  | none => ⟨.error .errContext, []⟩

end CachedList

/-! ### The context -/

/-- `struct nvm_device_context`. -/
structure NvmDeviceContext where
  /-- `p_device_discovery`, which holds the `uid` of the entry. -/
  discovery : DeviceDiscovery
  /-- `pcd_size` and `p_pcd`; `none` is the null pointer. -/
  pcd : Option (ℕ × Bytes) := none

/-- `struct nvm_context`. -/
structure NvmContext (Pool Namespace PcdNamespace : Type) where
  /-- `device_count` and `p_devices`. -/
  devices : CachedList (Option NvmDeviceContext) := {}
  /-- `pool_count` and `p_pools`. -/
  pools : CachedList Pool := {}
  /-- `namespace_count` and `p_namespaces`. -/
  namespaces : CachedList (Option Namespace) := {}
  /-- `pcd_namespace_count` and `p_pcd_namespaces`. -/
  pcdNamespaces : CachedList PcdNamespace := {}

/-- How the allocations of a list and of its entries turn out. -/
structure Allocation where
  /-- The list is allocated. -/
  list : Bool := true
  /-- The first entry that cannot be allocated, if any. -/
  failing : Option ℕ := none
  deriving DecidableEq, Repr

/-- The entries of a list of which each is allocated; they end at the first that fails. -/
def Allocation.fill {α : Type} (allocation : Allocation) (entries : List α) : List (Option α) :=
  match allocation.failing with
  | none => entries.map some
  | some n => (entries.take n).map some ++ List.replicate (entries.length - n) none

namespace NvmContext

variable {Pool Namespace PcdNamespace : Type}

/-! ### Devices -/

/-- `get_nvm_context_device_count`. -/
def getDeviceCount (ctx : NvmContext Pool Namespace PcdNamespace) : Except ReturnCode ℤ :=
  ctx.devices.getCount

/-- `get_nvm_context_devices`; an entry that is missing clears the list. -/
def getDevices (ctx : NvmContext Pool Namespace PcdNamespace) (devCount : ℕ) :
    Except ReturnCode (List DeviceDiscovery) × NvmContext Pool Namespace PcdNamespace :=
  match ctx.devices.list with
  | none => (.error .errContext, ctx)
  | some entries =>
    if ctx.devices.count < 0 then (.error .errContext, ctx)
    else if (devCount : ℤ) < ctx.devices.count then (.error .errArrayTooSmall, ctx)
    else if entries.all Option.isSome then
      (.ok ((entries.filterMap id).map NvmDeviceContext.discovery), ctx)
    else (.error .errContext, { ctx with devices := ctx.devices.free })

/-- `set_nvm_context_devices`. -/
def setDevices (ctx : NvmContext Pool Namespace PcdNamespace) (devices : List DeviceDiscovery)
    (allocation : Allocation) : NvmContext Pool Namespace PcdNamespace :=
  { ctx with
    devices := ctx.devices.store (allocation.fill (devices.map ({ discovery := · })))
      allocation.list }

/-- `invalidate_devices`. -/
def invalidateDevices (ctx : NvmContext Pool Namespace PcdNamespace) :
    NvmContext Pool Namespace PcdNamespace :=
  { ctx with devices := ctx.devices.free }

/-! ### Platform config data of a device -/

/-- The entry of a device matches a unique id. -/
def hasUid (uid : Uid) (entry : Option NvmDeviceContext) : Bool :=
  entry.any fun device => uidCmp uid device.discovery.uid

/-- The first entry of a unique id. -/
def findDevice (ctx : NvmContext Pool Namespace PcdNamespace) (uid : Uid) :
    Option NvmDeviceContext :=
  if 0 < ctx.devices.count then (ctx.devices.list.bind fun entries => entries.find? (hasUid uid)).join
  else none

/-- The platform config data of the first entry of a unique id is replaced. -/
def withDevicePcd (ctx : NvmContext Pool Namespace PcdNamespace) (uid : Uid)
    (pcd : Option (ℕ × Bytes)) : NvmContext Pool Namespace PcdNamespace :=
  if 0 < ctx.devices.count then
    { ctx with devices.list := ctx.devices.list.map fun entries =>
        modifyFirst (hasUid uid) (Option.map ({ · with pcd := pcd })) entries }
  else ctx

/-- `get_nvm_context_device_pcd`, which copies the data to a new block. -/
def getDevicePcd (ctx : NvmContext Pool Namespace PcdNamespace) (uid : Uid) (allocated : Bool) :
    Except ReturnCode (ℕ × Bytes) :=
  match (ctx.findDevice uid).bind NvmDeviceContext.pcd with
  | some (pcdSize, pcd) =>
    if pcdSize > 0 then
      if allocated then .ok (pcdSize, pcd) else .error .errNoMemory
    else .error .errContext
  | none => .error .errContext

/-- `set_nvm_context_device_pcd`. -/
def setDevicePcd (ctx : NvmContext Pool Namespace PcdNamespace) (uid : Uid) (pcd : Bytes)
    (pcdSize : ℕ) (allocated : Bool) : NvmContext Pool Namespace PcdNamespace :=
  ctx.withDevicePcd uid (if allocated then some (pcdSize, pcd) else none)

/-- `invalidate_device_pcd`. -/
def invalidateDevicePcd (ctx : NvmContext Pool Namespace PcdNamespace) (uid : Uid) :
    NvmContext Pool Namespace PcdNamespace :=
  ctx.withDevicePcd uid none

/-- What is found after the data of a device has been replaced. -/
theorem findDevice_withDevicePcd (ctx : NvmContext Pool Namespace PcdNamespace) (uid : Uid)
    (pcd : Option (ℕ × Bytes)) :
    (ctx.withDevicePcd uid pcd).findDevice uid =
      (ctx.findDevice uid).map ({ · with pcd := pcd }) := by
  have hkeep : ∀ entry : Option NvmDeviceContext, hasUid uid entry = true →
      hasUid uid (entry.map ({ · with pcd := pcd })) = true := by
    intro entry hentry
    cases entry with
    | none => exact hentry
    | some device => exact hentry
  unfold withDevicePcd findDevice
  by_cases hcount : 0 < ctx.devices.count
  · simp only [if_pos hcount]
    cases ctx.devices.list with
    | none => rfl
    | some entries =>
      simp only [Option.map_some, Option.bind_some, find?_modifyFirst hkeep]
      rcases entries.find? (hasUid uid) with - | - | device <;> rfl
  · simp only [if_neg hcount, Option.map_none]

/-- A list of devices that has just been set keeps no data. -/
theorem pcd_of_findDevice_setDevices {ctx : NvmContext Pool Namespace PcdNamespace}
    {devices : List DeviceDiscovery} {allocation : Allocation} {uid : Uid}
    {device : NvmDeviceContext}
    (h : (ctx.setDevices devices allocation).findDevice uid = some device) : device.pcd = none := by
  have hfill : ∀ entry ∈ allocation.fill (devices.map ({ discovery := · : NvmDeviceContext })),
      ∀ device, entry = some device → device.pcd = none := by
    intro entry hentry device hdevice
    subst hdevice
    unfold Allocation.fill at hentry
    split at hentry
    · obtain ⟨_, hmem, rfl⟩ := by simpa using hentry
      rfl
    · rcases List.mem_append.mp hentry with hentry | hentry
      · obtain ⟨kept, hmem, hkept⟩ := List.mem_map.mp hentry
        obtain ⟨discovery, -, rfl⟩ := List.mem_map.mp (List.mem_of_mem_take hmem)
        rw [← Option.some.inj hkept]
      · cases List.eq_of_mem_replicate hentry
  unfold findDevice at h
  split_ifs at h with hcount
  rw [Option.join_eq_some_iff, Option.bind_eq_some_iff] at h
  obtain ⟨entries, hlist, hfind⟩ := h
  simp only [setDevices, CachedList.store] at hlist
  split_ifs at hlist with hallocated
  obtain rfl := Option.some.inj hlist
  exact hfill _ (List.mem_of_find?_eq_some hfind) device rfl

/-! ### Pools -/

/-- `get_nvm_context_pool_count`. -/
def getPoolCount (ctx : NvmContext Pool Namespace PcdNamespace) : Except ReturnCode ℤ :=
  ctx.pools.getCount

/-- `get_nvm_context_pools`. -/
def getPools (ctx : NvmContext Pool Namespace PcdNamespace) (poolCount : ℕ) : Fetched Pool :=
  ctx.pools.fetch poolCount (min poolCount)

/-- `set_nvm_context_pools`. -/
def setPools (ctx : NvmContext Pool Namespace PcdNamespace) (pools : List Pool) (allocated : Bool) :
    NvmContext Pool Namespace PcdNamespace :=
  { ctx with pools := ctx.pools.store pools allocated }

/-- `invalidate_pools`. -/
def invalidatePools (ctx : NvmContext Pool Namespace PcdNamespace) :
    NvmContext Pool Namespace PcdNamespace :=
  { ctx with pools := ctx.pools.free }

/-! ### Namespaces -/

/-- `get_nvm_context_namespace_count`. -/
def getNamespaceCount (ctx : NvmContext Pool Namespace PcdNamespace) : Except ReturnCode ℤ :=
  ctx.namespaces.getCount

/-- `get_nvm_context_namespaces`; its loop runs over the array and not over the list. -/
def getNamespaces (ctx : NvmContext Pool Namespace PcdNamespace) (namespaceCount : ℕ) :
    Fetched (Option Namespace) :=
  ctx.namespaces.fetch namespaceCount fun _ => namespaceCount

/-- `set_nvm_context_namespaces`. -/
def setNamespaces (ctx : NvmContext Pool Namespace PcdNamespace) (namespaces : List Namespace)
    (allocation : Allocation) : NvmContext Pool Namespace PcdNamespace :=
  { ctx with namespaces := ctx.namespaces.store (allocation.fill namespaces) allocation.list }

/-- `invalidate_namespaces`, which clears both lists of namespaces. -/
def invalidateNamespaces (ctx : NvmContext Pool Namespace PcdNamespace) :
    NvmContext Pool Namespace PcdNamespace :=
  { ctx with namespaces := ctx.namespaces.free, pcdNamespaces := ctx.pcdNamespaces.free }

/-! ### Namespaces from platform config data -/

/-- `get_nvm_context_pcd_namespace_count`. -/
def getPcdNamespaceCount (ctx : NvmContext Pool Namespace PcdNamespace) : Except ReturnCode ℤ :=
  ctx.pcdNamespaces.getCount

/-- `set_nvm_context_pcd_namespace_count`, which sets the count alone. -/
def setPcdNamespaceCount (ctx : NvmContext Pool Namespace PcdNamespace) (count : ℤ) :
    NvmContext Pool Namespace PcdNamespace :=
  { ctx with pcdNamespaces.count := count }

/-- `get_nvm_context_pcd_namespaces`. -/
def getPcdNamespaces (ctx : NvmContext Pool Namespace PcdNamespace) (pcdNscount : ℕ) :
    Fetched PcdNamespace :=
  ctx.pcdNamespaces.fetch pcdNscount (min pcdNscount)

/-- `set_nvm_context_pcd_namespaces`, which frees both lists of namespaces and sets the list alone. -/
def setPcdNamespaces (ctx : NvmContext Pool Namespace PcdNamespace) (list : List PcdNamespace)
    (allocated : Bool) : NvmContext Pool Namespace PcdNamespace :=
  { ctx with
    namespaces := ctx.namespaces.free
    pcdNamespaces := { ctx.pcdNamespaces.free with list := if allocated then some list else none } }

/-! ### Runs -/

/-- `get_nvm_context_*_count`, by the kind of the list. -/
inductive Kind
  | devices | pools | namespaces | pcdNamespaces
  deriving DecidableEq, Repr

/-- A call to the context. -/
inductive Op (Pool Namespace PcdNamespace : Type)
  | getCount (kind : Kind)
  | getDevices (devCount : ℕ)
  | getPools (poolCount : ℕ)
  | getNamespaces (namespaceCount : ℕ)
  | getPcdNamespaces (pcdNscount : ℕ)
  | setDevices (devices : List DeviceDiscovery) (allocation : Allocation)
  | setPools (pools : List Pool) (allocated : Bool)
  | setNamespaces (namespaces : List Namespace) (allocation : Allocation)
  | setPcdNamespaceCount (count : ℤ)
  | setPcdNamespaces (list : List PcdNamespace) (allocated : Bool)
  | invalidate (kind : Kind)

/-- The count of a kind, as the function for that kind returns it. -/
def getCount (ctx : NvmContext Pool Namespace PcdNamespace) : Kind → Except ReturnCode ℤ
  | .devices => ctx.getDeviceCount
  | .pools => ctx.getPoolCount
  | .namespaces => ctx.getNamespaceCount
  | .pcdNamespaces => ctx.getPcdNamespaceCount

/-- The invalidation of a kind; the two kinds of namespaces share theirs. -/
def invalidate (ctx : NvmContext Pool Namespace PcdNamespace) :
    Kind → NvmContext Pool Namespace PcdNamespace
  | .devices => ctx.invalidateDevices
  | .pools => ctx.invalidatePools
  | .namespaces => ctx.invalidateNamespaces
  | .pcdNamespaces => ctx.invalidateNamespaces

/-- The context after a call. -/
def apply (ctx : NvmContext Pool Namespace PcdNamespace) :
    Op Pool Namespace PcdNamespace → NvmContext Pool Namespace PcdNamespace
  | .getDevices devCount => (ctx.getDevices devCount).2
  | .setDevices devices allocation => ctx.setDevices devices allocation
  | .setPools pools allocated => ctx.setPools pools allocated
  | .setNamespaces namespaces allocation => ctx.setNamespaces namespaces allocation
  | .setPcdNamespaceCount count => ctx.setPcdNamespaceCount count
  | .setPcdNamespaces list allocated => ctx.setPcdNamespaces list allocated
  | .invalidate kind => ctx.invalidate kind
  | .getCount _ | .getPools _ | .getNamespaces _ | .getPcdNamespaces _ => ctx

/-- The context after a run of calls. -/
def run (ctx : NvmContext Pool Namespace PcdNamespace) (ops : List (Op Pool Namespace PcdNamespace)) :
    NvmContext Pool Namespace PcdNamespace :=
  ops.foldl apply ctx

/-- A call that sets the count or the list of a kind. -/
def Op.sets (kind : Kind) : Op Pool Namespace PcdNamespace → Bool
  | .setDevices _ _ => kind = .devices
  | .setPools _ _ => kind = .pools
  | .setNamespaces _ _ => kind = .namespaces
  | .setPcdNamespaceCount _ | .setPcdNamespaces _ _ => kind = .pcdNamespaces
  | _ => false

/-- The count of a kind, and whether there is a list. -/
def shape (ctx : NvmContext Pool Namespace PcdNamespace) : Kind → ℤ × Bool
  | .devices => (ctx.devices.count, ctx.devices.list.isSome)
  | .pools => (ctx.pools.count, ctx.pools.list.isSome)
  | .namespaces => (ctx.namespaces.count, ctx.namespaces.list.isSome)
  | .pcdNamespaces => (ctx.pcdNamespaces.count, ctx.pcdNamespaces.list.isSome)

/-! ### What is left after an invalidation -/

/-- What freeing does to the count and the list. -/
def freeShape (s : ℤ × Bool) : ℤ × Bool := if 0 < s.1 ∧ s.2 = true then (-1, false) else s

/-- Freeing twice is freeing once. -/
private theorem freeShape_freeShape (s : ℤ × Bool) : freeShape (freeShape s) = freeShape s := by
  unfold freeShape
  by_cases h : 0 < s.1 ∧ s.2 = true
  · rw [if_pos h]
    rfl
  · rw [if_neg h, if_neg h]

/-- A count is dropped by freeing if it is negative or has entries. -/
private theorem freeShape_neg_iff (s : ℤ × Bool) :
    (freeShape s).1 < 0 ↔ s.1 ≠ 0 ∧ (0 < s.1 → s.2 = true) := by
  unfold freeShape
  split_ifs with h
  · exact iff_of_true (by decide) ⟨h.1.ne', fun _ => h.2⟩
  · constructor
    · intro hneg
      exact ⟨hneg.ne, fun hpos => absurd hpos hneg.not_gt⟩
    · rintro ⟨hne, hlist⟩
      refine lt_of_le_of_ne (not_lt.mp fun hpos => ?_) hne
      exact h ⟨hpos, hlist hpos⟩

section Shapes

variable {α : Type} (c : CachedList α)

/-- Freeing a list. -/
private theorem shape_free :
    ((c.free).count, (c.free).list.isSome) = freeShape (c.count, c.list.isSome) := by
  unfold CachedList.free freeShape
  split_ifs <;> rfl

end Shapes

variable (ctx : NvmContext Pool Namespace PcdNamespace)

/-- The count is a miss exactly if it is negative. -/
private theorem getCount_eq_error_iff (kind : Kind) :
    ctx.getCount kind = .error .errContext ↔ (ctx.shape kind).1 < 0 := by
  have hcount : ∀ {α : Type} (c : CachedList α), c.getCount = .error .errContext ↔ c.count < 0 := by
    intro α c
    unfold CachedList.getCount
    split_ifs with h
    · exact iff_of_false (by simp) (not_lt.mpr h)
    · exact iff_of_true rfl (not_le.mp h)
  cases kind with
  | devices => exact hcount _
  | pools => exact hcount _
  | namespaces => exact hcount _
  | pcdNamespaces => exact hcount _

/-- The invalidation of a kind frees its list. -/
private theorem shape_invalidate (kind : Kind) :
    (ctx.invalidate kind).shape kind = freeShape (ctx.shape kind) := by
  cases kind with
  | devices => exact shape_free ctx.devices
  | pools => exact shape_free ctx.pools
  | namespaces => exact shape_free ctx.namespaces
  | pcdNamespaces => exact shape_free ctx.pcdNamespaces

/-- A call that does not set a kind leaves its list or frees it. -/
private theorem shape_apply {op : Op Pool Namespace PcdNamespace} {kind : Kind}
    (h : op.sets kind = false) :
    (ctx.apply op).shape kind = ctx.shape kind ∨
      (ctx.apply op).shape kind = freeShape (ctx.shape kind) := by
  cases op with
  | getCount | getPools | getNamespaces | getPcdNamespaces => exact Or.inl rfl
  | getDevices devCount =>
    simp only [apply, getDevices]
    split
    · exact Or.inl rfl
    · split_ifs
      · exact Or.inl rfl
      · exact Or.inl rfl
      · exact Or.inl rfl
      · cases kind with
        | devices => exact Or.inr (shape_free ctx.devices)
        | pools | namespaces | pcdNamespaces => exact Or.inl rfl
  | setDevices | setPools | setNamespaces | setPcdNamespaceCount =>
    cases kind <;> first | exact Or.inl rfl | cases h
  | setPcdNamespaces list allocated =>
    cases kind with
    | devices | pools => exact Or.inl rfl
    | namespaces => exact Or.inr (shape_free ctx.namespaces)
    | pcdNamespaces => cases h
  | invalidate other =>
    cases kind with
    | devices =>
      cases other with
      | devices => exact Or.inr (shape_free ctx.devices)
      | pools | namespaces | pcdNamespaces => exact Or.inl rfl
    | pools =>
      cases other with
      | pools => exact Or.inr (shape_free ctx.pools)
      | devices | namespaces | pcdNamespaces => exact Or.inl rfl
    | namespaces =>
      cases other with
      | devices | pools => exact Or.inl rfl
      | namespaces | pcdNamespaces => exact Or.inr (shape_free ctx.namespaces)
    | pcdNamespaces =>
      cases other with
      | devices | pools => exact Or.inl rfl
      | namespaces | pcdNamespaces => exact Or.inr (shape_free ctx.pcdNamespaces)

/-- What an invalidation has left stays until the kind is set again. -/
private theorem shape_run_invalidate {kind : Kind} {ops : List (Op Pool Namespace PcdNamespace)}
    (h : ∀ op ∈ ops, op.sets kind = false) :
    ((ctx.invalidate kind).run ops).shape kind = freeShape (ctx.shape kind) := by
  have hrun : ∀ (c : NvmContext Pool Namespace PcdNamespace),
      c.shape kind = freeShape (ctx.shape kind) →
        (c.run ops).shape kind = freeShape (ctx.shape kind) := by
    induction ops with
    | nil => exact fun _ hc => hc
    | cons op ops ih =>
      intro c hc
      refine ih (fun op' hop' => h op' (List.mem_cons_of_mem op hop')) (c.apply op) ?_
      rcases c.shape_apply (h op List.mem_cons_self) with hsame | hfreed
      · exact hsame.trans hc
      · rw [hfreed, hc, freeShape_freeShape]
  exact hrun _ (ctx.shape_invalidate kind)

/-- A count of entries that are not from platform config data has its list. -/
private theorem shape_run_list (ops : List (Op Pool Namespace PcdNamespace)) {kind : Kind}
    (hkind : kind ≠ .pcdNamespaces) :
    0 < ((({} : NvmContext Pool Namespace PcdNamespace).run ops).shape kind).1 →
      ((({} : NvmContext Pool Namespace PcdNamespace).run ops).shape kind).2 = true := by
  have hfree : ∀ s : ℤ × Bool, (0 < s.1 → s.2 = true) → 0 < (freeShape s).1 →
      (freeShape s).2 = true := by
    intro s hs
    unfold freeShape
    split_ifs with h
    · exact fun hpos => absurd hpos (by decide)
    · exact hs
  have hstore : ∀ {α : Type} (c : CachedList α) (entries : List α) (allocated : Bool),
      (0 < c.count → c.list.isSome = true) → 0 < (c.store entries allocated).count →
        (c.store entries allocated).list.isSome = true := by
    intro α c entries allocated hc hpos
    unfold CachedList.store at hpos ⊢
    split_ifs at hpos ⊢ with hallocated
    · rfl
    · -- the old list has been freed, if there was one
      unfold CachedList.free at hpos
      split_ifs at hpos with hfreed
      · exact absurd hpos (by decide : ¬ (0 : ℤ) < -1)
      · exact absurd ⟨hpos, hc hpos⟩ hfreed
  have hrun : ∀ (c : NvmContext Pool Namespace PcdNamespace),
      (0 < (c.shape kind).1 → (c.shape kind).2 = true) →
        0 < ((c.run ops).shape kind).1 → ((c.run ops).shape kind).2 = true := by
    induction ops with
    | nil => exact fun _ hc => hc
    | cons op ops ih =>
      intro c hc
      refine ih (c.apply op) ?_
      by_cases hsets : op.sets kind = false
      · rcases c.shape_apply hsets with hsame | hfreed
        · rwa [hsame]
        · rw [hfreed]
          exact hfree _ hc
      · cases op <;> cases kind <;> first
          | exact absurd rfl hsets
          | exact absurd rfl hkind
          | exact hstore _ _ _ hc
  refine hrun {} fun hpos => absurd hpos ?_
  cases kind <;> exact (by decide : ¬ (0 : ℤ) < -1)

/-- After an invalidation the next count of the kind, before it is set again, is a miss exactly if the
count that was kept is not zero and, for namespaces from platform config data, a count that is
positive had its list. -/
theorem getCount_invalidate_iff (before between : List (Op Pool Namespace PcdNamespace)) (kind : Kind)
    (hbetween : ∀ op ∈ between, op.sets kind = false) :
    ((({} : NvmContext Pool Namespace PcdNamespace).run before |>.invalidate kind).run
        between).getCount kind = .error .errContext ↔
      ((({} : NvmContext Pool Namespace PcdNamespace).run before).shape kind).1 ≠ 0 ∧
        (kind = .pcdNamespaces →
          0 < ((({} : NvmContext Pool Namespace PcdNamespace).run before).shape kind).1 →
            ((({} : NvmContext Pool Namespace PcdNamespace).run before).shape kind).2 = true) := by
  rw [getCount_eq_error_iff, shape_run_invalidate _ hbetween, freeShape_neg_iff]
  refine and_congr_right fun _ => ⟨fun hlist _ => hlist, fun hlist => ?_⟩
  by_cases hkind : kind = .pcdNamespaces
  · exact hlist hkind
  · exact shape_run_list before hkind

/-- One pool is kept, and dropped. -/
theorem getCount_invalidate_pool :
    ((({} : NvmContext ℕ ℕ ℕ).run [.setPools [0] true] |>.invalidate .pools).run
      [.getDevices 0]).getCount .pools = .error .errContext :=
  (getCount_invalidate_iff [.setPools [0] true] [.getDevices 0] .pools (by decide)).mpr (by decide)

/-- An empty list of pools stays, and so does a count of namespaces that was set without its list. -/
theorem not_getCount_invalidate :
    ((({} : NvmContext ℕ ℕ ℕ).run [.setPools [] true] |>.invalidate .pools).getCount .pools ≠
        .error .errContext) ∧
      (({} : NvmContext ℕ ℕ ℕ).run [.setPcdNamespaceCount 1] |>.invalidate
        .pcdNamespaces).getCount .pcdNamespaces ≠ .error .errContext := by
  constructor
  · exact fun h => by cases h
  · exact fun h => by cases h

end NvmContext

end IxpDimm
