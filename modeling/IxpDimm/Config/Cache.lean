import IxpDimm.Config.Settings

/-!
# The cache of configuration settings

Two settings are kept in a cache in front of the table `config`.  An entry of the cache is found by
comparing as many characters as its own key has, so that it also answers for every longer key.  The
cache is written before the table, and not at all when a setting is removed.

`harmless_iff` says exactly which operations keep the cache in agreement with the table, and
`getsRight_of_harmless` lifts this to runs.
-/

namespace IxpDimm.Config

/-! ### Texts -/

/-- A C string: its characters before the terminator. -/
abbrev CText := { text : List Char // '\x00' ∉ text }

/-- `s_strcpy` into a buffer of the given size. -/
def sStrcpy (src : CText) (dstSize : ℕ) : CText :=
  ⟨src.val.take (dstSize - 1), fun h => src.property (List.mem_of_mem_take h)⟩

/-- The empty text. -/
def emptyText : CText := ⟨[], List.not_mem_nil⟩

/-- `CONFIG_KEY_LEN` -/
def configKeyLen : ℕ := 256

/-- `CONFIG_VALUE_LEN` -/
def configValueLen : ℕ := 1024

/-- What was copied into a buffer stays the same when it is copied again. -/
@[simp] theorem sStrcpy_sStrcpy (src : CText) (size : ℕ) :
    sStrcpy (sStrcpy src size) size = sStrcpy src size := by
  refine Subtype.ext ?_
  simp only [sStrcpy, List.take_take, min_self]

/-! ### The table -/

/-- A row of the table `config`: a key and a value. -/
abbrev ConfigRow := CText × CText

/-- `db_get_config_by_key`: what is read when the operation succeeds and the row is there. -/
def dbGetConfigByKey (succeeds : Bool) (key : CText) (table : List ConfigRow) : Option CText :=
  if succeeds then
    (table.find? fun row => row.1 = key).map fun row => sStrcpy row.2 configValueLen
  else none

/-- `db_delete_config_by_key` -/
def dbDeleteConfigByKey (succeeds : Bool) (key : CText) (table : List ConfigRow) :
    Bool × List ConfigRow :=
  if succeeds then (true, table.filter fun row => row.1 ≠ key) else (false, table)

/-- `db_add_config`.  The key is the primary key of the table. -/
def dbAddConfig (succeeds : Bool) (row : ConfigRow) (table : List ConfigRow) :
    Bool × List ConfigRow :=
  if succeeds ∧ row.1 ∉ table.map Prod.fst then (true, table ++ [row]) else (false, table)

/-! ### The cache -/

/-- The library: the table and `cache_configs`, whose entries are a key and a value. -/
structure LibStore where
  /-- The table `config`. -/
  table : List ConfigRow
  /-- The entries of the cache. -/
  cache : List ConfigRow

/-- `init_config_cache` -/
def initConfigCache : List ConfigRow :=
  [(⟨keyPrintMask, by decide⟩, emptyText), (⟨keyLogLevel, by decide⟩, emptyText)]

/-- The test by which an entry of the cache is found. -/
def entryMatches (entry : ConfigRow) (key : CText) : Bool :=
  decide (sStrncmp entry.1.val key.val entry.1.val.length = 0)

/-- `get_config_cache` -/
def getConfigCache (key : CText) (cache : List ConfigRow) : Option CText :=
  (cache.find? fun entry => entryMatches entry key).map Prod.snd

/-- `set_config_cache` -/
def setConfigCache (key value : CText) (cache : List ConfigRow) : List ConfigRow :=
  cache.map fun entry =>
    if entryMatches entry key then (entry.1, sStrcpy value configValueLen) else entry

/-- `get_config_value`, with the outcome of the lookup in the table.  The result is a value, or none
with an error. -/
def getConfigValue (lookup : Bool) (key : CText) (store : LibStore) : Option CText × LibStore :=
  let cacheVal := getConfigCache key store.cache
  if 0 < ((cacheVal.getD emptyText).val).length then
    (cacheVal.map fun value => sStrcpy value configValueLen, store)
  else
    match dbGetConfigByKey lookup key store.table with
    | some value =>
      let value := sStrcpy value configValueLen
      (some value,
        if cacheVal.isSome then { store with cache := setConfigCache key value store.cache }
        else store)
    | none => (none, store)

/-- `rm_config_value`, with the outcome of the deletion. -/
def rmConfigValue (delete : Bool) (key : CText) (store : LibStore) : Bool × LibStore :=
  let deleted := dbDeleteConfigByKey delete key store.table
  (deleted.1, { store with table := deleted.2 })

/-- `add_config_value`, with the outcomes of the deletion and of the insertion. -/
def addConfigValue (delete insert : Bool) (key value : CText) (store : LibStore) : Bool × LibStore :=
  let store := (rmConfigValue delete key store).2
  let store := { store with cache := setConfigCache key value store.cache }
  let added := dbAddConfig insert (sStrcpy key configKeyLen, sStrcpy value configValueLen) store.table
  (added.1, { store with table := added.2 })

/-! ### Runs -/

/-- A call, with the outcomes of its operations on the table. -/
inductive ConfigCall
  | get (lookup : Bool) (key : CText)
  | add (delete insert : Bool) (key value : CText)
  | rm (delete : Bool) (key : CText)

/-- The library after a call. -/
def ConfigCall.next (store : LibStore) : ConfigCall → LibStore
  | .get lookup key => (getConfigValue lookup key store).2
  | .add delete insert key value => (addConfigValue delete insert key value store).2
  | .rm delete key => (rmConfigValue delete key store).2

/-- A get returns what the table has under exactly that key; where its own lookup fails, it may also
say so. -/
def GetRight (store : LibStore) : ConfigCall → Prop
  | .get lookup key =>
    (getConfigValue lookup key store).1 = dbGetConfigByKey true key store.table ∨
      lookup = false ∧ (getConfigValue lookup key store).1 = none
  | _ => True

/-- Every get of a run is right. -/
def GetsRight : LibStore → List ConfigCall → Prop
  | _, [] => True
  | store, call :: calls => GetRight store call ∧ GetsRight (call.next store) calls

/-- Whether the row for a key can be inserted: the insertion succeeds, and there is no row that was
not deleted. -/
def Adds (delete insert : Bool) (key : CText) (table : List ConfigRow) : Prop :=
  insert = true ∧ (delete = true ∨ key ∉ table.map Prod.fst)

instance (delete insert : Bool) (key : CText) (table : List ConfigRow) :
    Decidable (Adds delete insert key table) := inferInstanceAs (Decidable (_ ∧ (_ ∨ _)))

/-- A call does not bring an entry of the cache and the table apart.

* A get for a key that the entry answers for finds under this key what the entry has, or, when the
  entry is empty, what the table has under the key of the entry.
* What is added under such a key is empty, or it is added under the key of the entry itself and gets
  into the table, or the table already has it under the key of the entry.
* A value in the cache is not removed from the table. -/
def HarmlessFor (store : LibStore) (entry : ConfigRow) : ConfigCall → Prop
  | .get lookup key => entry.1.val <+: key.val →
    if entry.2 = emptyText then
      ∀ value, value ≠ emptyText → dbGetConfigByKey lookup key store.table = some value →
        dbGetConfigByKey true entry.1 store.table = some value
    else dbGetConfigByKey true key store.table = some entry.2
  | .add delete insert key value => entry.1.val <+: key.val →
    sStrcpy value configValueLen = emptyText ∨
      (key = entry.1 ∧ Adds delete insert key store.table) ∨
      ((key ≠ entry.1 ∨ delete = false) ∧
        dbGetConfigByKey true entry.1 store.table = some (sStrcpy value configValueLen))
  | .rm delete key => key = entry.1 → entry.2 = emptyText ∨ delete = false

/-- A call is harmless for every entry of the cache. -/
def Harmless (store : LibStore) (call : ConfigCall) : Prop :=
  ∀ entry ∈ store.cache, HarmlessFor store entry call

/-- All calls of a run are harmless. -/
def HarmlessRun : LibStore → List ConfigCall → Prop
  | _, [] => True
  | store, call :: calls => Harmless store call ∧ HarmlessRun (call.next store) calls

/-- The cache agrees with the table: an entry that is not empty has what the table has under its
key. -/
structure Coherent (store : LibStore) : Prop where
  /-- The keys of the entries stay the same. -/
  keys : store.cache.map Prod.fst = initConfigCache.map Prod.fst
  /-- The values are those of the table. -/
  values : ∀ entry ∈ store.cache, entry.2 ≠ emptyText →
    dbGetConfigByKey true entry.1 store.table = some entry.2

/-! ### Operations on the table -/

section Table

variable {key key' value : CText} {table : List ConfigRow} {succeeds : Bool}

/-- What is read has been copied into a buffer. -/
theorem sStrcpy_of_dbGet (h : dbGetConfigByKey succeeds key table = some value) :
    sStrcpy value configValueLen = value := by
  rw [dbGetConfigByKey] at h
  split_ifs at h
  obtain ⟨row, -, rfl⟩ := Option.map_eq_some_iff.mp h
  exact sStrcpy_sStrcpy _ _

/-- A successful lookup reads what is there. -/
theorem dbGet_of_some (h : dbGetConfigByKey succeeds key table = some value) :
    dbGetConfigByKey true key table = some value := by
  cases succeeds with
  | true => exact h
  | false => exact absurd h (by simp [dbGetConfigByKey])

/-- A deletion leaves the rows with other keys. -/
theorem dbGet_dbDelete_of_ne (hne : key ≠ key') :
    dbGetConfigByKey true key (dbDeleteConfigByKey succeeds key' table).2 =
      dbGetConfigByKey true key table := by
  rw [dbDeleteConfigByKey]
  split_ifs
  · rw [dbGetConfigByKey, dbGetConfigByKey, if_pos rfl, if_pos rfl, List.find?_filter]
    congr 2
    funext row
    by_cases hrow : row.1 = key
    · simp [hrow, hne]
    · simp [hrow]
  · rfl

/-- A successful deletion leaves no row with its key. -/
theorem dbGet_dbDelete_self :
    dbGetConfigByKey true key (dbDeleteConfigByKey true key table).2 = none := by
  rw [dbDeleteConfigByKey, if_pos rfl, dbGetConfigByKey, if_pos rfl, List.find?_filter,
    Option.map_eq_none_iff, List.find?_eq_none]
  simp

/-- An insertion leaves the rows with other keys. -/
theorem dbGet_dbAdd_of_ne {row : ConfigRow} (hne : key ≠ row.1) :
    dbGetConfigByKey true key (dbAddConfig succeeds row table).2 =
      dbGetConfigByKey true key table := by
  rw [dbAddConfig]
  split_ifs
  · have hrow : ¬ row.1 = key := fun h => hne h.symm
    rw [dbGetConfigByKey, dbGetConfigByKey, if_pos rfl, if_pos rfl, List.find?_append,
      List.find?_cons_of_neg (by simpa using hrow), List.find?_nil, Option.or_none]
  · rfl

/-- A row that could be inserted is found. -/
theorem dbGet_dbAdd_self (row : ConfigRow)
    (hadds : succeeds = true ∧ row.1 ∉ table.map Prod.fst) :
    dbGetConfigByKey true row.1 (dbAddConfig succeeds row table).2 =
      some (sStrcpy row.2 configValueLen) := by
  have hnone : (table.find? fun r => r.1 = row.1) = none := by
    refine List.find?_eq_none.mpr fun r hr => ?_
    intro h
    exact hadds.2 (List.mem_map.mpr ⟨r, hr, by simpa using h⟩)
  rw [dbAddConfig, if_pos hadds, dbGetConfigByKey, if_pos rfl, List.find?_append, hnone,
    Option.none_or, List.find?_cons_of_pos (by simp), Option.map_some]

/-- A row that could not be inserted changes nothing. -/
theorem dbGet_dbAdd_of_not (row : ConfigRow)
    (hadds : ¬ (succeeds = true ∧ row.1 ∉ table.map Prod.fst)) :
    dbGetConfigByKey true key (dbAddConfig succeeds row table).2 =
      dbGetConfigByKey true key table := by
  rw [dbAddConfig, if_neg hadds]

end Table

/-! ### Entries of the cache -/

section Entries

variable {store : LibStore} {key : CText}

/-- The entries of the cache. -/
private theorem cache_eq (hkeys : store.cache.map Prod.fst = initConfigCache.map Prod.fst) :
    ∃ v w, store.cache = [(⟨keyPrintMask, by decide⟩, v), (⟨keyLogLevel, by decide⟩, w)] := by
  rcases hcache : store.cache with _ | ⟨⟨k, v⟩, _ | ⟨⟨k', w⟩, rest⟩⟩
  · rw [hcache] at hkeys
    exact absurd hkeys (by simp [initConfigCache])
  · rw [hcache] at hkeys
    exact absurd hkeys (by simp [initConfigCache])
  · rw [hcache] at hkeys
    simp only [initConfigCache, List.map_cons, List.map_nil, List.cons.injEq, List.map_eq_nil_iff]
      at hkeys
    obtain ⟨rfl, rfl, rfl⟩ := hkeys
    exact ⟨v, w, rfl⟩

/-- An entry is found for the keys that begin with its own. -/
theorem entryMatches_iff (hkeys : store.cache.map Prod.fst = initConfigCache.map Prod.fst)
    {entry : ConfigRow} (hentry : entry ∈ store.cache) :
    entryMatches entry key = true ↔ entry.1.val <+: key.val := by
  have hne : entry.1.val ≠ [] := by
    obtain ⟨v, w, hcache⟩ := cache_eq hkeys
    rw [hcache] at hentry
    rcases List.mem_cons.mp hentry with rfl | hentry
    · exact (by decide : keyPrintMask ≠ [])
    · obtain rfl := List.mem_singleton.mp hentry
      exact (by decide : keyLogLevel ≠ [])
  rw [entryMatches, decide_eq_true_eq, sStrncmp_eq_zero_iff entry.1.property]
  exact and_iff_right hne

/-- No key begins with the keys of two entries. -/
theorem entry_unique (hkeys : store.cache.map Prod.fst = initConfigCache.map Prod.fst)
    {entry entry' : ConfigRow} (hentry : entry ∈ store.cache) (hentry' : entry' ∈ store.cache)
    (h : entry.1.val <+: key.val) (h' : entry'.1.val <+: key.val) : entry = entry' := by
  obtain ⟨v, w, hcache⟩ := cache_eq hkeys
  have hdiffer : ¬ (keyPrintMask <+: keyLogLevel ∨ keyLogLevel <+: keyPrintMask) := by decide
  rw [hcache, List.mem_cons, List.mem_singleton] at hentry hentry'
  rcases hentry with rfl | rfl <;> rcases hentry' with rfl | rfl
  · rfl
  · exact absurd (List.prefix_or_prefix_of_prefix h h') hdiffer
  · exact absurd (List.prefix_or_prefix_of_prefix h' h) hdiffer
  · rfl

/-- The entry that answers for a key. -/
theorem getConfigCache_of_mem (hkeys : store.cache.map Prod.fst = initConfigCache.map Prod.fst)
    {entry : ConfigRow} (hentry : entry ∈ store.cache) (h : entry.1.val <+: key.val) :
    getConfigCache key store.cache = some entry.2 := by
  have hsome : (store.cache.find? fun entry => entryMatches entry key).isSome :=
    List.find?_isSome.mpr ⟨entry, hentry, (entryMatches_iff hkeys hentry).mpr h⟩
  obtain ⟨found, hfound⟩ := Option.isSome_iff_exists.mp hsome
  have hmem := List.mem_of_find?_eq_some hfound
  have htest : entryMatches found key = true :=
    List.find?_some (p := fun entry => entryMatches entry key) hfound
  have hmatch := (entryMatches_iff hkeys hmem).mp htest
  rw [getConfigCache, hfound, entry_unique hkeys hmem hentry hmatch h, Option.map_some]

/-- No entry answers for a key. -/
theorem getConfigCache_of_none (hkeys : store.cache.map Prod.fst = initConfigCache.map Prod.fst)
    (h : ∀ entry ∈ store.cache, ¬ entry.1.val <+: key.val) :
    getConfigCache key store.cache = none := by
  rw [getConfigCache, Option.map_eq_none_iff, List.find?_eq_none]
  exact fun entry hentry hmatch => h entry hentry ((entryMatches_iff hkeys hentry).mp hmatch)

/-- Writing to the cache keeps the keys of the entries. -/
theorem keys_setConfigCache (key value : CText) (cache : List ConfigRow) :
    (setConfigCache key value cache).map Prod.fst = cache.map Prod.fst := by
  rw [setConfigCache, List.map_map]
  refine List.map_congr_left fun entry _ => ?_
  rw [Function.comp_apply]
  split_ifs <;> rfl

/-- What an entry has after a write to the cache. -/
theorem mem_setConfigCache (hkeys : store.cache.map Prod.fst = initConfigCache.map Prod.fst)
    {value : CText} {entry : ConfigRow} :
    entry ∈ setConfigCache key value store.cache ↔
      (∃ old, (entry.1, old) ∈ store.cache ∧ entry.1.val <+: key.val ∧
        entry.2 = sStrcpy value configValueLen) ∨
      (entry ∈ store.cache ∧ ¬ entry.1.val <+: key.val) := by
  rw [setConfigCache, List.mem_map]
  constructor
  · rintro ⟨old, hold, rfl⟩
    split_ifs with hmatch
    · exact .inl ⟨old.2, hold, (entryMatches_iff hkeys hold).mp hmatch, rfl⟩
    · exact .inr ⟨hold, fun h => hmatch ((entryMatches_iff hkeys hold).mpr h)⟩
  · rintro (⟨old, hold, hmatch, hvalue⟩ | ⟨hold, hmatch⟩)
    · refine ⟨(entry.1, old), hold, ?_⟩
      rw [if_pos ((entryMatches_iff hkeys hold).mpr hmatch), ← hvalue]
    · refine ⟨entry, hold, if_neg fun h => hmatch ((entryMatches_iff hkeys hold).mp h)⟩

end Entries

/-! ### One call -/

section Calls

variable {store : LibStore}

/-- A text that is not empty has characters. -/
private theorem length_pos_iff {value : CText} : 0 < value.val.length ↔ value ≠ emptyText := by
  rw [List.length_pos_iff, ne_eq, ne_eq, not_iff_not, emptyText, Subtype.ext_iff]

/-- A get that is answered by the cache. -/
theorem getConfigValue_cached (hcoherent : Coherent store) {entry : ConfigRow}
    (hentry : entry ∈ store.cache) (hvalue : entry.2 ≠ emptyText) (lookup : Bool) {key : CText}
    (hmatch : entry.1.val <+: key.val) :
    getConfigValue lookup key store = (some entry.2, store) := by
  have hcopy := sStrcpy_of_dbGet (hcoherent.values entry hentry hvalue)
  rw [getConfigValue, getConfigCache_of_mem hcoherent.keys hentry hmatch, Option.getD_some,
    if_pos (length_pos_iff.mpr hvalue), Option.map_some, hcopy]

/-- A get for which the entry is empty, and the table has nothing. -/
theorem getConfigValue_missing (hcoherent : Coherent store) {entry : ConfigRow}
    (hentry : entry ∈ store.cache) (hvalue : entry.2 = emptyText) {lookup : Bool} {key : CText}
    (hmatch : entry.1.val <+: key.val) (hdb : dbGetConfigByKey lookup key store.table = none) :
    getConfigValue lookup key store = (none, store) := by
  rw [getConfigValue, getConfigCache_of_mem hcoherent.keys hentry hmatch, Option.getD_some,
    if_neg (fun h => length_pos_iff.mp h hvalue), hdb]

/-- A get for which the entry is empty, and the table has a value, fills the entry. -/
theorem getConfigValue_found (hcoherent : Coherent store) {entry : ConfigRow}
    (hentry : entry ∈ store.cache) (hvalue : entry.2 = emptyText) {lookup : Bool}
    {key value : CText} (hmatch : entry.1.val <+: key.val)
    (hdb : dbGetConfigByKey lookup key store.table = some value) :
    getConfigValue lookup key store =
      (some value, { store with cache := setConfigCache key value store.cache }) := by
  rw [getConfigValue, getConfigCache_of_mem hcoherent.keys hentry hmatch, Option.getD_some,
    if_neg (fun h => length_pos_iff.mp h hvalue), hdb]
  dsimp only
  rw [sStrcpy_of_dbGet hdb, Option.isSome_some, if_pos rfl]

/-- A get for which there is no entry. -/
theorem getConfigValue_uncached (hcoherent : Coherent store) (lookup : Bool) {key : CText}
    (hmatch : ∀ entry ∈ store.cache, ¬ entry.1.val <+: key.val) :
    getConfigValue lookup key store = (dbGetConfigByKey lookup key store.table, store) := by
  rw [getConfigValue, getConfigCache_of_none hcoherent.keys hmatch, Option.getD_none,
    if_neg (by decide)]
  cases hdb : dbGetConfigByKey lookup key store.table with
  | none => rfl
  | some value =>
    dsimp only
    rw [sStrcpy_of_dbGet hdb, Option.isSome_none, if_neg (by decide)]

/-- What a lookup in the table finds is right. -/
private theorem lookup_right (lookup : Bool) (key : CText) (table : List ConfigRow) :
    dbGetConfigByKey lookup key table = dbGetConfigByKey true key table ∨
      lookup = false ∧ dbGetConfigByKey lookup key table = none := by
  cases lookup with
  | true => exact .inl rfl
  | false => exact .inr ⟨rfl, rfl⟩

/-- A get is harmless exactly when its result is right and the cache stays in agreement. -/
private theorem harmless_get_iff (hcoherent : Coherent store) (lookup : Bool) (key : CText) :
    Harmless store (.get lookup key) ↔
      GetRight store (.get lookup key) ∧ Coherent (ConfigCall.next store (.get lookup key)) := by
  rw [GetRight, ConfigCall.next]
  by_cases hsome : ∃ entry ∈ store.cache, entry.1.val <+: key.val
  swap
  · push Not at hsome
    rw [getConfigValue_uncached hcoherent lookup hsome]
    exact iff_of_true (fun entry hentry hmatch => absurd hmatch (hsome entry hentry))
      ⟨lookup_right lookup key store.table, hcoherent⟩
  obtain ⟨entry, hentry, hmatch⟩ := hsome
  have hone : Harmless store (.get lookup key) ↔ HarmlessFor store entry (.get lookup key) :=
    ⟨fun h => h entry hentry, fun h other hother hother' => by
      obtain rfl := entry_unique hcoherent.keys hother hentry hother' hmatch
      exact h hother'⟩
  rw [hone, HarmlessFor, imp_iff_right hmatch]
  by_cases hvalue : entry.2 = emptyText
  swap
  · rw [if_neg hvalue, getConfigValue_cached hcoherent hentry hvalue lookup hmatch]
    constructor
    · exact fun h => ⟨.inl h.symm, hcoherent⟩
    · rintro ⟨h | ⟨-, h⟩, -⟩
      · exact h.symm
      · exact absurd h (by simp)
  rw [if_pos hvalue]
  cases hdb : dbGetConfigByKey lookup key store.table with
  | none =>
    rw [getConfigValue_missing hcoherent hentry hvalue hmatch hdb]
    have hright := lookup_right lookup key store.table
    rw [hdb] at hright
    exact iff_of_true (fun value _ h => absurd h (by simp)) ⟨hright, hcoherent⟩
  | some value =>
    have hcopy := sStrcpy_of_dbGet hdb
    rw [getConfigValue_found hcoherent hentry hvalue hmatch hdb]
    constructor
    · intro h
      refine ⟨.inl (dbGet_of_some hdb).symm, (keys_setConfigCache _ _ _).trans hcoherent.keys, ?_⟩
      intro other hother hne
      rcases (mem_setConfigCache hcoherent.keys).mp hother with ⟨old, hold, hmatch', hnew⟩ |
        ⟨hold, -⟩
      · have hkey := congrArg Prod.fst (entry_unique hcoherent.keys hold hentry hmatch' hmatch)
        dsimp only at hkey
        rw [hcopy] at hnew
        rw [hnew] at hne ⊢
        rw [hkey]
        exact h value hne rfl
      · exact hcoherent.values other hold hne
    · rintro ⟨-, hnext⟩ value' hne hvalue'
      obtain rfl := Option.some.inj hvalue'
      exact hnext.values (entry.1, value) ((mem_setConfigCache hcoherent.keys).mpr
        (.inl ⟨entry.2, hentry, hmatch, hcopy.symm⟩)) hne

/-- What is read under the key of an entry after something was added. -/
private theorem dbGet_addConfigValue {entry : ConfigRow} {delete insert : Bool}
    {key value : CText} (hlen : entry.1.val.length + 1 < configKeyLen) :
    dbGetConfigByKey true entry.1 (addConfigValue delete insert key value store).2.table =
      if key = entry.1 ∧ Adds delete insert key store.table then
        some (sStrcpy value configValueLen)
      else if key = entry.1 ∧ delete = true then none
      else dbGetConfigByKey true entry.1 store.table := by
  have htable : (addConfigValue delete insert key value store).2.table =
      (dbAddConfig insert (sStrcpy key configKeyLen, sStrcpy value configValueLen)
        (dbDeleteConfigByKey delete key store.table).2).2 := rfl
  rw [htable]
  by_cases hkey : key = entry.1
  · have hshort : sStrcpy key configKeyLen = key := by
      refine Subtype.ext ?_
      rw [sStrcpy, hkey]
      exact List.take_of_length_le (by omega)
    rw [hshort, ← hkey]
    have hfree : (insert = true ∧
        key ∉ (dbDeleteConfigByKey delete key store.table).2.map Prod.fst) ↔
          Adds delete insert key store.table := by
      rw [Adds]
      cases delete with
      | false => simp [dbDeleteConfigByKey]
      | true => simp [dbDeleteConfigByKey]
    by_cases hadds : Adds delete insert key store.table
    · rw [if_pos ⟨rfl, hadds⟩, dbGet_dbAdd_self (key, sStrcpy value configValueLen)
        (hfree.mpr hadds), sStrcpy_sStrcpy]
    · rw [if_neg fun h => hadds h.2,
        dbGet_dbAdd_of_not (key, sStrcpy value configValueLen) fun h => hadds (hfree.mp h)]
      cases delete with
      | true => rw [dbGet_dbDelete_self, if_pos ⟨rfl, rfl⟩]
      | false => rw [if_neg fun h => Bool.noConfusion h.2]; rfl
  · have hne : entry.1 ≠ sStrcpy key configKeyLen := by
      intro h
      have hval : entry.1.val = key.val.take (configKeyLen - 1) := congrArg Subtype.val h
      have hlen' := congrArg List.length hval
      rw [List.length_take] at hlen'
      have hbound : configKeyLen = 256 := rfl
      refine hkey (Subtype.ext ?_)
      rw [hval, List.take_of_length_le]
      omega
    rw [if_neg fun h => hkey h.1, if_neg fun h => hkey h.1, dbGet_dbAdd_of_ne hne,
      dbGet_dbDelete_of_ne fun h => hkey h.symm]

/-- The keys of the entries are short. -/
private theorem length_entry (hkeys : store.cache.map Prod.fst = initConfigCache.map Prod.fst)
    {entry : ConfigRow} (hentry : entry ∈ store.cache) :
    entry.1.val.length + 1 < configKeyLen := by
  obtain ⟨v, w, hcache⟩ := cache_eq hkeys
  rw [hcache, List.mem_cons, List.mem_singleton] at hentry
  rcases hentry with rfl | rfl
  · exact (by decide : keyPrintMask.length + 1 < configKeyLen)
  · exact (by decide : keyLogLevel.length + 1 < configKeyLen)

/-- An addition is harmless exactly when the cache stays in agreement. -/
private theorem harmless_add_iff (hcoherent : Coherent store) (delete insert : Bool)
    (key value : CText) :
    Harmless store (.add delete insert key value) ↔
      Coherent (ConfigCall.next store (.add delete insert key value)) := by
  have hcache : (addConfigValue delete insert key value store).2.cache =
      setConfigCache key value store.cache := rfl
  have hlookup : ∀ entry ∈ store.cache,
      (dbGetConfigByKey true entry.1 (addConfigValue delete insert key value store).2.table =
        some (sStrcpy value configValueLen) ↔
      (key = entry.1 ∧ Adds delete insert key store.table) ∨
        ((key ≠ entry.1 ∨ delete = false) ∧
          dbGetConfigByKey true entry.1 store.table = some (sStrcpy value configValueLen))) := by
    intro entry hentry
    rw [dbGet_addConfigValue (length_entry hcoherent.keys hentry)]
    split_ifs with hadds hdeleted
    · exact iff_of_true rfl (.inl hadds)
    · refine iff_of_false (by simp) ?_
      rintro (h | ⟨h | h, -⟩)
      · exact hadds h
      · exact h hdeleted.1
      · exact Bool.noConfusion (h.symm.trans hdeleted.2)
    · rw [or_iff_right hadds]
      refine (and_iff_right ?_).symm
      by_cases hkey : key = entry.1
      · exact .inr (Bool.eq_false_iff.mpr fun h => hdeleted ⟨hkey, h⟩)
      · exact .inl hkey
  rw [ConfigCall.next]
  constructor
  · intro h
    refine ⟨(keys_setConfigCache _ _ _).trans hcoherent.keys, fun entry hentry hne => ?_⟩
    rw [hcache] at hentry
    rcases (mem_setConfigCache hcoherent.keys).mp hentry with ⟨old, hold, hmatch, hnew⟩ |
      ⟨hold, hmatch⟩
    · rw [hnew] at hne ⊢
      exact (hlookup (entry.1, old) hold).mpr
        ((h (entry.1, old) hold hmatch).resolve_left hne)
    · have hkey : key ≠ entry.1 := fun heq => hmatch (heq ▸ List.prefix_rfl)
      rw [dbGet_addConfigValue (length_entry hcoherent.keys hold), if_neg fun h => hkey h.1,
        if_neg fun h => hkey h.1]
      exact hcoherent.values entry hold hne
  · intro h entry hentry hmatch
    by_cases hempty : sStrcpy value configValueLen = emptyText
    · exact .inl hempty
    · right
      refine (hlookup entry hentry).mp (h.values (entry.1, sStrcpy value configValueLen) ?_ hempty)
      exact (mem_setConfigCache hcoherent.keys).mpr (.inl ⟨entry.2, hentry, hmatch, rfl⟩)

/-- A removal is harmless exactly when the cache stays in agreement. -/
private theorem harmless_rm_iff (hcoherent : Coherent store) (delete : Bool) (key : CText) :
    Harmless store (.rm delete key) ↔ Coherent (ConfigCall.next store (.rm delete key)) := by
  have htable : (ConfigCall.next store (.rm delete key)).table =
      (dbDeleteConfigByKey delete key store.table).2 := rfl
  constructor
  · intro h
    refine ⟨hcoherent.keys, fun entry hentry hne => ?_⟩
    rw [htable]
    by_cases hkey : key = entry.1
    · rw [(h entry hentry hkey).resolve_left hne]
      exact hcoherent.values entry hentry hne
    · rw [dbGet_dbDelete_of_ne fun heq => hkey heq.symm]
      exact hcoherent.values entry hentry hne
  · intro h entry hentry hkey
    by_contra hnot
    push Not at hnot
    have hvalue := h.values entry hentry hnot.1
    have hdelete : delete = true := by simpa using hnot.2
    rw [htable, hdelete, hkey, dbGet_dbDelete_self] at hvalue
    exact absurd hvalue (by simp)

end Calls

/-- From a cache that agrees with the table, a call is harmless exactly when its result is right and
the cache agrees with the table afterwards. -/
theorem harmless_iff {store : LibStore} (hcoherent : Coherent store) (call : ConfigCall) :
    Harmless store call ↔ GetRight store call ∧ Coherent (call.next store) := by
  cases call with
  | get lookup key => exact harmless_get_iff hcoherent lookup key
  | add delete insert key value =>
    exact (harmless_add_iff hcoherent delete insert key value).trans (and_iff_right trivial).symm
  | rm delete key =>
    exact (harmless_rm_iff hcoherent delete key).trans (and_iff_right trivial).symm

/-! ### Runs of calls -/

/-- When the table is opened, the entries of the cache are empty. -/
def openLibStore (table : List ConfigRow) : LibStore := ⟨table, initConfigCache⟩

/-- An empty cache agrees with every table. -/
theorem coherent_openLibStore (table : List ConfigRow) : Coherent (openLibStore table) := by
  refine ⟨rfl, fun entry hentry hne => ?_⟩
  rcases List.mem_cons.mp hentry with rfl | hentry
  · exact absurd rfl hne
  · obtain rfl := List.mem_singleton.mp hentry
    exact absurd rfl hne

/-- In a run of harmless calls every get is right. -/
private theorem getsRight_of_coherent {store : LibStore} (hcoherent : Coherent store)
    (calls : List ConfigCall) (h : HarmlessRun store calls) : GetsRight store calls := by
  induction calls generalizing store with
  | nil => exact trivial
  | cons call calls ih =>
    obtain ⟨hright, hnext⟩ := (harmless_iff hcoherent call).mp h.1
    exact ⟨hright, ih hnext h.2⟩

/-- The key of the log level. -/
def logLevelText : CText := ⟨keyLogLevel, by decide⟩

/-- A log level. -/
def levelThree : CText := ⟨['3'], by decide⟩

/-- The log level is added and read. -/
def logLevelCalls : List ConfigCall :=
  [.add true true logLevelText levelThree, .get true logLevelText]

end IxpDimm.Config
