import IxpDimm.EventLog.Obfuscate
import Mathlib.Data.List.Forall2
import Mathlib.Logic.Equiv.Defs

/-!
# Support files and a renaming of serial numbers

Two event tables and two inventories that differ by a renaming of serial numbers (`RenamedRow`).  If
nothing of a serial number is left, `support_filter_data` makes the same table of them.  It does, up
to two kinds of events whose arguments name serial numbers or uids and are neither cleared nor
obfuscated (`Alike`): the firmware consistency event with a list of uids, and the event for duplicate
serial numbers.
-/

namespace IxpDimm.EventLog

/-! ### Renaming -/

/-- `SERIAL_NUMBER_TO_STRING`. -/
def serialNumberToString (serial : Vector UInt8 4) : List Char :=
  '0' :: 'x' :: (hexDigits 2 (serial.get 3).toNat ++ hexDigits 2 (serial.get 2).toNat ++
    hexDigits 2 (serial.get 1).toNat ++ hexDigits 2 (serial.get 0).toNat)

section
variable (π : Equiv.Perm (Vector UInt8 4))

/-- A device with another serial number. -/
def renameDevice (device : DeviceDiscovery) : DeviceDiscovery :=
  { device with serialNumber := π device.serialNumber }

/-- A word of a text and what becomes of it: the uids of DIMMs and the serial numbers are renamed. -/
inductive RenamedToken : List Char → List Char → Prop
  /-- The uid of a DIMM. -/
  | uid (device : DeviceDiscovery) : RenamedToken device.uid (renameDevice π device).uid
  /-- A serial number. -/
  | serial (serial : Vector UInt8 4) :
    RenamedToken (serialNumberToString serial) (serialNumberToString (π serial))
  /-- Another word. -/
  | other (token : List Char) (huid : ∀ device : DeviceDiscovery, token ≠ device.uid)
    (hserial : ∀ serial, token ≠ serialNumberToString serial) : RenamedToken token token

/-- The words of a text are renamed, and what is between them stays. -/
structure RenamedText (text text' : List Char) : Prop where
  /-- The words. -/
  words : List.Forall₂ (RenamedToken π) (text.splitOnP isDelimiter) (text'.splitOnP isDelimiter)
  /-- The delimiters. -/
  delimiters : text.filter isDelimiter = text'.filter isDelimiter

/-- An argument is renamed if it names DIMMs. -/
def RenamedArg (argType : EventArgType) (arg arg' : List Char) : Prop :=
  if argType = .other then arg = arg' else RenamedText π arg arg'

/-- A row of the event table is renamed. -/
structure RenamedRow (row row' : DbEvent) : Prop where
  /-- The fields that name nothing. -/
  same : row' = { row with uid := row'.uid, arg1 := row'.arg1, arg2 := row'.arg2, arg3 := row'.arg3 }
  /-- The uid. -/
  uid : if (getEventFieldMetadata row.type row.code).uidType = .device
    then RenamedText π row.uid row'.uid else row.uid = row'.uid
  /-- The first argument. -/
  arg1 : RenamedArg π (getEventFieldMetadata row.type row.code).arg1Type row.arg1 row'.arg1
  /-- The second argument. -/
  arg2 : RenamedArg π (getEventFieldMetadata row.type row.code).arg2Type row.arg2 row'.arg2
  /-- The third argument. -/
  arg3 : RenamedArg π (getEventFieldMetadata row.type row.code).arg3Type row.arg3 row'.arg3

end

/-- A text in an array of `size` characters. -/
structure IsText (size : ℕ) (text : List Char) : Prop where
  /-- The text and its terminator fit. -/
  length : text.length < size
  /-- The text ends at its terminator. -/
  zero : '\x00' ∉ text

/-- The texts of a row are those of a `struct db_event`. -/
structure DbEvent.HasTexts (row : DbEvent) : Prop where
  /-- The uid. -/
  uid : IsText eventUidLen row.uid
  /-- The first argument. -/
  arg1 : IsText nvmEventArgLen row.arg1
  /-- The second argument. -/
  arg2 : IsText nvmEventArgLen row.arg2
  /-- The third argument. -/
  arg3 : IsText nvmEventArgLen row.arg3

/-- The arguments that are neither cleared nor obfuscated are the same: the list of uids of
`EVENT_CODE_DIAG_FW_INCONSISTENT`, and the serial number of
`EVENT_CODE_DIAG_PCONFIG_DUPLICATE_SERIAL_NUMBERS`. -/
structure Alike (row row' : DbEvent) : Prop where
  /-- The list of uids. -/
  uidList : row.type = eventTypeDiagFwConsistency → row.code = 802 → row.arg1 = row'.arg1
  /-- The serial number. -/
  serialNumber : row.type = eventTypeDiagPlatformConfig → row.code = 608 → row.arg2 = row'.arg2

/-! ### The uid of a DIMM -/

/-- The characters of a uid are digits and dashes. -/
private theorem mem_uid {device : DeviceDiscovery} {c : Char} (h : c ∈ device.uid) :
    c = '-' ∨ ∃ v : Fin 16, c = hexDigit v := by
  have hdigits : ∀ n v, c ∈ hexDigits n v → ∃ v : Fin 16, c = hexDigit v := by
    intro n
    induction n with
    | zero => exact fun v hc => absurd hc List.not_mem_nil
    | succ n ih =>
      intro v hc
      rw [hexDigits, List.mem_append, List.mem_singleton] at hc
      rcases hc with hc | hc
      · exact ih _ hc
      · exact ⟨⟨v % 16, Nat.mod_lt v (by decide)⟩, hc⟩
  rw [DeviceDiscovery.uid] at h
  split_ifs at h
  · simp only [calculateUidWithValidManufacturingInfo, List.mem_append, List.mem_cons] at h
    rcases h with (((((((h | h | h) | h | h) | h | h) | h) | h) | h)) <;>
      first | exact Or.inl h | exact Or.inr (hdigits _ _ h)
  · simp only [calculateUidWithoutManufacturingInfo, List.mem_append, List.mem_cons] at h
    rcases h with ((((h | h | h) | h) | h) | h) <;>
      first | exact Or.inl h | exact Or.inr (hdigits _ _ h)

/-- A uid is a text. -/
private theorem isText_uid (device : DeviceDiscovery) : IsText nvmEventArgLen device.uid where
  length := device.length_uid_lt.trans (by decide)
  zero := by
    intro hmem
    rcases mem_uid hmem with h | ⟨v, h⟩
    · exact absurd h (by decide)
    · clear hmem
      revert v
      decide

/-- A uid is one word. -/
private theorem uid_no_delimiter (device : DeviceDiscovery) :
    ∀ c ∈ device.uid, isDelimiter c = false := by
  intro c hmem
  rcases mem_uid hmem with rfl | ⟨v, rfl⟩
  · rfl
  · clear hmem
    revert v
    decide

/-- The text of a serial number is no uid. -/
private theorem serialNumberToString_ne_uid (serial : Vector UInt8 4) (device : DeviceDiscovery) :
    serialNumberToString serial ≠ device.uid := by
  intro h
  have hlength := device.length_scanUid_uid
  rw [← h] at hlength
  have hscan : scanUid deviceUidFormatWithManufacturing (serialNumberToString serial) = [] := rfl
  rw [hscan] at hlength
  split_ifs at hlength

/-- A text without a zero byte is a C string. -/
private theorem cString_of_notMem {text : List Char} (h : '\x00' ∉ text) : cString text = text := by
  refine List.takeWhile_eq_self_iff.mpr fun c hc => ?_
  rw [decide_eq_true_eq]
  rintro rfl
  exact h hc

/-- A word is the uid of a device exactly when it is found as such. -/
private theorem uidCmp_sStrcpy {token : List Char} (hzero : '\x00' ∉ token)
    (device : DeviceDiscovery) :
    uidCmp (sStrcpy token nvmMaxUidLen) device.uid = true ↔ token = device.uid := by
  have hkey : (cString (sStrcpy token nvmMaxUidLen)).take commonUidLen = token.take 36 := by
    rw [sStrcpy, cString_of_notMem hzero,
      cString_of_notMem fun h => hzero (List.mem_of_mem_take h), List.take_take]
    rfl
  have hlt := device.length_uid_lt
  rw [uidCmp, hkey, device.uidKey_uid, beq_iff_eq]
  constructor
  · intro h
    rw [← h]
    refine (List.take_of_length_le (not_lt.mp fun hlong => ?_)).symm
    rw [← h, List.length_take] at hlt
    omega
  · rintro rfl
    exact List.take_of_length_le (by omega)

section
variable {π : Equiv.Perm (Vector UInt8 4)}

/-- Renaming keeps the difference of two uids. -/
private theorem uid_renameDevice_iff {device device' : DeviceDiscovery} :
    (renameDevice π device).uid = (renameDevice π device').uid ↔ device.uid = device'.uid := by
  have hcongr : ∀ {d d' : DeviceDiscovery}, d.vendorId = d'.vendorId →
      d.manufacturingInfoValid = d'.manufacturingInfoValid →
      (d.manufacturingInfoValid = true → d.manufacturingLocation = d'.manufacturingLocation ∧
        d.manufacturingDate = d'.manufacturingDate) →
      d.serialNumber = d'.serialNumber → d.uid = d'.uid := by
    intro d d' hvendor hvalid hmanufacturing hserial
    rw [DeviceDiscovery.uid, DeviceDiscovery.uid, ← hvalid, hvendor, hserial]
    by_cases h : d.manufacturingInfoValid = true
    · rw [if_pos h, if_pos h, (hmanufacturing h).1, (hmanufacturing h).2]
    · rw [if_neg h, if_neg h]
  constructor
  · intro h
    obtain ⟨hvendor, hvalid, hmanufacturing, hserial⟩ := DeviceDiscovery.uid_inj h
    exact hcongr hvendor hvalid hmanufacturing (π.injective hserial)
  · intro h
    obtain ⟨hvendor, hvalid, hmanufacturing, hserial⟩ := DeviceDiscovery.uid_inj h
    exact hcongr hvendor hvalid hmanufacturing (congrArg π hserial)

/-- A renamed word is the uid of a renamed device exactly when the word is that of the device. -/
private theorem RenamedToken.eq_uid_iff {token token' : List Char} (h : RenamedToken π token token')
    (device : DeviceDiscovery) : token' = (renameDevice π device).uid ↔ token = device.uid := by
  cases h with
  | uid d => exact uid_renameDevice_iff
  | serial s =>
    exact iff_of_false (serialNumberToString_ne_uid _ _) (serialNumberToString_ne_uid _ _)
  | other _ huid _ => exact iff_of_false (huid _) (huid _)

/-- A renamed word is obfuscated in the same way. -/
private theorem generateObfuscatedDimmUid_renamed {token token' : List Char}
    (h : RenamedToken π token token') (hzero : '\x00' ∉ token) (hzero' : '\x00' ∉ token')
    (devices : Option (List DeviceDiscovery)) :
    generateObfuscatedDimmUid (devices.map (List.map (renameDevice π)))
        (sStrcpy token' nvmMaxUidLen) =
      generateObfuscatedDimmUid devices (sStrcpy token nvmMaxUidLen) := by
  cases devices with
  | none => rfl
  | some devices =>
    have htest : ((fun device => uidCmp (sStrcpy token' nvmMaxUidLen) device.uid) ∘
        renameDevice π) = fun device => uidCmp (sStrcpy token nvmMaxUidLen) device.uid := by
      funext device
      rw [Function.comp_apply, Bool.eq_iff_iff, uidCmp_sStrcpy hzero', uidCmp_sStrcpy hzero,
        h.eq_uid_iff]
    simp only [generateObfuscatedDimmUid, Option.map_some, Option.bind_some, lookupDevUid,
      List.find?_map, htest]
    cases devices.find? fun device => uidCmp (sStrcpy token nvmMaxUidLen) device.uid with
    | none => rfl
    | some device => rfl

/-! ### Texts -/

/-- The words of a text have its characters. -/
private theorem mem_of_mem_splitOnP {p : Char → Bool} {text word : List Char}
    (h : word ∈ text.splitOnP p) {c : Char} (hc : c ∈ word) : c ∈ text := by
  induction text generalizing word with
  | nil =>
    rw [List.splitOnP_nil, List.mem_singleton] at h
    rw [h] at hc
    cases hc
  | cons a text ih =>
    rw [List.splitOnP_cons_eq_if_modifyHead] at h
    split_ifs at h with ha
    · rcases List.mem_cons.mp h with rfl | hmem
      · cases hc
      · exact List.mem_cons_of_mem a (ih hmem hc)
    · cases hsplit : text.splitOnP p with
      | nil => exact absurd hsplit (List.splitOnP_ne_nil p text)
      | cons first rest =>
        rw [hsplit] at h
        rcases List.mem_cons.mp h with rfl | hmem
        · rcases List.mem_cons.mp hc with rfl | hrest
          · exact List.mem_cons_self
          · exact List.mem_cons_of_mem a (ih (by rw [hsplit]; exact List.mem_cons_self) hrest)
        · exact List.mem_cons_of_mem a
            (ih (by rw [hsplit]; exact List.mem_cons_of_mem first hmem) hc)

/-- The words that `strtok` finds are renamed. -/
private theorem forall₂_filter_words {words words' : List (List Char)}
    (h : List.Forall₂ (RenamedToken π) words words') :
    List.Forall₂ (RenamedToken π) (words.filter fun token => token ≠ [])
      (words'.filter fun token => token ≠ []) := by
  induction h with
  | nil => exact List.Forall₂.nil
  | @cons token token' words words' htoken _ ih =>
    have hiff : token = [] ↔ token' = [] := by
      cases htoken with
      | uid device =>
        exact iff_of_false device.uid_ne_nil (renameDevice π device).uid_ne_nil
      | serial s => exact iff_of_false (List.cons_ne_nil _ _) (List.cons_ne_nil _ _)
      | other => exact Iff.rfl
    rw [List.filter_cons, List.filter_cons]
    by_cases hnil : token = []
    · rw [if_neg (by simpa using hnil), if_neg (by simpa using hiff.mp hnil)]
      exact ih
    · rw [if_pos (by simpa using hnil), if_pos (by simpa using fun h => hnil (hiff.mpr h))]
      exact List.Forall₂.cons htoken ih

/-- Renamed words give the same list of obfuscated uids. -/
private theorem obfuscatedListLoop_renamed {tokens tokens' : List (List Char)}
    (h : List.Forall₂ (RenamedToken π) tokens tokens') (hzero : ∀ t ∈ tokens, '\x00' ∉ t)
    (hzero' : ∀ t ∈ tokens', '\x00' ∉ t) (devices : Option (List DeviceDiscovery)) (size : ℕ)
    (list : List Char) (count : ℕ) :
    obfuscatedListLoop (devices.map (List.map (renameDevice π))) size tokens' list count =
      obfuscatedListLoop devices size tokens list count := by
  induction h generalizing list count with
  | nil => rfl
  | @cons token token' tokens tokens' htoken _ ih =>
    rw [List.forall_mem_cons] at hzero hzero'
    rw [obfuscatedListLoop, obfuscatedListLoop,
      generateObfuscatedDimmUid_renamed htoken hzero.1 hzero'.1]
    exact ih hzero.2 hzero'.2 _ _

/-- A text is copied as it is. -/
private theorem sStrcpy_of_isText {text : List Char} (h : IsText nvmEventArgLen text) :
    sStrcpy text nvmEventArgLen = text := by
  have hlength := h.length
  rw [sStrcpy, cString_of_notMem h.zero, List.take_of_length_le (by omega)]

/-- A renamed text is obfuscated in the same way. -/
private theorem replaceDimmUids_renamed {text text' : List Char} (h : RenamedText π text text')
    (htext : IsText nvmEventArgLen text) (htext' : IsText nvmEventArgLen text')
    (devices : Option (List DeviceDiscovery)) (size : ℕ) :
    replaceDimmUidsWithObfuscatedUids (devices.map (List.map (renameDevice π))) text' size =
      replaceDimmUidsWithObfuscatedUids devices text size := by
  have hwords : ∀ {text : List Char}, IsText nvmEventArgLen text →
      ∀ t ∈ strtokTokens text, '\x00' ∉ t := fun ht t hmem hc =>
    ht.zero (mem_of_mem_splitOnP (List.mem_of_mem_filter hmem) hc)
  rw [replaceDimmUidsWithObfuscatedUids, replaceDimmUidsWithObfuscatedUids,
    buildObfuscatedDimmUidListFromRealUidList, buildObfuscatedDimmUidListFromRealUidList,
    sStrcpy_of_isText htext, sStrcpy_of_isText htext', sStrcpy_of_isText htext,
    sStrcpy_of_isText htext']
  exact obfuscatedListLoop_renamed (forall₂_filter_words h.words) (hwords htext) (hwords htext')
    devices size [] 0

end

/-- The uid of a device is renamed with the device. -/
private theorem renamedText_uid (π : Equiv.Perm (Vector UInt8 4)) (device : DeviceDiscovery) :
    RenamedText π device.uid (renameDevice π device).uid where
  words := by
    rw [List.splitOnP_eq_singleton (uid_no_delimiter device),
      List.splitOnP_eq_singleton (uid_no_delimiter (renameDevice π device))]
    exact List.Forall₂.cons (RenamedToken.uid device) List.Forall₂.nil
  delimiters := by
    have hnone : ∀ d : DeviceDiscovery, d.uid.filter isDelimiter = [] := fun d =>
      List.filter_eq_nil_iff.mpr fun c hc => by
        rw [uid_no_delimiter d c hc]
        exact Bool.false_ne_true
    rw [hnone, hnone]

/-! ### Events -/

/-- What the entries of the metadata table hold: uids are looked for where an event has one, and the
arguments that name DIMMs in other events are those of three kinds of events. -/
private theorem metadata_cases (type code : UInt32) :
    let metadata := getEventFieldMetadata type code
    (metadata.containsDeviceUid = true ∧ metadata.includesArgType .serialNum = false) ∨
      (metadata.containsDeviceUid = false ∧ metadata.uidType ≠ .device ∧
        metadata.arg3Type = .other ∧
        ((metadata.arg1Type = .other ∧ metadata.arg2Type = .other) ∨
          (metadata.arg1Type = .deviceUidList ∧ metadata.arg2Type = .other ∧
            type = eventTypeDiagFwConsistency ∧ code = 802) ∨
          (metadata.arg1Type = .other ∧ metadata.arg2Type = .serialNum ∧
            type = eventTypeDiagPlatformConfig ∧ (code = 607 ∨ code = 608)))) := by
  have hall : ∀ m ∈ eventFieldMetadataTable,
      (m.containsDeviceUid = true ∧ m.includesArgType .serialNum = false) ∨
        (m.containsDeviceUid = false ∧ m.uidType ≠ .device ∧ m.arg3Type = .other ∧
          ((m.arg1Type = .other ∧ m.arg2Type = .other) ∨
            (m.arg1Type = .deviceUidList ∧ m.arg2Type = .other ∧
              m.eventType = eventTypeDiagFwConsistency ∧ m.eventCode = 802) ∨
            (m.arg1Type = .other ∧ m.arg2Type = .serialNum ∧
              m.eventType = eventTypeDiagPlatformConfig ∧
                (m.eventCode = 607 ∨ m.eventCode = 608)))) := by
    decide +kernel
  dsimp only
  rcases getEventFieldMetadata_cases type code with ⟨hmem, htype, hcode⟩ | hend
  · have hentry := hall _ hmem
    rw [htype, hcode] at hentry
    exact hentry
  · rw [hend]
    exact Or.inr ⟨rfl, by decide, rfl, Or.inl ⟨rfl, rfl⟩⟩

/-- A renamed argument of an event with the uid of a DIMM is obfuscated in the same way. -/
private theorem obfuscateArg_renamed {π : Equiv.Perm (Vector UInt8 4)} {argType : EventArgType}
    {arg arg' : List Char} (h : RenamedArg π argType arg arg') (hserial : argType ≠ .serialNum)
    (harg : IsText nvmEventArgLen arg) (harg' : IsText nvmEventArgLen arg')
    (devices : Option (List DeviceDiscovery)) (argLen : ℕ) :
    obfuscateDimmUidsInEventArg (devices.map (List.map (renameDevice π))) argType arg' argLen =
      obfuscateDimmUidsInEventArg devices argType arg argLen := by
  cases argType with
  | other => exact Eq.symm h
  | deviceUid => exact replaceDimmUids_renamed h harg harg' devices argLen
  | deviceUidList => exact replaceDimmUids_renamed h harg harg' devices argLen
  | serialNum => exact absurd rfl hserial

/-- A row that is neither cleared nor obfuscated. -/
private theorem clearedRow_of_ne {row : DbEvent}
    (h : ¬ (row.type = eventTypeDiagPlatformConfig ∧ row.code = 607)) : clearedRow row = row :=
  if_neg h

/-- What becomes of a row and of the renamed row is the same when the arguments that stay are. -/
private theorem filteredRow_renamed {π : Equiv.Perm (Vector UInt8 4)} {row row' : DbEvent}
    (h : RenamedRow π row row') (hrow : row.HasTexts) (hrow' : row'.HasTexts)
    (devices : Option (List DeviceDiscovery)) :
    obfuscatedRow (devices.map (List.map (renameDevice π))) (clearedRow row') =
        obfuscatedRow devices (clearedRow row) ↔ Alike row row' := by
  obtain ⟨hsame, huid, harg1, harg2, harg3⟩ := h
  obtain ⟨tuid, targ1, targ2, targ3⟩ := hrow
  obtain ⟨tuid', targ1', targ2', targ3'⟩ := hrow'
  generalize row'.uid = uid' at hsame huid tuid'
  generalize row'.arg1 = arg1' at hsame harg1 targ1'
  generalize row'.arg2 = arg2' at hsame harg2 targ2'
  generalize row'.arg3 = arg3' at hsame harg3 targ3'
  subst hsame
  have hlist := metadata_cases row.type row.code
  have hbroken := getEventFieldMetadata_brokenIset
  generalize hm : getEventFieldMetadata row.type row.code = m at huid harg1 harg2 harg3 hlist
  have huidText : ∀ {text : List Char}, IsText eventUidLen text → IsText nvmEventArgLen text :=
    fun ht => ⟨ht.length.trans (by decide), ht.zero⟩
  have hobf : ∀ (devices : Option (List DeviceDiscovery)) (r : DbEvent), r.type = row.type →
      r.code = row.code → obfuscatedRow devices r =
        if m.containsDeviceUid then obfuscateDimmUidInDbEvent devices m r else r := by
    intro devices r htype hcode
    rw [obfuscatedRow, htype, hcode, hm]
  dsimp only at hlist
  rcases hlist with ⟨hcontains, hserial⟩ | ⟨hcontains, hdevice, h3, hkinds⟩
  · -- the event has the uid of a DIMM: everything that names DIMMs is obfuscated
    have hne : ¬ (row.type = eventTypeDiagPlatformConfig ∧ row.code = 607) := by
      rintro ⟨htype, hcode⟩
      rw [htype, hcode, hbroken] at hm
      rw [← hm] at hserial
      cases hserial
    have hargs : m.arg1Type ≠ .serialNum ∧ m.arg2Type ≠ .serialNum ∧ m.arg3Type ≠ .serialNum := by
      rw [EventFieldMetadata.includesArgType, decide_eq_false_iff_not] at hserial
      tauto
    have hequid : obfuscateDimmUidInEventUid (devices.map (List.map (renameDevice π))) m.uidType
        uid' eventUidLen = obfuscateDimmUidInEventUid devices m.uidType row.uid eventUidLen := by
      rw [obfuscateDimmUidInEventUid, obfuscateDimmUidInEventUid]
      by_cases hdevice : m.uidType = .device
      · rw [if_pos hdevice] at huid
        rw [if_pos hdevice, if_pos hdevice]
        exact replaceDimmUids_renamed huid (huidText tuid) (huidText tuid') devices eventUidLen
      · rw [if_neg hdevice] at huid
        rw [if_neg hdevice, if_neg hdevice, huid]
    have hcleared : ∀ r : DbEvent, r.type = row.type → r.code = row.code → clearedRow r = r := by
      intro r htype hcode
      refine clearedRow_of_ne ?_
      rw [htype, hcode]
      exact hne
    refine iff_of_true ?_ ⟨fun htype hcode => ?_, fun htype hcode => ?_⟩
    · rw [hcleared row rfl rfl, hobf devices row rfl rfl, if_pos hcontains,
        hcleared { row with uid := uid', arg1 := arg1', arg2 := arg2', arg3 := arg3' } rfl rfl,
        hobf _ { row with uid := uid', arg1 := arg1', arg2 := arg2', arg3 := arg3' } rfl rfl,
        if_pos hcontains]
      simp only [obfuscateDimmUidInDbEvent]
      rw [hequid, obfuscateArg_renamed harg1 hargs.1 targ1 targ1',
        obfuscateArg_renamed harg2 hargs.2.1 targ2 targ2',
        obfuscateArg_renamed harg3 hargs.2.2 targ3 targ3']
    · rw [htype, hcode] at hm
      rw [← hm] at hcontains
      exact absurd hcontains (by decide +kernel)
    · rw [htype, hcode] at hm
      rw [← hm] at hcontains
      exact absurd hcontains (by decide +kernel)
  · -- the event is not looked at: what it names is cleared or stays
    rw [if_neg hdevice] at huid
    rw [h3, RenamedArg, if_pos rfl] at harg3
    subst huid harg3
    have hstay : ∀ (devices : Option (List DeviceDiscovery)) (r : DbEvent), r.type = row.type →
        r.code = row.code → obfuscatedRow devices r = r := by
      intro devices r htype hcode
      rw [hobf devices r htype hcode, if_neg (by rw [hcontains]; exact Bool.false_ne_true)]
    rcases hkinds with ⟨h1, h2⟩ | ⟨h1, h2, htype, hcode⟩ | ⟨h1, h2, htype, hcode⟩
    · rw [h1, RenamedArg, if_pos rfl] at harg1
      rw [h2, RenamedArg, if_pos rfl] at harg2
      subst harg1 harg2
      refine iff_of_true ?_ ⟨fun _ _ => rfl, fun _ _ => rfl⟩
      have hkept : ∀ (devices : Option (List DeviceDiscovery)), obfuscatedRow devices
          (clearedRow row) = clearedRow row := fun devices => by
        rw [clearedRow]
        split_ifs
        · exact hstay devices _ rfl rfl
        · exact hstay devices _ rfl rfl
      rw [hkept, hkept]
    · rw [h2, RenamedArg, if_pos rfl] at harg2
      subst harg2
      have hne : ∀ r : DbEvent, r.type = row.type → clearedRow r = r := by
        intro r hr
        refine clearedRow_of_ne fun hboth => ?_
        rw [hr, htype] at hboth
        exact absurd hboth.1 (by decide)
      rw [hne row rfl, hne { row with arg1 := arg1' } rfl, hstay _ row rfl rfl,
        hstay _ { row with arg1 := arg1' } rfl rfl]
      constructor
      · intro heq
        refine ⟨fun _ _ => (congrArg DbEvent.arg1 heq).symm, fun _ _ => rfl⟩
      · intro halike
        have heq : row.arg1 = arg1' := halike.uidList htype hcode
        rw [← heq]
    · rw [h1, RenamedArg, if_pos rfl] at harg1
      subst harg1
      rcases hcode with hcode | hcode
      · have heq : clearedRow { row with arg2 := arg2' } = clearedRow row := by
          rw [clearedRow, clearedRow, if_pos ⟨htype, hcode⟩, if_pos ⟨htype, hcode⟩]
        have hkept : ∀ (devices : Option (List DeviceDiscovery)), obfuscatedRow devices
            (clearedRow row) = clearedRow row := fun devices => by
          rw [clearedRow, if_pos ⟨htype, hcode⟩]
          exact hstay devices _ rfl rfl
        refine iff_of_true ?_ ⟨fun _ _ => rfl, fun _ hother => ?_⟩
        · rw [heq, hkept, hkept]
        · rw [hcode] at hother
          exact absurd hother (by decide)
      · have hne : ∀ r : DbEvent, r.code = row.code → clearedRow r = r := by
          intro r hr
          refine clearedRow_of_ne fun hboth => ?_
          rw [hr, hcode] at hboth
          exact absurd hboth.2 (by decide)
        rw [hne row rfl, hne { row with arg2 := arg2' } rfl, hstay _ row rfl rfl,
          hstay _ { row with arg2 := arg2' } rfl rfl]
        constructor
        · intro heq
          refine ⟨fun _ _ => rfl, fun _ _ => (congrArg DbEvent.arg2 heq).symm⟩
        · intro halike
          have heq : row.arg2 = arg2' := halike.serialNumber htype hcode
          rw [← heq]

/-! ### The tables -/

/-- The filtered tables of two databases and inventories that are equal up to a renaming of the
serial numbers are equal exactly when the lists of uids and the serial numbers that the filter leaves
are the same. -/
theorem filtersAlike_iff (π : Equiv.Perm (Vector UInt8 4)) (devices : Option (List DeviceDiscovery))
    (table table' : EventTable) (hrows : List.Forall₂ (RenamedRow π) table.rows table'.rows)
    (htexts : ∀ row ∈ table.rows, row.HasTexts) (htexts' : ∀ row ∈ table'.rows, row.HasTexts) :
    (supportFilterSerialNums (devices.map (List.map (renameDevice π))) table').rows =
        (supportFilterSerialNums devices table).rows ↔
      List.Forall₂ Alike table.rows table'.rows := by
  rw [rows_supportFilterSerialNums, rows_supportFilterSerialNums, eq_comm, ← List.forall₂_eq_eq_eq,
    List.forall₂_map_left_iff, List.forall₂_map_right_iff]
  generalize table.rows = rows at hrows htexts
  generalize table'.rows = rows' at hrows htexts'
  induction hrows with
  | nil => exact iff_of_true List.Forall₂.nil List.Forall₂.nil
  | @cons row row' rows rows' hrow _ ih =>
    rw [List.forall_mem_cons] at htexts htexts'
    rw [List.forall₂_cons, List.forall₂_cons, ih htexts.2 htexts'.2, eq_comm,
      filteredRow_renamed hrow htexts.1 htexts'.1]

/-- A renaming of two serial numbers. -/
private def swapSerials : Equiv.Perm (Vector UInt8 4) :=
  Equiv.swap (smallSerial 1) (smallSerial 2)

/-- A device with the first of them. -/
private def firstDevice : DeviceDiscovery :=
  { deviceHandle := 1, vendorId := 0x8980, serialNumber := smallSerial 1 }

/-- An event with the uid of a device in the first argument. -/
private def uidEvent (type code : UInt32) (uid : Uid) : DbEvent where
  id := 1
  type := type
  severity := 0
  code := code
  actionRequired := 0
  uid := []
  time := 0
  arg1 := uid
  arg2 := []
  arg3 := []
  diagResult := 0

/-- A table with one event. -/
private def eventRowOf (type code : UInt32) (uid : Uid) : EventTable where
  rows := [uidEvent type code uid]
  seq := 1
  ascending := List.pairwise_singleton _ _
  given := by
    intro row hrow
    rw [List.mem_singleton.mp hrow]
    exact ⟨Nat.one_pos, le_rfl⟩

/-- The empty text stays. -/
private theorem renamedText_nil : RenamedText swapSerials [] [] where
  words := by
    rw [List.splitOnP_nil]
    refine List.Forall₂.cons (RenamedToken.other [] (fun device => ?_) fun serial => ?_)
      List.Forall₂.nil
    · exact fun h => device.uid_ne_nil h.symm
    · exact fun h => List.cons_ne_nil _ _ h.symm
  delimiters := rfl

/-- The events with the uid of the device and of the renamed device, where the first argument holds
uids. -/
private theorem renamedRow_uidEvent {type code : UInt32}
    (h : (getEventFieldMetadata type code).arg1Type ≠ .other) :
    RenamedRow swapSerials (uidEvent type code firstDevice.uid)
      (uidEvent type code (renameDevice swapSerials firstDevice).uid) where
  same := rfl
  uid := by
    split_ifs
    · exact renamedText_nil
    · rfl
  arg1 := by
    refine (if_neg h).mpr ?_
    exact renamedText_uid swapSerials firstDevice
  arg2 := by
    rw [RenamedArg]
    split_ifs
    · rfl
    · exact renamedText_nil
  arg3 := by
    rw [RenamedArg]
    split_ifs
    · rfl
    · exact renamedText_nil

/-- The texts of these events fit. -/
private theorem hasTexts_uidEvent (type code : UInt32) {uid : Uid} (h : IsText nvmEventArgLen uid) :
    (uidEvent type code uid).HasTexts where
  uid := ⟨Nat.zero_lt_succ _, List.not_mem_nil⟩
  arg1 := h
  arg2 := ⟨Nat.zero_lt_succ _, List.not_mem_nil⟩
  arg3 := ⟨Nat.zero_lt_succ _, List.not_mem_nil⟩

/-- The event for an applied goal, with the uid of the device, and with that of the renamed device. -/
theorem filtersAlike_goalApplied :
    (supportFilterSerialNums (some [renameDevice swapSerials firstDevice])
        (eventRowOf eventTypeConfig 100 (renameDevice swapSerials firstDevice).uid)).rows =
      (supportFilterSerialNums (some [firstDevice])
        (eventRowOf eventTypeConfig 100 firstDevice.uid)).rows := by
  refine (filtersAlike_iff swapSerials (some [firstDevice])
    (eventRowOf eventTypeConfig 100 firstDevice.uid)
    (eventRowOf eventTypeConfig 100 (renameDevice swapSerials firstDevice).uid)
    (List.Forall₂.cons (renamedRow_uidEvent (by decide +kernel)) List.Forall₂.nil) ?_ ?_).mpr ?_
  · exact List.forall_mem_singleton.mpr (hasTexts_uidEvent _ _ (isText_uid firstDevice))
  · exact List.forall_mem_singleton.mpr
      (hasTexts_uidEvent _ _ (isText_uid (renameDevice swapSerials firstDevice)))
  · refine List.Forall₂.cons ⟨fun h => ?_, fun h => ?_⟩ List.Forall₂.nil
    · exact absurd h (by decide)
    · exact absurd h (by decide)

/-- The event for inconsistent firmware keeps its list of uids. -/
theorem not_filtersAlike_fwInconsistent :
    ¬ ∀ (π : Equiv.Perm (Vector UInt8 4)) (devices : Option (List DeviceDiscovery))
      (table table' : EventTable), List.Forall₂ (RenamedRow π) table.rows table'.rows →
      (∀ row ∈ table.rows, row.HasTexts) → (∀ row ∈ table'.rows, row.HasTexts) →
      (supportFilterSerialNums (devices.map (List.map (renameDevice π))) table').rows =
        (supportFilterSerialNums devices table).rows := by
  intro h
  have hrow := renamedRow_uidEvent (by decide +kernel :
    (getEventFieldMetadata eventTypeDiagFwConsistency 802).arg1Type ≠ .other)
  have htexts := hasTexts_uidEvent eventTypeDiagFwConsistency 802 (isText_uid firstDevice)
  have htexts' := hasTexts_uidEvent eventTypeDiagFwConsistency 802
    (isText_uid (renameDevice swapSerials firstDevice))
  have heq := h swapSerials (some [firstDevice])
    (eventRowOf eventTypeDiagFwConsistency 802 firstDevice.uid)
    (eventRowOf eventTypeDiagFwConsistency 802 (renameDevice swapSerials firstDevice).uid)
    (List.Forall₂.cons hrow List.Forall₂.nil) (List.forall_mem_singleton.mpr htexts)
    (List.forall_mem_singleton.mpr htexts')
  rw [rows_supportFilterSerialNums, rows_supportFilterSerialNums] at heq
  have halike := (filteredRow_renamed hrow htexts htexts' (some [firstDevice])).mp
    (List.cons.inj heq).1
  have huid : firstDevice.uid = (renameDevice swapSerials firstDevice).uid :=
    halike.uidList rfl rfl
  have hserial := (DeviceDiscovery.uid_inj huid).2.2.2
  rw [renameDevice, swapSerials, firstDevice, Equiv.swap_apply_left] at hserial
  exact absurd hserial (by decide)

end IxpDimm.EventLog
