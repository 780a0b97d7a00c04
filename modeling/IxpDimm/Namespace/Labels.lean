import IxpDimm.Device.Inventory
import IxpDimm.Foundation.FirstMatch

/-!
# Namespace labels

`namespace_labels.c`: the label storage area of a DIMM has two index blocks of 256 bytes and the
slots of the labels.  The labels of all DIMMs are read one after another, and put together into a list
of namespaces by their unique ids.

The structures of `fis_commands.h` are bytes from a base address with the places of their fields.
Memory for the list can be allocated.
-/

namespace IxpDimm

open Foundation

/-! ### Checksums -/

/-- A 32-bit word of the data; the two words of the checksum count as zero. -/
def fletcherWord (m : Bytes) (checksum i : ℕ) : UInt32 :=
  if 4 * i = checksum ∨ 4 * i = checksum + 4 then 0 else UInt32.ofNat (readLE m (4 * i) 4)

/-- The loop of `checksum_fletcher64`, on `lo32` and `hi32`. -/
def fletcherSums (m : Bytes) (checksum : ℕ) : ℕ → UInt32 × UInt32
  | 0 => (0, 0)
  | n + 1 =>
    let lo32 := (fletcherSums m checksum n).1 + fletcherWord m checksum n
    (lo32, (fletcherSums m checksum n).2 + lo32)

/-- `checksum_fletcher64`: the checksum of aligned data of a length that is a multiple of four, with
the place of the checksum in it. -/
def checksumFletcher64 (m : Bytes) (length checksum : ℕ) : ℕ :=
  2 ^ 32 * (fletcherSums m checksum (length / 4)).2.toNat +
    (fletcherSums m checksum (length / 4)).1.toNat

/-! ### Identifiers -/

/-- The format of `guid_to_str`. -/
def guidFormat : List UidDirective :=
  [.byte, .byte, .byte, .byte, .dash, .byte, .byte, .dash, .byte, .byte, .dash, .byte, .byte, .dash,
    .byte, .byte, .byte, .byte, .byte, .byte]

/-- The 16 bytes of an identifier. -/
def guidAt (m : Bytes) (a : ℕ) : List UInt8 := (List.range 16).map fun i => m (a + i)

/-- `guid_to_uid`. -/
def guidToUid (guid : List UInt8) : Uid := printUid guidFormat guid

/-- Two identifiers have the same text exactly if they are the same. -/
theorem uidCmp_guidToUid {guid guid' : List UInt8} (h : guid.length = 16) (h' : guid'.length = 16) :
    uidCmp (guidToUid guid) (guidToUid guid') = true ↔ guid = guid' := by
  have hkey : ∀ g, uidKey (guidToUid g) = guidToUid g := uidKey_printUid (by decide)
  have hread : ∀ g : List UInt8, g.length = 16 → scanUid guidFormat (guidToUid g) = g :=
    fun g hg => scanUid_printUid guidFormat g hg
  rw [uidCmp_iff, hkey, hkey]
  constructor
  · intro htext
    rw [← hread guid h, ← hread guid' h', htext]
  · rintro rfl
    rfl

/-! ### Labels -/

/-- `sizeof (struct pt_output_ns_label)`. -/
def nsLabelSize : ℕ := 124

/-- `sizeof (struct pt_output_ns_label_v1_1)`. -/
def nsLabelV11Size : ℕ := 128

/-- `sizeof (struct pt_output_ns_label_v1_2)`. -/
def nsLabelV12Size : ℕ := 256

/-- The place of `checksum` in a label of version 1.2. -/
def labelChecksum : ℕ := 248

/-- `uuid`. -/
def labelUuid (label : Bytes) : List UInt8 := guidAt label 0

/-- `name`, as `s_strcpy` copies it. -/
def labelName (label : Bytes) : List UInt8 :=
  ((List.range 63).map fun i => label (16 + i)).takeWhile (· ≠ 0)

/-- `flags`. -/
def labelFlags (label : Bytes) : UInt32 := UInt32.ofNat (readLE label 80 4)

/-- `nlabel`. -/
def labelNlabel (label : Bytes) : UInt16 := UInt16.ofNat (readLE label 84 2)

/-- `position`. -/
def labelPosition (label : Bytes) : UInt16 := UInt16.ofNat (readLE label 86 2)

/-- `iset_cookie`. -/
def labelIsetCookie (label : Bytes) : UInt64 := UInt64.ofNat (readLE label 88 8)

/-- `lba_size`. -/
def labelLbaSize (label : Bytes) : UInt64 := UInt64.ofNat (readLE label 96 8)

/-- `rawsize`. -/
def labelRawsize (label : Bytes) : UInt64 := UInt64.ofNat (readLE label 112 8)

/-- `type_guid` of a label of version 1.2. -/
def labelTypeGuid (label : Bytes) : List UInt8 := guidAt label 128

/-- `address_abstraction_guid` of a label of version 1.2. -/
def labelAddressAbstractionGuid (label : Bytes) : List UInt8 := guidAt label 144

/-- `NS_FLAGS_UPDATING`. -/
def nsFlagsUpdating (flags : UInt32) : Bool := flags &&& 0b100 != 0

/-- `NS_FLAGS_LOCAL`. -/
def nsFlagsLocal (flags : UInt32) : Bool := flags &&& 0b010 != 0

/-- The identifier of `SPA_RANGE_PM_REGION_GUID_STR`. -/
def pmGuid : List UInt8 :=
  [0x79, 0xD3, 0xF0, 0x66, 0xF3, 0xB4, 0x74, 0x40, 0xAC, 0x43, 0x0D, 0x33, 0x18, 0xB7, 0x8C, 0xDB]

/-- `is_valid_label`. -/
def isValidLabel (label : Bytes) : Bool :=
  checksumFletcher64 label nsLabelV12Size labelChecksum == readLE label labelChecksum 8 &&
    !nsFlagsUpdating (labelFlags label) && labelRawsize label != 0 &&
    pmGuid == labelTypeGuid label && !decide (labelPosition label > labelNlabel label)

/-- A label of version 1.1 as one of version 1.2, with a checksum of its own. -/
def convertLabel (label : Bytes) : Bytes :=
  let converted : Bytes := fun i =>
    if i < nsLabelSize then label i
    else if 128 ≤ i ∧ i < 144 ∧ !nsFlagsLocal (labelFlags label) then pmGuid.getD (i - 128) 0
    else 0
  writeLE converted labelChecksum 8 (checksumFletcher64 converted nsLabelV12Size labelChecksum)

/-! ### Index blocks -/

/-- `NS_INDEX_LEN`. -/
def nsIndexLen : ℕ := 256

/-- `MAX_NS_LABELS`. -/
def maxNsLabels : ℕ := 1020

/-- `NS_INDEX_SIGNATURE`, with the zero byte at its end. -/
def nsIndexSignature : List UInt8 :=
  [0x4E, 0x41, 0x4D, 0x45, 0x53, 0x50, 0x41, 0x43, 0x45, 0x5F, 0x49, 0x4E, 0x44, 0x45, 0x58, 0]

/-- `sequence`. -/
def indexSequence (index : Bytes) : ℕ := readLE index 20 4

/-- `nlabel`. -/
def indexNlabel (index : Bytes) : ℕ := readLE index 56 4

/-- `label_major_version`. -/
def indexLabelMajorVersion (index : Bytes) : ℕ := readLE index 60 2

/-- `label_minor_version`. -/
def indexLabelMinorVersion (index : Bytes) : ℕ := readLE index 62 2

/-- `is_valid_index_block`. -/
def isValidIndexBlock (index : Bytes) (indexPos : ℕ) : Bool :=
  checksumFletcher64 index nsIndexLen 64 == readLE index 64 8 &&
    nsIndexSignature == guidAt index 0 && indexLabelMajorVersion index == 1 &&
    !decide (indexLabelMinorVersion index > 2) && readLE index 24 8 == indexPos * nsIndexLen &&
    readLE index 32 8 == nsIndexLen &&
    readLE index 40 8 == (if indexPos = 0 then nsIndexLen else 0) && indexSequence index != 0 &&
    !decide (indexNlabel index > maxNsLabels)

/-- `index1` or `index2` of a label storage area. -/
def lsaIndex (lsa : Bytes) (index : ℕ) : Bytes := view lsa (if index = 1 then 0 else nsIndexLen)

/-- `choose_index_block`. -/
def chooseIndexBlock (lsa : Bytes) : ℕ :=
  let index1 := lsaIndex lsa 1
  let index2 := lsaIndex lsa 2
  let index1Valid := isValidIndexBlock index1 0
  let index2Valid := isValidIndexBlock index2 1
  if index1Valid && !index2Valid then 1
  else if index2Valid && !index1Valid then 2
  else if index1Valid && index2Valid then
    if indexSequence index1 = indexSequence index2 then
      if readLE index1 40 8 > readLE index1 24 8 then 2 else 1
    else
      let seqSum := (indexSequence index1 + indexSequence index2) % 2 ^ 32
      if seqSum = 3 ∨ seqSum = 5 then
        if indexSequence index1 > indexSequence index2 then 1 else 2
      else if indexSequence index1 < indexSequence index2 then 1 else 2
  else 0

/-- `is_slot_free`. -/
def isSlotFree (index : Bytes) (slot : ℕ) : Bool := (index (72 + slot / 8)).toNat.testBit (slot % 8)

/-! ### Namespaces -/

/-- `enum namespace_type`. -/
inductive NamespaceType
  | unknown | appDirect
  deriving DecidableEq, Repr

/-- `enum namespace_health`. -/
inductive NamespaceHealth
  | unknown | normal | noncritical | critical | brokenmirror
  deriving DecidableEq, Repr

/-- `enum namespace_enable_state`. -/
inductive NamespaceEnableState
  | unknown | enabled | disabled
  deriving DecidableEq, Repr

/-- `enum namespace_memory_page_allocation`. -/
inductive NamespaceMemoryPageAllocation
  | unknown | none | dram | appDirect
  deriving DecidableEq, Repr

/-- `struct nvm_namespace_details`. -/
structure NvmNamespaceDetails where
  /-- `discovery.namespace_uid`. -/
  namespaceUid : Uid
  /-- `discovery.friendly_name`. -/
  friendlyName : List UInt8
  /-- The size of a block. -/
  blockSize : UInt32
  /-- The number of blocks. -/
  blockCount : UInt64
  /-- The type. -/
  type : NamespaceType
  /-- The health. -/
  health : NamespaceHealth
  /-- Whether it is exposed. -/
  enabled : NamespaceEnableState
  /-- Whether it has a block translation table. -/
  btt : Bool
  /-- `namespace_creation_id.interleave_setid`. -/
  interleaveSetid : UInt32
  /-- Where pages are allocated; `Option.none` if it has not been set. -/
  memoryPageAllocation : Option NamespaceMemoryPageAllocation
  /-- The number of labels, from the label that was read first. -/
  nlabels : UInt16
  /-- The sum of the positions of the labels, each plus one. -/
  labelSum : UInt32
  deriving DecidableEq, Repr

/-- The cookies of `struct nvm_interleave_set`. -/
structure IsetCookies where
  /-- `id`. -/
  id : UInt8
  /-- `cookie_v1_1`. -/
  cookieV11 : UInt64
  /-- `cookie_v1_2`. -/
  cookieV12 : UInt64
  deriving DecidableEq, Repr

/-- `get_isetid_from_nslabel_cookie`: the interleave set and the health of the namespace, which is
normal before. -/
def getIsetidFromNslabelCookie (isets : List IsetCookies) (cookie : UInt64) :
    UInt32 × NamespaceHealth :=
  match isets.find? fun set => cookie == set.cookieV11 || cookie == set.cookieV12 with
  | some set => (set.id.toUInt32, .normal)
  | none => (0xFFFFFFFF, .critical)

/-- `NS_BTT_GUID`. -/
def nsBttGuid : Uid := "8aed63a2-29a2-4c66-8b12-f05d15d3922a".toList

/-- `NS_PFN_GUID`. -/
def nsPfnGuid : Uid := "266400ba-fb9f-4677-bcb0-968f11d0d225".toList

/-- `namespace_has_abstraction_guid`. -/
def namespaceHasAbstractionGuid (guid : List UInt8) (matchGuid : Uid) : Bool :=
  uidCmp (guidToUid guid) matchGuid

/-- The size of a block of a label, which is cut off to 32 bits. -/
def labelBlockSize (label : Bytes) : UInt32 :=
  if labelLbaSize label ≠ 0 then (labelLbaSize label).toUInt32 else 1

/-- `position + 1` of a label. -/
def labelShare (label : Bytes) : UInt32 := (labelPosition label).toUInt32 + 1

/-- The namespace that is added for its first label. -/
def newNamespace (isets : List IsetCookies) (label : Bytes) : NvmNamespaceDetails where
  namespaceUid := guidToUid (labelUuid label)
  friendlyName := labelName label
  blockSize := labelBlockSize label
  blockCount := labelRawsize label / (labelBlockSize label).toUInt64
  type := .appDirect
  health := (getIsetidFromNslabelCookie isets (labelIsetCookie label)).2
  enabled := .enabled
  btt := namespaceHasAbstractionGuid (labelAddressAbstractionGuid label) nsBttGuid
  interleaveSetid := (getIsetidFromNslabelCookie isets (labelIsetCookie label)).1
  memoryPageAllocation :=
    if namespaceHasAbstractionGuid (labelAddressAbstractionGuid label) nsPfnGuid then
      some .appDirect else none
  nlabels := labelNlabel label
  labelSum := labelShare label

/-- A namespace with a further label. -/
def addLabel (label : Bytes) (ns : NvmNamespaceDetails) : NvmNamespaceDetails :=
  { ns with
    blockSize := labelBlockSize label
    blockCount := ns.blockCount + labelRawsize label / (labelBlockSize label).toUInt64
    labelSum := ns.labelSum + labelShare label }

@[simp] theorem newNamespace_namespaceUid (isets : List IsetCookies) (label : Bytes) :
    (newNamespace isets label).namespaceUid = guidToUid (labelUuid label) := rfl

@[simp] theorem newNamespace_nlabels (isets : List IsetCookies) (label : Bytes) :
    (newNamespace isets label).nlabels = labelNlabel label := rfl

@[simp] theorem newNamespace_labelSum (isets : List IsetCookies) (label : Bytes) :
    (newNamespace isets label).labelSum = labelShare label := rfl

@[simp] theorem addLabel_namespaceUid (label : Bytes) (ns : NvmNamespaceDetails) :
    (addLabel label ns).namespaceUid = ns.namespaceUid := by rw [addLabel]

@[simp] theorem addLabel_nlabels (label : Bytes) (ns : NvmNamespaceDetails) :
    (addLabel label ns).nlabels = ns.nlabels := by rw [addLabel]

@[simp] theorem addLabel_labelSum (label : Bytes) (ns : NvmNamespaceDetails) :
    (addLabel label ns).labelSum = ns.labelSum + labelShare label := by rw [addLabel]

/-- A namespace has the unique id of a label. -/
def hasLabelUid (label : Bytes) (ns : NvmNamespaceDetails) : Bool :=
  uidCmp (guidToUid (labelUuid label)) ns.namespaceUid

/-- `init_namespace_from_label`, on the list of namespaces. -/
def initNamespaceFromLabel (isets : List IsetCookies) (nsList : List NvmNamespaceDetails)
    (label : Bytes) : List NvmNamespaceDetails :=
  if isValidLabel label then
    if nsList.any (hasLabelUid label) then modifyFirst (hasLabelUid label) (addLabel label) nsList
    else nsList ++ [newNamespace isets label]
  else nsList

/-- The label in a slot, if it is in use and of a version that is known. -/
def slotLabel (lsa : Bytes) (index : Bytes) (slot : ℕ) : Option Bytes :=
  if isSlotFree index slot then none
  else if indexLabelMajorVersion index = 1 ∧ indexLabelMinorVersion index = 1 then
    some (convertLabel (view lsa (2 * nsIndexLen + slot * nsLabelV11Size)))
  else if indexLabelMajorVersion index = 1 ∧ indexLabelMinorVersion index = 2 then
    some (view lsa (2 * nsIndexLen + slot * nsLabelV12Size))
  else none

/-- `parse_dimm_ns_labels`, on the list of namespaces. -/
def parseDimmNsLabels (isets : List IsetCookies) (nsList : List NvmNamespaceDetails) (lsa : Bytes) :
    List NvmNamespaceDetails :=
  if chooseIndexBlock lsa = 0 then nsList
  else
    let index := lsaIndex lsa (chooseIndexBlock lsa)
    (List.range (indexNlabel index)).foldl (fun nsList slot =>
      (slotLabel lsa index slot).elim nsList (initNamespaceFromLabel isets nsList)) nsList

/-- `is_namespace_complete`.  The number of labels is an `int` in `(n * (n + 1)) / 2`, which wraps from
46341 labels on. -/
def isNamespaceComplete (ns : NvmNamespaceDetails) : Bool :=
  let product : ℤ := Int.bmod (ns.nlabels.toNat * (ns.nlabels.toNat + 1)) (2 ^ 32)
  let expected : UInt32 := UInt32.ofInt (product.tdiv 2)
  ns.labelSum == expected

/-! ### All labels of a DIMM -/

/-- The labels of a DIMM that are in use, in the order in which they are read. -/
def dimmLabels (lsa : Bytes) : List Bytes :=
  if chooseIndexBlock lsa = 0 then []
  else
    (List.range (indexNlabel (lsaIndex lsa (chooseIndexBlock lsa)))).filterMap
      (slotLabel lsa (lsaIndex lsa (chooseIndexBlock lsa)))

end IxpDimm
