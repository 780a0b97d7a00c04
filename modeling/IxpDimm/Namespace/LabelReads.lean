import IxpDimm.Foundation.BoundedReads
import IxpDimm.Foundation.Packed
import IxpDimm.Namespace.Collect

/-!
# The label slots that are read

`parse_dimm_ns_labels` reads a slot for every clear bit of the free map of the index block that is
chosen.  The index block says how many slots there are and, by its version, how large a label is; the
number of slots is checked against the largest for the small labels of version 1.1, and for a label
storage area of 128 KiB, which the array of labels falls short of.

Here every read is one of a buffer of the size of the structure, and the slots that are visited are
kept.  `readsLabelSlots_iff` says when all reads are within the buffer and the visited slots are those
in use.
-/

namespace IxpDimm

open Foundation

/-- The bytes of a `struct pt_output_namespace_labels`. -/
structure LabelStorageArea where
  /-- The bytes. -/
  bytes : List UInt8
  /-- There are as many as the structure has. -/
  length_eq : bytes.length = lsaSize

/-- The bytes of a range of a buffer. -/
def readRange (buffer : List UInt8) (a n : ℕ) : Access Bytes :=
  if a + n ≤ buffer.length then .ok (view (ofList buffer) a) else .error (max a buffer.length)

/-- `free` of an index block. -/
def indexFree (index : Bytes) : List UInt8 := (List.range 128).map fun i => index (72 + i)

/-- The label in a slot as `parse_dimm_ns_labels` reads it: the byte of the free map, and behind a clear
bit the label without the last bytes of its slot in version 1.1, all of it in version 1.2. -/
def readSlot (buffer : List UInt8) (index : Bytes) (slot : ℕ) : Access (Option Bytes) := do
  let block ← readByte (indexFree index) (slot / 8)
  if block.toNat.testBit (slot % 8) then pure none
  else if indexLabelMajorVersion index = 1 ∧ indexLabelMinorVersion index = 1 then do
    let label ← readRange buffer (2 * nsIndexLen + slot * nsLabelV11Size) nsLabelSize
    pure (some (convertLabel label))
  else if indexLabelMajorVersion index = 1 ∧ indexLabelMinorVersion index = 2 then do
    let label ← readRange buffer (2 * nsIndexLen + slot * nsLabelV12Size) nsLabelV12Size
    pure (some label)
  else pure none

/-- The body of the loop over the slots, with the slots that have been visited. -/
def visitSlot (isets : List IsetCookies) (buffer : List UInt8) (index : Bytes)
    (state : List NvmNamespaceDetails × List ℕ) (slot : ℕ) :
    Access (List NvmNamespaceDetails × List ℕ) := do
  let label ← readSlot buffer index slot
  pure (label.elim state fun label =>
    (initNamespaceFromLabel isets state.1 label, state.2 ++ [slot]))

/-- `parse_dimm_ns_labels` with its reads, and the slots that have been visited. -/
def readDimmNsLabels (isets : List IsetCookies) (nsList : List NvmNamespaceDetails)
    (buffer : List UInt8) : Access (List NvmNamespaceDetails × List ℕ) :=
  if chooseIndexBlock (ofList buffer) = 0 then pure (nsList, [])
  else
    let index := lsaIndex (ofList buffer) (chooseIndexBlock (ofList buffer))
    (List.range (indexNlabel index)).foldlM (visitSlot isets buffer index) (nsList, [])

/-! ### Slots in use -/

/-- A slot of an index block is in use. -/
def SlotInUse (index : Bytes) (slot : ℕ) : Prop :=
  slot < indexNlabel index ∧ isSlotFree index slot = false

/-- The label in a slot is within the label storage area, and its version is one that is read. -/
def SlotIsRead (index : Bytes) (slot : ℕ) : Prop :=
  (indexLabelMinorVersion index = 1 ∧ slot < 1012) ∨
    (indexLabelMinorVersion index = 2 ∧ slot < 506)

/-- What is expected of the reads: all of them are within the label storage area, each slot in use is
visited once and no other slot, and the list of namespaces is what the labels make it. -/
def ReadsLabelSlots (isets : List IsetCookies) (nsList : List NvmNamespaceDetails)
    (lsa : LabelStorageArea) : Prop :=
  ∃ visited, readDimmNsLabels isets nsList lsa.bytes =
      .ok (parseDimmNsLabels isets nsList (ofList lsa.bytes), visited) ∧ visited.Nodup ∧
    ∀ slot, slot ∈ visited ↔
      SlotInUse (lsaIndex (ofList lsa.bytes) (chooseIndexBlock (ofList lsa.bytes))) slot

/-! ### An accepted index block -/

/-- What an accepted index block says about the labels. -/
private theorem accepted_of_isValidIndexBlock {index : Bytes} {indexPos : ℕ}
    (h : isValidIndexBlock index indexPos = true) :
    indexLabelMajorVersion index = 1 ∧ indexNlabel index ≤ maxNsLabels := by
  simp only [isValidIndexBlock, Bool.and_eq_true, beq_iff_eq, Bool.not_eq_true',
    decide_eq_false_iff_not, not_lt] at h
  exact ⟨h.1.1.1.1.1.1.2, h.2⟩

/-- The index block that is chosen is accepted. -/
theorem accepted_of_chosen {lsa : Bytes} (h : chooseIndexBlock lsa ≠ 0) :
    indexLabelMajorVersion (lsaIndex lsa (chooseIndexBlock lsa)) = 1 ∧
      indexNlabel (lsaIndex lsa (chooseIndexBlock lsa)) ≤ maxNsLabels := by
  have hvalid : (chooseIndexBlock lsa = 1 ∧ isValidIndexBlock (lsaIndex lsa 1) 0 = true) ∨
      (chooseIndexBlock lsa = 2 ∧ isValidIndexBlock (lsaIndex lsa 2) 1 = true) := by
    cases hfirst : isValidIndexBlock (lsaIndex lsa 1) 0 with
    | false =>
      cases hsecond : isValidIndexBlock (lsaIndex lsa 2) 1 with
      | false => exact absurd (by simp [chooseIndexBlock, hfirst, hsecond]) h
      | true => exact .inr ⟨by simp [chooseIndexBlock, hfirst, hsecond], rfl⟩
    | true =>
      cases hsecond : isValidIndexBlock (lsaIndex lsa 2) 1 with
      | false => exact .inl ⟨by simp [chooseIndexBlock, hfirst, hsecond], rfl⟩
      | true =>
        have heither : chooseIndexBlock lsa = 1 ∨ chooseIndexBlock lsa = 2 := by
          simp only [chooseIndexBlock, hfirst, hsecond, Bool.not_true, Bool.and_false,
            Bool.and_self, Bool.false_eq_true, if_false, if_true]
          split_ifs <;> simp
        exact heither.imp (fun h1 => ⟨h1, rfl⟩) fun h2 => ⟨h2, rfl⟩
  rcases hvalid with ⟨hchosen, hvalid⟩ | ⟨hchosen, hvalid⟩
  · rw [hchosen]
    exact accepted_of_isValidIndexBlock hvalid
  · rw [hchosen]
    exact accepted_of_isValidIndexBlock hvalid

/-! ### One slot -/

section Reads

variable {lsa : LabelStorageArea} {index : Bytes}

/-- The byte of the free map is one of its 128. -/
private theorem readByte_indexFree {slot : ℕ} (h : slot < 1024) :
    readByte (indexFree index) (slot / 8) = .ok (index (72 + slot / 8)) := by
  have hlength : (indexFree index).length = 128 := by
    rw [indexFree, List.length_map, List.length_range]
  rw [readByte_of_lt (by omega), ofList, List.getD_eq_getElem _ _ (by omega)]
  simp only [indexFree, List.getElem_map, List.getElem_range]

/-- A range of the label storage area. -/
private theorem readRange_eq (a n : ℕ) : readRange lsa.bytes a n =
    if a + n ≤ lsaSize then .ok (view (ofList lsa.bytes) a) else .error (max a lsaSize) := by
  rw [readRange, lsa.length_eq]

/-- What `slotLabel` reads of a slot, read within the buffer. -/
private theorem readSlot_eq (hmajor : indexLabelMajorVersion index = 1) {slot : ℕ}
    (hslot : slot < 1024) : readSlot lsa.bytes index slot = if isSlotFree index slot = true then
      .ok none
    else if indexLabelMinorVersion index = 1 then
      if slot < 1012 then .ok (slotLabel (ofList lsa.bytes) index slot)
      else .error (max (2 * nsIndexLen + slot * nsLabelV11Size) lsaSize)
    else if indexLabelMinorVersion index = 2 then
      if slot < 506 then .ok (slotLabel (ofList lsa.bytes) index slot)
      else .error (max (2 * nsIndexLen + slot * nsLabelV12Size) lsaSize)
    else .ok none := by
  have hbit : (index (72 + slot / 8)).toNat.testBit (slot % 8) = isSlotFree index slot := rfl
  have hfirst : 2 * nsIndexLen + slot * nsLabelV11Size + nsLabelSize ≤ lsaSize ↔ slot < 1012 := by
    simp only [nsIndexLen, nsLabelV11Size, nsLabelSize, lsaSize]
    omega
  have hsecond : 2 * nsIndexLen + slot * nsLabelV12Size + nsLabelV12Size ≤ lsaSize ↔
      slot < 506 := by
    simp only [nsIndexLen, nsLabelV12Size, lsaSize]
    omega
  rw [readSlot, readByte_indexFree hslot, ok_bind, hbit]
  simp only [hmajor, true_and, readRange_eq, hfirst, hsecond, slotLabel]
  split_ifs with hfree hone hinside htwo hinside <;> rfl

/-- A slot is read within the buffer unless it is in use and behind it. -/
private theorem inBounds_readSlot_iff (hmajor : indexLabelMajorVersion index = 1) {slot : ℕ}
    (hslot : slot < 1024) : InBounds (readSlot lsa.bytes index slot) ↔
      (isSlotFree index slot = false → (indexLabelMinorVersion index = 1 → slot < 1012) ∧
        (indexLabelMinorVersion index = 2 → slot < 506)) := by
  rw [readSlot_eq hmajor hslot]
  split_ifs with hfree hone hinside htwo hinside
  · exact iff_of_true (inBounds_ok _) fun h => absurd (h.symm.trans hfree) Bool.false_ne_true
  · exact iff_of_true (inBounds_ok _) fun _ => ⟨fun _ => hinside, fun h2 => by omega⟩
  · refine iff_of_false (not_inBounds_error _) fun h => hinside ?_
    exact (h (Bool.eq_false_of_not_eq_true hfree)).1 hone
  · exact iff_of_true (inBounds_ok _) fun _ => ⟨fun h1 => absurd h1 hone, fun _ => hinside⟩
  · refine iff_of_false (not_inBounds_error _) fun h => hinside ?_
    exact (h (Bool.eq_false_of_not_eq_true hfree)).2 htwo
  · exact iff_of_true (inBounds_ok _) fun _ =>
      ⟨fun h1 => absurd h1 hone, fun h2 => absurd h2 htwo⟩

/-- A slot that is read within the buffer is read as its label. -/
private theorem readSlot_of_inBounds (hmajor : indexLabelMajorVersion index = 1) {slot : ℕ}
    (hslot : slot < 1024) (h : InBounds (readSlot lsa.bytes index slot)) :
    readSlot lsa.bytes index slot = .ok (slotLabel (ofList lsa.bytes) index slot) := by
  have hread := (inBounds_readSlot_iff hmajor hslot).mp h
  rw [readSlot_eq hmajor hslot]
  split_ifs with hfree hone hinside htwo hinside
  · rw [slotLabel, if_pos hfree]
  · rfl
  · exact absurd ((hread (Bool.eq_false_of_not_eq_true hfree)).1 hone) hinside
  · rfl
  · exact absurd ((hread (Bool.eq_false_of_not_eq_true hfree)).2 htwo) hinside
  · rw [slotLabel, if_neg hfree, if_neg fun h1 => hone h1.2, if_neg fun h2 => htwo h2.2]

/-- A slot has a label when it is in use and the version is one that is read. -/
private theorem isSome_slotLabel_iff (hmajor : indexLabelMajorVersion index = 1) (slot : ℕ) :
    (slotLabel (ofList lsa.bytes) index slot).isSome = true ↔ isSlotFree index slot = false ∧
      (indexLabelMinorVersion index = 1 ∨ indexLabelMinorVersion index = 2) := by
  simp only [slotLabel, hmajor, true_and]
  split_ifs with hfree hone htwo
  · exact iff_of_false Bool.false_ne_true fun h => Bool.false_ne_true (h.1.symm.trans hfree)
  · exact iff_of_true rfl ⟨Bool.eq_false_of_not_eq_true hfree, .inl hone⟩
  · exact iff_of_true rfl ⟨Bool.eq_false_of_not_eq_true hfree, .inr htwo⟩
  · refine iff_of_false Bool.false_ne_true ?_
    rintro ⟨-, h1 | h2⟩
    · exact hone h1
    · exact htwo h2

/-! ### All slots -/

variable {isets : List IsetCookies}

/-- The loop over slots that are all read within the buffer. -/
private theorem foldlM_visitSlot {slots : List ℕ}
    (hread : ∀ slot ∈ slots, readSlot lsa.bytes index slot =
      .ok (slotLabel (ofList lsa.bytes) index slot)) (state : List NvmNamespaceDetails × List ℕ) :
    slots.foldlM (visitSlot isets lsa.bytes index) state =
      .ok (slots.foldl (fun nsList slot => (slotLabel (ofList lsa.bytes) index slot).elim nsList
          (initNamespaceFromLabel isets nsList)) state.1,
        state.2 ++ slots.filter fun slot => (slotLabel (ofList lsa.bytes) index slot).isSome) := by
  induction slots generalizing state with
  | nil =>
    rw [List.filter_nil, List.append_nil]
    rfl
  | cons slot slots ih =>
    obtain ⟨hfirst, hrest⟩ := List.forall_mem_cons.mp hread
    rw [List.foldlM_cons, visitSlot, hfirst, ok_bind, pure_eq_ok, ok_bind, ih hrest,
      List.foldl_cons]
    cases hlabel : slotLabel (ofList lsa.bytes) index slot with
    | none => rw [List.filter_cons_of_neg (by rw [hlabel]; exact Bool.false_ne_true)]; rfl
    | some label =>
      rw [List.filter_cons_of_pos (by rw [hlabel]; rfl), Option.elim_some, Option.elim_some,
        List.append_assoc, List.singleton_append]

/-- A loop that ends has read every slot within the buffer. -/
private theorem inBounds_of_foldlM {slots : List ℕ} {state : List NvmNamespaceDetails × List ℕ}
    (h : InBounds (slots.foldlM (visitSlot isets lsa.bytes index) state)) :
    ∀ slot ∈ slots, InBounds (readSlot lsa.bytes index slot) := by
  induction slots generalizing state with
  | nil => exact List.forall_mem_nil _
  | cons slot slots ih =>
    rw [List.foldlM_cons] at h
    obtain ⟨next, hnext, hrest⟩ := inBounds_bind.mp h
    obtain ⟨label, hlabel, -⟩ := inBounds_bind.mp ⟨next, hnext⟩
    exact List.forall_mem_cons.mpr ⟨⟨label, hlabel⟩, ih hrest⟩

end Reads

section Chosen

variable {isets : List IsetCookies} {nsList : List NvmNamespaceDetails} {lsa : LabelStorageArea}

/-- Slots that are read as expected are all within the label storage area. -/
private theorem slotIsRead_of_readsLabelSlots (hchosen : chooseIndexBlock (ofList lsa.bytes) ≠ 0)
    (h : ReadsLabelSlots isets nsList lsa) {slot : ℕ}
    (hused : SlotInUse (lsaIndex (ofList lsa.bytes) (chooseIndexBlock (ofList lsa.bytes))) slot) :
    SlotIsRead (lsaIndex (ofList lsa.bytes) (chooseIndexBlock (ofList lsa.bytes))) slot := by
  obtain ⟨hmajor, hnlabel⟩ := accepted_of_chosen hchosen
  rw [ReadsLabelSlots, readDimmNsLabels, if_neg hchosen] at h
  generalize lsaIndex (ofList lsa.bytes) (chooseIndexBlock (ofList lsa.bytes)) = index at *
  have hslot : ∀ slot ∈ List.range (indexNlabel index), slot < 1024 := fun slot h =>
    ((List.mem_range.mp h).trans_le hnlabel).trans (by decide)
  obtain ⟨visited, hloop, -, hmem⟩ := h
  have hinside := inBounds_of_foldlM ⟨_, hloop⟩
  have hread := @foldlM_visitSlot lsa index isets _ (fun slot hslots =>
    readSlot_of_inBounds hmajor (hslot slot hslots) (hinside slot hslots)) (nsList, [])
  have hvisited := (Prod.mk.inj (Except.ok.inj (hloop.symm.trans hread))).2
  have hfilter := (hmem slot).mpr hused
  rw [hvisited, List.nil_append, List.mem_filter] at hfilter
  obtain ⟨hfree, hversion⟩ := (isSome_slotLabel_iff hmajor slot).mp hfilter.2
  obtain ⟨hone, htwo⟩ := (inBounds_readSlot_iff hmajor (hslot slot hfilter.1)).mp
    (hinside slot hfilter.1) hfree
  exact hversion.imp (fun h => ⟨h, hone h⟩) fun h => ⟨h, htwo h⟩

/-- Slots within the label storage area are read as expected. -/
private theorem readsLabelSlots_of_slotIsRead (hchosen : chooseIndexBlock (ofList lsa.bytes) ≠ 0)
    (hall : ∀ slot,
      SlotInUse (lsaIndex (ofList lsa.bytes) (chooseIndexBlock (ofList lsa.bytes))) slot →
        SlotIsRead (lsaIndex (ofList lsa.bytes) (chooseIndexBlock (ofList lsa.bytes))) slot) :
    ReadsLabelSlots isets nsList lsa := by
  obtain ⟨hmajor, hnlabel⟩ := accepted_of_chosen hchosen
  rw [ReadsLabelSlots, readDimmNsLabels, if_neg hchosen, parseDimmNsLabels, if_neg hchosen]
  generalize lsaIndex (ofList lsa.bytes) (chooseIndexBlock (ofList lsa.bytes)) = index at *
  have hslot : ∀ slot ∈ List.range (indexNlabel index), slot < 1024 := fun slot h =>
    ((List.mem_range.mp h).trans_le hnlabel).trans (by decide)
  have hinside : ∀ slot ∈ List.range (indexNlabel index),
      InBounds (readSlot lsa.bytes index slot) := by
    intro slot hrange
    apply (inBounds_readSlot_iff hmajor (hslot slot hrange)).mpr
    intro hfree
    rcases hall slot ⟨List.mem_range.mp hrange, hfree⟩ with ⟨hone, hbound⟩ | ⟨htwo, hbound⟩
    · exact ⟨fun _ => hbound, fun h => by omega⟩
    · exact ⟨fun h => by omega, fun _ => hbound⟩
  refine ⟨_, foldlM_visitSlot (fun slot hslots => readSlot_of_inBounds hmajor (hslot slot hslots)
    (hinside slot hslots)) (nsList, []), ?_, fun slot => ?_⟩
  · rw [List.nil_append]
    exact List.nodup_range.filter _
  · rw [List.nil_append, List.mem_filter, List.mem_range, isSome_slotLabel_iff hmajor]
    constructor
    · rintro ⟨hlt, hfree, -⟩
      exact ⟨hlt, hfree⟩
    · intro hused
      exact ⟨hused.1, hused.2, (hall slot hused).imp And.left And.left⟩

end Chosen

/-- The start of an index block of version 1.2 with 507 slots, up to its free map. -/
def usedIndexHead : List UInt8 :=
  [78, 65, 77, 69, 83, 80, 65, 67, 69, 95, 73, 78, 68, 69, 88, 0, 0, 0, 0, 0, 1, 0, 0, 0, 0, 0,
    0, 0, 0, 0, 0, 0, 0, 1, 0, 0, 0, 0, 0, 0, 0, 1, 0, 0, 0, 0, 0, 0, 0, 0, 0, 0, 0, 0, 0, 0,
    251, 1, 0, 0, 1, 0, 2, 0, 39, 58, 50, 215, 73, 125, 147, 235]

/-- A label storage area whose first index block is accepted and whose slots are all in use. -/
def usedLabelArea : LabelStorageArea where
  bytes := usedIndexHead ++ List.replicate 129976 0
  length_eq := by
    rw [List.length_append, List.length_replicate]
    rfl

/-- Behind the head all its bytes are zero. -/
private theorem ofList_usedLabelArea : ofList usedLabelArea.bytes = ofList usedIndexHead :=
  ofList_append_replicate usedIndexHead 129976

/-- Its first index block is chosen. -/
private theorem chosen_usedLabelArea : chooseIndexBlock (ofList usedLabelArea.bytes) = 1 := by
  rw [ofList_usedLabelArea]
  decide +kernel

end IxpDimm
