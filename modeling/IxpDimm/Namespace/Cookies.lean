import IxpDimm.Foundation.BubbleSort
import IxpDimm.Namespace.Labels

/-!
# Interleave set cookies

`calculate_iset_cookies` of `namespace_labels.c`: each DIMM of an interleave set has a record with the
offset of its region, the records are sorted by these offsets, and the cookie of the set is the
checksum of the sorted records.  There is one cookie for each version of the labels.

`calculateIsetCookies_perm` says that the cookies do not depend on the order of the DIMMs.  Memory for
the records can be allocated.
-/

namespace IxpDimm

open Foundation

/-- `SWAP_SHORT`. -/
def swapShort (x : UInt16) : UInt16 := ((x &&& 0xFF) <<< 8) + ((x &&& 0xFF00) >>> 8)

/-- The bytes of a number in memory, the lowest first. -/
def lowBytes (width v : ℕ) : List UInt8 := (List.range width).map fun i => .ofNat (v / 256 ^ i)

/-- `struct v1_1_cookie_data`, with `reserved` zero. -/
structure V11CookieData where
  /-- `region_offset`. -/
  regionOffset : UInt64 := 0
  /-- `serial_number`. -/
  serialNumber : List UInt8 := List.replicate 4 0
  deriving DecidableEq, Repr

/-- `struct v1_2_cookie_data`, with `reserved` zero. -/
structure V12CookieData where
  /-- `region_offset`. -/
  regionOffset : UInt64 := 0
  /-- `serial_number`. -/
  serialNumber : List UInt8 := List.replicate 4 0
  /-- `vendor_id`. -/
  vendorId : UInt16 := 0
  /-- `manufacturing_date`. -/
  manufacturingDate : UInt16 := 0
  /-- `manufacturing_location`. -/
  manufacturingLocation : UInt8 := 0
  deriving DecidableEq, Repr

/-- The 16 bytes of a record. -/
def V11CookieData.bytes (data : V11CookieData) : List UInt8 :=
  lowBytes 8 data.regionOffset.toNat ++ data.serialNumber ++ List.replicate 4 0

/-- The 48 bytes of a record. -/
def V12CookieData.bytes (data : V12CookieData) : List UInt8 :=
  lowBytes 8 data.regionOffset.toNat ++ data.serialNumber ++ lowBytes 2 data.vendorId.toNat ++
    lowBytes 2 data.manufacturingDate.toNat ++ [data.manufacturingLocation] ++ List.replicate 31 0

/-- One entry of the arrays `dimms` and `dimm_region_offsets` of an interleave set. -/
structure CookieDimm where
  /-- The handle of the DIMM. -/
  handle : UInt32
  /-- The offset of its region. -/
  regionOffset : UInt64
  deriving DecidableEq, Repr

/-- `get_ns_data_dimm_index_from_handle`, with the DIMM at the index. -/
def nsDataDimm (dimmList : List DeviceDiscovery) (handle : UInt32) : Option DeviceDiscovery :=
  dimmList.find? fun dimm => dimm.deviceHandle = handle

/-- The record of version 1.1 of an entry, which stays zero when there is no such DIMM. -/
def v11CookieData (dimmList : List DeviceDiscovery) (entry : CookieDimm) : V11CookieData :=
  match nsDataDimm dimmList entry.handle with
  | none => {}
  | some dimm =>
    { regionOffset := entry.regionOffset, serialNumber := dimm.serialNumber.toList }

/-- The record of version 1.2 of an entry, which stays zero when there is no such DIMM. -/
def v12CookieData (dimmList : List DeviceDiscovery) (entry : CookieDimm) : V12CookieData :=
  match nsDataDimm dimmList entry.handle with
  | none => {}
  | some dimm =>
    { regionOffset := entry.regionOffset
      serialNumber := dimm.serialNumber.toList
      vendorId := swapShort dimm.vendorId
      manufacturingDate := swapShort dimm.manufacturingDate
      manufacturingLocation := dimm.manufacturingLocation }

/-- `sort_cookie_data`: the same loops over both arrays, neither of which reads the other. -/
def sortCookieData (data : List V11CookieData × List V12CookieData) :
    List V11CookieData × List V12CookieData :=
  (bubbleSort (fun record => record.regionOffset.toNat) data.1,
    bubbleSort (fun record => record.regionOffset.toNat) data.2)

/-- `checksum_fletcher64` of bytes that the checksum is not among. -/
def cookieOf (bytes : List UInt8) : UInt64 :=
  .ofNat (checksumFletcher64 (ofList bytes) bytes.length bytes.length)

/-- `calculate_iset_cookies` for one interleave set. -/
def calculateIsetCookies (dimmList : List DeviceDiscovery) (id : UInt8) (dimms : List CookieDimm) :
    IsetCookies :=
  let data := sortCookieData
    (dimms.map (v11CookieData dimmList), dimms.map (v12CookieData dimmList))
  { id
    cookieV11 := cookieOf (data.1.flatMap V11CookieData.bytes)
    cookieV12 := cookieOf (data.2.flatMap V12CookieData.bytes) }

/-! ### The order of the DIMMs -/

/-- A DIMM of the set that is not among the devices leaves a record of zeros.  There is none, or no
other record with the offset zero. -/
def ZeroRecordAlone (dimmList : List DeviceDiscovery) (dimms : List CookieDimm) : Prop :=
  (∃ entry ∈ dimms, nsDataDimm dimmList entry.handle = none) →
    ∀ entry ∈ dimms, nsDataDimm dimmList entry.handle ≠ none → entry.regionOffset ≠ 0

section Permuted

variable {dimmList : List DeviceDiscovery} {dimms : List CookieDimm}

/-- Records with equal offsets are equal: both are of one entry, or both are zero. -/
private theorem record_eq_of_offset {γ : Type} {record : CookieDimm → γ} {offset : γ → UInt64}
    {zero : γ} (hzero : offset zero = 0)
    (hmissing : ∀ entry, nsDataDimm dimmList entry.handle = none → record entry = zero)
    (hfound : ∀ entry, nsDataDimm dimmList entry.handle ≠ none →
      offset (record entry) = entry.regionOffset)
    (hdistinct : (dimms.map CookieDimm.regionOffset).Nodup)
    (halone : ZeroRecordAlone dimmList dimms) :
    ∀ a ∈ dimms.map record, ∀ b ∈ dimms.map record, (offset a).toNat = (offset b).toNat → a = b := by
  intro a ha b hb hoffset
  obtain ⟨entry, hentry, rfl⟩ := List.mem_map.mp ha
  obtain ⟨entry', hentry', rfl⟩ := List.mem_map.mp hb
  rw [UInt64.toNat_inj] at hoffset
  by_cases hnone : nsDataDimm dimmList entry.handle = none
  · by_cases hnone' : nsDataDimm dimmList entry'.handle = none
    · rw [hmissing entry hnone, hmissing entry' hnone']
    · rw [hmissing entry hnone, hzero, hfound entry' hnone'] at hoffset
      exact absurd hoffset.symm (halone ⟨entry, hentry, hnone⟩ entry' hentry' hnone')
  · by_cases hnone' : nsDataDimm dimmList entry'.handle = none
    · rw [hmissing entry' hnone', hzero, hfound entry hnone] at hoffset
      exact absurd hoffset (halone ⟨entry', hentry', hnone'⟩ entry hentry hnone)
    · rw [hfound entry hnone, hfound entry' hnone'] at hoffset
      exact congrArg record (List.inj_on_of_nodup_map hdistinct hentry hentry' hoffset)

/-- The cookies of a set with distinct region offsets are the same for every order of its DIMMs, unless
a record of zeros is beside one with the offset zero. -/
theorem calculateIsetCookies_perm (hdistinct : (dimms.map CookieDimm.regionOffset).Nodup)
    (halone : ZeroRecordAlone dimmList dimms) (id : UInt8) {dimms' : List CookieDimm}
    (hperm : dimms.Perm dimms') :
    calculateIsetCookies dimmList id dimms = calculateIsetCookies dimmList id dimms' := by
  have hv11 : bubbleSort (fun record => record.regionOffset.toNat)
      (dimms.map (v11CookieData dimmList)) = bubbleSort (fun record => record.regionOffset.toNat)
        (dimms'.map (v11CookieData dimmList)) := by
    apply bubbleSort_eq_of_perm _ (hperm.map _)
    apply @record_eq_of_offset dimmList dimms V11CookieData _ _ {} rfl _ _ hdistinct halone
    · intro entry hnone
      rw [v11CookieData, hnone]
    · intro entry hsome
      obtain ⟨dimm, hdimm⟩ := Option.ne_none_iff_exists'.mp hsome
      rw [v11CookieData, hdimm]
  have hv12 : bubbleSort (fun record => record.regionOffset.toNat)
      (dimms.map (v12CookieData dimmList)) = bubbleSort (fun record => record.regionOffset.toNat)
        (dimms'.map (v12CookieData dimmList)) := by
    apply bubbleSort_eq_of_perm _ (hperm.map _)
    apply @record_eq_of_offset dimmList dimms V12CookieData _ _ {} rfl _ _ hdistinct halone
    · intro entry hnone
      rw [v12CookieData, hnone]
    · intro entry hsome
      obtain ⟨dimm, hdimm⟩ := Option.ne_none_iff_exists'.mp hsome
      rw [v12CookieData, hdimm]
  simp only [calculateIsetCookies, sortCookieData, hv11, hv12]

end Permuted

/-- Two DIMMs with the handles 1 and 2. -/
def twoCookieDimms : List DeviceDiscovery :=
  [{ deviceHandle := 1, serialNumber := smallSerial 1 },
    { deviceHandle := 2, serialNumber := smallSerial 2 }]

/-- A set of both in either order. -/
theorem calculateIsetCookies_two : (([⟨1, 0⟩, ⟨2, 4096⟩] : List CookieDimm).map
      CookieDimm.regionOffset).Nodup ∧ ZeroRecordAlone twoCookieDimms [⟨1, 0⟩, ⟨2, 4096⟩] ∧
    ([⟨1, 0⟩, ⟨2, 4096⟩] : List CookieDimm).Perm [⟨2, 4096⟩, ⟨1, 0⟩] ∧
    calculateIsetCookies twoCookieDimms 1 [⟨1, 0⟩, ⟨2, 4096⟩] =
      calculateIsetCookies twoCookieDimms 1 [⟨2, 4096⟩, ⟨1, 0⟩] :=
  have hdistinct : (([⟨1, 0⟩, ⟨2, 4096⟩] : List CookieDimm).map CookieDimm.regionOffset).Nodup := by
    decide
  have halone : ZeroRecordAlone twoCookieDimms [⟨1, 0⟩, ⟨2, 4096⟩] := by
    rintro ⟨entry, hentry, hnone⟩
    revert entry
    decide
  have hperm : ([⟨1, 0⟩, ⟨2, 4096⟩] : List CookieDimm).Perm [⟨2, 4096⟩, ⟨1, 0⟩] :=
    List.Perm.swap _ _ _
  ⟨hdistinct, halone, hperm, calculateIsetCookies_perm hdistinct halone 1 hperm⟩

/-- With a third DIMM that is not there the order matters. -/
theorem not_calculateIsetCookies_perm : ¬ ∀ (dimmList : List DeviceDiscovery) (id : UInt8)
    (dimms dimms' : List CookieDimm), (dimms.map CookieDimm.regionOffset).Nodup →
      dimms.Perm dimms' →
        calculateIsetCookies dimmList id dimms = calculateIsetCookies dimmList id dimms' := by
  intro h
  have hsame := h twoCookieDimms 1 [⟨1, 0⟩, ⟨3, 4096⟩] [⟨3, 4096⟩, ⟨1, 0⟩] (by decide)
    (List.Perm.swap _ _ _)
  exact absurd hsame (by decide +kernel)

end IxpDimm
