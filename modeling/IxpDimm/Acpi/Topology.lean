import IxpDimm.Acpi.Nfit
import IxpDimm.Common.ReturnCode
import IxpDimm.Foundation.BoundedReads
import IxpDimm.Foundation.FirstOccurrences
import Mathlib.Data.List.Induction

/-!
# The topology from the NFIT

The region mappings of the parsed table say which DIMMs there are: each DIMM is a handle, and of the
mappings of a handle the first one says which control region describes the DIMM.  `nfit_dimm.c` makes
a list of the DIMMs from the two tables, and `nfit_utilities.c` hands it on as the topology of the
system.

`topology_from_nfit` says what the topology is: the first mappings of the handles, each with the last
control region of its index and the first nine format interface codes of the control regions that
carry the same serial numbers.  A first mapping without a control region makes the table a bad one.
-/

namespace IxpDimm.Acpi

open Foundation

/-! ### The tables -/

/-- The little-endian number of `size` bytes in a structure of the table. -/
def fieldAt (bytes : List UInt8) (offset size : ℕ) : ℕ := readLE (ofList bytes) offset size

/-- `struct region_mapping`. -/
structure RegionMapping where
  /-- `handle`. -/
  handle : UInt32 := 0
  /-- `physical_id`. -/
  physicalId : UInt16 := 0
  /-- `spa_index`. -/
  spaIndex : UInt16 := 0
  /-- `control_region_index`. -/
  controlRegionIndex : UInt16 := 0
  /-- `region_size`. -/
  regionSize : UInt64 := 0
  /-- `region_offset`. -/
  regionOffset : UInt64 := 0
  /-- `physical_address_region_base`. -/
  physicalAddressRegionBase : UInt64 := 0
  /-- `state_flag`. -/
  stateFlag : UInt16 := 0
  deriving DecidableEq, Repr

/-- The fields of a region mapping. -/
def RegionMapping.ofBytes (bytes : List UInt8) : RegionMapping where
  handle := .ofNat (fieldAt bytes 4 4)
  physicalId := .ofNat (fieldAt bytes 8 2)
  spaIndex := .ofNat (fieldAt bytes 12 2)
  controlRegionIndex := .ofNat (fieldAt bytes 14 2)
  regionSize := .ofNat (fieldAt bytes 16 8)
  regionOffset := .ofNat (fieldAt bytes 24 8)
  physicalAddressRegionBase := .ofNat (fieldAt bytes 32 8)
  stateFlag := .ofNat (fieldAt bytes 44 2)

/-- `struct control_region`, as far as it describes a DIMM. -/
structure ControlRegion where
  /-- `index`. -/
  index : UInt16 := 0
  /-- `vendor_id`. -/
  vendorId : UInt16 := 0
  /-- `device_id`. -/
  deviceId : UInt16 := 0
  /-- `revision_id`. -/
  revisionId : UInt16 := 0
  /-- `subsystem_vendor_id`. -/
  subsystemVendorId : UInt16 := 0
  /-- `subsystem_device_id`. -/
  subsystemDeviceId : UInt16 := 0
  /-- `subsystem_revision_id`. -/
  subsystemRevisionId : UInt16 := 0
  /-- `valid_fields`. -/
  validFields : UInt8 := 0
  /-- `manufacturing_location`. -/
  manufacturingLocation : UInt8 := 0
  /-- `manufacturing_date`. -/
  manufacturingDate : UInt16 := 0
  /-- `serial_number`. -/
  serialNumber : UInt32 := 0
  /-- `ifc`, the format interface code. -/
  ifc : UInt16 := 0
  deriving DecidableEq, Repr, Inhabited

/-- The fields of a control region. -/
def ControlRegion.ofBytes (bytes : List UInt8) : ControlRegion where
  index := .ofNat (fieldAt bytes 4 2)
  vendorId := .ofNat (fieldAt bytes 6 2)
  deviceId := .ofNat (fieldAt bytes 8 2)
  revisionId := .ofNat (fieldAt bytes 10 2)
  subsystemVendorId := .ofNat (fieldAt bytes 12 2)
  subsystemDeviceId := .ofNat (fieldAt bytes 14 2)
  subsystemRevisionId := .ofNat (fieldAt bytes 16 2)
  validFields := .ofNat (fieldAt bytes 18 1)
  manufacturingLocation := .ofNat (fieldAt bytes 19 1)
  manufacturingDate := .ofNat (fieldAt bytes 20 2)
  serialNumber := .ofNat (fieldAt bytes 24 4)
  ifc := .ofNat (fieldAt bytes 28 2)

/-- `region_mapping_list`. -/
def regionMappings (nfit : ParsedNfit) : List RegionMapping :=
  (nfit.list .regionMapping).map .ofBytes

/-- `control_region_list`. -/
def controlRegions (nfit : ParsedNfit) : List ControlRegion :=
  (nfit.list .controlRegion).map .ofBytes

/-! ### The DIMMs of the table -/

/-- `NFIT_MAX_IFC_COUNT`, which is also `NVM_MAX_IFCS_PER_DIMM`. -/
def nfitMaxIfcCount : ℕ := 9

/-- `struct nfit_dimm`. -/
structure NfitDimm where
  /-- `handle`. -/
  handle : UInt32 := 0
  /-- `physical_id`. -/
  physicalId : UInt16 := 0
  /-- `serial_number`. -/
  serialNumber : UInt32 := 0
  /-- `vendor_id`. -/
  vendorId : UInt16 := 0
  /-- `device_id`. -/
  deviceId : UInt16 := 0
  /-- `revision_id`. -/
  revisionId : UInt16 := 0
  /-- `subsystem_vendor_id`. -/
  subsystemVendorId : UInt16 := 0
  /-- `subsystem_device_id`. -/
  subsystemDeviceId : UInt16 := 0
  /-- `subsystem_revision_id`. -/
  subsystemRevisionId : UInt16 := 0
  /-- `valid_fields`. -/
  validFields : UInt8 := 0
  /-- `manufacturing_location`. -/
  manufacturingLocation : UInt8 := 0
  /-- `manufacturing_date`. -/
  manufacturingDate : UInt16 := 0
  /-- `state_flags`. -/
  stateFlags : UInt16 := 0
  /-- `ifc`. -/
  ifc : List UInt16 := .replicate nfitMaxIfcCount 0
  deriving DecidableEq, Repr

/-- `add_ifc_to_list`. -/
def addIfcToList (ifc : UInt16) (ifcList : List UInt16) : List UInt16 := putSlot 0 ifc ifcList

/-- `add_all_dimm_format_codes_from_nfit`. -/
def addAllDimmFormatCodesFromNfit (nfit : ParsedNfit) (dimm : NfitDimm) : NfitDimm :=
  (controlRegions nfit).foldl (fun dimm region =>
    if region.serialNumber = dimm.serialNumber then
      { dimm with ifc := addIfcToList region.ifc dimm.ifc }
    else dimm) dimm

/-- What `add_dimm_control_region_info_from_index` does for a region of the index. -/
def addDimmControlRegionInfo (nfit : ParsedNfit) (dimm : NfitDimm) (region : ControlRegion) :
    NfitDimm :=
  addAllDimmFormatCodesFromNfit nfit
    { dimm with
      serialNumber := region.serialNumber
      vendorId := region.vendorId
      deviceId := region.deviceId
      revisionId := region.revisionId
      subsystemVendorId := region.subsystemVendorId
      subsystemDeviceId := region.subsystemDeviceId
      subsystemRevisionId := region.subsystemRevisionId
      validFields := region.validFields
      manufacturingLocation := region.manufacturingLocation
      manufacturingDate := region.manufacturingDate }

/-- `add_dimm_control_region_info_from_index`. -/
def addDimmControlRegionInfoFromIndex (nfit : ParsedNfit) (index : UInt16) (dimm : NfitDimm) :
    NfitError × NfitDimm :=
  (controlRegions nfit).foldl (fun result region =>
    if region.index = index then (.success, addDimmControlRegionInfo nfit result.2 region)
    else result) (.badNfit, dimm)

/-- `add_dimm_info_from_handle`. -/
def addDimmInfoFromHandle (nfit : ParsedNfit) (handle : UInt32) (dimm : NfitDimm) :
    NfitError × NfitDimm :=
  match (regionMappings nfit).find? fun mapping => mapping.handle = handle with
  | none => (.badNfit, dimm)
  | some mapping =>
    addDimmControlRegionInfoFromIndex nfit mapping.controlRegionIndex
      { dimm with
        handle := handle
        physicalId := mapping.physicalId
        stateFlags := mapping.stateFlag }

/-- `has_matching_control_region_table`. -/
def hasMatchingControlRegionTable (nfit : ParsedNfit) (index : UInt16) : Bool :=
  (controlRegions nfit).any fun region => region.index = index

/-- `get_unique_dimm_region_handles`. -/
def getUniqueDimmRegionHandles (nfit : ParsedNfit) : Except NfitError (List UInt32) :=
  (collectFirsts RegionMapping.handle (fun _ mapping =>
    if hasMatchingControlRegionTable nfit mapping.controlRegionIndex = true then .ok ()
    else .error .badNfit) (regionMappings nfit) []).map (List.map RegionMapping.handle)

/-- The loop that fills the array of DIMMs. -/
def addDimms (nfit : ParsedNfit) : List UInt32 → Except NfitError (List NfitDimm)
  | [] => .ok []
  | handle :: handles =>
    match addDimmInfoFromHandle nfit handle {} with
    | (.success, dimm) => (addDimms nfit handles).map (dimm :: ·)
    | (error, _) => .error error

/-- `nfit_get_dimms_from_parsed_nfit` with an array of `count` entries: the number of DIMMs and, unless
`count` is 0, the entries that are filled. -/
def nfitGetDimmsFromParsedNfit (count : ℕ) (nfit : ParsedNfit) :
    Except NfitError (ℕ × List NfitDimm) :=
  if regionMappings nfit = [] then .ok (0, [])
  else do
    let handles ← getUniqueDimmRegionHandles nfit
    if count = 0 then .ok (handles.length, [])
    else if count < handles.length then .error .badInput
    else do
      let dimms ← addDimms nfit handles
      .ok (handles.length, dimms)

/-! ### The topology -/

/-- `struct nvm_topology`. -/
structure NvmTopology where
  /-- `device_handle`. -/
  deviceHandle : UInt32 := 0
  /-- `id`. -/
  id : UInt16 := 0
  /-- `vendor_id`. -/
  vendorId : UInt16 := 0
  /-- `device_id`. -/
  deviceId : UInt16 := 0
  /-- `revision_id`. -/
  revisionId : UInt16 := 0
  /-- `subsystem_vendor_id`. -/
  subsystemVendorId : UInt16 := 0
  /-- `subsystem_device_id`. -/
  subsystemDeviceId : UInt16 := 0
  /-- `subsystem_revision_id`. -/
  subsystemRevisionId : UInt16 := 0
  /-- `manufacturing_info_valid`. -/
  manufacturingInfoValid : UInt8 := 0
  /-- `manufacturing_location`. -/
  manufacturingLocation : UInt8 := 0
  /-- `manufacturing_date`. -/
  manufacturingDate : UInt16 := 0
  /-- `serial_number`. -/
  serialNumber : Vector UInt8 4 := .replicate 4 0
  /-- `state_flags`. -/
  stateFlags : UInt16 := 0
  /-- `fmt_interface_codes`. -/
  fmtInterfaceCodes : List UInt16 := .replicate nfitMaxIfcCount 0
  deriving DecidableEq, Repr

/-- `nfit_err_to_lib_err`. -/
def nfitErrToLibErr : NfitError → ReturnCode
  | .success => .success
  | .badNfit => .errBadNfit
  | .badInput => .errBadNfit

/-- `swap_bytes` of two bytes. -/
def swapBytes (v : UInt16) : UInt16 := v <<< 8 ||| v >>> 8

/-- `nfit_dimm_to_nvm_topology`. -/
def nfitDimmToNvmTopology (dimm : NfitDimm) : NvmTopology where
  deviceHandle := dimm.handle
  id := dimm.physicalId
  serialNumber := .ofFn fun i => leBytes dimm.serialNumber.toNat i
  vendorId := swapBytes dimm.vendorId
  deviceId := swapBytes dimm.deviceId
  subsystemVendorId := swapBytes dimm.subsystemVendorId
  subsystemDeviceId := swapBytes dimm.subsystemDeviceId
  manufacturingLocation := dimm.manufacturingLocation
  manufacturingDate := swapBytes dimm.manufacturingDate
  revisionId := dimm.revisionId
  subsystemRevisionId := dimm.subsystemRevisionId
  manufacturingInfoValid := dimm.validFields
  fmtInterfaceCodes := dimm.ifc

/-- `get_topology_count_from_nfit`, when `get_parsed_nfit` returns `parsed`. -/
def getTopologyCountFromNfit (parsed : Except ReturnCode ParsedNfit) : Except ReturnCode ℕ := do
  let nfit ← parsed
  match nfitGetDimmsFromParsedNfit 0 nfit with
  | .error error => .error (nfitErrToLibErr error)
  | .ok (topoCount, _) => .ok topoCount

/-- `get_topology_from_nfit`, when `get_parsed_nfit` returns `parsed`: the entries of the array that
are filled. -/
def getTopologyFromNfit (parsed : Except ReturnCode ParsedNfit) (count : UInt8) :
    Except ReturnCode (List NvmTopology) :=
  if count = 0 then .error .errInvalidParameter
  else do
    let nfit ← parsed
    let rc ← getTopologyCountFromNfit parsed
    if rc = 0 then .ok []
    else
      match nfitGetDimmsFromParsedNfit rc nfit with
      | .error error => .error (nfitErrToLibErr error)
      | .ok (topoCount, dimms) =>
        if count.toNat < topoCount then .error .errArrayTooSmall
        else .ok (dimms.map nfitDimmToNvmTopology)

/-! ### What the table says -/

section Table

variable (nfit : ParsedNfit)

/-- The DIMMs of the table: the mappings that are the first of their handles. -/
def dimmMappings : List RegionMapping := firsts RegionMapping.handle (regionMappings nfit)

/-- The control regions that describe the DIMM of a mapping. -/
def regionsOf (mapping : RegionMapping) : List ControlRegion :=
  (controlRegions nfit).filter fun region => region.index = mapping.controlRegionIndex

/-- The format interface codes of the control regions with the serial number of a region. -/
def codesWith (region : ControlRegion) : List UInt16 :=
  ((controlRegions nfit).filter fun other => other.serialNumber = region.serialNumber).map
    ControlRegion.ifc

/-- The first nine format interface codes of a DIMM. -/
def formatCodes (mapping : RegionMapping) : List UInt16 :=
  (firsts id (((regionsOf nfit mapping).flatMap (codesWith nfit)).filter fun code => code ≠ 0)).take
    nfitMaxIfcCount

/-- The DIMM of a mapping: the last of its control regions describes it. -/
def dimmOf (mapping : RegionMapping) : NfitDimm :=
  let region := ((regionsOf nfit mapping).getLast?).getD default
  { handle := mapping.handle
    physicalId := mapping.physicalId
    stateFlags := mapping.stateFlag
    serialNumber := region.serialNumber
    vendorId := region.vendorId
    deviceId := region.deviceId
    revisionId := region.revisionId
    subsystemVendorId := region.subsystemVendorId
    subsystemDeviceId := region.subsystemDeviceId
    subsystemRevisionId := region.subsystemRevisionId
    validFields := region.validFields
    manufacturingLocation := region.manufacturingLocation
    manufacturingDate := region.manufacturingDate
    ifc := slotsOf 0 nfitMaxIfcCount (formatCodes nfit mapping) }

/-- Every DIMM of the table has a control region. -/
def DimmsDescribed : Prop := ∀ mapping ∈ dimmMappings nfit, regionsOf nfit mapping ≠ []

instance : Decidable (DimmsDescribed nfit) :=
  inferInstanceAs (Decidable (∀ mapping ∈ dimmMappings nfit, regionsOf nfit mapping ≠ []))

end Table

/-! ### One DIMM -/

section Dimm

variable {nfit : ParsedNfit}

/-- The format codes are those of the regions with the serial number of the DIMM. -/
private theorem addAllDimmFormatCodesFromNfit_eq (dimm : NfitDimm) :
    addAllDimmFormatCodesFromNfit nfit dimm =
      { dimm with
        ifc := (((controlRegions nfit).filter fun other =>
          other.serialNumber = dimm.serialNumber).map ControlRegion.ifc).foldl
            (fun ifc code => addIfcToList code ifc) dimm.ifc } := by
  unfold addAllDimmFormatCodesFromNfit
  generalize controlRegions nfit = regions
  induction regions generalizing dimm with
  | nil => rfl
  | cons region regions ih =>
    rw [List.foldl_cons, ih, List.filter_cons]
    by_cases hserial : region.serialNumber = dimm.serialNumber
    · rw [if_pos hserial, decide_eq_true hserial, if_pos rfl, List.map_cons, List.foldl_cons]
    · rw [if_neg hserial, decide_eq_false hserial, if_neg Bool.false_ne_true]

/-- The last region of the index describes the DIMM, and the codes of all of them are added. -/
private theorem addDimmControlRegionInfoFromIndex_eq (mapping : RegionMapping) (dimm : NfitDimm) :
    addDimmControlRegionInfoFromIndex nfit mapping.controlRegionIndex dimm =
      match (regionsOf nfit mapping).getLast? with
      | none => (.badNfit, dimm)
      | some region => (.success,
        { dimm with
          serialNumber := region.serialNumber
          vendorId := region.vendorId
          deviceId := region.deviceId
          revisionId := region.revisionId
          subsystemVendorId := region.subsystemVendorId
          subsystemDeviceId := region.subsystemDeviceId
          subsystemRevisionId := region.subsystemRevisionId
          validFields := region.validFields
          manufacturingLocation := region.manufacturingLocation
          manufacturingDate := region.manufacturingDate
          ifc := ((regionsOf nfit mapping).flatMap (codesWith nfit)).foldl
            (fun ifc code => addIfcToList code ifc) dimm.ifc }) := by
  unfold addDimmControlRegionInfoFromIndex regionsOf
  -- the loop goes on behind the regions that it has seen
  induction controlRegions nfit using List.reverseRecOn with
  | nil => rfl
  | append_singleton regions region ih =>
    rw [List.foldl_append, ih, List.filter_append, List.foldl_cons, List.foldl_nil]
    by_cases hindex : region.index = mapping.controlRegionIndex
    · have hone : [region].filter (fun r => r.index = mapping.controlRegionIndex) = [region] := by
        rw [List.filter_cons, decide_eq_true hindex, if_pos rfl, List.filter_nil]
      rw [if_pos hindex, hone, List.getLast?_concat, List.flatMap_append, List.flatMap_singleton,
        List.foldl_append]
      dsimp only
      rw [addDimmControlRegionInfo, addAllDimmFormatCodesFromNfit_eq]
      cases hlast : (regions.filter fun r => r.index = mapping.controlRegionIndex).getLast? with
      | none =>
        rw [List.getLast?_eq_none_iff] at hlast
        rw [hlast]
        rfl
      | some last => rfl
    · have hnone : [region].filter (fun r => r.index = mapping.controlRegionIndex) = [] := by
        rw [List.filter_cons, decide_eq_false hindex, if_neg Bool.false_ne_true, List.filter_nil]
      rw [if_neg hindex, hnone, List.append_nil]

/-- The codes are put into empty slots. -/
private theorem foldl_addIfcToList (mapping : RegionMapping) :
    ((regionsOf nfit mapping).flatMap (codesWith nfit)).foldl
      (fun ifc code => addIfcToList code ifc) (List.replicate nfitMaxIfcCount 0) =
        slotsOf 0 nfitMaxIfcCount (formatCodes nfit mapping) := by
  have hempty : List.replicate nfitMaxIfcCount (0 : UInt16) = slotsOf 0 nfitMaxIfcCount [] := rfl
  rw [hempty]
  exact foldl_putSlot List.not_mem_nil (Nat.zero_le _) _

/-- The mapping that is found by a handle of a DIMM is that of the DIMM. -/
private theorem addDimmInfoFromHandle_eq {mapping : RegionMapping}
    (hmem : mapping ∈ dimmMappings nfit) (hregion : regionsOf nfit mapping ≠ []) :
    addDimmInfoFromHandle nfit mapping.handle {} = (.success, dimmOf nfit mapping) := by
  have hfind := mem_firsts_iff.mp hmem
  obtain ⟨region, hlast⟩ := Option.isSome_iff_exists.mp (List.getLast?_isSome.mpr hregion)
  rw [addDimmInfoFromHandle, hfind]
  dsimp only
  rw [addDimmControlRegionInfoFromIndex_eq, hlast]
  dsimp only
  rw [foldl_addIfcToList, dimmOf, hlast]
  rfl

/-- The array is filled with the DIMMs of the table. -/
private theorem addDimms_eq {mappings : List RegionMapping}
    (hmem : ∀ mapping ∈ mappings, mapping ∈ dimmMappings nfit)
    (hregion : ∀ mapping ∈ mappings, regionsOf nfit mapping ≠ []) :
    addDimms nfit (mappings.map RegionMapping.handle) = .ok (mappings.map (dimmOf nfit)) := by
  induction mappings with
  | nil => rfl
  | cons mapping mappings ih =>
    obtain ⟨hfirst, hmem⟩ := List.forall_mem_cons.mp hmem
    obtain ⟨hfirstRegion, hregion⟩ := List.forall_mem_cons.mp hregion
    rw [List.map_cons, addDimms, addDimmInfoFromHandle_eq hfirst hfirstRegion]
    dsimp only
    rw [ih hmem hregion]
    rfl

end Dimm

/-! ### All DIMMs -/

section Topology

variable (nfit : ParsedNfit)

/-- A mapping has a control region. -/
private theorem hasMatchingControlRegionTable_iff (mapping : RegionMapping) :
    hasMatchingControlRegionTable nfit mapping.controlRegionIndex = true ↔
      regionsOf nfit mapping ≠ [] := by
  rw [hasMatchingControlRegionTable, List.any_eq_true, regionsOf, Ne, List.filter_eq_nil_iff]
  simp only [decide_eq_true_eq, not_forall, not_not, exists_prop]

/-- The handles are those of the DIMMs, if all of them have control regions. -/
private theorem getUniqueDimmRegionHandles_eq : getUniqueDimmRegionHandles nfit =
    if DimmsDescribed nfit then .ok ((dimmMappings nfit).map RegionMapping.handle)
    else .error .badNfit := by
  have htest : ∀ (_ : ℕ) (mapping : RegionMapping),
      (if hasMatchingControlRegionTable nfit mapping.controlRegionIndex = true then
        (.ok () : Except NfitError Unit) else .error .badNfit) =
        if regionsOf nfit mapping ≠ [] then .ok () else .error .badNfit := fun _ mapping =>
    if_congr (hasMatchingControlRegionTable_iff nfit mapping) rfl rfl
  rw [getUniqueDimmRegionHandles, collectFirsts_eq, admitAll_test htest]
  change Except.map _ (Except.map _ (if DimmsDescribed nfit then _ else _)) = _
  split_ifs <;> rfl

/-- A table without mappings has no DIMMs. -/
private theorem dimmMappings_eq_nil_iff : dimmMappings nfit = [] ↔ regionMappings nfit = [] := by
  constructor
  · intro h
    refine List.eq_nil_iff_forall_not_mem.mpr fun mapping hmem => ?_
    have hfirst : ∃ first ∈ dimmMappings nfit, first.handle = mapping.handle := exists_firsts hmem
    obtain ⟨first, hin, -⟩ := hfirst
    rw [h] at hin
    exact List.not_mem_nil hin
  · intro h
    rw [dimmMappings, h]
    rfl

/-- The number of DIMMs. -/
private theorem nfitGetDimmsFromParsedNfit_zero : nfitGetDimmsFromParsedNfit 0 nfit =
    if DimmsDescribed nfit then .ok ((dimmMappings nfit).length, []) else .error .badNfit := by
  unfold nfitGetDimmsFromParsedNfit
  by_cases hnone : regionMappings nfit = []
  · have hdimms := (dimmMappings_eq_nil_iff nfit).mpr hnone
    have hdescribed : DimmsDescribed nfit := by
      rw [DimmsDescribed, hdimms]
      exact List.forall_mem_nil _
    rw [if_pos hnone, if_pos hdescribed, hdimms]
    rfl
  · rw [if_neg hnone, getUniqueDimmRegionHandles_eq]
    by_cases hdescribed : DimmsDescribed nfit
    · rw [if_pos hdescribed, if_pos hdescribed, ok_bind, if_pos rfl, List.length_map]
    · rw [if_neg hdescribed, if_neg hdescribed]
      rfl

/-- An array that is large enough is filled. -/
private theorem nfitGetDimmsFromParsedNfit_of_le {count : ℕ} (hpos : count ≠ 0)
    (hcount : (dimmMappings nfit).length ≤ count) (h : DimmsDescribed nfit) :
    nfitGetDimmsFromParsedNfit count nfit =
      .ok ((dimmMappings nfit).length, (dimmMappings nfit).map (dimmOf nfit)) := by
  unfold nfitGetDimmsFromParsedNfit
  by_cases hnone : regionMappings nfit = []
  · rw [if_pos hnone, (dimmMappings_eq_nil_iff nfit).mpr hnone]
    rfl
  · rw [if_neg hnone, getUniqueDimmRegionHandles_eq, if_pos h, ok_bind, if_neg hpos,
      List.length_map, if_neg hcount.not_gt, addDimms_eq (fun _ hmem => hmem) h]
    rfl

end Topology

/-- The number of entries of the topology. -/
private theorem getTopologyCountFromNfit_eq (nfit : ParsedNfit) :
    getTopologyCountFromNfit (.ok nfit) =
      if DimmsDescribed nfit then .ok (dimmMappings nfit).length else .error .errBadNfit := by
  rw [getTopologyCountFromNfit, ok_bind, nfitGetDimmsFromParsedNfit_zero]
  split_ifs <;> rfl

/-- The entries of the topology. -/
private theorem getTopologyFromNfit_eq (nfit : ParsedNfit) (count : UInt8) :
    getTopologyFromNfit (.ok nfit) count =
      if count = 0 then .error .errInvalidParameter
      else if DimmsDescribed nfit then
        if (dimmMappings nfit).length ≤ count.toNat then
          .ok ((dimmMappings nfit).map fun mapping => nfitDimmToNvmTopology (dimmOf nfit mapping))
        else .error .errArrayTooSmall
      else .error .errBadNfit := by
  rw [getTopologyFromNfit, getTopologyCountFromNfit_eq]
  refine if_congr Iff.rfl rfl ?_
  by_cases hdescribed : DimmsDescribed nfit
  · rw [if_pos hdescribed, if_pos hdescribed, ok_bind, ok_bind]
    by_cases hnone : (dimmMappings nfit).length = 0
    · rw [if_pos hnone, if_pos (hnone.le.trans (Nat.zero_le _)), List.length_eq_zero_iff.mp hnone]
      rfl
    · rw [if_neg hnone, nfitGetDimmsFromParsedNfit_of_le nfit hnone le_rfl hdescribed]
      dsimp only
      rw [List.map_map]
      by_cases hroom : (dimmMappings nfit).length ≤ count.toNat
      · rw [if_neg hroom.not_gt, if_pos hroom]
        rfl
      · rw [if_pos (not_le.mp hroom), if_neg hroom]
  · rw [if_neg hdescribed, if_neg hdescribed]
    rfl

/-- The entries of the DIMMs of the table have each handle of the table once. -/
private theorem handles_topology (nfit : ParsedNfit) {topology : List NvmTopology}
    (h : topology =
      (dimmMappings nfit).map fun mapping => nfitDimmToNvmTopology (dimmOf nfit mapping)) :
    (topology.map NvmTopology.deviceHandle).Nodup ∧ ∀ handle,
      handle ∈ topology.map NvmTopology.deviceHandle ↔
        ∃ mapping ∈ regionMappings nfit, mapping.handle = handle := by
  have hhandles : topology.map NvmTopology.deviceHandle =
      (dimmMappings nfit).map RegionMapping.handle := by
    rw [h, List.map_map]
    rfl
  rw [hhandles]
  refine ⟨nodup_firstsFrom [] _, fun handle => ?_⟩
  rw [dimmMappings, mem_map_firsts_iff, List.mem_map]

/-- The topology has an entry for each handle of the table and no other, in the order in which the
handles come up, if the array is large enough; the entry is made of the first mapping of the handle,
the last control region of its index and the format interface codes of them all.  A handle without a
control region makes the table a bad one, and the count is the number of handles. -/
theorem topology_from_nfit (nfit : ParsedNfit) (count : UInt8) :
    (getTopologyCountFromNfit (.ok nfit) =
        if DimmsDescribed nfit then .ok (dimmMappings nfit).length else .error .errBadNfit) ∧
      (getTopologyFromNfit (.ok nfit) count =
        if count = 0 then .error .errInvalidParameter
        else if DimmsDescribed nfit then
          if (dimmMappings nfit).length ≤ count.toNat then
            .ok ((dimmMappings nfit).map fun mapping => nfitDimmToNvmTopology (dimmOf nfit mapping))
          else .error .errArrayTooSmall
        else .error .errBadNfit) ∧
      ∀ topology, getTopologyFromNfit (.ok nfit) count = .ok topology →
        (topology.map NvmTopology.deviceHandle).Nodup ∧ ∀ handle,
          handle ∈ topology.map NvmTopology.deviceHandle ↔
            ∃ mapping ∈ regionMappings nfit, mapping.handle = handle := by
  refine ⟨getTopologyCountFromNfit_eq nfit, getTopologyFromNfit_eq nfit count, fun topology h => ?_⟩
  refine handles_topology nfit ?_
  rw [getTopologyFromNfit_eq] at h
  split_ifs at h
  exact (Except.ok.inj h).symm

end IxpDimm.Acpi
