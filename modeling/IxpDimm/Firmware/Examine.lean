import IxpDimm.Common.ReturnCode
import IxpDimm.Common.RevisionText
import IxpDimm.Foundation.ByteMemory

/-!
# Examining a firmware image

`nvm_examine_device_fw` of `update_firmware.c` compares the version in the header of an image with
that of the device.  Both are stored as binary coded decimals.  The version of the device was decoded
when its revision text was written, but the fields of the image are compared as they are.

`ExaminedRight` says that the verdict is that of the decoded versions.  It is exactly for the images
whose fields compare with the device like the decoded ones (`examinedRight_iff`).
-/

namespace IxpDimm

open Foundation

/-! ### Versions as binary coded decimals -/

/-- `bcd_byte_to_dec`. -/
def bcdByteToDec (num : UInt8) : ℕ :=
  if 10 ≤ num.toNat / 16 then 0xFF
  else if 10 ≤ num.toNat % 16 then 0xFF
  else num.toNat / 16 * 10 + num.toNat % 16

/-- `get_fw_api_major_version` and `get_fw_api_minor_version`. -/
def getFwApiVersion (fwApiVersion : UInt16) : ℕ × ℕ :=
  (bcdByteToDec (fwApiVersion >>> 8).toUInt8, bcdByteToDec fwApiVersion.toUInt8)

/-- `is_fw_api_version_downgraded`. -/
def isFwApiVersionDowngraded (current image : ℕ × ℕ) : Bool :=
  image.1 < current.1 || (image.1 == current.1 && image.2 < current.2)

/-- The decimal number that the two digits of a byte make, as `FW_VER_ARR_TO_STR` computes it. -/
def bcdDigits (num : UInt8) : ℕ := num.toNat / 16 * 10 + num.toNat % 16

/-- Both digits of a byte are decimal. -/
def IsBcd (num : UInt8) : Prop := num.toNat / 16 < 10 ∧ num.toNat % 16 < 10

/-- The part of the payload of `fw_get_identify_dimm` that tells the versions. -/
structure IdentifyDimmVersions where
  /-- `fwr`, of `DEV_FW_REV_LEN` bytes. -/
  fwr : Vector UInt8 5
  /-- `api_ver`. -/
  apiVer : UInt16

/-- The version of a device, decoded. -/
def IdentifyDimmVersions.version (dimm : IdentifyDimmVersions) : MainRevision where
  major := bcdDigits dimm.fwr[4]
  minor := bcdDigits dimm.fwr[3]
  hotfix := bcdDigits dimm.fwr[2]
  build := bcdDigits dimm.fwr[1] * 100 + bcdDigits dimm.fwr[0]

/-- `FW_VER_ARR_TO_STR`. -/
def fwVerArrToStr (dimm : IdentifyDimmVersions) : List Char :=
  buildRevision nvmVersionLen dimm.version

/-- The part of `struct device_discovery` that is read. -/
structure FwDiscovery where
  /-- `fw_revision`. -/
  fwRevision : List Char
  /-- `fw_api_version`. -/
  fwApiVersion : List Char

/-- The texts that the discovery of a device makes of its versions. -/
def IdentifyDimmVersions.discovery (dimm : IdentifyDimmVersions) : FwDiscovery where
  fwRevision := fwVerArrToStr dimm
  fwApiVersion := buildFwRevision nvmVersionLen (getFwApiVersion dimm.apiVer)

/-! ### Images -/

/-- The size of `fwImageHeader`. -/
def fwImageHeaderSize : ℕ := 128

/-- `FW_HEADER_MODULETYPE`. -/
def fwHeaderModuleType : ℕ := 6

/-- `FW_HEADER_MODULEVENDOR`. -/
def fwHeaderModuleVendor : ℕ := 0x8086

/-- The fields of `fwImageHeader` that are read. -/
structure FwImageHeader where
  /-- `moduleType`. -/
  moduleType : ℕ
  /-- `moduleVendor`. -/
  moduleVendor : ℕ
  /-- `imageVersion.buildVer.build`. -/
  buildVer : UInt16
  /-- `imageVersion.hotfixVer.version`. -/
  hotfixVer : UInt8
  /-- `imageVersion.minorVer.version`. -/
  minorVer : UInt8
  /-- `imageVersion.majorVer.version`. -/
  majorVer : UInt8
  /-- `fwApiVersion`. -/
  fwApiVersion : UInt16

/-- The header of an image. -/
def fwImageHeader (image : Bytes) : FwImageHeader where
  moduleType := readLE image 0 4
  moduleVendor := readLE image 16 4
  buildVer := UInt16.ofNat (readLE image 41 2)
  hotfixVer := image 43
  minorVer := image 44
  majorVer := image 45
  fwApiVersion := UInt16.ofNat (readLE image 58 2)

/-- The fields of the version of an image as they are, which `nvm_examine_device_fw` compares. -/
def FwImageHeader.fields (header : FwImageHeader) : MainRevision where
  major := header.majorVer.toNat
  minor := header.minorVer.toNat
  hotfix := header.hotfixVer.toNat
  build := header.buildVer.toNat

/-- The version of an image, decoded. -/
def FwImageHeader.version (header : FwImageHeader) : MainRevision where
  major := bcdDigits header.majorVer
  minor := bcdDigits header.minorVer
  hotfix := bcdDigits header.hotfixVer
  build := bcdDigits (header.buildVer >>> 8).toUInt8 * 100 + bcdDigits header.buildVer.toUInt8

/-! ### The call -/

/-- `BSR_OPTIN_ENABLED`. -/
def bsrOptinEnabled (bsr : UInt64) : Bool := bsr.toNat.testBit 25

/-- The opt-in check, on the return code and the result of `fw_get_bsr`. -/
def optInCheck (bsr : ReturnCode × UInt64) : ReturnCode :=
  if bsr.1 = .success then
    if ¬ bsrOptinEnabled bsr.2 then .errBadFirmware else .errRequiresForce
  else bsr.1

/-- The comparisons of `nvm_examine_device_fw`. -/
def examineVersions (image current : MainRevision) (imageFwApi currentFwApi : ℕ × ℕ)
    (bsr : ReturnCode × UInt64) : ReturnCode :=
  if image.major ≠ current.major then .errBadFirmware
  else if image.major = current.major ∧ image.minor < current.minor then .errBadFirmware
  else if isFwApiVersionDowngraded currentFwApi imageFwApi then
    if ¬ isFwApiVersionSupported imageFwApi then .errIncompatibleFw else .errRequiresForce
  else if image.hotfix < current.hotfix then optInCheck bsr
  else if image.build < current.build then .errRequiresForce
  else .success

/-- `NVM_PATH_LEN`. -/
def nvmPathLen : ℕ := 4096

/-- The arguments of `nvm_examine_device_fw`, and what the calls it makes return. -/
structure ExamineCall where
  /-- `device_uid` is given. -/
  deviceUid : Bool
  /-- `path` is given. -/
  path : Bool
  /-- `path_len`. -/
  pathLen : UInt64
  /-- `image_version` is given. -/
  imageVersion : Bool
  /-- `image_version_len`. -/
  imageVersionLen : UInt64
  /-- `check_caller_permissions` succeeds. -/
  checkCallerPermissions : Bool
  /-- `is_supported_driver_available`. -/
  isSupportedDriverAvailable : Bool
  /-- `file_exists`. -/
  fileExists : Bool
  /-- `exists_and_manageable`. -/
  existsAndManageable : Except ReturnCode FwDiscovery
  /-- `read_file_bytes`. -/
  readFileBytes : Except ReturnCode (List UInt8)
  /-- `fw_get_bsr`. -/
  fwGetBsr : ReturnCode × UInt64

/-- `nvm_examine_device_fw`: the return code, and the text in `image_version`. -/
def nvmExamineDeviceFw (call : ExamineCall) : ReturnCode × List Char :=
  if ¬ call.checkCallerPermissions then (.errInvalidPermissions, [])
  else if ¬ call.isSupportedDriverAvailable then (.errBadDriver, [])
  else if ¬ call.deviceUid then (.errInvalidParameter, [])
  else if ¬ call.path then (.errBadFile, [])
  else if nvmPathLen ≤ call.pathLen.toNat then (.errInvalidParameter, [])
  else if call.pathLen = 0 then (.errInvalidParameter, [])
  else if ¬ call.imageVersion then (.errInvalidParameter, [])
  else if call.imageVersionLen = 0 then (.errInvalidParameter, [])
  else if ¬ call.fileExists then (.errBadFile, [])
  else
    match call.existsAndManageable with
    | .error rc => (rc, [])
    | .ok discovery =>
      match call.readFileBytes with
      | .error rc => (rc, [])
      | .ok file =>
        if file.length < fwImageHeaderSize then (.errBadFirmware, [])
        else
          let header := fwImageHeader (ofList file)
          if header.moduleType ≠ fwHeaderModuleType ∨ header.moduleVendor ≠ fwHeaderModuleVendor then
            (.errBadFirmware, [])
          else
            (examineVersions header.fields (parseMainRevision discovery.fwRevision)
              (getFwApiVersion header.fwApiVersion) (parseFwRevision discovery.fwApiVersion)
              call.fwGetBsr, buildRevision call.imageVersionLen.toNat header.fields)

/-! ### The verdict on decoded versions -/

/-- The verdict on an image by its version. -/
def versionVerdict (image current : MainRevision) (downgraded supported : Bool)
    (optIn : ReturnCode) : ReturnCode :=
  if image.major ≠ current.major ∨ image.minor < current.minor then .errBadFirmware
  else if downgraded then if supported then .errRequiresForce else .errIncompatibleFw
  else if image.hotfix < current.hotfix then optIn
  else if image.build < current.build then .errRequiresForce
  else .success

/-- The call examines an image for a device: none of the checks before the comparison fails. -/
structure Examines (call : ExamineCall) (file : List UInt8) (dimm : IdentifyDimmVersions) : Prop where
  /-- The arguments. -/
  given : call.deviceUid = true ∧ call.path = true ∧ call.imageVersion = true
  /-- The path. -/
  path : call.pathLen ≠ 0 ∧ call.pathLen.toNat < nvmPathLen
  /-- The size of `image_version`. -/
  size : call.imageVersionLen ≠ 0
  /-- The caller and the driver. -/
  allowed : call.checkCallerPermissions = true ∧ call.isSupportedDriverAvailable = true
  /-- The device. -/
  device : call.existsAndManageable = .ok dimm.discovery
  /-- The file. -/
  file : call.fileExists = true ∧ call.readFileBytes = .ok file

/-- The file is an image for this kind of module. -/
structure IsFwImage (file : List UInt8) : Prop where
  /-- There is a header. -/
  length : fwImageHeaderSize ≤ file.length
  /-- The type. -/
  type : (fwImageHeader (ofList file)).moduleType = fwHeaderModuleType
  /-- The vendor. -/
  vendor : (fwImageHeader (ofList file)).moduleVendor = fwHeaderModuleVendor

/-- The API version of an image is below that of the device. -/
def ApiDowngraded (file : List UInt8) (dimm : IdentifyDimmVersions) : Bool :=
  isFwApiVersionDowngraded (getFwApiVersion dimm.apiVer)
    (getFwApiVersion (fwImageHeader (ofList file)).fwApiVersion)

/-- Every call that examines the image for the device has the verdict of the decoded versions,
whatever the opt-in check finds. -/
def ExaminedRight (file : List UInt8) (dimm : IdentifyDimmVersions) : Prop :=
  ∀ call, Examines call file dimm → (nvmExamineDeviceFw call).1 =
    versionVerdict (fwImageHeader (ofList file)).version dimm.version (ApiDowngraded file dimm)
      (isFwApiVersionSupported (getFwApiVersion (fwImageHeader (ofList file)).fwApiVersion))
      (optInCheck call.fwGetBsr)

/-- The product is that of the device, and the revision not below. -/
def MainRevision.Accepts (image current : MainRevision) : Prop :=
  image.major = current.major ∧ current.minor ≤ image.minor

/-- Two versions compare with that of the device alike, as far as it matters. -/
structure ComparesAlike (image image' current : MainRevision) (downgraded : Bool) : Prop where
  /-- The product and the revision. -/
  accepts : image.Accepts current ↔ image'.Accepts current
  /-- The hotfix. -/
  hotfix : image.Accepts current → downgraded = false →
    (image.hotfix < current.hotfix ↔ image'.hotfix < current.hotfix)
  /-- The build. -/
  build : image.Accepts current → downgraded = false → current.hotfix ≤ image.hotfix →
    (image.build < current.build ↔ image'.build < current.build)

/-- The bytes of the version of a device are binary coded decimals. -/
def IdentifyDimmVersions.IsBcd (dimm : IdentifyDimmVersions) : Prop :=
  ∀ i : Fin 5, IxpDimm.IsBcd dimm.fwr[i]

/-! ### The comparison -/

/-- Two decimal digits. -/
private theorem bcdDigits_lt {num : UInt8} (h : IsBcd num) : bcdDigits num < 10 ^ 2 := by
  obtain ⟨htens, hones⟩ := h
  rw [bcdDigits]
  omega

/-- A decoded byte has at most three digits. -/
private theorem bcdByteToDec_lt (num : UInt8) : bcdByteToDec num < 10 ^ 3 := by
  rw [bcdByteToDec]
  split_ifs <;> omega

/-- The text of the version of a device is read back. -/
private theorem parseMainRevision_discovery {dimm : IdentifyDimmVersions} (h : dimm.IsBcd) :
    parseMainRevision dimm.discovery.fwRevision = dimm.version := by
  have hhigh := bcdDigits_lt (h 1)
  have hlow := bcdDigits_lt (h 0)
  refine parseMainRevision_buildRevision (by decide) (bcdDigits_lt (h 4)) (bcdDigits_lt (h 3))
    (bcdDigits_lt (h 2)) ?_
  change bcdDigits dimm.fwr[1] * 100 + bcdDigits dimm.fwr[0] < 10 ^ 4
  change bcdDigits dimm.fwr[1] < 10 ^ 2 at hhigh
  change bcdDigits dimm.fwr[0] < 10 ^ 2 at hlow
  omega

/-- The text of its API version as well. -/
private theorem parseFwRevision_discovery (dimm : IdentifyDimmVersions) :
    parseFwRevision dimm.discovery.fwApiVersion = getFwApiVersion dimm.apiVer :=
  parseFwRevision_buildFwRevision (by decide) (bcdByteToDec_lt _) (bcdByteToDec_lt _)

/-- The comparisons as a verdict. -/
private theorem examineVersions_eq (image current : MainRevision) (imageFwApi currentFwApi : ℕ × ℕ)
    (bsr : ReturnCode × UInt64) :
    examineVersions image current imageFwApi currentFwApi bsr =
      versionVerdict image current (isFwApiVersionDowngraded currentFwApi imageFwApi)
        (isFwApiVersionSupported imageFwApi) (optInCheck bsr) := by
  rw [examineVersions, versionVerdict]
  by_cases hmajor : image.major = current.major
  · by_cases hminor : image.minor < current.minor
    · rw [if_neg (not_not.mpr hmajor), if_pos ⟨hmajor, hminor⟩, if_pos (Or.inr hminor)]
    · have hlower : ¬(image.major = current.major ∧ image.minor < current.minor) :=
        fun h => hminor h.2
      have hbad : ¬(image.major ≠ current.major ∨ image.minor < current.minor) :=
        fun h => h.elim (fun hne => hne hmajor) hminor
      rw [if_neg (not_not.mpr hmajor), if_neg hlower, if_neg hbad]
      cases isFwApiVersionSupported imageFwApi <;> rfl
  · rw [if_pos hmajor, if_pos (Or.inl hmajor)]

/-- A call that examines an image compares the fields of its header. -/
private theorem nvmExamineDeviceFw_eq {call : ExamineCall} {file : List UInt8}
    {dimm : IdentifyDimmVersions} (hcall : Examines call file dimm) (hfile : IsFwImage file)
    (hdimm : dimm.IsBcd) :
    (nvmExamineDeviceFw call).1 =
      versionVerdict (fwImageHeader (ofList file)).fields dimm.version (ApiDowngraded file dimm)
        (isFwApiVersionSupported (getFwApiVersion (fwImageHeader (ofList file)).fwApiVersion))
        (optInCheck call.fwGetBsr) := by
  obtain ⟨⟨huid, hpath, hversion⟩, ⟨hlength, hless⟩, hsize, ⟨hcaller, hdriver⟩, hdevice, hexists,
    hread⟩ := hcall
  rw [nvmExamineDeviceFw, hdevice, hread]
  simp only [huid, hpath, hversion, hcaller, hdriver, hexists, hlength, hsize, not_le.mpr hless,
    not_lt.mpr hfile.length, hfile.type, hfile.vendor, not_true_eq_false, ne_eq, or_self, if_false]
  rw [examineVersions_eq, parseMainRevision_discovery hdimm, parseFwRevision_discovery]
  rfl

section Verdict

variable {image image' current : MainRevision} {downgraded supported : Bool}

/-- The verdict on a version that is not accepted. -/
private theorem versionVerdict_of_not_accepts {optIn : ReturnCode} (h : ¬image.Accepts current) :
    versionVerdict image current downgraded supported optIn = .errBadFirmware := by
  rw [versionVerdict, if_pos]
  by_contra hnone
  obtain ⟨hmajor, hminor⟩ := not_or.mp hnone
  exact h ⟨not_not.mp hmajor, not_lt.mp hminor⟩

/-- The verdict on a version that is accepted. -/
private theorem versionVerdict_of_accepts {optIn : ReturnCode} (h : image.Accepts current) :
    versionVerdict image current downgraded supported optIn =
      if downgraded then if supported then .errRequiresForce else .errIncompatibleFw
      else if image.hotfix < current.hotfix then optIn
      else if image.build < current.build then .errRequiresForce
      else .success := by
  rw [versionVerdict, if_neg fun hbad => hbad.elim (fun hne => hne h.1) (Nat.not_lt.mpr h.2)]

/-- An accepted version is no bad firmware if the opt-in check does not find it to be. -/
private theorem versionVerdict_ne_of_accepts (h : image.Accepts current) :
    versionVerdict image current downgraded supported .errRequiresForce ≠ .errBadFirmware := by
  rw [versionVerdict_of_accepts h]
  split_ifs <;> decide

/-- The verdict on an accepted version shows whether the hotfix is lower. -/
private theorem versionVerdict_eq_bad_iff (h : image.Accepts current) (supported : Bool) :
    versionVerdict image current false supported .errBadFirmware = .errBadFirmware ↔
      image.hotfix < current.hotfix := by
  rw [versionVerdict_of_accepts h, if_neg Bool.false_ne_true]
  split_ifs with hless hbuild
  · exact iff_of_true rfl hless
  · exact iff_of_false (by decide) hless
  · exact iff_of_false (by decide) hless

/-- And, if the hotfix is not, whether the build is. -/
private theorem versionVerdict_eq_force_iff (h : image.Accepts current)
    (hhotfix : current.hotfix ≤ image.hotfix) (supported : Bool) {optIn : ReturnCode} :
    versionVerdict image current false supported optIn = .errRequiresForce ↔
      image.build < current.build := by
  rw [versionVerdict_of_accepts h, if_neg Bool.false_ne_true, if_neg (not_lt.mpr hhotfix)]
  split_ifs with hbuild
  · exact iff_of_true rfl hbuild
  · exact iff_of_false (by decide) hbuild

/-- Versions have the same verdict, whatever the opt-in check finds, exactly when they compare
alike. -/
private theorem versionVerdict_eq_iff :
    (∀ bsr, versionVerdict image current downgraded supported (optInCheck bsr) =
      versionVerdict image' current downgraded supported (optInCheck bsr)) ↔
        ComparesAlike image image' current downgraded := by
  constructor
  · intro h
    -- the opt-in check of a device that allows it, and of one that does not
    have hcheck : optInCheck (.success, 33554432) = .errRequiresForce := by decide
    have henabled := h (.success, 33554432)
    rw [hcheck] at henabled
    have hdisabled : versionVerdict image current downgraded supported .errBadFirmware =
      versionVerdict image' current downgraded supported .errBadFirmware := h (.success, 0)
    have haccepts : image.Accepts current ↔ image'.Accepts current := by
      constructor
      · intro himage
        by_contra himage'
        rw [versionVerdict_of_not_accepts himage'] at henabled
        exact versionVerdict_ne_of_accepts himage henabled
      · intro himage'
        by_contra himage
        rw [versionVerdict_of_not_accepts himage] at henabled
        exact versionVerdict_ne_of_accepts himage' henabled.symm
    have hhotfix : image.Accepts current → downgraded = false →
        (image.hotfix < current.hotfix ↔ image'.hotfix < current.hotfix) := by
      rintro himage rfl
      rw [← versionVerdict_eq_bad_iff himage supported, hdisabled,
        versionVerdict_eq_bad_iff (haccepts.mp himage) supported]
    refine ⟨haccepts, hhotfix, ?_⟩
    rintro himage rfl hkept
    have hkept' := not_lt.mp ((hhotfix himage rfl).not.mp (not_lt.mpr hkept))
    rw [← versionVerdict_eq_force_iff himage hkept supported, henabled,
      versionVerdict_eq_force_iff (haccepts.mp himage) hkept' supported]
  · intro h bsr
    by_cases himage : image.Accepts current
    · rw [versionVerdict_of_accepts himage, versionVerdict_of_accepts (h.accepts.mp himage)]
      cases downgraded with
      | true => rfl
      | false =>
        rw [if_neg Bool.false_ne_true, if_neg Bool.false_ne_true]
        have hhotfix := h.hotfix himage rfl
        by_cases hless : image.hotfix < current.hotfix
        · rw [if_pos hless, if_pos (hhotfix.mp hless)]
        · rw [if_neg hless, if_neg (hhotfix.not.mp hless)]
          exact if_congr (h.build himage rfl (not_lt.mp hless)) rfl rfl
    · rw [versionVerdict_of_not_accepts himage,
        versionVerdict_of_not_accepts (h.accepts.not.mp himage)]

end Verdict

/-- A call that examines an image for a device, with what the opt-in check finds. -/
def examineCall (file : List UInt8) (dimm : IdentifyDimmVersions) (bsr : ReturnCode × UInt64) :
    ExamineCall where
  deviceUid := true
  path := true
  pathLen := 1
  imageVersion := true
  imageVersionLen := 25
  checkCallerPermissions := true
  isSupportedDriverAvailable := true
  fileExists := true
  existsAndManageable := .ok dimm.discovery
  readFileBytes := .ok file
  fwGetBsr := bsr

/-- It does. -/
private theorem examines_examineCall (file : List UInt8) (dimm : IdentifyDimmVersions)
    (bsr : ReturnCode × UInt64) : Examines (examineCall file dimm bsr) file dimm :=
  ⟨⟨rfl, rfl, rfl⟩, ⟨(by decide : (1 : UInt64) ≠ 0), (by decide : (1 : UInt64).toNat < nvmPathLen)⟩,
    (by decide : (25 : UInt64) ≠ 0), ⟨rfl, rfl⟩, rfl, ⟨rfl, rfl⟩⟩

section Examined

variable {file : List UInt8} {dimm : IdentifyDimmVersions}

/-- The verdict on an image is that of the decoded versions exactly when the fields of its header
compare with the version of the device like the decoded version of the image. -/
theorem examinedRight_iff (hfile : IsFwImage file) (hdimm : dimm.IsBcd) :
    ExaminedRight file dimm ↔
      ComparesAlike (fwImageHeader (ofList file)).fields (fwImageHeader (ofList file)).version
        dimm.version (ApiDowngraded file dimm) := by
  rw [← @versionVerdict_eq_iff _ _ _ _
    (isFwApiVersionSupported (getFwApiVersion (fwImageHeader (ofList file)).fwApiVersion))]
  constructor
  · intro h bsr
    have hcall := examines_examineCall file dimm bsr
    have hverdict := h _ hcall
    rw [nvmExamineDeviceFw_eq hcall hfile hdimm] at hverdict
    exact hverdict
  · intro h call hcall
    rw [nvmExamineDeviceFw_eq hcall hfile hdimm]
    exact h call.fwGetBsr

end Examined

/-- The bytes of the version of an image are binary coded decimals. -/
def FwImageHeader.IsBcd (header : FwImageHeader) : Prop :=
  IxpDimm.IsBcd header.majorVer ∧ IxpDimm.IsBcd header.minorVer ∧ IxpDimm.IsBcd header.hotfixVer ∧
    IxpDimm.IsBcd (header.buildVer >>> 8).toUInt8 ∧ IxpDimm.IsBcd header.buildVer.toUInt8

/-- An image with a product number and otherwise zeros. -/
def imageOfProduct (product : UInt8) : List UInt8 :=
  [6] ++ List.replicate 15 0 ++ [0x86, 0x80] ++ List.replicate 27 0 ++ [product] ++
    List.replicate 82 0

/-- A device with a product number and otherwise zeros. -/
def deviceOfProduct (product : UInt8) : IdentifyDimmVersions where
  fwr := #v[0, 0, 0, 0, product]
  apiVer := 0

/-- The version 01.00.00.0000. -/
theorem examinedRight_product1 :
    IsFwImage (imageOfProduct 0x01) ∧ (deviceOfProduct 0x01).IsBcd ∧
      (ExaminedRight (imageOfProduct 0x01) (deviceOfProduct 0x01) ↔
        ComparesAlike (fwImageHeader (ofList (imageOfProduct 0x01))).fields
          (fwImageHeader (ofList (imageOfProduct 0x01))).version (deviceOfProduct 0x01).version
          (ApiDowngraded (imageOfProduct 0x01) (deviceOfProduct 0x01))) := by
  have hfile : IsFwImage (imageOfProduct 0x01) :=
    ⟨by decide +kernel, by decide +kernel, by decide +kernel⟩
  have hdimm : (deviceOfProduct 0x01).IsBcd := by
    unfold IdentifyDimmVersions.IsBcd IsBcd
    decide
  exact ⟨hfile, hdimm, examinedRight_iff hfile hdimm⟩

/-- An image of the version 10.00.00.0000 is rejected for a device of this version. -/
theorem not_examinedRight_product10 : ¬∀ file dimm, IsFwImage file →
    (fwImageHeader (ofList file)).IsBcd → dimm.IsBcd → ExaminedRight file dimm := by
  intro h
  have hfile : IsFwImage (imageOfProduct 0x10) :=
    ⟨by decide +kernel, by decide +kernel, by decide +kernel⟩
  have himage : (fwImageHeader (ofList (imageOfProduct 0x10))).IsBcd := by
    unfold FwImageHeader.IsBcd IsBcd
    decide +kernel
  have hdimm : (deviceOfProduct 0x10).IsBcd := by
    unfold IdentifyDimmVersions.IsBcd IsBcd
    decide
  have hcall := examines_examineCall (imageOfProduct 0x10) (deviceOfProduct 0x10) (.success, 0)
  have hverdict := h _ _ hfile himage hdimm _ hcall
  rw [nvmExamineDeviceFw_eq hcall hfile hdimm] at hverdict
  revert hverdict
  decide +kernel

end IxpDimm
