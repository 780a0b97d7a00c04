import Mathlib.Tactic.Common

/-!
# Return codes

The part of `enum return_code` of `nvm_types.h` that the modelled functions name.  Every other code
a call can hand through is kept as its number.
-/

namespace IxpDimm

/-- `enum return_code`. -/
inductive ReturnCode
  | success
  | errUnknown
  | errInvalidParameter
  | errNoMemory
  | errNotFound
  | errBadDevice
  | errNotManageable
  | errBadDeviceConfig
  | errBadPcat
  | errBadSize
  | errBadAlignment
  | errConfigNotSupported
  | other (code : Int)
  deriving DecidableEq, Repr

namespace ReturnCode

/-- `NVM_ERR_NOTSUPPORTED`. -/
def errNotSupported : ReturnCode := other (-3)

/-- `NVM_ERR_INVALIDPERMISSIONS`. -/
def errInvalidPermissions : ReturnCode := other (-6)

/-- `NVM_ERR_DATATRANSFERERROR`. -/
def errDataTransferError : ReturnCode := other (-8)

/-- `NVM_ERR_DEVICEERROR`. -/
def errDeviceError : ReturnCode := other (-9)

/-- `NVM_ERR_DEVICEBUSY`. -/
def errDeviceBusy : ReturnCode := other (-10)

/-- `NVM_ERR_BADPASSPHRASE`. -/
def errBadPassphrase : ReturnCode := other (-11)

/-- `NVM_ERR_SECURITYFROZEN`. -/
def errSecurityFrozen : ReturnCode := other (-13)

/-- `NVM_ERR_LIMITPASSPHRASE`. -/
def errLimitPassphrase : ReturnCode := other (-14)

/-- `NVM_ERR_SECURITYDISABLED`. -/
def errSecurityDisabled : ReturnCode := other (-15)

/-- `NVM_ERR_ARRAYTOOSMALL`. -/
def errArrayTooSmall : ReturnCode := other (-17)

/-- `NVM_ERR_BADFILE`. -/
def errBadFile : ReturnCode := other (-19)

/-- `NVM_ERR_BADPOOL`. -/
def errBadPool : ReturnCode := other (-21)

/-- `NVM_ERR_BADNAMESPACE`. -/
def errBadNamespace : ReturnCode := other (-22)

/-- `NVM_ERR_BADBLOCKSIZE`. -/
def errBadBlockSize : ReturnCode := other (-23)

/-- `NVM_ERR_BADFIRMWARE`. -/
def errBadFirmware : ReturnCode := other (-25)

/-- `NVM_ERR_DRIVERFAILED`. -/
def errDriverFailed : ReturnCode := other (-26)

/-- `NVM_ERR_BADSECURITYSTATE`. -/
def errBadSecurityState : ReturnCode := other (-30)

/-- `NVM_ERR_REQUIRESFORCE`. -/
def errRequiresForce : ReturnCode := other (-31)

/-- `NVM_ERR_NAMESPACESEXIST`. -/
def errNamespacesExist : ReturnCode := other (-32)

/-- `NVM_ERR_BADNAMESPACETYPE`. -/
def errBadNamespaceType : ReturnCode := other (-39)

/-- `NVM_ERR_BADNAMESPACEENABLESTATE`. -/
def errBadNamespaceEnableState : ReturnCode := other (-40)

/-- `NVM_ERR_BADNAMESPACESETTINGS`. -/
def errBadNamespaceSettings : ReturnCode := other (-41)

/-- `NVM_ERR_TOOMANYNAMESPACES`. -/
def errTooManyNamespaces : ReturnCode := other (-43)

/-- `NVM_ERR_SKUVIOLATION`. -/
def errSkuViolation : ReturnCode := other (-45)

/-- `NVM_ERR_BADDRIVER`. -/
def errBadDriver : ReturnCode := other (-46)

/-- `NVM_ERR_BADSECURITYGOAL`. -/
def errBadSecurityGoal : ReturnCode := other (-48)

/-- `NVM_ERR_GOALPENDING`. -/
def errGoalPending : ReturnCode := other (-50)

/-- `NVM_ERR_BADPOOLHEALTH`. -/
def errBadPoolHealth : ReturnCode := other (-51)

/-- `NVM_ERR_INCOMPATIBLEFW`. -/
def errIncompatibleFw : ReturnCode := other (-53)

/-- `NVM_ERR_FWALREADYSTAGED`. -/
def errFwAlreadyStaged : ReturnCode := other (-55)

/-- `NVM_ERR_BADNFIT`. -/
def errBadNfit : ReturnCode := other (-56)

/-- `NVM_ERR_TIMEOUT`. -/
def errTimeout : ReturnCode := other (-57)

/-- `NVM_ERR_NAMESPACEENABLEFAILED`. -/
def errNamespaceEnableFailed : ReturnCode := other (-59)

/-- `NVM_ERR_NOFADATAAVAILABLE`. -/
def errNoFaDataAvailable : ReturnCode := other (-60)

/-- `NVM_ERR_INTERLEAVESET`. -/
def errInterleaveSet : ReturnCode := other (-61)

/-- `NVM_ERR_CONTEXT`. -/
def errContext : ReturnCode := other (-62)

end ReturnCode

end IxpDimm
