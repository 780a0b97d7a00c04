import IxpDimm.EventLog.Table

/-!
# What the fields of an event hold

`event_field_metadata.c`: the table that says, for the type and the code of an event, what its `uid`
and its three arguments hold.
-/

namespace IxpDimm.EventLog

/-- `enum event_arg_type`. -/
inductive EventArgType
  | other | deviceUid | deviceUidList | serialNum
  deriving DecidableEq, Repr

/-- `enum event_uid_type`. -/
inductive EventUidType
  | none | device | namespace | pool
  deriving DecidableEq, Repr

/-- `struct event_field_metadata`. -/
structure EventFieldMetadata where
  /-- `event_type`. -/
  eventType : UInt32
  /-- `event_code`. -/
  eventCode : UInt32
  /-- `uid_type`. -/
  uidType : EventUidType
  /-- `arg1_type`. -/
  arg1Type : EventArgType
  /-- `arg2_type`. -/
  arg2Type : EventArgType
  /-- `arg3_type`. -/
  arg3Type : EventArgType
  deriving DecidableEq, Repr

/-- `END_OF_TABLE`. -/
def endOfTable : EventFieldMetadata := ⟨eventTypeAll, 0, .none, .other, .other, .other⟩

/-! ### The kinds of entries -/

/-- `NO_UID_CUSTOM_DATA`. -/
def noUidCustomData (type code : UInt32) (arg1 arg2 arg3 : EventArgType) : EventFieldMetadata :=
  ⟨type, code, .none, arg1, arg2, arg3⟩

/-- `NO_UID_GENERIC_DATA`. -/
def noUidGenericData (type code : UInt32) : EventFieldMetadata :=
  noUidCustomData type code .other .other .other

/-- `DEVICE_UID_WITH_DATA`. -/
def deviceUidWithData (type code : UInt32) (arg1 arg2 arg3 : EventArgType) : EventFieldMetadata :=
  ⟨type, code, .device, arg1, arg2, arg3⟩

/-- `DEVICE_UID_IN_ARG1`. -/
def deviceUidInArg1 (type code : UInt32) : EventFieldMetadata :=
  deviceUidWithData type code .deviceUid .other .other

/-- `TWO_DEVICE_UIDS`. -/
def twoDeviceUids (type code : UInt32) : EventFieldMetadata :=
  deviceUidWithData type code .deviceUid .deviceUid .other

/-- `NAMESPACE_UID`. -/
def namespaceUid (type code : UInt32) : EventFieldMetadata :=
  ⟨type, code, .namespace, .other, .other, .other⟩

/-- `POOL_UID`. -/
def poolUid (type code : UInt32) : EventFieldMetadata :=
  ⟨type, code, .pool, .other, .other, .other⟩

/-! ### The table -/

/-- `EVENT_TYPE_CONFIG`. -/
def eventTypeConfig : UInt32 := 1

/-- `EVENT_TYPE_HEALTH`. -/
def eventTypeHealth : UInt32 := 2

/-- `EVENT_TYPE_MGMT`. -/
def eventTypeMgmt : UInt32 := 3

/-- `EVENT_TYPE_DIAG_QUICK`. -/
def eventTypeDiagQuick : UInt32 := 5

/-- `EVENT_TYPE_DIAG_PLATFORM_CONFIG`. -/
def eventTypeDiagPlatformConfig : UInt32 := 6

/-- `EVENT_TYPE_DIAG_SECURITY`. -/
def eventTypeDiagSecurity : UInt32 := 7

/-- `EVENT_TYPE_DIAG_FW_CONSISTENCY`. -/
def eventTypeDiagFwConsistency : UInt32 := 8

/-- `EVENT_FIELD_METADATA_TABLE`, with the codes as numbers. -/
def eventFieldMetadataTable : List EventFieldMetadata :=
  [deviceUidInArg1 eventTypeConfig 100, -- CONFIG_GOAL_APPLIED
   deviceUidInArg1 eventTypeConfig 101, -- CONFIG_TOPOLOGY_ADDED_CONFIGURED_DEVICE
   deviceUidInArg1 eventTypeConfig 102, -- CONFIG_TOPOLOGY_ADDED_NEW_DEVICE
   deviceUidInArg1 eventTypeConfig 103, -- CONFIG_TOPOLOGY_MISSING_DEVICE
   twoDeviceUids eventTypeConfig 104, -- CONFIG_TOPOLOGY_REPLACED_CONFIGURED_DEVICE
   twoDeviceUids eventTypeConfig 105, -- CONFIG_TOPOLOGY_REPLACED_NEW_DEVICE
   deviceUidInArg1 eventTypeConfig 106, -- CONFIG_TOPOLOGY_MOVED_DEVICE
   deviceUidInArg1 eventTypeHealth 200, -- HEALTH_HEALTH_STATE_CHANGED
   namespaceUid eventTypeHealth 201, -- HEALTH_NAMESPACE_HEALTH_STATE_CHANGED
   deviceUidInArg1 eventTypeHealth 202, -- HEALTH_NEW_FWERRORS_FOUND
   deviceUidInArg1 eventTypeHealth 203, -- HEALTH_SANITIZE_INPROGRESS
   deviceUidInArg1 eventTypeHealth 204, -- HEALTH_SANITIZE_COMPLETE
   deviceUidInArg1 eventTypeHealth 205, -- HEALTH_SMART_HEALTH
   deviceUidInArg1 eventTypeMgmt 300, -- MGMT_CONFIG_GOAL_CREATED
   deviceUidInArg1 eventTypeMgmt 301, -- MGMT_CONFIG_GOAL_DELETED
   namespaceUid eventTypeMgmt 302, -- MGMT_NAMESPACE_CREATED
   namespaceUid eventTypeMgmt 303, -- MGMT_NAMESPACE_DELETED
   namespaceUid eventTypeMgmt 304, -- MGMT_NAMESPACE_MODIFIED
   deviceUidWithData eventTypeMgmt 305 .other .deviceUid .other, -- MGMT_SENSOR_SETTINGS_CHANGE
   deviceUidInArg1 eventTypeMgmt 306, -- MGMT_FIRMWARE_UPDATE
   deviceUidInArg1 eventTypeMgmt 307, -- MGMT_SECURITY_PASSWORD_SET
   deviceUidInArg1 eventTypeMgmt 308, -- MGMT_SECURITY_PASSWORD_REMOVED
   deviceUidInArg1 eventTypeMgmt 309, -- MGMT_SECURITY_SECURE_ERASE
   deviceUidInArg1 eventTypeMgmt 310, -- MGMT_SECURITY_FROZEN
   noUidGenericData eventTypeDiagQuick 500, -- DIAG_QUICK_SUCCESS
   deviceUidInArg1 eventTypeDiagQuick 501, -- DIAG_QUICK_NOT_MANAGEABLE_VENDOR_ID
   deviceUidInArg1 eventTypeDiagQuick 502, -- DIAG_QUICK_NOT_MANAGEABLE_DEVICE_ID
   deviceUidInArg1 eventTypeDiagQuick 503, -- DIAG_QUICK_NOT_MANAGEABLE_FW_API
   deviceUidInArg1 eventTypeDiagQuick 504, -- DIAG_QUICK_BAD_HEALTH
   deviceUidInArg1 eventTypeDiagQuick 505, -- DIAG_QUICK_BAD_MEDIA_TEMP
   deviceUidInArg1 eventTypeDiagQuick 506, -- DIAG_QUICK_BAD_SPARE
   deviceUidInArg1 eventTypeDiagQuick 507, -- DIAG_QUICK_BAD_PERCENT_USED
   noUidGenericData eventTypeDiagQuick 508,
   noUidGenericData eventTypeDiagQuick 509,
   noUidGenericData eventTypeDiagQuick 510,
   deviceUidInArg1 eventTypeDiagQuick 511, -- DIAG_QUICK_BAD_CORE_TEMP
   noUidGenericData eventTypeDiagQuick 512,
   deviceUidInArg1 eventTypeDiagQuick 513, -- DIAG_QUICK_UNREADABLE_BSR
   deviceUidInArg1 eventTypeDiagQuick 514, -- DIAG_QUICK_MEDIA_NOT_READY
   deviceUidInArg1 eventTypeDiagQuick 515, -- DIAG_QUICK_MEDIA_READY_ERROR
   noUidGenericData eventTypeDiagQuick 515,
   noUidGenericData eventTypeDiagQuick 516,
   noUidGenericData eventTypeDiagQuick 517,
   noUidGenericData eventTypeDiagQuick 518,
   deviceUidInArg1 eventTypeDiagQuick 519, -- DIAG_QUICK_NO_POST_CODE
   deviceUidInArg1 eventTypeDiagQuick 520, -- DIAG_QUICK_FW_INITIALIZATION_INCOMPLETE
   deviceUidInArg1 eventTypeDiagQuick 521, -- DIAG_QUICK_FW_HIT_ASSERT
   deviceUidInArg1 eventTypeDiagQuick 522, -- DIAG_QUICK_FW_STALLED
   deviceUidInArg1 eventTypeDiagQuick 523, -- DIAG_QUICK_VIRAL_STATE
   noUidGenericData eventTypeDiagQuick 524, -- DIAG_QUICK_BAD_DRIVER
   noUidGenericData eventTypeDiagQuick 525,
   deviceUidInArg1 eventTypeDiagQuick 526, -- DIAG_QUICK_BAD_MEDIA_TEMP_THROTTLING
   deviceUidInArg1 eventTypeDiagQuick 527, -- DIAG_QUICK_BAD_MEDIA_TEMP_SHUTDOWN
   deviceUidInArg1 eventTypeDiagQuick 528, -- DIAG_QUICK_BAD_CORE_TEMP_SHUTDOWN
   deviceUidInArg1 eventTypeDiagQuick 529, -- DIAG_QUICK_NO_SPARE_DIE
   deviceUidInArg1 eventTypeDiagQuick 530, -- DIAG_QUICK_UNSAFE_SHUTDOWN
   noUidGenericData eventTypeDiagQuick 531,
   noUidGenericData eventTypeDiagQuick 532,
   deviceUidInArg1 eventTypeDiagQuick 533, -- DIAG_QUICK_AIT_DRAM_NOT_READY
   deviceUidInArg1 eventTypeDiagQuick 534, -- DIAG_QUICK_MEDIA_DISABLED
   deviceUidInArg1 eventTypeDiagQuick 535, -- DIAG_QUICK_AIT_DRAM_DISABLED
   deviceUidInArg1 eventTypeDiagQuick 536, -- DIAG_QUICK_FW_LOAD_FAILED
   deviceUidInArg1 eventTypeDiagQuick 538, -- DIAG_QUICK_DDRT_IO_INIT_FAILED
   deviceUidInArg1 eventTypeDiagQuick 537, -- DIAG_QUICK_INTERNAL_CPU_ERROR
   noUidGenericData eventTypeDiagPlatformConfig 600, -- DIAG_PCONFIG_SUCCESS
   noUidGenericData eventTypeDiagPlatformConfig 601, -- DIAG_PCONFIG_NO_DIMMS
   noUidGenericData eventTypeDiagPlatformConfig 602, -- DIAG_PCONFIG_INVALID_NFIT
   noUidGenericData eventTypeDiagPlatformConfig 603, -- DIAG_PCONFIG_INVALID_PCAT
   deviceUidInArg1 eventTypeDiagPlatformConfig 604, -- DIAG_PCONFIG_INVALID_PCD
   deviceUidInArg1 eventTypeDiagPlatformConfig 605, -- DIAG_PCONFIG_INVALID_CURRENT_PCD
   deviceUidInArg1 eventTypeDiagPlatformConfig 606, -- DIAG_PCONFIG_UNCONFIGURED
    -- DIAG_PCONFIG_BROKEN_ISET
   noUidCustomData eventTypeDiagPlatformConfig 607 .other .serialNum .other,
    -- DIAG_PCONFIG_DUPLICATE_SERIAL_NUMBERS
   noUidCustomData eventTypeDiagPlatformConfig 608 .other .serialNum .other,
   deviceUidInArg1 eventTypeDiagPlatformConfig 609, -- DIAG_PCONFIG_REBOOT_NEEDED_TO_APPLY_GOAL
   noUidGenericData eventTypeDiagPlatformConfig 610,
   poolUid eventTypeDiagPlatformConfig 611, -- DIAG_PCONFIG_POOL_NEEDS_APP_DIRECT_NAMESPACES
   noUidGenericData eventTypeDiagPlatformConfig 612,
   noUidGenericData eventTypeDiagPlatformConfig 613, -- DIAG_PCONFIG_DIMM_CONFIG_UNBALANCED
   noUidGenericData eventTypeDiagPlatformConfig 614, -- DIAG_PCONFIG_DIMMS_DIFFERENT_SIZES
   noUidGenericData eventTypeDiagPlatformConfig 615, -- DIAG_PCONFIG_DIMM_SECURITY_SKUS_MIXED
   noUidGenericData eventTypeDiagPlatformConfig 616, -- DIAG_PCONFIG_DIMM_MODE_SKUS_MIXED
   noUidGenericData eventTypeDiagPlatformConfig 617, -- DIAG_PCONFIG_DIMM_DIE_SPARING_SKUS_MIXED
   noUidGenericData eventTypeDiagPlatformConfig 618, -- DIAG_PCONFIG_DIMM_INIT_FAILED
   deviceUidInArg1 eventTypeDiagPlatformConfig 619, -- DIAG_PCONFIG_DIMM_SKU_VIOLATION
   deviceUidInArg1 eventTypeDiagPlatformConfig 620, -- DIAG_PCONFIG_DIMM_GOAL_SKU_VIOLATION
   noUidGenericData eventTypeDiagPlatformConfig 621, -- DIAG_PCONFIG_POOLS_FAILED
   noUidGenericData eventTypeDiagPlatformConfig 622, -- DIAG_PCONFIG_NAMESPACES_FAILED
   noUidGenericData eventTypeDiagPlatformConfig 623, -- DIAG_PCONFIG_NO_BIOS_CONFIG_SUPPORT
   deviceUidInArg1 eventTypeDiagPlatformConfig 624, -- DIAG_PCONFIG_GOAL_FAILED_CONFIG_ERROR
    -- DIAG_PCONFIG_GOAL_FAILED_INSUFFICIENT_RESOURCES
   deviceUidInArg1 eventTypeDiagPlatformConfig 625,
   deviceUidInArg1 eventTypeDiagPlatformConfig 626, -- DIAG_PCONFIG_GOAL_FAILED_FW_ERROR
   deviceUidInArg1 eventTypeDiagPlatformConfig 627, -- DIAG_PCONFIG_GOAL_FAILED_UNKNOWN
   noUidGenericData eventTypeDiagPlatformConfig 628, -- DIAG_PCONFIG_BROKEN_ISET_MOVED
   noUidGenericData eventTypeDiagSecurity 700, -- DIAG_SECURITY_SUCCESS
   noUidGenericData eventTypeDiagSecurity 701, -- DIAG_SECURITY_NO_DIMMS
   noUidGenericData eventTypeDiagSecurity 702, -- DIAG_SECURITY_INCONSISTENT
   noUidGenericData eventTypeDiagSecurity 703, -- DIAG_SECURITY_ALL_DISABLED
   noUidGenericData eventTypeDiagSecurity 704, -- DIAG_SECURITY_ALL_NOTSUPPORTED
   noUidGenericData eventTypeDiagFwConsistency 800, -- DIAG_FW_SUCCESS
   noUidGenericData eventTypeDiagFwConsistency 801, -- DIAG_FW_NO_DIMMS
    -- DIAG_FW_INCONSISTENT
   noUidCustomData eventTypeDiagFwConsistency 802 .deviceUidList .other .other,
   deviceUidInArg1 eventTypeDiagFwConsistency 803, -- DIAG_FW_BAD_TEMP_MEDIA_THRESHOLD
   deviceUidInArg1 eventTypeDiagFwConsistency 804, -- DIAG_FW_BAD_TEMP_CONTROLLER_THRESHOLD
   deviceUidInArg1 eventTypeDiagFwConsistency 805, -- DIAG_FW_BAD_SPARE_BLOCK
   deviceUidInArg1 eventTypeDiagFwConsistency 806, -- DIAG_FW_BAD_FW_LOG_LEVEL
   deviceUidInArg1 eventTypeDiagFwConsistency 807, -- DIAG_FW_SYSTEM_TIME_DRIFT
   deviceUidInArg1 eventTypeDiagFwConsistency 808, -- DIAG_FW_BAD_POWER_MGMT_POLICY
   deviceUidInArg1 eventTypeDiagFwConsistency 809] -- DIAG_FW_BAD_DIE_SPARING_POLICY

/-! ### Looking up -/

/-- `get_event_field_metadata`. -/
def getEventFieldMetadata (type code : UInt32) : EventFieldMetadata :=
  (eventFieldMetadataTable.find? fun entry =>
    entry.eventType = type ∧ entry.eventCode = code).getD endOfTable

/-- `event_field_metadata_includes_arg_type`. -/
def EventFieldMetadata.includesArgType (metadata : EventFieldMetadata) (type : EventArgType) :
    Bool :=
  metadata.arg1Type = type ∨ metadata.arg2Type = type ∨ metadata.arg3Type = type

/-- `event_contains_device_uid`. -/
def EventFieldMetadata.containsDeviceUid (metadata : EventFieldMetadata) : Bool :=
  metadata.uidType = .device ∨ metadata.includesArgType .deviceUid

/-- What is looked up is an entry for the event, or the end of the table. -/
theorem getEventFieldMetadata_cases (type code : UInt32) :
    (getEventFieldMetadata type code ∈ eventFieldMetadataTable ∧
      (getEventFieldMetadata type code).eventType = type ∧
      (getEventFieldMetadata type code).eventCode = code) ∨
    getEventFieldMetadata type code = endOfTable := by
  rw [getEventFieldMetadata]
  cases hfind : eventFieldMetadataTable.find? fun entry =>
      entry.eventType = type ∧ entry.eventCode = code with
  | none => exact Or.inr rfl
  | some entry =>
    have htest := List.find?_some hfind
    rw [decide_eq_true_eq] at htest
    exact Or.inl ⟨List.mem_of_find?_eq_some hfind, htest⟩

end IxpDimm.EventLog
