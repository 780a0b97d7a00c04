import IxpDimm.Diagnostic.Nfit

/-!
# The best practices check of the platform configuration diagnostic

`check_platform_config_best_practices` looks at how the DIMMs are distributed over the sockets, at the
kinds of the DIMMs, and at the interleave sets of the pools, which should have a namespace.

The event that the namespaces cannot be listed is stored, but not counted; `NamespacesFail` says when
that happens.
-/

namespace IxpDimm.Diagnostic

open Foundation

/-! ### What the check is answered -/

/-- `struct pool`. -/
structure DiagPool extends Pool where
  /-- The unique id. -/
  poolUid : Uid

/-- What the check is answered. -/
structure BestPracticesQueries where
  /-- `get_socket_count`. -/
  getSocketCount : Except ErrorCode ℕ
  /-- `get_sockets` with an array of that many entries, each given by its id. -/
  getSockets : ℕ → Except ErrorCode (Filled UInt16)
  /-- `nvm_get_pool_count`. -/
  getPoolCount : Except ErrorCode ℕ
  /-- The allocation of the pools. -/
  allocPools : Except ErrorCode Unit
  /-- `nvm_get_pools` with an array of that many entries. -/
  getPools : ℕ → Except ErrorCode (Filled DiagPool)
  /-- `get_namespace_count`. -/
  getNamespaceCount : Except ErrorCode ℕ
  /-- `get_namespaces` with an array of that many entries, each given by its unique id. -/
  getNamespaces : ℕ → Except ErrorCode (Filled Uid)
  /-- `get_namespace_details`. -/
  getNamespaceDetails : Uid → Except ErrorCode NvmNamespaceDetails
  /-- The details that the allocated memory has before they are filled in. -/
  uninitializedDetails : List NvmNamespaceDetails

/-! ### Sockets -/

section Sockets

variable (socketId : UInt16) (devices : List DiagDiscovery)

/-- `device_channel_ids_are_partners`. -/
def deviceChannelIdsArePartners (channel1 channel2 : UInt32) : Bool := channel1 % 3 == channel2 % 3

/-- `device_with_handle_has_partner_on_other_mem_controller`. -/
def deviceWithHandleHasPartnerOnOtherMemController (handle : UInt32) : Bool :=
  devices.any fun device =>
    device.socketId.toUInt32 == handleSocketId handle &&
      handleMemoryControllerId device.deviceHandle != handleMemoryControllerId handle &&
      deviceChannelIdsArePartners (handleChannelId device.deviceHandle) (handleChannelId handle) &&
      handleDimmNum device.deviceHandle == handleDimmNum handle

/-- `socket_is_balanced`, with the number of devices as an eight-bit number. -/
def socketIsBalanced : Bool :=
  let devices := devices.take (devices.length % 2 ^ 8)
  devices.all fun device => device.socketId != socketId ||
    deviceWithHandleHasPartnerOnOtherMemController devices device.deviceHandle

/-- `dimms_on_socket_are_different_sizes`. -/
def dimmsOnSocketAreDifferentSizes : Bool :=
  match devices.filter fun device => device.socketId == socketId && device.manageable with
  | [] => false
  | first :: rest => rest.any fun device => device.capacity != first.capacity

/-- The event of a socket. -/
def socketEvent (code : EventCode) : DiagEvent :=
  pconfigEvent .info code [.number socketId.toNat] .warning

end Sockets

/-- `check_dimm_socket_layout_balance`. -/
def checkDimmSocketLayoutBalance (devices : List DiagDiscovery) (sockets : List UInt16) :
    Diag Unit :=
  sockets.forM fun socketId =>
    reportIf (!socketIsBalanced socketId devices) (socketEvent socketId .dimmConfigUnbalanced)

/-- `check_dimm_socket_capacities`. -/
def checkDimmSocketCapacities (devices : List DiagDiscovery) (sockets : List UInt16) : Diag Unit :=
  sockets.forM fun socketId =>
    reportIf (dimmsOnSocketAreDifferentSizes socketId devices)
      (socketEvent socketId .dimmsDifferentSizes)

/-- `check_dimm_socket_layout_best_practices`. -/
def checkDimmSocketLayoutBestPractices (queries : BestPracticesQueries)
    (devices : List DiagDiscovery) : Diag ℤ := do
  match ← ask queries.getSocketCount with
  | .error e => pure e.val
  | .ok 0 => pure 0
  | .ok (n + 1) => do
    match ← ask (queries.getSockets ((n + 1) % 2 ^ 16)) with
    | .error e => pure e.val
    | .ok filled =>
      if filled.returned = 0 then pure 0
      else do
        let sockets := filled.entries.take ((n + 1) % 2 ^ 16)
        checkDimmSocketLayoutBalance devices sockets
        checkDimmSocketCapacities devices sockets
        pure filled.returned

/-! ### Kinds of DIMMs -/

/-- `dimm_mode_skus_are_different`. -/
def dimmModeSkusAreDifferent (device1 device2 : DiagDiscovery) : Bool :=
  device1.deviceCapabilities.appDirectModeCapable !=
      device2.deviceCapabilities.appDirectModeCapable ||
    device1.deviceCapabilities.memoryModeCapable != device2.deviceCapabilities.memoryModeCapable

/-- `dimm_sparing_skus_are_different`. -/
def dimmSparingSkusAreDifferent (device1 device2 : DiagDiscovery) : Bool :=
  device1.dieSparingCapable != device2.dieSparingCapable

/-- `dimm_security_skus_are_different`. -/
def dimmSecuritySkusAreDifferent (device1 device2 : DiagDiscovery) : Bool :=
  device1.eraseCryptoCapable != device2.eraseCryptoCapable ||
    device1.passphraseCapable != device2.passphraseCapable ||
    device1.unlockDeviceCapable != device2.unlockDeviceCapable

/-- `system_has_mixed_skus`. -/
def systemHasMixedSkus (devices : List DiagDiscovery)
    (dimmsSkusAreDifferent : DiagDiscovery → DiagDiscovery → Bool) : Bool :=
  match devices with
  | [] => false
  | reference :: rest => rest.any (dimmsSkusAreDifferent reference)

/-- The event of mixed kinds. -/
def mixedSkusEvent (code : EventCode) : DiagEvent := pconfigEvent .warn code [] .warning

/-- `check_dimm_skus`. -/
def checkDimmSkus (devices : List DiagDiscovery) : Diag Unit := do
  reportIf (systemHasMixedSkus devices dimmModeSkusAreDifferent) (mixedSkusEvent .dimmModeSkusMixed)
  reportIf (systemHasMixedSkus devices dimmSparingSkusAreDifferent)
    (mixedSkusEvent .dimmDieSparingSkusMixed)
  reportIf (systemHasMixedSkus devices dimmSecuritySkusAreDifferent)
    (mixedSkusEvent .dimmSecuritySkusMixed)

/-- The part of `check_platform_config_best_practices` about the DIMMs. -/
def checkDimmBestPractices (devices : DeviceQueries) (queries : BestPracticesQueries) : Diag ℤ := do
  match ← ask devices.getDeviceCount with
  | .error e => pure e.val
  | .ok 0 => pure 0
  | .ok (n + 1) => do
    match ← ask (devices.getDevices (n + 1)) with
    | .error e => pure e.val
    | .ok filled =>
      if filled.returned = 0 then pure 0
      else do
        let rc ← checkDimmSocketLayoutBestPractices queries (filled.entries.take (n + 1))
        checkDimmSkus (filled.entries.take (n + 1))
        pure (keepError filled.returned rc)

/-! ### Namespaces -/

/-- `pool_interleave_sets_need_namespace`. -/
def poolInterleaveSetsNeedNamespace (namespaces : List NvmNamespaceDetails) (pool : DiagPool) : Bool :=
  (pool.type == .persistent || pool.type == .persistentMirror) &&
    pool.ilsets.any fun set => !namespaces.any fun details =>
      details.type == .appDirect && details.interleaveSetid == set.driverId

/-- `check_if_pool_interleave_sets_need_namespace`. -/
def checkIfPoolInterleaveSetsNeedNamespace (namespaces : List NvmNamespaceDetails)
    (pool : DiagPool) : Diag Unit :=
  reportIf (poolInterleaveSetsNeedNamespace namespaces pool)
    { pconfigEvent .info .poolNeedsAppDirectNamespaces [.uid pool.poolUid] .ok with
      uid := some pool.poolUid }

/-- `check_if_pools_need_namespaces`. -/
def checkIfPoolsNeedNamespaces (namespaces : List NvmNamespaceDetails) (pools : List DiagPool) :
    Diag Unit :=
  pools.forM fun pool =>
    if pool.type ≠ .volatile then checkIfPoolInterleaveSetsNeedNamespace namespaces pool
    else pure ()

/-- The loop of `get_all_driver_namespace_details`. -/
def fetchNamespaceDetails (queries : BestPracticesQueries) :
    List Uid → Diag (Except ErrorCode (List NvmNamespaceDetails))
  | [] => pure (.ok [])
  | uid :: uids => do
    match ← ask (queries.getNamespaceDetails uid) with
    | .error e => pure (.error e)
    | .ok details => do
      let rest ← fetchNamespaceDetails queries uids
      pure (rest.map (details :: ·))

/-- `get_all_driver_namespace_details`.  If no namespace is returned, the details are not filled in. -/
def getAllDriverNamespaceDetails (queries : BestPracticesQueries) (namespaceCount : ℕ) :
    Diag (Except ErrorCode (List NvmNamespaceDetails)) := do
  match ← ask (queries.getNamespaces namespaceCount) with
  | .error e => pure (.error e)
  | .ok filled =>
    if filled.returned = 0 then pure (.ok (queries.uninitializedDetails.take namespaceCount))
    else fetchNamespaceDetails queries (filled.entries.take namespaceCount)

/-- The event that the namespaces cannot be listed. -/
def namespacesFailedEvent : DiagEvent := pconfigEvent .critical .namespacesFailed [] .failed

/-- The part of `check_namespace_best_practices_with_pools` before the report of an error. -/
def checkNamespacesOfPools (queries : BestPracticesQueries) (pools : List DiagPool) : Diag ℤ := do
  match ← ask queries.getNamespaceCount with
  | .error e => pure e.val
  | .ok 0 => pure nvmSuccess
  | .ok (n + 1) => do
    match ← getAllDriverNamespaceDetails queries (n + 1) with
    | .error e => pure e.val
    | .ok namespaces => do
      checkIfPoolsNeedNamespaces namespaces pools
      pure nvmSuccess

/-- `check_namespace_best_practices_with_pools`.  The event of an error is not counted. -/
def checkNamespaceBestPracticesWithPools (queries : BestPracticesQueries) (pools : List DiagPool) :
    Diag Unit := do
  let rc ← checkNamespacesOfPools queries pools
  if rc ≠ nvmSuccess then storeEvent namespacesFailedEvent else pure ()

/-- The event that the pools cannot be listed. -/
def poolsFailedEvent : DiagEvent := pconfigEvent .critical .poolsFailed [] .failed

/-- `check_namespace_best_practices`. -/
def checkNamespaceBestPractices (queries : BestPracticesQueries) : Diag ℤ := do
  match ← ask queries.getPoolCount with
  | .error _ => do
    report poolsFailedEvent
    pure nvmSuccess
  | .ok 0 => pure nvmSuccess
  | .ok (n + 1) => do
    match ← ask queries.allocPools with
    | .error e => pure e.val
    | .ok () => do
      match ← ask (queries.getPools (n + 1)) with
      | .error _ => do
        report poolsFailedEvent
        pure nvmSuccess
      | .ok filled => do
        if filled.returned = 0 then pure nvmSuccess
        else do
          checkNamespaceBestPracticesWithPools queries (filled.entries.take filled.returned)
          pure nvmSuccess

/-- `check_platform_config_best_practices`. -/
def checkPlatformConfigBestPractices (devices : DeviceQueries) (queries : BestPracticesQueries) :
    Diag ℤ := do
  let rc ← checkDimmBestPractices devices queries
  let namespaces ← checkNamespaceBestPractices queries
  pure (keepError rc namespaces)

/-! ### Its events -/

/-- The codes of the events of the check. -/
def bestPracticesCodes : List EventCode :=
  [.dimmConfigUnbalanced, .dimmsDifferentSizes, .dimmModeSkusMixed, .dimmDieSparingSkusMixed,
    .dimmSecuritySkusMixed, .poolNeedsAppDirectNamespaces, .namespacesFailed, .poolsFailed]

section Accounted

variable (queries : BestPracticesQueries) (devices : List DiagDiscovery) (pools : List DiagPool)

/-- An event with a code of the check. -/
private theorem hasCode_pconfigEvent {severity : EventSeverity} {code : EventCode}
    {args : List EventArg} {result : DiagnosticResult} (h : code ∈ bestPracticesCodes) :
    HasCode bestPracticesCodes (pconfigEvent severity code args result) := ⟨rfl, h⟩

/-- The checks of the sockets count their events. -/
private theorem reports_checkDimmSocketLayoutBestPractices :
    Reports (HasCode bestPracticesCodes)
      (checkDimmSocketLayoutBestPractices queries devices) := by
  refine Tally.counts_bind (reports_ask _) ?_
  rw [value_ask]
  match queries.getSocketCount with
  | .error e => exact Tally.counts_pure _
  | .ok 0 => exact Tally.counts_pure _
  | .ok (n + 1) =>
    refine Tally.counts_bind (reports_ask _) ?_
    rw [value_ask]
    cases queries.getSockets ((n + 1) % 2 ^ 16) with
    | error e => exact Tally.counts_pure _
    | ok filled =>
      dsimp only
      split_ifs
      · exact Tally.counts_pure _
      · refine Tally.counts_bind (Tally.counts_forM fun _ _ => ?_) (Tally.counts_bind
          (Tally.counts_forM fun _ _ => ?_) (Tally.counts_pure _))
        · exact reports_reportIf (hasCode_pconfigEvent (by decide)) _
        · exact reports_reportIf (hasCode_pconfigEvent (by decide)) _

/-- The check of the kinds counts its events. -/
private theorem reports_checkDimmSkus :
    Reports (HasCode bestPracticesCodes) (checkDimmSkus devices) :=
  Tally.counts_bind (reports_reportIf (hasCode_pconfigEvent (by decide)) _)
    (Tally.counts_bind (reports_reportIf (hasCode_pconfigEvent (by decide)) _)
      (reports_reportIf (hasCode_pconfigEvent (by decide)) _))

/-- The checks of the DIMMs count their events. -/
private theorem reports_checkDimmBestPractices (devices : DeviceQueries) :
    Reports (HasCode bestPracticesCodes) (checkDimmBestPractices devices queries) := by
  refine Tally.counts_bind (reports_ask _) ?_
  rw [value_ask]
  match devices.getDeviceCount with
  | .error e => exact Tally.counts_pure _
  | .ok 0 => exact Tally.counts_pure _
  | .ok (n + 1) =>
    refine Tally.counts_bind (reports_ask _) ?_
    rw [value_ask]
    cases devices.getDevices (n + 1) with
    | error e => exact Tally.counts_pure _
    | ok filled =>
      dsimp only
      split_ifs
      · exact Tally.counts_pure _
      · exact Tally.counts_bind (reports_checkDimmSocketLayoutBestPractices queries _)
          (Tally.counts_bind (reports_checkDimmSkus _) (Tally.counts_pure _))

/-- The loop over the namespaces has no events. -/
private theorem reports_fetchNamespaceDetails (uids : List Uid) :
    Reports (HasCode bestPracticesCodes) (fetchNamespaceDetails queries uids) := by
  induction uids with
  | nil => exact Tally.counts_pure _
  | cons uid uids ih =>
    refine Tally.counts_bind (reports_ask _) ?_
    rw [value_ask]
    cases queries.getNamespaceDetails uid with
    | error e => exact Tally.counts_pure _
    | ok details => exact Tally.counts_bind ih (Tally.counts_pure _)

/-- The namespaces are fetched without events. -/
private theorem reports_getAllDriverNamespaceDetails (namespaceCount : ℕ) :
    Reports (HasCode bestPracticesCodes)
      (getAllDriverNamespaceDetails queries namespaceCount) := by
  refine Tally.counts_bind (reports_ask _) ?_
  rw [value_ask]
  cases queries.getNamespaces namespaceCount with
  | error e => exact Tally.counts_pure _
  | ok filled =>
    dsimp only
    split_ifs
    · exact Tally.counts_pure _
    · exact reports_fetchNamespaceDetails queries _

/-- The check of the interleave sets counts its events. -/
private theorem reports_checkIfPoolsNeedNamespaces (namespaces : List NvmNamespaceDetails) :
    Reports (HasCode bestPracticesCodes) (checkIfPoolsNeedNamespaces namespaces pools) := by
  refine Tally.counts_forM fun pool _ => ?_
  split_ifs
  · exact reports_reportIf ⟨rfl, show EventCode.poolNeedsAppDirectNamespaces ∈ _ by decide⟩ _
  · exact Tally.counts_pure _

/-- The comparison of the pools with the namespaces counts its events. -/
private theorem reports_checkNamespacesOfPools :
    Reports (HasCode bestPracticesCodes) (checkNamespacesOfPools queries pools) := by
  refine Tally.counts_bind (reports_ask _) ?_
  rw [value_ask]
  match queries.getNamespaceCount with
  | .error e => exact Tally.counts_pure _
  | .ok 0 => exact Tally.counts_pure _
  | .ok (n + 1) =>
    refine Tally.counts_bind (reports_getAllDriverNamespaceDetails queries (n + 1)) ?_
    cases (getAllDriverNamespaceDetails queries (n + 1)).value with
    | error e => exact Tally.counts_pure _
    | ok namespaces =>
      exact Tally.counts_bind (reports_checkIfPoolsNeedNamespaces pools namespaces)
        (Tally.counts_pure _)

end Accounted

/-! ### Namespaces that cannot be listed -/

/-- The namespaces cannot be listed: they cannot be counted, or, if there are any, they cannot be
found, or the details of one of them are missing. -/
def NamespacesFail (queries : BestPracticesQueries) : Prop :=
  (∃ e, queries.getNamespaceCount = .error e) ∨
    ∃ n, queries.getNamespaceCount = .ok (n + 1) ∧
      ((∃ e, queries.getNamespaces (n + 1) = .error e) ∨
        ∃ filled, queries.getNamespaces (n + 1) = .ok filled ∧ filled.returned ≠ 0 ∧
          ∃ uid ∈ filled.entries.take (n + 1), ∃ e, queries.getNamespaceDetails uid = .error e)

/-- There are pools. -/
def HasPools (queries : BestPracticesQueries) : Prop :=
  ∃ n filled, queries.getPoolCount = .ok (n + 1) ∧ queries.allocPools = .ok () ∧
    queries.getPools (n + 1) = .ok filled ∧ filled.returned ≠ 0

section Failing

variable (queries : BestPracticesQueries) (pools : List DiagPool)

/-- The loop over the namespaces fails exactly if the details of one are missing. -/
private theorem value_fetchNamespaceDetails (uids : List Uid) :
    (∃ e, (fetchNamespaceDetails queries uids).value = .error e) ↔
      ∃ uid ∈ uids, ∃ e, queries.getNamespaceDetails uid = .error e := by
  induction uids with
  | nil =>
    refine iff_of_false ?_ ?_
    · rintro ⟨_, h⟩
      cases h
    · rintro ⟨_, h, -⟩
      cases h
  | cons uid uids ih =>
    rw [List.exists_mem_cons_iff, ← ih, fetchNamespaceDetails, Tally.value_bind, value_ask]
    cases queries.getNamespaceDetails uid with
    | error e => exact iff_of_true ⟨e, rfl⟩ (Or.inl ⟨e, rfl⟩)
    | ok details =>
      have hnone : ¬ ∃ e, (.ok details : Except ErrorCode NvmNamespaceDetails) = .error e := by
        rintro ⟨_, h⟩
        cases h
      rw [or_iff_right hnone]
      dsimp only
      rw [Tally.value_bind]
      cases (fetchNamespaceDetails queries uids).value with
      | error e => exact iff_of_true ⟨e, rfl⟩ ⟨e, rfl⟩
      | ok rest =>
        refine iff_of_false ?_ ?_
        · rintro ⟨_, h⟩
          cases h
        · rintro ⟨_, h⟩
          cases h

/-- The comparison of the pools with the namespaces fails exactly if these cannot be listed. -/
private theorem value_checkNamespacesOfPools :
    (checkNamespacesOfPools queries pools).value ≠ nvmSuccess ↔ NamespacesFail queries := by
  unfold NamespacesFail checkNamespacesOfPools
  rw [Tally.value_bind, value_ask]
  match queries.getNamespaceCount with
  | .error e => exact iff_of_true e.property.ne (Or.inl ⟨e, rfl⟩)
  | .ok 0 =>
    refine iff_of_false (fun h => h rfl) ?_
    rintro (⟨_, h⟩ | ⟨_, h, -⟩)
    · cases h
    · cases h
  | .ok (n + 1) =>
    have hcount : ((∃ e, (.ok (n + 1) : Except ErrorCode ℕ) = .error e) ∨
        ∃ m, (.ok (n + 1) : Except ErrorCode ℕ) = .ok (m + 1) ∧
          ((∃ e, queries.getNamespaces (m + 1) = .error e) ∨
            ∃ filled, queries.getNamespaces (m + 1) = .ok filled ∧ filled.returned ≠ 0 ∧
              ∃ uid ∈ filled.entries.take (m + 1),
                ∃ e, queries.getNamespaceDetails uid = .error e)) ↔
        ((∃ e, queries.getNamespaces (n + 1) = .error e) ∨
          ∃ filled, queries.getNamespaces (n + 1) = .ok filled ∧ filled.returned ≠ 0 ∧
            ∃ uid ∈ filled.entries.take (n + 1),
              ∃ e, queries.getNamespaceDetails uid = .error e) := by
      constructor
      · rintro (⟨_, h⟩ | ⟨m, h, hfail⟩)
        · cases h
        · obtain rfl : n = m := Nat.succ.inj (Except.ok.inj h)
          exact hfail
      · exact fun hfail => Or.inr ⟨n, rfl, hfail⟩
    rw [hcount]
    dsimp only
    rw [Tally.value_bind, getAllDriverNamespaceDetails, Tally.value_bind, value_ask]
    cases queries.getNamespaces (n + 1) with
    | error e => exact iff_of_true e.property.ne (Or.inl ⟨e, rfl⟩)
    | ok filled =>
      have hlisted : ((∃ e, (.ok filled : Except ErrorCode (Filled Uid)) = .error e) ∨
          ∃ filled', (.ok filled : Except ErrorCode (Filled Uid)) = .ok filled' ∧
            filled'.returned ≠ 0 ∧ ∃ uid ∈ filled'.entries.take (n + 1),
              ∃ e, queries.getNamespaceDetails uid = .error e) ↔ filled.returned ≠ 0 ∧
            ∃ uid ∈ filled.entries.take (n + 1),
              ∃ e, queries.getNamespaceDetails uid = .error e := by
        constructor
        · rintro (⟨_, h⟩ | ⟨filled', h, hfail⟩)
          · cases h
          · obtain rfl := Except.ok.inj h
            exact hfail
        · exact fun hfail => Or.inr ⟨filled, rfl, hfail⟩
      rw [hlisted, ← value_fetchNamespaceDetails]
      dsimp only
      split_ifs with hreturned
      · exact iff_of_false (fun h => h rfl) fun h => h.1 hreturned
      · rw [and_iff_right hreturned]
        cases (fetchNamespaceDetails queries (filled.entries.take (n + 1))).value with
        | error e => exact iff_of_true e.property.ne ⟨e, rfl⟩
        | ok details =>
          refine iff_of_false (fun h => h rfl) ?_
          rintro ⟨_, h⟩
          cases h

/-- Unless the namespaces cannot be listed, the comparison with them counts its events. -/
private theorem reports_checkNamespaceBestPracticesWithPools (h : ¬ NamespacesFail queries) :
    Reports (HasCode bestPracticesCodes) (checkNamespaceBestPracticesWithPools queries pools) := by
  refine Tally.counts_bind (reports_checkNamespacesOfPools queries pools) ?_
  rw [if_neg fun hfail => h ((value_checkNamespacesOfPools queries pools).mp hfail)]
  exact Tally.counts_pure _

/-- If the namespaces cannot be listed, the event is not counted. -/
private theorem misses_checkNamespaceBestPracticesWithPools (h : NamespacesFail queries) :
    Misses (HasCode bestPracticesCodes) (checkNamespaceBestPracticesWithPools queries pools) := by
  refine misses_then (reports_checkNamespacesOfPools queries pools) ?_
  rw [if_pos ((value_checkNamespacesOfPools queries pools).mpr h)]
  exact misses_storeEvent (hasCode_pconfigEvent (by decide))

/-- The check of the pools counts its events, unless there are pools and the namespaces cannot be
listed. -/
private theorem reports_checkNamespaceBestPractices (h : ¬ (HasPools queries ∧ NamespacesFail queries)) :
    Reports (HasCode bestPracticesCodes) (checkNamespaceBestPractices queries) := by
  have hfailed : Reports (HasCode bestPracticesCodes) (do
      report poolsFailedEvent
      pure nvmSuccess : Diag ℤ) :=
    Tally.counts_bind (reports_report (hasCode_pconfigEvent (by decide))) (Tally.counts_pure _)
  refine Tally.counts_bind (reports_ask _) ?_
  rw [value_ask]
  match hcount : queries.getPoolCount with
  | .error e => exact hfailed
  | .ok 0 => exact Tally.counts_pure _
  | .ok (n + 1) =>
    refine Tally.counts_bind (reports_ask _) ?_
    rw [value_ask]
    cases halloc : queries.allocPools with
    | error e => exact Tally.counts_pure _
    | ok _ =>
      refine Tally.counts_bind (reports_ask _) ?_
      rw [value_ask]
      cases hpools : queries.getPools (n + 1) with
      | error e => exact hfailed
      | ok filled =>
        dsimp only
        split_ifs with hreturned
        · exact Tally.counts_pure _
        · have hnamespaces : ¬ NamespacesFail queries := fun hfail =>
            h ⟨⟨n, filled, hcount, halloc, hpools, hreturned⟩, hfail⟩
          exact Tally.counts_bind
            (reports_checkNamespaceBestPracticesWithPools queries _ hnamespaces)
            (Tally.counts_pure _)

/-- If there are pools and the namespaces cannot be listed, an event of the check is not counted. -/
private theorem misses_checkNamespaceBestPractices (hpools : HasPools queries)
    (hfail : NamespacesFail queries) :
    Misses (HasCode bestPracticesCodes) (checkNamespaceBestPractices queries) := by
  obtain ⟨n, filled, hcount, halloc, hget, hreturned⟩ := hpools
  unfold checkNamespaceBestPractices
  refine misses_then (reports_ask _) ?_
  rw [value_ask, hcount]
  refine misses_then (reports_ask _) ?_
  rw [value_ask, halloc]
  refine misses_then (reports_ask _) ?_
  rw [value_ask, hget]
  dsimp only
  rw [if_neg hreturned]
  exact misses_before (misses_checkNamespaceBestPracticesWithPools queries _ hfail)
    (Tally.counts_pure _)

variable (devices : DeviceQueries)

/-- The check counts its events, unless there are pools and the namespaces cannot be listed. -/
theorem reports_checkPlatformConfigBestPractices
    (h : ¬ (HasPools queries ∧ NamespacesFail queries)) :
    Reports (HasCode bestPracticesCodes) (checkPlatformConfigBestPractices devices queries) :=
  Tally.counts_bind (reports_checkDimmBestPractices queries devices)
    (Tally.counts_bind (reports_checkNamespaceBestPractices queries h) (Tally.counts_pure _))

/-- If there are pools and the namespaces cannot be listed, an event of the check is not counted. -/
theorem misses_checkPlatformConfigBestPractices (hpools : HasPools queries)
    (hfail : NamespacesFail queries) :
    Misses (HasCode bestPracticesCodes) (checkPlatformConfigBestPractices devices queries) :=
  misses_then (reports_checkDimmBestPractices queries devices)
    (misses_before (misses_checkNamespaceBestPractices queries hpools hfail) (Tally.counts_pure _))

/-- The events of the check have its codes. -/
theorem hasCode_of_mem_bestPractices {event : DiagEvent}
    (hevent : event ∈ events (checkPlatformConfigBestPractices devices queries).log) :
    HasCode bestPracticesCodes event := by
  by_cases h : HasPools queries ∧ NamespacesFail queries
  · exact (misses_checkPlatformConfigBestPractices queries devices h.1 h.2).findings event hevent
  · have hreports := reports_checkPlatformConfigBestPractices queries devices h
    exact (reports_iff.mp hreports).2 event hevent

/-- Without a failed query, the sockets are read. -/
private theorem settles_checkDimmSocketLayoutBestPractices (dimms : List DiagDiscovery) :
    Settles (0 ≤ ·) (checkDimmSocketLayoutBestPractices queries dimms) := by
  refine settles_ask fun count hcount => ?_
  rw [hcount]
  match count with
  | 0 => exact settles_pure le_rfl
  | n + 1 =>
    refine settles_ask fun filled hfilled => ?_
    rw [hfilled]
    dsimp only
    split_ifs
    · exact settles_pure le_rfl
    · exact settles_bind fun _ _ => settles_bind fun _ _ => settles_pure (Int.natCast_nonneg _)

/-- Without a failed query, the DIMMs are read. -/
private theorem settles_checkDimmBestPractices :
    Settles (0 ≤ ·) (checkDimmBestPractices devices queries) := by
  refine settles_ask fun count hcount => ?_
  rw [hcount]
  match count with
  | 0 => exact settles_pure le_rfl
  | n + 1 =>
    refine settles_ask fun filled hfilled => ?_
    rw [hfilled]
    dsimp only
    split_ifs
    · exact settles_pure le_rfl
    · refine settles_then (settles_checkDimmSocketLayoutBestPractices queries _) fun hrc => ?_
      refine settles_bind fun _ _ => settles_pure ?_
      rw [keepError, if_neg (not_lt.mpr (Int.natCast_nonneg _))]
      exact hrc

/-- Without a failed query, the check of the pools returns success. -/
private theorem settled_checkNamespaceBestPractices :
    Settled (checkNamespaceBestPractices queries) := by
  refine settles_ask fun count hcount => ?_
  rw [hcount]
  match count with
  | 0 => exact settled_pure
  | n + 1 =>
    refine settles_ask fun _ halloc => ?_
    rw [halloc]
    refine settles_ask fun filled hfilled => ?_
    rw [hfilled]
    dsimp only
    split_ifs
    · exact settled_pure
    · exact settles_bind fun _ _ => settled_pure

/-- Without a failed query, the check returns success. -/
theorem settled_checkPlatformConfigBestPractices :
    Settled (checkPlatformConfigBestPractices devices queries) := by
  refine settles_then (settles_checkDimmBestPractices queries devices) fun hrc => ?_
  refine settles_then (settled_checkNamespaceBestPractices queries) fun hnamespaces => ?_
  refine settles_pure ?_
  rw [keepError, if_neg (not_lt.mpr hrc), hnamespaces]

end Failing

end IxpDimm.Diagnostic
