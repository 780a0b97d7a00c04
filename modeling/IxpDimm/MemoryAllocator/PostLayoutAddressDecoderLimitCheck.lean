import IxpDimm.MemoryAllocator.RequestRules

/-!
# The limit of the address decoders

`PostLayoutAddressDecoderLimitCheck.cpp`: on a large system the interleave sets of a socket are
limited, since each of them takes an address decoder.  The check adds, for each socket of the layout,
the sets of its goals to the existing sets that the layout leaves alone.

The ids of the sets are collected in a list that is sorted and freed of repetitions, and the counts
have 16 bits.  `verify_eq_ok_iff` gives what is accepted in terms of the sets.
-/

namespace IxpDimm.PostLayoutAddressDecoderLimitCheck

open Foundation RuleDimmListInvalid

/-! ### The check -/

/-- `criticalNumberOfSockets`. -/
def criticalNumberOfSockets : UInt16 := 8

/-- `criticalNumberOfIlsetsOnSocket`. -/
def criticalNumberOfIlsetsOnSocket : UInt16 := 7

/-- `getSocketIdForDimm`: the socket of the first device with the uid. -/
def getSocketIdForDimm (devices : List SecureDiscovery) (uid : Uid) : UInt16 :=
  match devices.find? fun device => uidCmp device.uid uid with
  | some device => device.socketId
  | none => 0

/-- `getListOfSocketsInLayout`. -/
def getListOfSocketsInLayout (devices : List SecureDiscovery) (layout : MemoryAllocationLayout) :
    List UInt16 :=
  sortUnique UInt16.toNat (layout.goalUids.map fun uid =>
    getSocketIdForDimm devices (uidCopy uid))

/-- `getConfigGoalsForSocket`. -/
def getConfigGoalsForSocket (devices : List SecureDiscovery) (layout : MemoryAllocationLayout)
    (socketId : UInt16) : List ConfigGoal :=
  (layout.goalUids.filter fun uid =>
    getSocketIdForDimm devices (uidCopy uid) == socketId).map layout.goals

/-- The ids that a goal adds to `interleaveSetIndexList`. -/
def interleaveSetIndexes (goal : ConfigGoal) : List UInt16 :=
  (if goal.appDirectCount > 0 then [goal.appDirect1SetId] else []) ++
    if goal.appDirectCount > 1 then [goal.appDirect2SetId] else []

/-- `getNumberOfConfigGoalInterleaveSetsOnSocket`. -/
def getNumberOfConfigGoalInterleaveSetsOnSocket (devices : List SecureDiscovery)
    (layout : MemoryAllocationLayout) (socketId : UInt16) : UInt16 :=
  UInt16.ofNat (sortUnique UInt16.toNat
    ((getConfigGoalsForSocket devices layout socketId).flatMap interleaveSetIndexes)).length

/-- `isInterleaveSetOverwrittenByLayout`. -/
def isInterleaveSetOverwrittenByLayout (layout : MemoryAllocationLayout)
    (interleave : InterleaveSet) : Bool :=
  interleave.members.any fun uid => layout.goalUids.contains (uidCopy uid)

/-- `getNumberOfUnchangedInterleaveSetsInPool`. -/
def getNumberOfUnchangedInterleaveSetsInPool (layout : MemoryAllocationLayout) (pool : Pool) :
    UInt16 :=
  pool.ilsets.foldl (fun numUnchangedInterleaveSets interleave =>
    if isInterleaveSetOverwrittenByLayout layout interleave then numUnchangedInterleaveSets
    else numUnchangedInterleaveSets + 1) 0

/-- `getNumberOfUnchangedPoolInterleaveSetsOnSocket`. -/
def getNumberOfUnchangedPoolInterleaveSetsOnSocket (pools : List Pool)
    (layout : MemoryAllocationLayout) (socketId : UInt16) : UInt16 :=
  pools.foldl (fun numPoolInterleaveSets pool =>
    if pool.socketId = (socketId.toNat : ℤ) then
      numPoolInterleaveSets + getNumberOfUnchangedInterleaveSetsInPool layout pool
    else numPoolInterleaveSets) 0

/-- `getNumberOfIlsetsOnSocket`. -/
def getNumberOfIlsetsOnSocket (devices : List SecureDiscovery) (pools : List Pool)
    (layout : MemoryAllocationLayout) (socketId : UInt16) : UInt16 :=
  getNumberOfConfigGoalInterleaveSetsOnSocket devices layout socketId +
    getNumberOfUnchangedPoolInterleaveSetsOnSocket pools layout socketId

/-- The loop of `verify` over the sockets of the layout. -/
def checkSockets (devices : List SecureDiscovery) (pools : List Pool)
    (layout : MemoryAllocationLayout) : List UInt16 → RuleResult
  | [] => .ok ()
  | socketId :: sockets =>
    if getNumberOfIlsetsOnSocket devices pools layout socketId > criticalNumberOfIlsetsOnSocket then
      .error .overAddressDecoderLimit
    else checkSockets devices pools layout sockets

/-- `PostLayoutAddressDecoderLimitCheck::verify`. -/
def verify (devices : List SecureDiscovery) (pools : List Pool) (numSystemSockets : UInt16)
    (layout : MemoryAllocationLayout) : RuleResult :=
  if numSystemSockets ≥ criticalNumberOfSockets then
    checkSockets devices pools layout (getListOfSocketsInLayout devices layout)
  else .ok ()

/-! ### The sets of a socket -/

/-- The ids of the interleave sets that the goals of a layout have on a socket. -/
def goalSets (devices : List SecureDiscovery) (layout : MemoryAllocationLayout)
    (socketId : UInt16) : Finset UInt16 :=
  ((getConfigGoalsForSocket devices layout socketId).flatMap interleaveSetIndexes).toFinset

/-- The existing interleave sets of a socket that have no DIMM in the layout. -/
def unchangedSets (pools : List Pool) (layout : MemoryAllocationLayout) (socketId : UInt16) :
    List InterleaveSet :=
  (pools.filter fun pool => pool.socketId = (socketId.toNat : ℤ)).flatMap fun pool =>
    pool.ilsets.filter fun interleave => !isInterleaveSetOverwrittenByLayout layout interleave

/-- The interleave sets of a socket once the goals of the layout are applied. -/
def setsAfterLayout (devices : List SecureDiscovery) (pools : List Pool)
    (layout : MemoryAllocationLayout) (socketId : UInt16) : ℕ :=
  (goalSets devices layout socketId).card + (unchangedSets pools layout socketId).length

/-! ### What is counted -/

/-- A 16-bit counter that is raised for each element to count. -/
private theorem foldl_count {α : Type} (p : α → Bool) (l : List α) (n : UInt16) :
    l.foldl (fun n a => if p a then n else n + 1) n =
      n + UInt16.ofNat (l.filter fun a => !p a).length := by
  induction l generalizing n with
  | nil => simp
  | cons a l ih =>
    rw [List.foldl_cons, ih]
    cases hp : p a with
    | true => simp [hp]
    | false => simp [hp, UInt16.ofNat_add, UInt16.add_assoc, UInt16.add_comm]

/-- The existing sets that are left alone are counted. -/
private theorem unchangedSets_count (pools : List Pool) (layout : MemoryAllocationLayout)
    (socketId : UInt16) :
    getNumberOfUnchangedPoolInterleaveSetsOnSocket pools layout socketId =
      UInt16.ofNat (unchangedSets pools layout socketId).length := by
  have hfold : ∀ n, pools.foldl (fun n pool =>
      if pool.socketId = (socketId.toNat : ℤ) then
        n + getNumberOfUnchangedInterleaveSetsInPool layout pool else n) n =
      n + UInt16.ofNat (unchangedSets pools layout socketId).length := by
    induction pools with
    | nil => intro n; simp [unchangedSets]
    | cons pool pools ih =>
      intro n
      rw [List.foldl_cons, ih]
      by_cases hsocket : pool.socketId = (socketId.toNat : ℤ)
      · rw [if_pos hsocket, getNumberOfUnchangedInterleaveSetsInPool, foldl_count]
        simp [unchangedSets, hsocket, UInt16.ofNat_add, UInt16.add_assoc]
      · rw [if_neg hsocket]
        simp [unchangedSets, hsocket]
  rw [getNumberOfUnchangedPoolInterleaveSetsOnSocket, hfold, UInt16.zero_add]

/-- The count for a socket, in 16 bits. -/
private theorem toNat_getNumberOfIlsetsOnSocket (devices : List SecureDiscovery)
    (pools : List Pool) (layout : MemoryAllocationLayout) (socketId : UInt16) :
    (getNumberOfIlsetsOnSocket devices pools layout socketId).toNat =
      setsAfterLayout devices pools layout socketId % 2 ^ 16 := by
  rw [getNumberOfIlsetsOnSocket, getNumberOfConfigGoalInterleaveSetsOnSocket, length_sortUnique fun _ _ => UInt16.toNat_inj.mp,
    unchangedSets_count, ← UInt16.ofNat_add, UInt16.toNat_ofNat']
  rfl

/-- The loop over the sockets accepts when no socket has too many sets. -/
private theorem checkSockets_eq_ok_iff (devices : List SecureDiscovery) (pools : List Pool)
    (layout : MemoryAllocationLayout) (sockets : List UInt16) :
    checkSockets devices pools layout sockets = .ok () ↔ ∀ socketId ∈ sockets,
      setsAfterLayout devices pools layout socketId % 2 ^ 16 ≤ 7 := by
  induction sockets with
  | nil => exact iff_of_true rfl (List.forall_mem_nil _)
  | cons socketId sockets ih =>
    have hlimit : getNumberOfIlsetsOnSocket devices pools layout socketId >
        criticalNumberOfIlsetsOnSocket ↔
          ¬ setsAfterLayout devices pools layout socketId % 2 ^ 16 ≤ 7 := by
      rw [gt_iff_lt, UInt16.lt_iff_toNat_lt, toNat_getNumberOfIlsetsOnSocket, not_le]
      rfl
    rw [checkSockets, List.forall_mem_cons, ← ih]
    by_cases hover : getNumberOfIlsetsOnSocket devices pools layout socketId >
        criticalNumberOfIlsetsOnSocket
    · rw [if_pos hover]
      exact iff_of_false (fun h => by cases h) fun h => hlimit.mp hover h.1
    · rw [if_neg hover]
      exact (and_iff_right (not_not.mp fun h => hover (hlimit.mpr h))).symm

/-- On a system of eight sockets or more a layout is accepted exactly when no socket of its DIMMs
comes to more than seven interleave sets, counted in 16 bits; on a smaller one it always is. -/
theorem verify_eq_ok_iff (devices : List SecureDiscovery) (pools : List Pool)
    (numSystemSockets : UInt16) (layout : MemoryAllocationLayout) :
    verify devices pools numSystemSockets layout = .ok () ↔
      (8 ≤ numSystemSockets.toNat → ∀ uid ∈ layout.goalUids,
        setsAfterLayout devices pools layout (getSocketIdForDimm devices (uidCopy uid)) % 2 ^ 16
          ≤ 7) := by
  have hlarge : numSystemSockets ≥ criticalNumberOfSockets ↔ 8 ≤ numSystemSockets.toNat :=
    UInt16.le_iff_toNat_le
  rw [verify, ← hlarge]
  by_cases h : numSystemSockets ≥ criticalNumberOfSockets
  · rw [if_pos h, checkSockets_eq_ok_iff]
    simp only [getListOfSocketsInLayout, mem_sortUnique, List.forall_mem_map]
    exact ⟨fun hall _ => hall, fun hall => hall h⟩
  · rw [if_neg h]
    exact iff_of_true rfl fun hcritical => absurd hcritical h

end IxpDimm.PostLayoutAddressDecoderLimitCheck
