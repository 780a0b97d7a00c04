import IxpDimm.Pcat.Tables

/-!
# The socket SKU

`get_socket_sku` of `system.c`: the walk through the PCAT that looks for the socket SKU table of a
socket.  What it returns depends on the socket tables only (`visitTables_sku`).
-/

namespace IxpDimm.Pcat

open Foundation

/-- The part of `struct socket` that the PCAT fills. -/
structure Socket where
  /-- `mapped_memory_limit`. -/
  mappedMemoryLimit : ℕ := 0
  /-- `total_mapped_memory`. -/
  totalMappedMemory : ℕ := 0
  /-- `total_2lm_ddr_cache_memory`. -/
  total2lmDdrCacheMemory : ℕ := 0
  /-- `is_capacity_skuing_supported`. -/
  isCapacitySkuingSupported : Bool := false
  deriving DecidableEq, Repr

/-- What `get_socket_sku` does at a table. -/
def skuVisit (id type : ℕ) (table : List UInt8) (socket : Socket) :
    Except Fault (Visit Socket) :=
  if type = 6 then do
    let nodeId ← field table 4 2
    if nodeId = id then do
      let mappedMemoryLimit ← field table 8 8
      let totalMappedMemory ← field table 16 8
      let total2lmDdrCacheMemory ← field table 24 8
      let rc : ReturnCode :=
        if mappedMemoryLimit = 0 then .errBadPcat
        else if mappedMemoryLimit ≤ totalMappedMemory then .errBadPcat
        else if totalMappedMemory = 0 then .errBadPcat
        else .success
      pure (.leave rc ⟨mappedMemoryLimit, totalMappedMemory, total2lmDdrCacheMemory, true⟩)
    else pure (.next socket)
  else pure (.next socket)

/-- `get_socket_sku` of the socket with an identifier. -/
def getSocketSku (pcat : List UInt8) (id fuel : ℕ) : Option (Except Fault (ReturnCode × Socket)) :=
  walkTables pcat (skuVisit id) {} fuel

/-- The fields of a socket SKU table. -/
structure SocketInfo where
  /-- `node_id`. -/
  nodeId : ℕ
  /-- `mapped_memory_limit`. -/
  mappedMemoryLimit : ℕ
  /-- `total_mapped_memory`. -/
  totalMappedMemory : ℕ
  /-- `total_2lm_ddr_cache_memory`. -/
  total2lmDdrCacheMemory : ℕ
  deriving DecidableEq, Repr

/-- The fields of the socket SKU table in these bytes. -/
def socketInfo (table : List UInt8) : SocketInfo where
  nodeId := readLE (ofList table) 4 2
  mappedMemoryLimit := readLE (ofList table) 8 8
  totalMappedMemory := readLE (ofList table) 16 8
  total2lmDdrCacheMemory := readLE (ofList table) 24 8

/-- The socket SKU tables. -/
def socketInfos (tables : List (List UInt8)) : List SocketInfo :=
  (tables.filter fun table => tableType table = 6).map socketInfo

/-- The status of a socket with these fields. -/
def SocketInfo.status (info : SocketInfo) : ReturnCode :=
  if info.mappedMemoryLimit = 0 then .errBadPcat
  else if info.mappedMemoryLimit ≤ info.totalMappedMemory then .errBadPcat
  else if info.totalMappedMemory = 0 then .errBadPcat
  else .success

/-- The socket with these fields. -/
def SocketInfo.socket (info : SocketInfo) : Socket :=
  ⟨info.mappedMemoryLimit, info.totalMappedMemory, info.total2lmDdrCacheMemory, true⟩

/-- Where the walk is after it looked for a socket. -/
def skuResult (found : Option SocketInfo) (socket : Socket) : Visit Socket :=
  match found with
  | some info => .leave info.status info.socket
  | none => .next socket

/-- What the walk does at a socket SKU table that has its fields. -/
private theorem skuVisit_socket {id : ℕ} {table : List UInt8} {socket : Socket}
    (h : 32 ≤ table.length) :
    skuVisit id 6 table socket =
      if (socketInfo table).nodeId = id then
        .ok (.leave (socketInfo table).status (socketInfo table).socket)
      else .ok (.next socket) := by
  rw [skuVisit, if_pos rfl, field_of_le (by omega), ok_bind, field_of_le (by omega),
    field_of_le (by omega), field_of_le (by omega)]
  rfl

/-- The walk finds the first socket SKU table of the socket. -/
theorem visitTables_sku {id : ℕ} {tables : List (List UInt8)}
    (h : ∀ table ∈ tables, tableType table = 6 → 32 ≤ table.length) (socket : Socket) :
    visitTables (skuVisit id) tables socket =
      .ok (skuResult ((socketInfos tables).find? fun info => info.nodeId = id) socket) := by
  induction tables with
  | nil => rfl
  | cons table tables ih =>
    have hrest := ih fun t ht => h t (List.mem_cons_of_mem table ht)
    rw [visitTables, socketInfos, List.filter_cons]
    by_cases htype : tableType table = 6
    · have htest : decide (6 = 6) = true := rfl
      rw [htype, skuVisit_socket (h table List.mem_cons_self htype), if_pos htest, List.map_cons,
        List.find?_cons]
      by_cases hid : (socketInfo table).nodeId = id
      · rw [if_pos hid, decide_eq_true hid]
        rfl
      · rw [if_neg hid, decide_eq_false hid]
        exact hrest
    · rw [skuVisit, if_neg htype, if_neg (by simpa using htype)]
      exact hrest

end IxpDimm.Pcat
