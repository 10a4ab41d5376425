import PluginFabric.Window

/-! Heartbeats.

    A container reports its condition and that of each operator it runs. The reports are snapshots:
    the fabric moves them from the control loop to the plugins and never looks inside. -/

namespace PluginFabric

/-- The state an operator reports. -/
inductive OperatorState where | pending | active | idle | failed
  deriving DecidableEq, Inhabited

namespace OperatorState

def name : OperatorState → String
  | pending => "pending"
  | active => "active"
  | idle => "idle"
  | failed => "failed"

def all : List OperatorState := [pending, active, idle, failed]

def decode (j : Json) : Option OperatorState := do
  let label ← j.label?
  all.find? fun s => s.name == label

def encode (s : OperatorState) : Json := .str s.name

end OperatorState

/-- The part of a heartbeat about one operator. -/
structure OperatorHeartbeat where
  operatorId : Int32
  currentWindow : WindowId
  state : OperatorState
  deriving DecidableEq

namespace OperatorHeartbeat

def decode (j : Json) : Option OperatorHeartbeat := do
  let s ← j.source? 3
  return {
    operatorId := ← s.required 0 "operator_id" Json.int32?
    currentWindow := ← s.required 1 "current_window" WindowId.decode
    state := ← s.required 2 "state" OperatorState.decode }

def encode (o : OperatorHeartbeat) : Json := .object [
  ("operator_id", .ofInt32 o.operatorId),
  ("current_window", o.currentWindow.encode),
  ("state", o.state.encode)]

end OperatorHeartbeat

/-- One report of a container to the master. -/
structure ContainerHeartbeat where
  containerId : String
  sentAtMillis : Int64
  memoryMbFree : UInt32 := 0
  gcCollectionMillis : UInt64 := 0
  operators : List OperatorHeartbeat := []
  deriving DecidableEq

namespace ContainerHeartbeat

/-- The report with one more operator. -/
def withOperator (h : ContainerHeartbeat) (o : OperatorHeartbeat) : ContainerHeartbeat :=
  { h with operators := h.operators ++ [o] }

def decode (j : Json) : Option ContainerHeartbeat := do
  let s ← j.source? 5
  return {
    containerId := ← s.required 0 "container_id" Json.text?
    sentAtMillis := ← s.required 1 "sent_at_millis" Json.int64?
    memoryMbFree := ← s.required 2 "memory_mb_free" Json.uint32?
    gcCollectionMillis := ← s.required 3 "gc_collection_millis" Json.uint64?
    operators := ← s.defaulted 4 "operators" [] (Json.listOf? OperatorHeartbeat.decode) }

def encode (h : ContainerHeartbeat) : Json := .object [
  ("container_id", .str h.containerId),
  ("sent_at_millis", .ofInt64 h.sentAtMillis),
  ("memory_mb_free", .ofUInt32 h.memoryMbFree),
  ("gc_collection_millis", .ofUInt64 h.gcCollectionMillis),
  ("operators", .arr (h.operators.map OperatorHeartbeat.encode))]

end ContainerHeartbeat

end PluginFabric
