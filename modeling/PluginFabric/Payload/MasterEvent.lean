import PluginFabric.Json.Field
import PluginFabric.Timestamp
import PluginFabric.Uuid

/-! Events of the master.

    What the master's control loop recognises about containers, operators and the application. The
    kind of an event is written as an object whose member `type` names it; it is also read from a
    list that begins with that name. The detail is any value. -/

namespace PluginFabric

/-- A condition of the engine that the master recognises. -/
inductive MasterEventKind where
  | containerStarted (containerId : String)
  | containerStopped (containerId : String) (exitStatus : Option Int32)
  | operatorStarted (operatorId : Int32) (containerId : String)
  | operatorStopped (operatorId : Int32)
  | operatorFailed (operatorId : Int32) (reason : String)
  | repartitioned (operatorName : String) (oldPartitions newPartitions : UInt32)
  | applicationStateChanged (source target : String)
  deriving DecidableEq

namespace MasterEventKind

/-- The kind of this name with fields from the source. -/
def ofSource? (name : String) (s : Record.Source Json) : Option MasterEventKind :=
  match name with
  | "container_started" => do
    return containerStarted (← s.required 0 "container_id" Json.text?)
  | "container_stopped" => do
    return containerStopped (← s.required 0 "container_id" Json.text?)
      (← s.optional 1 "exit_status" (Json.nullable? Json.int32?))
  | "operator_started" => do
    return operatorStarted (← s.required 0 "operator_id" Json.int32?)
      (← s.required 1 "container_id" Json.text?)
  | "operator_stopped" => do
    return operatorStopped (← s.required 0 "operator_id" Json.int32?)
  | "operator_failed" => do
    return operatorFailed (← s.required 0 "operator_id" Json.int32?)
      (← s.required 1 "reason" Json.text?)
  | "repartitioned" => do
    return repartitioned (← s.required 0 "operator_name" Json.text?)
      (← s.required 1 "old_partitions" Json.uint32?) (← s.required 2 "new_partitions" Json.uint32?)
  | "application_state_changed" => do
    return applicationStateChanged (← s.required 0 "from" Json.text?)
      (← s.required 1 "to" Json.text?)
  | _ => none

/-- The number of fields that the kind of this name has. -/
def arity (name : String) : Nat :=
  match name with
  | "container_started" | "operator_stopped" => 1
  | "repartitioned" => 3
  | _ => 2

def decode : Json → Option MasterEventKind
  | .obj ms => do
    let name ← (← SortedMap.lookup "type" ms).text?
    ofSource? name (.members ms)
  | .arr (.str name :: xs) => do
    ofSource? name (← Record.Source.ofElements? (arity name) xs)
  | _ => none

def encode : MasterEventKind → Json
  | containerStarted c => .object [("type", .str "container_started"), ("container_id", .str c)]
  | containerStopped c e => .object [("type", .str "container_stopped"), ("container_id", .str c),
      ("exit_status", .ofOption .ofInt32 e)]
  | operatorStarted o c => .object [("type", .str "operator_started"), ("operator_id", .ofInt32 o),
      ("container_id", .str c)]
  | operatorStopped o => .object [("type", .str "operator_stopped"), ("operator_id", .ofInt32 o)]
  | operatorFailed o r => .object [("type", .str "operator_failed"), ("operator_id", .ofInt32 o),
      ("reason", .str r)]
  | repartitioned n old new => .object [("type", .str "repartitioned"), ("operator_name", .str n),
      ("old_partitions", .ofUInt32 old), ("new_partitions", .ofUInt32 new)]
  | applicationStateChanged s t => .object [("type", .str "application_state_changed"),
      ("from", .str s), ("to", .str t)]

end MasterEventKind

/-- A record of the engine's life, delivered once and never again. -/
structure MasterEvent where
  id : Uuid
  timestamp : Timestamp
  kind : MasterEventKind
  detail : Json := .null

namespace MasterEvent

/-- Equality of events, with numbers in the detail compared as numbers. -/
def same (a b : MasterEvent) : Bool :=
  a.id == b.id && a.timestamp == b.timestamp && a.kind == b.kind && a.detail.same b.detail

def decode (j : Json) : Option MasterEvent := do
  let s ← j.source? 4
  return {
    id := ← s.required 0 "id" fun v => v.text?.bind Uuid.ofText?
    timestamp := ← s.required 1 "timestamp" fun v => v.text?.bind Timestamp.ofText?
    kind := ← s.required 2 "kind" MasterEventKind.decode
    detail := ← s.defaulted 3 "detail" .null some }

def encode (e : MasterEvent) : Json := .object [
  ("id", .str e.id.toText),
  ("timestamp", .str e.timestamp.toText),
  ("kind", e.kind.encode),
  ("detail", e.detail)]

end MasterEvent

end PluginFabric
