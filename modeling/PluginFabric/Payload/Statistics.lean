import PluginFabric.Window
import PluginFabric.Timestamp

/-! Statistics of a running application.

    Snapshots that execution plugins may read: the identity of the application, its counters, the
    counters of one physical operator, the summary of one logical operator over its partitions, and
    the metrics an operator published for one window. -/

namespace PluginFabric

/-- Who the running application is and how it was launched. -/
structure AppContext where
  appId : String := ""
  name : String := ""
  user : String := ""
  startTime : Option Timestamp := none
  appPath : String := ""
  deriving DecidableEq, Inhabited

namespace AppContext

def decode (j : Json) : Option AppContext := do
  let s ← j.source? 5
  return {
    appId := ← s.required 0 "app_id" Json.text?
    name := ← s.required 1 "name" Json.text?
    user := ← s.required 2 "user" Json.text?
    startTime := ← s.defaulted 3 "start_time" none
      (Json.nullable? fun v => v.text?.bind Timestamp.ofText?)
    appPath := ← s.required 4 "app_path" Json.text? }

def encode (c : AppContext) : Json := .object ([
  ("app_id", .str c.appId),
  ("name", .str c.name),
  ("user", .str c.user),
  ("app_path", .str c.appPath)] ++
  Json.optionalMember "start_time" (fun t => .str (Timestamp.toText t)) c.startTime)

end AppContext

/-- The counters of an application. -/
structure AppStats where
  plannedContainers : UInt32 := 0
  allocatedContainers : UInt32 := 0
  totalTuplesProcessed : UInt64 := 0
  totalTuplesEmitted : UInt64 := 0
  currentWindow : WindowId := ⟨0⟩
  recoveryWindow : WindowId := ⟨0⟩
  failedOperators : UInt32 := 0
  latencyMillis : UInt64 := 0
  deriving DecidableEq, Inhabited

namespace AppStats

def decode (j : Json) : Option AppStats := do
  let s ← j.source? 8
  return {
    plannedContainers := ← s.required 0 "planned_containers" Json.uint32?
    allocatedContainers := ← s.required 1 "allocated_containers" Json.uint32?
    totalTuplesProcessed := ← s.required 2 "total_tuples_processed" Json.uint64?
    totalTuplesEmitted := ← s.required 3 "total_tuples_emitted" Json.uint64?
    currentWindow := ← s.required 4 "current_window" WindowId.decode
    recoveryWindow := ← s.required 5 "recovery_window" WindowId.decode
    failedOperators := ← s.required 6 "failed_operators" Json.uint32?
    latencyMillis := ← s.required 7 "latency_millis" Json.uint64? }

def encode (a : AppStats) : Json := .object [
  ("planned_containers", .ofUInt32 a.plannedContainers),
  ("allocated_containers", .ofUInt32 a.allocatedContainers),
  ("total_tuples_processed", .ofUInt64 a.totalTuplesProcessed),
  ("total_tuples_emitted", .ofUInt64 a.totalTuplesEmitted),
  ("current_window", a.currentWindow.encode),
  ("recovery_window", a.recoveryWindow.encode),
  ("failed_operators", .ofUInt32 a.failedOperators),
  ("latency_millis", .ofUInt64 a.latencyMillis)]

end AppStats

/-- The counters of one physical operator. -/
structure OperatorStats where
  operatorId : Int32 := 0
  containerId : String := ""
  currentWindow : WindowId := ⟨0⟩
  checkpointedWindow : WindowId := ⟨0⟩
  tuplesProcessedPerSec : UInt64 := 0
  tuplesEmittedPerSec : UInt64 := 0
  cpuPercentage : Binary64 := .zero
  latencyMillis : UInt64 := 0
  deriving DecidableEq, Inhabited

namespace OperatorStats

/-- Equality of counters, with the share of processor time compared as a number. -/
def same (a b : OperatorStats) : Bool :=
  a.cpuPercentage.sameNumber b.cpuPercentage && decide ({ a with cpuPercentage := b.cpuPercentage } = b)

def decode (j : Json) : Option OperatorStats := do
  let s ← j.source? 8
  return {
    operatorId := ← s.required 0 "operator_id" Json.int32?
    containerId := ← s.required 1 "container_id" Json.text?
    currentWindow := ← s.required 2 "current_window" WindowId.decode
    checkpointedWindow := ← s.required 3 "checkpointed_window" WindowId.decode
    tuplesProcessedPerSec := ← s.required 4 "tuples_processed_per_sec" Json.uint64?
    tuplesEmittedPerSec := ← s.required 5 "tuples_emitted_per_sec" Json.uint64?
    cpuPercentage := ← s.required 6 "cpu_percentage" Json.binary64?
    latencyMillis := ← s.required 7 "latency_millis" Json.uint64? }

def encode (o : OperatorStats) : Json := .object [
  ("operator_id", .ofInt32 o.operatorId),
  ("container_id", .str o.containerId),
  ("current_window", o.currentWindow.encode),
  ("checkpointed_window", o.checkpointedWindow.encode),
  ("tuples_processed_per_sec", .ofUInt64 o.tuplesProcessedPerSec),
  ("tuples_emitted_per_sec", .ofUInt64 o.tuplesEmittedPerSec),
  ("cpu_percentage", .ofBinary64 o.cpuPercentage),
  ("latency_millis", .ofUInt64 o.latencyMillis)]

end OperatorStats

/-- One logical operator, summed up over its partitions. -/
structure LogicalOperator where
  name : String := ""
  className : String := ""
  partitions : List Int32 := []
  status : SortedMap String UInt32 := ∅
  deriving DecidableEq, Inhabited

namespace LogicalOperator

def decode (j : Json) : Option LogicalOperator := do
  let s ← j.source? 4
  return {
    name := ← s.required 0 "name" Json.text?
    className := ← s.required 1 "class_name" Json.text?
    partitions := ← s.required 2 "partitions" (Json.listOf? Json.int32?)
    status := ← s.required 3 "status" (Json.mapOf? Json.uint32?) }

def encode (o : LogicalOperator) : Json := .object [
  ("name", .str o.name),
  ("class_name", .str o.className),
  ("partitions", .arr (o.partitions.map .ofInt32)),
  ("status", .ofMap (o.status.mapValues .ofUInt32))]

end LogicalOperator

/-- The metrics that an operator published for one window. -/
structure WindowMetrics where
  window : WindowId
  metrics : SortedMap String Json

namespace WindowMetrics

/-- Metrics are read from a pair and from nothing shorter or longer. -/
def decode : Json → Option WindowMetrics
  | .arr [w, m] => do return ⟨← WindowId.decode w, ← m.mapOf? some⟩
  | _ => none

def encode (m : WindowMetrics) : Json := .arr [m.window.encode, .ofMap m.metrics]

end WindowMetrics

end PluginFabric
