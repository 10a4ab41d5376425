import PluginFabric.Payload.MasterEvent
import PluginFabric.Payload.Heartbeat
import PluginFabric.Payload.Statistics
import PluginFabric.Proofs.Json.Record
import PluginFabric.Proofs.Timestamp
import PluginFabric.Proofs.Uuid

/-! Payloads read back.

    Heartbeats, events of the master and statistics are written as objects of all their fields, but
    for the time an application started, which may be left out. Each field is looked up by its name
    and read back from its written form, so each record is. -/

namespace PluginFabric

open Json

theorem WindowId.decode_encode (w : WindowId) : decode w.encode = some w := by
  rw [decode, encode, uint64?_ofUInt64, Option.map_some]

/-! ### Heartbeats -/

theorem OperatorState.decode_encode (s : OperatorState) : decode s.encode = some s := by
  cases s <;> rfl

theorem OperatorHeartbeat.decode_encode (o : OperatorHeartbeat) : decode o.encode = some o := by
  rw [decode, encode, source?_object, Option.bind_eq_bind, Option.bind_some,
    required_written 0 (a := o.operatorId) (by simp) (int32?_ofInt32 _),
    required_written 1 (a := o.currentWindow) (by simp) o.currentWindow.decode_encode,
    required_written 2 (a := o.state) (by simp) o.state.decode_encode]
  rfl

theorem ContainerHeartbeat.decode_encode (h : ContainerHeartbeat) : decode h.encode = some h := by
  rw [decode, encode, source?_object, Option.bind_eq_bind, Option.bind_some,
    required_written 0 (a := h.containerId) (by simp) (text?_str _),
    required_written 1 (a := h.sentAtMillis) (by simp) (int64?_ofInt64 _),
    required_written 2 (a := h.memoryMbFree) (by simp) (uint32?_ofUInt32 _),
    required_written 3 (a := h.gcCollectionMillis) (by simp) (uint64?_ofUInt64 _),
    defaulted_written 4 (a := h.operators) (by simp) (listOf?_map OperatorHeartbeat.decode_encode _)]
  rfl

/-! ### Events of the master -/

/-- A kind is read from its written members by the name among them. -/
theorem MasterEventKind.decode_object (name : String) {members : List (String × Json)}
    (h : (SortedMap.ofList members).get? "type" = some (.str name)) :
    decode (.object members) = ofSource? name (.members (SortedMap.ofList members).toList) := by
  rw [SortedMap.get?] at h
  rw [object, decode, h]
  rfl

theorem MasterEventKind.decode_encode (k : MasterEventKind) : decode k.encode = some k := by
  cases k with
  | containerStarted c =>
    rw [encode, decode_object "container_started" (by simp), ofSource?,
      required_written 0 (a := c) (by simp) (text?_str _)]
    rfl
  | containerStopped c e =>
    rw [encode, decode_object "container_stopped" (by simp), ofSource?,
      required_written 0 (a := c) (by simp) (text?_str _),
      optional_written 1 (o := e) (by simp)
        fun n => nullable?_of_ne_null (by simp [ofInt32]) (int32?_ofInt32 n)]
    rfl
  | operatorStarted o c =>
    rw [encode, decode_object "operator_started" (by simp), ofSource?,
      required_written 0 (a := o) (by simp) (int32?_ofInt32 _),
      required_written 1 (a := c) (by simp) (text?_str _)]
    rfl
  | operatorStopped o =>
    rw [encode, decode_object "operator_stopped" (by simp), ofSource?,
      required_written 0 (a := o) (by simp) (int32?_ofInt32 _)]
    rfl
  | operatorFailed o r =>
    rw [encode, decode_object "operator_failed" (by simp), ofSource?,
      required_written 0 (a := o) (by simp) (int32?_ofInt32 _),
      required_written 1 (a := r) (by simp) (text?_str _)]
    rfl
  | repartitioned n old new =>
    rw [encode, decode_object "repartitioned" (by simp), ofSource?,
      required_written 0 (a := n) (by simp) (text?_str _),
      required_written 1 (a := old) (by simp) (uint32?_ofUInt32 _),
      required_written 2 (a := new) (by simp) (uint32?_ofUInt32 _)]
    rfl
  | applicationStateChanged source target =>
    rw [encode, decode_object "application_state_changed" (by simp), ofSource?,
      required_written 0 (a := source) (by simp) (text?_str _),
      required_written 1 (a := target) (by simp) (text?_str _)]
    rfl

theorem MasterEvent.decode_encode (e : MasterEvent) : decode e.encode = some e := by
  rw [decode, encode, source?_object, Option.bind_eq_bind, Option.bind_some,
    required_text 0 (a := e.id) (by simp) e.id.ofText?_toText,
    required_text 1 (a := e.timestamp) (by simp) e.timestamp.ofText?_toText,
    required_written 2 (a := e.kind) (by simp) e.kind.decode_encode,
    defaulted_written 3 (a := e.detail) (by simp) rfl]
  rfl

/-! ### Statistics -/

theorem AppContext.decode_encode (c : AppContext) : decode c.encode = some c := by
  rw [decode, encode, source?_object, Option.bind_eq_bind, Option.bind_some,
    required_written 0 (a := c.appId) (by simp) (text?_str _),
    required_written 1 (a := c.name) (by simp) (text?_str _),
    required_written 2 (a := c.user) (by simp) (text?_str _),
    defaulted_optional 3 (o := c.startTime) (by simp)
      fun t => nullable?_text_bind t.ofText?_toText,
    required_written 4 (a := c.appPath) (by simp) (text?_str _)]
  rfl

theorem AppStats.decode_encode (a : AppStats) : decode a.encode = some a := by
  rw [decode, encode, source?_object, Option.bind_eq_bind, Option.bind_some,
    required_written 0 (a := a.plannedContainers) (by simp) (uint32?_ofUInt32 _),
    required_written 1 (a := a.allocatedContainers) (by simp) (uint32?_ofUInt32 _),
    required_written 2 (a := a.totalTuplesProcessed) (by simp) (uint64?_ofUInt64 _),
    required_written 3 (a := a.totalTuplesEmitted) (by simp) (uint64?_ofUInt64 _),
    required_written 4 (a := a.currentWindow) (by simp) a.currentWindow.decode_encode,
    required_written 5 (a := a.recoveryWindow) (by simp) a.recoveryWindow.decode_encode,
    required_written 6 (a := a.failedOperators) (by simp) (uint32?_ofUInt32 _),
    required_written 7 (a := a.latencyMillis) (by simp) (uint64?_ofUInt64 _)]
  rfl

/-- A share of processor time must be finite, or it is written as null and not read. -/
theorem OperatorStats.decode_encode {o : OperatorStats} (h : o.cpuPercentage.isFinite = true) :
    decode o.encode = some o := by
  rw [decode, encode, source?_object, Option.bind_eq_bind, Option.bind_some,
    required_written 0 (a := o.operatorId) (by simp) (int32?_ofInt32 _),
    required_written 1 (a := o.containerId) (by simp) (text?_str _),
    required_written 2 (a := o.currentWindow) (by simp) o.currentWindow.decode_encode,
    required_written 3 (a := o.checkpointedWindow) (by simp) o.checkpointedWindow.decode_encode,
    required_written 4 (a := o.tuplesProcessedPerSec) (by simp) (uint64?_ofUInt64 _),
    required_written 5 (a := o.tuplesEmittedPerSec) (by simp) (uint64?_ofUInt64 _),
    required_written 6 (a := o.cpuPercentage) (by simp) (binary64?_ofBinary64 h),
    required_written 7 (a := o.latencyMillis) (by simp) (uint64?_ofUInt64 _)]
  rfl

example : OperatorStats.decode { cpuPercentage := .nan : OperatorStats }.encode = none := by rfl

theorem LogicalOperator.decode_encode (o : LogicalOperator) : decode o.encode = some o := by
  rw [decode, encode, source?_object, Option.bind_eq_bind, Option.bind_some,
    required_written 0 (a := o.name) (by simp) (text?_str _),
    required_written 1 (a := o.className) (by simp) (text?_str _),
    required_written 2 (a := o.partitions) (by simp) (listOf?_map int32?_ofInt32 _),
    required_written 3 (a := o.status) (by simp) (mapOf?_mapValues uint32?_ofUInt32 _)]
  rfl

theorem WindowMetrics.decode_encode (m : WindowMetrics) : decode m.encode = some m := by
  have hsame : m.metrics.mapValues id = m.metrics :=
    SortedMap.ext (by simp [SortedMap.mapValues, SortedMap.mapPairs])
  have hmetrics : mapOf? some (.ofMap (m.metrics.mapValues id)) = some m.metrics :=
    mapOf?_mapValues (fun _ => rfl) m.metrics
  rw [hsame] at hmetrics
  rw [encode, decode, m.window.decode_encode, hmetrics]
  rfl

end PluginFabric
