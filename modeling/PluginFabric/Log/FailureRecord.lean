import PluginFabric.Log.Record
import PluginFabric.Timestamp

/-! Records of contained plugin failures.

    A handler or a teardown that fails or panics does not stop anything; it is written down, with the
    plugin it belongs to, on a target of its own so that it can be routed apart from the engine's
    log. -/

namespace PluginFabric

/-- When a failure was contained: while an event was dispatched or while plugins were torn down. -/
inductive FailurePhase where | dispatch | teardown
  deriving DecidableEq, Inhabited

def FailurePhase.name : FailurePhase → String
  | dispatch => "dispatch"
  | teardown => "teardown"

/-- A contained failure of one plugin; only a dispatch has an event type. -/
structure FailureRecord where
  phase : FailurePhase
  plugin : String
  pluginId : Nat
  eventType : Option String
  error : String
  panicked : Bool
  deriving DecidableEq, Inhabited

namespace FailureRecord

/-- A failure while an event was dispatched. -/
def dispatch (plugin : String) (pluginId : Nat) (eventType error : String) (panicked : Bool) :
    FailureRecord :=
  ⟨.dispatch, plugin, pluginId, some eventType, error, panicked⟩

/-- A failure while plugins were torn down. -/
def teardown (plugin : String) (pluginId : Nat) (error : String) (panicked : Bool) : FailureRecord :=
  ⟨.teardown, plugin, pluginId, none, error, panicked⟩

/-- The target that contained failures are written to. -/
def target : String := "plugin_events"

/-- The record as it is written at an instant. -/
def encode (r : FailureRecord) (instant : Timestamp) : Json := .object ([
  ("phase", .str r.phase.name),
  ("plugin", .str r.plugin),
  ("plugin_id", .int r.pluginId),
  ("error", .str r.error),
  ("panicked", .bool r.panicked),
  ("timestamp", .str instant.toText)] ++
  (match r.eventType with | some t => [("event_type", .str t)] | none => []))

/-- The log record of a failure at an instant. -/
def logRecord (r : FailureRecord) (instant : Timestamp) : LogRecord where
  level := .warn
  target := target
  message := "Plugin failure contained"
  fields := [
    ("plugin", .str r.plugin),
    ("plugin_id", .int r.pluginId),
    ("event_type", .str (r.eventType.getD "-")),
    ("panicked", .bool r.panicked),
    ("error", .str r.error),
    ("record", r.encode instant)]

end FailureRecord

end PluginFabric
