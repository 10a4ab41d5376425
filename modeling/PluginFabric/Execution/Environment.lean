import PluginFabric.Config.Engine
import PluginFabric.Log.Notice
import PluginFabric.Payload.Statistics

/-! What execution plugins may ask about the running application.

    The engine puts snapshots in, the plugins read them. The clock comes from the configuration the
    application was launched with: a value that cannot be read is ignored and the default stands in
    for it. For each logical operator the last records of metrics are kept, as many as the capacity
    says. -/

namespace PluginFabric

/-- A physical operator: its name, and its counters as last reported. -/
structure PhysicalOperator where
  name : String
  stats : OperatorStats

/-- The snapshots that plugins read, with the graph `δ` of the application. -/
structure Environment (δ : Type) where
  engineVersion : String
  configuration : Configuration
  dag : δ
  clock : WindowClock
  metricsCapacity : Nat
  context : AppContext := {}
  stats : AppStats := {}
  operators : SortedMap Int32 PhysicalOperator := ∅
  logicalOperators : List LogicalOperator := []
  metrics : SortedMap String (List WindowMetrics) := ∅
  capacity_pos : 0 < metricsCapacity

/-- The version that an engine has unless it says otherwise. -/
def defaultEngineVersion : String := "0.1.0"

/-- How many records of metrics are kept for an operator unless configured otherwise. -/
def defaultMetricsCapacity : Nat := 100

namespace Environment

variable {δ α : Type}

/-- The value that a getter found, if it found one. -/
def found (r : Except PropertyError (Option α)) : Option α :=
  match r with
  | .ok a => a
  | .error _ => none

/-- What is said of a getter's complaint. -/
def complaint (say : String → Notice) (r : Except PropertyError (Option α)) : List Notice :=
  match r with
  | .ok _ => []
  | .error e => [say e.message]

/-- The clock of a configuration, with a default for a value that is missing, unreadable or no width. -/
def clockOf (c : Configuration) : WindowClock where
  firstWindow := ((found (c.getInteger EngineConfig.firstWindowKey)).map .ofInt).getD defaultFirstWindow
  windowWidth := (((found (c.getUnsigned EngineConfig.windowWidthKey)).filter (0 < ·)).map .ofNat).getD
    defaultWindowWidth

/-- What is said while the clock of a configuration is read. -/
def clockNotices (c : Configuration) : List Notice :=
  complaint .windowWidthIgnored (c.getUnsigned EngineConfig.windowWidthKey) ++
    complaint .firstWindowIgnored (c.getInteger EngineConfig.firstWindowKey)

/-- An environment without any snapshots yet. -/
def ofLaunch (dag : δ) (c : Configuration) : Environment δ where
  engineVersion := defaultEngineVersion
  configuration := c
  dag := dag
  clock := clockOf c
  metricsCapacity := defaultMetricsCapacity
  capacity_pos := by decide

/-- The environment with room for this many records of metrics per operator, and for one at least. -/
def withMetricsCapacity (e : Environment δ) (capacity : Nat) : Environment δ :=
  { e with metricsCapacity := max capacity 1, capacity_pos := by omega }

/-- Puts a snapshot of a physical operator in place of the one with its id. -/
def upsertOperator (e : Environment δ) (name : String) (stats : OperatorStats) : Environment δ :=
  { e with operators := e.operators.insert stats.operatorId ⟨name, stats⟩ }

/-- Forgets a physical operator, and tells whether there was one. -/
def removeOperator (e : Environment δ) (id : Int32) : Bool × Environment δ :=
  (e.operators.contains id, { e with operators := e.operators.erase id })

def operatorName? (e : Environment δ) (id : Int32) : Option String := (e.operators.get? id).map (·.name)

def operatorStats? (e : Environment δ) (id : Int32) : Option OperatorStats :=
  (e.operators.get? id).map (·.stats)

/-- The metrics of a logical operator, the oldest first. -/
def windowMetrics (e : Environment δ) (name : String) : List WindowMetrics := (e.metrics.get? name).getD []

/-- Drops from the front until there is room for one more. -/
def makeRoom (capacity : Nat) (queue : List α) : List α := queue.drop (queue.length + 1 - capacity)

/-- Adds a record of metrics, and drops the oldest ones that it leaves no room for. -/
def recordMetrics (e : Environment δ) (name : String) (m : WindowMetrics) : Environment δ :=
  { e with metrics := e.metrics.insert name (makeRoom e.metricsCapacity (e.windowMetrics name) ++ [m]) }

def millisOf (e : Environment δ) (w : WindowId) : Int64 := e.clock.toMillis w

end Environment

end PluginFabric
