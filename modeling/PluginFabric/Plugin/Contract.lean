import PluginFabric.Fault
import PluginFabric.Log.FailureRecord
import PluginFabric.Log.Notice

/-! The contract between the fabric and its plugins.

    Plugin code is any function of what it may read (`ρ`) and of the world it shares with the rest of
    the program (`ω`); nothing is assumed of how it ends. A plugin registers handlers from its setup
    and only from there: a setup answers the registrations it made before it ended, in order, and has
    no other way to reach the registry. What plugins and engine are made to do is told as a trace of
    occurrences, in the order in which they happen. -/

namespace PluginFabric

/-- A plugin's identity: its position in the order in which the plugins were resolved. -/
abbrev PluginId := Nat

/-- How an identity is shown. -/
def PluginId.label (id : PluginId) : String := "#" ++ toString id

/-- What a piece of plugin code leaves behind: how it ended, the world after it, and what the fabric
    said on its behalf. -/
structure Completion (ω α : Type) where
  outcome : Outcome α
  world : ω
  notices : List Notice := []

/-- Code that handles one event. -/
abbrev Handler (ρ ω ε : Type) := ρ → ε → ω → Completion ω Unit

/-- A handler and the tag it is registered for. -/
structure Registration (ρ ω ε κ : Type) where
  tag : κ
  handler : Handler ρ ω ε

/-- What a setup leaves behind: its registrations, and what every piece of code leaves. -/
structure SetupCompletion (ρ ω ε κ : Type) where
  registrations : List (Registration ρ ω ε κ)
  completion : Completion ω Unit

/-- A plugin of one domain. -/
structure Plugin (ρ ω ε κ : Type) where
  name : String
  setup : ρ → PluginId → ω → SetupCompletion ρ ω ε κ
  teardown : ρ → ω → Completion ω Unit

/-- Something that happens while a manager works. A call of plugin code is told with how it ended. -/
inductive Occurrence (ε : Type) where
  /-- The setup of a plugin is called. -/
  | settingUp (id : PluginId) (outcome : Outcome Unit)
  /-- An event is accepted and goes to the handlers. -/
  | dispatching (event : ε)
  /-- A handler of a plugin is called with an event. -/
  | handling (id : PluginId) (event : ε) (outcome : Outcome Unit)
  /-- The teardown of a plugin is called. -/
  | tearingDown (id : PluginId) (outcome : Outcome Unit)
  /-- The engine's step of a phase is run. -/
  | stepping
  /-- A failure of a plugin is contained. -/
  | contained (record : FailureRecord)
  /-- The fabric says something. -/
  | said (notice : Notice)

/-- What happened, in order. -/
abbrev Trace (ε : Type) := List (Occurrence ε)

namespace Occurrence

variable {ε : Type}

/-- The failure that is contained here, if this is one. -/
def failure? : Occurrence ε → Option FailureRecord
  | contained record => some record
  | _ => none

/-- The plugin whose setup is called here, if one is. -/
def setUp? : Occurrence ε → Option PluginId
  | settingUp id _ => some id
  | _ => none

/-- The event that is accepted here, if one is. -/
def dispatched? : Occurrence ε → Option ε
  | dispatching event => some event
  | _ => none

/-- The handler call that happens here, if this is one. -/
def handled? : Occurrence ε → Option (PluginId × ε)
  | handling id event _ => some (id, event)
  | _ => none

/-- The plugin whose teardown is called here, if one is. -/
def tornDown? : Occurrence ε → Option PluginId
  | tearingDown id _ => some id
  | _ => none

/-- Whether plugin code is called here. -/
def isCall : Occurrence ε → Bool
  | settingUp .. | handling .. | tearingDown .. => true
  | _ => false

/-- The log record that is written here, if one is. -/
def logRecord? (instant : Timestamp) : Occurrence ε → Option LogRecord
  | contained record => some (record.logRecord instant)
  | said notice => some notice.logRecord
  | _ => none

end Occurrence

namespace Trace

variable {ε : Type}

/-- Notices as a trace. -/
def ofNotices (notices : List Notice) : Trace ε := notices.map .said

/-- The calls of plugin code in a trace. -/
def calls (t : Trace ε) : Trace ε := t.filter Occurrence.isCall

/-- The plugins whose setup is called. -/
def setUps (t : Trace ε) : List PluginId := t.filterMap Occurrence.setUp?

/-- The events that are accepted. -/
def dispatched (t : Trace ε) : List ε := t.filterMap Occurrence.dispatched?

/-- The handler calls: whose handler, and with which event. -/
def handled (t : Trace ε) : List (PluginId × ε) := t.filterMap Occurrence.handled?

/-- The plugins whose teardown is called. -/
def tearDowns (t : Trace ε) : List PluginId := t.filterMap Occurrence.tornDown?

/-- The log records of a trace. -/
def logRecords (instant : Timestamp) (t : Trace ε) : List LogRecord :=
  t.filterMap (Occurrence.logRecord? instant)

end Trace

/-- What a call of a manager leaves behind. -/
structure Step (μ ω ε α : Type) where
  answer : α
  manager : μ
  world : ω
  trace : Trace ε

end PluginFabric
