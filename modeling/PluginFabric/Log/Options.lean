import PluginFabric.Config.Defaults
import PluginFabric.Log.Filter

/-! The log of a program: how it is set up, and where its records go.

    The log is set up once. The console gets every record that is wanted, as a coloured line or as an
    object; if there is a directory, a file in it that changes with the day gets them as objects
    too. -/

namespace PluginFabric

/-- How to log. -/
structure LogOptions where
  level : String := defaultLogLevel
  dir : Option String := none
  json : Bool := false
  deriving DecidableEq, Inhabited

namespace LogOptions

/-- The options of a configuration, with defaults for what it leaves out. -/
def ofConfig (c : LoggingConfig) : LogOptions where
  level := c.level.getD defaultLogLevel
  dir := c.dir
  json := c.json.getD false

/-- The filter of a log: the one that the environment asks for, if it can be read, and else the
    configured level. -/
def filter (o : LogOptions) (asked : Option String) : Except DirectiveError LogFilter :=
  match asked.map LogFilter.ofText with
  | some (.ok filter) => .ok filter
  | some (.error .torn) => .error .torn
  | _ => LogFilter.ofReadable o.level

end LogOptions

/-- One line of a log. -/
inductive LogLine where
  /-- A coloured line without the target. -/
  | plain (record : LogRecord)
  /-- An object on one line. -/
  | object (record : LogRecord)

/-- A log that is set up. -/
structure Logger where
  options : LogOptions
  filter : LogFilter

namespace Logger

/-- Sets the log up, unless there is one already; tells whether it did. -/
def install (current : Option Logger) (options : LogOptions) (asked : Option String) :
    Except DirectiveError (Bool × Logger) := do
  let filter ← options.filter asked
  match current with
  | some logger => return (false, logger)
  | none => return (true, ⟨options, filter⟩)

/-- What the console gets of a record. -/
def consoleLine? (l : Logger) (r : LogRecord) : Option LogLine :=
  if l.filter.wants r then some (if l.options.json then .object r else .plain r) else none

/-- What the log file gets of a record. -/
def fileLine? (l : Logger) (r : LogRecord) : Option LogLine :=
  if l.filter.wants r ∧ l.options.dir.isSome then some (.object r) else none

/-- The name of the log file of a day. -/
def fileName (day : String) : String := "plugbus.log." ++ day

end Logger

end PluginFabric
