import PluginFabric.Json.Value

/-! Log records.

    A record has a level, the target it is filtered by, a text and named fields. -/

namespace PluginFabric

/-- The severities of log records, the gravest first. -/
inductive Level where | error | warn | info | debug | trace
  deriving DecidableEq, Inhabited

namespace Level

def all : List Level := [error, warn, info, debug, trace]

/-- How much one has to want to see: 1 for errors only, 5 for everything. -/
def verbosity : Level → Nat
  | error => 1
  | warn => 2
  | info => 3
  | debug => 4
  | trace => 5

def name : Level → String
  | error => "ERROR"
  | warn => "WARN"
  | info => "INFO"
  | debug => "DEBUG"
  | trace => "TRACE"

end Level

/-- One record of a log. -/
structure LogRecord where
  level : Level
  target : String
  message : String
  fields : List (String × Json) := []

end PluginFabric
