import PluginFabric.Config.Engine

/-! Validation of an engine configuration.

    Every issue names the place it is about. Plugin identifiers may be neither blank nor contain the
    separator of lists, or a list of them could not be told from another once it is one text; naming
    one twice is allowed and only warned about. -/

namespace PluginFabric

/-- Something wrong with a configuration, and where. -/
structure ConfigIssue where
  path : String
  message : String
  deriving DecidableEq, Inhabited

def ConfigIssue.line (i : ConfigIssue) : String :=
  "Config validation error at '" ++ i.path ++ "': " ++ i.message

/-- What validation found: errors, and what is merely worth a look. -/
structure ValidationReport where
  errors : List ConfigIssue := []
  warnings : List ConfigIssue := []
  deriving DecidableEq, Inhabited

namespace ValidationReport

def isValid (r : ValidationReport) : Bool := r.errors.isEmpty

/-- Both reports, the issues of the first one first. -/
def append (r s : ValidationReport) : ValidationReport :=
  ⟨r.errors ++ s.errors, r.warnings ++ s.warnings⟩

instance : Append ValidationReport := ⟨append⟩

end ValidationReport

namespace Validation

def blankIdentifier : String := "Plugin identifier cannot be empty"
def separatorInIdentifier : String := "Plugin identifier cannot contain ','"
def repeatedIdentifier (id : String) : String :=
  "Plugin '" ++ id ++ "' is listed more than once; each entry is a separate instance"
def windowWithoutWidth : String := "Window width must be greater than zero"
def negativeFirstWindow : String := "First window time cannot be negative"

/-- The issues of the identifiers from position `i` on, where `seen` came before them. -/
def identifiersFrom (path : String) : Nat → List String → List String → ValidationReport
  | _, _, [] => {}
  | i, seen, id :: ids =>
    let place := path ++ "[" ++ toString i ++ "]"
    if Text.allBlank id then
      ⟨[⟨place, blankIdentifier⟩], []⟩ ++ identifiersFrom path (i + 1) seen ids
    else
      let key := Text.trimmed id
      ⟨if id.toList.contains Text.itemSeparator then [⟨place, separatorInIdentifier⟩] else [],
        if seen.contains key then [⟨place, repeatedIdentifier id⟩] else []⟩
        ++ identifiersFrom path (i + 1) (key :: seen) ids

/-- The issues of a list of identifiers. -/
def identifiers (path : String) (ids : List String) : ValidationReport := identifiersFrom path 0 [] ids

/-- The issues of the windows' geometry. -/
def geometry (w : WindowConfig) : ValidationReport :=
  ⟨(if w.widthMillis = some 0 then [⟨"window.widthMillis", windowWithoutWidth⟩] else []) ++
    (if w.firstWindowMillis.any (· < 0) then
      [⟨"window.firstWindowMillis", negativeFirstWindow⟩] else []), []⟩

end Validation

/-- The issues of a configuration: of the two lists of plugins, and then of the windows. -/
def EngineConfig.validate (c : EngineConfig) : ValidationReport :=
  Validation.identifiers "plugins.dagSetup" c.dagSetupPlugins ++
    Validation.identifiers "plugins.execution" c.executionPlugins ++
    (c.window.map Validation.geometry).getD {}

end PluginFabric
