import PluginFabric.Config.Defaults
import PluginFabric.Config.Reference
import PluginFabric.Config.Validation
import PluginFabric.Log.Notice

/-! Preparing a configuration for use.

    The references to environment variables are replaced, the defaults filled in, and the result is
    validated; every issue is told, and the first error refuses the configuration. -/

namespace PluginFabric

/-- Why a configuration cannot be used. -/
inductive PrepareError where
  | missingVariable (m : MissingVariable)
  | undecodable
  | invalid (issue : ConfigIssue)
  deriving DecidableEq, Inhabited

namespace PrepareError

def message : PrepareError → String
  | missingVariable _ => "Failed to resolve env vars in config"
  | undecodable => "Failed to deserialize config after processing"
  | invalid issue => issue.line

/-- The messages of the causes, outermost first. -/
def sources : PrepareError → List String
  | missingVariable m => [m.message]
  | _ => []

end PrepareError

/-- What validation has to say, warnings before errors. -/
def ValidationReport.notices (r : ValidationReport) : List Notice :=
  r.warnings.map (fun i => .configWarning i.path i.message) ++
    r.errors.map (fun i => .configError i.path i.message)

namespace EngineConfig

/-- The configuration with the references in its texts replaced. -/
def resolveReferences (env : Variables) (raw : EngineConfig) : Except PrepareError EngineConfig :=
  match Reference.resolve env raw.encode with
  | .error m => .error (.missingVariable m)
  | .ok j => match decode j with
    | some c => .ok c
    | none => .error .undecodable

/-- A configuration, if validation finds no error in it. -/
def validated (c : EngineConfig) : Except PrepareError EngineConfig :=
  match c.validate.errors with
  | [] => .ok c
  | first :: _ => .error (.invalid first)

/-- A configuration ready for use, or why there is none. -/
def prepare (env : Variables) (raw : EngineConfig) : Except PrepareError EngineConfig := do
  let c ← raw.resolveReferences env
  c.withDefaults.validated

/-- What is said while a configuration is prepared. -/
def prepareNotices (env : Variables) (raw : EngineConfig) : List Notice :=
  match raw.resolveReferences env with
  | .ok c => c.withDefaults.validate.notices
  | .error _ => []

end EngineConfig

end PluginFabric
