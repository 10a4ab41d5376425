import PluginFabric.Config.Document
import PluginFabric.Config.Prepare

/-! Configuration files.

    A file that does not exist stands for the empty configuration. -/

namespace PluginFabric

/-- What is found at the path of a configuration. -/
inductive ConfigFile where
  | missing
  | directory
  | bytes (content : ByteArray)

/-- Why a configuration file cannot be used. -/
inductive LoadError where
  | unreadable (path : String)
  | malformed (path : String)
  | refused (e : PrepareError)
  deriving DecidableEq

def LoadError.message : LoadError → String
  | unreadable path => "Failed to read config file: " ++ path
  | malformed path => "Failed to parse config YAML at: " ++ path
  | refused e => e.message

namespace ConfigFile

/-- The text of a file, if it is one and its bytes are UTF-8. -/
def text? : ConfigFile → Option String
  | bytes content => String.fromUTF8? content
  | _ => none

/-- The configuration in a file. -/
def load (path : String) (f : ConfigFile) : Except LoadError EngineConfig :=
  match f with
  | missing => .ok {}
  | f => match f.text? with
    | none => .error (.unreadable path)
    | some s => match EngineConfig.ofYaml? s with
      | some c => .ok c
      | none => .error (.malformed path)

/-- What is said while a file is loaded. -/
def loadNotices (path : String) (f : ConfigFile) : List Notice :=
  match f, f.load path with
  | missing, _ => [.configMissing path]
  | _, .ok _ => [.configLoaded path]
  | _, .error _ => []

/-- The configuration in a file, made ready for use. -/
def loadPrepared (path : String) (env : Variables) (f : ConfigFile) : Except LoadError EngineConfig :=
  match f.load path with
  | .error e => .error e
  | .ok raw => match raw.prepare env with
    | .error e => .error (.refused e)
    | .ok c => .ok c

/-- What is said while a file is loaded and made ready. -/
def loadPreparedNotices (path : String) (env : Variables) (f : ConfigFile) : List Notice :=
  f.loadNotices path ++ match f.load path with
    | .error _ => []
    | .ok raw => raw.prepareNotices env

end ConfigFile

end PluginFabric
