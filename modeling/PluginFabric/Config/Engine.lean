import PluginFabric.Config.Properties
import PluginFabric.Window

/-! The configuration of an engine.

    Which plugins to load for each domain, the geometry of the windows, how to log, and properties of
    any name. For the plugins it is flattened into properties: the free-form ones first, and then the
    four well-known ones for good, so that no free-form property can take their place. -/

namespace PluginFabric

/-- The plugins of each domain, in the order in which they are resolved. -/
structure PluginsConfig where
  dagSetup : List String := []
  execution : List String := []
  deriving DecidableEq, Inhabited

/-- The geometry of the windows, where it is given. -/
structure WindowConfig where
  widthMillis : Option UInt64 := none
  firstWindowMillis : Option Int64 := none
  deriving DecidableEq, Inhabited

/-- How to log; without a directory there is no log file. -/
structure LoggingConfig where
  level : Option String := none
  dir : Option String := none
  json : Option Bool := none
  deriving DecidableEq, Inhabited

/-- The configuration of an engine, with the sections that are given. -/
structure EngineConfig where
  plugins : Option PluginsConfig := none
  window : Option WindowConfig := none
  logging : Option LoggingConfig := none
  properties : SortedMap String String := ∅
  deriving DecidableEq, Inhabited

namespace PluginsConfig

def decode (j : Json) : Option PluginsConfig := do
  let s ← j.source? 2
  return {
    dagSetup := ← s.defaulted 0 "dagSetup" [] (Json.listOf? Json.text?)
    execution := ← s.defaulted 1 "execution" [] (Json.listOf? Json.text?) }

def encode (p : PluginsConfig) : Json := .object [
  ("dagSetup", .arr (p.dagSetup.map .str)),
  ("execution", .arr (p.execution.map .str))]

end PluginsConfig

namespace WindowConfig

def decode (j : Json) : Option WindowConfig := do
  let s ← j.source? 2
  return {
    widthMillis := ← s.defaulted 0 "widthMillis" none (Json.nullable? Json.uint64?)
    firstWindowMillis := ← s.defaulted 1 "firstWindowMillis" none (Json.nullable? Json.int64?) }

def encode (w : WindowConfig) : Json := .object (
  Json.optionalMember "widthMillis" .ofUInt64 w.widthMillis ++
  Json.optionalMember "firstWindowMillis" .ofInt64 w.firstWindowMillis)

end WindowConfig

namespace LoggingConfig

def decode (j : Json) : Option LoggingConfig := do
  let s ← j.source? 3
  return {
    level := ← s.defaulted 0 "level" none (Json.nullable? Json.text?)
    dir := ← s.defaulted 1 "dir" none (Json.nullable? Json.text?)
    json := ← s.defaulted 2 "json" none (Json.nullable? Json.bool?) }

def encode (l : LoggingConfig) : Json := .object (
  Json.optionalMember "level" .str l.level ++
  Json.optionalMember "dir" .str l.dir ++
  Json.optionalMember "json" .bool l.json)

end LoggingConfig

namespace EngineConfig

def decode (j : Json) : Option EngineConfig := do
  let s ← j.source? 4
  return {
    plugins := ← s.defaulted 0 "plugins" none (Json.nullable? PluginsConfig.decode)
    window := ← s.defaulted 1 "window" none (Json.nullable? WindowConfig.decode)
    logging := ← s.defaulted 2 "logging" none (Json.nullable? LoggingConfig.decode)
    properties := ← s.defaulted 3 "properties" ∅ (Json.mapOf? Json.text?) }

def encode (c : EngineConfig) : Json := .object (
  Json.optionalMember "plugins" PluginsConfig.encode c.plugins ++
  Json.optionalMember "window" WindowConfig.encode c.window ++
  Json.optionalMember "logging" LoggingConfig.encode c.logging ++
  [("properties", .ofMap (c.properties.mapValues .str))])

def dagSetupPlugins (c : EngineConfig) : List String := (c.plugins.map (·.dagSetup)).getD []

def executionPlugins (c : EngineConfig) : List String := (c.plugins.map (·.execution)).getD []

/-- The clock of the windows, with defaults for what is not given. -/
def windowClock (c : EngineConfig) : WindowClock :=
  let window := c.window.getD {}
  { firstWindow := window.firstWindowMillis.getD defaultFirstWindow
    windowWidth := window.widthMillis.getD defaultWindowWidth }

/-- The property that lists the preparation plugins. -/
def dagSetupKey : String := "plugbus.plugin.dag.setup"
/-- The property that lists the execution plugins. -/
def executionKey : String := "plugbus.plugin.dag.execution"
/-- The property that holds the width of a window. -/
def windowWidthKey : String := "plugbus.window.width.millis"
/-- The property that holds the time of the first window. -/
def firstWindowKey : String := "plugbus.window.first.millis"

/-- The properties that plugins receive. -/
def toConfiguration (c : EngineConfig) : Except PropertyError Configuration := do
  let free ← c.properties.toList.foldlM (fun conf p => conf.set p.1 p.2) Configuration.empty
  let conf ← free.setFinal dagSetupKey (Text.joinItems c.dagSetupPlugins)
  let conf ← conf.setFinal executionKey (Text.joinItems c.executionPlugins)
  let conf ← conf.setFinal windowWidthKey (toString c.windowClock.windowWidth.toNat)
  conf.setFinal firstWindowKey (toString c.windowClock.firstWindow.toInt)

end EngineConfig

end PluginFabric
