import PluginFabric.Config.Engine

/-! Defaults for what an engine configuration leaves out.

    Every value that is given is kept. -/

namespace PluginFabric

/-- The log level where none is configured. -/
def defaultLogLevel : String := "info"

/-- The geometry of the windows with nothing left out. -/
def WindowConfig.filled (w : WindowConfig) : WindowConfig :=
  { w with
    widthMillis := some (w.widthMillis.getD defaultWindowWidth)
    firstWindowMillis := some (w.firstWindowMillis.getD defaultFirstWindow) }

/-- How to log, with nothing left out but the directory, which has no default. -/
def LoggingConfig.filled (l : LoggingConfig) : LoggingConfig :=
  { l with level := some (l.level.getD defaultLogLevel), json := some (l.json.getD false) }

/-- The configuration with its lists of plugins, its windows and its logging filled in; a section that
    is missing is filled in as an empty one. -/
def EngineConfig.withDefaults (c : EngineConfig) : EngineConfig :=
  { c with
    plugins := some (c.plugins.getD {})
    window := some (c.window.getD {}).filled
    logging := some (c.logging.getD {}).filled }

end PluginFabric
