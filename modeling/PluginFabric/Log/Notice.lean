import PluginFabric.Log.Record
import PluginFabric.Window

/-! What the fabric says about its own work.

    Each notice becomes one log record; its level and target depend on the kind of notice only. -/

namespace PluginFabric

/-- The two domains of plugins. -/
inductive Domain where | preparation | execution
  deriving DecidableEq, Inhabited

/-- Something the fabric says about its own work. -/
inductive Notice where
  | handlerReplaced (plugin : String) (pluginId : Nat) (eventType : String)
  | dispatching (plugin : String) (pluginId : Nat) (eventType : String)
  | pluginReady (domain : Domain) (plugin : String) (pluginId : Nat)
  | rollingBack (domain : Domain) (plugin error : String)
  | pluginsReady (domain : Domain) (plugins handlers : Nat)
  | tornDown (plugin : String) (pluginId : Nat)
  | teardownFinished (failed : Nat)
  | stageDispatched (stage : String) (delivered failed : Nat)
  | eventDropped (eventType state : String)
  | staleCommit (window : WindowId) (last : Option WindowId)
  | pluginResolved (id : String) (position : Nat)
  | pluginsResolved (key : String) (count : Nat)
  | windowWidthIgnored (error : String)
  | firstWindowIgnored (error : String)
  | valueDropped
  | subscriberLagged (skipped : Nat)
  | configMissing (path : String)
  | configLoaded (path : String)
  | configWarning (path text : String)
  | configError (path text : String)
  deriving DecidableEq, Inhabited

namespace Notice

/-- The target of what the manager of a domain says. -/
def managerTarget : Domain → String
  | .preparation => "plugbus_plugins::setup"
  | .execution => "plugbus_plugins::execution"

def registryTarget : String := "plugbus_plugins::registry"
def lifecycleTarget : String := "plugbus_plugins::lifecycle"
def resolverTarget : String := "plugbus_plugins::resolver"
def environmentTarget : String := "plugbus_plugins::environment"
def handoffTarget : String := "plugbus_plugins::handoff"
def configTarget : String := "plugbus_config"
def configFileTarget : String := "plugbus_config::io"

/-- An optional window as it is shown for diagnosis. -/
def windowForDiagnosis : Option WindowId → String
  | none => "None"
  | some w => "Some(" ++ w.diagnosis ++ ")"

def logRecord : Notice → LogRecord
  | handlerReplaced plugin id type => ⟨.debug, registryTarget, "[Plugins] Handler replaced",
      [("plugin", .str plugin), ("plugin_id", .int id), ("event_type", .str type)]⟩
  | dispatching plugin id type => ⟨.debug, registryTarget, "[Plugins] Dispatching",
      [("plugin", .str plugin), ("plugin_id", .int id), ("event_type", .str type)]⟩
  | pluginReady domain plugin id => ⟨.debug, managerTarget domain,
      match domain with
      | .preparation => "[Plugins] Setup plugin ready"
      | .execution => "[Plugins] Execution plugin ready",
      [("plugin", .str plugin), ("plugin_id", .int id)]⟩
  | rollingBack domain plugin error => ⟨.warn, managerTarget domain,
      "[Plugins] Setup failed, rolling back", [("plugin", .str plugin), ("error", .str error)]⟩
  | pluginsReady domain plugins handlers => ⟨.info, managerTarget domain,
      match domain with
      | .preparation => "[Plugins] DAG setup plugins ready"
      | .execution => "[Plugins] Execution plugins ready",
      [("plugins", .int plugins), ("handlers", .int handlers)]⟩
  | tornDown plugin id => ⟨.debug, lifecycleTarget, "Plugin torn down",
      [("plugin", .str plugin), ("plugin_id", .int id)]⟩
  | teardownFinished failed => ⟨.info, lifecycleTarget, "Plugin teardown finished",
      [("failed", .int failed)]⟩
  | stageDispatched stage delivered failed => ⟨.debug, managerTarget .preparation,
      "[Plugins] Stage dispatched",
      [("stage", .str stage), ("delivered", .int delivered), ("failed", .int failed)]⟩
  | eventDropped type state => ⟨.debug, managerTarget .execution, "[Plugins] Event dropped",
      [("event_type", .str type), ("state", .str state)]⟩
  | staleCommit window last => ⟨.debug, managerTarget .execution, "[Plugins] Stale commit suppressed",
      [("window", .str window.toText), ("last", .str (windowForDiagnosis last))]⟩
  | pluginResolved id position => ⟨.debug, resolverTarget, "[Plugins] Resolved",
      [("id", .str id), ("position", .int position)]⟩
  | pluginsResolved key count => ⟨.info, resolverTarget, "[Plugins] Resolved configured plugins",
      [("key", .str key), ("count", .int count)]⟩
  | windowWidthIgnored error => ⟨.warn, environmentTarget, "Ignoring window width",
      [("error", .str error)]⟩
  | firstWindowIgnored error => ⟨.warn, environmentTarget, "Ignoring first window time",
      [("error", .str error)]⟩
  | valueDropped => ⟨.debug, handoffTarget, "Hand-off has no subscribers, value dropped", []⟩
  | subscriberLagged skipped => ⟨.warn, handoffTarget, "Hand-off subscriber lagged",
      [("skipped", .int skipped)]⟩
  | configMissing path => ⟨.debug, configFileTarget, "Config file does not exist; using defaults",
      [("path", .str path)]⟩
  | configLoaded path => ⟨.info, configFileTarget, "Loaded config", [("path", .str path)]⟩
  | configWarning path text => ⟨.warn, configTarget, "Config warning",
      [("path", .str path), ("message", .str text)]⟩
  | configError path text => ⟨.error, configTarget, "Config error",
      [("path", .str path), ("message", .str text)]⟩

end Notice

end PluginFabric
