import PluginFabric.Event.Stage
import PluginFabric.Fault

/-! Errors of the fabric.

    Failures of plugin code are wrapped together with the identity of the plugin; everything else the
    fabric refuses is told by the operation and the state it was asked in. -/

namespace PluginFabric

/-- The operations that a manager may refuse because of its state. -/
inductive Operation where | setUp | fireStage | runStep | tearDown
  deriving DecidableEq, Inhabited

def Operation.text : Operation → String
  | setUp => "set up plugins"
  | fireStage => "fire a lifecycle stage"
  | runStep => "run a preparation step"
  | tearDown => "tear down plugins"

/-- What the fabric refuses, and why. -/
inductive FabricError where
  | unknownPlugin (id : String)
  | instantiation (id : String) (cause : Fault)
  | setup (plugin : String) (cause : Fault)
  | stageOutOfOrder (expected : Option Stage) (actual : Stage)
  | invalidState (operation : Operation) (state : String)
  | config (text : String)
  deriving DecidableEq, Inhabited

namespace FabricError

def message : FabricError → String
  | unknownPlugin id => "unknown plugin identifier: " ++ id
  | instantiation id cause => "failed to instantiate plugin '" ++ id ++ "': " ++ cause.message
  | setup plugin cause => "setup failed for plugin '" ++ plugin ++ "': " ++ cause.message
  | stageOutOfOrder expected actual =>
    "lifecycle stage " ++ actual.name ++ " out of order (expected " ++
      (match expected with | some stage => stage.name | none => "no further stages") ++ ")"
  | invalidState operation state => "cannot " ++ operation.text ++ " while " ++ state
  | config text => "configuration error: " ++ text

/-- The messages of the causes, outermost first. -/
def sources : FabricError → List String
  | instantiation _ cause => cause.chain
  | setup _ cause => cause.chain
  | _ => []

end FabricError

end PluginFabric
