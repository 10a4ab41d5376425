import PluginFabric.Config.Engine
import PluginFabric.Event.Stage
import PluginFabric.Plugin.Lifecycle
import PluginFabric.Plugin.Resolver

/-! The manager of the plugins that prepare a graph.

    One manager serves one preparation: the plugins are set up with the graph attached, the six stages
    are fired in their order and each once, and the plugins are torn down. The engine's own steps run
    between the two stages of a phase; one that fails keeps the second stage from being fired. -/

namespace PluginFabric

/-- What the code of a preparation plugin works on: the graph, and a world of its own. -/
structure Workspace (δ σ : Type) where
  dag : δ
  own : σ

abbrev PreparationPlugin (δ σ : Type) := Plugin Configuration (Workspace δ σ) Stage Stage

/-- How a bracketed step ended. -/
inductive PhaseResult (α : Type) where
  | done (a : α)
  /-- One of the two stages was refused. -/
  | refused (e : FabricError)
  /-- The step failed with an error of its own. -/
  | stepFailed (f : Fault)
  /-- The step panicked; nothing contains that. -/
  | stepPanicked (p : PanicPayload)
  deriving DecidableEq

/-- The plugins of one preparation, the graph once it is attached, and the stage to come. -/
structure PreparationManager (δ σ : Type) where
  host : Host Configuration (Workspace δ σ) Stage Stage
  configuration : Configuration
  dag : Option δ := none
  nextStage : Option Stage := some .prePopulate

namespace PreparationManager

variable {δ σ α : Type}

/-- A manager for these plugins, in the order in which they were resolved. -/
def ofPlugins (plugins : List (PreparationPlugin δ σ)) (configuration : Configuration) :
    PreparationManager δ σ :=
  { host := .ofPlugins plugins, configuration }

/-- A manager for the plugins that a configuration lists, and the resolution that made them. -/
def forPreparation {ω : Type} (resolver : Resolver ω (PreparationPlugin δ σ))
    (configuration : Configuration) (w : ω) :
    Except FabricError (PreparationManager δ σ) × Resolution ω (PreparationPlugin δ σ) :=
  let done := resolver.resolve configuration EngineConfig.dagSetupKey w
  (done.result.map (ofPlugins · configuration), done)

def state (m : PreparationManager δ σ) : LifecycleState := m.host.state

def pluginCount (m : PreparationManager δ σ) : Nat := m.host.members.length

/-- Attaches a graph and sets every plugin up. -/
def setUp (m : PreparationManager δ σ) (dag : δ) (w : σ) :
    Step (PreparationManager δ σ) σ Stage (Except FabricError Unit) :=
  match m.host.require .notSetUp .setUp with
  | .error e => ⟨.error e, m, w, []⟩
  | .ok _ =>
    let done := m.host.setUp .preparation m.configuration ⟨dag, w⟩
    ⟨done.answer, { m with host := done.manager, dag := some done.world.dag }, done.world.own, done.trace⟩

/-- Delivers a stage to the plugins; before a graph is attached there is nothing to deliver to. -/
def deliverStage (m : PreparationManager δ σ) (stage : Stage) (w : σ) :
    Step (PreparationManager δ σ) σ Stage DispatchReport :=
  match m.dag with
  | none => ⟨{}, m, w, []⟩
  | some dag =>
    let done := m.host.registry.dispatch m.configuration stage ⟨dag, w⟩
    ⟨done.report, { m with dag := some done.world.dag }, done.world.own, done.trace⟩

/-- Fires one stage, if it is the one to come. -/
def fire (m : PreparationManager δ σ) (stage : Stage) (w : σ) :
    Step (PreparationManager δ σ) σ Stage (Except FabricError DispatchReport) :=
  match m.host.require .setUp .fireStage with
  | .error e => ⟨.error e, m, w, []⟩
  | .ok _ =>
    if m.nextStage = some stage then
      let done := deliverStage { m with nextStage := stage.next } stage w
      ⟨.ok done.answer, done.manager, done.world, done.trace ++
        [.said (.stageDispatched stage.name done.answer.delivered done.answer.failures.length)]⟩
    else ⟨.error (.stageOutOfOrder m.nextStage stage), m, w, []⟩

/-- Fires the first stage of a phase, runs the engine's step on the graph, and fires the second stage
    if the step succeeded. -/
def around (m : PreparationManager δ σ) (phase : Phase) (step : Workspace δ σ → Completion (Workspace δ σ) α)
    (w : σ) : Step (PreparationManager δ σ) σ Stage (PhaseResult α) :=
  let first := m.fire phase.pre w
  match first.answer, first.manager.dag with
  | .error e, _ => ⟨.refused e, first.manager, first.world, first.trace⟩
  | .ok _, none => ⟨.refused (.invalidState .runStep "no DAG attached"), first.manager, first.world,
      first.trace⟩
  | .ok _, some dag =>
    let ran := step ⟨dag, first.world⟩
    let m := { first.manager with dag := some ran.world.dag }
    let trace := first.trace ++ .stepping :: Trace.ofNotices ran.notices
    match ran.outcome with
    | .failed f => ⟨.stepFailed f, m, ran.world.own, trace⟩
    | .panicked p => ⟨.stepPanicked p, m, ran.world.own, trace⟩
    | .ok a =>
      let second := m.fire phase.post ran.world.own
      ⟨match second.answer with | .ok _ => .done a | .error e => .refused e,
        second.manager, second.world, trace ++ second.trace⟩

/-- Tears the plugins down; before a graph is attached there is none to tear down. -/
def tearDown (m : PreparationManager δ σ) (w : σ) :
    Step (PreparationManager δ σ) σ Stage (Except FabricError (List String)) :=
  match m.dag with
  | some dag =>
    let done := m.host.tearDown m.configuration ⟨dag, w⟩
    ⟨done.answer, { m with host := done.manager, dag := some done.world.dag }, done.world.own, done.trace⟩
  | none =>
    match m.host.state with
    | .tornDown => ⟨.error (.invalidState .tearDown m.host.state.text), m, w, []⟩
    | _ => ⟨.ok [], { m with host := { m.host with state := .tornDown } }, w, []⟩

end PreparationManager

end PluginFabric
