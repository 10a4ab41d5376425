import PluginFabric.FabricError
import PluginFabric.Plugin.Registry

/-! The lifecycle that both managers share.

    A host holds the plugins of one run in order. They are set up once and torn down once; a setup
    that fails tears down the plugins that were set up before it, and the host is done. A teardown
    that fails is written down and never stops the others. -/

namespace PluginFabric

/-- Where a manager is in its life. -/
inductive LifecycleState where | notSetUp | setUp | tornDown
  deriving DecidableEq, Inhabited

def LifecycleState.text : LifecycleState → String
  | notSetUp => "not set up"
  | setUp => "set up"
  | tornDown => "torn down"

/-- The plugins of one run, what they registered, and where in its life the run is. -/
structure Host (ρ ω ε κ : Type) [EventTag κ] where
  members : List (PluginId × Plugin ρ ω ε κ)
  registry : Registry κ (Handler ρ ω ε)
  state : LifecycleState

/-- What setting up a list of plugins leaves behind: those that are ready, and the one that is not. -/
structure SetUpPass (ρ ω ε κ : Type) [EventTag κ] where
  ready : List (PluginId × Plugin ρ ω ε κ)
  failure : Option (String × Fault)
  registry : Registry κ (Handler ρ ω ε)
  world : ω
  trace : Trace ε

/-- What tearing down a list of plugins leaves behind: the names of those that failed. -/
structure TearDownPass (ω ε : Type) where
  failed : List String
  world : ω
  trace : Trace ε

namespace Host

variable {ρ ω ε κ : Type} [EventTag κ]

/-- A host for these plugins, each identified by its position. -/
def ofPlugins (plugins : List (Plugin ρ ω ε κ)) : Host ρ ω ε κ :=
  ⟨plugins.zipIdx.map fun p => (p.2, p.1), .empty, .notSetUp⟩

/-- Sets plugins up one after the other until one fails. -/
def setUpEach (domain : Domain) (ctx : ρ) :
    List (PluginId × Plugin ρ ω ε κ) → Registry κ (Handler ρ ω ε) → ω → SetUpPass ρ ω ε κ
  | [], registry, w => ⟨[], none, registry, w, []⟩
  | (id, plugin) :: rest, registry, w =>
    let done := plugin.setup ctx id w
    let (registry, notices) := (registry.enroll id plugin.name).registerAll id done.registrations
    let before := Occurrence.settingUp id done.completion.outcome ::
      (Trace.ofNotices notices ++ Trace.ofNotices done.completion.notices)
    match done.completion.outcome.toExcept with
    | .error cause => ⟨[], some (plugin.name, cause), registry, done.completion.world, before⟩
    | .ok _ =>
      let later := setUpEach domain ctx rest registry done.completion.world
      { later with
        ready := (id, plugin) :: later.ready
        trace := before ++ .said (.pluginReady domain plugin.name id) :: later.trace }

/-- Tears plugins down one after the other, whatever becomes of each. -/
def tearDownEach (ctx : ρ) : List (PluginId × Plugin ρ ω ε κ) → ω → TearDownPass ω ε
  | [], w => ⟨[], w, []⟩
  | (id, plugin) :: rest, w =>
    let done := plugin.teardown ctx w
    let later := tearDownEach ctx rest done.world
    let before := Occurrence.tearingDown id done.outcome :: Trace.ofNotices done.notices
    match done.outcome.failure? with
    | none => { later with trace := before ++ .said (.tornDown plugin.name id) :: later.trace }
    | some (error, panicked) =>
      { later with
        failed := plugin.name :: later.failed
        trace := before ++ .contained (.teardown plugin.name id error panicked) :: later.trace }

/-- Tears plugins down and tells how many failed. -/
def tearDownAll (ctx : ρ) (members : List (PluginId × Plugin ρ ω ε κ)) (w : ω) : TearDownPass ω ε :=
  let pass := tearDownEach ctx members w
  { pass with trace := pass.trace ++ [.said (.teardownFinished pass.failed.length)] }

/-- Refuses an operation unless the host is in the state it needs. -/
def require (h : Host ρ ω ε κ) (needed : LifecycleState) (operation : Operation) :
    Except FabricError Unit :=
  if h.state = needed then .ok () else .error (.invalidState operation h.state.text)

/-- Sets every plugin up, or tears the ready ones down again if one fails. -/
def setUp (domain : Domain) (ctx : ρ) (h : Host ρ ω ε κ) (w : ω) :
    Step (Host ρ ω ε κ) ω ε (Except FabricError Unit) :=
  match h.require .notSetUp .setUp with
  | .error e => ⟨.error e, h, w, []⟩
  | .ok _ =>
    let pass := setUpEach domain ctx h.members h.registry w
    match pass.failure with
    | none => ⟨.ok (), { h with registry := pass.registry, state := .setUp }, pass.world,
        pass.trace ++ [.said (.pluginsReady domain h.members.length pass.registry.handlerCount)]⟩
    | some (plugin, cause) =>
      let undo := tearDownAll ctx pass.ready pass.world
      ⟨.error (.setup plugin cause), { h with registry := pass.registry, state := .tornDown },
        undo.world, pass.trace ++ .said (.rollingBack domain plugin cause.message) :: undo.trace⟩

/-- Tears every plugin down that was set up; a host that is torn down refuses. -/
def tearDown (ctx : ρ) (h : Host ρ ω ε κ) (w : ω) :
    Step (Host ρ ω ε κ) ω ε (Except FabricError (List String)) :=
  match h.state with
  | .setUp =>
    let pass := tearDownAll ctx h.members w
    ⟨.ok pass.failed, { h with state := .tornDown }, pass.world, pass.trace⟩
  | .notSetUp => ⟨.ok [], { h with state := .tornDown }, w, []⟩
  | .tornDown => ⟨.error (.invalidState .tearDown h.state.text), h, w, []⟩

end Host

end PluginFabric
