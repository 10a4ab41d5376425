import PluginFabric.Execution.CommitTracker
import PluginFabric.Execution.Route
import PluginFabric.Plugin.Lifecycle
import PluginFabric.Plugin.Resolver

/-! The manager of the plugins of a running application.

    Events reach the plugins only while these are set up; otherwise they are dropped. A commit reaches
    them only if its window is past every window committed before, and it counts as committed as soon
    as it is announced, whatever becomes of its delivery. -/

namespace PluginFabric

/-- The plugins of one run, what they may ask, and the last commit. -/
structure ExecutionManager (δ σ : Type) where
  host : Host (Environment δ) σ ExecutionEvent ExecutionTag
  environment : Environment δ
  commits : CommitTracker := {}

namespace ExecutionManager

variable {δ σ : Type}

/-- A manager for these plugins, in the order in which they were resolved. -/
def ofPlugins (plugins : List (ExecutionPlugin δ σ)) (environment : Environment δ) :
    ExecutionManager δ σ :=
  { host := .ofPlugins plugins, environment }

/-- A manager for the plugins that the launch configuration lists, and the resolution that made
    them. -/
def fromResolver {ω : Type} (resolver : Resolver ω (ExecutionPlugin δ σ)) (environment : Environment δ)
    (w : ω) : Except FabricError (ExecutionManager δ σ) × Resolution ω (ExecutionPlugin δ σ) :=
  let done := resolver.resolve environment.configuration EngineConfig.executionKey w
  (done.result.map (ofPlugins · environment), done)

def state (m : ExecutionManager δ σ) : LifecycleState := m.host.state

def lastCommitted (m : ExecutionManager δ σ) : Option WindowId := m.commits.last

/-- The manager with a newer environment. -/
def withEnvironment (m : ExecutionManager δ σ) (environment : Environment δ) : ExecutionManager δ σ :=
  { m with environment }

/-- Sets every plugin up. -/
def setUp (m : ExecutionManager δ σ) (w : σ) :
    Step (ExecutionManager δ σ) σ ExecutionEvent (Except FabricError Unit) :=
  let done := m.host.setUp .execution m.environment w
  ⟨done.answer, { m with host := done.manager }, done.world, done.trace⟩

/-- Delivers an event to the plugins. -/
def deliver (m : ExecutionManager δ σ) (event : ExecutionEvent) (w : σ) :
    Step (ExecutionManager δ σ) σ ExecutionEvent DispatchReport :=
  let done := m.host.registry.dispatch m.environment event w
  ⟨done.report, m, done.world, done.trace⟩

/-- What is said of an event that comes while the plugins are not set up. -/
def dropped (m : ExecutionManager δ σ) (tag : ExecutionTag) : Trace ExecutionEvent :=
  [.said (.eventDropped tag.name m.host.state.text)]

/-- Announces a committed window; nothing comes of one that is dropped or stale. -/
def commit (m : ExecutionManager δ σ) (window : WindowId) (w : σ) :
    Step (ExecutionManager δ σ) σ ExecutionEvent (Option DispatchReport) :=
  if m.host.state = .setUp then
    match m.commits.advance? window with
    | none => ⟨none, m, w, [.said (.staleCommit window m.commits.last)]⟩
    | some commits =>
      let done := deliver { m with commits } (.commit window) w
      ⟨some done.answer, done.manager, done.world, done.trace⟩
  else ⟨none, m, w, m.dropped .commit⟩

/-- Delivers any event; a commit that is not delivered makes an empty report. -/
def dispatch (m : ExecutionManager δ σ) (event : ExecutionEvent) (w : σ) :
    Step (ExecutionManager δ σ) σ ExecutionEvent DispatchReport :=
  match event.commitWindow? with
  | some window =>
    let done := m.commit window w
    ⟨done.answer.getD {}, done.manager, done.world, done.trace⟩
  | none =>
    if m.host.state = .setUp then m.deliver event w
    else ⟨{}, m, w, m.dropped event.kind⟩

def heartbeat (m : ExecutionManager δ σ) (h : ContainerHeartbeat) (w : σ) :
    Step (ExecutionManager δ σ) σ ExecutionEvent DispatchReport :=
  m.dispatch (.heartbeat h) w

def masterEvent (m : ExecutionManager δ σ) (e : MasterEvent) (w : σ) :
    Step (ExecutionManager δ σ) σ ExecutionEvent DispatchReport :=
  m.dispatch (.master e) w

/-- Tears the plugins down. -/
def tearDown (m : ExecutionManager δ σ) (w : σ) :
    Step (ExecutionManager δ σ) σ ExecutionEvent (Except FabricError (List String)) :=
  let done := m.host.tearDown m.environment w
  ⟨done.answer, { m with host := done.manager }, done.world, done.trace⟩

end ExecutionManager

end PluginFabric
