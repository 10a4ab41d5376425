import PluginFabric.Preparation.Manager
import PluginFabric.Proofs.Host
import PluginFabric.Proofs.Run

/-! Runs of a preparation.

    An engine sets the plugins up, fires stages, runs its steps within phases and tears the plugins
    down, in any order and as often as it likes; in between, the rest of the program may change the
    graph and the world. What firing a stage does is said once (`fire_cases`); whatever firing
    preserves, a phase preserves (`around_induction`). -/

namespace PluginFabric.PreparationManager

variable {δ σ α : Type}

/-- What an engine does with a manager, where its steps answer `α`. -/
inductive Call (δ σ α : Type) where
  | setUp (dag : δ)
  | fire (stage : Stage)
  | around (phase : Phase) (step : Workspace δ σ → Completion (Workspace δ σ) α)
  | tearDown
  /-- The rest of the program changes the graph, if one is attached, and the world. -/
  | meanwhile (dag : δ → δ) (own : σ → σ)

/-- What comes of it. -/
inductive Reply (α : Type) where
  | setUp (r : Except FabricError Unit)
  | fired (r : Except FabricError DispatchReport)
  | phase (r : PhaseResult α)
  | tornDown (r : Except FabricError (List String))
  | nothing

def perform (m : PreparationManager δ σ) (w : σ) :
    Call δ σ α → Step (PreparationManager δ σ) σ Stage (Reply α)
  | .setUp dag => (m.setUp dag w).map .setUp
  | .fire stage => (m.fire stage w).map .fired
  | .around phase step => (m.around phase step w).map .phase
  | .tearDown => (m.tearDown w).map .tornDown
  | .meanwhile dag own => ⟨.nothing, { m with dag := m.dag.map dag }, own w, []⟩

/-- A run of a preparation manager, where the engine's steps answer `α`. -/
abbrev Session (δ σ α : Type) := Run (PreparationManager δ σ) σ Stage (Call δ σ α) (Reply α)

/-- The run of these calls on a new manager for these plugins. -/
def run (plugins : List (PreparationPlugin δ σ)) (configuration : Configuration) (w : σ)
    (calls : List (Call δ σ α)) : Session δ σ α :=
  .ofCalls perform (ofPlugins plugins configuration) w calls

/-- What a new manager has and every call preserves, every run has. -/
theorem run_invariant {plugins : List (PreparationPlugin δ σ)} {configuration : Configuration} {w : σ}
    {P : Session δ σ α → Prop}
    (start : P { manager := ofPlugins plugins configuration, world := w })
    (step : ∀ r c, P r → P (r.advance perform c)) (calls : List (Call δ σ α)) :
    P (run plugins configuration w calls) :=
  Run.run_induction start step calls

/-- A manager whose plugins are set up has a graph attached. -/
def Attached (m : PreparationManager δ σ) : Prop := m.state = .setUp → ∃ dag, m.dag = some dag

/-! ### Firing a stage -/

/-- A stage is refused for the state of the manager, or because another one is to come, or it is
    dispatched and the stage after it is to come. -/
theorem fire_cases {m : PreparationManager δ σ} (attached : m.Attached) (stage : Stage) (w : σ) :
    let done := m.fire stage w
    (m.state ≠ .setUp ∧ done = ⟨.error (.invalidState .fireStage m.state.text), m, w, []⟩) ∨
    (m.state = .setUp ∧ m.nextStage ≠ some stage ∧
      done = ⟨.error (.stageOutOfOrder m.nextStage stage), m, w, []⟩) ∨
    (m.state = .setUp ∧ m.nextStage = some stage ∧ ∃ dag, m.dag = some dag ∧
      let pass := m.host.registry.dispatch m.configuration stage ⟨dag, w⟩
      done.answer = .ok pass.report ∧
      done.manager = { m with nextStage := stage.next, dag := some pass.world.dag } ∧
      done.world = pass.world.own ∧ done.trace.calls = pass.trace.calls ∧
      done.trace.dispatched = [stage]) := by
  by_cases hs : m.state = .setUp
  · right
    by_cases hnext : m.nextStage = some stage
    · right
      obtain ⟨dag, hdag⟩ := attached hs
      refine ⟨hs, hnext, dag, hdag, ?_⟩
      have hs' : m.host.state = .setUp := hs
      have hdispatched := (dispatch_entries m.host.registry m.configuration stage ⟨dag, w⟩).2.2
      simp [fire, Host.require, hs', hnext, deliverStage, hdag, Trace.calls_cons,
        Trace.dispatched_cons, Occurrence.isCall, Occurrence.dispatched?, hdispatched]
    · left
      have hs' : m.host.state = .setUp := hs
      refine ⟨hs, hnext, ?_⟩
      simp [fire, Host.require, hs', hnext]
  · left
    have hs' : m.host.state ≠ .setUp := hs
    refine ⟨hs, ?_⟩
    simp [fire, Host.require, hs', state]

theorem attached_fire {m : PreparationManager δ σ} (attached : m.Attached) (stage : Stage) (w : σ) :
    (m.fire stage w).manager.Attached := by
  rcases fire_cases attached stage w with ⟨-, h⟩ | ⟨-, -, h⟩ | ⟨-, -, dag, -, -, h, -⟩
  · rw [h]
    exact attached
  · rw [h]
    exact attached
  · rw [h]
    exact fun _ => ⟨_, rfl⟩

/-- A stage changes nothing about the plugins, what they registered and the state. -/
theorem host_fire {m : PreparationManager δ σ} (attached : m.Attached) (stage : Stage) (w : σ) :
    (m.fire stage w).manager.host = m.host := by
  rcases fire_cases attached stage w with ⟨-, h⟩ | ⟨-, -, h⟩ | ⟨-, -, dag, -, -, h, -⟩ <;> rw [h]

/-! ### Setting up and tearing down -/

/-- The host is set up with the graph, whether it refuses or not, and the stage to come is the same. -/
theorem setUp_host (m : PreparationManager δ σ) (dag : δ) (w : σ) :
    let done := m.setUp dag w
    let below := m.host.setUp .preparation m.configuration ⟨dag, w⟩
    done.answer = below.answer ∧ done.manager.host = below.manager ∧ done.trace = below.trace ∧
      done.manager.nextStage = m.nextStage := by
  by_cases hs : m.host.state = .notSetUp
  · simp [setUp, Host.require, hs]
  · simp [setUp, Host.setUp, Host.require, hs]

theorem attached_setUp {m : PreparationManager δ σ} (attached : m.Attached) (dag : δ) (w : σ) :
    (m.setUp dag w).manager.Attached := by
  by_cases hs : m.host.state = .notSetUp
  · simp [setUp, Host.require, hs, Attached]
  · simpa [setUp, Host.require, hs] using attached

/-- The host is torn down with the graph, or there is none and no plugin was set up. -/
theorem tearDown_cases {m : PreparationManager δ σ} (attached : m.Attached) (w : σ) :
    let done := m.tearDown w
    done.manager.nextStage = m.nextStage ∧
    ((∃ dag, m.dag = some dag ∧
      let below := m.host.tearDown m.configuration ⟨dag, w⟩
      done.answer = below.answer ∧ done.manager.host = below.manager ∧ done.trace = below.trace) ∨
    (m.state = .notSetUp ∧ done.answer = .ok [] ∧
      done.manager.host = { m.host with state := .tornDown } ∧ done.trace = []) ∨
    (m.state = .tornDown ∧
      done = ⟨.error (.invalidState .tearDown m.state.text), m, w, []⟩)) := by
  cases hdag : m.dag with
  | some dag => simp [tearDown, hdag]
  | none =>
    cases hs : m.host.state with
    | setUp =>
      obtain ⟨dag, h⟩ := attached hs
      simp [hdag] at h
    | notSetUp => simp [tearDown, hdag, hs, state]
    | tornDown => simp [tearDown, hdag, hs, state]

theorem state_tearDown {m : PreparationManager δ σ} (attached : m.Attached) (w : σ) :
    (m.tearDown w).manager.state = .tornDown := by
  rcases (tearDown_cases attached w).2 with ⟨dag, -, -, h, -⟩ | ⟨-, -, h, -⟩ | ⟨hs, h⟩
  · rw [state, h, Host.state_tearDown]
  · rw [state, h]
  · rw [h, hs]

theorem quiet_tearDown {m : PreparationManager δ σ} (attached : m.Attached) (w : σ) :
    Trace.Quiet (m.tearDown w).trace := by
  rcases (tearDown_cases attached w).2 with ⟨dag, -, -, -, htrace⟩ | ⟨-, -, -, htrace⟩ | ⟨-, hd⟩
  · rw [htrace]
    exact Host.quiet_tearDown ..
  · rw [htrace]
    exact ⟨rfl, rfl⟩
  · rw [hd]
    exact ⟨rfl, rfl⟩

/-! ### Phases -/

/-- Whatever firing and the engine's step preserve, a phase preserves. -/
theorem around_induction {P : PreparationManager δ σ → Trace Stage → Prop}
    (fire : ∀ m t stage w, P m t → P (m.fire stage w).manager (t ++ (m.fire stage w).trace))
    (step : ∀ m t dag notices, P m t →
      P { m with dag := some dag } (t ++ .stepping :: Trace.ofNotices notices))
    (m : PreparationManager δ σ) (t : Trace Stage) (phase : Phase)
    (code : Workspace δ σ → Completion (Workspace δ σ) α) (w : σ) (h : P m t) :
    P (m.around phase code w).manager (t ++ (m.around phase code w).trace) := by
  have first := fire m t phase.pre w h
  rw [around]
  split
  · exact first
  · exact first
  · rename_i dag hans hdag
    have between := step _ _ (code ⟨dag, (m.fire phase.pre w).world⟩).world.dag
      (code ⟨dag, (m.fire phase.pre w).world⟩).notices first
    rw [List.append_assoc] at between
    dsimp only
    split
    · exact between
    · exact between
    · have second := fire _ _ phase.post (code ⟨dag, (m.fire phase.pre w).world⟩).world.own between
      rwa [List.append_assoc] at second

/-- A phase changes nothing about the plugins, what they registered and the state. -/
theorem host_around {m : PreparationManager δ σ} (attached : m.Attached) (phase : Phase)
    (code : Workspace δ σ → Completion (Workspace δ σ) α) (w : σ) :
    (m.around phase code w).manager.host = m.host := by
  refine (around_induction (P := fun m' _ => m'.Attached ∧ m'.host = m.host) ?_ ?_ m [] phase code w
    ⟨attached, rfl⟩).2
  · rintro m' - stage w ⟨hatt, hhost⟩
    exact ⟨attached_fire hatt stage w, (host_fire hatt stage w).trans hhost⟩
  · rintro m' - dag notices ⟨-, hhost⟩
    exact ⟨fun _ => ⟨dag, rfl⟩, hhost⟩

end PluginFabric.PreparationManager
