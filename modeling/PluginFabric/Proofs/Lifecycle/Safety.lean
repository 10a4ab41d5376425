import PluginFabric.Proofs.Execution.Run
import PluginFabric.Proofs.Lifecycle.Passage
import PluginFabric.Proofs.Preparation.Run

/-! Both managers keep the lifecycle of their plugins.

    Whatever an engine calls and in whichever order, every plugin is set up once at most and torn down
    once at most, and only if its setup succeeded; handlers are called after all setups and before any
    teardown; and a manager never goes back to an earlier state. -/

namespace PluginFabric

variable {δ σ α : Type} {n : Nat}

/-- The states of a run begin before the setup, and each leads to the next. -/
def Run.OneWay {μ ω ε χ α : Type} (state : μ → LifecycleState) (r : Run μ ω ε χ α) : Prop :=
  (r.managers.map state).head? = some .notSetUp ∧ (r.managers.map state).IsChain LifecycleState.Leads

theorem Run.OneWay.advance {μ ω ε χ α : Type} {state : μ → LifecycleState} {r : Run μ ω ε χ α}
    (h : r.OneWay state) (perform : μ → ω → χ → Step μ ω ε α) (c : χ)
    (leads : (state r.manager).Leads (state (perform r.manager r.world c).manager)) :
    (r.advance perform c).OneWay state := by
  obtain ⟨hhead, hchain⟩ := h
  constructor
  · rw [managers_advance, List.map_append, List.head?_append, hhead]
    rfl
  · rw [List.isChain_map] at hchain ⊢
    exact isChain_managers_advance perform r c hchain leads

/-! ### Preparation -/

namespace PreparationManager

/-- A manager of `n` plugins that were called for `t` so far. -/
structure Sound (n : Nat) (m : PreparationManager δ σ) (t : Trace Stage) : Prop where
  positioned : m.host.Positioned n
  attached : m.Attached
  history : Lifecycle.History n m.host.state t.calls

variable {m : PreparationManager δ σ} {t : Trace Stage}

theorem passage_fire (attached : m.Attached) (stage : Stage) (w : σ) :
    Lifecycle.Passage n m.host.state (m.fire stage w).trace.calls
      (m.fire stage w).manager.host.state := by
  rw [host_fire attached]
  rcases fire_cases attached stage w with ⟨-, hd⟩ | ⟨-, -, hd⟩ | ⟨hs, -, dag, -, -, -, -, hcalls, -⟩
  · rw [hd]
    exact .quiet _
  · rw [hd]
    exact .quiet _
  · have hs' : m.host.state = .setUp := hs
    rw [hcalls, hs']
    exact .served (Lifecycle.onlyHandling_dispatch _ _ _ _)

theorem passage_tearDown (h : Sound n m t) (w : σ) :
    Lifecycle.Passage n m.host.state (m.tearDown w).trace.calls (m.tearDown w).manager.host.state ∧
      (m.tearDown w).manager.host.members = m.host.members := by
  rcases (tearDown_cases h.attached w).2 with
    ⟨dag, -, -, hhost, htrace⟩ | ⟨hs, -, hhost, htrace⟩ | ⟨-, hd⟩
  · rw [hhost, htrace]
    exact ⟨Lifecycle.passage_tearDown h.positioned .., Host.members_tearDown ..⟩
  · have hs' : m.host.state = .notSetUp := hs
    rw [hhost, htrace, hs']
    exact ⟨.givenUp, rfl⟩
  · rw [hd]
    exact ⟨.quiet _, rfl⟩

theorem Sound.fire (h : Sound n m t) (stage : Stage) (w : σ) :
    Sound n (m.fire stage w).manager (t ++ (m.fire stage w).trace) := by
  refine ⟨by rw [host_fire h.attached]; exact h.positioned, attached_fire h.attached stage w, ?_⟩
  rw [Trace.calls_append]
  exact h.history.extend (passage_fire h.attached stage w)

/-- The engine's own step calls no plugin. -/
theorem Sound.stepped (h : Sound n m t) (dag : δ) (notices : List Notice) :
    Sound n { m with dag := some dag } (t ++ .stepping :: Trace.ofNotices notices) := by
  refine ⟨h.positioned, fun _ => ⟨dag, rfl⟩, ?_⟩
  simpa [Trace.calls_cons, Occurrence.isCall] using h.history

theorem Sound.around (h : Sound n m t) (phase : Phase)
    (step : Workspace δ σ → Completion (Workspace δ σ) α) (w : σ) :
    Sound n (m.around phase step w).manager (t ++ (m.around phase step w).trace) :=
  around_induction (P := Sound n) (fun _ _ stage w h => h.fire stage w)
    (fun _ _ dag notices h => h.stepped dag notices) m t phase step w h

theorem Sound.perform (h : Sound n m t) (w : σ) (c : Call δ σ α) :
    Sound n (m.perform w c).manager (t ++ (m.perform w c).trace) := by
  cases c with
  | setUp dag =>
    obtain ⟨-, hhost, htrace, -⟩ := setUp_host m dag w
    refine ⟨?_, attached_setUp h.attached dag w, ?_⟩ <;>
      simp only [PreparationManager.perform, Step.manager_map, Step.trace_map, Trace.calls_append,
        hhost, htrace]
    · exact h.positioned.of_members_eq (Host.members_setUp _ _ _ _)
    · exact h.history.extend (Lifecycle.passage_setUp h.positioned ..)
  | fire stage => exact h.fire stage w
  | around phase step => exact h.around phase step w
  | tearDown =>
    obtain ⟨hpass, hmembers⟩ := passage_tearDown h w
    refine ⟨?_, fun hs => ?_, ?_⟩
    · exact h.positioned.of_members_eq hmembers
    · have := state_tearDown h.attached w
      simp [PreparationManager.perform, this] at hs
    · simp only [PreparationManager.perform, Step.manager_map, Step.trace_map, Trace.calls_append]
      exact h.history.extend hpass
  | meanwhile dag own =>
    refine ⟨h.positioned, fun hs => ?_, ?_⟩
    · obtain ⟨d, hd⟩ := h.attached hs
      exact ⟨dag d, by simp [PreparationManager.perform, hd]⟩
    · simpa [PreparationManager.perform] using h.history

/-- No call changes who the plugins are. -/
theorem members_perform (h : Sound n m t) (w : σ) (c : Call δ σ α) :
    (m.perform w c).manager.host.members = m.host.members := by
  cases c with
  | setUp dag =>
    simp only [PreparationManager.perform, Step.manager_map, (setUp_host m dag w).2.1]
    exact Host.members_setUp ..
  | fire stage => exact congrArg Host.members (host_fire h.attached stage w)
  | around phase step => exact congrArg Host.members (host_around h.attached phase step w)
  | tearDown => exact (passage_tearDown h w).2
  | meanwhile dag own => rfl

theorem Sound.leads (h : Sound n m t) (w : σ) (c : Call δ σ α) :
    m.state.Leads (m.perform w c).manager.state := by
  cases c with
  | setUp dag =>
    have := (Lifecycle.passage_setUp h.positioned .preparation m.configuration ⟨dag, w⟩).leads
    rwa [← (setUp_host m dag w).2.1] at this
  | fire stage => exact (passage_fire (n := n) h.attached stage w).leads
  | around phase step =>
    simp only [PreparationManager.perform, Step.manager_map, state, host_around h.attached]
    exact .stay _
  | tearDown => exact (passage_tearDown h w).1.leads
  | meanwhile dag own => exact .stay _

theorem sound_ofPlugins (plugins : List (PreparationPlugin δ σ)) (configuration : Configuration) :
    Sound plugins.length (ofPlugins plugins configuration) [] :=
  ⟨Host.positioned_ofPlugins plugins, fun hs => (by cases hs), .fresh⟩

theorem sound_run (plugins : List (PreparationPlugin δ σ)) (configuration : Configuration) (w : σ)
    (calls : List (Call δ σ α)) :
    let r := run plugins configuration w calls
    Sound plugins.length r.manager r.trace ∧ r.OneWay state := by
  refine run_invariant (P := fun r => Sound plugins.length r.manager r.trace ∧ r.OneWay state)
    ?_ ?_ calls
  · exact ⟨sound_ofPlugins plugins configuration, rfl, .singleton _⟩
  · rintro r c ⟨hsound, hway⟩
    refine ⟨?_, hway.advance _ c (hsound.leads r.world c)⟩
    rw [Run.trace_advance]
    exact hsound.perform r.world c

end PreparationManager

/-! ### Execution -/

namespace ExecutionManager

/-- A manager of `n` plugins that were called for `t` so far. -/
structure Sound (n : Nat) (m : ExecutionManager δ σ) (t : Trace ExecutionEvent) : Prop where
  positioned : m.host.Positioned n
  history : Lifecycle.History n m.host.state t.calls

variable {m : ExecutionManager δ σ} {t : Trace ExecutionEvent}

theorem passage_perform (hn : m.host.Positioned n) (w : σ) (c : Call δ σ) :
    Lifecycle.Passage n m.host.state (m.perform w c).trace.calls (m.perform w c).manager.host.state ∧
      (m.perform w c).manager.host.members = m.host.members := by
  have announced : ∀ event, c.event? = some event →
      Lifecycle.Passage n m.host.state (m.perform w c).trace.calls (m.perform w c).manager.host.state ∧
        (m.perform w c).manager.host.members = m.host.members := by
    intro event hevent
    obtain ⟨hman, -, htrace⟩ := perform_event hevent m w
    rw [hman, htrace]
    rcases dispatch_cases m event w with ⟨hacc, hd⟩ | ⟨-, notice, hd⟩
    · have hs : m.host.state = .setUp := hacc.1
      rw [hd, host_noting, hs]
      exact ⟨.served (Lifecycle.onlyHandling_dispatch _ _ _ _), rfl⟩
    · rw [hd]
      exact ⟨.quiet _, rfl⟩
  cases c with
  | setUp => exact ⟨Lifecycle.passage_setUp hn .., Host.members_setUp ..⟩
  | tearDown => exact ⟨Lifecycle.passage_tearDown hn .., Host.members_tearDown ..⟩
  | meanwhile => exact ⟨.quiet _, rfl⟩
  | _ => exact announced _ rfl

theorem Sound.perform (h : Sound n m t) (w : σ) (c : Call δ σ) :
    Sound n (m.perform w c).manager (t ++ (m.perform w c).trace) := by
  obtain ⟨hpass, hmembers⟩ := passage_perform h.positioned w c
  refine ⟨h.positioned.of_members_eq hmembers, ?_⟩
  rw [Trace.calls_append]
  exact h.history.extend hpass

theorem sound_ofPlugins (plugins : List (ExecutionPlugin δ σ)) (environment : Environment δ) :
    Sound plugins.length (ofPlugins plugins environment) [] :=
  ⟨Host.positioned_ofPlugins plugins, .fresh⟩

theorem sound_run (plugins : List (ExecutionPlugin δ σ)) (environment : Environment δ) (w : σ)
    (calls : List (Call δ σ)) :
    let r := run plugins environment w calls
    Sound plugins.length r.manager r.trace ∧ r.OneWay state := by
  refine run_invariant (P := fun r => Sound plugins.length r.manager r.trace ∧ r.OneWay state)
    ?_ ?_ calls
  · exact ⟨sound_ofPlugins plugins environment, rfl, .singleton _⟩
  · rintro r c ⟨hsound, hway⟩
    refine ⟨?_, hway.advance _ c (passage_perform hsound.positioned r.world c).1.leads⟩
    rw [Run.trace_advance]
    exact hsound.perform r.world c

end ExecutionManager

/-! ### Every run -/

/-- Over every run of either manager the plugins are called safely, and the state goes one way. -/
theorem lifecycle_safe (δ σ α : Type) :
    (∀ (plugins : List (PreparationPlugin δ σ)) (configuration : Configuration) (w : σ)
      (calls : List (PreparationManager.Call δ σ α)),
      let r := PreparationManager.run plugins configuration w calls
      Lifecycle.Safe plugins.length r.manager.state r.trace ∧ r.OneWay PreparationManager.state) ∧
    (∀ (plugins : List (ExecutionPlugin δ σ)) (environment : Environment δ) (w : σ)
      (calls : List (ExecutionManager.Call δ σ)),
      let r := ExecutionManager.run plugins environment w calls
      Lifecycle.Safe plugins.length r.manager.state r.trace ∧ r.OneWay ExecutionManager.state) := by
  constructor
  · intro plugins configuration w calls r
    obtain ⟨hsound, hway⟩ := PreparationManager.sound_run plugins configuration w calls
    exact ⟨Lifecycle.safe_of_calls hsound.history.safe, hway⟩
  · intro plugins environment w calls r
    obtain ⟨hsound, hway⟩ := ExecutionManager.sound_run plugins environment w calls
    exact ⟨Lifecycle.safe_of_calls hsound.history.safe, hway⟩

end PluginFabric
