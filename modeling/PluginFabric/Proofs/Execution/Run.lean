import PluginFabric.Execution.Manager
import PluginFabric.Proofs.Host
import PluginFabric.Proofs.Run

/-! Runs of the plugins of a running application.

    An engine sets the plugins up, announces events and commits, and tears the plugins down, in any
    order and as often as it likes; in between, the rest of the program may change what plugins can
    ask and the world. An event is accepted while the plugins are set up, a commit only if its window
    is past the last one committed. Whatever is announced is either accepted and dispatched, or
    nothing happens (`dispatch_cases`, `commit_cases`). -/

namespace PluginFabric.ExecutionManager

variable {δ σ : Type}

/-- What an engine does with a manager. -/
inductive Call (δ σ : Type) where
  | setUp
  | dispatch (event : ExecutionEvent)
  | heartbeat (h : ContainerHeartbeat)
  | masterEvent (e : MasterEvent)
  | commit (window : WindowId)
  | tearDown
  /-- The rest of the program changes what plugins can ask, and the world. -/
  | meanwhile (environment : Environment δ → Environment δ) (world : σ → σ)

/-- What comes of it. -/
inductive Reply where
  | setUp (r : Except FabricError Unit)
  | report (r : DispatchReport)
  | committed (r : Option DispatchReport)
  | tornDown (r : Except FabricError (List String))
  | nothing

def perform (m : ExecutionManager δ σ) (w : σ) :
    Call δ σ → Step (ExecutionManager δ σ) σ ExecutionEvent Reply
  | .setUp => (m.setUp w).map .setUp
  | .dispatch event => (m.dispatch event w).map .report
  | .heartbeat h => (m.heartbeat h w).map .report
  | .masterEvent e => (m.masterEvent e w).map .report
  | .commit window => (m.commit window w).map .committed
  | .tearDown => (m.tearDown w).map .tornDown
  | .meanwhile environment world =>
    ⟨.nothing, m.withEnvironment (environment m.environment), world w, []⟩

/-- A run of an execution manager. -/
abbrev Session (δ σ : Type) := Run (ExecutionManager δ σ) σ ExecutionEvent (Call δ σ) Reply

/-- The run of these calls on a new manager for these plugins. -/
def run (plugins : List (ExecutionPlugin δ σ)) (environment : Environment δ) (w : σ)
    (calls : List (Call δ σ)) : Session δ σ :=
  .ofCalls perform (ofPlugins plugins environment) w calls

/-- What a new manager has and every call preserves, every run has. -/
theorem run_invariant {plugins : List (ExecutionPlugin δ σ)} {environment : Environment δ} {w : σ}
    {P : Session δ σ → Prop}
    (start : P { manager := ofPlugins plugins environment, world := w })
    (step : ∀ r c, P r → P (r.advance perform c)) (calls : List (Call δ σ)) :
    P (run plugins environment w calls) :=
  Run.run_induction start step calls

/-- The event that a call announces, if it announces one. -/
def Call.event? : Call δ σ → Option ExecutionEvent
  | .dispatch event => some event
  | .heartbeat h => some (.heartbeat h)
  | .masterEvent e => some (.master e)
  | .commit window => some (.commit window)
  | _ => none

/-- Whether an event is accepted: the plugins are set up, and a commit is past the last one. -/
def Accepts (m : ExecutionManager δ σ) (event : ExecutionEvent) : Prop :=
  m.state = .setUp ∧ ∀ v ∈ event.commitWindow?, ∀ u ∈ m.lastCommitted, u.value < v.value

instance (m : ExecutionManager δ σ) (event : ExecutionEvent) : Decidable (m.Accepts event) :=
  inferInstanceAs (Decidable (_ ∧ _))

/-- The manager after an accepted event: a commit is kept in mind. -/
def noting (m : ExecutionManager δ σ) (event : ExecutionEvent) : ExecutionManager δ σ :=
  match event.commitWindow? with
  | some window => { m with commits := ⟨some window⟩ }
  | none => m

@[simp] theorem host_noting (m : ExecutionManager δ σ) (event : ExecutionEvent) :
    (m.noting event).host = m.host := by
  cases event <;> rfl

/-! ### Announcing events -/

theorem eq_commit_of_commitWindow? {event : ExecutionEvent} {v : WindowId}
    (h : event.commitWindow? = some v) : event = .commit v := by
  cases event <;> simp_all [ExecutionEvent.commitWindow?]

/-- A tracker advances to a window past its last one, and to no other. -/
theorem advance?_eq (t : CommitTracker) (v : WindowId) :
    (t.advance? v = some ⟨some v⟩ ∧ ∀ u ∈ t.last, u.value < v.value) ∨
    (t.advance? v = none ∧ ¬ ∀ u ∈ t.last, u.value < v.value) := by
  obtain ⟨last⟩ := t
  cases last with
  | none => simp [CommitTracker.advance?]
  | some u =>
    by_cases h : v.value ≤ u.value
    · exact .inr ⟨by simp [CommitTracker.advance?, h], by simpa using UInt64.not_lt.2 h⟩
    · exact .inl ⟨by simp [CommitTracker.advance?, h], by simpa using UInt64.not_le.1 h⟩

/-- A commit is accepted and dispatched, or nothing comes of it. -/
theorem commit_cases (m : ExecutionManager δ σ) (v : WindowId) (w : σ) :
    let done := m.commit v w
    let pass := m.host.registry.dispatch m.environment (.commit v) w
    (m.Accepts (.commit v) ∧
      done = ⟨some pass.report, m.noting (.commit v), pass.world, pass.trace⟩) ∨
    (¬ m.Accepts (.commit v) ∧ ∃ notice, done = ⟨none, m, w, [.said notice]⟩) := by
  by_cases hs : m.host.state = .setUp
  · rcases advance?_eq m.commits v with ⟨hadv, hv⟩ | ⟨hadv, hv⟩
    · left
      refine ⟨⟨hs, fun v' hv' => by cases hv'; exact hv⟩, ?_⟩
      simp [commit, hs, hadv, deliver, noting, ExecutionEvent.commitWindow?]
    · right
      refine ⟨fun h => hv (h.2 v rfl), .staleCommit v m.commits.last, ?_⟩
      simp [commit, hs, hadv]
  · right
    refine ⟨fun h => hs h.1, .eventDropped ExecutionTag.commit.name m.host.state.text, ?_⟩
    simp [commit, hs, dropped]

/-- An event is accepted and dispatched, or nothing comes of it. -/
theorem dispatch_cases (m : ExecutionManager δ σ) (event : ExecutionEvent) (w : σ) :
    let done := m.dispatch event w
    let pass := m.host.registry.dispatch m.environment event w
    (m.Accepts event ∧ done = ⟨pass.report, m.noting event, pass.world, pass.trace⟩) ∨
    (¬ m.Accepts event ∧ ∃ notice, done = ⟨{}, m, w, [.said notice]⟩) := by
  cases hwindow : event.commitWindow? with
  | some v =>
    obtain rfl := eq_commit_of_commitWindow? hwindow
    have hdispatch : m.dispatch (.commit v) w = (m.commit v w).map (·.getD {}) := rfl
    rcases commit_cases m v w with ⟨hacc, h⟩ | ⟨hacc, notice, h⟩
    · exact .inl ⟨hacc, by rw [hdispatch, h]; rfl⟩
    · exact .inr ⟨hacc, notice, by rw [hdispatch, h]; rfl⟩
  | none =>
    by_cases hs : m.host.state = .setUp
    · left
      refine ⟨⟨hs, by simp [hwindow]⟩, ?_⟩
      simp [dispatch, hwindow, hs, deliver, noting]
    · right
      refine ⟨fun h => hs h.1, .eventDropped event.kind.name m.host.state.text, ?_⟩
      simp [dispatch, hwindow, hs, dropped]

/-- A call that announces an event does what dispatching it does; only its reply may differ. -/
theorem perform_event {c : Call δ σ} {event : ExecutionEvent} (h : c.event? = some event)
    (m : ExecutionManager δ σ) (w : σ) :
    let done := m.perform w c
    done.manager = (m.dispatch event w).manager ∧ done.world = (m.dispatch event w).world ∧
      done.trace = (m.dispatch event w).trace := by
  cases c <;> cases h <;> exact ⟨rfl, rfl, rfl⟩

end PluginFabric.ExecutionManager
