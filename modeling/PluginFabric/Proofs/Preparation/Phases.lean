import PluginFabric.Proofs.Lifecycle.Rollback
import PluginFabric.Proofs.Registry

/-! A phase encloses the engine's step.

    The step of a phase runs between two stages, and only if the first one is accepted. All of it works
    on one graph: the handlers of the first stage by position, then the step, then the handlers of the
    second stage, each on what the one before left (`throughPhase`); that handlers fail changes nothing
    about this. A step that fails leaves the second stage to come, and until this stage is fired by
    itself every phase is refused. -/

namespace PluginFabric

/-- Whether something is done here, rather than told of. -/
def Occurrence.isAct {ε : Type} : Occurrence ε → Bool
  | contained _ | said _ => false
  | _ => true

namespace Trace

variable {ε : Type} (s t : Trace ε) (o : Occurrence ε) (notices : List Notice)

/-- What is done in a trace: events are accepted, plugin code is called and steps are run. -/
def acts : Trace ε := t.filter Occurrence.isAct

@[simp] theorem acts_append : acts (s ++ t) = acts s ++ acts t := List.filter_append ..

theorem acts_cons : acts (o :: t) = if o.isAct then o :: acts t else acts t := List.filter_cons ..

@[simp] theorem acts_ofNotices : acts (ofNotices notices : Trace ε) = [] := by
  simp [acts, ofNotices, Occurrence.isAct]

end Trace

section Delivery

variable {ρ ω ε κ : Type} [EventTag κ] [Tagged ε κ] (ctx : ρ) (event : ε)

/-- Nothing is done in a delivery but calling plugin code. -/
theorem acts_deliver (entries : List (PluginId × RegistryEntry κ (Handler ρ ω ε))) (w : ω) :
    (Registry.deliver ctx event entries w).trace.acts
      = (Registry.deliver ctx event entries w).trace.calls := by
  induction entries generalizing w with
  | nil => rfl
  | cons p rest ih =>
    simp only [Registry.deliver]
    cases p.2.handlers.get? (tag event) with
    | none => exact ih w
    | some handler =>
      dsimp only
      rcases (handler ctx event w).outcome.failure? with _ | ⟨error, panicked⟩ <;>
        simp [Trace.acts_cons, Trace.calls_cons, Occurrence.isAct, Occurrence.isCall, ih]

/-- A dispatch accepts the event and calls its handlers one after the other. -/
theorem acts_dispatch (r : Registry κ (Handler ρ ω ε)) (w : ω) :
    let receivers := handlersFor (tag event) r.entries.toList
    (r.dispatch ctx event w).trace.acts
      = .dispatching event :: (callEach ctx event receivers w).calls := by
  intro receivers
  rw [← (deliver_entries ctx event r.entries.toList w).1, ← acts_deliver]
  rfl

end Delivery

/-! ### Setups that all succeed -/

/-- The world after the setups of plugins, each in the world that the one before left. -/
def throughSetUps {ρ ω ε κ : Type} (ctx : ρ) (ms : List (PluginId × Plugin ρ ω ε κ)) (w : ω) : ω :=
  ms.foldl (fun w m => (m.2.setup ctx m.1 w).completion.world) w

theorem Host.world_setUpEach {ρ ω ε κ : Type} [EventTag κ] (domain : Domain) (ctx : ρ)
    (ms : List (PluginId × Plugin ρ ω ε κ)) (r : Registry κ (Handler ρ ω ε)) (w : ω)
    (ready : (setUpEach domain ctx ms r w).failure = none) :
    (setUpEach domain ctx ms r w).world = throughSetUps ctx ms w := by
  induction ms generalizing r w with
  | nil => rfl
  | cons m rest ih =>
    rcases setUpEach_cons domain ctx m.1 m.2 rest r w with
      ⟨-, -, hfail, -, hworld, -⟩ | ⟨cause, -, -, hfail, -⟩
    · rw [hfail] at ready
      rw [hworld, ih _ _ ready]
      rfl
    · rw [hfail] at ready
      cases ready

namespace PreparationManager

variable {δ σ α : Type}

/-- A handler of a preparation plugin. -/
abbrev StageHandler (δ σ : Type) := Handler Configuration (Workspace δ σ) Stage

/-- Whom a stage goes to, and with which handler, by position. -/
def handlersAt (m : PreparationManager δ σ) (stage : Stage) : List (PluginId × StageHandler δ σ) :=
  handlersFor stage m.host.registry.entries.toList

/-- What a phase makes of a workspace if its step succeeds: the handlers of the first stage, the step
    and the handlers of the second stage work on it in turn. -/
def throughPhase (configuration : Configuration) (handlers : Stage → List (PluginId × StageHandler δ σ))
    (phase : Phase) (step : Workspace δ σ → Completion (Workspace δ σ) α) (ws : Workspace δ σ) :
    Completion (Workspace δ σ) α :=
  let ran := step (callEach configuration phase.pre (handlers phase.pre) ws).world
  { ran with world := (callEach configuration phase.post (handlers phase.post) ran.world).world }

/-- How a phase goes that is begun on this graph and whose step returns: the handlers of its first stage
    are called, and the step is run once on what they left. If it fails, that is all and the second stage
    is to come; if it succeeds, the second stage is accepted, and the value of the step is the answer
    however its handlers end. -/
structure Goes (m : PreparationManager δ σ) (dag : δ) (phase : Phase)
    (step : Workspace δ σ → Completion (Workspace δ σ) α) (w : σ) : Prop where
  failed : let first := callEach m.configuration phase.pre (m.handlersAt phase.pre) ⟨dag, w⟩
    let ran := step first.world
    let done := m.around phase step w
    ∀ f, ran.outcome = .failed f →
      done.answer = .stepFailed f ∧
      done.manager = { m with dag := some ran.world.dag, nextStage := some phase.post } ∧
      done.world = ran.world.own ∧
      done.trace.acts = .dispatching phase.pre :: first.calls ++ [.stepping]
  succeeded : let first := callEach m.configuration phase.pre (m.handlersAt phase.pre) ⟨dag, w⟩
    let ran := step first.world
    let second := callEach m.configuration phase.post (m.handlersAt phase.post) ran.world
    let done := m.around phase step w
    ∀ a, ran.outcome = .ok a →
      done.answer = .done a ∧
      done.manager = { m with dag := some second.world.dag, nextStage := phase.post.next } ∧
      done.world = second.world.own ∧
      done.trace.acts = .dispatching phase.pre :: first.calls ++
        .stepping :: .dispatching phase.post :: second.calls

/-- A phase comes to nothing if its first stage is refused, and otherwise goes on from there. -/
structure Encloses (m : PreparationManager δ σ) (phase : Phase)
    (step : Workspace δ σ → Completion (Workspace δ σ) α) (w : σ) : Prop where
  refused : ∀ e, (m.fire phase.pre w).answer = .error e → m.around phase step w = ⟨.refused e, m, w, []⟩
  accepted : ∀ report, (m.fire phase.pre w).answer = .ok report →
    ∃ dag, m.dag = some dag ∧ m.Goes dag phase step w

/-- What holds while nothing was accepted since a step failed, so that `stage` is to come: the only call
    that is accepted next is the one that fires this stage, and phases are refused. -/
structure Awaits (stage : Stage) (r : Session δ σ α) : Prop where
  next : r.manager.nextStage = some stage
  only : ∀ c, (r.advance perform c).trace.dispatched ≠ r.trace.dispatched →
    c = .fire stage ∧ (r.advance perform c).trace.dispatched = r.trace.dispatched ++ [stage]
  phases : ∀ {β : Type} phase (step : Workspace δ σ → Completion (Workspace δ σ) β) w, ∃ e,
    r.manager.around phase step w = ⟨.refused e, r.manager, w, []⟩

/-- A manager whose plugins are set up with these handlers, at work on `ws`, and the stage to come. -/
structure Poised (configuration : Configuration) (handlers : Stage → List (PluginId × StageHandler δ σ))
    (ws : Workspace δ σ) (next : Option Stage) (m : PreparationManager δ σ) : Prop where
  state : m.state = .setUp
  configuration : m.configuration = configuration
  handlers : m.handlersAt = handlers
  dag : m.dag = some ws.dag
  next : m.nextStage = next

/-! ### One phase -/

section Phase

variable {m : PreparationManager δ σ} {dag : δ}

theorem fire_accepted (hs : m.state = .setUp) {stage : Stage} (hnext : m.nextStage = some stage)
    (hdag : m.dag = some dag) (w : σ) :
    let pass := callEach m.configuration stage (m.handlersAt stage) ⟨dag, w⟩
    let done := m.fire stage w
    (∃ report, done.answer = .ok report) ∧
      done.manager = { m with dag := some pass.world.dag, nextStage := stage.next } ∧
      done.world = pass.world.own ∧ done.trace.acts = .dispatching stage :: pass.calls := by
  have hs' : m.host.state = .setUp := hs
  obtain ⟨-, hworld, -⟩ := dispatch_entries m.host.registry m.configuration stage ⟨dag, w⟩
  have hacts := acts_dispatch m.configuration stage m.host.registry (⟨dag, w⟩ : Workspace δ σ)
  simp only [fire, Host.require, hs', hnext, if_true, deliverStage, hdag, hworld, Trace.acts_append,
    hacts]
  exact ⟨⟨_, rfl⟩, rfl, rfl, List.append_nil _⟩

/-- A phase whose first stage is in its turn runs its step on what the handlers of this stage left, and
    the second stage is then in its turn. -/
theorem goes (hs : m.state = .setUp) {phase : Phase} (hnext : m.nextStage = some phase.pre)
    (hdag : m.dag = some dag) (step : Workspace δ σ → Completion (Workspace δ σ) α) (w : σ) :
    m.Goes dag phase step w := by
  obtain ⟨⟨report, hans⟩, hman, hworld, hacts⟩ := fire_accepted hs hnext hdag w
  constructor
  · intro first ran done f hfailed
    have hran : step ⟨first.world.dag, first.world.own⟩ = ran := rfl
    simp only [done, around, hans, hman, hworld, next_pre]
    rw [hran, hfailed]
    refine ⟨rfl, rfl, rfl, ?_⟩
    simp [hacts, Trace.acts_cons, Occurrence.isAct, first]
  · intro first ran second done a hok
    let between : PreparationManager δ σ :=
      { m with dag := some ran.world.dag, nextStage := some phase.post }
    -- the second stage is fired on the graph as the step left it
    obtain ⟨⟨report', hans'⟩, hman', hworld', hacts'⟩ :=
      fire_accepted (m := between) hs rfl rfl ran.world.own
    have hran : step ⟨first.world.dag, first.world.own⟩ = ran := rfl
    simp only [done, around, hans, hman, hworld, next_pre]
    rw [hran, hok]
    simp only [between] at hans' hman' hworld' hacts'
    refine ⟨by rw [hans'], hman', hworld', ?_⟩
    simp only [Trace.acts_append, Trace.acts_cons, hacts, hacts', Trace.acts_ofNotices]
    simp [Occurrence.isAct, first, second, handlersAt]

theorem encloses (attached : m.Attached) (phase : Phase)
    (step : Workspace δ σ → Completion (Workspace δ σ) α) (w : σ) : m.Encloses phase step w := by
  refine ⟨(brackets attached phase step w).refused, fun report hreport => ?_⟩
  obtain ⟨hs, hnext, -⟩ := fire_ok attached hreport
  obtain ⟨dag, hdag⟩ := attached hs
  exact ⟨dag, hdag, goes hs hnext hdag step w⟩

end Phase

/-- A step that failed was run, and leaves the second stage of its phase to come. -/
theorem nextStage_of_stepFailed {m : PreparationManager δ σ} (attached : m.Attached) {phase : Phase}
    {step : Workspace δ σ → Completion (Workspace δ σ) α} {w : σ} {f : Fault}
    (h : (m.around phase step w).answer = .stepFailed f) :
    (m.around phase step w).manager.nextStage = some phase.post := by
  rcases around_cases attached phase step w with ⟨e, -, hd⟩ | ⟨report, dag, hreport, -, hran⟩
  · rw [hd] at h
    cases h
  · obtain ⟨hs, hnow, -⟩ := fire_ok attached hreport
    obtain ⟨-, -, -, hnext⟩ := (firesInTurn attached phase.pre w).in_turn hs hnow
    rcases hran with ⟨-, hd⟩ | ⟨hok, -, -, hd⟩
    · rw [hd]
      exact hnext.trans (next_pre phase)
    · rw [hd] at h
      rcases hout : (step ⟨dag, (m.fire phase.pre w).world⟩).outcome with a | f' | p <;>
        simp [hout, Outcome.isOk, PhaseResult.ofOutcome] at hok h

/-! ### A run -/

/-- Every run accepts the stages in turn. -/
theorem inService_run (plugins : List (PreparationPlugin δ σ)) (configuration : Configuration) (w : σ)
    (calls : List (Call δ σ α)) :
    let r := run plugins configuration w calls
    InService plugins.length (roster r) r.manager r.trace :=
  run_invariant (P := fun r => InService plugins.length (roster r) r.manager r.trace)
    ⟨sound_ofPlugins plugins configuration, ⟨List.nil_prefix, rfl⟩, Host.serves_ofPlugins plugins⟩
    inService_advance calls

/-- A second stage is no first stage. -/
theorem post_ne_pre (phase phase' : Phase) : phase.post ≠ phase'.pre := by
  cases phase <;> cases phase' <;> decide

/-- A manager that waits for a second stage refuses every phase. -/
theorem around_refused {m : PreparationManager δ σ} (attached : m.Attached) {phase : Phase}
    (hnext : m.nextStage = some phase.post) (phase' : Phase)
    (step : Workspace δ σ → Completion (Workspace δ σ) α) (w : σ) :
    ∃ e, m.around phase' step w = ⟨.refused e, m, w, []⟩ := by
  rcases hans : (m.fire phase'.pre w).answer with e | report
  · exact ⟨e, (brackets attached phase' step w).refused e hans⟩
  · have hpre := (fire_ok attached hans).2.1
    exact absurd (Option.some.inj (hnext.symm.trans hpre)) (post_ne_pre phase phase')

/-- A manager that waits for a second stage accepts this one by itself, if any. -/
theorem awaits {r : Session δ σ α} {phase : Phase} (attached : r.manager.Attached)
    (hnext : r.manager.nextStage = some phase.post) : Awaits phase.post r := by
  refine ⟨hnext, fun c hc => ?_, fun phase' step w => around_refused attached hnext phase' step w⟩
  rw [Run.trace_advance, Trace.dispatched_append] at hc ⊢
  have silent : (perform r.manager r.world c).trace.dispatched ≠ [] := fun h =>
    hc (by rw [h, List.append_nil])
  cases c with
  | setUp dag =>
    obtain ⟨-, -, htrace, -⟩ := setUp_host r.manager dag r.world
    refine absurd ?_ silent
    simp only [perform, Step.trace_map, htrace]
    exact (Host.quiet_setUp ..).1
  | fire stage =>
    simp only [perform, Step.trace_map] at silent ⊢
    rcases fire_cases attached stage r.world with
      ⟨-, hd⟩ | ⟨-, -, hd⟩ | ⟨-, hnow, dag, -, -, -, -, -, hdis⟩
    · exact absurd (by rw [hd]; rfl) silent
    · exact absurd (by rw [hd]; rfl) silent
    · obtain rfl := Option.some.inj (hnow.symm.trans hnext)
      exact ⟨rfl, by rw [hdis]⟩
  | around phase' step =>
    obtain ⟨e, hd⟩ := around_refused attached hnext phase' step r.world
    exact absurd (by simp only [perform, Step.trace_map, hd]; rfl) silent
  | tearDown => exact absurd (quiet_tearDown attached r.world).1 silent
  | meanwhile dag own => exact absurd rfl silent

/-- After a step failed, the second stage of its phase is awaited as long as no stage is accepted. -/
theorem awaits_after_failure (plugins : List (PreparationPlugin δ σ)) (configuration : Configuration)
    (w : σ) (calls : List (Call δ σ α)) {phase : Phase}
    {step : Workspace δ σ → Completion (Workspace δ σ) α} {f : Fault}
    (hfailed : ((run plugins configuration w calls).manager.around phase step
      (run plugins configuration w calls).world).answer = .stepFailed f) (later : List (Call δ σ α)) :
    let failed := (run plugins configuration w calls).advance perform (.around phase step)
    let r := later.foldl (Run.advance perform) failed
    r.trace.dispatched = failed.trace.dispatched → Awaits phase.post r := by
  intro failed r hdis
  have hrun : r = run plugins configuration w (calls ++ .around phase step :: later) :=
    (Run.ofCalls_append_cons ..).symm
  have hrun' : failed = run plugins configuration w (calls ++ [.around phase step]) :=
    (Run.ofCalls_concat ..).symm
  have hin := inService_run plugins configuration w (calls ++ .around phase step :: later)
  have hin' := inService_run plugins configuration w (calls ++ [.around phase step])
  rw [← hrun] at hin
  rw [← hrun'] at hin'
  have attached := (inService_run plugins configuration w calls).sound.attached
  have hnext : failed.manager.nextStage = some phase.post := nextStage_of_stepFailed attached hfailed
  refine awaits hin.sound.attached ?_
  rw [hin.turn.2, hdis, ← hin'.turn.2, hnext]

/-! ### A whole preparation -/

/-- A new manager whose setup succeeds is poised for the first phase, on what its plugins made of the
    graph. -/
theorem poised_setUp (plugins : List (PreparationPlugin δ σ)) (configuration : Configuration) (dag : δ)
    (w : σ) (ready : ((ofPlugins plugins configuration).setUp dag w).answer = .ok ()) :
    let done := (ofPlugins plugins configuration).setUp dag w
    let members := (Host.ofPlugins plugins).members
    let ws := throughSetUps configuration members ⟨dag, w⟩
    done.world = ws.own ∧
      Poised configuration (recipients (Host.enrolments configuration members ⟨dag, w⟩)) ws
        (some .prePopulate) done.manager := by
  intro done members ws
  let host : Host Configuration (Workspace δ σ) Stage Stage := .ofPlugins plugins
  let below := host.setUp .preparation configuration ⟨dag, w⟩
  have hdone : done = ⟨below.answer, { ofPlugins plugins configuration with
      host := below.manager, dag := some below.world.dag }, below.world.own, below.trace⟩ := rfl
  have hans : below.answer = .ok () := ready
  have hmembers : host.members = (Host.ofPlugins plugins).members := rfl
  rcases Host.setUp_cases .preparation configuration host ⟨dag, w⟩ with
    ⟨hs, -⟩ | ⟨-, hnone, -, hman, hworld, -⟩ | ⟨-, _, _, -, herr, -⟩
  · exact absurd rfl hs
  · have hws := hworld.trans (Host.world_setUpEach .preparation configuration _ _ _ hnone)
    have hentries := Host.entries_setUp .preparation configuration ⟨dag, w⟩ hmembers rfl
    rw [hdone]
    refine ⟨congrArg Workspace.own hws, ?_, rfl, ?_, congrArg (some ·.dag) hws, rfl⟩
    · exact congrArg Host.state hman
    · funext stage
      rw [handlersAt]
      simp only [below, hman, hentries]
      exact handlersFor_entries stage _
  · rw [show below.answer = _ from herr] at hans
    cases hans

/-- A phase whose step succeeds goes through, and the manager is poised for what follows it. -/
theorem Poised.around {configuration : Configuration}
    {handlers : Stage → List (PluginId × StageHandler δ σ)} {ws : Workspace δ σ}
    {m : PreparationManager δ σ} (phase : Phase)
    (h : Poised configuration handlers ws (some phase.pre) m)
    {step : Workspace δ σ → Completion (Workspace δ σ) α} {a : α}
    (hok : (throughPhase configuration handlers phase step ws).outcome = .ok a) :
    let done := m.around phase step ws.own
    let after := (throughPhase configuration handlers phase step ws).world
    done.answer = .done a ∧ done.world = after.own ∧
      Poised configuration handlers after phase.post.next done.manager := by
  obtain ⟨hs, rfl, rfl, hdag, hnext⟩ := h
  obtain ⟨hans, hman, hworld, -⟩ := (goes hs hnext hdag step ws.own).succeeded a hok
  refine ⟨hans, hworld, ?_⟩
  rw [hman]
  exact ⟨hs, rfl, rfl, rfl, rfl⟩

/-- A phase runs its step only within its two stages, on the graph that they share, whatever the handlers
    do; after a step that fails the second stage alone is accepted. So a preparation whose setups and
    steps succeed goes through, and leaves the graph as they and the handlers made it in turn. -/
theorem phases_enclose_steps {β γ : Type} (plugins : List (PreparationPlugin δ σ))
    (configuration : Configuration) :
    (∀ (w : σ) (calls : List (Call δ σ α)),
      let r := run plugins configuration w calls
      (∀ stage, (r.manager.handlersAt stage).Pairwise (fun p q => p.1 < q.1) ∧
        ∀ id h, (id, h) ∈ r.manager.handlersAt stage ↔
          r.manager.host.registry.handler? id stage = some h) ∧
      (∀ phase (step : Workspace δ σ → Completion (Workspace δ σ) β) w',
        r.manager.Encloses phase step w') ∧
      ∀ phase (step : Workspace δ σ → Completion (Workspace δ σ) α) f,
        (r.manager.around phase step r.world).answer = .stepFailed f →
        ∀ later : List (Call δ σ α),
          let failed := r.advance perform (.around phase step)
          let r' := later.foldl (Run.advance perform) failed
          r'.trace.dispatched = failed.trace.dispatched → Awaits phase.post r') ∧
    ∀ (dag : δ) (w : σ),
      let ready := (ofPlugins plugins configuration).setUp dag w
      ready.answer = .ok () →
      let members := (Host.ofPlugins plugins).members
      let handlers := recipients (Host.enrolments configuration members ⟨dag, w⟩)
      let start := throughSetUps configuration members ⟨dag, w⟩
      ∀ (populate : Workspace δ σ → Completion (Workspace δ σ) α)
        (configure : Workspace δ σ → Completion (Workspace δ σ) β)
        (validate : Workspace δ σ → Completion (Workspace δ σ) γ) a b c,
        let populated := throughPhase configuration handlers .populate populate start
        let configured := throughPhase configuration handlers .configure configure populated.world
        let validated := throughPhase configuration handlers .validate validate configured.world
        populated.outcome = .ok a → configured.outcome = .ok b → validated.outcome = .ok c →
        let first := ready.manager.around .populate populate ready.world
        let second := first.manager.around .configure configure first.world
        let third := second.manager.around .validate validate second.world
        first.answer = .done a ∧ second.answer = .done b ∧ third.answer = .done c ∧
          third.manager.dag = some validated.world.dag ∧ third.world = validated.world.own := by
  constructor
  · intro w calls r
    have attached : r.manager.Attached := (inService_run plugins configuration w calls).sound.attached
    refine ⟨fun stage => ⟨?_, fun id h => ?_⟩, fun phase step w' => encloses attached phase step w', ?_⟩
    · exact Registry.ascending_handlersFor r.manager.host.registry stage
    · exact Registry.mem_handlersFor
    · exact fun phase step f hfailed => awaits_after_failure plugins configuration w calls hfailed
  · intro dag w ready hready members handlers start populate configure validate a b c populated
      configured validated ha hb hc first second third
    obtain ⟨hworld, hpoised⟩ := poised_setUp plugins configuration dag w hready
    obtain ⟨hfirst, hworld₁, hpoised₁⟩ := hpoised.around .populate ha
    rw [← hworld] at hfirst hworld₁ hpoised₁
    obtain ⟨hsecond, hworld₂, hpoised₂⟩ := hpoised₁.around .configure hb
    rw [← hworld₁] at hsecond hworld₂ hpoised₂
    obtain ⟨hthird, hworld₃, hpoised₃⟩ := hpoised₂.around .validate hc
    rw [← hworld₂] at hthird hworld₃ hpoised₃
    exact ⟨hfirst, hsecond, hthird, hpoised₃.dag, hworld₃⟩

/-- A plugin that adds to the graph its position, and numbers above ten times that for two of the stages,
    when its handlers fail. -/
def noting : PreparationPlugin (List Nat) Unit where
  name := "noting"
  setup _ id ws :=
    ⟨[Stage.prePopulate, .postValidate].map fun stage => ⟨stage, fun _ _ ws =>
      ⟨.failed ⟨"full", []⟩, ⟨ws.dag ++ [10 * id + stage.index], ()⟩, []⟩⟩,
      ⟨.ok (), ⟨ws.dag ++ [id], ()⟩, []⟩⟩
  teardown _ ws := ⟨.ok (), ws, []⟩

/-- Handlers that fail are called on what came before and leave their marks; after a step that fails the
    second stage of its phase is awaited. -/
theorem phases_enclose_steps_noting :
    let step (mark : Nat) : Workspace (List Nat) Unit → Completion (Workspace (List Nat) Unit) Nat :=
      fun ws => ⟨.ok ws.dag.length, ⟨ws.dag ++ [mark], ()⟩, []⟩
    let ready := (ofPlugins [noting, noting] .empty).setUp [] ()
    let first := ready.manager.around .populate (step 100) ready.world
    let second := first.manager.around .configure (step 101) first.world
    let third := second.manager.around .validate (step 102) second.world
    (first.answer = .done 4 ∧
      third.manager.dag = some [0, 1, 0, 10, 100, 101, 102, 5, 15]) ∧
    Awaits .postPopulate ((run (α := Nat) [noting] .empty () [.setUp []]).advance perform
      (.around .populate fun ws => ⟨.failed ⟨"source unreachable", []⟩, ws, []⟩)) := by
  intro step
  dsimp only
  constructor
  · have h := (phases_enclose_steps (α := Nat) (β := Nat) (γ := Nat) [noting, noting] .empty).2 [] () rfl
      (step 100) (step 101) (step 102) 4 5 6 rfl rfl rfl
    dsimp only at h
    obtain ⟨hfirst, -, -, hdag, -⟩ := h
    refine ⟨hfirst, hdag.trans ?_⟩
    decide +kernel
  · exact ((phases_enclose_steps (β := Nat) (γ := Nat) [noting] .empty).1 () [.setUp []]).2.2
      .populate _ ⟨"source unreachable", []⟩ rfl [] rfl

end PreparationManager

end PluginFabric
