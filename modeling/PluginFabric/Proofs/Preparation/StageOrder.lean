import PluginFabric.Proofs.Lifecycle.Safety
import PluginFabric.Proofs.Service

/-! Stages are accepted in their order.

    The stages that a run accepted, directly or within phases, are the first ones of the six, and the
    manager waits for the one after them (`InTurn`). It accepts this one while the plugins are set up,
    and no other; handlers that fail keep nothing from being accepted or delivered. -/

namespace PluginFabric

/-- In the order of the stages, the next one stands right after. -/
theorem Stage.next_of_getElem? {k : Nat} {s : Stage} (h : Stage.all[k]? = some s) :
    s.next = Stage.all[k + 1]? := by
  have hindex : ∀ i : Fin Stage.all.length, (Stage.all.get i).index = i := by decide
  obtain ⟨hk, rfl⟩ := List.getElem?_eq_some_iff.1 h
  have hat : Stage.all[k].index = k := hindex ⟨k, hk⟩
  rw [Stage.next, hat]

/-- The result of a phase whose stages are both accepted. -/
def PhaseResult.ofOutcome {α : Type} : Outcome α → PhaseResult α
  | .ok a => .done a
  | .failed f => .stepFailed f
  | .panicked p => .stepPanicked p

namespace PreparationManager

variable {δ σ α : Type}

/-- The stages accepted in `t` are the first ones in their order, and the one after them is to come. -/
def InTurn (m : PreparationManager δ σ) (t : Trace Stage) : Prop :=
  t.dispatched <+: Stage.all ∧ m.nextStage = Stage.all[t.dispatched.length]?

/-- How a stage is fired: too early or too late, out of turn, or in its turn. -/
structure FiresInTurn (m : PreparationManager δ σ) (stage : Stage) (w : σ) : Prop where
  not_set_up : m.state ≠ .setUp →
    m.fire stage w = ⟨.error (.invalidState .fireStage m.state.text), m, w, []⟩
  out_of_turn : m.state = .setUp → m.nextStage ≠ some stage →
    m.fire stage w = ⟨.error (.stageOutOfOrder m.nextStage stage), m, w, []⟩
  in_turn : m.state = .setUp → m.nextStage = some stage →
    (∃ report, (m.fire stage w).answer = .ok report) ∧
      (m.fire stage w).trace.dispatched = [stage] ∧
      (m.fire stage w).manager.state = .setUp ∧ (m.fire stage w).manager.nextStage = stage.next

/-- How a phase runs: not at all if its first stage is refused; else its step runs on what this stage
    left, and its second stage is accepted if the step succeeds and is not fired otherwise. -/
structure Brackets (m : PreparationManager δ σ) (phase : Phase)
    (step : Workspace δ σ → Completion (Workspace δ σ) α) (w : σ) : Prop where
  refused : ∀ e, (m.fire phase.pre w).answer = .error e → m.around phase step w = ⟨.refused e, m, w, []⟩
  accepted : ∀ report, (m.fire phase.pre w).answer = .ok report →
    ∃ dag, (m.fire phase.pre w).manager.dag = some dag ∧
      let outcome := (step ⟨dag, (m.fire phase.pre w).world⟩).outcome
      (m.around phase step w).answer = .ofOutcome outcome ∧
      (m.around phase step w).trace.dispatched
        = phase.pre :: if outcome.isOk then [phase.post] else []

/-- A plugin of a preparation, and what it registered. -/
abbrev Enrolled (δ σ : Type) := Enrolment Configuration (Workspace δ σ) Stage Stage

/-- The plugins whose setup a run called, and what they registered. -/
def roster (r : Session δ σ α) : List (Enrolled δ σ) :=
  r.moments.flatMap fun mo => match mo.call with
    | .setUp dag => mo.manager.host.enrolling mo.manager.configuration ⟨dag, mo.world⟩
    | _ => []

/-! ### One call -/

theorem firesInTurn {m : PreparationManager δ σ} (attached : m.Attached) (stage : Stage) (w : σ) :
    m.FiresInTurn stage w := by
  rcases fire_cases attached stage w with
    ⟨hs, hd⟩ | ⟨hs, hnext, hd⟩ | ⟨hs, hnext, dag, -, hans, hman, -, -, hdis⟩
  · exact ⟨fun _ => hd, fun h => absurd h hs, fun h => absurd h hs⟩
  · exact ⟨fun h => absurd hs h, fun _ _ => hd, fun _ h => absurd h hnext⟩
  · refine ⟨fun h => absurd hs h, fun _ h => absurd hnext h, fun _ _ => ⟨⟨_, hans⟩, ?_, ?_, ?_⟩⟩
    · exact hdis
    · rw [hman]
      exact hs
    · rw [hman]

/-- A stage that is answered was in its turn, and a graph is attached afterwards. -/
theorem fire_ok {m : PreparationManager δ σ} (attached : m.Attached) {stage : Stage} {w : σ}
    {report : DispatchReport} (h : (m.fire stage w).answer = .ok report) :
    m.state = .setUp ∧ m.nextStage = some stage ∧ ∃ dag, (m.fire stage w).manager.dag = some dag := by
  rcases fire_cases attached stage w with ⟨-, hd⟩ | ⟨-, -, hd⟩ | ⟨hs, hnext, dag, -, -, hman, -⟩
  · rw [hd] at h
    cases h
  · rw [hd] at h
    cases h
  · exact ⟨hs, hnext, _, by rw [hman]⟩

theorem fire_error {m : PreparationManager δ σ} (attached : m.Attached) {stage : Stage} {w : σ}
    {e : FabricError} (h : (m.fire stage w).answer = .error e) :
    m.fire stage w = ⟨.error e, m, w, []⟩ := by
  rcases fire_cases attached stage w with ⟨-, hd⟩ | ⟨-, -, hd⟩ | ⟨-, -, dag, -, hans, -⟩
  · rw [hd] at h ⊢
    rw [← h]
  · rw [hd] at h ⊢
    rw [← h]
  · rw [hans] at h
    cases h

theorem next_pre (phase : Phase) : phase.pre.next = some phase.post := by cases phase <;> rfl

/-- The manager with this graph attached. -/
def withDag (m : PreparationManager δ σ) (dag : δ) : PreparationManager δ σ := { m with dag := some dag }

@[simp] theorem host_withDag (m : PreparationManager δ σ) (dag : δ) : (m.withDag dag).host = m.host := rfl

@[simp] theorem dag_withDag (m : PreparationManager δ σ) (dag : δ) : (m.withDag dag).dag = some dag := rfl

theorem attached_withDag (m : PreparationManager δ σ) (dag : δ) : (m.withDag dag).Attached :=
  fun _ => ⟨dag, rfl⟩

/-- A phase is refused with its first stage and comes to nothing; or this stage is accepted and the
    engine's step is run on the graph that it left; and if the step succeeds, the second stage is in its
    turn and accepted too. -/
theorem around_cases {m : PreparationManager δ σ} (attached : m.Attached) (phase : Phase)
    (step : Workspace δ σ → Completion (Workspace δ σ) α) (w : σ) :
    let first := m.fire phase.pre w
    let done := m.around phase step w
    (∃ e, first.answer = .error e ∧ done = ⟨.refused e, m, w, []⟩) ∨
    ∃ report dag, first.answer = .ok report ∧ first.manager.dag = some dag ∧
      let ran := step ⟨dag, first.world⟩
      let between := first.manager.withDag ran.world.dag
      let trace := first.trace ++ .stepping :: Trace.ofNotices ran.notices
      let second := between.fire phase.post ran.world.own
      (ran.outcome.isOk = false ∧
        done = ⟨.ofOutcome ran.outcome, between, ran.world.own, trace⟩) ∨
      (ran.outcome.isOk = true ∧ (∃ report', second.answer = .ok report') ∧
        second.trace.dispatched = [phase.post] ∧
        done = ⟨.ofOutcome ran.outcome, second.manager, second.world, trace ++ second.trace⟩) := by
  dsimp only
  rcases hfirst : (m.fire phase.pre w).answer with e | report
  · exact .inl ⟨e, rfl, by rw [around, fire_error attached hfirst]⟩
  · obtain ⟨hs, hnext, dag, hdag⟩ := fire_ok attached hfirst
    obtain ⟨-, -, hs', hnext'⟩ := (firesInTurn attached phase.pre w).in_turn hs hnext
    refine .inr ⟨report, dag, rfl, hdag, ?_⟩
    simp only [around, hfirst, hdag]
    generalize step ⟨dag, (m.fire phase.pre w).world⟩ = ran
    rcases ran.outcome with a | f | p
    · right
      -- the second stage is in its turn, because the first one was accepted
      have hbetween := attached_withDag (m.fire phase.pre w).manager ran.world.dag
      obtain ⟨⟨report', hans'⟩, hdis', -⟩ :=
        (firesInTurn hbetween phase.post ran.world.own).in_turn hs' (hnext'.trans (next_pre phase))
      refine ⟨rfl, ⟨report', hans'⟩, hdis', ?_⟩
      rw [withDag] at hans' ⊢
      rw [hans']
      rfl
    · exact .inl ⟨rfl, rfl⟩
    · exact .inl ⟨rfl, rfl⟩

theorem brackets {m : PreparationManager δ σ} (attached : m.Attached) (phase : Phase)
    (step : Workspace δ σ → Completion (Workspace δ σ) α) (w : σ) : m.Brackets phase step w := by
  have hcases := around_cases attached phase step w
  refine ⟨fun e he => ?_, fun report hreport => ?_⟩
  · rcases hcases with ⟨e', he', hd⟩ | ⟨report, _, hreport, -⟩
    · rw [hd, Except.error.inj (he'.symm.trans he)]
    · rw [he] at hreport
      cases hreport
  · obtain ⟨hs, hnext, -⟩ := fire_ok attached hreport
    have hdis := ((firesInTurn attached phase.pre w).in_turn hs hnext).2.1
    rcases hcases with ⟨_, he, -⟩ | ⟨_, dag, -, hdag, hran⟩
    · rw [hreport] at he
      cases he
    · refine ⟨dag, hdag, ?_⟩
      rcases hran with ⟨hok, hd⟩ | ⟨hok, -, hdis', hd⟩ <;>
        simp [hd, hok, hdis, Trace.dispatched_cons, Occurrence.dispatched?]
      exact hdis'

/-! ### A run -/

section Run

variable {n : Nat} {m : PreparationManager δ σ} {t : Trace Stage}
  {enrolled : List (Enrolled δ σ)}

/-- The stages of `t` came in turn, and each went to all of the enrolled that want it. -/
structure InService (n : Nat) (enrolled : List (Enrolled δ σ)) (m : PreparationManager δ σ)
    (t : Trace Stage) : Prop where
  sound : Sound n m t
  turn : m.InTurn t
  serves : m.host.Serves n enrolled t

theorem InTurn.quiet {m' : PreparationManager δ σ} {s : Trace Stage} (h : m.InTurn t) (hs : s.Quiet)
    (hnext : m'.nextStage = m.nextStage) : m'.InTurn (t ++ s) := by
  rw [InTurn, Trace.dispatched_append, hs.1, List.append_nil, hnext]
  exact h

/-- An accepted stage is the one after those that were accepted before. -/
theorem InTurn.accept {m' : PreparationManager δ σ} {s : Trace Stage} {stage : Stage} (h : m.InTurn t)
    (hnow : m.nextStage = some stage) (hs : s.dispatched = [stage])
    (hnext : m'.nextStage = stage.next) : m'.InTurn (t ++ s) := by
  obtain ⟨hfirst, hturn⟩ := h
  have hget : Stage.all[t.dispatched.length]? = some stage := hturn ▸ hnow
  rw [InTurn, Trace.dispatched_append, hs, List.length_append, List.length_singleton, hnext]
  refine ⟨?_, Stage.next_of_getElem? hget⟩
  have htake : Stage.all.take (t.dispatched.length + 1) = t.dispatched ++ [stage] := by
    rw [List.take_add_one, hget, ← List.prefix_iff_eq_take.1 hfirst]
    rfl
  rw [← htake]
  exact List.take_prefix _ _

theorem InService.fire (h : InService n enrolled m t) (stage : Stage) (w : σ) :
    InService n enrolled (m.fire stage w).manager (t ++ (m.fire stage w).trace) := by
  have hsound := h.sound.fire stage w
  rcases fire_cases h.sound.attached stage w with
    ⟨-, hd⟩ | ⟨-, -, hd⟩ | ⟨hs, hnext, dag, -, -, hman, -, hcalls, hdis⟩
  · rw [hd] at hsound ⊢
    exact ⟨hsound, h.turn.quiet ⟨rfl, rfl⟩ rfl, h.serves.quiet ⟨rfl, rfl⟩ rfl rfl⟩
  · rw [hd] at hsound ⊢
    exact ⟨hsound, h.turn.quiet ⟨rfl, rfl⟩ rfl, h.serves.quiet ⟨rfl, rfl⟩ rfl rfl⟩
  · refine ⟨hsound, h.turn.accept hnext hdis (by rw [hman]), ?_⟩
    exact h.serves.dispatch hs m.configuration stage ⟨dag, w⟩ (by rw [hman]) (by rw [hman]) hcalls hdis

theorem InService.around (h : InService n enrolled m t) (phase : Phase)
    (step : Workspace δ σ → Completion (Workspace δ σ) α) (w : σ) :
    InService n enrolled (m.around phase step w).manager (t ++ (m.around phase step w).trace) := by
  refine around_induction (P := InService n enrolled) (fun m t stage w h => h.fire stage w) ?_ m t phase
    step w h
  intro m t dag notices h
  have hquiet : Trace.Quiet (.stepping :: Trace.ofNotices notices : Trace Stage) := by
    simp [Trace.Quiet, Trace.dispatched_cons, Trace.handled_cons, Occurrence.dispatched?,
      Occurrence.handled?]
  exact ⟨h.sound.stepped dag notices, h.turn.quiet hquiet rfl, h.serves.quiet hquiet rfl rfl⟩

end Run

theorem roster_advance (r : Session δ σ α) (c : Call δ σ α) :
    roster (r.advance perform c) = roster r ++ match c with
      | .setUp dag => r.manager.host.enrolling r.manager.configuration ⟨dag, r.world⟩
      | _ => [] := by
  rw [roster, Run.flatMap_moments_advance]
  rfl

/-- Every call keeps the stages in turn. -/
theorem inService_advance {n : Nat} (r : Session δ σ α) (c : Call δ σ α)
    (h : InService n (roster r) r.manager r.trace) :
    InService n (roster (r.advance perform c)) (r.advance perform c).manager
      (r.advance perform c).trace := by
  have hsound := h.sound.perform r.world c
  rw [roster_advance, Run.manager_advance, Run.trace_advance]
  cases c with
  | setUp dag =>
    obtain ⟨-, hhost, htrace, hnext⟩ := setUp_host r.manager dag r.world
    have hserves :=
      h.serves.setUp h.sound.positioned .preparation r.manager.configuration ⟨dag, r.world⟩
    rw [← hhost, ← htrace] at hserves
    refine ⟨hsound, h.turn.quiet ?_ hnext, hserves⟩
    simp only [PreparationManager.perform, Step.trace_map, htrace]
    exact Host.quiet_setUp ..
  | fire stage =>
    rw [List.append_nil]
    exact h.fire stage r.world
  | around phase step =>
    rw [List.append_nil]
    exact h.around phase step r.world
  | tearDown =>
    have hquiet := quiet_tearDown h.sound.attached r.world
    rw [List.append_nil]
    exact ⟨hsound, h.turn.quiet hquiet (tearDown_cases h.sound.attached r.world).1,
      h.serves.tornDown hquiet (state_tearDown h.sound.attached r.world)⟩
  | meanwhile dag own =>
    rw [List.append_nil]
    exact ⟨hsound, h.turn.quiet ⟨rfl, rfl⟩ rfl, h.serves.quiet ⟨rfl, rfl⟩ rfl rfl⟩

/-- Over every run the stages are accepted in their order, each goes once to every plugin that wants
    it, and the next call is answered by this order, whatever handlers and steps do. -/
theorem stages_in_order (plugins : List (PreparationPlugin δ σ)) (configuration : Configuration)
    (w : σ) (calls : List (Call δ σ α)) :
    let r := run plugins configuration w calls
    r.trace.dispatched <+: Stage.all ∧
    r.manager.nextStage = Stage.all[r.trace.dispatched.length]? ∧
    r.trace.handled = (r.trace.dispatched.flatMap fun stage =>
      (recipients (roster r) stage).map fun p => (p.1, stage)) ∧
    r.trace.handled.Nodup ∧
    (∀ stage w', r.manager.FiresInTurn stage w') ∧
    (∀ phase (step : Workspace δ σ → Completion (Workspace δ σ) α) w',
      r.manager.Brackets phase step w') := by
  intro r
  have h : InService plugins.length (roster r) r.manager r.trace := by
    refine run_invariant (P := fun r => InService plugins.length (roster r) r.manager r.trace)
      ?_ ?_ calls
    · exact ⟨sound_ofPlugins plugins configuration, ⟨List.nil_prefix, rfl⟩,
        Host.serves_ofPlugins plugins⟩
    · exact inService_advance
  have honce : r.trace.dispatched.Nodup := List.Nodup.sublist h.turn.1.sublist (by decide)
  refine ⟨h.turn.1, h.turn.2, h.serves.handled, h.serves.nodup_handled honce, ?_, ?_⟩
  · exact firesInTurn h.sound.attached
  · exact brackets h.sound.attached

end PreparationManager

end PluginFabric
