import PluginFabric.Proofs.Execution.Delivery
import PluginFabric.Proofs.Isolation
import PluginFabric.Proofs.Lifecycle.Rollback

/-! A plugin of an application makes no difference to the others.

    Two engines make the same calls; their plugins are the same but for the one at position `k`, and
    each keeps to its own part of the world. Call by call both managers stay in the same state with
    the same last commit, the other plugins are called for the same, and the engine is told the same
    of them. -/

namespace PluginFabric

variable {δ σ : Type} {τ : PluginId → Type}

namespace ExecutionManager

/-! ### What is compared -/

/-- The handlers that a call makes run: whose, which, and with which event. -/
def invoked (m : ExecutionManager δ σ) (c : Call δ σ) :
    List (PluginId × Handler (Environment δ) σ ExecutionEvent × ExecutionEvent) :=
  (m.accepting? c).toList.flatMap fun event =>
    (handlersFor event.kind m.host.registry.entries.toList).map fun p => (p.1, p.2, event)

/-- The handlers that ran, in order. -/
def invocations (r : Session δ σ) :
    List (PluginId × Handler (Environment δ) σ ExecutionEvent × ExecutionEvent) :=
  r.moments.flatMap fun mo => mo.manager.invoked mo.call

/-- What a call makes run is what its trace tells. -/
theorem handled_perform (m : ExecutionManager δ σ) (w : σ) (c : Call δ σ) :
    (m.perform w c).trace.handled = (m.invoked c).map fun x => (x.1, x.2.2) := by
  cases hevent : m.accepting? c with
  | none =>
    rw [(quiet_of_accepting? hevent w).2, invoked, hevent]
    rfl
  | some event =>
    obtain ⟨hc, hacc⟩ := accepting?_eq_some.1 hevent
    obtain ⟨-, -, htrace⟩ := perform_event hc m w
    have hdone := (dispatch_cases m event w).resolve_right fun h => h.1 hacc
    obtain ⟨hcalls, -, -⟩ := dispatch_entries m.host.registry m.environment event w
    rw [htrace, hdone.2, ← Trace.handled_calls, hcalls, handled_callEach, invoked, hevent]
    simp [Function.comp_def, tag]

theorem invocations_advance (r : Session δ σ) (c : Call δ σ) :
    invocations (r.advance perform c) = invocations r ++ r.manager.invoked c :=
  Run.flatMap_moments_advance ..

/-- The handlers that ran over a run are those that its trace tells of. -/
theorem handled_eq_invocations (plugins : List (ExecutionPlugin δ σ)) (environment : Environment δ)
    (w : σ) (calls : List (Call δ σ)) :
    let r := run plugins environment w calls
    r.trace.handled = (invocations r).map fun x => (x.1, x.2.2) := by
  refine run_invariant (P := fun r => r.trace.handled = (invocations r).map fun x => (x.1, x.2.2))
    rfl (fun r c h => ?_) calls
  rw [Run.trace_advance, Trace.handled_append, h, handled_perform, invocations_advance,
    List.map_append]

/-- What a call enrols: a setup those it calls, any other call nobody. -/
def enrolledBy (m : ExecutionManager δ σ) (w : σ) : Call δ σ → List (Enrolled δ σ)
  | .setUp => m.host.enrolling m.environment w
  | _ => []

/-- Two replies that tell the same of plugins other than `k`. -/
inductive Reply.AlikeBut (k : PluginId) : Reply → Reply → Prop
  | setUp (r : Except FabricError Unit) : AlikeBut k (.setUp r) (.setUp r)
  | report {r r' : DispatchReport}
      (failures : others (·.pluginId) k r.failures = others (·.pluginId) k r'.failures) :
      AlikeBut k (.report r) (.report r')
  | suppressed : AlikeBut k (.committed none) (.committed none)
  | committed {r r' : DispatchReport}
      (failures : others (·.pluginId) k r.failures = others (·.pluginId) k r'.failures) :
      AlikeBut k (.committed (some r)) (.committed (some r'))
  | tornDown (failed failed' : List String) :
      AlikeBut k (.tornDown (.ok failed)) (.tornDown (.ok failed'))
  | refused (e : FabricError) : AlikeBut k (.tornDown (.error e)) (.tornDown (.error e))
  | nothing : AlikeBut k .nothing .nothing

theorem Reply.AlikeBut.refl (k : PluginId) (r : Reply) : AlikeBut k r r := by
  cases r with
  | setUp r => exact .setUp r
  | report r => exact .report rfl
  | committed r =>
    cases r with
    | none => exact .suppressed
    | some r => exact .committed rfl
  | tornDown r =>
    cases r with
    | ok failed => exact .tornDown failed failed
    | error e => exact .refused e
  | nothing => exact .nothing

/-- Two managers with their worlds that only plugin `k` can tell apart. -/
structure AlikeBut (part : ∀ i, σ → τ i) (k : PluginId) (m m' : ExecutionManager δ σ) (w w' : σ) :
    Prop where
  hosts : Host.AlikeBut part k m.host m'.host w w'
  commits : m.commits = m'.commits
  environment : m.environment = m'.environment

/-- The rest of the program does not make worlds differ that only plugin `k` can tell apart. -/
def Call.Respects (part : ∀ i, σ → τ i) (k : PluginId) : Call δ σ → Prop
  | .meanwhile _ world => ∀ w w', SameBut part k w w' → SameBut part k (world w) (world w')
  | _ => True

/-- A manager in service whose plugins keep to their own parts of the world. -/
structure Seclusion (part : ∀ i, σ → τ i) (n : Nat) (enrolled : List (Enrolled δ σ))
    (m : ExecutionManager δ σ) (t : Trace ExecutionEvent) : Prop where
  service : InService n enrolled m t
  members : ∀ p ∈ m.host.members, p.2.ConfinedTo part p.1
  enrolled : ∀ e ∈ enrolled, e.Confined part

/-- A call that the difference between two managers made no difference to. -/
structure PerformsAlike (part : ∀ i, σ → τ i) (k : PluginId) (m m' : ExecutionManager δ σ) (w w' : σ)
    (c : Call δ σ) : Prop where
  after : AlikeBut part k (m.perform w c).manager (m'.perform w' c).manager (m.perform w c).world
    (m'.perform w' c).world
  trace : (m.perform w c).trace.ofOthers k = (m'.perform w' c).trace.ofOthers k
  reply : Reply.AlikeBut k (m.perform w c).answer (m'.perform w' c).answer
  enrolled : others (·.id) k (m.enrolledBy w c) = others (·.id) k (m'.enrolledBy w' c)
  invoked : others (·.1) k (m.invoked c) = others (·.1) k (m'.invoked c)

/-! ### One call -/

section Call

variable {part : ∀ i, σ → τ i} {k : PluginId} {m m' : ExecutionManager δ σ} {w w' : σ} {n : Nat}
  {enrolled enrolled' : List (Enrolled δ σ)} {t t' : Trace ExecutionEvent}

theorem AlikeBut.accepts_iff (h : AlikeBut part k m m' w w') (event : ExecutionEvent) :
    m.Accepts event ↔ m'.Accepts event := by
  rw [Accepts, Accepts, state, state, h.hosts.state, lastCommitted, lastCommitted, h.commits]

/-- The reply to a call that announces an event, by what came of the event. -/
def Call.reply : Call δ σ → Option DispatchReport → Reply
  | .commit _, r => .committed r
  | _, r => .report (r.getD {})

/-- An accepted event is delivered, and the reply tells what came of it. -/
theorem perform_delivers {c : Call δ σ} {event : ExecutionEvent} (hc : c.event? = some event)
    (hacc : m.Accepts event) (w : σ) :
    let done := m.perform w c
    let pass := m.host.registry.dispatch m.environment event w
    done.manager = m.noting event ∧ done.world = pass.world ∧ done.trace = pass.trace ∧
      done.answer = c.reply (some pass.report) ∧
      m.invoked c = (handlersFor event.kind m.host.registry.entries.toList).map
        fun p => (p.1, p.2, event) := by
  obtain ⟨hman, hworld, htrace⟩ := perform_event hc m w
  have hdone := (dispatch_cases m event w).resolve_right fun h => h.1 hacc
  rw [hdone.2] at hman hworld htrace
  refine ⟨hman, hworld, htrace, ?_, ?_⟩
  · cases c with
    | commit v =>
      cases hc
      have hcommit := (commit_cases m v w).resolve_right fun h => h.1 hacc
      exact congrArg (fun done => Reply.committed done.answer) hcommit.2
    | dispatch | heartbeat | masterEvent =>
      cases hc
      exact congrArg (fun done => Reply.report done.answer) hdone.2
    | setUp | tearDown | meanwhile => cases hc
  · rw [invoked, accepting?_eq_some.2 ⟨hc, hacc⟩]
    exact List.flatMap_singleton ..

/-- Nobody hears of an event that is not accepted, and the reply tells of none. -/
theorem perform_ignores {c : Call δ σ} {event : ExecutionEvent} (hc : c.event? = some event)
    (hno : ¬ m.Accepts event) (w : σ) :
    let done := m.perform w c
    (∀ k, done.trace.ofOthers k = []) ∧ done.answer = c.reply none ∧ m.invoked c = [] := by
  obtain ⟨-, -, htrace⟩ := perform_event hc m w
  obtain ⟨-, notice, hdone⟩ := (dispatch_cases m event w).resolve_left fun h => hno h.1
  refine ⟨fun k => ?_, ?_, ?_⟩
  · rw [htrace, hdone]
    rfl
  · cases c with
    | commit v =>
      cases hc
      obtain ⟨-, _, hcommit⟩ := (commit_cases m v w).resolve_left fun h => hno h.1
      exact congrArg (fun done => Reply.committed done.answer) hcommit
    | dispatch | heartbeat | masterEvent =>
      cases hc
      exact congrArg (fun done => Reply.report done.answer) hdone
    | setUp | tearDown | meanwhile => cases hc
  · have hnone : m.accepting? c = none := by
      rw [accepting?, hc]
      simp [hno]
    rw [invoked, hnone]
    rfl

/-- Taking note of an event makes no difference. -/
theorem AlikeBut.noting (h : AlikeBut part k m m' w w') (event : ExecutionEvent) {v v' : σ}
    (worlds : SameBut part k v v') : AlikeBut part k (m.noting event) (m'.noting event) v v' := by
  have hosts : Host.AlikeBut part k m.host m'.host v v' := ⟨h.hosts.state, h.hosts.members, worlds⟩
  cases event with
  | commit => exact ⟨hosts, rfl, h.environment⟩
  | heartbeat | master => exact ⟨hosts, h.commits, h.environment⟩

/-- What the registries hold, where the plugins are set up. -/
theorem AlikeBut.delivery (h : AlikeBut part k m m' w w') (hd : Seclusion part n enrolled m t)
    (hd' : Seclusion part n enrolled' m' t')
    (roster : others (·.id) k enrolled = others (·.id) k enrolled') {event : ExecutionEvent}
    (hacc : m.Accepts event) :
    Delivery.AlikeBut part k (m.host.registry.dispatch m.environment event w)
        (m'.host.registry.dispatch m'.environment event w') ∧
      others (·.1) k (handlersFor event.kind m.host.registry.entries.toList)
        = others (·.1) k (handlersFor event.kind m'.host.registry.entries.toList) := by
  have hacc' := (h.accepts_iff event).1 hacc
  -- an event is accepted in service only, where the registry is what the roster says
  have hentries := (hd.service.serves.enrolled hacc.1).2
  have hentries' := (hd'.service.serves.enrolled hacc'.1).2
  have hothers : others (·.1) k m.host.registry.entries.toList
      = others (·.1) k m'.host.registry.entries.toList := by
    rw [hentries, hentries', others_map, others_map]
    exact congrArg _ roster
  constructor
  · rw [← h.environment]
    refine Registry.dispatch_alike m.environment event ?_ ?_ hothers h.hosts.worlds
    · rw [hentries]
      exact confined_entries hd.enrolled _ _ event
    · rw [hentries']
      exact confined_entries hd'.enrolled _ _ event
  · rw [others_handlersFor, others_handlersFor, hothers]

/-- A call that announces an event reaches the others alike. -/
theorem AlikeBut.announce (h : AlikeBut part k m m' w w') (hd : Seclusion part n enrolled m t)
    (hd' : Seclusion part n enrolled' m' t')
    (roster : others (·.id) k enrolled = others (·.id) k enrolled') {c : Call δ σ}
    {event : ExecutionEvent} (hc : c.event? = some event) : PerformsAlike part k m m' w w' c := by
  have nobody : ∀ (m : ExecutionManager δ σ) w, m.enrolledBy w c = [] := by
    intro m w
    cases c with
    | setUp => cases hc
    | _ => rfl
  by_cases hacc : m.Accepts event
  · have hacc' := (h.accepts_iff event).1 hacc
    obtain ⟨hman, hworld, htrace, hreply, hinvoked⟩ := perform_delivers hc hacc w
    obtain ⟨hman', hworld', htrace', hreply', hinvoked'⟩ := perform_delivers hc hacc' w'
    obtain ⟨halike, hhandlers⟩ := h.delivery hd hd' roster hacc
    refine ⟨?_, ?_, ?_, ?_, ?_⟩
    · rw [hman, hman', hworld, hworld']
      exact h.noting event halike.worlds
    · rw [htrace, htrace']
      exact halike.trace
    · rw [hreply, hreply']
      cases c with
      | commit => exact .committed halike.failures
      | _ => exact .report halike.failures
    · rw [nobody, nobody]
    · rw [hinvoked, hinvoked', others_map, others_map]
      exact congrArg _ hhandlers
  · have hno := mt (h.accepts_iff event).2 hacc
    obtain ⟨hman, hworld, -⟩ := perform_refused hc hacc w
    obtain ⟨hman', hworld', -⟩ := perform_refused hc hno w'
    obtain ⟨htrace, hreply, hinvoked⟩ := perform_ignores hc hacc w
    obtain ⟨htrace', hreply', hinvoked'⟩ := perform_ignores hc hno w'
    refine ⟨?_, ?_, ?_, ?_, ?_⟩
    · rwa [hman, hman', hworld, hworld']
    · rw [htrace, htrace']
    · rw [hreply, hreply']
      exact .refl k _
    · rw [nobody, nobody]
    · rw [hinvoked, hinvoked']

/-- If no setup fails, the others are set up alike. -/
theorem AlikeBut.setUp (h : AlikeBut part k m m' w w') (hd : Seclusion part n enrolled m t)
    (hd' : Seclusion part n enrolled' m' t')
    (ready : ∀ i o, .settingUp i o ∈ (m.perform w .setUp).trace → o = .ok ())
    (ready' : ∀ i o, .settingUp i o ∈ (m'.perform w' .setUp).trace → o = .ok ()) :
    PerformsAlike part k m m' w w' .setUp := by
  obtain ⟨host, environment, commits⟩ := m
  obtain ⟨host', environment', commits'⟩ := m'
  obtain rfl : environment = environment' := h.environment
  obtain ⟨hosts, hanswer, htrace, henrolling⟩ :=
    Host.setUp_alike h.hosts .execution environment hd.members hd'.members ready ready'
  refine ⟨⟨hosts, h.commits, rfl⟩, htrace, ?_, henrolling, rfl⟩
  simp only [perform, Step.map, ExecutionManager.setUp, hanswer]
  exact .setUp _

/-- The others are torn down alike. -/
theorem AlikeBut.tearDown (h : AlikeBut part k m m' w w') (hd : Seclusion part n enrolled m t)
    (hd' : Seclusion part n enrolled' m' t') : PerformsAlike part k m m' w w' .tearDown := by
  obtain ⟨host, environment, commits⟩ := m
  obtain ⟨host', environment', commits'⟩ := m'
  obtain rfl : environment = environment' := h.environment
  obtain ⟨hosts, htrace, hanswer⟩ :=
    Host.tearDown_alike h.hosts environment hd.members hd'.members
  refine ⟨⟨hosts, h.commits, rfl⟩, htrace, ?_, rfl, rfl⟩
  simp only [perform, Step.map, ExecutionManager.tearDown]
  rcases hanswer with ⟨_, _, hans, hans'⟩ | ⟨_, hans, hans'⟩
  · rw [hans, hans']
    exact .tornDown _ _
  · rw [hans, hans']
    exact .refused _

/-- What the rest of the program does to the world is alike to the others. -/
theorem AlikeBut.meanwhile (h : AlikeBut part k m m' w w')
    (environment : Environment δ → Environment δ) {world : σ → σ}
    (respects : (Call.meanwhile environment world).Respects part k) :
    PerformsAlike part k m m' w w' (.meanwhile environment world) := by
  refine ⟨⟨⟨h.hosts.state, h.hosts.members, respects w w' h.hosts.worlds⟩, h.commits, ?_⟩, rfl,
    .nothing, rfl, rfl⟩
  exact congrArg environment h.environment

/-- Every call makes managers go on that only plugin `k` can tell apart. -/
theorem AlikeBut.perform (h : AlikeBut part k m m' w w') (hd : Seclusion part n enrolled m t)
    (hd' : Seclusion part n enrolled' m' t')
    (roster : others (·.id) k enrolled = others (·.id) k enrolled') {c : Call δ σ}
    (respects : c.Respects part k)
    (ready : ∀ i o, .settingUp i o ∈ (m.perform w c).trace → o = .ok ())
    (ready' : ∀ i o, .settingUp i o ∈ (m'.perform w' c).trace → o = .ok ()) :
    PerformsAlike part k m m' w w' c := by
  cases c with
  | setUp => exact h.setUp hd hd' ready ready'
  | tearDown => exact h.tearDown hd hd'
  | meanwhile environment world => exact h.meanwhile environment respects
  | dispatch | heartbeat | masterEvent | commit => exact h.announce hd hd' roster rfl

end Call

/-! ### A run -/

/-- Two runs in which plugin `k` made no difference to the engine and to other plugins. -/
structure Undisturbed (k : PluginId) (r r' : Session δ σ) : Prop where
  /-- Every call finds and leaves the same state and the same last commit. -/
  progress : r.managers.map (fun m => (m.state, m.lastCommitted))
    = r'.managers.map fun m => (m.state, m.lastCommitted)
  /-- The others are called for the same in the same order, with the same ends and failures. -/
  trace : r.trace.ofOthers k = r'.trace.ofOthers k
  /-- The same handlers of the others run with the same events. -/
  invocations : others (·.1) k (invocations r) = others (·.1) k (invocations r')
  /-- The engine is told the same of the others. -/
  replies : List.Forall₂ (fun mo mo' => Reply.AlikeBut k mo.left.answer mo'.left.answer) r.moments
    r'.moments

section Run

variable {part : ∀ i, σ → τ i} {k : PluginId} {plugins plugins' : List (ExecutionPlugin δ σ)}
  {environment : Environment δ} {w w' : σ}

theorem seclusion_run (isolated : Isolated part plugins) (environment : Environment δ) (w : σ)
    (calls : List (Call δ σ)) :
    let r := run plugins environment w calls
    Seclusion part plugins.length (roster r) r.manager r.trace := by
  intro r
  refine ⟨(faithful_run plugins environment w calls).1, ?_, fun e he => ?_⟩
  · rw [(untouched_run plugins environment w calls).1]
    exact isolated.members
  · exact isolated.stemsFrom (stemsFrom_of_mem_roster he)

theorem Undisturbed.advance {r r' : Session δ σ} (h : Undisturbed k r r') {c : Call δ σ}
    (step : PerformsAlike part k r.manager r'.manager r.world r'.world c) :
    Undisturbed k (r.advance perform c) (r'.advance perform c) := by
  refine ⟨?_, ?_, ?_, ?_⟩
  · rw [Run.managers_advance, Run.managers_advance, List.map_append, List.map_append, h.progress,
      List.map_singleton, List.map_singleton, state, state, step.after.hosts.state, lastCommitted,
      lastCommitted, step.after.commits]
  · rw [Run.trace_advance, Run.trace_advance, Trace.ofOthers_append, Trace.ofOthers_append, h.trace,
      step.trace]
  · rw [invocations_advance, invocations_advance, others_append, others_append]
    exact congrArg₂ _ h.invocations step.invoked
  · rw [Run.moments_advance, Run.moments_advance]
    exact List.rel_append h.replies (.cons step.reply .nil)

/-- As long as all setups succeed, two runs go on in managers that only plugin `k` can tell apart. -/
theorem alikeBut_run (differ : DifferAt k plugins plugins') (isolated : Isolated part plugins)
    (isolated' : Isolated part plugins') (same : SameBut part k w w') (calls : List (Call δ σ))
    (respects : ∀ c ∈ calls, c.Respects part k) :
    let r := run plugins environment w calls
    let r' := run plugins' environment w' calls
    r.trace.SetUpsSucceed → r'.trace.SetUpsSucceed →
    AlikeBut part k r.manager r'.manager r.world r'.world ∧
      others (·.id) k (roster r) = others (·.id) k (roster r') ∧ Undisturbed k r r' := by
  induction calls using List.reverseRecOn with
  | nil =>
    intro r r' _ _
    refine ⟨⟨⟨rfl, differ.others_members, same⟩, rfl, rfl⟩, rfl, rfl, rfl, rfl, .nil⟩
  | append_singleton calls c ih =>
    intro r r' ready ready'
    -- the last call goes from managers that are alike to managers that are alike
    have hr : r = (run plugins environment w calls).advance perform c := Run.ofCalls_concat ..
    have hr' : r' = (run plugins' environment w' calls).advance perform c := Run.ofCalls_concat ..
    rw [hr] at ready ⊢
    rw [hr'] at ready' ⊢
    rw [Run.trace_advance, Trace.setUpsSucceed_append] at ready ready'
    obtain ⟨halike, hroster, hrun⟩ :=
      ih (fun c hc => respects c (List.mem_append_left _ hc)) ready.1 ready'.1
    have hd := seclusion_run isolated environment w calls
    have hd' := seclusion_run isolated' environment w' calls
    rw [← differ.1] at hd'
    have step := halike.perform hd hd' hroster (respects c (by simp)) ready.2 ready'.2
    refine ⟨step.after, ?_, hrun.advance step⟩
    rw [roster_advance, roster_advance, others_append, others_append, hroster]
    exact congrArg _ step.enrolled

end Run

/-- Whatever plugin stands at position `k`, if all setups succeed and no plugin touches what belongs to
    another: the state and the last commit go the same way, the others are called for the same with
    the same ends and failures, and the engine is told the same of them. -/
theorem no_interference (part : ∀ i, σ → τ i) (k : PluginId)
    (plugins plugins' : List (ExecutionPlugin δ σ)) (environment : Environment δ) (w w' : σ)
    (calls : List (Call δ σ)) (differ : DifferAt k plugins plugins') (isolated : Isolated part plugins)
    (isolated' : Isolated part plugins') (same : SameBut part k w w')
    (respects : ∀ c ∈ calls, c.Respects part k) :
    let r := run plugins environment w calls
    let r' := run plugins' environment w' calls
    r.trace.SetUpsSucceed → r'.trace.SetUpsSucceed → Undisturbed k r r' :=
  fun ready ready' => (alikeBut_run differ isolated isolated' same calls respects ready ready').2.2

/-- A plugin that counts the commits it gets in its own part of the world, and ends as told once it
    has counted one. -/
def counting (own : PluginId) (name : String) (again teardown : Outcome Unit) :
    ExecutionPlugin Unit (PluginId → Nat) where
  name := name
  setup _ _ w := ⟨[⟨.commit, fun _ _ w =>
    ⟨if w own = 0 then .ok () else again, Function.update w own (w own + 1), []⟩⟩], ⟨.ok (), w, []⟩⟩
  teardown _ w := ⟨teardown, w, []⟩

/-- A plugin that handles nothing. -/
def idle (name : String) : ExecutionPlugin Unit (PluginId → Nat) where
  name := name
  setup _ _ w := ⟨[], ⟨.ok (), w, []⟩⟩
  teardown _ w := ⟨.ok (), w, []⟩

theorem confinedTo_counting (own : PluginId) (name : String) (again teardown : Outcome Unit) :
    (counting own name again teardown).ConfinedTo (fun i (w : PluginId → Nat) => w i) own where
  setUp _ := ⟨fun _ _ h => ⟨rfl, h⟩, fun _ _ _ => rfl⟩
  registers _ _ _ _ := rfl
  handlers _ _ g hg ctx event := by
    obtain rfl := List.mem_singleton.1 hg
    refine ⟨fun w w' h => ?_, fun w j hj => Function.update_of_ne hj _ _⟩
    have hown : w own = w' own := h
    simp [hown]
  tearDown _ := ⟨fun _ _ h => ⟨rfl, h⟩, fun _ _ _ => rfl⟩

theorem confinedTo_idle (own : PluginId) (name : String) :
    (idle name).ConfinedTo (fun i (w : PluginId → Nat) => w i) own where
  setUp _ := ⟨fun _ _ h => ⟨rfl, h⟩, fun _ _ _ => rfl⟩
  registers _ _ _ _ := rfl
  handlers _ _ g hg := by cases hg
  tearDown _ := ⟨fun _ _ h => ⟨rfl, h⟩, fun _ _ _ => rfl⟩

/-- Three plugins, each confined to the part of its position. -/
theorem isolated_three {first second third : ExecutionPlugin Unit (PluginId → Nat)}
    (h₀ : first.ConfinedTo (fun i (w : PluginId → Nat) => w i) 0)
    (h₁ : second.ConfinedTo (fun i (w : PluginId → Nat) => w i) 1)
    (h₂ : third.ConfinedTo (fun i (w : PluginId → Nat) => w i) 2) :
    Isolated (fun i (w : PluginId → Nat) => w i) [first, second, third] := by
  intro i plugin h
  match i with
  | 0 =>
    cases h
    exact h₀
  | 1 =>
    cases h
    exact h₁
  | 2 =>
    cases h
    exact h₂
  | i + 3 => cases h

/-- The second of three plugins panics, or handles nothing: it is the same to the other two, of which
    the last fails at its second commit either way. -/
theorem no_interference_panic :
    let first := counting 0 "first" (.ok ()) (.failed ⟨"stuck", []⟩)
    let last := counting 2 "last" (.failed ⟨"again", []⟩) (.ok ())
    let bad := counting 1 "bad" (.panicked (.text "boom")) (.panicked .other)
    let calls := [.setUp, .commit ⟨3⟩, .commit ⟨3⟩, .commit ⟨5⟩, .tearDown]
    let r := run [first, bad, last] (.ofLaunch () .empty) (fun _ => 0) calls
    let r' := run [first, idle "idle", last] (.ofLaunch () .empty) (fun _ => 0) calls
    r.trace.handled.length = 6 ∧ r'.trace.handled.length = 4 ∧ Undisturbed 1 r r' := by
  intro first last bad calls r r'
  have differ : DifferAt 1 [first, bad, last] [first, idle "idle", last] := by
    refine ⟨rfl, fun i hi => ?_⟩
    match i with
    | 0 => rfl
    | 1 => exact absurd rfl hi
    | i + 2 => rfl
  have respects : ∀ c ∈ calls, c.Respects (fun i (w : PluginId → Nat) => w i) 1 := by
    simp [calls, Call.Respects]
  refine ⟨by decide +kernel, by decide +kernel,
    no_interference (fun i w => w i) 1 _ _ _ _ _ calls differ
    (isolated_three (confinedTo_counting ..) (confinedTo_counting ..) (confinedTo_counting ..))
    (isolated_three (confinedTo_counting ..) (confinedTo_idle ..) (confinedTo_counting ..))
    (.refl _) respects ?_ ?_⟩
  · decide +kernel
  · decide +kernel

end ExecutionManager

end PluginFabric
