import PluginFabric.Proofs.Execution.Service
import PluginFabric.Proofs.Preparation.StageOrder

/-! Setting plugins up is all or nothing.

    Setups are called in order, each in the world that the one before left. If all succeed, the
    plugins are set up. If one does not, it is the last one called: the plugins before it are torn
    down in order, whatever becomes of each teardown, the refusal names the one that failed and why,
    and no plugin is called for anything after that. -/

namespace PluginFabric

/-- What a refusal gives as the cause of a setup that did not succeed: its own error, or one that
    quotes its panic. -/
inductive Outcome.Causes : Outcome Unit → Fault → Prop where
  | failed (f : Fault) : Causes (.failed f) f
  | panicked (p : PanicPayload) : Causes (.panicked p) ⟨"panicked: " ++ p.message, []⟩

theorem Outcome.causes_of_toExcept {o : Outcome Unit} {cause : Fault}
    (h : o.toExcept = .error cause) : o.Causes cause := by
  cases o with
  | ok => cases h
  | failed f =>
    cases h
    exact .failed _
  | panicked p =>
    cases h
    exact .panicked _

/-- A setup called in its turn: what the plugin registered, and how it ended. -/
structure SettingUp (ρ ω ε κ : Type) where
  enrolment : Enrolment ρ ω ε κ
  outcome : Outcome Unit

variable {ρ ω ε κ : Type}

/-- The setups of plugins if all of them are called in turn, however each ends. -/
def settingUps (ctx : ρ) : List (PluginId × Plugin ρ ω ε κ) → ω → List (SettingUp ρ ω ε κ)
  | [], _ => []
  | (id, plugin) :: rest, w =>
    let done := plugin.setup ctx id w
    ⟨⟨id, plugin.name, done.registrations⟩, done.completion.outcome⟩ ::
      settingUps ctx rest done.completion.world

theorem ids_settingUps (ctx : ρ) (ms : List (PluginId × Plugin ρ ω ε κ)) (w : ω) :
    (settingUps ctx ms w).map (·.enrolment.id) = ms.map (·.1) := by
  induction ms generalizing w with
  | nil => rfl
  | cons m rest ih => rw [settingUps, List.map_cons, List.map_cons, ih]

theorem names_settingUps (ctx : ρ) (ms : List (PluginId × Plugin ρ ω ε κ)) (w : ω) :
    (settingUps ctx ms w).map (·.enrolment.name) = ms.map (·.2.name) := by
  induction ms generalizing w with
  | nil => rfl
  | cons m rest ih => rw [settingUps, List.map_cons, List.map_cons, ih]

variable [EventTag κ]

/-- What came of setting up these plugins in the world `w`: the answer, the host afterwards, and what
    plugins were called for. -/
structure AllOrNothing (plugins : List (Plugin ρ ω ε κ)) (ctx : ρ) (w : ω)
    (answer : Except FabricError Unit) (host : Host ρ ω ε κ) (calls : Trace ε) : Prop where
  /-- If all setups succeed, all are called and the plugins are set up. -/
  ready : let setUps := settingUps ctx (Host.ofPlugins plugins).members w
    (∀ s ∈ setUps, s.outcome = .ok ()) →
    answer = .ok () ∧ host.state = .setUp ∧ calls = Lifecycle.succeeding plugins.length ∧
      host.registry.entries.toList = setUps.map (·.enrolment.entry)
  /-- If the one at position `k` is the first that does not, those before it are undone. -/
  rolled_back : let setUps := settingUps ctx (Host.ofPlugins plugins).members w
    ∀ k plugin s, plugins[k]? = some plugin → setUps[k]? = some s → s.outcome ≠ .ok () →
    (∀ i < k, ∀ s', setUps[i]? = some s' → s'.outcome = .ok ()) →
    ∃ cause teardowns, s.outcome.Causes cause ∧ answer = .error (.setup plugin.name cause) ∧
      host.state = .tornDown ∧
      calls = Lifecycle.succeeding k ++ .settingUp k s.outcome :: teardowns ∧
      Lifecycle.Undone k teardowns ∧
      host.registry.entries.toList = (setUps.take (k + 1)).map (·.enrolment.entry) ∧
      host.registry.entries.toList.map (·.1) = List.range (k + 1)

namespace Host

/-! ### One pass of setups -/

section Pass

variable (domain : Domain) (ctx : ρ)

/-- If all setups succeed, none is missed. -/
theorem setUpEach_ready (ms : List (PluginId × Plugin ρ ω ε κ)) (r : Registry κ (Handler ρ ω ε))
    (w : ω) (ready : ∀ s ∈ settingUps ctx ms w, s.outcome = .ok ()) :
    (setUpEach domain ctx ms r w).failure = none ∧
      enrolments ctx ms w = (settingUps ctx ms w).map (·.enrolment) := by
  induction ms generalizing r w with
  | nil => exact ⟨rfl, rfl⟩
  | cons m rest ih =>
    obtain ⟨id, plugin⟩ := m
    rw [settingUps] at ready ⊢
    have hok : (plugin.setup ctx id w).completion.outcome = .ok () := ready _ List.mem_cons_self
    have hrest := fun s hs => ready s (List.mem_cons_of_mem _ hs)
    rcases setUpEach_cons domain ctx id plugin rest r w with ⟨-, -, hfail, -⟩ | ⟨cause, herr, -⟩
    · obtain ⟨hnone, hlist⟩ := ih _ _ hrest
      refine ⟨hfail.trans hnone, ?_⟩
      rw [enrolments, hok, Outcome.isOk, if_pos rfl, hlist, List.map_cons]
    · rw [hok] at herr
      cases herr

/-- The first setup that does not succeed is the last one called. -/
theorem setUpEach_stopped (ms : List (PluginId × Plugin ρ ω ε κ)) (r : Registry κ (Handler ρ ω ε))
    (w : ω) {k : Nat} {s : SettingUp ρ ω ε κ} (at_k : (settingUps ctx ms w)[k]? = some s)
    (failed : s.outcome ≠ .ok ())
    (before : ∀ i < k, ∀ s', (settingUps ctx ms w)[i]? = some s' → s'.outcome = .ok ()) :
    let pass := setUpEach domain ctx ms r w
    pass.ready = ms.take k ∧
      (∃ cause, s.outcome.Causes cause ∧ pass.failure = some (s.enrolment.name, cause)) ∧
      pass.trace.calls = ((ms.take k).map fun m => .settingUp m.1 (.ok ())) ++
        [.settingUp s.enrolment.id s.outcome] ∧
      enrolments ctx ms w = ((settingUps ctx ms w).take (k + 1)).map (·.enrolment) := by
  induction ms generalizing k r w with
  | nil => cases at_k
  | cons m rest ih =>
    obtain ⟨id, plugin⟩ := m
    rw [settingUps] at at_k before ⊢
    cases k with
    | zero =>
      obtain rfl := Option.some.inj at_k
      rcases setUpEach_cons domain ctx id plugin rest r w with
        ⟨hok, -⟩ | ⟨cause, herr, hready, hfail, -, -, hcalls, -⟩
      · exact absurd hok failed
      · refine ⟨hready, ⟨cause, Outcome.causes_of_toExcept herr, hfail⟩, hcalls, ?_⟩
        rw [enrolments, Outcome.isOk_of_toExcept herr]
        rfl
    | succ k =>
      have hok : (plugin.setup ctx id w).completion.outcome = .ok () := before 0 k.succ_pos _ rfl
      rcases setUpEach_cons domain ctx id plugin rest r w with
        ⟨-, hready, hfail, -, -, hcalls, -⟩ | ⟨cause, herr, -⟩
      · obtain ⟨ih1, ih2, ih3, ih4⟩ :=
          ih ((r.enroll id plugin.name).registerAll id (plugin.setup ctx id w).registrations).1
            (plugin.setup ctx id w).completion.world at_k
            fun i hi s' hs' => before (i + 1) (Nat.succ_lt_succ hi) s' hs'
        refine ⟨?_, ?_, ?_, ?_⟩
        · rw [hready, ih1, List.take_succ_cons]
        · rwa [hfail]
        · rw [hcalls, ih3, List.take_succ_cons, List.map_cons, List.cons_append]
        · rw [enrolments, hok, Outcome.isOk, if_pos rfl, ih4, List.take_succ_cons, List.map_cons]
      · rw [hok] at herr
        cases herr

end Pass

/-! ### Setting a host up -/

/-- A setup called in its turn is that of the plugin at its position. -/
theorem enrolment_settingUps {plugins : List (Plugin ρ ω ε κ)} {ctx : ρ} {w : ω} {k : Nat}
    {plugin : Plugin ρ ω ε κ} {s : SettingUp ρ ω ε κ} (hplugin : plugins[k]? = some plugin)
    (at_k : (settingUps ctx (ofPlugins plugins).members w)[k]? = some s) :
    s.enrolment.id = k ∧ s.enrolment.name = plugin.name := by
  have hid := congrArg (·[k]?) (ids_settingUps ctx (ofPlugins plugins).members w)
  have hname := congrArg (·[k]?) (names_settingUps ctx (ofPlugins plugins).members w)
  simp only [List.getElem?_map, at_k, Option.map_some] at hid hname
  constructor
  · simpa [ofPlugins, hplugin] using hid
  · simpa [ofPlugins, hplugin] using hname

section SetUp

variable {plugins : List (Plugin ρ ω ε κ)} {h : Host ρ ω ε κ} (domain : Domain) (ctx : ρ) (w : ω)

/-- A host that was not set up yet holds what its plugins registered, one after the other. -/
theorem entries_setUp (members : h.members = (ofPlugins plugins).members)
    (empty : h.registry.entries.toList = []) :
    (setUpEach domain ctx h.members h.registry w).registry.entries.toList
      = (enrolments ctx h.members w).map Enrolment.entry := by
  have hn : h.Positioned plugins.length := (positioned_ofPlugins plugins).of_members_eq members
  have hentries := entries_setUpEach domain ctx hn.ascending (r := h.registry) (by simp [empty]) w
  rwa [empty, List.nil_append] at hentries

/-- If all setups succeed, so does that of the host. -/
theorem setUp_ready (members : h.members = (ofPlugins plugins).members) (fresh : h.state = .notSetUp)
    (empty : h.registry.entries.toList = [])
    (ready : ∀ s ∈ settingUps ctx h.members w, s.outcome = .ok ()) :
    let done := h.setUp domain ctx w
    done.answer = .ok () ∧ done.manager.state = .setUp ∧
      done.trace.calls = Lifecycle.succeeding plugins.length ∧
      done.manager.registry.entries.toList
        = (settingUps ctx h.members w).map (·.enrolment.entry) := by
  obtain ⟨hnone, henrolled⟩ := setUpEach_ready domain ctx h.members h.registry w ready
  have hentries := entries_setUp domain ctx w members empty
  rcases setUp_cases domain ctx h w with
    ⟨hs, -⟩ | ⟨-, -, hans, hman, -, hcalls⟩ | ⟨-, _, _, hsome, -⟩
  · exact absurd fresh hs
  · rcases setUpEach_cases domain ctx h.members h.registry w with
      ⟨-, -, hall⟩ | ⟨_, _, _, _, -, -, hfail, -⟩
    · have hn : h.Positioned plugins.length := (positioned_ofPlugins plugins).of_members_eq members
      dsimp only
      rw [hans, hman, hcalls, hall, hentries, henrolled, List.map_map]
      exact ⟨rfl, rfl, Lifecycle.settingUps_eq_succeeding hn, rfl⟩
    · rw [hnone] at hfail
      cases hfail
  · rw [hnone] at hsome
    cases hsome

/-- If the setup at position `k` is the first that does not succeed, the plugins before it are torn
    down. -/
theorem setUp_rolledBack (members : h.members = (ofPlugins plugins).members)
    (fresh : h.state = .notSetUp) (empty : h.registry.entries.toList = []) {k : Nat}
    {plugin : Plugin ρ ω ε κ} {s : SettingUp ρ ω ε κ} (hplugin : plugins[k]? = some plugin)
    (at_k : (settingUps ctx h.members w)[k]? = some s) (failed : s.outcome ≠ .ok ())
    (before : ∀ i < k, ∀ s', (settingUps ctx h.members w)[i]? = some s' → s'.outcome = .ok ()) :
    let done := h.setUp domain ctx w
    ∃ cause teardowns, s.outcome.Causes cause ∧
      done.answer = .error (.setup plugin.name cause) ∧ done.manager.state = .tornDown ∧
      done.trace.calls = Lifecycle.succeeding k ++ .settingUp k s.outcome :: teardowns ∧
      Lifecycle.Undone k teardowns ∧
      done.manager.registry.entries.toList
        = ((settingUps ctx h.members w).take (k + 1)).map (·.enrolment.entry) := by
  obtain ⟨hready, ⟨cause, hcause, hfail⟩, hpass, henrolled⟩ :=
    setUpEach_stopped domain ctx h.members h.registry w at_k failed before
  obtain ⟨hid, hname⟩ := enrolment_settingUps hplugin (members ▸ at_k)
  have hentries := entries_setUp domain ctx w members empty
  have hk : k < plugins.length := (List.getElem?_eq_some_iff.1 hplugin).1
  have hfirst : (h.members.take k).map (·.1) = List.range k := by
    rw [members, List.map_take, positioned_ofPlugins plugins, List.take_range, Nat.min_eq_left hk.le]
  have hundone := Lifecycle.undone_tearDownEach ctx hfirst
    (setUpEach domain ctx h.members h.registry w).world
  rw [hid] at hpass
  rw [hname] at hfail
  rcases setUp_cases domain ctx h w with
    ⟨hs, -⟩ | ⟨-, hnone, -⟩ | ⟨-, _, _, hsome, hans, hman, -, hcalls⟩
  · exact absurd fresh hs
  · rw [hfail] at hnone
    cases hnone
  · obtain ⟨rfl, rfl⟩ := Prod.mk.inj (Option.some.inj (hfail.symm.trans hsome))
    dsimp only
    rw [hans, hman, hcalls, hpass, hready, hentries, henrolled, List.append_assoc, List.map_map]
    refine ⟨cause, _, hcause, rfl, rfl, ?_, hundone, rfl⟩
    rw [Lifecycle.settingUps_eq_succeeding hfirst]
    rfl

end SetUp

/-- A host that was not set up yet is set up as a whole, or not at all. -/
theorem allOrNothing_setUp {plugins : List (Plugin ρ ω ε κ)} {h : Host ρ ω ε κ}
    (members : h.members = (ofPlugins plugins).members) (fresh : h.state = .notSetUp)
    (empty : h.registry.entries.toList = []) (domain : Domain) (ctx : ρ) (w : ω) :
    let done := h.setUp domain ctx w
    AllOrNothing plugins ctx w done.answer done.manager done.trace.calls := by
  refine ⟨?_, ?_⟩ <;> dsimp only <;> rw [← members]
  · exact setUp_ready domain ctx w members fresh empty
  · intro k plugin s hplugin at_k failed before
    obtain ⟨cause, teardowns, hcause, hans, hstate, hcalls, hundone, hentries⟩ :=
      setUp_rolledBack domain ctx w members fresh empty hplugin at_k failed before
    refine ⟨cause, teardowns, hcause, hans, hstate, hcalls, hundone, hentries, ?_⟩
    have hk : k < plugins.length := (List.getElem?_eq_some_iff.1 hplugin).1
    have hids := congrArg (List.take (k + 1)) (ids_settingUps ctx h.members w)
    rw [members, positioned_ofPlugins plugins, List.take_range, Nat.min_eq_left hk,
      ← List.map_take] at hids
    rw [hentries, members, List.map_map]
    exact hids

end Host

/-! ### Runs -/

/-- Once calls neither change what is seen of a manager nor call plugins, the rest of a run does not
    either. -/
theorem Run.settled {μ ω ε χ α β : Type} {perform : μ → ω → χ → Step μ ω ε α} (view : μ → β)
    (Settled : β → Prop) (still : ∀ m w c, Settled (view m) →
      view (perform m w c).manager = view m ∧ (perform m w c).trace.calls = [])
    {r : Run μ ω ε χ α} (settled : Settled (view r.manager)) (later : List χ) :
    let r' := later.foldl (advance perform) r
    view r'.manager = view r.manager ∧ r'.trace.calls = r.trace.calls := by
  refine foldl_induction
    (P := fun r' => view r'.manager = view r.manager ∧ r'.trace.calls = r.trace.calls) ?_ later r
    ⟨rfl, rfl⟩
  rintro r' c ⟨hview, hcalls⟩
  obtain ⟨hview', hcalls'⟩ := still r'.manager r'.world c (hview ▸ settled)
  rw [manager_advance, trace_advance, Trace.calls_append, hcalls', List.append_nil]
  exact ⟨hview'.trans hview, hcalls⟩

variable {δ σ α : Type}

/-- A torn down manager refuses every call and changes nothing about its plugins. -/
theorem PreparationManager.perform_tornDown {m : PreparationManager δ σ}
    (hs : m.host.state = .tornDown) (w : σ) (c : Call δ σ α) :
    (m.perform w c).manager.host = m.host ∧ (m.perform w c).trace.calls = [] := by
  have attached : m.Attached := fun h => (by rw [state, hs] at h; cases h)
  have refused : ∀ stage, m.fire stage w
      = ⟨.error (.invalidState .fireStage m.state.text), m, w, []⟩ := fun stage =>
    (firesInTurn attached stage w).not_set_up (by simp [state, hs])
  cases c with
  | setUp dag =>
    obtain ⟨-, hhost, htrace, -⟩ := setUp_host m dag w
    simp only [perform, Step.manager_map, Step.trace_map, hhost, htrace]
    simp [Host.setUp, Host.require, hs]
  | fire stage => simp [perform, refused]
  | around phase step =>
    simp [perform, (brackets attached phase step w).refused _ (by rw [refused])]
  | tearDown =>
    rcases (tearDown_cases attached w).2 with ⟨dag, -, -, hhost, htrace⟩ | ⟨h, -⟩ | ⟨-, hd⟩
    · simp only [perform, Step.manager_map, Step.trace_map, hhost, htrace]
      simp [Host.tearDown, hs]
    · rw [state, hs] at h
      cases h
    · simp [perform, hd]
  | meanwhile => exact ⟨rfl, rfl⟩

theorem ExecutionManager.perform_tornDown {m : ExecutionManager δ σ} (hs : m.host.state = .tornDown)
    (w : σ) (c : Call δ σ) :
    (m.perform w c).manager.host = m.host ∧ (m.perform w c).trace.calls = [] := by
  cases hc : c.event? with
  | some event =>
    have hno : ¬ m.Accepts event := fun h => (by rw [Accepts, state, hs] at h; cases h.1)
    obtain ⟨hman, -, hcalls, -⟩ := perform_refused hc hno w
    exact ⟨congrArg ExecutionManager.host hman, hcalls⟩
  | none =>
    cases c with
    | setUp => simp [perform, setUp, Host.setUp, Host.require, hs]
    | tearDown => simp [perform, tearDown, Host.tearDown, hs]
    | meanwhile => exact ⟨rfl, rfl⟩
    | _ => cases hc

/-- As long as its plugins are not set up, a manager has all of them, none has registered anything and
    none was called. -/
theorem PreparationManager.untouched_run (plugins : List (PreparationPlugin δ σ))
    (configuration : Configuration) (w : σ) (calls : List (Call δ σ α)) :
    let r := run plugins configuration w calls
    r.manager.host.members = (Host.ofPlugins plugins).members ∧
      (r.manager.state = .notSetUp →
        r.manager.host.registry.entries.toList = [] ∧ r.trace.calls = []) := by
  let P : Session δ σ α → Prop := fun r => r.manager.host.members = (Host.ofPlugins plugins).members ∧
    InService plugins.length (roster r) r.manager r.trace
  have h : P (run plugins configuration w calls) := by
    refine run_invariant ⟨rfl, sound_ofPlugins plugins configuration, ⟨List.nil_prefix, rfl⟩,
      Host.serves_ofPlugins plugins⟩ ?_ calls
    rintro r c ⟨hmembers, hin⟩
    exact ⟨(members_perform hin.sound r.world c).trans hmembers, inService_advance r c hin⟩
  refine ⟨h.1, fun hs => ⟨(h.2.serves.untouched hs).1, ?_⟩⟩
  exact h.2.sound.history.eq_nil_of_notSetUp hs

theorem ExecutionManager.untouched_run (plugins : List (ExecutionPlugin δ σ))
    (environment : Environment δ) (w : σ) (calls : List (Call δ σ)) :
    let r := run plugins environment w calls
    r.manager.host.members = (Host.ofPlugins plugins).members ∧
      (r.manager.state = .notSetUp →
        r.manager.host.registry.entries.toList = [] ∧ r.trace.calls = []) := by
  let P : Session δ σ → Prop := fun r => r.manager.host.members = (Host.ofPlugins plugins).members
  have hstart : P ⟨ofPlugins plugins environment, w, []⟩ := rfl
  obtain ⟨hin, hmembers⟩ := inService_induction hstart
    (fun r c hin h => (passage_perform hin.sound.positioned r.world c).2.trans h) calls
  refine ⟨hmembers, fun hs => ⟨(hin.serves.untouched hs).1, ?_⟩⟩
  exact hin.sound.history.eq_nil_of_notSetUp hs

/-- Whenever plugins are set up, either all of them are, or those before the first that fails are torn
    down again and no plugin is called for anything in the rest of the run. -/
theorem setUp_all_or_nothing (δ σ α : Type) :
    (∀ (plugins : List (PreparationPlugin δ σ)) (configuration : Configuration) (w : σ)
      (before later : List (PreparationManager.Call δ σ α)) (dag : δ),
      let r := PreparationManager.run plugins configuration w before
      let done := r.manager.setUp dag r.world
      let whole := PreparationManager.run plugins configuration w (before ++ .setUp dag :: later)
      r.manager.state = .notSetUp →
      AllOrNothing plugins r.manager.configuration ⟨dag, r.world⟩ done.answer done.manager.host
        done.trace.calls ∧
      (done.manager.state = .tornDown →
        whole.manager.host = done.manager.host ∧ whole.trace.calls = done.trace.calls)) ∧
    (∀ (plugins : List (ExecutionPlugin δ σ)) (environment : Environment δ) (w : σ)
      (before later : List (ExecutionManager.Call δ σ)),
      let r := ExecutionManager.run plugins environment w before
      let done := r.manager.setUp r.world
      let whole := ExecutionManager.run plugins environment w (before ++ .setUp :: later)
      r.manager.state = .notSetUp →
      AllOrNothing plugins r.manager.environment r.world done.answer done.manager.host
        done.trace.calls ∧
      (done.manager.state = .tornDown →
        whole.manager.host = done.manager.host ∧ whole.trace.calls = done.trace.calls)) := by
  constructor
  · intro plugins configuration w before later dag r done whole fresh
    obtain ⟨hmembers, huntouched⟩ := PreparationManager.untouched_run plugins configuration w before
    obtain ⟨hempty, hcalls⟩ := huntouched fresh
    obtain ⟨hans, hhost, htrace, -⟩ := PreparationManager.setUp_host r.manager dag r.world
    refine ⟨?_, fun hs => ?_⟩
    · rw [hans, hhost, htrace]
      exact Host.allOrNothing_setUp hmembers fresh hempty .preparation r.manager.configuration _
    · have hsettled := Run.settled (·.host) (·.state = .tornDown)
        (fun _ w c h => PreparationManager.perform_tornDown h w c)
        (r := r.advance PreparationManager.perform (.setUp dag)) hs later
      rw [Run.trace_advance, Trace.calls_append, hcalls, List.nil_append] at hsettled
      simp only [whole, PreparationManager.run, Run.ofCalls_append_cons]
      exact hsettled
  · intro plugins environment w before later r done whole fresh
    obtain ⟨hmembers, huntouched⟩ := ExecutionManager.untouched_run plugins environment w before
    obtain ⟨hempty, hcalls⟩ := huntouched fresh
    refine ⟨Host.allOrNothing_setUp hmembers fresh hempty .execution r.manager.environment r.world,
      fun hs => ?_⟩
    have hsettled := Run.settled (·.host) (·.state = .tornDown)
      (fun _ w c h => ExecutionManager.perform_tornDown h w c)
      (r := r.advance ExecutionManager.perform .setUp) hs later
    rw [Run.trace_advance, Trace.calls_append, hcalls, List.nil_append] at hsettled
    simp only [whole, ExecutionManager.run, Run.ofCalls_append_cons]
    exact hsettled

/-- A plugin that wants commits, whose code leaves the world alone and ends as told. -/
def scripted (name : String) (setup handler teardown : Outcome Unit) : ExecutionPlugin Unit Unit where
  name := name
  setup _ _ w := ⟨[⟨.commit, fun _ _ w => ⟨handler, w, []⟩⟩], ⟨setup, w, []⟩⟩
  teardown _ w := ⟨teardown, w, []⟩

/-- The second of three plugins panics: the first is torn down, though that fails, and the engine's
    further calls reach nobody. -/
theorem setUp_all_or_nothing_panic :
    let plugins := [scripted "first" (.ok ()) (.ok ()) (.failed ⟨"stuck", []⟩),
      scripted "second" (.panicked (.text "boom")) (.ok ()) (.ok ()),
      scripted "third" (.ok ()) (.ok ()) (.ok ())]
    let run := ExecutionManager.run plugins (.ofLaunch () .empty) ()
    let done := (run [.commit ⟨3⟩]).manager.setUp ()
    done.answer = .error (.setup "second" ⟨"panicked: boom", []⟩) ∧
    (run ([.commit ⟨3⟩] ++ .setUp :: [.setUp, .commit ⟨4⟩, .tearDown])).trace.tearDowns = [0] := by
  intro plugins run done
  obtain ⟨h, hlater⟩ := (setUp_all_or_nothing Unit Unit Unit).2 plugins (.ofLaunch () .empty) ()
    [.commit ⟨3⟩] [.setUp, .commit ⟨4⟩, .tearDown] rfl
  obtain ⟨cause, teardowns, hcause, hans, hstate, hcalls, hundone, -⟩ :=
    h.rolled_back 1 _ _ rfl rfl (fun he => (by cases he)) fun i hi s hs => (by
      obtain rfl : i = 0 := by omega
      cases hs
      rfl)
  cases hcause
  refine ⟨hans, ?_⟩
  have hwhole := congrArg Trace.tearDowns ((hlater hstate).2.trans hcalls)
  rw [Trace.tearDowns_calls, Trace.tearDowns_append, Lifecycle.tearDowns_succeeding] at hwhole
  exact hwhole.trans hundone.tearDowns

end PluginFabric
