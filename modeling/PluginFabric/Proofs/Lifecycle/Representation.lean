import Mathlib.Logic.Relation
import PluginFabric.Proofs.Lifecycle.Agreement
import PluginFabric.Proofs.Registry

/-! What a manager holds at any time.

    A manager holds its plugins by position, and in its registry an entry for each plugin whose setup
    was called, with what was registered in this setup (`Host.Registered`). Before that it holds
    nothing else: no graph, no commit, and the first stage is to come. The one setup that calls plugins
    fills the registry for the rest of the run and attaches the graph that it is given; from then on
    nothing but code of the program changes this graph (`Alters`). -/

namespace PluginFabric

/-- No call leads back to where nothing was set up yet. -/
theorem LifecycleState.Leads.eq_notSetUp {s s' : LifecycleState} (h : s.Leads s') (hs' : s' = .notSetUp) :
    s = .notSetUp := by
  cases h with
  | stay => exact hs'
  | _ => cases hs'

theorem Trace.setUps_eq_nil {ε : Type} {t : Trace ε} (h : t.invocations = []) : t.setUps = [] := by
  rw [← calledFor_setUp, calledFor, h]
  rfl

/-- What every handler keeps of the world, calling handlers keeps. -/
theorem callEach_keeps {ρ ω ε : Type} {P : ω → Prop} {ctx : ρ} {event : ε}
    {rs : List (PluginId × Handler ρ ω ε)} (keeps : ∀ p ∈ rs, ∀ w, P w → P (p.2 ctx event w).world)
    {w : ω} (hw : P w) : P (callEach ctx event rs w).world := by
  induction rs generalizing w with
  | nil => exact hw
  | cons p rest ih =>
    exact ih (fun q hq => keeps q (List.mem_cons_of_mem _ hq)) (keeps p List.mem_cons_self w hw)

namespace Host

variable {ρ ω ε κ : Type} [EventTag κ]

/-- What every setup keeps of the world, a pass of setups keeps. -/
theorem setUpEach_keeps {P : ω → Prop} (domain : Domain) {ctx : ρ}
    {ms : List (PluginId × Plugin ρ ω ε κ)}
    (keeps : ∀ m ∈ ms, ∀ w, P w → P (m.2.setup ctx m.1 w).completion.world)
    (r : Registry κ (Handler ρ ω ε)) {w : ω} (hw : P w) :
    P (setUpEach domain ctx ms r w).world := by
  induction ms generalizing r w with
  | nil => exact hw
  | cons m rest ih =>
    have hm := keeps m List.mem_cons_self w hw
    rcases setUpEach_cons domain ctx m.1 m.2 rest r w with
      ⟨-, -, -, -, hworld, -⟩ | ⟨_, -, -, -, -, hworld, -⟩
    · rw [hworld]
      exact ih (fun q hq => keeps q (List.mem_cons_of_mem _ hq)) _ hm
    · rw [hworld]
      exact hm

/-! ### Whose setups are called -/

section SetUps

variable (ctx : ρ) (w : ω)

omit [EventTag κ] in
theorem setUps_tearDownEach (ms : List (PluginId × Plugin ρ ω ε κ)) :
    (tearDownEach ctx ms w).trace.setUps = [] := by
  rw [← Trace.setUps_calls]
  refine List.filterMap_eq_nil_iff.2 fun o ho => ?_
  have hmem := calls_tearDownEach ctx ms w ▸ List.mem_map_of_mem (f := Occurrence.tornDown?) ho
  obtain ⟨m, -, hm⟩ := List.mem_map.1 hmem
  cases o <;> simp_all [Occurrence.tornDown?, Occurrence.setUp?]

/-- A setup of the host calls the setups of those that it enrolls. -/
theorem setUps_setUp (domain : Domain) (h : Host ρ ω ε κ) :
    (h.setUp domain ctx w).trace.setUps = (h.enrolling ctx w).map (·.id) := by
  rw [enrolling]
  rcases setUp_cases domain ctx h w with
    ⟨hs, hd⟩ | ⟨hs, -, -, -, -, hcalls⟩ | ⟨hs, _, _, -, -, -, -, hcalls⟩
  · rw [hd, if_neg hs]
    rfl
  · rw [if_pos hs, ← Trace.setUps_calls, hcalls, Trace.setUps_calls, setUps_setUpEach]
  · rw [if_pos hs, ← Trace.setUps_calls, hcalls, Trace.setUps_append, Trace.setUps_calls,
      Trace.setUps_calls, setUps_setUpEach, setUps_tearDownEach, List.append_nil]

theorem setUps_tearDown (h : Host ρ ω ε κ) : (h.tearDown ctx w).trace.setUps = [] := by
  rcases tearDown_cases ctx h w with ⟨-, -, -, -, hcalls⟩ | ⟨-, hd⟩ | ⟨-, hd⟩
  · rw [← Trace.setUps_calls, hcalls, Trace.setUps_calls, setUps_tearDownEach]
  · rw [hd]
    rfl
  · rw [hd]
    rfl

@[simp] theorem registry_tearDown (h : Host ρ ω ε κ) :
    (h.tearDown ctx w).manager.registry = h.registry := by
  cases hs : h.state <;> simp [tearDown, hs]

end SetUps

/-! ### What is registered -/

/-- A host of these plugins whose registry holds this roster, that of the setups called in `t`. -/
structure Registered (plugins : List (Plugin ρ ω ε κ)) (h : Host ρ ω ε κ)
    (roster : List (Enrolment ρ ω ε κ)) (t : Trace ε) : Prop where
  members : h.members = (ofPlugins plugins).members
  called : t.setUps = roster.map (·.id)
  entries : h.registry.entries.toList = roster.map Enrolment.entry
  stems : ∀ e ∈ roster, e.StemsFrom plugins
  untouched : h.state = .notSetUp → roster = []
  filled : h.state = .setUp → roster.map (·.id) = List.range plugins.length

/-- What can be seen of a host of these plugins after `t`, in which this roster was set up. -/
structure Represents (plugins : List (Plugin ρ ω ε κ)) (h : Host ρ ω ε κ)
    (roster : List (Enrolment ρ ω ε κ)) (t : Trace ε) : Prop where
  /-- Plugins are identified by their positions. -/
  ids : h.members.map (·.1) = List.range plugins.length
  listed : h.members.map (·.2) = plugins
  /-- The registry knows those whose setup was called, by what they registered in it. -/
  entries : h.registry.entries.toList = roster.map Enrolment.entry
  called : roster.map (·.id) = t.setUps
  /-- A handler is owned by the plugin in whose setup it was registered. -/
  owners : ∀ owner tag handler, h.registry.handler? owner tag = some handler →
    owner < plugins.length ∧ ∃ e ∈ roster, e.id = owner ∧ e.StemsFrom plugins ∧
      ∃ g ∈ e.registrations, g.tag = tag ∧ g.handler = handler
  untouched : h.state = .notSetUp → h.registry.entries.toList = [] ∧ t.setUps = []
  filled : h.state = .setUp → h.registry.pluginCount = plugins.length

variable {plugins : List (Plugin ρ ω ε κ)} {h h' : Host ρ ω ε κ} {roster : List (Enrolment ρ ω ε κ)}
  {s t : Trace ε}

theorem registered_ofPlugins (plugins : List (Plugin ρ ω ε κ)) :
    (ofPlugins plugins).Registered plugins [] [] where
  members := rfl
  called := rfl
  entries := rfl
  stems e he := by cases he
  untouched _ := rfl
  filled hs := by cases hs

/-- What calls no setup changes nothing about the registry. -/
theorem Registered.aside (hreg : h.Registered plugins roster t) (members : h'.members = h.members)
    (registry : h'.registry = h.registry) (state : h'.state = h.state ∨ h'.state = .tornDown)
    (hs : s.setUps = []) : h'.Registered plugins roster (t ++ s) where
  members := members.trans hreg.members
  called := by rw [Trace.setUps_append, hs, List.append_nil, hreg.called]
  entries := registry ▸ hreg.entries
  stems := hreg.stems
  untouched h0 := by
    rcases state with h1 | h1
    · exact hreg.untouched (h1 ▸ h0)
    · rw [h1] at h0
      cases h0
  filled h0 := by
    rcases state with h1 | h1
    · exact hreg.filled (h1 ▸ h0)
    · rw [h1] at h0
      cases h0

/-- What is none of the lifecycle's business changes nothing either. -/
theorem Registered.still (hreg : h.Registered plugins roster t) (same : h' = h)
    (hs : s.invocations = []) : h'.Registered plugins roster (t ++ s) := by
  rw [same]
  exact hreg.aside rfl rfl (.inl rfl) (Trace.setUps_eq_nil hs)

/-- A setup enters those into the registry whose setups it calls. -/
theorem Registered.setUp (hreg : h.Registered plugins roster t) (domain : Domain) (ctx : ρ) (w : ω) :
    (h.setUp domain ctx w).manager.Registered plugins (roster ++ h.enrolling ctx w)
      (t ++ (h.setUp domain ctx w).trace) := by
  have hcalled : (t ++ (h.setUp domain ctx w).trace).setUps
      = (roster ++ h.enrolling ctx w).map (·.id) := by
    rw [Trace.setUps_append, setUps_setUp, hreg.called, List.map_append]
  have hstems : ∀ e ∈ roster ++ h.enrolling ctx w, e.StemsFrom plugins := fun e he =>
    (List.mem_append.1 he).elim (hreg.stems e) (stemsFrom_of_mem_enrolling hreg.members)
  have hn : h.Positioned plugins.length :=
    (positioned_ofPlugins plugins).of_members_eq hreg.members
  by_cases hs : h.state = .notSetUp
  · -- the registry was empty before, so it holds what this pass entered
    obtain rfl := hreg.untouched hs
    have hentries := entries_setUp domain ctx w hreg.members hreg.entries
    have henrolling : h.enrolling ctx w = enrolments ctx h.members w := if_pos hs
    rw [List.nil_append, henrolling] at hcalled hstems ⊢
    rcases setUp_cases domain ctx h w with
      ⟨hne, -⟩ | ⟨-, hready, -, hman, -⟩ | ⟨-, _, _, -, -, hman, -⟩
    · exact absurd hs hne
    · have hall := ids_enrolments_of_ready domain ctx h.members h.registry w hready
      rw [hman]
      exact ⟨hreg.members, hcalled, hentries, hstems, fun h0 => (by cases h0),
        fun _ => hall.trans hn⟩
    · rw [hman]
      exact ⟨hreg.members, hcalled, hentries, hstems, fun h0 => (by cases h0),
        fun h0 => (by cases h0)⟩
  · have hnone : h.enrolling ctx w = [] := if_neg hs
    have hd := ((setUp_cases domain ctx h w).resolve_right fun hset =>
      hset.elim (fun h0 => hs h0.1) fun h0 => hs h0.1).2
    rw [hnone, List.append_nil, hd]
    exact hreg.aside rfl rfl (.inl rfl) rfl

/-- A handler in the registry was registered by its owner in its setup. -/
theorem Registered.owner [DecidableEq κ] (hreg : h.Registered plugins roster t) {owner : PluginId}
    {tag : κ} {handler : Handler ρ ω ε} (hh : h.registry.handler? owner tag = some handler) :
    ∃ e ∈ roster, e.id = owner ∧ e.StemsFrom plugins ∧
      ∃ g ∈ e.registrations, g.tag = tag ∧ g.handler = handler := by
  obtain ⟨entry, hentry, hget⟩ := Option.bind_eq_some_iff.1 hh
  rw [SortedMap.get?_eq_some_iff, hreg.entries] at hentry
  obtain ⟨e, he, heq⟩ := List.mem_map.1 hentry
  obtain ⟨rfl, rfl⟩ := Prod.mk.inj heq
  rw [get?_handlersOf] at hget
  obtain ⟨g, hg, rfl⟩ := Option.map_eq_some_iff.1 hget
  have hmem := (List.mem_filter.1 (List.mem_of_getLast? hg)).1
  exact ⟨e, he, rfl, hreg.stems e he, g, hmem, tag_of_lastFor hg, rfl⟩

theorem Registered.represents [DecidableEq κ] (hreg : h.Registered plugins roster t) :
    h.Represents plugins roster t where
  ids := (positioned_ofPlugins plugins).of_members_eq hreg.members
  listed := by simp [hreg.members, ofPlugins, List.map_map, Function.comp_def]
  entries := hreg.entries
  called := hreg.called.symm
  owners owner tag handler hh := by
    obtain ⟨e, he, rfl, hstems, hg⟩ := hreg.owner hh
    obtain ⟨plugin, _, _, hplugin, -⟩ := hstems
    exact ⟨(List.getElem?_eq_some_iff.1 hplugin).1, e, he, rfl, hreg.stems e he, hg⟩
  untouched hs := by simp [hreg.entries, hreg.called, hreg.untouched hs]
  filled hs := by
    have hids := congrArg List.length (hreg.filled hs)
    simpa [Registry.pluginCount, SortedMap.size, hreg.entries] using hids

end Host

/-! ### Preparation -/

namespace PreparationManager

variable {δ σ α : Type} {plugins : List (PreparationPlugin δ σ)} {m : PreparationManager δ σ}

/-- A piece of the program's code turns one graph into another: code of a plugin, or code of the engine
    in one of these calls. -/
inductive Alters (plugins : List (PreparationPlugin δ σ)) (calls : List (Call δ σ α)) : δ → δ → Prop
  | setUp {plugin : PreparationPlugin δ σ} (listed : plugin ∈ plugins) (ctx : Configuration)
    (id : PluginId) (ws : Workspace δ σ) :
    Alters plugins calls ws.dag (plugin.setup ctx id ws).completion.world.dag
  | handler {plugin : PreparationPlugin δ σ} (listed : plugin ∈ plugins) {ctx : Configuration}
    {id : PluginId} {ws : Workspace δ σ} {g : Registration Configuration (Workspace δ σ) Stage Stage}
    (registered : g ∈ (plugin.setup ctx id ws).registrations) (ctx' : Configuration) (stage : Stage)
    (ws' : Workspace δ σ) : Alters plugins calls ws'.dag (g.handler ctx' stage ws').world.dag
  | step {phase : Phase} {step : Workspace δ σ → Completion (Workspace δ σ) α}
    (called : .around phase step ∈ calls) (ws : Workspace δ σ) :
    Alters plugins calls ws.dag (step ws).world.dag
  | meanwhile {dag : δ → δ} {own : σ → σ} (called : .meanwhile dag own ∈ calls) (d : δ) :
    Alters plugins calls d (dag d)

/-- Code of the program has turned one graph into another, piece by piece. -/
def Altered (plugins : List (PreparationPlugin δ σ)) (calls : List (Call δ σ α)) : δ → δ → Prop :=
  Relation.ReflTransGen (Alters plugins calls)

theorem Altered.mono {calls calls' : List (Call δ σ α)} {d d' : δ} (h : Altered plugins calls d d')
    (sub : ∀ c ∈ calls, c ∈ calls') : Altered plugins calls' d d' := by
  refine Relation.ReflTransGen.mono (fun _ _ h => ?_) d d' h
  cases h with
  | setUp listed ctx id ws => exact .setUp listed ctx id ws
  | handler listed registered ctx' stage ws' => exact .handler listed registered ctx' stage ws'
  | step called ws => exact .step (sub _ called) ws
  | meanwhile called => exact .meanwhile (sub _ called) _

/-- A mark on the graph that no code of the program changes stays the same. -/
theorem Altered.mark_eq {ι : Type} (mark : δ → ι) {calls : List (Call δ σ α)} {d d' : δ}
    (h : Altered plugins calls d d') (kept : ∀ a b, Alters plugins calls a b → mark b = mark a) :
    mark d' = mark d := by
  induction h with
  | refl => rfl
  | tail _ hlast ih => exact (kept _ _ hlast).trans ih

/-! ### What happens to the graph -/

section Graph

variable {roster : List (Enrolled δ σ)} {t : Trace Stage} {calls : List (Call δ σ α)} {d : δ} {w : σ}

/-- Handlers alter the graph and do not replace it. -/
theorem altered_fire (calls : List (Call δ σ α)) (attached : m.Attached)
    (hreg : m.host.Registered plugins roster t) (hd : m.dag = some d) (stage : Stage) (w : σ) :
    ∃ d', (m.fire stage w).manager.dag = some d' ∧ Altered plugins calls d d' := by
  rcases fire_cases attached stage w with ⟨-, h⟩ | ⟨-, -, h⟩ | ⟨-, -, dag, hdag, -, hman, -⟩
  · exact ⟨d, by rw [h, hd], .refl⟩
  · exact ⟨d, by rw [h, hd], .refl⟩
  · obtain rfl := Option.some.inj (hd.symm.trans hdag)
    refine ⟨_, by rw [hman], ?_⟩
    rw [(dispatch_entries m.host.registry m.configuration stage ⟨d, w⟩).2.1]
    refine callEach_keeps (P := fun ws : Workspace δ σ => Altered plugins calls d ws.dag) ?_ .refl
    rintro ⟨owner, handler⟩ hp ws hws
    obtain ⟨e, -, -, ⟨plugin, ctx, ws', hplugin, heq⟩, g, hg, -, rfl⟩ :=
      hreg.owner (Registry.mem_handlersFor.1 hp)
    rw [heq] at hg
    exact hws.tail (.handler (List.mem_of_getElem? hplugin) hg m.configuration stage ws)

/-- Setups alter the graph that is attached, and do not replace it. -/
theorem altered_setUp (calls : List (Call δ σ α)) (hreg : m.host.Registered plugins roster t) (dag : δ)
    (accepted : (m.setUp dag w).answer = .ok ()) :
    ∃ d', (m.setUp dag w).manager.dag = some d' ∧ Altered plugins calls dag d' := by
  have hans := (setUp_host m dag w).1.symm.trans accepted
  rcases Host.setUp_cases .preparation m.configuration m.host ⟨dag, w⟩ with
    ⟨-, h⟩ | ⟨hs, -, -, -, hworld, -⟩ | ⟨-, _, _, -, herr, -⟩
  · rw [h] at hans
    cases hans
  · refine ⟨(m.host.setUp .preparation m.configuration ⟨dag, w⟩).world.dag, ?_, ?_⟩
    · simp [setUp, Host.require, hs]
    · rw [hworld]
      refine Host.setUpEach_keeps (P := fun ws : Workspace δ σ => Altered plugins calls dag ws.dag)
        _ ?_ _ .refl
      rintro ⟨id, plugin⟩ hmem ws hws
      have hplugin : plugin ∈ plugins := by
        have := hreg.represents.listed ▸ List.mem_map_of_mem (f := Prod.snd) hmem
        exact this
      exact hws.tail (.setUp hplugin m.configuration id ws)
  · rw [herr] at hans
    cases hans

/-- A call alters the graph and does not replace it, while the plugins stay set up. -/
theorem altered_perform (attached : m.Attached) (hreg : m.host.Registered plugins roster t)
    (hs : m.state = .setUp) (hd : m.dag = some d) {c : Call δ σ α} (hc : c ∈ calls)
    (hs' : (m.perform w c).manager.state = .setUp) :
    ∃ d', (m.perform w c).manager.dag = some d' ∧ Altered plugins calls d d' := by
  cases c with
  | setUp dag =>
    have hs0 : m.host.state = .setUp := hs
    exact ⟨d, by simp [perform, setUp, Host.require, hs0, hd], .refl⟩
  | fire stage => exact altered_fire calls attached hreg hd stage w
  | around phase step =>
    obtain ⟨d₁, hd₁, h₁⟩ := altered_fire calls attached hreg hd phase.pre w
    rcases around_cases attached phase step w with ⟨e, -, h⟩ | ⟨_, dag, -, hdag, hran⟩
    · exact ⟨d, by rw [perform, Step.manager_map, h, hd], .refl⟩
    · obtain rfl := Option.some.inj (hd₁.symm.trans hdag)
      have h₂ := h₁.tail (.step hc ⟨d₁, (m.fire phase.pre w).world⟩)
      rcases hran with ⟨-, h⟩ | ⟨-, -, -, h⟩
      · exact ⟨_, by rw [perform, Step.manager_map, h, dag_withDag], h₂⟩
      · -- the second stage finds the graph as the engine's step left it
        have hreg' : ((m.fire phase.pre w).manager.withDag
            (step ⟨d₁, (m.fire phase.pre w).world⟩).world.dag).host.Registered plugins roster t :=
          (host_fire attached phase.pre w).symm ▸ hreg
        obtain ⟨d₃, hd₃, h₃⟩ := altered_fire calls (attached_withDag _ _) hreg' rfl phase.post
          (step ⟨d₁, (m.fire phase.pre w).world⟩).world.own
        exact ⟨d₃, by rw [perform, Step.manager_map, h, hd₃], h₂.trans h₃⟩
  | tearDown =>
    rw [perform, Step.manager_map, state_tearDown attached] at hs'
    cases hs'
  | meanwhile dag own => exact ⟨dag d, by rw [perform, hd]; rfl, .single (.meanwhile hc d)⟩

/-- Only a setup that is accepted leads into service. -/
theorem setUp_of_entered {n : Nat} (sound : Sound n m t) (hs : m.state ≠ .setUp) {c : Call δ σ α}
    (hs' : (m.perform w c).manager.state = .setUp) :
    ∃ dag, c = .setUp dag ∧ (m.setUp dag w).answer = .ok () := by
  cases c with
  | setUp dag =>
    obtain ⟨hans, hhost, -⟩ := setUp_host m dag w
    refine ⟨dag, rfl, ?_⟩
    rw [hans]
    rw [perform, Step.manager_map, state, hhost] at hs'
    rcases Host.setUp_cases .preparation m.configuration m.host ⟨dag, w⟩ with
      ⟨-, h⟩ | ⟨-, -, hok, -⟩ | ⟨-, _, _, -, -, hman, -⟩
    · rw [h] at hs'
      exact absurd hs' hs
    · exact hok
    · rw [hman] at hs'
      cases hs'
  | fire stage =>
    rw [perform, Step.manager_map, state, host_fire sound.attached] at hs'
    exact absurd hs' hs
  | around phase step =>
    rw [perform, Step.manager_map, state, host_around sound.attached] at hs'
    exact absurd hs' hs
  | tearDown =>
    rw [perform, Step.manager_map, state_tearDown sound.attached] at hs'
    cases hs'
  | meanwhile dag own => exact absurd hs' hs

end Graph

/-! ### A run of a preparation -/

theorem registered_advance {n : Nat} (r : Session δ σ α) (c : Call δ σ α)
    (sound : Sound n r.manager r.trace) (h : r.manager.host.Registered plugins (roster r) r.trace) :
    (r.advance perform c).manager.host.Registered plugins (roster (r.advance perform c))
      (r.advance perform c).trace := by
  rw [roster_advance, Run.manager_advance, Run.trace_advance]
  cases c with
  | setUp dag =>
    obtain ⟨-, hhost, htrace, -⟩ := setUp_host r.manager dag r.world
    simp only [perform, Step.manager_map, Step.trace_map, hhost, htrace]
    exact h.setUp .preparation r.manager.configuration ⟨dag, r.world⟩
  | fire stage =>
    rw [List.append_nil]
    exact h.still (host_fire sound.attached ..) (invocations_fire sound.attached ..)
  | around phase step =>
    rw [List.append_nil]
    exact h.still (host_around sound.attached ..) (invocations_around sound.attached ..)
  | tearDown =>
    have hstate : (r.manager.tearDown r.world).manager.host.state = .tornDown :=
      state_tearDown sound.attached r.world
    rw [List.append_nil]
    rcases (tearDown_cases sound.attached r.world).2 with
      ⟨dag, -, -, hhost, htrace⟩ | ⟨-, -, hhost, htrace⟩ | ⟨-, hd⟩
    · refine h.aside ?_ ?_ (.inr hstate) ?_ <;>
        simp only [perform, Step.manager_map, Step.trace_map, hhost, htrace]
      · exact Host.members_tearDown ..
      · exact Host.registry_tearDown ..
      · exact Host.setUps_tearDown ..
    · refine h.aside ?_ ?_ (.inr hstate) ?_ <;>
        simp only [perform, Step.manager_map, Step.trace_map, hhost, htrace]
      rfl
    · refine h.aside ?_ ?_ (.inr hstate) ?_ <;> simp only [perform, Step.manager_map, Step.trace_map, hd]
      rfl
  | meanwhile dag own =>
    rw [List.append_nil]
    exact h.aside rfl rfl (.inl rfl) rfl

theorem registered_run (plugins : List (PreparationPlugin δ σ)) (configuration : Configuration) (w : σ)
    (calls : List (Call δ σ α)) :
    let r := run plugins configuration w calls
    r.manager.host.Registered plugins (roster r) r.trace := by
  let P : Session δ σ α → Prop := fun r => Sound plugins.length r.manager r.trace ∧
    r.manager.host.Registered plugins (roster r) r.trace
  suffices h : P (run plugins configuration w calls) from h.2
  refine run_invariant ⟨sound_ofPlugins plugins configuration, Host.registered_ofPlugins plugins⟩ ?_
    calls
  rintro r c ⟨hsound, hreg⟩
  exact ⟨Run.trace_advance perform r c ▸ hsound.perform r.world c, registered_advance r c hsound hreg⟩

/-- Before the setup no graph is attached and no stage is past. -/
def Fresh (m : PreparationManager δ σ) : Prop :=
  m.state = .notSetUp → m.dag = none ∧ m.nextStage = some .prePopulate

theorem Fresh.perform {n : Nat} {t : Trace Stage} (h : m.Fresh) (sound : Sound n m t) (w : σ)
    (c : Call δ σ α) : (m.perform w c).manager.Fresh := by
  intro hs'
  have hs : m.state = .notSetUp := (sound.leads w c).eq_notSetUp hs'
  have hrefused : ∀ stage, m.fire stage w = ⟨.error (.invalidState .fireStage m.state.text), m, w, []⟩ :=
    fun stage => (firesInTurn sound.attached stage w).not_set_up (by simp [hs])
  cases c with
  | setUp dag =>
    rw [PreparationManager.perform, Step.manager_map, state, (setUp_host m dag w).2.1] at hs'
    rcases Host.setUp_cases .preparation m.configuration m.host ⟨dag, w⟩ with
      ⟨h0, -⟩ | ⟨-, -, -, hman, -⟩ | ⟨-, _, _, -, -, hman, -⟩
    · exact absurd hs h0
    · rw [hman] at hs'
      cases hs'
    · rw [hman] at hs'
      cases hs'
  | fire stage =>
    rw [PreparationManager.perform, Step.manager_map, hrefused]
    exact h hs
  | around phase step =>
    rw [PreparationManager.perform, Step.manager_map,
      (brackets sound.attached phase step w).refused _ (by rw [hrefused])]
    exact h hs
  | tearDown =>
    rw [PreparationManager.perform, Step.manager_map, state_tearDown sound.attached] at hs'
    cases hs'
  | meanwhile dag own =>
    obtain ⟨hdag, hnext⟩ := h hs
    exact ⟨by simp [PreparationManager.perform, hdag], hnext⟩

theorem fresh_run (plugins : List (PreparationPlugin δ σ)) (configuration : Configuration) (w : σ)
    (calls : List (Call δ σ α)) : (run plugins configuration w calls).manager.Fresh := by
  let P : Session δ σ α → Prop := fun r => Sound plugins.length r.manager r.trace ∧ r.manager.Fresh
  suffices h : P (run plugins configuration w calls) from h.2
  refine run_invariant ⟨sound_ofPlugins plugins configuration, fun _ => ⟨rfl, rfl⟩⟩ ?_ calls
  rintro r c ⟨hsound, hfresh⟩
  exact ⟨Run.trace_advance perform r c ▸ hsound.perform r.world c, hfresh.perform hsound r.world c⟩

/-- While the plugins are set up, the graph attached is the one that the accepted setup was given, as
    code of the program has altered it since. -/
theorem altered_run (plugins : List (PreparationPlugin δ σ)) (configuration : Configuration) (w : σ)
    (calls : List (Call δ σ α)) :
    let run := run plugins configuration w
    (run calls).manager.state = .setUp → ∃ before dag later d, calls = before ++ .setUp dag :: later ∧
      ((run before).manager.setUp dag (run before).world).answer = .ok () ∧
      (run calls).manager.dag = some d ∧ Altered plugins later dag d := by
  intro run
  induction calls using List.reverseRecOn with
  | nil => exact fun hs => (by cases hs)
  | append_singleton calls c ih =>
    have hrun : run (calls ++ [c]) = (run calls).advance perform c := Run.ofCalls_concat ..
    obtain ⟨hsound, -⟩ := sound_run plugins configuration w calls
    have hreg := registered_run plugins configuration w calls
    rw [hrun, Run.manager_advance]
    intro hs'
    by_cases hs : (run calls).manager.state = .setUp
    · obtain ⟨before, dag, later, d, hsplit, hans, hd, halt⟩ := ih hs
      have hc : c ∈ later ++ [c] := List.mem_append_right later List.mem_cons_self
      obtain ⟨d', hd', halt'⟩ := altered_perform hsound.attached hreg hs hd hc hs'
      refine ⟨before, dag, later ++ [c], d', by simp [hsplit], hans, hd', ?_⟩
      exact (halt.mono fun _ hc => List.mem_append_left _ hc).trans halt'
    · obtain ⟨dag, rfl, hans⟩ := setUp_of_entered hsound hs hs'
      obtain ⟨d, hd, halt⟩ := altered_setUp [] hreg dag hans
      exact ⟨calls, dag, [], d, rfl, hans, hd, halt⟩

/-- Once plugins were set up or torn down, no call enrolls any. -/
theorem roster_later (plugins : List (PreparationPlugin δ σ)) (configuration : Configuration) (w : σ)
    (calls later : List (Call δ σ α)) :
    let run := run plugins configuration w
    (run calls).manager.state ≠ .notSetUp → roster (run (calls ++ later)) = roster (run calls) := by
  intro run hs
  let P : Session δ σ α → Prop := fun r => Sound plugins.length r.manager r.trace ∧
    r.manager.state ≠ .notSetUp ∧ roster r = roster (run calls)
  suffices h : P (run (calls ++ later)) from h.2.2
  have hrun : run (calls ++ later) = later.foldl (Run.advance perform) (run calls) :=
    Run.ofCalls_append ..
  rw [hrun]
  refine Run.foldl_induction (P := P) ?_ later _
    ⟨(sound_run plugins configuration w calls).1, hs, rfl⟩
  rintro r c ⟨hsound, hset, hroster⟩
  refine ⟨Run.trace_advance perform r c ▸ hsound.perform r.world c,
    fun h0 => hset ((hsound.leads r.world c).eq_notSetUp h0), ?_⟩
  rw [roster_advance, ← hroster]
  cases c with
  | setUp dag =>
    have hset' : r.manager.host.state ≠ .notSetUp := hset
    simp [Host.enrolling, hset']
  | _ => exact List.append_nil _

/-- A phase is not refused for want of a graph. -/
theorem around_ne_unattached (attached : m.Attached) (phase : Phase)
    (step : Workspace δ σ → Completion (Workspace δ σ) α) (w : σ) (text : String) :
    (m.around phase step w).answer ≠ .refused (.invalidState .runStep text) := by
  intro hans
  rcases around_cases attached phase step w with ⟨e, he, h⟩ | ⟨_, _, _, _, ⟨_, h⟩ | ⟨_, _, _, h⟩⟩
  · rw [h] at hans
    obtain rfl := PhaseResult.refused.inj hans
    rcases fire_cases attached phase.pre w with ⟨-, hf⟩ | ⟨-, -, hf⟩ | ⟨-, -, _, -, hf, -⟩
    · simp [hf] at he
    · simp [hf] at he
    · simp [hf] at he
  · rw [h] at hans
    cases hout : (step ⟨_, _⟩).outcome <;> rw [hout] at hans <;> cases hans
  · rw [h] at hans
    cases hout : (step ⟨_, _⟩).outcome <;> rw [hout] at hans <;> cases hans

end PreparationManager

/-! ### Execution -/

namespace ExecutionManager

variable {δ σ : Type} {plugins : List (ExecutionPlugin δ σ)} {m : ExecutionManager δ σ}

theorem registered_advance (r : Session δ σ) (c : Call δ σ)
    (h : r.manager.host.Registered plugins (roster r) r.trace) :
    (r.advance perform c).manager.host.Registered plugins (roster (r.advance perform c))
      (r.advance perform c).trace := by
  rw [roster_advance, Run.manager_advance, Run.trace_advance]
  have announced : ∀ event, c.event? = some event →
      (r.manager.perform r.world c).manager.host.Registered plugins (roster r)
        (r.trace ++ (r.manager.perform r.world c).trace) := fun event hevent =>
    h.still (event_aside hevent r.world).1 (event_aside hevent r.world).2
  cases c with
  | setUp => exact h.setUp .execution r.manager.environment r.world
  | tearDown =>
    rw [List.append_nil]
    exact h.aside (Host.members_tearDown ..) (Host.registry_tearDown ..)
      (.inr (Host.state_tearDown ..)) (Host.setUps_tearDown ..)
  | meanwhile environment world =>
    rw [List.append_nil]
    exact h.aside rfl rfl (.inl rfl) rfl
  | _ =>
    rw [List.append_nil]
    exact announced _ rfl

theorem registered_run (plugins : List (ExecutionPlugin δ σ)) (environment : Environment δ) (w : σ)
    (calls : List (Call δ σ)) :
    let r := run plugins environment w calls
    r.manager.host.Registered plugins (roster r) r.trace :=
  run_invariant (P := fun r => r.manager.host.Registered plugins (roster r) r.trace)
    (Host.registered_ofPlugins plugins) registered_advance calls

/-- Before the setup nothing is committed. -/
def Fresh (m : ExecutionManager δ σ) : Prop := m.state = .notSetUp → m.lastCommitted = none

theorem Fresh.perform {n : Nat} (h : m.Fresh) (hn : m.host.Positioned n) (w : σ) (c : Call δ σ) :
    (m.perform w c).manager.Fresh := by
  intro hs'
  have hs : m.state = .notSetUp := (passage_perform hn w c).1.leads.eq_notSetUp hs'
  cases hc : c.event? with
  | some event =>
    have hno : ¬ m.Accepts event := fun hacc => (by rw [hacc.1] at hs; cases hs)
    rw [(perform_refused hc hno w).1]
    exact h hs
  | none => rw [(perform_silent hc w).2, h hs]

theorem fresh_run (plugins : List (ExecutionPlugin δ σ)) (environment : Environment δ) (w : σ)
    (calls : List (Call δ σ)) : (run plugins environment w calls).manager.Fresh :=
  (inService_induction (P := fun r => r.manager.Fresh) (fun _ => rfl)
    (fun r c hin h => h.perform hin.sound.positioned r.world c) calls).2

/-- Once plugins were set up or torn down, no call enrolls any. -/
theorem roster_later (plugins : List (ExecutionPlugin δ σ)) (environment : Environment δ) (w : σ)
    (calls later : List (Call δ σ)) :
    let run := run plugins environment w
    (run calls).manager.state ≠ .notSetUp → roster (run (calls ++ later)) = roster (run calls) := by
  intro run hs
  let P : Session δ σ → Prop := fun r => r.manager.host.Positioned plugins.length ∧
    r.manager.state ≠ .notSetUp ∧ roster r = roster (run calls)
  suffices h : P (run (calls ++ later)) from h.2.2
  have hrun : run (calls ++ later) = later.foldl (Run.advance perform) (run calls) :=
    Run.ofCalls_append ..
  rw [hrun]
  refine Run.foldl_induction (P := P) ?_ later _
    ⟨(sound_run plugins environment w calls).1.positioned, hs, rfl⟩
  rintro r c ⟨hn, hset, hroster⟩
  obtain ⟨hpass, hmembers⟩ := passage_perform hn r.world c
  refine ⟨hn.of_members_eq hmembers, fun h0 => hset (hpass.leads.eq_notSetUp h0), ?_⟩
  rw [roster_advance, ← hroster]
  cases c with
  | setUp =>
    have hset' : r.manager.host.state ≠ .notSetUp := hset
    simp [Host.enrolling, hset']
  | _ => exact List.append_nil _

end ExecutionManager

/-! ### Every run -/

/-- Registries that hold the same roster are the same, and so are the setups that filled them. -/
theorem Host.Registered.same {ρ ω ε κ : Type} [EventTag κ] {plugins : List (Plugin ρ ω ε κ)}
    {h h' : Host ρ ω ε κ} {roster roster' : List (Enrolment ρ ω ε κ)} {t t' : Trace ε}
    (hreg : h.Registered plugins roster t) (hreg' : h'.Registered plugins roster' t')
    (hroster : roster' = roster) : h'.registry = h.registry ∧ t'.setUps = t.setUps := by
  subst hroster
  obtain ⟨_, ⟨entries⟩, _⟩ := h
  obtain ⟨_, ⟨entries'⟩, _⟩ := h'
  refine ⟨congrArg Registry.mk (SortedMap.ext ?_), hreg'.called.trans hreg.called.symm⟩
  exact hreg'.entries.trans hreg.entries.symm

/-- In every state of a run of either manager, plugins are known by their positions and the registry
    holds what those that were set up registered. Before the setup there is nothing else. After it the
    registry stays as it is, and the graph is the one that was given, as code of the program altered it;
    so no phase wants for a graph. -/
theorem managers_represent (δ σ α : Type) :
    (∀ (plugins : List (PreparationPlugin δ σ)) (configuration : Configuration) (w : σ)
      (calls : List (PreparationManager.Call δ σ α)),
      let run := PreparationManager.run plugins configuration w
      let r := run calls
      r.manager.host.Represents plugins (PreparationManager.roster r) r.trace ∧
      (r.manager.state = .notSetUp →
        r.manager.dag = none ∧ r.manager.nextStage = some .prePopulate) ∧
      (r.manager.state = .setUp → ∃ before dag later d, calls = before ++ .setUp dag :: later ∧
        ((run before).manager.setUp dag (run before).world).answer = .ok () ∧
        r.manager.dag = some d ∧ PreparationManager.Altered plugins later dag d) ∧
      (r.manager.state ≠ .notSetUp → ∀ later,
        (run (calls ++ later)).manager.host.registry = r.manager.host.registry ∧
        (run (calls ++ later)).trace.setUps = r.trace.setUps) ∧
      ∀ phase (step : Workspace δ σ → Completion (Workspace δ σ) α) w' text,
        (r.manager.around phase step w').answer ≠ .refused (.invalidState .runStep text)) ∧
    (∀ (plugins : List (ExecutionPlugin δ σ)) (environment : Environment δ) (w : σ)
      (calls : List (ExecutionManager.Call δ σ)),
      let run := ExecutionManager.run plugins environment w
      let r := run calls
      r.manager.host.Represents plugins (ExecutionManager.roster r) r.trace ∧
      (r.manager.state = .notSetUp → r.manager.lastCommitted = none) ∧
      (r.manager.state ≠ .notSetUp → ∀ later,
        (run (calls ++ later)).manager.host.registry = r.manager.host.registry ∧
        (run (calls ++ later)).trace.setUps = r.trace.setUps)) := by
  constructor
  · intro plugins configuration w calls run r
    have hreg := PreparationManager.registered_run (α := α) plugins configuration w
    obtain ⟨hsound, -⟩ := PreparationManager.sound_run plugins configuration w calls
    refine ⟨(hreg calls).represents, PreparationManager.fresh_run plugins configuration w calls,
      PreparationManager.altered_run plugins configuration w calls, fun hs later => ?_, ?_⟩
    · exact (hreg calls).same (hreg (calls ++ later))
        (PreparationManager.roster_later plugins configuration w calls later hs)
    · exact PreparationManager.around_ne_unattached hsound.attached
  · intro plugins environment w calls run r
    have hreg := ExecutionManager.registered_run plugins environment w
    refine ⟨(hreg calls).represents, ExecutionManager.fresh_run plugins environment w calls,
      fun hs later => ?_⟩
    exact (hreg calls).same (hreg (calls ++ later))
      (ExecutionManager.roster_later plugins environment w calls later hs)

/-- A plugin that writes its name into a numbered graph when it is set up and when it gets a stage. -/
def writing (name : String) : PreparationPlugin (Nat × List String) Unit where
  name := name
  setup _ _ ws :=
    ⟨[⟨.prePopulate, fun _ _ ws => ⟨.ok (), { ws with dag := (ws.dag.1, name :: ws.dag.2) }, []⟩⟩],
      ⟨.ok (), { ws with dag := (ws.dag.1, name :: ws.dag.2) }, []⟩⟩
  teardown _ ws := ⟨.ok (), ws, []⟩

/-- Graph seven is attached and written to; a later setup does not replace it, and the registry stays. -/
theorem managers_represent_numbered :
    let plugins := [writing "one", writing "two"]
    let run : List (PreparationManager.Call (Nat × List String) Unit Unit) → _ :=
      PreparationManager.run plugins .empty ()
    let r := run [.setUp (7, []), .fire .prePopulate]
    (∃ d, r.manager.dag = some d ∧ d.1 = 7) ∧
    (run ([.setUp (7, []), .fire .prePopulate] ++ [.setUp (8, []), .tearDown])).manager.host.registry
      = r.manager.host.registry := by
  intro plugins run r
  obtain ⟨-, -, hattached, hsettled, -⟩ := (managers_represent (Nat × List String) Unit Unit).1 plugins
    .empty () [.setUp (7, []), .fire .prePopulate]
  refine ⟨?_, (hsettled (by decide) _).1⟩
  obtain ⟨before, dag, later, d, hsplit, -, hd, halt⟩ := hattached rfl
  have hfirst : dag = (7, []) ∧ later = [.fire .prePopulate] := by
    rcases before with _ | ⟨c, _ | ⟨c', _ | _⟩⟩ <;> simp_all
  obtain ⟨rfl, rfl⟩ := hfirst
  refine ⟨d, hd, halt.mark_eq Prod.fst fun a b hab => ?_⟩
  have hlisted : ∀ plugin ∈ plugins, ∃ name, plugin = writing name := by simp [plugins]
  cases hab with
  | setUp listed ctx id ws =>
    obtain ⟨name, rfl⟩ := hlisted _ listed
    rfl
  | handler listed registered ctx' stage ws' =>
    obtain ⟨name, rfl⟩ := hlisted _ listed
    rw [List.mem_singleton.1 registered]
  | step called => simp at called
  | meanwhile called => simp at called

end PluginFabric
