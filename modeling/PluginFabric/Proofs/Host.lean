import Mathlib.Data.List.Basic
import PluginFabric.Plugin.Lifecycle
import PluginFabric.Proofs.Roster

/-! What setting up and tearing down do.

    Setting up calls the setups of the plugins in order up to the first that does not succeed, and
    leaves a registry with what each of them registered (`entries_setUpEach`). If one does not
    succeed, the teardowns of the plugins before it are called in the same order, and of no others. -/

namespace PluginFabric

namespace Host

variable {ρ ω ε κ : Type}

/-- The plugins of a list whose setup is called when they are set up, each with what it registers. -/
def enrolments (ctx : ρ) : List (PluginId × Plugin ρ ω ε κ) → ω → List (Enrolment ρ ω ε κ)
  | [], _ => []
  | (id, plugin) :: rest, w =>
    let done := plugin.setup ctx id w
    ⟨id, plugin.name, done.registrations⟩ ::
      if done.completion.outcome.isOk then enrolments ctx rest done.completion.world else []

/-- The plugins whose setup is called are the first ones of the list. -/
theorem ids_enrolments (ctx : ρ) (ms : List (PluginId × Plugin ρ ω ε κ)) (w : ω) :
    (enrolments ctx ms w).map (·.id) <+: ms.map (·.1) := by
  induction ms generalizing w with
  | nil => exact List.nil_prefix
  | cons m rest ih =>
    rw [enrolments, List.map_cons, List.map_cons]
    refine (List.prefix_cons_inj _).2 ?_
    split
    · exact ih _
    · exact List.nil_prefix

/-- Whoever is enrolled is one of the list, and made its registrations when it was set up. -/
theorem mem_enrolments {ctx : ρ} {ms : List (PluginId × Plugin ρ ω ε κ)} {w : ω}
    {e : Enrolment ρ ω ε κ} (h : e ∈ enrolments ctx ms w) :
    ∃ plugin w', (e.id, plugin) ∈ ms ∧
      e = ⟨e.id, plugin.name, (plugin.setup ctx e.id w').registrations⟩ := by
  induction ms generalizing w with
  | nil => cases h
  | cons m rest ih =>
    rw [enrolments] at h
    rcases List.mem_cons.1 h with rfl | h
    · exact ⟨m.2, w, List.mem_cons_self, rfl⟩
    · split at h
      · obtain ⟨plugin, w', hmem, heq⟩ := ih h
        exact ⟨plugin, w', List.mem_cons_of_mem _ hmem, heq⟩
      · cases h

variable [EventTag κ]

/-- There are `n` plugins, and each is identified by its position. -/
def Positioned (n : Nat) (h : Host ρ ω ε κ) : Prop := h.members.map (·.1) = List.range n

theorem positioned_ofPlugins (plugins : List (Plugin ρ ω ε κ)) :
    (ofPlugins plugins).Positioned plugins.length := by
  simp [Positioned, ofPlugins, List.map_map, Function.comp_def, List.range_eq_range']

theorem Positioned.ascending {n : Nat} {h : Host ρ ω ε κ} (hp : h.Positioned n) :
    h.members.Pairwise fun a b => compare a.1 b.1 = .lt := by
  have hlt : (h.members.map (·.1)).Pairwise (· < ·) := hp ▸ List.pairwise_lt_range
  exact (List.pairwise_map.1 hlt).imp Nat.compare_eq_lt.2

theorem Positioned.of_members_eq {n : Nat} {h h' : Host ρ ω ε κ} (hp : h.Positioned n)
    (same : h'.members = h.members) : h'.Positioned n := by
  rwa [Positioned, same]

/-! ### Setting up -/

section SetUp

variable (domain : Domain) (ctx : ρ)

/-- What setting up the first of several plugins does: either it succeeds and the others follow, or it
    does not and they are left alone. -/
theorem setUpEach_cons (id : PluginId) (plugin : Plugin ρ ω ε κ)
    (rest : List (PluginId × Plugin ρ ω ε κ)) (r : Registry κ (Handler ρ ω ε)) (w : ω) :
    let done := plugin.setup ctx id w
    let registry := ((r.enroll id plugin.name).registerAll id done.registrations).1
    let later := setUpEach domain ctx rest registry done.completion.world
    let pass := setUpEach domain ctx ((id, plugin) :: rest) r w
    (done.completion.outcome = .ok () ∧ pass.ready = (id, plugin) :: later.ready ∧
      pass.failure = later.failure ∧ pass.registry = later.registry ∧ pass.world = later.world ∧
      pass.trace.calls = .settingUp id (.ok ()) :: later.trace.calls ∧
      pass.trace.dispatched = later.trace.dispatched) ∨
    ∃ cause, done.completion.outcome.toExcept = .error cause ∧ pass.ready = [] ∧
      pass.failure = some (plugin.name, cause) ∧ pass.registry = registry ∧
      pass.world = done.completion.world ∧
      pass.trace.calls = [.settingUp id done.completion.outcome] ∧ pass.trace.dispatched = [] := by
  intro done registry later pass
  rcases hout : done.completion.outcome.toExcept with cause | ⟨⟩
  · right
    have hpass : pass = ⟨[], some (plugin.name, cause), registry, done.completion.world,
        .settingUp id done.completion.outcome ::
          (Trace.ofNotices ((r.enroll id plugin.name).registerAll id done.registrations).2 ++
            Trace.ofNotices done.completion.notices)⟩ := by
      simp only [done] at hout
      simp only [pass, setUpEach, hout]
      rfl
    refine ⟨cause, rfl, ?_⟩
    rw [hpass]
    simp [Trace.calls_cons, Trace.dispatched_cons, Occurrence.isCall, Occurrence.dispatched?]
  · left
    have hpass : pass = { later with
        ready := (id, plugin) :: later.ready
        trace := .settingUp id done.completion.outcome ::
          (Trace.ofNotices ((r.enroll id plugin.name).registerAll id done.registrations).2 ++
            Trace.ofNotices done.completion.notices) ++
          .said (.pluginReady domain plugin.name id) :: later.trace } := by
      simp only [done] at hout
      simp only [pass, setUpEach, hout]
      rfl
    rw [hpass, Outcome.eq_ok_of_toExcept hout]
    simp [Trace.calls_cons, Trace.dispatched_cons, Occurrence.isCall, Occurrence.dispatched?]

/-- The registry after a pass holds what it held before and what the plugins registered. -/
theorem entries_setUpEach {ms : List (PluginId × Plugin ρ ω ε κ)}
    (ascending : ms.Pairwise fun a b => compare a.1 b.1 = .lt) {r : Registry κ (Handler ρ ω ε)}
    (below : ∀ p ∈ r.entries.toList, ∀ q ∈ ms, compare p.1 q.1 = .lt) (w : ω) :
    (setUpEach domain ctx ms r w).registry.entries.toList
      = r.entries.toList ++ (enrolments ctx ms w).map Enrolment.entry := by
  induction ms generalizing r w with
  | nil => simp [setUpEach, enrolments]
  | cons m rest ih =>
    obtain ⟨id, plugin⟩ := m
    have hasc := List.pairwise_cons.1 ascending
    have hid : ∀ p ∈ r.entries.toList, compare p.1 id = .lt :=
      fun p hp => below p hp _ List.mem_cons_self
    have hhead := entries_registerAll (plugin.setup ctx id w).registrations
      (entries_enroll plugin.name hid) hid
    rcases setUpEach_cons domain ctx id plugin rest r w with
      ⟨hok, -, -, hreg, -⟩ | ⟨cause, herr, -, -, hreg, -⟩
    · rw [hreg, ih hasc.2, hhead, enrolments]
      · simp [hok, Outcome.isOk, Enrolment.entry, handlersOf]
      · intro p hp q hq
        rw [hhead] at hp
        rcases List.mem_append.1 hp with hp | hp
        · exact below p hp q (List.mem_cons_of_mem _ hq)
        · rw [List.mem_singleton.1 hp]
          exact hasc.1 q hq
    · rw [hreg, hhead, enrolments]
      simp [Outcome.isOk_of_toExcept herr, Enrolment.entry, handlersOf]

/-- If no setup fails, all are called. -/
theorem ids_enrolments_of_ready (ms : List (PluginId × Plugin ρ ω ε κ)) (r : Registry κ (Handler ρ ω ε))
    (w : ω) (ready : (setUpEach domain ctx ms r w).failure = none) :
    (enrolments ctx ms w).map (·.id) = ms.map (·.1) := by
  induction ms generalizing r w with
  | nil => rfl
  | cons m rest ih =>
    rcases setUpEach_cons domain ctx m.1 m.2 rest r w with
      ⟨hok, -, hfail, -⟩ | ⟨cause, -, -, hfail, -⟩
    · rw [hfail] at ready
      rw [enrolments, hok, Outcome.isOk, if_pos rfl, List.map_cons, List.map_cons, ih _ _ ready]
    · rw [hfail] at ready
      cases ready

/-- A pass calls setups in order, and either all succeed or the last one called does not. -/
theorem setUpEach_cases (ms : List (PluginId × Plugin ρ ω ε κ)) (r : Registry κ (Handler ρ ω ε))
    (w : ω) :
    let pass := setUpEach domain ctx ms r w
    (pass.failure = none ∧ pass.ready = ms ∧
      pass.trace.calls = ms.map fun m => .settingUp m.1 (.ok ())) ∨
    ∃ m rest outcome cause, ms = pass.ready ++ m :: rest ∧ outcome.toExcept = .error cause ∧
      pass.failure = some (m.2.name, cause) ∧
      pass.trace.calls
        = (pass.ready.map fun m => .settingUp m.1 (.ok ())) ++ [.settingUp m.1 outcome] := by
  induction ms generalizing r w with
  | nil => exact .inl ⟨rfl, rfl, rfl⟩
  | cons m rest ih =>
    obtain ⟨id, plugin⟩ := m
    rcases setUpEach_cons domain ctx id plugin rest r w with
      ⟨-, hready, hfail, -, -, hcalls, -⟩ | ⟨cause, herr, hready, hfail, -, -, hcalls, -⟩
    · rcases ih ((r.enroll id plugin.name).registerAll id (plugin.setup ctx id w).registrations).1
        (plugin.setup ctx id w).completion.world with ⟨h1, h2, h3⟩ | ⟨m, others, o, cause, h1, h2, h3, h4⟩
      · left
        rw [hready, hfail, hcalls, h1, h2, h3]
        exact ⟨rfl, rfl, rfl⟩
      · right
        refine ⟨m, others, o, cause, ?_, h2, by rw [hfail, h3], ?_⟩
        · rw [hready, List.cons_append, ← h1]
        · rw [hready, hcalls, h4]
          rfl
    · right
      refine ⟨(id, plugin), rest, _, cause, by rw [hready]; rfl, herr, hfail, ?_⟩
      rw [hready, hcalls]
      rfl

theorem quiet_setUpEach (ms : List (PluginId × Plugin ρ ω ε κ)) (r : Registry κ (Handler ρ ω ε))
    (w : ω) : Trace.Quiet (setUpEach domain ctx ms r w).trace := by
  induction ms generalizing r w with
  | nil => exact ⟨rfl, rfl⟩
  | cons m rest ih =>
    rw [Trace.Quiet, ← Trace.handled_calls]
    rcases setUpEach_cons domain ctx m.1 m.2 rest r w with
      ⟨-, -, -, -, -, hcalls, hdispatched⟩ | ⟨_, -, -, -, -, -, hcalls, hdispatched⟩
    · obtain ⟨hd, hh⟩ := ih ((r.enroll m.1 m.2.name).registerAll m.1 (m.2.setup ctx m.1 w).registrations).1
        (m.2.setup ctx m.1 w).completion.world
      rw [hcalls, hdispatched, Trace.handled_cons, Trace.handled_calls, hd, hh]
      exact ⟨rfl, rfl⟩
    · rw [hcalls, hdispatched]
      exact ⟨rfl, rfl⟩

end SetUp

/-! ### Tearing down -/

omit [EventTag κ] in
/-- A pass calls every teardown once and in order, however each ends. -/
theorem calls_tearDownEach (ctx : ρ) (ms : List (PluginId × Plugin ρ ω ε κ)) (w : ω) :
    (tearDownEach ctx ms w).trace.calls.map Occurrence.tornDown? = ms.map fun m => some m.1 := by
  induction ms generalizing w with
  | nil => rfl
  | cons m rest ih =>
    rw [tearDownEach]
    rcases hfail : (m.2.teardown ctx w).outcome.failure? with _ | ⟨error, panicked⟩ <;>
      simp [Trace.calls_cons, Occurrence.isCall, Occurrence.tornDown?, ih]

omit [EventTag κ] in
theorem quiet_tearDownEach (ctx : ρ) (ms : List (PluginId × Plugin ρ ω ε κ)) (w : ω) :
    Trace.Quiet (tearDownEach ctx ms w).trace := by
  induction ms generalizing w with
  | nil => exact ⟨rfl, rfl⟩
  | cons m rest ih =>
    obtain ⟨hd, hh⟩ := ih (m.2.teardown ctx w).world
    rw [tearDownEach]
    rcases hfail : (m.2.teardown ctx w).outcome.failure? with _ | ⟨error, panicked⟩ <;>
      simp [Trace.Quiet, Trace.dispatched_cons, Trace.handled_cons, Occurrence.dispatched?,
        Occurrence.handled?, hd, hh]

omit [EventTag κ] in
theorem quiet_tearDownAll (ctx : ρ) (ms : List (PluginId × Plugin ρ ω ε κ)) (w : ω) :
    Trace.Quiet (tearDownAll ctx ms w).trace :=
  (quiet_tearDownEach ctx ms w).append (Trace.quiet_said _)

/-! ### The host -/

section Calls

variable (domain : Domain) (ctx : ρ) (h : Host ρ ω ε κ) (w : ω)

/-- A host refuses to be set up, or is set up, or is torn down again as far as it was set up. -/
theorem setUp_cases :
    let done := h.setUp domain ctx w
    let pass := setUpEach domain ctx h.members h.registry w
    (h.state ≠ .notSetUp ∧ done = ⟨.error (.invalidState .setUp h.state.text), h, w, []⟩) ∨
    (h.state = .notSetUp ∧ pass.failure = none ∧ done.answer = .ok () ∧
      done.manager = { h with registry := pass.registry, state := .setUp } ∧
      done.world = pass.world ∧ done.trace.calls = pass.trace.calls) ∨
    (h.state = .notSetUp ∧ ∃ plugin cause, pass.failure = some (plugin, cause) ∧
      done.answer = .error (.setup plugin cause) ∧
      done.manager = { h with registry := pass.registry, state := .tornDown } ∧
      done.world = (tearDownEach ctx pass.ready pass.world).world ∧
      done.trace.calls = pass.trace.calls ++ (tearDownEach ctx pass.ready pass.world).trace.calls) := by
  by_cases hs : h.state = .notSetUp
  · right
    rcases hfail : (setUpEach domain ctx h.members h.registry w).failure with _ | ⟨plugin, cause⟩
    · left
      simp [setUp, require, hs, hfail, Trace.calls_cons, Occurrence.isCall]
    · right
      simp [setUp, require, hs, hfail, tearDownAll, Trace.calls_cons, Occurrence.isCall]
  · left
    simp [setUp, require, hs]

theorem quiet_setUp : Trace.Quiet (h.setUp domain ctx w).trace := by
  have hpass := quiet_setUpEach domain ctx h.members h.registry w
  simp only [setUp]
  split
  · exact ⟨rfl, rfl⟩
  · split
    · exact hpass.append (Trace.quiet_said _)
    · exact hpass.append ((Trace.quiet_said _).append (quiet_tearDownAll ..))

@[simp] theorem members_setUp : (h.setUp domain ctx w).manager.members = h.members := by
  simp only [setUp]
  split
  · rfl
  · split <;> rfl

/-- A host tears its plugins down if they are set up, has none to tear down if they are not yet, and
    refuses if they were. -/
theorem tearDown_cases :
    let done := h.tearDown ctx w
    let pass := tearDownEach ctx h.members w
    (h.state = .setUp ∧ done.answer = .ok pass.failed ∧ done.manager = { h with state := .tornDown } ∧
      done.world = pass.world ∧ done.trace.calls = pass.trace.calls) ∨
    (h.state = .notSetUp ∧ done = ⟨.ok [], { h with state := .tornDown }, w, []⟩) ∨
    (h.state = .tornDown ∧ done = ⟨.error (.invalidState .tearDown h.state.text), h, w, []⟩) := by
  cases hs : h.state with
  | setUp => simp [tearDown, hs, tearDownAll, Trace.calls_cons, Occurrence.isCall]
  | notSetUp => simp [tearDown, hs]
  | tornDown => simp [tearDown, hs]

theorem quiet_tearDown : Trace.Quiet (h.tearDown ctx w).trace := by
  rw [tearDown]
  split
  · exact quiet_tearDownAll ..
  · exact ⟨rfl, rfl⟩
  · exact ⟨rfl, rfl⟩

@[simp] theorem members_tearDown : (h.tearDown ctx w).manager.members = h.members := by
  cases hs : h.state <;> simp [tearDown, hs]

/-- After a teardown a host is torn down, also if it was before. -/
@[simp] theorem state_tearDown : (h.tearDown ctx w).manager.state = .tornDown := by
  cases hs : h.state <;> simp [tearDown, hs]

end Calls

end Host

end PluginFabric
