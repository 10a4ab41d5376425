import PluginFabric.Proofs.Lifecycle.Course
import PluginFabric.Proofs.Lifecycle.Rollback

/-! Both managers take the same course.

    A plugin for the preparation and one for the application make a pair if they have the same name and
    their setups and teardowns end the same. The lifecycle of either manager takes the course that
    these names and outcomes prescribe, whatever else is called in between (`course_run`); so over a
    list of pairs, two managers that are set up and torn down by corresponding calls cannot be told
    apart by their lifecycles. -/

namespace PluginFabric

variable {ε ε' : Type}

/-- Wherever plugins at the same position are called for the same hook, it ends the same. -/
def Trace.EndAlike (t : Trace ε) (t' : Trace ε') : Prop :=
  ∀ i ∈ t.invocations, ∀ j ∈ t'.invocations, i.hook = j.hook → i.id = j.id → i.outcome = j.outcome

theorem Trace.EndAlike.symm {t : Trace ε} {t' : Trace ε'} (h : t.EndAlike t') : t'.EndAlike t :=
  fun i hi j hj hook id => (h j hj i hi hook.symm id.symm).symm

/-- What is called once ends one way. -/
theorem Trace.endAlike_self {t : Trace ε} (once : ∀ hook, (t.calledFor hook).Nodup) : t.EndAlike t := by
  intro i hi j hj hook id
  let Apart : Invocation → Invocation → Prop := fun a b =>
    a.hook = i.hook → b.hook = i.hook → a.id ≠ b.id
  have apart : t.invocations.Pairwise Apart :=
    (List.pairwise_filterMap.1 (once i.hook)).imp fun h ha hb => h _ (by simp [ha]) _ (by simp [hb])
  have : Std.Symm Apart := ⟨fun a b h hb ha => (h ha hb).symm⟩
  by_contra hne
  exact apart.forall hi hj (fun h => hne (h ▸ rfl)) rfl hook.symm id

theorem Lifecycle.Safe.calledFor_nodup {n : Nat} {s : LifecycleState} {t : Trace ε} (h : Safe n s t)
    (hook : Hook) : (t.calledFor hook).Nodup := by
  cases hook with
  | setUp => exact Trace.calledFor_setUp t ▸ h.setUps_nodup
  | tearDown => exact Trace.calledFor_tearDown t ▸ h.tearDowns_nodup

namespace Cast

/-- Plugins with these names, whose hooks end as seen in these invocations. -/
def ofInvocations (names : List String) (seen : List Invocation) : Cast where
  names := names
  outcome hook id :=
    ((seen.find? fun i => i.hook = hook ∧ i.id = id).map (·.outcome)).getD (.ok ())

theorem plays_ofInvocations {names : List String} {seen : List Invocation} {t : Trace ε}
    (alike : ∀ i ∈ seen, ∀ j ∈ seen, i.hook = j.hook → i.id = j.id → i.outcome = j.outcome)
    (among : ∀ i ∈ t.invocations, i ∈ seen) : (ofInvocations names seen).Plays t := by
  intro i hi
  have hfound : (seen.find? fun j => j.hook = i.hook ∧ j.id = i.id).isSome :=
    List.find?_isSome.2 ⟨i, among i hi, by simp⟩
  obtain ⟨j, hj⟩ := Option.isSome_iff_exists.1 hfound
  have hsame : j.hook = i.hook ∧ j.id = i.id := by simpa using List.find?_some hj
  simp only [ofInvocations, hj, Option.map_some, Option.getD_some]
  exact alike i (among i hi) j (List.mem_of_find?_eq_some hj) hsame.1.symm hsame.2.symm

end Cast

/-- Two traces that end alike are played by one cast. -/
theorem exists_cast {t : Trace ε} {t' : Trace ε'} (names : List String) (ht : t.EndAlike t)
    (ht' : t'.EndAlike t') (alike : t.EndAlike t') :
    ∃ c : Cast, c.names = names ∧ c.Plays t ∧ c.Plays t' := by
  have hseen : ∀ i ∈ t.invocations ++ t'.invocations, ∀ j ∈ t.invocations ++ t'.invocations,
      i.hook = j.hook → i.id = j.id → i.outcome = j.outcome := by
    intro i hi j hj
    rcases List.mem_append.1 hi with hi | hi <;> rcases List.mem_append.1 hj with hj | hj
    · exact ht i hi j hj
    · exact alike i hi j hj
    · exact alike.symm i hi j hj
    · exact ht' i hi j hj
  exact ⟨.ofInvocations names (t.invocations ++ t'.invocations), rfl,
    Cast.plays_ofInvocations hseen fun _ => List.mem_append_left _,
    Cast.plays_ofInvocations hseen fun _ => List.mem_append_right _⟩

/-- Handlers are no part of the lifecycle. -/
theorem Lifecycle.OnlyHandling.invocations {hs : Trace ε} (only : OnlyHandling hs) :
    hs.invocations = [] := by
  refine List.filterMap_eq_nil_iff.2 fun o ho => ?_
  obtain ⟨id, event, outcome, rfl⟩ := only o ho
  rfl

theorem Registry.invocations_dispatch {ρ ω κ : Type} [EventTag κ] [Tagged ε κ]
    (r : Registry κ (Handler ρ ω ε)) (ctx : ρ) (event : ε) (w : ω) :
    (r.dispatch ctx event w).trace.invocations = [] := by
  rw [← Trace.invocations_calls]
  exact (Lifecycle.onlyHandling_dispatch r ctx event w).invocations

/-! ### Preparation -/

namespace PreparationManager

variable {δ σ α : Type}

/-- What a call asks of the lifecycle, if anything. -/
def Call.hook? : Call δ σ α → Option Hook
  | .setUp _ => some .setUp
  | .tearDown => some .tearDown
  | _ => none

def Reply.lifecycle? : Reply α → Option LifecycleReply
  | .setUp r => some (.setUp r)
  | .tornDown r => some (.tornDown r)
  | _ => none

/-- The course that the lifecycle of a run takes. -/
def course (r : Session δ σ α) : Course := Run.course host Reply.lifecycle? r

variable {m : PreparationManager δ σ}

theorem invocations_fire (attached : m.Attached) (stage : Stage) (w : σ) :
    (m.fire stage w).trace.invocations = [] := by
  rcases fire_cases attached stage w with ⟨-, hd⟩ | ⟨-, -, hd⟩ | ⟨-, -, dag, -, -, -, -, hcalls, -⟩
  · rw [hd]
    rfl
  · rw [hd]
    rfl
  · rw [← Trace.invocations_calls, hcalls, Trace.invocations_calls, Registry.invocations_dispatch]

/-- A phase calls handlers and the engine's step, but no setup and no teardown. -/
theorem invocations_around (attached : m.Attached) (phase : Phase)
    (step : Workspace δ σ → Completion (Workspace δ σ) α) (w : σ) :
    (m.around phase step w).trace.invocations = [] := by
  let P : PreparationManager δ σ → Trace Stage → Prop := fun m' t => m'.Attached ∧ t.invocations = []
  suffices h : P (m.around phase step w).manager ([] ++ (m.around phase step w).trace) from h.2
  refine around_induction (P := P) ?_ ?_ m [] phase step w ⟨attached, rfl⟩
  · rintro m' t stage w ⟨hatt, ht⟩
    refine ⟨attached_fire hatt stage w, ?_⟩
    rw [Trace.invocations_append, ht, invocations_fire hatt, List.append_nil]
  · rintro m' t dag notices ⟨-, ht⟩
    refine ⟨fun _ => ⟨dag, rfl⟩, ?_⟩
    simp [ht, Trace.invocations_cons, Occurrence.invocation?]

variable {c : Cast} {n : Nat} {t : Trace Stage}

theorem setUp_course (sound : Sound n m t) (cast : Host.roles m.host.members = c.members)
    (untouched : m.state = .notSetUp → m.host.registry.entries.toList = []) (dag : δ) (w : σ)
    (plays : c.Plays (m.setUp dag w).trace) :
    let done := m.setUp dag w
    LifecycleStep.of (.setUp done.answer) done.manager.host done.trace
      = c.step .setUp m.host.state m.host.registry.pluginCount := by
  obtain ⟨hans, hhost, htrace, -⟩ := setUp_host m dag w
  dsimp only
  rw [hans, hhost, htrace]
  exact Host.setUp_course m.configuration ⟨dag, w⟩ .preparation sound.positioned cast untouched
    (htrace ▸ plays)

theorem tearDown_course (sound : Sound n m t) (cast : Host.roles m.host.members = c.members) (w : σ)
    (plays : c.Plays (m.tearDown w).trace) :
    let done := m.tearDown w
    LifecycleStep.of (.tornDown done.answer) done.manager.host done.trace
      = c.step .tearDown m.host.state m.host.registry.pluginCount := by
  dsimp only
  rcases (tearDown_cases sound.attached w).2 with
    ⟨dag, -, hans, hhost, htrace⟩ | ⟨hs, hans, hhost, htrace⟩ | ⟨hs, hd⟩
  · rw [hans, hhost, htrace]
    exact Host.tearDown_course m.configuration ⟨dag, w⟩ cast (htrace ▸ plays)
  · have hs' : m.host.state = .notSetUp := hs
    rw [hans, hhost, htrace, hs']
    rfl
  · have hs' : m.host.state = .tornDown := hs
    rw [hd, LifecycleStep.of, state, hs']
    rfl

/-- Every call does what the course of the plugins says. -/
theorem directs_perform (sound : Sound n m t) (cast : Host.roles m.host.members = c.members)
    (untouched : m.state = .notSetUp → m.host.registry.entries.toList = []) (w : σ) (call : Call δ σ α)
    (plays : c.Plays (m.perform w call).trace) :
    c.Directs host Reply.lifecycle? m (m.perform w call) call.hook? := by
  cases call with
  | setUp dag => exact congrArg some (setUp_course sound cast untouched dag w plays)
  | fire stage =>
    exact ⟨rfl, host_fire sound.attached stage w, invocations_fire sound.attached stage w⟩
  | around phase step =>
    exact ⟨rfl, host_around sound.attached phase step w, invocations_around sound.attached phase step w⟩
  | tearDown => exact congrArg some (tearDown_course sound cast w plays)
  | meanwhile dag own => exact ⟨rfl, rfl, rfl⟩

/-- A run takes the course of its plugins, whatever else is called in between. -/
theorem course_run (plugins : List (PreparationPlugin δ σ)) (configuration : Configuration) (w : σ)
    (calls : List (Call δ σ α)) (cast : c.names = plugins.map (·.name))
    (plays : c.Plays (run plugins configuration w calls).trace) :
    let r := run plugins configuration w calls
    course r = c.course (calls.filterMap Call.hook?) ∧
      r.trace.invocations = (course r).steps.flatMap (·.invocations) := by
  have fresh : (host (ofPlugins plugins configuration)).state = .notSetUp ∧
      (host (ofPlugins plugins configuration)).registry.pluginCount = 0 := ⟨rfl, rfl⟩
  have directed : ∀ (before : List (Call δ σ α)) (call : Call δ σ α),
      let r := run plugins configuration w before
      c.Plays (r.manager.perform r.world call).trace →
        c.Directs host Reply.lifecycle? r.manager (r.manager.perform r.world call) call.hook? := by
    intro before call r hplays
    obtain ⟨hmembers, huntouched⟩ := untouched_run plugins configuration w before
    have roles : Host.roles r.manager.host.members = c.members :=
      (congrArg Host.roles hmembers).trans (Host.roles_ofPlugins cast)
    exact directs_perform (sound_run plugins configuration w before).1 roles
      (fun hs => (huntouched hs).1) r.world call hplays
  exact Run.course_ofCalls fresh directed calls plays

end PreparationManager

/-! ### Execution -/

namespace ExecutionManager

variable {δ σ : Type}

/-- What a call asks of the lifecycle, if anything. -/
def Call.hook? : Call δ σ → Option Hook
  | .setUp => some .setUp
  | .tearDown => some .tearDown
  | _ => none

def Reply.lifecycle? : Reply → Option LifecycleReply
  | .setUp r => some (.setUp r)
  | .tornDown r => some (.tornDown r)
  | _ => none

/-- The course that the lifecycle of a run takes. -/
def course (r : Session δ σ) : Course := Run.course host Reply.lifecycle? r

variable {m : ExecutionManager δ σ} {c : Cast} {n : Nat}

/-- An event is none of the lifecycle's business. -/
theorem event_aside {call : Call δ σ} {event : ExecutionEvent} (h : call.event? = some event) (w : σ) :
    (m.perform w call).manager.host = m.host ∧ (m.perform w call).trace.invocations = [] := by
  obtain ⟨hman, -, htrace⟩ := perform_event h m w
  rw [hman, htrace]
  rcases dispatch_cases m event w with ⟨-, hd⟩ | ⟨-, notice, hd⟩
  · rw [hd]
    exact ⟨host_noting m event, Registry.invocations_dispatch ..⟩
  · rw [hd]
    exact ⟨rfl, rfl⟩

/-- Every call does what the course of the plugins says. -/
theorem directs_perform (hn : m.host.Positioned n) (cast : Host.roles m.host.members = c.members)
    (untouched : m.state = .notSetUp → m.host.registry.entries.toList = []) (w : σ) (call : Call δ σ)
    (plays : c.Plays (m.perform w call).trace) :
    c.Directs host Reply.lifecycle? m (m.perform w call) call.hook? := by
  cases call with
  | setUp =>
    exact congrArg some (Host.setUp_course m.environment w .execution hn cast untouched plays)
  | tearDown => exact congrArg some (Host.tearDown_course m.environment w cast plays)
  | meanwhile => exact ⟨rfl, rfl, rfl⟩
  | _ => exact ⟨rfl, event_aside rfl w⟩

/-- A run takes the course of its plugins, whatever else is called in between. -/
theorem course_run (plugins : List (ExecutionPlugin δ σ)) (environment : Environment δ) (w : σ)
    (calls : List (Call δ σ)) (cast : c.names = plugins.map (·.name))
    (plays : c.Plays (run plugins environment w calls).trace) :
    let r := run plugins environment w calls
    course r = c.course (calls.filterMap Call.hook?) ∧
      r.trace.invocations = (course r).steps.flatMap (·.invocations) := by
  have fresh : (host (ofPlugins plugins environment)).state = .notSetUp ∧
      (host (ofPlugins plugins environment)).registry.pluginCount = 0 := ⟨rfl, rfl⟩
  have directed : ∀ (before : List (Call δ σ)) (call : Call δ σ),
      let r := run plugins environment w before
      c.Plays (r.manager.perform r.world call).trace →
        c.Directs host Reply.lifecycle? r.manager (r.manager.perform r.world call) call.hook? := by
    intro before call r hplays
    obtain ⟨hmembers, huntouched⟩ := untouched_run plugins environment w before
    have roles : Host.roles r.manager.host.members = c.members :=
      (congrArg Host.roles hmembers).trans (Host.roles_ofPlugins cast)
    exact directs_perform (sound_run plugins environment w before).1.positioned roles
      (fun hs => (huntouched hs).1) r.world call hplays
  exact Run.course_ofCalls fresh directed calls plays

end ExecutionManager

/-! ### Both -/

/-- Over pairs of plugins that have the same name and end alike, both managers answer corresponding
    calls of their lifecycles alike, call the same setups and teardowns in the same order, and stand at
    the same place, whatever else is called of either. -/
theorem lifecycles_agree {δ σ α δ' σ' : Type}
    (pairs : List (PreparationPlugin δ σ × ExecutionPlugin δ' σ'))
    (same_names : ∀ p ∈ pairs, p.1.name = p.2.name) (configuration : Configuration)
    (environment : Environment δ') (w : σ) (w' : σ') (calls : List (PreparationManager.Call δ σ α))
    (calls' : List (ExecutionManager.Call δ' σ'))
    (corresponding : calls.filterMap (·.hook?) = calls'.filterMap (·.hook?)) :
    let r := PreparationManager.run (pairs.map (·.1)) configuration w calls
    let r' := ExecutionManager.run (pairs.map (·.2)) environment w' calls'
    r.trace.EndAlike r'.trace →
    PreparationManager.course r = ExecutionManager.course r' ∧
      r.trace.invocations = r'.trace.invocations := by
  intro r r' alike
  have once := (PreparationManager.sound_run (pairs.map (·.1)) configuration w calls).1.history.safe
  have once' := (ExecutionManager.sound_run (pairs.map (·.2)) environment w' calls').1.history.safe
  have names : (pairs.map (·.1)).map (·.name) = (pairs.map (·.2)).map (·.name) := by
    rw [List.map_map, List.map_map]
    exact List.map_congr_left same_names
  obtain ⟨c, cast, hplays, hplays'⟩ := exists_cast ((pairs.map (·.1)).map (·.name))
    (Trace.endAlike_self (Lifecycle.safe_of_calls once).calledFor_nodup)
    (Trace.endAlike_self (Lifecycle.safe_of_calls once').calledFor_nodup) alike
  obtain ⟨hcourse, hinv⟩ := PreparationManager.course_run _ configuration w calls cast hplays
  obtain ⟨hcourse', hinv'⟩ :=
    ExecutionManager.course_run _ environment w' calls' (cast.trans names) hplays'
  have hsame : PreparationManager.course r = ExecutionManager.course r' := by
    rw [hcourse, hcourse', corresponding]
  exact ⟨hsame, by rw [hinv, hinv', hsame]⟩

/-- A pair of plugins that end as told, one that wants the first stage and one that wants commits. -/
def scriptedPair (name : String) (setup teardown : Outcome Unit) :
    PreparationPlugin Unit Unit × ExecutionPlugin Unit Unit :=
  ({ name := name
     setup := fun _ _ w => ⟨[⟨.prePopulate, fun _ _ w => ⟨.ok (), w, []⟩⟩], ⟨setup, w, []⟩⟩
     teardown := fun _ w => ⟨teardown, w, []⟩ },
    scripted name setup (.ok ()) teardown)

/-- The second of three pairs panics, and the first fails when it is torn down again: both managers tell
    so and refuse what comes later, though one is called for stages and the other for commits. -/
theorem lifecycles_agree_panic :
    let pairs := [scriptedPair "first" (.ok ()) (.failed ⟨"stuck", []⟩),
      scriptedPair "second" (.panicked (.text "boom")) (.ok ()), scriptedPair "third" (.ok ()) (.ok ())]
    let r := PreparationManager.run (pairs.map (·.1)) .empty () [.fire .prePopulate, .setUp (),
      .around .populate fun w => ⟨.ok (), w, []⟩, .setUp (), .tearDown]
    let r' := ExecutionManager.run (pairs.map (·.2)) (.ofLaunch () .empty) () [.setUp, .commit ⟨3⟩, .setUp,
      .tearDown, .commit ⟨4⟩]
    PreparationManager.course r = ExecutionManager.course r' ∧
      r.trace.invocations = r'.trace.invocations ∧ (PreparationManager.course r).pluginCount = 2 ∧
      (PreparationManager.course r).steps.map (·.reply) = [
        .setUp (.error (.setup "second" ⟨"panicked: boom", []⟩)),
        .setUp (.error (.invalidState .setUp "torn down")),
        .tornDown (.error (.invalidState .tearDown "torn down"))] := by
  intro pairs r r'
  have alike : r.trace.EndAlike r'.trace := by
    rw [Trace.EndAlike]
    decide +kernel
  obtain ⟨hcourse, hinv⟩ := lifecycles_agree pairs (by simp [pairs, scriptedPair, scripted]) .empty
    (.ofLaunch () .empty) () () _ _ rfl alike
  exact ⟨hcourse, hinv, by decide +kernel⟩

end PluginFabric
