import PluginFabric.Proofs.Lifecycle.Refusal
import PluginFabric.Proofs.Lifecycle.Representation

/-! Every contained failure is recorded once.

    A handler or a teardown that does not succeed calls for one record, which says whose it is and how
    it ended (`Occurrence.due?`). The records that a run writes are those that are due, in the order of
    the calls. The same failures are told in the reports of dispatches and, by name, in the answers to
    teardowns; those of a rollback are told nowhere else. -/

namespace PluginFabric

/-- The name that failures of a plugin are reported under: that of the plugin at this position. -/
def nameIn {ρ ω ε κ : Type} (plugins : List (Plugin ρ ω ε κ)) (id : PluginId) : String :=
  (plugins[id]?.map (·.name)).getD id.label

/-- Nothing is said on the target of contained failures. -/
theorem Notice.target_ne (notice : Notice) : notice.logRecord.target ≠ FailureRecord.target := by
  have managers : ∀ domain, managerTarget domain ≠ FailureRecord.target := by
    rintro (_ | _) <;> decide
  cases notice with
  | pluginReady domain | rollingBack domain | pluginsReady domain => exact managers domain
  | stageDispatched => exact managers .preparation
  | eventDropped | staleCommit => exact managers .execution
  | handlerReplaced | dispatching =>
    exact (by decide : registryTarget ≠ FailureRecord.target)
  | tornDown | teardownFinished => exact (by decide : lifecycleTarget ≠ FailureRecord.target)
  | pluginResolved | pluginsResolved =>
    exact (by decide : resolverTarget ≠ FailureRecord.target)
  | windowWidthIgnored | firstWindowIgnored =>
    exact (by decide : environmentTarget ≠ FailureRecord.target)
  | valueDropped | subscriberLagged => exact (by decide : handoffTarget ≠ FailureRecord.target)
  | configMissing | configLoaded => exact (by decide : configFileTarget ≠ FailureRecord.target)
  | configWarning | configError => exact (by decide : configTarget ≠ FailureRecord.target)

/-- The records of the failures in a report. -/
def DispatchReport.records (r : DispatchReport) : List FailureRecord := r.failures.map (·.record)

section Readings

variable {ε κ : Type} [EventTag κ] [Tagged ε κ] (name : PluginId → String)

/-- The record that is due here: that of a handler or a teardown that does not succeed. -/
def Occurrence.due? : Occurrence ε → Option FailureRecord
  | handling id event outcome =>
    outcome.failure?.map fun f => .dispatch (name id) id (tagName (tag event)) f.1 f.2
  | tearingDown id outcome => outcome.failure?.map fun f => .teardown (name id) id f.1 f.2
  | _ => none

namespace Trace

/-- The failures that are contained. -/
def failures (t : Trace ε) : List FailureRecord := t.filterMap Occurrence.failure?

/-- The records that are due. -/
def due (t : Trace ε) : List FailureRecord := t.filterMap (Occurrence.due? name)

/-- The records that are due of teardowns. -/
def dueOfTearDowns (t : Trace ε) : List FailureRecord := (t.due name).filter (·.phase = .teardown)

/-- The log records on the target of contained failures. -/
def emitted (instant : Timestamp) (t : Trace ε) : List LogRecord :=
  (t.logRecords instant).filter (·.target = FailureRecord.target)

variable (s t : Trace ε) (o : Occurrence ε) (notices : List Notice)

omit [EventTag κ] [Tagged ε κ] in
@[simp] theorem failures_append : failures (s ++ t) = failures s ++ failures t :=
  List.filterMap_append ..

@[simp] theorem due_append : due name (s ++ t) = due name s ++ due name t := List.filterMap_append ..

omit [EventTag κ] [Tagged ε κ] in
@[simp] theorem failures_nil : failures ([] : Trace ε) = [] := rfl

@[simp] theorem due_nil : due name ([] : Trace ε) = [] := rfl

omit [EventTag κ] [Tagged ε κ] in
theorem failures_cons : failures (o :: t) = o.failure?.toList ++ failures t := by cases o <;> rfl

theorem due_cons : due name (o :: t) = (o.due? name).toList ++ due name t := by
  rw [due, List.filterMap_cons]
  cases o.due? name <;> rfl

omit [EventTag κ] [Tagged ε κ] in
@[simp] theorem failures_ofNotices : failures (ofNotices notices : Trace ε) = [] := by
  simp [failures, ofNotices, Occurrence.failure?]

@[simp] theorem due_ofNotices : due name (ofNotices notices : Trace ε) = [] := by
  simp [due, ofNotices, Occurrence.due?]

omit [EventTag κ] [Tagged ε κ] in
/-- What is said is no contained failure. -/
theorem failures_deeds : failures (deeds t) = failures t := by
  simp only [failures, deeds, List.filterMap_filter]
  congr 1
  funext o
  cases o <;> rfl

/-- What is said goes to other targets, so the records on this one are those of the failures. -/
theorem emitted_eq (instant : Timestamp) : t.emitted instant = t.failures.map (·.logRecord instant) := by
  rw [emitted, logRecords, failures, List.filter_filterMap, List.map_filterMap]
  congr 1
  funext o
  cases o with
  | said notice => simp [Occurrence.logRecord?, Occurrence.failure?, notice.target_ne]
  | contained record => rfl
  | _ => rfl

end Trace

/-- What one call did about failures: each is recorded once, in order; the failed handlers are those in
    the reports of its dispatches, and the failed teardowns, by position, are those it answers. -/
structure Contained (reports : List DispatchReport) (answered? : Option (List String)) (t : Trace ε) :
    Prop where
  due : t.failures = t.due name
  recorded : t.failures = reports.flatMap (·.records) ++ t.dueOfTearDowns name
  answered : ∀ names ∈ answered?, names = (t.dueOfTearDowns name).map (·.plugin)
  ascending : (t.dueOfTearDowns name).Pairwise fun a b => a.pluginId < b.pluginId

variable {name} {s t : Trace ε}

theorem DispatchReport.phase_of_mem_records {r : DispatchReport} {f : FailureRecord}
    (hf : f ∈ r.records) : f.phase = .dispatch := by
  obtain ⟨_, -, rfl⟩ := List.mem_map.1 hf
  rfl

/-- If all failures are those of dispatches, no teardown failed. -/
theorem Contained.of_reports {reports : List DispatchReport} (due : t.failures = t.due name)
    (recorded : t.failures = reports.flatMap (·.records)) : Contained name reports none t := by
  have hnone : t.dueOfTearDowns name = [] := by
    refine List.filter_eq_nil_iff.2 fun f hf => ?_
    rw [← due, recorded] at hf
    obtain ⟨r, -, hf⟩ := List.mem_flatMap.1 hf
    simp [DispatchReport.phase_of_mem_records hf]
  refine ⟨due, ?_, fun names hn => (by cases hn), ?_⟩
  · rw [hnone, List.append_nil, recorded]
  · rw [hnone]
    exact .nil

/-- If all failures are those of teardowns, there is nothing to report. -/
theorem Contained.of_tearDowns {answered? : Option (List String)} (due : t.failures = t.due name)
    (phase : ∀ f ∈ t.failures, f.phase = .teardown)
    (answered : ∀ names ∈ answered?, names = t.failures.map (·.plugin))
    (ascending : (t.failures.map (·.pluginId)).Pairwise (· < ·)) : Contained name [] answered? t := by
  have hall : t.dueOfTearDowns name = t.failures := by
    rw [Trace.dueOfTearDowns, ← due]
    exact List.filter_eq_self.2 fun f hf => by simp [phase f hf]
  refine ⟨due, hall.symm, ?_, ?_⟩ <;> rw [hall]
  · exact answered
  · exact List.pairwise_map.1 ascending

/-- Where nothing fails, nothing is recorded. -/
theorem Contained.of_nil {answered? : Option (List String)} (failures : t.failures = [])
    (due : t.due name = []) (answered : ∀ names ∈ answered?, names = []) :
    Contained name [] answered? t := by
  refine .of_tearDowns (by rw [failures, due]) (by simp [failures]) ?_ (by simp [failures])
  rw [failures]
  exact answered

/-- What happens before without a failure makes no difference. -/
theorem Contained.after {reports : List DispatchReport} {answered? : Option (List String)}
    (h : Contained name reports answered? t) (failures : s.failures = []) (due : s.due name = []) :
    Contained name reports answered? (s ++ t) := by
  have htears : (s ++ t).dueOfTearDowns name = t.dueOfTearDowns name := by
    simp [Trace.dueOfTearDowns, due]
  refine ⟨?_, ?_, ?_, ?_⟩
  · simp [failures, due, h.due]
  · simp [failures, htears, ← h.recorded]
  · exact htears ▸ h.answered
  · exact htears ▸ h.ascending

end Readings

/-! ### Passes -/

section Passes

variable {ρ ω ε κ : Type} [EventTag κ] [Tagged ε κ] {name : PluginId → String}

/-- A delivery records the failures that it reports. -/
theorem Registry.deliver_records (ctx : ρ) (event : ε)
    {entries : List (PluginId × RegistryEntry κ (Handler ρ ω ε))}
    (names : ∀ p ∈ entries, p.2.name = name p.1) (w : ω) :
    let done := Registry.deliver ctx event entries w
    done.trace.failures = done.trace.due name ∧ done.trace.failures = done.report.records := by
  induction entries generalizing w with
  | nil => exact ⟨rfl, rfl⟩
  | cons p rest ih =>
    obtain ⟨id, entry⟩ := p
    have hname : entry.name = name id := names _ List.mem_cons_self
    have hrest := fun w => ih (fun q hq => names q (List.mem_cons_of_mem _ hq)) w
    simp only [Registry.deliver]
    cases hget : entry.handlers.get? (tag event) with
    | none => exact hrest w
    | some handler =>
      obtain ⟨hdue, hrecords⟩ := hrest (handler ctx event w).world
      rcases hfail : (handler ctx event w).outcome.failure? with _ | ⟨error, panicked⟩ <;>
        simp [Trace.failures_cons, Trace.due_cons, Occurrence.failure?, Occurrence.due?, hfail,
          DispatchReport.records, HandlerFailure.record, hname, ← hdue, hrecords]

/-- A dispatch records the failures that it reports. -/
theorem Registry.dispatch_records (r : Registry κ (Handler ρ ω ε))
    (names : ∀ p ∈ r.entries.toList, p.2.name = name p.1) (ctx : ρ) (event : ε) (w : ω) :
    let done := r.dispatch ctx event w
    done.trace.failures = done.trace.due name ∧ done.trace.failures = done.report.records := by
  simpa [dispatch, Trace.failures_cons, Trace.due_cons, Occurrence.failure?, Occurrence.due?] using
    deliver_records ctx event names w

namespace Host

/-- A pass of teardowns records the failures whose names it collects. -/
theorem tearDownEach_records (ctx : ρ) {ms : List (PluginId × Plugin ρ ω ε κ)}
    (names : ∀ m ∈ ms, m.2.name = name m.1) (w : ω) :
    let pass := tearDownEach ctx ms w
    pass.trace.failures = pass.trace.due name ∧ pass.failed = pass.trace.failures.map (·.plugin) ∧
      (∀ f ∈ pass.trace.failures, f.phase = .teardown) ∧
      (pass.trace.failures.map (·.pluginId)).Sublist (ms.map (·.1)) := by
  induction ms generalizing w with
  | nil => exact ⟨rfl, rfl, fun f hf => (by cases hf), .slnil⟩
  | cons m rest ih =>
    obtain ⟨id, plugin⟩ := m
    have hname : plugin.name = name id := names _ List.mem_cons_self
    obtain ⟨hdue, hfailed, hphase, hids⟩ :=
      ih (fun q hq => names q (List.mem_cons_of_mem _ hq)) (plugin.teardown ctx w).world
    simp only [tearDownEach]
    rcases hfail : (plugin.teardown ctx w).outcome.failure? with _ | ⟨error, panicked⟩
    · refine ⟨?_, ?_, ?_, ?_⟩
      · simp [Trace.failures_cons, Trace.due_cons, Occurrence.failure?, Occurrence.due?, hfail, hdue]
      · simpa [Trace.failures_cons, Occurrence.failure?] using hfailed
      · simpa [Trace.failures_cons, Occurrence.failure?] using hphase
      · simpa [Trace.failures_cons, Occurrence.failure?] using hids.cons id
    · refine ⟨?_, ?_, ?_, ?_⟩
      · simp [Trace.failures_cons, Trace.due_cons, Occurrence.failure?, Occurrence.due?, hfail, hdue,
          hname]
      · simpa [Trace.failures_cons, Occurrence.failure?, FailureRecord.teardown] using hfailed
      · simpa [Trace.failures_cons, Occurrence.failure?, FailureRecord.teardown] using hphase
      · simpa [Trace.failures_cons, Occurrence.failure?, FailureRecord.teardown] using
          hids.cons_cons id

/-- Tearing plugins down records the failures whose names it tells. -/
theorem contained_tearDownAll (ctx : ρ) {ms : List (PluginId × Plugin ρ ω ε κ)}
    (names : ∀ m ∈ ms, m.2.name = name m.1) (ascending : (ms.map (·.1)).Pairwise (· < ·)) (w : ω) :
    Contained name [] (some (tearDownAll ctx ms w).failed) (tearDownAll ctx ms w).trace := by
  obtain ⟨hdue, hfailed, hphase, hids⟩ := tearDownEach_records ctx names w
  have hfailures : (tearDownAll ctx ms w).trace.failures = (tearDownEach ctx ms w).trace.failures := by
    simp [tearDownAll, Trace.failures_cons, Occurrence.failure?]
  have hdue' : (tearDownAll ctx ms w).trace.due name = (tearDownEach ctx ms w).trace.due name := by
    simp [tearDownAll, Trace.due_cons, Occurrence.due?]
  refine .of_tearDowns ?_ ?_ ?_ ?_
  · rw [hfailures, hdue', hdue]
  · rwa [hfailures]
  · rintro _ ⟨⟩
    rw [hfailures]
    exact hfailed
  · rw [hfailures]
    exact ascending.sublist hids

/-- Setups that fail are not contained, and no record is due of them. -/
theorem setUpEach_records (name : PluginId → String) (domain : Domain) (ctx : ρ) (ms : List (PluginId × Plugin ρ ω ε κ))
    (r : Registry κ (Handler ρ ω ε)) (w : ω) :
    let pass := setUpEach domain ctx ms r w
    pass.trace.failures = [] ∧ pass.trace.due name = [] := by
  induction ms generalizing r w with
  | nil => exact ⟨rfl, rfl⟩
  | cons m rest ih =>
    obtain ⟨id, plugin⟩ := m
    simp only [setUpEach]
    rcases hout : (plugin.setup ctx id w).completion.outcome.toExcept with cause | ⟨⟩
    · simp [Trace.failures_cons, Trace.due_cons, Occurrence.failure?, Occurrence.due?]
    · simp [Trace.failures_cons, Trace.due_cons, Occurrence.failure?, Occurrence.due?, ih]

/-! ### The host -/

section Calls

variable {plugins : List (Plugin ρ ω ε κ)} {h : Host ρ ω ε κ} (domain : Domain) (ctx : ρ) (w : ω)

omit [Tagged ε κ] in
theorem name_of_mem_members (members : h.members = (ofPlugins plugins).members)
    {m : PluginId × Plugin ρ ω ε κ} (hm : m ∈ h.members) : m.2.name = nameIn plugins m.1 := by
  rw [members, ofPlugins] at hm
  obtain ⟨p, hp, rfl⟩ := List.mem_map.1 hm
  simp [nameIn, List.mem_zipIdx_iff_getElem?.1 hp]

omit [Tagged ε κ] in
/-- Handlers are known to the registry by the names of their plugins. -/
theorem Registered.name_of_mem_entries {roster : List (Enrolment ρ ω ε κ)} {t : Trace ε}
    (hreg : h.Registered plugins roster t) :
    ∀ p ∈ h.registry.entries.toList, p.2.name = nameIn plugins p.1 := by
  intro p hp
  rw [hreg.entries] at hp
  obtain ⟨e, he, rfl⟩ := List.mem_map.1 hp
  obtain ⟨plugin, _, _, hplugin, heq⟩ := hreg.stems e he
  have hname : e.name = plugin.name := congrArg Enrolment.name heq
  simp [nameIn, Enrolment.entry, hplugin, hname]

/-- A teardown answers those whose failures it records. -/
theorem contained_tearDown (members : h.members = (ofPlugins plugins).members) :
    let done := h.tearDown ctx w
    Contained (nameIn plugins) [] done.answer.toOption done.trace := by
  have hn : h.Positioned plugins.length := (positioned_ofPlugins plugins).of_members_eq members
  cases hs : h.state with
  | setUp =>
    have hids : (h.members.map (·.1)).Pairwise (· < ·) := hn ▸ List.pairwise_lt_range
    simp only [tearDown, hs]
    exact contained_tearDownAll ctx (fun m hm => name_of_mem_members members hm) hids w
  | notSetUp =>
    simp only [tearDown, hs]
    exact .of_nil rfl rfl (by simp [Except.toOption])
  | tornDown =>
    simp only [tearDown, hs]
    exact .of_nil rfl rfl (by simp [Except.toOption])

/-- A setup records the failures of its rollback and no others. -/
theorem contained_setUp (members : h.members = (ofPlugins plugins).members) :
    Contained (nameIn plugins) [] none (h.setUp domain ctx w).trace := by
  have hn : h.Positioned plugins.length := (positioned_ofPlugins plugins).of_members_eq members
  obtain ⟨hnone, hdue⟩ := setUpEach_records (nameIn plugins) domain ctx h.members h.registry w
  by_cases hs : h.state = .notSetUp
  · rcases setUpEach_cases domain ctx h.members h.registry w with
      ⟨hfail, -⟩ | ⟨m, rest, _, cause, hsplit, -, hfail, -⟩
    · simp only [setUp, require, hs, hfail]
      refine .of_nil ?_ ?_ (by simp)
      · simp [hnone, Trace.failures_cons, Occurrence.failure?]
      · simp [hdue, Trace.due_cons, Occurrence.due?]
    · -- those that are torn down again stand before the one that failed
      have hready : ∀ q ∈ (setUpEach domain ctx h.members h.registry w).ready, q ∈ h.members :=
        fun q hq => hsplit ▸ List.mem_append_left _ hq
      have hids : ((setUpEach domain ctx h.members h.registry w).ready.map (·.1)).Pairwise (· < ·) := by
        have hall : (h.members.map (·.1)).Pairwise (· < ·) := hn ▸ List.pairwise_lt_range
        rw [hsplit, List.map_append] at hall
        exact (List.pairwise_append.1 hall).1
      have hundo := contained_tearDownAll ctx (fun q hq => name_of_mem_members members (hready q hq))
        hids (setUpEach domain ctx h.members h.registry w).world
      simp only [setUp, require, hs, hfail]
      refine Contained.after ?_ hnone hdue
      exact Contained.after (s := [.said _]) { hundo with answered := by simp } rfl rfl
  · simp only [setUp, require, hs]
    exact .of_nil rfl rfl (by simp)

end Calls

end Host

end Passes

/-! ### Preparation -/

namespace PreparationManager

variable {δ σ α : Type} {plugins : List (PreparationPlugin δ σ)} {m : PreparationManager δ σ}

/-- The names that a teardown answers. -/
def Reply.names? : Reply α → Option (List String)
  | .tornDown r => r.toOption
  | _ => none

/-- The reports of the stages that a phase fires. -/
def reportsAround (m : PreparationManager δ σ) (phase : Phase)
    (step : Workspace δ σ → Completion (Workspace δ σ) α) (w : σ) : List DispatchReport :=
  let first := m.fire phase.pre w
  match first.answer, first.manager.dag with
  | .ok report, some dag =>
    let ran := step ⟨dag, first.world⟩
    let second := (first.manager.withDag ran.world.dag).fire phase.post ran.world.own
    report :: if ran.outcome.isOk then second.answer.toOption.toList else []
  | answer, _ => answer.toOption.toList

/-- The reports of the dispatches that a call accepted. -/
def reports (mo : Moment (PreparationManager δ σ) σ Stage (Call δ σ α) (Reply α)) :
    List DispatchReport :=
  match mo.call, mo.left.answer with
  | .around phase step, _ => reportsAround mo.manager phase step mo.world
  | _, .fired r => r.toOption.toList
  | _, _ => []

section Calls

variable {roster : List (Enrolled δ σ)} {t : Trace Stage}

/-- A stage records the failures that its report tells. -/
theorem records_fire (attached : m.Attached) (hreg : m.host.Registered plugins roster t) (stage : Stage)
    (w : σ) : let done := m.fire stage w
    done.trace.failures = done.trace.due (nameIn plugins) ∧
      done.trace.failures = done.answer.toOption.toList.flatMap (·.records) := by
  rcases fire_cases attached stage w with ⟨-, hd⟩ | ⟨-, -, hd⟩ | ⟨hs, hnext, dag, hdag, -⟩
  · rw [hd]
    exact ⟨rfl, rfl⟩
  · rw [hd]
    exact ⟨rfl, rfl⟩
  · have hs' : m.host.state = .setUp := hs
    obtain ⟨hdue, hrecords⟩ := m.host.registry.dispatch_records hreg.name_of_mem_entries
      m.configuration stage ⟨dag, w⟩
    constructor
    · simp [fire, Host.require, hs', hnext, deliverStage, hdag, Trace.failures_cons, Trace.due_cons,
        Occurrence.failure?, Occurrence.due?, hdue]
    · simp [fire, Host.require, hs', hnext, deliverStage, hdag, Trace.failures_cons,
        Occurrence.failure?, hrecords, Except.toOption]

/-- A phase records the failures that the reports of its stages tell. -/
theorem contained_around (attached : m.Attached) (hreg : m.host.Registered plugins roster t)
    (phase : Phase) (step : Workspace δ σ → Completion (Workspace δ σ) α) (w : σ) :
    Contained (nameIn plugins) (m.reportsAround phase step w) none (m.around phase step w).trace := by
  obtain ⟨hdue, hrecords⟩ := records_fire attached hreg phase.pre w
  have hstepping : ∀ notices : List Notice,
      Trace.failures (.stepping :: Trace.ofNotices notices : Trace Stage) = [] ∧
      Trace.due (nameIn plugins) (.stepping :: Trace.ofNotices notices : Trace Stage) = [] := by
    simp [Trace.failures_cons, Trace.due_cons, Occurrence.failure?, Occurrence.due?]
  rcases around_cases attached phase step w with ⟨e, he, hd⟩ | ⟨report, dag, hok, hdag, hran⟩
  · have hnone : m.reportsAround phase step w = [] := by
      rw [reportsAround, he]
      rfl
    rw [hnone, hd]
    exact .of_nil rfl rfl (by simp)
  · rw [hok] at hrecords
    rcases hran with ⟨hout, hd⟩ | ⟨hout, ⟨report', hok'⟩, -, hd⟩
    · rw [reportsAround, hok, hdag]
      simp only [hout, hd]
      refine .of_reports ?_ ?_
      · simp [hstepping, hdue]
      · simpa [hstepping, Except.toOption] using hrecords
    · -- the second stage finds the plugins and what they registered as the first one did
      have hreg' : ((m.fire phase.pre w).manager.withDag
          (step ⟨dag, (m.fire phase.pre w).world⟩).world.dag).host.Registered plugins roster t :=
        (host_fire attached phase.pre w).symm ▸ hreg
      obtain ⟨hdue', hrecords'⟩ := records_fire (attached_withDag _ _) hreg' phase.post
        (step ⟨dag, (m.fire phase.pre w).world⟩).world.own
      rw [hok'] at hrecords'
      rw [reportsAround, hok, hdag]
      simp only [hout, hok', hd]
      refine .of_reports ?_ ?_
      · rw [Trace.failures_append, Trace.failures_append, Trace.due_append, Trace.due_append,
          (hstepping _).1, (hstepping _).2, hdue, hdue']
      · rw [Trace.failures_append, Trace.failures_append, (hstepping _).1, hrecords, hrecords']
        simp [Except.toOption]

/-- Every call records what it contains, once. -/
theorem contained_perform (attached : m.Attached) (hreg : m.host.Registered plugins roster t) (w : σ)
    (c : Call δ σ α) :
    let left := m.perform w c
    Contained (nameIn plugins) (reports ⟨c, m, w, left⟩) left.answer.names? left.trace := by
  cases c with
  | setUp dag =>
    obtain ⟨-, -, htrace, -⟩ := setUp_host m dag w
    simp only [perform, Step.trace_map, htrace]
    exact Host.contained_setUp .preparation m.configuration ⟨dag, w⟩ hreg.members
  | fire stage =>
    obtain ⟨hdue, hrecords⟩ := records_fire attached hreg stage w
    exact .of_reports hdue hrecords
  | around phase step => exact contained_around attached hreg phase step w
  | tearDown =>
    rcases (tearDown_cases attached w).2 with
      ⟨dag, -, hans, -, htrace⟩ | ⟨-, hans, -, htrace⟩ | ⟨-, hd⟩
    · have hbelow := Host.contained_tearDown m.configuration ⟨dag, w⟩ hreg.members
      dsimp only at hbelow
      rw [← hans, ← htrace] at hbelow
      exact hbelow
    · simp only [perform, Step.map, htrace, hans]
      exact .of_nil rfl rfl (by simp [Reply.names?, Except.toOption])
    · simp only [perform, Step.map, hd]
      exact .of_nil rfl rfl (by simp [Reply.names?, Except.toOption])
  | meanwhile dag own => exact .of_nil rfl rfl (by simp [perform, Reply.names?])

end Calls

end PreparationManager

/-! ### Execution -/

namespace ExecutionManager

variable {δ σ : Type} {plugins : List (ExecutionPlugin δ σ)} {m : ExecutionManager δ σ}

/-- The names that a teardown answers. -/
def Reply.names? : Reply → Option (List String)
  | .tornDown r => r.toOption
  | _ => none

/-- The reports of the dispatches that a call accepted; an event that was not accepted has an empty
    one. -/
def reports (mo : Moment (ExecutionManager δ σ) σ ExecutionEvent (Call δ σ) Reply) :
    List DispatchReport :=
  match mo.left.answer with
  | .report r => [r]
  | .committed r => r.toList
  | _ => []

section Calls

variable {roster : List (Enrolled δ σ)} {t : Trace ExecutionEvent}

/-- An event records the failures that its report tells. -/
theorem records_dispatch (hreg : m.host.Registered plugins roster t) (event : ExecutionEvent) (w : σ) :
    let done := m.dispatch event w
    done.trace.failures = done.trace.due (nameIn plugins) ∧
      done.trace.failures = done.answer.records := by
  rcases dispatch_cases m event w with ⟨-, hd⟩ | ⟨-, notice, hd⟩
  · rw [hd]
    exact m.host.registry.dispatch_records hreg.name_of_mem_entries m.environment event w
  · rw [hd]
    exact ⟨rfl, rfl⟩

/-- A commit records the failures that its report tells, if it has one. -/
theorem records_commit (hreg : m.host.Registered plugins roster t) (window : WindowId) (w : σ) :
    let done := m.commit window w
    done.trace.failures = done.trace.due (nameIn plugins) ∧
      done.trace.failures = done.answer.toList.flatMap (·.records) := by
  rcases commit_cases m window w with ⟨-, hd⟩ | ⟨-, notice, hd⟩
  · rw [hd]
    simpa using
      m.host.registry.dispatch_records hreg.name_of_mem_entries m.environment (.commit window) w
  · rw [hd]
    exact ⟨rfl, rfl⟩

/-- Every call records what it contains, once. -/
theorem contained_perform (hreg : m.host.Registered plugins roster t) (w : σ) (c : Call δ σ) :
    let left := m.perform w c
    Contained (nameIn plugins) (reports ⟨c, m, w, left⟩) left.answer.names? left.trace := by
  cases c with
  | setUp => exact Host.contained_setUp .execution m.environment w hreg.members
  | tearDown => exact Host.contained_tearDown m.environment w hreg.members
  | meanwhile => exact .of_nil rfl rfl (by simp [perform, Reply.names?])
  | commit window =>
    obtain ⟨hdue, hrecords⟩ := records_commit hreg window w
    exact .of_reports hdue hrecords
  | dispatch event =>
    obtain ⟨hdue, hrecords⟩ := records_dispatch hreg event w
    exact .of_reports hdue (by simpa [reports, perform, Step.map] using hrecords)
  | heartbeat h =>
    obtain ⟨hdue, hrecords⟩ := records_dispatch hreg (.heartbeat h) w
    exact .of_reports hdue (by simpa [reports, perform, heartbeat, Step.map] using hrecords)
  | masterEvent e =>
    obtain ⟨hdue, hrecords⟩ := records_dispatch hreg (.master e) w
    exact .of_reports hdue (by simpa [reports, perform, masterEvent, Step.map] using hrecords)

end Calls

end ExecutionManager

/-! ### Every run -/

/-- What a run did about failures: its log holds a record for each handler and each teardown that did
    not succeed, in the order of the calls, and call by call these are the failures in the reports of
    its dispatches and those of its teardowns. -/
structure Run.Contains {μ ω ε χ α κ : Type} [EventTag κ] [Tagged ε κ] (name : PluginId → String)
    (reports : Moment μ ω ε χ α → List DispatchReport) (names? : α → Option (List String))
    (refusal? : μ → χ → Option α) (r : Run μ ω ε χ α) : Prop where
  emitted : ∀ instant, r.trace.emitted instant = r.trace.failures.map (·.logRecord instant)
  due : r.trace.failures = r.trace.due name
  recorded : r.trace.failures = r.moments.flatMap fun mo =>
    (reports mo).flatMap (·.records) ++ mo.left.trace.dueOfTearDowns name
  /-- A teardown answers the names of those that it recorded. -/
  answered : ∀ mo ∈ r.moments, ∀ names ∈ names? mo.left.answer,
    names = (mo.left.trace.dueOfTearDowns name).map (·.plugin)
  /-- A pass of teardowns records them by position, also one that no answer tells of. -/
  ascending : ∀ mo ∈ r.moments,
    (mo.left.trace.dueOfTearDowns name).Pairwise fun a b => a.pluginId < b.pluginId
  refused : ∀ mo ∈ r.moments, mo.Refused refusal? → mo.left.trace.failures = []

theorem Run.contains_of_moments {μ ω ε χ α κ : Type} [EventTag κ] [Tagged ε κ]
    {name : PluginId → String} {reports : Moment μ ω ε χ α → List DispatchReport}
    {names? : α → Option (List String)} {refusal? : μ → χ → Option α} {isRefusal : α → Bool}
    {r : Run μ ω ε χ α}
    (contained : ∀ mo ∈ r.moments, Contained name (reports mo) (names? mo.left.answer) mo.left.trace)
    (answered : ∀ mo ∈ r.moments, mo.AnsweredFor refusal? isRefusal) :
    r.Contains name reports names? refusal? where
  emitted instant := r.trace.emitted_eq instant
  due := by
    rw [trace, Trace.failures, Trace.due, List.filterMap_flatMap, List.filterMap_flatMap]
    exact List.flatMap_congr fun mo hmo => (contained mo hmo).due
  recorded := by
    rw [trace, Trace.failures, List.filterMap_flatMap]
    exact List.flatMap_congr fun mo hmo => (contained mo hmo).recorded
  answered mo hmo := (contained mo hmo).answered
  ascending mo hmo := (contained mo hmo).ascending
  refused mo hmo hrefused := by
    rw [← Trace.failures_deeds, ((answered mo hmo).idle hrefused).deeds]
    rfl

/-- Over every run of either manager each contained failure is recorded once, in the order of the calls:
    those of handlers as they are reported, and those of teardowns as they are answered or, for a
    rollback, by themselves. -/
theorem failures_recorded (δ σ α : Type) :
    (∀ (plugins : List (PreparationPlugin δ σ)) (configuration : Configuration) (w : σ)
      (calls : List (PreparationManager.Call δ σ α)),
      (PreparationManager.run plugins configuration w calls).Contains (nameIn plugins)
        PreparationManager.reports PreparationManager.Reply.names? PreparationManager.refusal?) ∧
    (∀ (plugins : List (ExecutionPlugin δ σ)) (environment : Environment δ) (w : σ)
      (calls : List (ExecutionManager.Call δ σ)),
      (ExecutionManager.run plugins environment w calls).Contains (nameIn plugins)
        ExecutionManager.reports ExecutionManager.Reply.names? ExecutionManager.refusal?) := by
  constructor
  · intro plugins configuration w calls
    refine Run.contains_of_moments (fun mo hmo => ?_)
      (PreparationManager.answeredFor_run plugins configuration w calls)
    obtain ⟨before, hman, -⟩ := Run.found mo hmo
    have hreg := PreparationManager.registered_run plugins configuration w before
    have hattached := (PreparationManager.sound_run plugins configuration w before).1.attached
    simp only [PreparationManager.run, hman] at hreg hattached
    have hcontained := PreparationManager.contained_perform hattached hreg mo.world mo.call
    dsimp only at hcontained
    rw [← Run.left_eq mo hmo] at hcontained
    exact hcontained
  · intro plugins environment w calls
    refine Run.contains_of_moments (fun mo hmo => ?_)
      (ExecutionManager.answeredFor_run plugins environment w calls)
    obtain ⟨before, hman, -⟩ := Run.found mo hmo
    have hreg := ExecutionManager.registered_run plugins environment w before
    simp only [ExecutionManager.run, hman] at hreg
    have hcontained := ExecutionManager.contained_perform hreg mo.world mo.call
    dsimp only at hcontained
    rw [← Run.left_eq mo hmo] at hcontained
    exact hcontained

/-- A handler fails for a reason behind its error, and a teardown of another plugin of that name panics. -/
example : (ExecutionManager.run [scripted "twin" (.ok ()) (.failed ⟨"full", ["quota"]⟩) (.ok ()),
      scripted "twin" (.ok ()) (.ok ()) (.panicked (.text "boom"))] (.ofLaunch () .empty) ()
      [.setUp, .commit ⟨5⟩, .tearDown]).trace.failures
    = [.dispatch "twin" 0 "COMMIT" "full: quota" false, .teardown "twin" 1 "boom" true] := by
  decide +kernel

end PluginFabric
