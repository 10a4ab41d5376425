import PluginFabric.Proofs.Lifecycle.Rollback

/-! Refused calls are invisible.

    A manager refuses a call that comes too early, too late or out of turn, and a commit that is not
    past the last one. Such a call leaves the manager and the world as they are, and nothing happens
    but that the fabric may say so. A run without some of its refused calls is therefore the same run:
    the other calls find and leave the same, and all that happened happens again (`Run.without`). -/

namespace PluginFabric

variable {μ ω ε χ α : Type}

/-! ### Calls that come to nothing -/

/-- Whether something is only said here. -/
def Occurrence.isNotice : Occurrence ε → Bool
  | said _ => true
  | _ => false

/-- All that happened but what the fabric said. -/
def Trace.deeds (t : Trace ε) : Trace ε := t.filter (!·.isNotice)

@[simp] theorem Trace.deeds_append (s t : Trace ε) : deeds (s ++ t) = deeds s ++ deeds t :=
  List.filter_append ..

/-- A call that comes to nothing. -/
structure Moment.Idle (mo : Moment μ ω ε χ α) : Prop where
  manager : mo.left.manager = mo.manager
  world : mo.left.world = mo.world
  deeds : mo.left.trace.deeds = []

/-- Whether a manager refuses a call, where `refusal?` is its reply if it does. -/
def Moment.Refused (refusal? : μ → χ → Option α) (mo : Moment μ ω ε χ α) : Prop :=
  (refusal? mo.manager mo.call).isSome

/-- A call that gets the reply of a refusal and comes to nothing if it is refused, and otherwise gets
    no reply that tells of one. -/
structure Moment.AnsweredFor (refusal? : μ → χ → Option α) (isRefusal : α → Bool)
    (mo : Moment μ ω ε χ α) : Prop where
  refused : ∀ reply, refusal? mo.manager mo.call = some reply → mo.left.answer = reply ∧ mo.Idle
  told : isRefusal mo.left.answer → mo.Refused refusal?

theorem Moment.AnsweredFor.idle {refusal? : μ → χ → Option α} {isRefusal : α → Bool}
    {mo : Moment μ ω ε χ α} (h : mo.AnsweredFor refusal? isRefusal) (refused : mo.Refused refusal?) :
    mo.Idle := by
  obtain ⟨reply, hreply⟩ := Option.isSome_iff_exists.1 refused
  exact (h.refused reply hreply).2

/-- The second list is the first one without some of its refused calls. -/
inductive Omits (Refused : Moment μ ω ε χ α → Prop) :
    List (Moment μ ω ε χ α) → List (Moment μ ω ε χ α) → Prop
  | nil : Omits Refused [] []
  | keep {ms kept : List (Moment μ ω ε χ α)} (mo : Moment μ ω ε χ α) (h : Omits Refused ms kept) :
    Omits Refused (mo :: ms) (mo :: kept)
  | drop {ms kept : List (Moment μ ω ε χ α)} (mo : Moment μ ω ε χ α) (refused : Refused mo)
    (h : Omits Refused ms kept) : Omits Refused (mo :: ms) kept

/-- All refused calls may be left out. -/
theorem omits_filter {Refused : Moment μ ω ε χ α → Prop} {keeps : Moment μ ω ε χ α → Bool}
    (h : ∀ mo, keeps mo = false → Refused mo) (ms : List (Moment μ ω ε χ α)) :
    Omits Refused ms (ms.filter keeps) := by
  induction ms with
  | nil => exact .nil
  | cons mo ms ih =>
    cases hmo : keeps mo with
    | true =>
      rw [List.filter_cons_of_pos hmo]
      exact .keep mo ih
    | false =>
      rw [List.filter_cons_of_neg (by simp [hmo])]
      exact .drop mo (h mo hmo) ih

/-- The last call is kept or it is a refused one. -/
theorem Omits.concat_cases {Refused : Moment μ ω ε χ α → Prop} {mo : Moment μ ω ε χ α}
    {ms kept : List (Moment μ ω ε χ α)} (h : Omits Refused (ms ++ [mo]) kept) :
    (∃ kept', kept = kept' ++ [mo] ∧ Omits Refused ms kept') ∨ (Refused mo ∧ Omits Refused ms kept) := by
  induction ms generalizing kept with
  | nil =>
    cases h with
    | keep _ h =>
      cases h
      exact .inl ⟨[], rfl, .nil⟩
    | drop _ refused h => exact .inr ⟨refused, h⟩
  | cons first ms ih =>
    cases h with
    | keep _ h =>
      rcases ih h with ⟨kept', rfl, h'⟩ | ⟨refused, h'⟩
      · exact .inl ⟨first :: kept', rfl, .keep first h'⟩
      · exact .inr ⟨refused, .keep first h'⟩
    | drop _ hfirst h =>
      rcases ih h with ⟨kept', rfl, h'⟩ | ⟨refused, h'⟩
      · exact .inl ⟨kept', rfl, .drop first hfirst h'⟩
      · exact .inr ⟨refused, .drop first hfirst h'⟩

namespace Run

variable {perform : μ → ω → χ → Step μ ω ε α}

/-- A run of which these calls are left goes the same way as the whole. -/
structure SameWay (r r' : Run μ ω ε χ α) (kept : List (Moment μ ω ε χ α)) : Prop where
  manager : r'.manager = r.manager
  world : r'.world = r.world
  moments : r'.moments = kept
  deeds : r'.trace.deeds = r.trace.deeds

/-- Every call of a run left what it leaves. -/
theorem left_eq {m : μ} {w : ω} {calls : List χ} :
    ∀ mo ∈ (ofCalls perform m w calls).moments, mo.left = perform mo.manager mo.world mo.call := by
  refine run_induction
    (P := fun r => ∀ mo ∈ r.moments, mo.left = perform mo.manager mo.world mo.call) ?_ ?_ calls
  · exact fun mo hmo => (by cases hmo)
  · intro r c h mo hmo
    rw [moments_advance] at hmo
    rcases List.mem_append.1 hmo with hmo | hmo
    · exact h mo hmo
    · rw [List.mem_singleton.1 hmo]

/-- A run goes the same way without some of the calls that come to nothing. -/
theorem without {Refused : Moment μ ω ε χ α → Prop} {m : μ} {w : ω} {calls : List χ}
    (idle : ∀ mo ∈ (ofCalls perform m w calls).moments, Refused mo → mo.Idle)
    {kept : List (Moment μ ω ε χ α)} (h : Omits Refused (ofCalls perform m w calls).moments kept) :
    SameWay (ofCalls perform m w calls) (ofCalls perform m w (kept.map (·.call))) kept := by
  induction calls using List.reverseRecOn generalizing kept with
  | nil =>
    cases h
    exact ⟨rfl, rfl, rfl, rfl⟩
  | append_singleton calls c ih =>
    rw [ofCalls_concat] at idle h ⊢
    rw [moments_advance] at idle h
    have earlier := fun mo hmo => idle mo (List.mem_append_left _ hmo)
    rcases h.concat_cases with ⟨kept', rfl, h'⟩ | ⟨refused, h'⟩
    · -- the last call finds what it found in the whole run
      obtain ⟨hman, hworld, hmoments, hdeeds⟩ := ih earlier h'
      rw [List.map_append, List.map_singleton, ofCalls_concat]
      refine ⟨?_, ?_, ?_, ?_⟩
      · simp only [manager_advance, hman, hworld]
      · simp only [advance, hman, hworld]
      · rw [moments_advance, hman, hworld, hmoments]
      · rw [trace_advance, trace_advance, Trace.deeds_append, Trace.deeds_append, hman, hworld, hdeeds]
    · obtain ⟨hman, hworld, hmoments, hdeeds⟩ := ih earlier h'
      have hidle := idle _ (List.mem_append_right _ List.mem_cons_self) refused
      refine ⟨hman.trans hidle.manager.symm, hworld.trans hidle.world.symm, hmoments, ?_⟩
      rw [trace_advance, Trace.deeds_append, hidle.deeds, List.append_nil, hdeeds]

end Run

/-! ### Preparation -/

namespace PreparationManager

variable {δ σ : Type} {m : PreparationManager δ σ}

/-- How a stage is refused, if it is. -/
def stageRefusal? (m : PreparationManager δ σ) (stage : Stage) : Option FabricError :=
  if m.state ≠ .setUp then some (.invalidState .fireStage m.state.text)
  else if m.nextStage ≠ some stage then some (.stageOutOfOrder m.nextStage stage)
  else none

/-- The reply to a call that a manager refuses, if it does. -/
def refusal? (m : PreparationManager δ σ) : Call δ σ α → Option (Reply α)
  | .setUp _ =>
    if m.state = .notSetUp then none
    else some (.setUp (.error (.invalidState .setUp m.state.text)))
  | .fire stage => (m.stageRefusal? stage).map fun e => .fired (.error e)
  | .around phase _ => (m.stageRefusal? phase.pre).map fun e => .phase (.refused e)
  | .tearDown =>
    if m.state = .tornDown then some (.tornDown (.error (.invalidState .tearDown m.state.text)))
    else none
  | .meanwhile .. => none

/-- Whether a reply says that a manager is in the wrong state or waits for another stage. -/
def Reply.isRefusal : Reply α → Bool
  | .setUp (.error (.invalidState ..)) | .fired (.error _) | .phase (.refused _)
  | .tornDown (.error _) => true
  | _ => false

theorem fire_of_stageRefusal? {stage : Stage} {e : FabricError} (h : m.stageRefusal? stage = some e)
    (w : σ) : m.fire stage w = ⟨.error e, m, w, []⟩ := by
  rw [stageRefusal?] at h
  split at h
  · rename_i hs
    have hs' : m.host.state ≠ .setUp := hs
    obtain rfl := Option.some.inj h
    simp [fire, Host.require, hs', state]
  · rename_i hs
    have hs' : m.host.state = .setUp := not_not.1 hs
    split at h
    · rename_i hnext
      obtain rfl := Option.some.inj h
      simp [fire, Host.require, hs', hnext]
    · cases h

/-- A refused call is told why, and nothing else comes of it. -/
theorem perform_of_refusal? {c : Call δ σ α} {reply : Reply α} (h : m.refusal? c = some reply) (w : σ) :
    m.perform w c = ⟨reply, m, w, []⟩ := by
  cases c with
  | setUp dag =>
    rw [refusal?] at h
    split at h
    · cases h
    · rename_i hs
      have hs' : m.host.state ≠ .notSetUp := hs
      obtain rfl := Option.some.inj h
      simp [perform, setUp, Host.require, hs', Step.map, state]
  | fire stage =>
    obtain ⟨e, he, rfl⟩ := Option.map_eq_some_iff.1 h
    rw [perform, fire_of_stageRefusal? he]
    rfl
  | around phase step =>
    obtain ⟨e, he, rfl⟩ := Option.map_eq_some_iff.1 h
    rw [perform, around, fire_of_stageRefusal? he]
    rfl
  | tearDown =>
    rw [refusal?] at h
    split at h
    · rename_i hs
      have hs' : m.host.state = .tornDown := hs
      obtain rfl := Option.some.inj h
      obtain ⟨host, configuration, dag, nextStage⟩ := m
      cases dag <;> simp_all [perform, tearDown, Host.tearDown, Step.map, state]
    · cases h
  | meanwhile dag own => cases h

/-- A stage that is not refused is answered. -/
theorem fire_of_stageRefusal?_eq_none (attached : m.Attached) {stage : Stage}
    (h : m.stageRefusal? stage = none) (w : σ) : ∃ report, (m.fire stage w).answer = .ok report := by
  by_cases hs : m.state = .setUp
  · by_cases hnext : m.nextStage = some stage
    · exact ((firesInTurn attached stage w).in_turn hs hnext).1
    · simp [stageRefusal?, hs, hnext] at h
  · simp [stageRefusal?, hs] at h

/-- A call that is not refused gets no reply that says so. -/
theorem not_isRefusal (attached : m.Attached) {c : Call δ σ α} (h : m.refusal? c = none) (w : σ) :
    (m.perform w c).answer.isRefusal = false := by
  cases c with
  | setUp dag =>
    have hans : (m.perform w (.setUp dag : Call δ σ α)).answer
        = .setUp (m.host.setUp .preparation m.configuration ⟨dag, w⟩).answer :=
      congrArg Reply.setUp (setUp_host m dag w).1
    rcases Host.setUp_cases .preparation m.configuration m.host ⟨dag, w⟩ with
      ⟨hs, -⟩ | ⟨-, -, hok, -⟩ | ⟨-, plugin, cause, -, herr, -⟩
    · have hs' : m.state ≠ .notSetUp := hs
      simp [refusal?, hs'] at h
    · rw [hans, hok]
      rfl
    · rw [hans, herr]
      rfl
  | fire stage =>
    obtain ⟨report, hok⟩ :=
      fire_of_stageRefusal?_eq_none attached (Option.map_eq_none_iff.1 h) w
    simp [perform, Step.map, hok, Reply.isRefusal]
  | around phase step =>
    obtain ⟨report, hok⟩ :=
      fire_of_stageRefusal?_eq_none attached (Option.map_eq_none_iff.1 h) w
    obtain ⟨dag, -, hans, -⟩ := (brackets attached phase step w).accepted report hok
    simp only [perform, Step.map, hans]
    cases (step ⟨dag, (m.fire phase.pre w).world⟩).outcome <;> rfl
  | tearDown =>
    rcases (tearDown_cases attached w).2 with ⟨dag, -, hans, -⟩ | ⟨-, hans, -⟩ | ⟨hs, -⟩
    · rcases Host.tearDown_cases m.configuration m.host ⟨dag, w⟩ with
        ⟨-, hok, -⟩ | ⟨-, hd⟩ | ⟨hs, -⟩
      · simp [perform, Step.map, hans, hok, Reply.isRefusal]
      · simp [perform, Step.map, hans, hd, Reply.isRefusal]
      · have hs' : m.state = .tornDown := hs
        simp [refusal?, hs'] at h
    · simp [perform, Step.map, hans, Reply.isRefusal]
    · simp [refusal?, hs] at h
  | meanwhile dag own => rfl

theorem attached_run (plugins : List (PreparationPlugin δ σ)) (configuration : Configuration) (w : σ)
    (calls : List (Call δ σ α)) :
    ∀ mo ∈ (run plugins configuration w calls).moments, mo.manager.Attached := by
  intro mo hmo
  obtain ⟨before, hman, -⟩ := Run.found mo hmo
  exact hman ▸ (sound_run plugins configuration w before).1.attached

/-- Over a run the calls that are told they are refused are those that are, and come to nothing. -/
theorem answeredFor_run (plugins : List (PreparationPlugin δ σ)) (configuration : Configuration)
    (w : σ) (calls : List (Call δ σ α)) :
    ∀ mo ∈ (run plugins configuration w calls).moments,
      mo.AnsweredFor refusal? Reply.isRefusal := by
  intro mo hmo
  have hleft := Run.left_eq mo hmo
  refine ⟨fun reply h => ?_, fun htold => ?_⟩
  · rw [perform_of_refusal? h] at hleft
    refine ⟨by rw [hleft], ?_, ?_, ?_⟩ <;> rw [hleft]
    rfl
  · rw [Moment.Refused, ← Option.ne_none_iff_isSome]
    intro h
    rw [hleft, not_isRefusal (attached_run plugins configuration w calls mo hmo) h] at htold
    cases htold

end PreparationManager

/-! ### Execution -/

namespace ExecutionManager

variable {δ σ : Type} {m : ExecutionManager δ σ}

/-- The reply to a call whose event is not accepted. -/
def Call.unheard : Call δ σ → Reply
  | .commit _ => .committed none
  | _ => .report {}

/-- The reply to a call that a manager refuses, if it does: the plugins are in the wrong state, or a
    commit is not past the last one. -/
def refusal? (m : ExecutionManager δ σ) (c : Call δ σ) : Option Reply :=
  match c.event?, c with
  | some event, c => if m.Accepts event then none else some c.unheard
  | none, .setUp =>
    if m.state = .notSetUp then none
    else some (.setUp (.error (.invalidState .setUp m.state.text)))
  | none, .tearDown =>
    if m.state = .tornDown then some (.tornDown (.error (.invalidState .tearDown m.state.text)))
    else none
  | none, _ => none

/-- Whether a reply says that a manager is in the wrong state, or that a commit was not accepted. An
    event that no plugin wants is answered like one that is refused. -/
def Reply.isRefusal : Reply → Bool
  | .setUp (.error (.invalidState ..)) | .committed none | .tornDown (.error _) => true
  | _ => false

theorem perform_unheard {c : Call δ σ} {event : ExecutionEvent} (hc : c.event? = some event)
    (hno : ¬ m.Accepts event) (w : σ) :
    ∃ notice, m.perform w c = ⟨c.unheard, m, w, [.said notice]⟩ := by
  obtain ⟨notice, hd⟩ := ((dispatch_cases m event w).resolve_left fun h => hno h.1).2
  cases c with
  | commit window =>
    cases hc
    obtain ⟨notice, hd⟩ := ((commit_cases m window w).resolve_left fun h => hno h.1).2
    exact ⟨notice, congrArg (Step.map Reply.committed) hd⟩
  | setUp | tearDown | meanwhile => cases hc
  | _ =>
    cases hc
    exact ⟨notice, congrArg (Step.map Reply.report) hd⟩

/-- A refused call is told why, and nothing else comes of it than that something may be said. -/
theorem perform_of_refusal? {c : Call δ σ} {reply : Reply} (h : m.refusal? c = some reply) (w : σ) :
    ∃ t : Trace ExecutionEvent, t.deeds = [] ∧ m.perform w c = ⟨reply, m, w, t⟩ := by
  cases hc : c.event? with
  | some event =>
    simp only [refusal?, hc] at h
    split at h
    · cases h
    · rename_i hno
      cases h
      obtain ⟨notice, hd⟩ := perform_unheard hc hno w
      exact ⟨_, rfl, hd⟩
  | none =>
    cases c with
    | setUp =>
      simp only [refusal?, hc] at h
      split at h
      · cases h
      · rename_i hs
        have hs' : m.host.state ≠ .notSetUp := hs
        cases h
        exact ⟨[], rfl, by simp [perform, setUp, Host.setUp, Host.require, hs', Step.map, state]⟩
    | tearDown =>
      simp only [refusal?, hc] at h
      split at h
      · rename_i hs
        have hs' : m.host.state = .tornDown := hs
        cases h
        exact ⟨[], rfl, by simp [perform, tearDown, Host.tearDown, hs', Step.map, state]⟩
      · cases h
    | meanwhile environment world => cases h
    | _ => cases hc

/-- A call that is not refused gets no reply that says so. -/
theorem not_isRefusal {c : Call δ σ} (h : m.refusal? c = none) (w : σ) :
    (m.perform w c).answer.isRefusal = false := by
  cases c with
  | setUp =>
    have hans : (m.perform w .setUp).answer = .setUp (m.host.setUp .execution m.environment w).answer :=
      rfl
    rcases Host.setUp_cases .execution m.environment m.host w with
      ⟨hs, -⟩ | ⟨-, -, hok, -⟩ | ⟨-, plugin, cause, -, herr, -⟩
    · have hs' : m.state ≠ .notSetUp := hs
      simp [refusal?, Call.event?, hs'] at h
    · rw [hans, hok]
      rfl
    · rw [hans, herr]
      rfl
  | commit window =>
    rcases commit_cases m window w with ⟨-, hd⟩ | ⟨hno, -⟩
    · rw [perform, hd]
      rfl
    · simp [refusal?, Call.event?, hno] at h
  | tearDown =>
    have hans : (m.perform w .tearDown).answer = .tornDown (m.host.tearDown m.environment w).answer := rfl
    rcases Host.tearDown_cases m.environment m.host w with ⟨-, hok, -⟩ | ⟨-, hd⟩ | ⟨hs, -⟩
    · rw [hans, hok]
      rfl
    · rw [hans, hd]
      rfl
    · have hs' : m.state = .tornDown := hs
      simp [refusal?, Call.event?, hs'] at h
  | _ => rfl

theorem answeredFor_run (plugins : List (ExecutionPlugin δ σ)) (environment : Environment δ) (w : σ)
    (calls : List (Call δ σ)) :
    ∀ mo ∈ (run plugins environment w calls).moments,
      mo.AnsweredFor refusal? Reply.isRefusal := by
  intro mo hmo
  have hleft := Run.left_eq mo hmo
  refine ⟨fun reply h => ?_, fun htold => ?_⟩
  · obtain ⟨t, ht, hd⟩ := perform_of_refusal? h mo.world
    rw [hd] at hleft
    refine ⟨by rw [hleft], ?_, ?_, ?_⟩ <;> rw [hleft]
    exact ht
  · rw [Moment.Refused, ← Option.ne_none_iff_isSome]
    intro h
    rw [hleft, not_isRefusal h] at htold
    cases htold

end ExecutionManager

/-! ### Every run -/

/-- Over every run of either manager refused calls are told so and come to nothing, and the run goes
    the same way without any of them. -/
theorem refused_calls_invisible (δ σ α : Type) :
    (∀ (plugins : List (PreparationPlugin δ σ)) (configuration : Configuration) (w : σ)
      (calls : List (PreparationManager.Call δ σ α)),
      let r := PreparationManager.run plugins configuration w calls
      (∀ mo ∈ r.moments,
        mo.AnsweredFor PreparationManager.refusal? PreparationManager.Reply.isRefusal) ∧
      ∀ kept, Omits (Moment.Refused PreparationManager.refusal?) r.moments kept →
        r.SameWay (PreparationManager.run plugins configuration w (kept.map (·.call))) kept) ∧
    (∀ (plugins : List (ExecutionPlugin δ σ)) (environment : Environment δ) (w : σ)
      (calls : List (ExecutionManager.Call δ σ)),
      let r := ExecutionManager.run plugins environment w calls
      (∀ mo ∈ r.moments, mo.AnsweredFor ExecutionManager.refusal? ExecutionManager.Reply.isRefusal) ∧
      ∀ kept, Omits (Moment.Refused ExecutionManager.refusal?) r.moments kept →
        r.SameWay (ExecutionManager.run plugins environment w (kept.map (·.call))) kept) := by
  constructor
  · intro plugins configuration w calls r
    have answered := PreparationManager.answeredFor_run plugins configuration w calls
    exact ⟨answered, fun kept h => Run.without (fun mo hmo => (answered mo hmo).idle) h⟩
  · intro plugins environment w calls r
    have answered := ExecutionManager.answeredFor_run plugins environment w calls
    exact ⟨answered, fun kept h => Run.without (fun mo hmo => (answered mo hmo).idle) h⟩

/-- Six of nine calls are refused: too early, twice, stale or too late. Without them the plugin is called
    for the same, though its handler fails. -/
theorem refused_calls_invisible_nine :
    let run := ExecutionManager.run
      [scripted "one" (.ok ()) (.failed ⟨"full", []⟩) (.ok ())] (.ofLaunch () .empty) ()
    let r := run [.commit ⟨3⟩, .setUp, .commit ⟨5⟩, .setUp, .commit ⟨5⟩, .dispatch (.commit ⟨4⟩), .tearDown,
      .commit ⟨9⟩, .tearDown]
    let r' := run [.setUp, .commit ⟨5⟩, .tearDown]
    r'.manager = r.manager ∧ r'.trace.deeds = r.trace.deeds ∧ r'.trace.handled = [(0, .commit ⟨5⟩)] := by
  intro run r r'
  have omits : Omits (Moment.Refused ExecutionManager.refusal?) r.moments
      (r.moments.filter fun mo => (mo.manager.refusal? mo.call).isNone) :=
    omits_filter (fun mo h => by simpa [Moment.Refused, Option.isSome_iff_ne_none] using h) _
  obtain ⟨hman, -, -, hdeeds⟩ := ((refused_calls_invisible Unit Unit Unit).2 _ _ _ _).2 _ omits
  exact ⟨hman, hdeeds, rfl⟩

end PluginFabric
