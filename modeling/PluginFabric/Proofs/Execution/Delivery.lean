import PluginFabric.Proofs.Execution.Service

/-! Every accepted event is handled by everyone who asked for it.

    The handler calls of a run are, for one accepted event after the other, the calls of the handlers
    that the plugins registered last for its kind during their setup, in the order of the plugins and
    with that event. Code that was registered for a payload gets the payload of the event. -/

namespace PluginFabric

variable {δ σ : Type} {n : Nat}

/-! ### Payloads -/

/-- Code that was registered by a shorthand is run on the payload of the event. -/
structure Route.GetsPayload (g : ExecutionRegistration δ σ) (event : ExecutionEvent) : Prop where
  heartbeat : ∀ code, g = onHeartbeat code →
    ∃ p, event = .heartbeat p ∧ ∀ env w, g.handler env event w = code env p w
  master : ∀ code, g = onMasterEvent code →
    ∃ p, event = .master p ∧ ∀ env w, g.handler env event w = code env p w
  commit : ∀ code, g = onCommit code →
    ∃ p, event = .commit p ∧ ∀ env w, g.handler env event w = code env p w

/-- A handler registered for the kind of an event finds the payload it expects. -/
theorem Route.getsPayload {g : ExecutionRegistration δ σ} {event : ExecutionEvent}
    (h : g.tag = event.kind) : GetsPayload g event := by
  refine ⟨?_, ?_, ?_⟩
  · rintro code rfl
    cases event with
    | heartbeat p => exact ⟨p, rfl, fun _ _ => rfl⟩
    | master | commit => cases h
  · rintro code rfl
    cases event with
    | master p => exact ⟨p, rfl, fun _ _ => rfl⟩
    | heartbeat | commit => cases h
  · rintro code rfl
    cases event with
    | commit p => exact ⟨p, rfl, fun _ _ => rfl⟩
    | heartbeat | master => cases h

namespace ExecutionManager

/-! ### One call -/

/-- The event that a manager accepts by a call, if it accepts one. -/
def accepting? (m : ExecutionManager δ σ) (c : Call δ σ) : Option ExecutionEvent :=
  c.event?.filter fun event => m.Accepts event

theorem accepting?_eq_some {m : ExecutionManager δ σ} {c : Call δ σ} {event : ExecutionEvent} :
    m.accepting? c = some event ↔ c.event? = some event ∧ m.Accepts event := by
  simp [accepting?, Option.filter_eq_some_iff]

/-- If its event was accepted, a call made the handlers run that the roster names for it, in their
    order and each in the world that the one before left; otherwise it made none run. -/
structure Delivered (enrolled : List (Enrolled δ σ))
    (mo : Moment (ExecutionManager δ σ) σ ExecutionEvent (Call δ σ) Reply) : Prop where
  accepted : ∀ event, mo.manager.accepting? mo.call = some event →
    let pass := callEach mo.manager.environment event (recipients enrolled event.kind) mo.world
    mo.left.trace.handlerCalls = pass.calls ∧ mo.left.world = pass.world
  silent : mo.manager.accepting? mo.call = none → mo.left.trace.handlerCalls = []
  refused : ∀ event, mo.call.event? = some event → mo.manager.accepting? mo.call = none →
    mo.left.manager = mo.manager ∧ mo.left.world = mo.world

section Call

variable {m : ExecutionManager δ σ} {t : Trace ExecutionEvent} {enrolled : List (Enrolled δ σ)}

theorem not_accepts_of_accepting? {c : Call δ σ} {event : ExecutionEvent}
    (hc : c.event? = some event) (hnone : m.accepting? c = none) : ¬ m.Accepts event := by
  intro hacc
  rw [accepting?_eq_some.2 ⟨hc, hacc⟩] at hnone
  cases hnone

theorem quiet_of_accepting? {c : Call δ σ} (hnone : m.accepting? c = none) (w : σ) :
    (m.perform w c).trace.Quiet := by
  cases hc : c.event? with
  | none => exact (perform_silent hc w).1
  | some event =>
    obtain ⟨-, -, hcalls, hdis⟩ := perform_refused hc (not_accepts_of_accepting? hc hnone) w
    refine ⟨hdis, ?_⟩
    rw [← Trace.handled_calls, hcalls]
    rfl

theorem InService.delivered (h : InService n enrolled m t) (w : σ) (c : Call δ σ) :
    Delivered enrolled ⟨c, m, w, m.perform w c⟩ := by
  refine ⟨fun event hevent => ?_, fun hnone => ?_, fun event hc hnone => ?_⟩
  · obtain ⟨hc, hacc⟩ := accepting?_eq_some.1 hevent
    obtain ⟨-, hworld, hcalls, -⟩ := perform_accepted h hc hacc w
    refine ⟨?_, hworld⟩
    rw [← Trace.handlerCalls_calls, hcalls, handlerCalls_callEach]
  · exact (quiet_of_accepting? hnone w).handlerCalls
  · obtain ⟨hman, hworld, -, -⟩ := perform_refused hc (not_accepts_of_accepting? hc hnone) w
    exact ⟨hman, hworld⟩

theorem InService.dispatched_perform (h : InService n enrolled m t) (w : σ) (c : Call δ σ) :
    (m.perform w c).trace.dispatched = (m.accepting? c).toList := by
  cases hevent : m.accepting? c with
  | none => exact (quiet_of_accepting? hevent w).1
  | some event =>
    obtain ⟨hc, hacc⟩ := accepting?_eq_some.1 hevent
    exact (perform_accepted h hc hacc w).2.2.2

/-- Where no event was accepted, it does not matter who is enrolled. -/
theorem Delivered.reenrol {mo : Moment (ExecutionManager δ σ) σ ExecutionEvent (Call δ σ) Reply}
    (h : Delivered enrolled mo) (hnone : mo.manager.accepting? mo.call = none)
    (enrolled' : List (Enrolled δ σ)) : Delivered enrolled' mo :=
  ⟨fun event hevent => (by rw [hnone] at hevent; cases hevent), h.silent, h.refused⟩

end Call

/-! ### A run -/

/-- The events accepted over a run. -/
def accepted (r : Session δ σ) : List ExecutionEvent :=
  r.moments.filterMap fun mo => mo.manager.accepting? mo.call

/-- A run in which what was accepted is what was dispatched, and every call delivered what it had to,
    each time to the same roster. -/
structure Faithful (n : Nat) (r : Session δ σ) : Prop where
  dispatched : r.trace.dispatched = accepted r
  delivered : ∀ mo ∈ r.moments, Delivered (roster r) mo
  complete : accepted r = [] ∨ (roster r).map (·.id) = List.range n

section Run

variable {r : Session δ σ}

/-- The roster only changes by the setup that fills it. -/
theorem roster_advance_cases (r : Session δ σ) (c : Call δ σ) :
    roster (r.advance perform c) = roster r ∨ r.manager.state = .notSetUp ∧ c.event? = none := by
  rw [roster_advance]
  cases c with
  | setUp =>
    by_cases hs : r.manager.host.state = .notSetUp
    · exact .inr ⟨hs, rfl⟩
    · left
      dsimp only
      rw [Host.enrolling, if_neg hs, List.append_nil]
  | _ => exact .inl (List.append_nil _)

/-- Before the setup nothing was accepted. -/
theorem Faithful.untouched (h : Faithful n r) (hin : InService n (roster r) r.manager r.trace)
    (hs : r.manager.state = .notSetUp) : accepted r = [] := by
  rw [← h.dispatched]
  exact (hin.serves.untouched hs).2.2

theorem accepted_advance (r : Session δ σ) (c : Call δ σ) :
    accepted (r.advance perform c) = accepted r ++ (r.manager.accepting? c).toList := by
  rw [accepted, Run.moments_advance, List.filterMap_append]
  cases h : r.manager.accepting? c <;> simp [accepted, h]

theorem Faithful.advance (h : Faithful n r) (hin : InService n (roster r) r.manager r.trace)
    (c : Call δ σ) : Faithful n (r.advance perform c) := by
  refine ⟨?_, ?_, ?_⟩
  · rw [Run.trace_advance, Trace.dispatched_append, h.dispatched, accepted_advance,
      hin.dispatched_perform]
  · -- either the roster is the same, or no call so far accepted anything
    rw [Run.moments_advance]
    intro mo hmo
    have hold : Delivered (roster r) mo := by
      rcases List.mem_append.1 hmo with hmo | hmo
      · exact h.delivered mo hmo
      · rw [List.mem_singleton.1 hmo]
        exact hin.delivered r.world c
    rcases roster_advance_cases r c with hsame | ⟨hs, hc⟩
    · rwa [hsame]
    · refine hold.reenrol ?_ _
      rcases List.mem_append.1 hmo with hmo | hmo
      · exact List.filterMap_eq_nil_iff.1 (h.untouched hin hs) mo hmo
      · rw [List.mem_singleton.1 hmo]
        simp [accepting?, hc]
  · rw [accepted_advance]
    cases hevent : r.manager.accepting? c with
    | some event =>
      obtain ⟨hc, hacc⟩ := accepting?_eq_some.1 hevent
      right
      rcases roster_advance_cases r c with hsame | ⟨-, hc'⟩
      · rw [hsame]
        exact (hin.serves.enrolled hacc.1).1
      · rw [hc] at hc'
        cases hc'
    | none =>
      rw [Option.toList_none, List.append_nil]
      rcases roster_advance_cases r c with hsame | ⟨hs, -⟩
      · rw [hsame]
        exact h.complete
      · exact .inl (h.untouched hin hs)

end Run

theorem faithful_run (plugins : List (ExecutionPlugin δ σ)) (environment : Environment δ) (w : σ)
    (calls : List (Call δ σ)) :
    let r := run plugins environment w calls
    InService plugins.length (roster r) r.manager r.trace ∧ Faithful plugins.length r := by
  refine inService_induction (P := fun r => Faithful plugins.length r) ?_ ?_ calls
  · exact ⟨rfl, fun mo hmo => (by cases hmo), .inl rfl⟩
  · exact fun r c hin h => h.advance hin c

/-- Over every run the handlers called are, for each accepted event in turn, those that the plugins
    registered last for its kind, in the order of the plugins and with that event; and code that was
    registered for a payload gets it. -/
theorem events_delivered (plugins : List (ExecutionPlugin δ σ)) (environment : Environment δ) (w : σ)
    (calls : List (Call δ σ)) :
    let r := run plugins environment w calls
    r.trace.handled = ((accepted r).flatMap fun event =>
      (recipients (roster r) event.kind).map fun p => (p.1, event)) ∧
    (∀ mo ∈ r.moments, Delivered (roster r) mo) ∧
    (∀ kind, (recipients (roster r) kind).Pairwise fun p q => p.1 < q.1) ∧
    (∀ e ∈ roster r, e.StemsFrom plugins) ∧
    (roster r).map (·.id) <+: List.range plugins.length ∧
    (accepted r = [] ∨ (roster r).map (·.id) = List.range plugins.length) ∧
    (∀ event, ∀ e ∈ roster r, ∀ g, lastFor event.kind e.registrations = some g →
      Route.GetsPayload g event) := by
  intro r
  obtain ⟨hin, h⟩ := faithful_run plugins environment w calls
  refine ⟨?_, h.delivered, hin.serves.ascending_recipients, fun e he => stemsFrom_of_mem_roster he,
    hin.serves.positions, h.complete, ?_⟩
  · rw [← h.dispatched]
    exact hin.serves.handled
  · intro event e _ g hg
    exact Route.getsPayload (tag_of_lastFor hg)

end ExecutionManager

end PluginFabric
