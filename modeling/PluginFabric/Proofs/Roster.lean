import Mathlib.Data.List.Induction
import PluginFabric.Plugin.Registry
import PluginFabric.Proofs.Trace

/-! Who gets an event.

    A plugin is enrolled under its identity with the registrations that its setup made. For an event
    it answers with the handler it registered last for the event's tag, if any. A registry that was
    filled by enrolling plugins in order holds exactly these handlers (`entries_registerAll`), and a
    dispatch calls them one after the other (`deliver_entries`). -/

namespace PluginFabric

/-- A plugin as its setup left it: its identity, its name, and the registrations it made in order. -/
structure Enrolment (ρ ω ε κ : Type) where
  id : PluginId
  name : String
  registrations : List (Registration ρ ω ε κ)

/-- What calling code of plugins one after the other leaves behind. -/
structure CallPass (ω ε : Type) where
  calls : Trace ε
  world : ω

variable {ρ ω ε κ : Type}

/-- Calls handlers with one event, each in the world that the one before left. -/
def callEach (ctx : ρ) (event : ε) : List (PluginId × Handler ρ ω ε) → ω → CallPass ω ε
  | [], w => ⟨[], w⟩
  | (id, handler) :: rest, w =>
    let done := handler ctx event w
    let later := callEach ctx event rest done.world
    ⟨.handling id event done.outcome :: later.calls, later.world⟩

/-- The registration made last for a tag. -/
def lastFor [DecidableEq κ] (t : κ) (registrations : List (Registration ρ ω ε κ)) :
    Option (Registration ρ ω ε κ) :=
  (registrations.filter (·.tag = t)).getLast?

/-- Whom an event with this tag goes to, and which handler of theirs it goes to. -/
def recipients [DecidableEq κ] (roster : List (Enrolment ρ ω ε κ)) (t : κ) :
    List (PluginId × Handler ρ ω ε) :=
  roster.filterMap fun e => (lastFor t e.registrations).map fun g => (e.id, g.handler)

/-! ### The calls of one event -/

theorem handled_callEach (ctx : ρ) (event : ε) (rs : List (PluginId × Handler ρ ω ε)) (w : ω) :
    (callEach ctx event rs w).calls.handled = rs.map fun p => (p.1, event) := by
  induction rs generalizing w with
  | nil => rfl
  | cons p rest ih => simp [callEach, Trace.handled_cons, Occurrence.handled?, ih]

/-- Nothing but handlers is called. -/
theorem mem_callEach {ctx : ρ} {event : ε} {rs : List (PluginId × Handler ρ ω ε)} {w : ω}
    {o : Occurrence ε} (h : o ∈ (callEach ctx event rs w).calls) :
    ∃ id outcome, o = .handling id event outcome := by
  induction rs generalizing w with
  | nil => simp [callEach] at h
  | cons p rest ih =>
    rw [callEach] at h
    rcases List.mem_cons.1 h with rfl | h
    · exact ⟨_, _, rfl⟩
    · exact ih h

theorem handlerCalls_callEach (ctx : ρ) (event : ε) (rs : List (PluginId × Handler ρ ω ε)) (w : ω) :
    (callEach ctx event rs w).calls.handlerCalls = (callEach ctx event rs w).calls := by
  refine List.filter_eq_self.2 fun o ho => ?_
  obtain ⟨id, outcome, rfl⟩ := mem_callEach ho
  rfl

theorem lastFor_concat [DecidableEq κ] (t : κ) (gs : List (Registration ρ ω ε κ))
    (g : Registration ρ ω ε κ) :
    lastFor t (gs ++ [g]) = if g.tag = t then some g else lastFor t gs := by
  by_cases h : g.tag = t <;> simp [lastFor, h, List.filter_append]

theorem tag_of_lastFor [DecidableEq κ] {t : κ} {gs : List (Registration ρ ω ε κ)}
    {g : Registration ρ ω ε κ} (h : lastFor t gs = some g) : g.tag = t := by
  have hg := List.mem_of_getLast? h
  simpa using (List.mem_filter.1 hg).2

/-- Those who get an event stand in the order of the roster, and none of them twice. -/
theorem ids_recipients [DecidableEq κ] (roster : List (Enrolment ρ ω ε κ)) (t : κ) :
    ((recipients roster t).map (·.1)).Sublist (roster.map (·.id)) := by
  induction roster with
  | nil => exact .slnil
  | cons e rest ih =>
    rw [recipients, List.filterMap_cons]
    rcases lastFor t e.registrations with _ | g
    · exact ih.cons _
    · exact ih.cons_cons _

/-- One of several distinct owners gets one thing, and none if it is not among them. -/
theorem filterMap_owner {β γ : Type} {l : List (PluginId × β)} (hl : (l.map (·.1)).Nodup)
    (id : PluginId) (x : γ) :
    (l.filterMap fun p => if p.1 = id then some x else none)
      = if id ∈ l.map (·.1) then [x] else [] := by
  induction l with
  | nil => rfl
  | cons p l ih =>
    obtain ⟨hp, hl'⟩ := List.nodup_cons.1 hl
    by_cases h : p.1 = id
    · subst h
      simp [ih hl', hp]
    · have hmem : id ∈ (p :: l).map (·.1) ↔ id ∈ l.map (·.1) := by
        rw [List.map_cons, List.mem_cons, or_iff_right (Ne.symm h)]
      simp only [List.filterMap_cons, if_neg h, ih hl', hmem]

/-! ### What the registry holds -/

section Registry

variable [EventTag κ]

/-- The handlers of a plugin that made these registrations. -/
def handlersOf (registrations : List (Registration ρ ω ε κ)) : SortedMap κ (Handler ρ ω ε) :=
  registrations.foldl (fun m g => m.insert g.tag g.handler) ∅

/-- What the registry holds of an enrolled plugin. -/
def Enrolment.entry (e : Enrolment ρ ω ε κ) : PluginId × RegistryEntry κ (Handler ρ ω ε) :=
  (e.id, ⟨e.name, handlersOf e.registrations⟩)

theorem get?_handlersOf [DecidableEq κ] (t : κ) (gs : List (Registration ρ ω ε κ)) :
    (handlersOf gs).get? t = (lastFor t gs).map (·.handler) := by
  induction gs using List.reverseRecOn with
  | nil => rfl
  | append_singleton gs g ih =>
    rw [handlersOf] at ih ⊢
    rw [List.foldl_append, List.foldl_cons, List.foldl_nil, SortedMap.get?_insert, lastFor_concat, ih]
    by_cases h : g.tag = t
    · simp [h]
    · simp [h, Ne.symm h]

variable {r : Registry κ (Handler ρ ω ε)} {owner : PluginId}

theorem entries_enroll (name : String) (below : ∀ p ∈ r.entries.toList, compare p.1 owner = .lt) :
    (r.enroll owner name).entries.toList = r.entries.toList ++ [(owner, ⟨name, ∅⟩)] := by
  have hnone : r.entries.get? owner = none := by
    have := SortedMap.lookup_append [] below
    simpa [SortedMap.get?, SortedMap.lookup] using this
  have := SortedMap.insertPair_append owner (⟨name, ∅⟩ : RegistryEntry κ (Handler ρ ω ε)) [] below
  simpa [Registry.enroll, hnone, SortedMap.insert, SortedMap.insertPair] using this

/-- A registration of the plugin that was enrolled last goes into its entry and nowhere else. -/
theorem entries_register {l : List (PluginId × RegistryEntry κ (Handler ρ ω ε))}
    {e : RegistryEntry κ (Handler ρ ω ε)} (last : r.entries.toList = l ++ [(owner, e)])
    (below : ∀ p ∈ l, compare p.1 owner = .lt) (t : κ) (h : Handler ρ ω ε) :
    (r.register owner t h).entries.toList
      = l ++ [(owner, { e with handlers := e.handlers.insert t h })] := by
  have hentry : r.entryFor owner = e := by
    rw [Registry.entryFor, SortedMap.get?, last, SortedMap.lookup_append _ below]
    simp [SortedMap.lookup]
  rw [Registry.register, hentry]
  simp only [SortedMap.insert, last, SortedMap.insertPair_append _ _ _ below]
  simp [SortedMap.insertPair]

theorem entries_registerAll (gs : List (Registration ρ ω ε κ))
    {l : List (PluginId × RegistryEntry κ (Handler ρ ω ε))} {e : RegistryEntry κ (Handler ρ ω ε)}
    (last : r.entries.toList = l ++ [(owner, e)]) (below : ∀ p ∈ l, compare p.1 owner = .lt) :
    (r.registerAll owner gs).1.entries.toList = l ++ [(owner,
      { e with handlers := gs.foldl (fun m g => m.insert g.tag g.handler) e.handlers })] := by
  induction gs generalizing r e with
  | nil => exact last
  | cons g gs ih => exact ih (entries_register last below g.tag g.handler)

/-- The handlers for a tag among entries of a registry, and whose they are. -/
def handlersFor (t : κ) (entries : List (PluginId × RegistryEntry κ (Handler ρ ω ε))) :
    List (PluginId × Handler ρ ω ε) :=
  entries.filterMap fun p => (p.2.handlers.get? t).map fun h => (p.1, h)

theorem handlersFor_entries [DecidableEq κ] (t : κ) (roster : List (Enrolment ρ ω ε κ)) :
    handlersFor t (roster.map Enrolment.entry) = recipients roster t := by
  simp [handlersFor, recipients, List.filterMap_map, Function.comp_def, Enrolment.entry,
    get?_handlersOf]

variable [Tagged ε κ]

/-- Delivery from entries of a registry is calling their handlers for the event, one after the other. -/
theorem deliver_entries (ctx : ρ) (event : ε)
    (entries : List (PluginId × RegistryEntry κ (Handler ρ ω ε))) (w : ω) :
    let done := Registry.deliver ctx event entries w
    let pass := callEach ctx event (handlersFor (tag event) entries) w
    done.trace.calls = pass.calls ∧ done.world = pass.world ∧ done.trace.dispatched = [] := by
  induction entries generalizing w with
  | nil => exact ⟨rfl, rfl, rfl⟩
  | cons p rest ih =>
    simp only [Registry.deliver, handlersFor, List.filterMap_cons]
    cases hget : p.2.handlers.get? (tag event) with
    | none => exact ih w
    | some handler =>
      obtain ⟨hcalls, hworld, hdispatched⟩ := ih (handler ctx event w).world
      simp only [Option.map_some, callEach]
      rcases hfail : (handler ctx event w).outcome.failure? with _ | ⟨error, panicked⟩ <;>
        simp [Trace.calls_cons, Occurrence.isCall, Trace.dispatched_cons, Occurrence.dispatched?,
          hcalls, hworld, hdispatched, handlersFor]

/-- A dispatch calls the handlers for the event, and accepts the event and no other. -/
theorem dispatch_entries (r : Registry κ (Handler ρ ω ε)) (ctx : ρ) (event : ε) (w : ω) :
    let done := r.dispatch ctx event w
    let pass := callEach ctx event (handlersFor (tag event) r.entries.toList) w
    done.trace.calls = pass.calls ∧ done.world = pass.world ∧ done.trace.dispatched = [event] := by
  obtain ⟨hcalls, hworld, hdispatched⟩ := deliver_entries ctx event r.entries.toList w
  refine ⟨?_, hworld, ?_⟩
  · simpa [Registry.dispatch, Trace.calls_cons, Occurrence.isCall] using hcalls
  · simpa [Registry.dispatch, Trace.dispatched_cons, Occurrence.dispatched?] using hdispatched

end Registry

end PluginFabric
