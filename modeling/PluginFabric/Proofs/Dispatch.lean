import PluginFabric.Proofs.Registry

/-! One dispatch.

    An event goes to every plugin with a handler for it, by position, and each handler finds the world
    as the one before left it, however that one ended. The report counts the handlers that succeeded
    and lists the others in the same order, each under its plugin's current name and with the text of
    its error or panic. -/

namespace PluginFabric

/-- A handler that is called: whose it is, and the world it finds. -/
structure Handling (ρ ω ε : Type) where
  id : PluginId
  name : String
  handler : Handler ρ ω ε
  found : ω

namespace Handling

variable {ρ ω ε : Type} (ctx : ρ) (event : ε)

/-- How the handler ends. -/
def outcome (c : Handling ρ ω ε) : Outcome Unit := (c.handler ctx event c.found).outcome

/-- The world it leaves. -/
def left (c : Handling ρ ω ε) : ω := (c.handler ctx event c.found).world

/-- What is reported of it unless it succeeds: the chain of its error, or what it panicked with. -/
def failure? (type : String) (c : Handling ρ ω ε) : Option HandlerFailure :=
  match c.outcome ctx event with
  | .ok _ => none
  | .failed f => some ⟨c.id, c.name, type, Text.joinWith ": " (f.message :: f.causes), false⟩
  | .panicked p => some ⟨c.id, c.name, type, p.message, true⟩

theorem isSome_failure? (type : String) (c : Handling ρ ω ε) :
    (c.failure? ctx event type).isSome = !(c.outcome ctx event).isOk := by
  rw [failure?]
  cases c.outcome ctx event <;> rfl

end Handling

namespace Registry

variable {ρ ω ε κ : Type} [EventTag κ] [Tagged ε κ]

/-- The handlings of an event by plugins that stand in a registry. -/
def handlings (ctx : ρ) (event : ε) :
    List (PluginId × RegistryEntry κ (Handler ρ ω ε)) → ω → List (Handling ρ ω ε)
  | [], _ => []
  | (id, entry) :: rest, w =>
    match entry.handlers.get? (tag event) with
    | none => handlings ctx event rest w
    | some handler => ⟨id, entry.name, handler, w⟩ :: handlings ctx event rest (handler ctx event w).world

variable (ctx : ρ) (event : ε) (entries : List (PluginId × RegistryEntry κ (Handler ρ ω ε))) (w : ω)

/-- Every plugin with a handler for the event handles it once, in the order of the entries. -/
theorem handlers_handlings :
    (handlings ctx event entries w).map (fun c => (c.id, c.handler))
      = handlersFor (tag event) entries := by
  induction entries generalizing w with
  | nil => rfl
  | cons p rest ih =>
    rw [handlings, handlersFor, List.filterMap_cons]
    cases p.2.handlers.get? (tag event) with
    | none => exact ih w
    | some handler => exact congrArg ((p.1, handler) :: ·) (ih _)

/-- A handler that is called is the one registered, and its plugin is called by its name. -/
theorem entry_of_mem_handlings {c : Handling ρ ω ε} (h : c ∈ handlings ctx event entries w) :
    ∃ entry, (c.id, entry) ∈ entries ∧ entry.name = c.name ∧
      entry.handlers.get? (tag event) = some c.handler := by
  induction entries generalizing w with
  | nil => cases h
  | cons p rest ih =>
    rw [handlings] at h
    cases hget : p.2.handlers.get? (tag event) with
    | none =>
      rw [hget] at h
      obtain ⟨entry, hmem, hentry⟩ := ih w h
      exact ⟨entry, List.mem_cons_of_mem _ hmem, hentry⟩
    | some handler =>
      rw [hget] at h
      rcases List.mem_cons.1 h with rfl | h
      · exact ⟨p.2, List.mem_cons_self, rfl, hget⟩
      · obtain ⟨entry, hmem, hentry⟩ := ih _ h
        exact ⟨entry, List.mem_cons_of_mem _ hmem, hentry⟩

/-- A delivery calls one handler after the other and reports on each. -/
theorem deliver_handlings :
    let done := deliver ctx event entries w
    let calls := handlings ctx event entries w
    done.trace.calls = calls.map (fun c => .handling c.id event (c.outcome ctx event)) ∧
    calls.map (·.found) ++ [done.world] = w :: calls.map (·.left ctx event) ∧
    done.report.delivered = calls.countP (fun c => (c.outcome ctx event).isOk) ∧
    done.report.failures = calls.filterMap (·.failure? ctx event (tagName (tag event))) := by
  induction entries generalizing w with
  | nil => exact ⟨rfl, rfl, rfl, rfl⟩
  | cons p rest ih =>
    simp only [deliver, handlings]
    cases p.2.handlers.get? (tag event) with
    | none => exact ih w
    | some handler =>
      obtain ⟨hcalls, hworlds, hdelivered, hfailures⟩ := ih (handler ctx event w).world
      rcases hout : (handler ctx event w).outcome with a | f | q
      all_goals
        simp only [Outcome.failure?, hout]
        refine ⟨?_, ?_, ?_, ?_⟩
        · simp [Trace.calls_cons, Occurrence.isCall, Handling.outcome, hout, hcalls]
        · simpa [Handling.left] using hworlds
        · simp [Outcome.isOk, Handling.outcome, hout, hdelivered]
        · simp [Handling.failure?, Handling.outcome, hout, hfailures, Fault.line, Fault.chain]

/-- The report is clean if no handling is reported, and counts all of them. -/
theorem report_handlings {report : DispatchReport} {calls : List (Handling ρ ω ε)} {type : String}
    (delivered : report.delivered = calls.countP fun c => (c.outcome ctx event).isOk)
    (failures : report.failures = calls.filterMap (·.failure? ctx event type)) :
    report.attempted = calls.length ∧
      (report.isClean = true ↔ ∀ c ∈ calls, c.outcome ctx event = .ok ()) := by
  constructor
  · rw [DispatchReport.attempted, delivered, failures, List.length_filterMap_eq_countP,
      List.length_eq_countP_add_countP fun c => (c.outcome ctx event).isOk]
    simp [Handling.isSome_failure?]
  · rw [DispatchReport.isClean, failures, List.isEmpty_iff, List.filterMap_eq_nil_iff]
    refine forall₂_congr fun c _ => ?_
    rw [Handling.failure?]
    rcases c.outcome ctx event with ⟨⟩ | f | q <;> simp

omit [Tagged ε κ] in
/-- The owners of the handlers for a tag are the plugins that are registered for it. -/
theorem length_handlersFor (r : Registry κ (Handler ρ ω ε)) (t : κ) :
    (handlersFor t r.entries.toList).length = (r.entries.keys.filter (r.isRegistered · t)).length := by
  have hnodup : ((handlersFor t r.entries.toList).map (·.1)).Nodup :=
    List.pairwise_map.2 ((ascending_handlersFor r t).imp Nat.ne_of_lt)
  rw [← List.length_map (·.1)]
  refine ((List.perm_ext_iff_of_nodup hnodup (r.entries.nodup_keys.filter _)).2 fun o => ?_).length_eq
  rw [List.mem_filter, SortedMap.mem_keys, isRegistered, handler?]
  constructor
  · intro ho
    obtain ⟨⟨o, h⟩, hmem, rfl⟩ := List.mem_map.1 ho
    obtain ⟨e, he, hget⟩ := Option.bind_eq_some_iff.1 (mem_handlersFor.1 hmem)
    simp [he, hget]
  · rintro ⟨-, hsome⟩
    obtain ⟨h, hget⟩ := Option.isSome_iff_exists.1 hsome
    exact List.mem_map.2 ⟨(o, h), mem_handlersFor.2 hget, rfl⟩

/-- Who handles an event is known by its current name, and handles it with what is registered. -/
theorem mem_handlings (r : Registry κ (Handler ρ ω ε)) {id : PluginId} {name : String}
    {handler : Handler ρ ω ε} :
    (∃ c ∈ handlings ctx event r.entries.toList w, c.id = id ∧ c.name = name ∧ c.handler = handler) ↔
      r.name? id = some name ∧ r.handler? id (tag event) = some handler := by
  have known : ∀ c ∈ handlings ctx event r.entries.toList w, r.name? c.id = some c.name := by
    intro c hc
    obtain ⟨entry, hmem, hname, -⟩ := entry_of_mem_handlings ctx event _ w hc
    rw [name?, SortedMap.get?_eq_some_iff.2 hmem, Option.map_some, hname]
  have handlers : ∀ {o h}, (∃ c ∈ handlings ctx event r.entries.toList w, (c.id, c.handler) = (o, h)) ↔
      r.handler? o (tag event) = some h := by
    intro o h
    rw [← mem_handlersFor, ← handlers_handlings ctx event _ w, List.mem_map]
  constructor
  · rintro ⟨c, hc, rfl, rfl, rfl⟩
    exact ⟨known c hc, handlers.1 ⟨c, hc, rfl⟩⟩
  · rintro ⟨hname, hhandler⟩
    obtain ⟨c, hc, heq⟩ := handlers.2 hhandler
    obtain ⟨rfl, rfl⟩ := Prod.mk.inj heq
    exact ⟨c, hc, rfl, Option.some.inj ((known c hc).symm.trans hname), rfl⟩

/-- A dispatch calls every handler that is registered for the event, once and by position, and no
    other; each finds the world as the one before left it, however that one ended. The report counts
    those that succeeded and lists the others in the same order; it counts as many as there are
    plugins with a handler for the event, and is clean if all succeeded. -/
theorem dispatch_isolates (r : Registry κ (Handler ρ ω ε)) (ctx : ρ) (event : ε) (w : ω) :
    let done := r.dispatch ctx event w
    ∃ calls : List (Handling ρ ω ε),
      calls.Pairwise (fun c d => c.id < d.id) ∧
      (∀ id name handler, (∃ c ∈ calls, c.id = id ∧ c.name = name ∧ c.handler = handler) ↔
        r.name? id = some name ∧ r.handler? id (tag event) = some handler) ∧
      calls.map (·.found) ++ [done.world] = w :: calls.map (·.left ctx event) ∧
      done.trace.calls = calls.map (fun c => .handling c.id event (c.outcome ctx event)) ∧
      done.report.delivered = calls.countP (fun c => (c.outcome ctx event).isOk) ∧
      done.report.failures = calls.filterMap (·.failure? ctx event (tagName (tag event))) ∧
      done.report.attempted = (r.entries.keys.filter (r.isRegistered · (tag event))).length ∧
      (done.report.isClean = true ↔ ∀ c ∈ calls, c.outcome ctx event = .ok ()) := by
  intro done
  obtain ⟨hcalls, hworlds, hdelivered, hfailures⟩ := deliver_handlings ctx event r.entries.toList w
  have hhandlers := handlers_handlings ctx event r.entries.toList w
  obtain ⟨hattempted, hclean⟩ := report_handlings ctx event hdelivered hfailures
  refine ⟨handlings ctx event r.entries.toList w, ?_, ?_, hworlds, ?_, hdelivered, hfailures, ?_, hclean⟩
  · have hascending := ascending_handlersFor r (tag event)
    rwa [← hhandlers, List.pairwise_map] at hascending
  · exact fun id name handler => mem_handlings ctx event w r
  · simpa [done, dispatch, Trace.calls_cons, Occurrence.isCall] using hcalls
  · rw [← length_handlersFor, ← hhandlers, List.length_map]
    exact hattempted

end Registry

end PluginFabric
