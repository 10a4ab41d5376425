import Mathlib.Data.List.Dedup
import PluginFabric.Event.Execution
import PluginFabric.Proofs.Roster

/-! A registry is the map of what was written last.

    Enrolling and registering come in any order and for any owners. What a registry holds afterwards
    depends on two things only: for each owner the name it was enrolled under last, and for each owner
    and tag the handler that was registered last (`mirrors_ofCalls`). Registries with the same names
    and handlers are the same (`ext_lookups`), so everything else is read off these: the counts, and
    who is called for an event and in which order. -/

namespace PluginFabric.Registry

variable {κ η : Type}

/-! ### What was called -/

/-- A call that writes to a registry. -/
inductive Call (κ η : Type) where
  | enroll (owner : PluginId) (name : String)
  | register (owner : PluginId) (tag : κ) (handler : η)

namespace Call

def owner : Call κ η → PluginId
  | enroll owner _ | register owner _ _ => owner

/-- The owner and the tag that a registration is for. -/
def place? : Call κ η → Option (PluginId × κ)
  | register owner tag _ => some (owner, tag)
  | enroll .. => none

/-- The name that a call gives to `o`, if it does. -/
def nameFor? (o : PluginId) : Call κ η → Option String
  | enroll owner name => if owner = o then some name else none
  | register .. => none

/-- The handler that a call registers for `o` and `t`, if it does. -/
def handlerFor? [DecidableEq κ] (o : PluginId) (t : κ) : Call κ η → Option η
  | register owner tag handler => if owner = o ∧ tag = t then some handler else none
  | enroll .. => none

end Call

/-- The name that an owner was enrolled under last. -/
def lastName (calls : List (Call κ η)) (o : PluginId) : Option String :=
  (calls.filterMap (Call.nameFor? o)).getLast?

/-- The handler that was registered last for an owner and a tag. -/
def lastHandler [DecidableEq κ] (calls : List (Call κ η)) (o : PluginId) (t : κ) : Option η :=
  (calls.filterMap (Call.handlerFor? o t)).getLast?

theorem getLast?_filterMap_concat {α β : Type} (f : α → Option β) (l : List α) (a : α) :
    ((l ++ [a]).filterMap f).getLast? = (f a).or (l.filterMap f).getLast? := by
  cases h : f a <;> simp [List.filterMap_append, h]

theorem isSome_getLast?_filterMap {α β : Type} (f : α → Option β) (l : List α) :
    (l.filterMap f).getLast?.isSome ↔ ∃ a ∈ l, (f a).isSome := by
  rw [List.getLast?_isSome, Ne, List.filterMap_eq_nil_iff]
  simp [Option.isSome_iff_ne_none]

section Last

variable [DecidableEq κ] {calls : List (Call κ η)} {o : PluginId} {t : κ}

omit [DecidableEq κ] in
theorem lastName_concat (calls : List (Call κ η)) (c : Call κ η) (o : PluginId) :
    lastName (calls ++ [c]) o = (c.nameFor? o).or (lastName calls o) := getLast?_filterMap_concat ..

theorem lastHandler_concat (calls : List (Call κ η)) (c : Call κ η) (o : PluginId) (t : κ) :
    lastHandler (calls ++ [c]) o t = (c.handlerFor? o t).or (lastHandler calls o t) :=
  getLast?_filterMap_concat ..

omit [DecidableEq κ] in
theorem isSome_lastName : (lastName calls o).isSome ↔ ∃ name, .enroll o name ∈ calls := by
  rw [lastName, isSome_getLast?_filterMap]
  constructor
  · rintro ⟨c, hc, hsome⟩
    cases c with
    | enroll owner name =>
      obtain rfl : owner = o := by simpa [Call.nameFor?] using hsome
      exact ⟨name, hc⟩
    | register => cases hsome
  · rintro ⟨name, hc⟩
    exact ⟨_, hc, by simp [Call.nameFor?]⟩

theorem isSome_lastHandler : (lastHandler calls o t).isSome ↔ ∃ h, .register o t h ∈ calls := by
  rw [lastHandler, isSome_getLast?_filterMap]
  constructor
  · rintro ⟨c, hc, hsome⟩
    cases c with
    | enroll => cases hsome
    | register owner tag handler =>
      obtain ⟨rfl, rfl⟩ : owner = o ∧ tag = t := by simpa [Call.handlerFor?] using hsome
      exact ⟨handler, hc⟩
  · rintro ⟨h, hc⟩
    exact ⟨_, hc, by simp [Call.handlerFor?]⟩

/-- An owner that was called for was enrolled, or something was registered for it. -/
theorem mem_owners : o ∈ calls.map Call.owner ↔
    (lastName calls o).isSome ∨ ∃ t, (lastHandler calls o t).isSome := by
  simp only [isSome_lastName, isSome_lastHandler, List.mem_map]
  constructor
  · rintro ⟨c, hc, rfl⟩
    cases c with
    | enroll owner name => exact .inl ⟨name, hc⟩
    | register owner tag handler => exact .inr ⟨tag, handler, hc⟩
  · rintro (⟨name, hc⟩ | ⟨t, h, hc⟩)
    · exact ⟨_, hc, rfl⟩
    · exact ⟨_, hc, rfl⟩

omit [DecidableEq κ] in
theorem mem_places : (o, t) ∈ calls.filterMap Call.place? ↔ ∃ h, .register o t h ∈ calls := by
  rw [List.mem_filterMap]
  constructor
  · rintro ⟨c, hc, hplace⟩
    cases c with
    | enroll => cases hplace
    | register owner tag handler =>
      cases hplace
      exact ⟨handler, hc⟩
  · rintro ⟨h, hc⟩
    exact ⟨_, hc, rfl⟩

end Last

/-! ### What is written -/

section Content

variable [EventTag κ] {r r' : Registry κ η}

/-- The registry after a call, and the handler whose place was taken. -/
def perform (r : Registry κ η) : Call κ η → Registry κ η × Option η
  | .enroll owner name => (r.enroll owner name, none)
  | .register owner t h => (r.register owner t h, r.handler? owner t)

/-- The registry after these calls of an empty one. -/
def ofCalls (calls : List (Call κ η)) : Registry κ η :=
  calls.foldl (fun r c => (r.perform c).1) .empty

theorem ofCalls_concat (calls : List (Call κ η)) (c : Call κ η) :
    ofCalls (calls ++ [c]) = ((ofCalls calls).perform c).1 := List.foldl_append

/-- The name that a registry has for a plugin, if it knows it. -/
def name? (r : Registry κ η) (o : PluginId) : Option String := (r.entries.get? o).map (·.name)

theorem name?_enroll (r : Registry κ η) (owner : PluginId) (name : String) (o : PluginId) :
    (r.enroll owner name).name? o = if o = owner then some name else r.name? o := by
  rw [name?, enroll, SortedMap.get?_insert]
  split
  · cases r.entries.get? owner <;> rfl
  · rfl

theorem name?_register (r : Registry κ η) (owner : PluginId) (t : κ) (h : η) (o : PluginId) :
    (r.register owner t h).name? o
      = if o = owner then some ((r.name? owner).getD owner.label) else r.name? o := by
  rw [name?, register, SortedMap.get?_insert]
  split
  · rw [entryFor, name?]
    cases r.entries.get? owner <;> rfl
  · rfl

theorem handler?_enroll (r : Registry κ η) (owner : PluginId) (name : String) (o : PluginId) (t : κ) :
    (r.enroll owner name).handler? o t = r.handler? o t := by
  rw [handler?, enroll, SortedMap.get?_insert]
  split
  · rename_i ho
    subst ho
    rw [handler?]
    cases r.entries.get? o <;> rfl
  · rfl

theorem handler?_register [DecidableEq κ] (r : Registry κ η) (owner : PluginId) (t : κ) (h : η)
    (o : PluginId) (t' : κ) : (r.register owner t h).handler? o t'
      = if owner = o ∧ t = t' then some h else r.handler? o t' := by
  have hold : (r.entryFor owner).handlers.get? t' = r.handler? owner t' := by
    rw [entryFor, handler?]
    cases r.entries.get? owner <;> rfl
  rw [handler?, register, SortedMap.get?_insert]
  by_cases ho : o = owner
  · subst ho
    rw [if_pos rfl, Option.bind_some, SortedMap.get?_insert, hold]
    by_cases ht : t' = t
    · rw [if_pos ht, if_pos ⟨rfl, ht.symm⟩]
    · rw [if_neg ht, if_neg fun h => ht h.2.symm]
  · rw [if_neg ho, if_neg fun h => ho h.1.symm, handler?]

/-- Registries that have the same names and handlers are the same. -/
theorem ext_lookups (names : ∀ o, r.name? o = r'.name? o)
    (handlers : ∀ o t, r.handler? o t = r'.handler? o t) : r = r' := by
  obtain ⟨entries⟩ := r
  obtain ⟨entries'⟩ := r'
  congr 1
  refine SortedMap.ext_get? fun o => ?_
  have hname := names o
  have hhandlers := handlers o
  simp only [name?, handler?] at hname hhandlers
  cases hget : entries.get? o with
  | none =>
    rw [hget, Option.map_none] at hname
    exact (Option.map_eq_none_iff.1 hname.symm).symm
  | some e =>
    rw [hget, Option.map_some] at hname
    obtain ⟨e', hget', hnames⟩ := Option.map_eq_some_iff.1 hname.symm
    rw [hget'] at hhandlers ⊢
    obtain ⟨name, own⟩ := e
    obtain ⟨name', own'⟩ := e'
    have hown : own = own' := SortedMap.ext_get? fun t => (by simpa [hget] using hhandlers t)
    obtain rfl : name' = name := hnames
    rw [hown]

/-! ### What is counted -/

/-- The owners and tags that a registry has handlers for. -/
def places (r : Registry κ η) : List (PluginId × κ) :=
  r.entries.toList.flatMap fun p => p.2.handlers.keys.map (p.1, ·)

theorem handlerCount_eq (r : Registry κ η) : r.handlerCount = r.places.length := by
  rw [handlerCount, places, SortedMap.values, List.foldr_map]
  induction r.entries.toList with
  | nil => rfl
  | cons p rest ih =>
    rw [List.foldr_cons, ih, List.flatMap_cons, List.length_append, List.length_map]
    simp [SortedMap.size, SortedMap.keys]

theorem nodup_places (r : Registry κ η) : r.places.Nodup := by
  refine List.nodup_flatMap.2 ⟨fun p _ => p.2.handlers.nodup_keys.map fun _ _ h => ?_, ?_⟩
  · exact (Prod.mk.inj h).2
  · have hkeys : (r.entries.toList.map (·.1)).Pairwise (· ≠ ·) := r.entries.nodup_keys
    refine (List.pairwise_map.1 hkeys).imp fun hne x hx hy => hne ?_
    obtain ⟨_, -, rfl⟩ := List.mem_map.1 hx
    obtain ⟨_, -, heq⟩ := List.mem_map.1 hy
    exact (Prod.mk.inj heq).1.symm

theorem mem_places_iff {o : PluginId} {t : κ} : (o, t) ∈ r.places ↔ (r.handler? o t).isSome := by
  rw [places, handler?, List.mem_flatMap]
  constructor
  · rintro ⟨p, hp, hmem⟩
    obtain ⟨t', ht, heq⟩ := List.mem_map.1 hmem
    obtain ⟨rfl, rfl⟩ := Prod.mk.inj heq
    rw [SortedMap.get?_eq_some_iff.2 hp, Option.bind_some]
    exact SortedMap.mem_keys.1 ht
  · intro h
    cases he : r.entries.get? o with
    | none => simp [he] at h
    | some e =>
      rw [he, Option.bind_some] at h
      exact ⟨(o, e), SortedMap.get?_eq_some_iff.1 he, List.mem_map.2 ⟨t, SortedMap.mem_keys.2 h, rfl⟩⟩

/-! ### What a registry holds -/

/-- A registry knows whom the calls were for, by the name enrolled last or else by identity, and has
    the handlers registered last. -/
structure Mirrors [DecidableEq κ] (r : Registry κ η) (calls : List (Call κ η)) : Prop where
  names : ∀ o, r.name? o
    = if o ∈ calls.map Call.owner then some ((lastName calls o).getD o.label) else none
  handlers : ∀ o t, r.handler? o t = lastHandler calls o t

variable [DecidableEq κ] {calls : List (Call κ η)}

theorem Mirrors.perform (h : r.Mirrors calls) (c : Call κ η) :
    (r.perform c).1.Mirrors (calls ++ [c]) := by
  refine ⟨fun o => ?_, fun o t => ?_⟩
  · rw [lastName_concat, List.map_append, List.map_singleton]
    cases c with
    | enroll owner name =>
      rw [Registry.perform, name?_enroll]
      by_cases ho : o = owner
      · simp [ho, Call.nameFor?, Call.owner]
      · simp [h.names, ho, Ne.symm ho, Call.nameFor?, Call.owner]
    | register owner t handler =>
      rw [Registry.perform, name?_register]
      by_cases ho : o = owner
      · subst ho
        by_cases hmem : o ∈ calls.map Call.owner
        · rw [if_pos rfl, h.names, if_pos hmem, if_pos (List.mem_append_left _ hmem)]
          rfl
        · -- an owner that no call was for has no name yet
          have hnone : lastName calls o = none := by
            cases hlast : lastName calls o with
            | none => rfl
            | some name => exact absurd (mem_owners.2 (.inl (by simp [hlast]))) hmem
          rw [if_pos rfl, h.names, if_neg hmem, if_pos (by simp [Call.owner]), hnone]
          rfl
      · simp [h.names, ho, Call.nameFor?, Call.owner]
  · rw [lastHandler_concat]
    cases c with
    | enroll owner name =>
      rw [Registry.perform, handler?_enroll, h.handlers]
      rfl
    | register owner t' handler =>
      rw [Registry.perform, handler?_register, h.handlers, Call.handlerFor?]
      split <;> rfl

theorem mirrors_ofCalls (calls : List (Call κ η)) : (ofCalls calls).Mirrors calls := by
  induction calls using List.reverseRecOn with
  | nil => exact ⟨fun _ => rfl, fun _ _ => rfl⟩
  | append_singleton calls c ih =>
    rw [ofCalls_concat]
    exact ih.perform c

theorem Mirrors.isSome_name? (h : r.Mirrors calls) {o : PluginId} :
    (r.name? o).isSome ↔ o ∈ calls.map Call.owner := by
  rw [h.names]
  split <;> simp_all

/-- What a registry answers about itself is read off what was called. -/
structure Answers (r : Registry κ η) (calls : List (Call κ η)) : Prop where
  replaced : ∀ o t h, (r.perform (.register o t h)).2 = lastHandler calls o t
  isRegistered : ∀ o t, r.isRegistered o t ↔ ∃ h, .register o t h ∈ calls
  handlerCount : r.handlerCount = (calls.filterMap Call.place?).dedup.length
  pluginCount : r.pluginCount = (calls.map Call.owner).dedup.length
  isEmpty : r.isEmpty ↔ ∀ o t h, .register o t h ∉ calls

theorem Mirrors.mem_places (h : r.Mirrors calls) {o : PluginId} {t : κ} :
    (o, t) ∈ r.places ↔ ∃ handler, .register o t handler ∈ calls := by
  rw [mem_places_iff, h.handlers, isSome_lastHandler]

theorem Mirrors.handlerCount (h : r.Mirrors calls) :
    r.handlerCount = (calls.filterMap Call.place?).dedup.length := by
  rw [handlerCount_eq]
  refine ((List.perm_ext_iff_of_nodup r.nodup_places (List.nodup_dedup _)).2 ?_).length_eq
  rintro ⟨o, t⟩
  rw [h.mem_places, List.mem_dedup, Registry.mem_places]

theorem Mirrors.pluginCount (h : r.Mirrors calls) :
    r.pluginCount = (calls.map Call.owner).dedup.length := by
  have hkeys : r.pluginCount = r.entries.keys.length := (List.length_map _).symm
  rw [hkeys]
  refine ((List.perm_ext_iff_of_nodup r.entries.nodup_keys (List.nodup_dedup _)).2 fun o => ?_).length_eq
  rw [SortedMap.mem_keys, List.mem_dedup, ← h.isSome_name?, name?, Option.isSome_map]

theorem Mirrors.isEmpty (h : r.Mirrors calls) : r.isEmpty ↔ ∀ o t h, .register o t h ∉ calls := by
  rw [Registry.isEmpty, beq_iff_eq, handlerCount_eq, List.length_eq_zero_iff,
    List.eq_nil_iff_forall_not_mem]
  constructor
  · exact fun hnone o t handler hc => hnone (o, t) (h.mem_places.2 ⟨handler, hc⟩)
  · rintro hnone ⟨o, t⟩ hmem
    obtain ⟨handler, hc⟩ := h.mem_places.1 hmem
    exact hnone o t handler hc

theorem Mirrors.answers (h : r.Mirrors calls) : r.Answers calls where
  replaced o t _ := h.handlers o t
  isRegistered o t := by rw [Registry.isRegistered, h.handlers, isSome_lastHandler]
  handlerCount := h.handlerCount
  pluginCount := h.pluginCount
  isEmpty := h.isEmpty

end Content

/-! ### Whom an event reaches -/

section Dispatch

variable {ρ ω ε : Type} [EventTag κ]

theorem mem_handlersFor {r : Registry κ (Handler ρ ω ε)} {o : PluginId} {t : κ} {h : Handler ρ ω ε} :
    (o, h) ∈ handlersFor t r.entries.toList ↔ r.handler? o t = some h := by
  rw [handlersFor, List.mem_filterMap, handler?, Option.bind_eq_some_iff]
  constructor
  · rintro ⟨p, hp, hget⟩
    obtain ⟨h', hh, heq⟩ := Option.map_eq_some_iff.1 hget
    obtain ⟨rfl, rfl⟩ := Prod.mk.inj heq
    exact ⟨p.2, SortedMap.get?_eq_some_iff.2 hp, hh⟩
  · rintro ⟨e, he, hh⟩
    exact ⟨(o, e), SortedMap.get?_eq_some_iff.1 he, Option.map_eq_some_iff.2 ⟨h, hh, rfl⟩⟩

/-- Handlers for a tag stand in the order of their owners' positions. -/
theorem ascending_handlersFor (r : Registry κ (Handler ρ ω ε)) (t : κ) :
    (handlersFor t r.entries.toList).Pairwise fun p q => p.1 < q.1 := by
  refine List.pairwise_filterMap.2 (r.entries.sorted.imp fun hlt p hp q hq => ?_)
  obtain ⟨_, -, rfl⟩ := Option.map_eq_some_iff.1 hp
  obtain ⟨_, -, rfl⟩ := Option.map_eq_some_iff.1 hq
  exact Nat.compare_eq_lt.1 hlt

variable [Tagged ε κ] [DecidableEq κ]

/-- Whatever was enrolled and registered in whichever order, a registry mirrors the calls and answers
    accordingly; an event goes to the handlers registered last for its tag, by position; and after
    calls that differ in nothing written last, the registry is the same and so is every delivery. -/
theorem registry_mirrors_calls (calls : List (Call κ (Handler ρ ω ε))) :
    let r := ofCalls calls
    r.Mirrors calls ∧ r.Answers calls ∧
    (∀ (ctx : ρ) (event : ε) (w : ω), ∃ receivers : List (PluginId × Handler ρ ω ε),
      receivers.Pairwise (fun p q => p.1 < q.1) ∧
      (∀ o h, (o, h) ∈ receivers ↔ lastHandler calls o (tag event) = some h) ∧
      (r.dispatch ctx event w).trace.calls = (callEach ctx event receivers w).calls ∧
      (r.dispatch ctx event w).world = (callEach ctx event receivers w).world) ∧
    ∀ calls' : List (Call κ (Handler ρ ω ε)),
      (∀ o, lastName calls' o = lastName calls o) →
      (∀ o t, lastHandler calls' o t = lastHandler calls o t) →
      ofCalls calls' = r ∧ ∀ (ctx : ρ) (event : ε) (w : ω),
        (ofCalls calls').dispatch ctx event w = r.dispatch ctx event w := by
  intro r
  have hr : r.Mirrors calls := mirrors_ofCalls calls
  refine ⟨hr, hr.answers, fun ctx event w => ?_, fun calls' names handlers => ?_⟩
  · obtain ⟨hcalls, hworld, -⟩ := dispatch_entries r ctx event w
    refine ⟨_, ascending_handlersFor r (tag event), fun o h => ?_, hcalls, hworld⟩
    rw [mem_handlersFor, hr.handlers]
  · have hr' := mirrors_ofCalls calls'
    have hsame : ofCalls calls' = r := by
      refine ext_lookups (fun o => ?_) fun o t => ?_
      · -- whoever was called for had something written
        have howners : o ∈ calls'.map Call.owner ↔ o ∈ calls.map Call.owner := by
          simp only [mem_owners, names, handlers]
        simp only [hr'.names, hr.names, howners, names]
      · rw [hr'.handlers, hr.handlers, handlers]
    exact ⟨hsame, fun ctx event w => by rw [hsame]⟩

end Dispatch

/-- A handler that leaves its owner's name for later handlers to find. -/
def signing (name : String) (outcome : Outcome Unit) : Handler Unit (List String) ExecutionEvent :=
  fun _ _ w => ⟨outcome, w ++ [name], []⟩

/-- Two plugins in two orders, one of them under another name and with another handler before: the one
    at the lower position is called first either way. -/
theorem registry_mirrors_calls_reordered :
    let calls : List (Call ExecutionTag (Handler Unit (List String) ExecutionEvent)) :=
      [.register 10 .commit (signing "ten" (.ok ())), .enroll 2 "two",
        .register 2 .commit (signing "two" (.failed ⟨"full", []⟩))]
    let calls' : List (Call ExecutionTag (Handler Unit (List String) ExecutionEvent)) :=
      [.enroll 2 "old", .register 2 .commit (signing "old" (.ok ())),
        .register 2 .commit (signing "two" (.failed ⟨"full", []⟩)),
        .register 10 .commit (signing "ten" (.ok ())), .enroll 2 "two"]
    let done := (ofCalls calls').dispatch () (.commit ⟨1⟩) []
    ofCalls calls' = ofCalls calls ∧ done = (ofCalls calls).dispatch () (.commit ⟨1⟩) [] ∧
      done.world = ["two", "ten"] ∧ done.report.failures.map (·.plugin) = ["two"] := by
  intro calls calls' done
  have names : ∀ o, lastName calls' o = lastName calls o := fun o => by
    by_cases ho : 2 = o
    · subst ho
      rfl
    · simp only [calls, calls', lastName, List.filterMap, Call.nameFor?, if_neg ho]
  have handlers : ∀ o t, lastHandler calls' o t = lastHandler calls o t := fun o t => by
    by_cases hten : 10 = o ∧ ExecutionTag.commit = t
    · obtain ⟨rfl, rfl⟩ := hten
      rfl
    · by_cases htwo : 2 = o ∧ ExecutionTag.commit = t
      · obtain ⟨rfl, rfl⟩ := htwo
        rfl
      · simp only [calls, calls', lastHandler, List.filterMap, Call.handlerFor?, if_neg hten,
          if_neg htwo]
  obtain ⟨hsame, hdone⟩ := (registry_mirrors_calls calls).2.2.2 calls' names handlers
  exact ⟨hsame, hdone () (.commit ⟨1⟩) [], rfl, rfl⟩

end PluginFabric.Registry
