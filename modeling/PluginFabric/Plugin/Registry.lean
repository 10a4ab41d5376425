import PluginFabric.Event.Tag
import PluginFabric.Plugin.Contract

/-! The registry of handlers, and dispatch.

    A plugin holds at most one handler for each tag; a later one takes the place of an earlier one.
    An event goes to every plugin with a handler for its tag, in the order of their identities and
    whatever order they registered in, and each handler finds the world as the handlers before it left
    it. A handler that fails or panics is reported, and the next plugin still gets the event. -/

namespace PluginFabric

/-- What the registry knows of one plugin. -/
structure RegistryEntry (κ η : Type) [Ord κ] where
  name : String
  handlers : SortedMap κ η

/-- The handlers `η` of the plugins of one domain, by identity and tag. -/
structure Registry (κ η : Type) [Ord κ] where
  entries : SortedMap PluginId (RegistryEntry κ η)

/-- A failure of a handler that was contained. -/
structure HandlerFailure where
  pluginId : PluginId
  plugin : String
  eventType : String
  error : String
  panicked : Bool
  deriving DecidableEq, Inhabited

/-- The record that is written of a failure. -/
def HandlerFailure.record (f : HandlerFailure) : FailureRecord :=
  .dispatch f.plugin f.pluginId f.eventType f.error f.panicked

/-- What happened in one dispatch: how many handlers succeeded, and who failed. -/
structure DispatchReport where
  delivered : Nat := 0
  failures : List HandlerFailure := []
  deriving DecidableEq, Inhabited

namespace DispatchReport

/-- How many handlers were called. -/
def attempted (r : DispatchReport) : Nat := r.delivered + r.failures.length

def isClean (r : DispatchReport) : Bool := r.failures.isEmpty

end DispatchReport

/-- What a dispatch leaves behind. -/
structure Delivery (ω ε : Type) where
  report : DispatchReport
  world : ω
  trace : Trace ε

namespace Registry

section Content

variable {κ η : Type} [EventTag κ]

def empty : Registry κ η := ⟨∅⟩

/-- Sets the name under which a plugin is reported. -/
def enroll (r : Registry κ η) (owner : PluginId) (name : String) : Registry κ η :=
  ⟨r.entries.insert owner (match r.entries.get? owner with
    | some e => { e with name }
    | none => ⟨name, ∅⟩)⟩

/-- The entry that a registration goes to: an owner that was not enrolled is named by its identity. -/
def entryFor (r : Registry κ η) (owner : PluginId) : RegistryEntry κ η :=
  (r.entries.get? owner).getD ⟨owner.label, ∅⟩

/-- The handler that an owner has for a tag. -/
def handler? (r : Registry κ η) (owner : PluginId) (t : κ) : Option η :=
  (r.entries.get? owner).bind fun e => e.handlers.get? t

/-- Registers a handler in place of the one the owner had for the tag. -/
def register (r : Registry κ η) (owner : PluginId) (t : κ) (h : η) : Registry κ η :=
  let e := r.entryFor owner
  ⟨r.entries.insert owner { e with handlers := e.handlers.insert t h }⟩

/-- What is said of a registration: something only if it takes a place. -/
def registerNotices (r : Registry κ η) (owner : PluginId) (t : κ) : List Notice :=
  if (r.handler? owner t).isSome then
    [.handlerReplaced (r.entryFor owner).name owner (tagName t)]
  else []

def isRegistered (r : Registry κ η) (owner : PluginId) (t : κ) : Bool := (r.handler? owner t).isSome

/-- The handlers of all plugins, counted. -/
def handlerCount (r : Registry κ η) : Nat := r.entries.values.foldr (fun e n => e.handlers.size + n) 0

def pluginCount (r : Registry κ η) : Nat := r.entries.size

def isEmpty (r : Registry κ η) : Bool := r.handlerCount == 0

end Content

section Dispatch

variable {ρ ω ε κ : Type} [EventTag κ] [Tagged ε κ]

/-- Makes registrations one after the other. -/
def registerAll (r : Registry κ (Handler ρ ω ε)) (owner : PluginId) :
    List (Registration ρ ω ε κ) → Registry κ (Handler ρ ω ε) × List Notice
  | [] => (r, [])
  | g :: rest =>
    let (after, notices) := (r.register owner g.tag g.handler).registerAll owner rest
    (after, r.registerNotices owner g.tag ++ notices)

/-- Delivers an event to those of the plugins that have a handler for it, one after the other. -/
def deliver (ctx : ρ) (event : ε) :
    List (PluginId × RegistryEntry κ (Handler ρ ω ε)) → ω → Delivery ω ε
  | [], w => ⟨{}, w, []⟩
  | (id, entry) :: rest, w =>
    match entry.handlers.get? (tag event) with
    | none => deliver ctx event rest w
    | some handler =>
      let done := handler ctx event w
      let later := deliver ctx event rest done.world
      let type := tagName (tag event)
      let before := Occurrence.said (.dispatching entry.name id type) :: .handling id event done.outcome ::
        Trace.ofNotices done.notices
      match done.outcome.failure? with
      | none => ⟨{ later.report with delivered := later.report.delivered + 1 }, later.world,
          before ++ later.trace⟩
      | some (error, panicked) =>
        let failure : HandlerFailure := ⟨id, entry.name, type, error, panicked⟩
        ⟨{ later.report with failures := failure :: later.report.failures }, later.world,
          before ++ .contained failure.record :: later.trace⟩

/-- Delivers an event to every plugin with a handler for its tag, by identity. -/
def dispatch (r : Registry κ (Handler ρ ω ε)) (ctx : ρ) (event : ε) (w : ω) : Delivery ω ε :=
  let done := deliver ctx event r.entries.toList w
  { done with trace := .dispatching event :: done.trace }

end Dispatch

end Registry

end PluginFabric
