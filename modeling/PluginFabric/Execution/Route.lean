import PluginFabric.Event.Execution
import PluginFabric.Execution.Environment
import PluginFabric.Handoff

/-! The ways in which an execution plugin registers a handler.

    Besides a handler for a tag there are shorthands for each kind of event, whose code gets the
    payload itself, and the forwarding of events to a hand-off. Code for a payload is not run for an
    event without it. -/

namespace PluginFabric

abbrev ExecutionPlugin (δ σ : Type) := Plugin (Environment δ) σ ExecutionEvent ExecutionTag

abbrev ExecutionRegistration (δ σ : Type) :=
  Registration (Environment δ) σ ExecutionEvent ExecutionTag

namespace Route

variable {δ σ π : Type}

/-- A handler that runs `code` on the payload of an event, and nothing where there is none. -/
def onPayload (payload? : ExecutionEvent → Option π) (code : Environment δ → π → σ → Completion σ Unit) :
    Handler (Environment δ) σ ExecutionEvent :=
  fun env event w => match payload? event with
    | some p => code env p w
    | none => ⟨.ok (), w, []⟩

def onHeartbeat (code : Environment δ → ContainerHeartbeat → σ → Completion σ Unit) :
    ExecutionRegistration δ σ :=
  ⟨.heartbeat, onPayload ExecutionEvent.heartbeat? code⟩

def onMasterEvent (code : Environment δ → MasterEvent → σ → Completion σ Unit) :
    ExecutionRegistration δ σ :=
  ⟨.masterEvent, onPayload ExecutionEvent.master? code⟩

def onCommit (code : Environment δ → WindowId → σ → Completion σ Unit) : ExecutionRegistration δ σ :=
  ⟨.commit, onPayload ExecutionEvent.commitWindow? code⟩

/-- Forwards the events of a tag to the hand-off that `get` and `put` find in the world. -/
def forwarder {α : Type} (get : σ → Option (Handoff α)) (put : σ → Handoff α → σ) (tag : ExecutionTag)
    (map : ExecutionEvent → Option α) : ExecutionRegistration δ σ :=
  ⟨tag, fun _ event w => match get w with
    | none => ⟨.ok (), w, []⟩
    | some h =>
      let done := h.forward map event
      ⟨done.outcome, put w done.world, done.notices⟩⟩

end Route

end PluginFabric
