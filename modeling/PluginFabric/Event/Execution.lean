import PluginFabric.Event.Tag
import PluginFabric.Payload.Heartbeat
import PluginFabric.Payload.MasterEvent

/-! Events of a running application.

    The master's control loop raises three kinds of notifications, each with a payload of its own. -/

namespace PluginFabric

/-- The tags of the notifications of a running application. -/
inductive ExecutionTag where | heartbeat | masterEvent | commit
  deriving DecidableEq, Inhabited

namespace ExecutionTag

def all : List ExecutionTag := [heartbeat, masterEvent, commit]

/-- The place of a tag in their order. -/
def index : ExecutionTag → Nat
  | heartbeat => 0
  | masterEvent => 1
  | commit => 2

def name : ExecutionTag → String
  | heartbeat => "HEARTBEAT"
  | masterEvent => "MASTER_EVENT"
  | commit => "COMMIT"

/-- The text that shows a tag for diagnosis. -/
def diagnosis : ExecutionTag → String
  | heartbeat => "Heartbeat"
  | masterEvent => "MasterEvent"
  | commit => "Commit"

/-- The tag of a name. -/
def ofName? (s : String) : Option ExecutionTag := all.find? fun tag => tag.name == s

theorem index_injective {s t : ExecutionTag} (h : s.index = t.index) : s = t := by
  cases s <;> cases t <;> simp_all [index]

instance : Ord ExecutionTag := ⟨compareOn index⟩

instance : Std.TransOrd ExecutionTag := inferInstanceAs (Std.TransCmp (compareOn index))

instance : Std.LawfulEqOrd ExecutionTag where
  compare_self := Std.ReflCmp.compare_self
  eq_of_compare h := index_injective (Std.LawfulEqOrd.eq_of_compare h)

instance : EventTag ExecutionTag where
  tagName := name

end ExecutionTag

/-- A notification of a running application, with its payload. -/
inductive ExecutionEvent where
  | heartbeat (h : ContainerHeartbeat)
  | master (e : MasterEvent)
  | commit (w : WindowId)

namespace ExecutionEvent

def kind : ExecutionEvent → ExecutionTag
  | heartbeat _ => .heartbeat
  | master _ => .masterEvent
  | commit _ => .commit

instance : Tagged ExecutionEvent ExecutionTag := ⟨kind⟩

def heartbeat? : ExecutionEvent → Option ContainerHeartbeat
  | heartbeat h => some h
  | _ => none

def master? : ExecutionEvent → Option MasterEvent
  | master e => some e
  | _ => none

def commitWindow? : ExecutionEvent → Option WindowId
  | commit w => some w
  | _ => none

/-- Equality of events, with numbers in a master event's detail compared as numbers. -/
def same : ExecutionEvent → ExecutionEvent → Bool
  | heartbeat a, heartbeat b => a == b
  | master a, master b => a.same b
  | commit v, commit w => v == w
  | _, _ => false

/-- The payload as it is written. -/
def payload : ExecutionEvent → Json
  | heartbeat h => h.encode
  | master e => e.encode
  | commit w => w.encode

end ExecutionEvent

end PluginFabric
