import PluginFabric.Text.Items

/-! How plugin code ends.

    Plugin code runs behind a guard: it may succeed, fail with an error that carries the errors
    behind it, or panic with some payload. Where a failure has to be passed on, a panic is turned into
    an error of its own. -/

namespace PluginFabric

/-- An error and, outermost first, what it was caused by. -/
structure Fault where
  message : String
  causes : List String := []
  deriving DecidableEq, Inhabited

namespace Fault

/-- The messages of an error and its causes, outermost first. -/
def chain (f : Fault) : List String := f.message :: f.causes

/-- The whole chain in one line. -/
def line (f : Fault) : String := Text.joinWith ": " f.chain

/-- The error whose chain is this list. -/
def ofChain : List String → Fault
  | [] => ⟨"", []⟩
  | message :: causes => ⟨message, causes⟩

end Fault

/-- What a panic was raised with: a text, or something that cannot be shown. -/
inductive PanicPayload where
  | text (s : String)
  | other
  deriving DecidableEq, Inhabited

def PanicPayload.message : PanicPayload → String
  | text s => s
  | other => "non-string panic payload"

/-- How a piece of guarded code ended, with its value if it succeeded. -/
inductive Outcome (α : Type) where
  | ok (a : α)
  | failed (f : Fault)
  | panicked (p : PanicPayload)
  deriving DecidableEq, Inhabited

namespace Outcome

variable {α β : Type}

/-- The outcome with its value changed. -/
def map (f : α → β) : Outcome α → Outcome β
  | ok a => ok (f a)
  | failed e => failed e
  | panicked p => panicked p

/-- The outcome as a result to pass on: a panic becomes an error that quotes its message. -/
def toExcept : Outcome α → Except Fault α
  | ok a => .ok a
  | failed f => .error f
  | panicked p => .error ⟨"panicked: " ++ p.message, []⟩

/-- What is reported of an outcome that is no success: its text, and whether it was a panic. -/
def failure? : Outcome α → Option (String × Bool)
  | ok _ => none
  | failed f => some (f.line, false)
  | panicked p => some (p.message, true)

def isOk : Outcome α → Bool
  | ok _ => true
  | _ => false

theorem isOk_of_toExcept {o : Outcome α} {cause : Fault} (h : o.toExcept = .error cause) :
    o.isOk = false := by
  cases o <;> simp_all [toExcept, isOk]

theorem eq_ok_of_toExcept {o : Outcome α} {a : α} (h : o.toExcept = .ok a) : o = .ok a := by
  cases o <;> simp_all [toExcept]

end Outcome

end PluginFabric
