import PluginFabric.Json.Value
import PluginFabric.Record.Source

/-! Reading and writing the values of record fields.

    Nothing is coerced: a text is read from a text only, an integer from an integer within the bounds
    of its field, and only a floating point field accepts both kinds of numbers. Every integer within
    the bounds of a field is its own written form. -/

namespace PluginFabric.Json

variable {α : Type}

def text? : Json → Option String
  | .str s => some s
  | _ => none

def bool? : Json → Option Bool
  | .bool b => some b
  | _ => none

def int? : Json → Option Int
  | .int n => some n
  | _ => none

def uint64? (j : Json) : Option UInt64 :=
  j.int?.bind fun n => if 0 ≤ n ∧ n < UInt64.size then some (.ofNat n.toNat) else none

def uint32? (j : Json) : Option UInt32 :=
  j.int?.bind fun n => if 0 ≤ n ∧ n < UInt32.size then some (.ofNat n.toNat) else none

def int64? (j : Json) : Option Int64 :=
  j.int?.bind fun n => if Int64.minValue.toInt ≤ n ∧ n ≤ Int64.maxValue.toInt then some (.ofInt n) else none

def int32? (j : Json) : Option Int32 :=
  j.int?.bind fun n => if Int32.minValue.toInt ≤ n ∧ n ≤ Int32.maxValue.toInt then some (.ofInt n) else none

def binary64? : Json → Option Binary64
  | .float x => some x
  | .int n => some (.ofInt n)
  | _ => none

/-- A list with every element read. -/
def listOf? (read : Json → Option α) : Json → Option (List α)
  | .arr xs => xs.mapM read
  | _ => none

/-- An object with every member read. -/
def mapOf? (read : Json → Option α) : Json → Option (SortedMap String α)
  | .obj ms => (ms.mapM fun m => (read m.2).map (m.1, ·)).map SortedMap.ofList
  | _ => none

/-- Null, or something else that is read. -/
def nullable? (read : Json → Option α) : Json → Option (Option α)
  | .null => some none
  | j => (read j).map some

/-- An object or a list as the source of a record of `arity` fields. -/
def source? (arity : Nat) : Json → Option (Record.Source Json)
  | .obj ms => some (.members ms)
  | .arr xs => Record.Source.ofElements? arity xs
  | _ => none

/-- The name of one of several alternatives: a text, or an object of one member that is null. -/
def label? : Json → Option String
  | .str s => some s
  | .obj [(s, .null)] => some s
  | _ => none

def ofUInt64 (n : UInt64) : Json := .int n.toNat
def ofUInt32 (n : UInt32) : Json := .int n.toNat
def ofInt64 (n : Int64) : Json := .int n.toInt
def ofInt32 (n : Int32) : Json := .int n.toInt

/-- A floating point number; what is not finite has no written form and becomes null. -/
def ofBinary64 (x : Binary64) : Json := if x.isFinite then .float x else .null

/-- A written option, null where there is nothing. -/
def ofOption (write : α → Json) : Option α → Json
  | none => .null
  | some a => write a

/-- A member that is left out where there is nothing. -/
def optionalMember (name : String) (write : α → Json) : Option α → List (String × Json)
  | none => []
  | some a => [(name, write a)]

end PluginFabric.Json
