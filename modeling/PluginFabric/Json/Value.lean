import PluginFabric.Binary64
import PluginFabric.SortedMap

/-! Values without a fixed shape.

    The detail of a master event, the metrics of an operator and a configuration on its way through
    substitution are trees of this type. Integers and floating point numbers are different values:
    `2` and `2.0` are both kept as they were given. The members of an object are listed by key in
    increasing order of code points, each key once; `Json.object` builds them so from any list. -/

namespace PluginFabric

/-- A tree of nulls, truth values, numbers, texts, lists and objects. -/
inductive Json where
  | null
  | bool (b : Bool)
  | int (n : Int)
  | float (x : Binary64)
  | str (s : String)
  | arr (elements : List Json)
  | obj (members : List (String × Json))
  deriving Inhabited

namespace Json

/-- The object with these members; of several with one key the last counts. -/
def object (members : List (String × Json)) : Json := .obj (SortedMap.ofList members).toList

/-- The object with the bindings of a map as its members. -/
def ofMap (m : SortedMap String Json) : Json := .obj m.toList

/-- The member under a key, if this is an object that has it. -/
def member? (key : String) : Json → Option Json
  | .obj members => SortedMap.lookup key members
  | _ => none

/-- Equality of values, with numbers of one kind compared as numbers. -/
def same : Json → Json → Bool
  | .null, .null => true
  | .bool a, .bool b => a == b
  | .int a, .int b => a == b
  | .float a, .float b => a.sameNumber b
  | .str a, .str b => a == b
  | .arr xs, .arr ys => sameList xs ys
  | .obj xs, .obj ys => sameMembers xs ys
  | _, _ => false
where
  sameList : List Json → List Json → Bool
    | [], [] => true
    | x :: xs, y :: ys => same x y && sameList xs ys
    | _, _ => false
  sameMembers : List (String × Json) → List (String × Json) → Bool
    | [], [] => true
    | (k, x) :: xs, (l, y) :: ys => k == l && same x y && sameMembers xs ys
    | _, _ => false

end Json

end PluginFabric
