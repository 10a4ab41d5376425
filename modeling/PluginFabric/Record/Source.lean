import PluginFabric.SortedMap

/-! Where the fields of a record come from.

    A record is read from an object, by the names of its fields, or from a list, by their positions.
    Unknown members of an object are left alone, a list may not have more elements than the record
    has fields. What the absence of a field means depends on the field: a required one must be there,
    an optional one may be missing from an object but not from a list, and one with a default may be
    missing from either. The reader of a field decides what its value may be; a default does not
    excuse a value of the wrong kind. -/

namespace PluginFabric.Record

/-- The fields of a record as they were given, over the values `ν` of a data format. -/
inductive Source (ν : Type) where
  | members (ms : List (String × ν))
  | elements (xs : List ν)

/-- What a source has for one field. -/
inductive Slot (ν : Type) where
  | given (v : ν)
  | absentMember
  | absentElement

namespace Source

variable {ν α : Type}

/-- A list as the source of a record of `arity` fields. -/
def ofElements? (arity : Nat) (xs : List ν) : Option (Source ν) :=
  if xs.length ≤ arity then some (.elements xs) else none

/-- What the source has for the field of this position and name. -/
def slot (s : Source ν) (position : Nat) (name : String) : Slot ν :=
  match s with
  | members ms => match SortedMap.lookup name ms with
    | some v => .given v
    | none => .absentMember
  | elements xs => match xs[position]? with
    | some v => .given v
    | none => .absentElement

/-- A field that must be there. -/
def required (s : Source ν) (position : Nat) (name : String) (read : ν → Option α) : Option α :=
  match s.slot position name with
  | .given v => read v
  | _ => none

/-- A field that an object may lack. -/
def optional (s : Source ν) (position : Nat) (name : String) (read : ν → Option (Option α)) :
    Option (Option α) :=
  match s.slot position name with
  | .given v => read v
  | .absentMember => some none
  | .absentElement => none

/-- A field that is `fallback` where it is missing. -/
def defaulted (s : Source ν) (position : Nat) (name : String) (fallback : α) (read : ν → Option α) :
    Option α :=
  match s.slot position name with
  | .given v => read v
  | _ => some fallback

end Source

end PluginFabric.Record
