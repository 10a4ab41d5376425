import PluginFabric.Json.Field
import PluginFabric.Text.Items

/-! The flat properties that plugins receive.

    A configuration maps dotted names to values. A property marked final keeps its value: a later
    write to it is refused and changes nothing. Values are texts; the typed getters read them with
    blanks around them ignored, and complain with the text as it stands. -/

namespace PluginFabric

/-- One property. -/
structure PropertyEntry where
  value : String
  isFinal : Bool := false
  description : Option String := none
  deriving DecidableEq, Inhabited

namespace PropertyEntry

def decode (j : Json) : Option PropertyEntry := do
  let s ← j.source? 3
  return {
    value := ← s.required 0 "value" Json.text?
    isFinal := ← s.defaulted 1 "is_final" false Json.bool?
    description := ← s.defaulted 2 "description" none (Json.nullable? Json.text?) }

def encode (e : PropertyEntry) : Json := .object ([
  ("value", .str e.value),
  ("is_final", .bool e.isFinal)] ++
  Json.optionalMember "description" .str e.description)

end PropertyEntry

/-- The kinds of values that the typed getters read. -/
inductive ValueKind where | boolean | unsignedInteger | integer | number
  deriving DecidableEq, Inhabited

def ValueKind.text : ValueKind → String
  | boolean => "boolean"
  | unsignedInteger => "unsigned integer"
  | integer => "integer"
  | number => "number"

/-- What a configuration refuses. -/
inductive PropertyError where
  | finalOverride (key : String)
  | invalidValue (key value : String) (expected : ValueKind)
  deriving DecidableEq, Inhabited

def PropertyError.message : PropertyError → String
  | finalOverride key => "property '" ++ key ++ "' is final and cannot be overridden"
  | invalidValue key value expected =>
    "property '" ++ key ++ "' has value '" ++ value ++ "' which is not a valid " ++ expected.text

/-- The properties of one launch, by name. -/
structure Configuration where
  entries : SortedMap String PropertyEntry := ∅
  deriving DecidableEq, Inhabited

namespace Configuration

def empty : Configuration := {}

def entry? (c : Configuration) (key : String) : Option PropertyEntry := c.entries.get? key

def get? (c : Configuration) (key : String) : Option String := (c.entry? key).map (·.value)

def contains (c : Configuration) (key : String) : Bool := c.entries.contains key

def isFinal (c : Configuration) (key : String) : Bool := (c.entry? key).any (·.isFinal)

def size (c : Configuration) : Nat := c.entries.size

/-- The names and values, by name. -/
def toList (c : Configuration) : List (String × String) := (c.entries.mapValues (·.value)).toList

/-- Writes a property, keeping the description it may have. -/
def put (c : Configuration) (key value : String) (isFinal : Bool) : Except PropertyError Configuration :=
  match c.entry? key with
  | none => .ok ⟨c.entries.insert key { value, isFinal }⟩
  | some old =>
    if old.isFinal then .error (.finalOverride key)
    else .ok ⟨c.entries.insert key { old with value, isFinal }⟩

/-- Writes a property that later writes may change. -/
def set (c : Configuration) (key value : String) : Except PropertyError Configuration :=
  c.put key value false

/-- Writes a property for good. -/
def setFinal (c : Configuration) (key value : String) : Except PropertyError Configuration :=
  c.put key value true

/-- Describes a property; there is nothing to describe where it is missing. -/
def describe (c : Configuration) (key description : String) : Option Configuration :=
  (c.entry? key).map fun old => ⟨c.entries.insert key { old with description := some description }⟩

/-- The configuration without a property. -/
def remove (c : Configuration) (key : String) : Configuration := ⟨c.entries.erase key⟩

/-- Removes a property, and tells what it was. -/
def takeOut (c : Configuration) (key : String) : Option PropertyEntry × Configuration :=
  (c.entry? key, c.remove key)

/-- The configuration of a list of names and values; of several with one name the last counts. -/
def ofList (pairs : List (String × String)) : Configuration :=
  ⟨SortedMap.ofList (pairs.map fun p => (p.1, { value := p.2 }))⟩

/-! ### Typed values -/

/-- The value of a property as it is read, or a complaint that quotes it. -/
def read {α : Type} (c : Configuration) (key : String) (expected : ValueKind)
    (parse : List Char → Option α) : Except PropertyError (Option α) :=
  match c.get? key with
  | none => .ok none
  | some raw => match parse (Text.trim raw.toList) with
    | some a => .ok (some a)
    | none => .error (.invalidValue key raw expected)

/-- A truth value, in any case of its letters. -/
def boolean? (cs : List Char) : Option Bool :=
  let word := String.ofList (cs.map Char.toLower)
  if word = "true" then some true
  else if word = "false" then some false
  else none

def getBool (c : Configuration) (key : String) : Except PropertyError (Option Bool) :=
  c.read key .boolean boolean?

def getUnsigned (c : Configuration) (key : String) : Except PropertyError (Option Nat) :=
  c.read key .unsignedInteger Text.unsigned64?

def getInteger (c : Configuration) (key : String) : Except PropertyError (Option Int) :=
  c.read key .integer Text.signed64?

def getNumber (c : Configuration) (key : String) : Except PropertyError (Option Binary64) :=
  c.read key .number Binary64.ofText?

/-- The items of a list-valued property; a missing one has none. -/
def getList (c : Configuration) (key : String) : List String :=
  ((c.get? key).map Text.items).getD []

def decode (j : Json) : Option Configuration := (j.mapOf? PropertyEntry.decode).map .mk

def encode (c : Configuration) : Json := .ofMap (c.entries.mapValues PropertyEntry.encode)

end Configuration

end PluginFabric
