import PluginFabric.Config.Engine
import PluginFabric.Yaml.Node

/-! The engine configuration as a YAML document.

    A plain scalar is taken literally where a text is wanted, and is a number or a truth value only
    where one is wanted; a quoted scalar is neither. Nothing written is a section without members, and
    also no value where one is optional. A member of a section may be given only once, except for
    free-form properties, of which the last one counts; unknown members are left alone. -/

namespace PluginFabric.Yaml

/-- The spellings of no value. -/
def isNullWord (s : String) : Bool := s = "null" || s = "Null" || s = "NULL" || s = "~"

def boolWord? (s : String) : Option Bool :=
  if s = "true" || s = "True" || s = "TRUE" then some true
  else if s = "false" || s = "False" || s = "FALSE" then some false
  else none

/-- The bases other than ten, by the mark in front of their numbers. -/
def bases : List (List Char × Nat) := [(['0', 'x'], 16), (['0', 'o'], 8), (['0', 'b'], 2)]

/-- A number after the mark of its base. -/
def marked? (cs : List Char) : Option Nat :=
  (bases.find? fun b => b.1 == cs.take 2).bind fun b => Text.digits? b.2 (cs.drop 2)

/-- Digits that begin with a zero are a number only if they are that zero. -/
def decimal? (cs : List Char) : Option Nat :=
  if 1 < cs.length && cs.head? = some '0' then none else Text.natural? cs

/-- The number that a word denotes, in any base. -/
def natural? (cs : List Char) : Option Nat :=
  match cs with
  | '+' :: ds => (marked? ds).or (decimal? ds)
  | _ => (marked? cs).or (decimal? cs)

/-- The integer that a word denotes, in any base. -/
def integer? (cs : List Char) : Option Int :=
  match cs with
  | '-' :: ds => ((marked? ds).or (decimal? ds)).map fun n => -(n : Int)
  | _ => (natural? cs).map fun n => (n : Int)

/-- The full form of a standard tag. -/
def standardTag (kind : String) : Tag := Tag.ofText ("tag:yaml.org,2002:" ++ kind)

namespace Document

variable {α : Type} (d : Document)

/-- Whether a node is what stands where nothing is written. -/
def isNothing (n : Node) : Bool :=
  match d.resolve n with
  | .scalar _ style text => style = .plain && text = ""
  | _ => false

/-- The text of any scalar. -/
def text? (n : Node) : Option String :=
  match d.resolve n with
  | .scalar _ _ text => some text
  | _ => none

/-- The word of a scalar that may be other than text: a plain one, or a literal block tagged so. -/
def word? (kind : String) (n : Node) : Option String :=
  match d.resolve n with
  | .scalar tag style text =>
    if style = .plain || (style = .literal && tag = some (standardTag kind)) then some text else none
  | _ => none

def bool? (n : Node) : Option Bool := (d.word? "bool" n).bind boolWord?

def uint64? (n : Node) : Option UInt64 :=
  (d.word? "int" n).bind fun word =>
    (natural? word.toList).bind fun v => if Text.fitsUnsigned64 v then some (.ofNat v) else none

def int64? (n : Node) : Option Int64 :=
  (d.word? "int" n).bind fun word =>
    (integer? word.toList).bind fun v => if Text.fitsSigned64 v then some (.ofInt v) else none

/-- No value, or one that is read. A plain scalar that is tagged as null must be spelt so. -/
def nullable? (read : Node → Option α) (n : Node) : Option (Option α) :=
  match d.resolve n with
  | .scalar (some tag) .plain text =>
    if tag = standardTag "null" then (if isNullWord text then some none else none)
    else (read n).map some
  | .scalar none .plain text => if text = "" || isNullWord text then some none else (read n).map some
  | _ => (read n).map some

/-- The entries of a sequence. -/
def listOf? (read : Node → Option α) (n : Node) : Option (List α) :=
  if d.isNothing n then some []
  else match d.resolve n with
    | .sequence entries => entries.mapM read
    | _ => none

/-- The pairs of a mapping, whose keys must be scalars. -/
def pairs? (n : Node) : Option (List (String × Node)) :=
  if d.isNothing n then some []
  else match d.resolve n with
    | .mapping entries => entries.mapM fun e => (d.text? e.1).map (·, e.2)
    | _ => none

/-- A mapping of texts. -/
def texts? (n : Node) : Option (SortedMap String String) :=
  (d.pairs? n).bind fun ps => (ps.mapM fun p => (d.text? p.2).map (p.1, ·)).map SortedMap.ofList

/-- A mapping as the source of a record with these fields, none of which may be given twice. -/
def source? (fields : List String) (n : Node) : Option (Record.Source Node) := do
  let ps ← d.pairs? n
  if fields.all fun f => ps.countP (·.1 == f) ≤ 1 then return .members ps else none

/-! ### The sections -/

def plugins? (n : Node) : Option PluginsConfig := do
  let s ← d.source? ["dagSetup", "execution"] n
  return {
    dagSetup := ← s.defaulted 0 "dagSetup" [] (d.listOf? d.text?)
    execution := ← s.defaulted 1 "execution" [] (d.listOf? d.text?) }

def window? (n : Node) : Option WindowConfig := do
  let s ← d.source? ["widthMillis", "firstWindowMillis"] n
  return {
    widthMillis := ← s.defaulted 0 "widthMillis" none (d.nullable? d.uint64?)
    firstWindowMillis := ← s.defaulted 1 "firstWindowMillis" none (d.nullable? d.int64?) }

def logging? (n : Node) : Option LoggingConfig := do
  let s ← d.source? ["level", "dir", "json"] n
  return {
    level := ← s.defaulted 0 "level" none (d.nullable? d.text?)
    dir := ← s.defaulted 1 "dir" none (d.nullable? d.text?)
    json := ← s.defaulted 2 "json" none (d.nullable? d.bool?) }

def engine? (n : Node) : Option EngineConfig := do
  let s ← d.source? ["plugins", "window", "logging", "properties"] n
  return {
    plugins := ← s.defaulted 0 "plugins" none (d.nullable? d.plugins?)
    window := ← s.defaulted 1 "window" none (d.nullable? d.window?)
    logging := ← s.defaulted 2 "logging" none (d.nullable? d.logging?)
    properties := ← s.defaulted 3 "properties" ∅ d.texts? }

end Document

end PluginFabric.Yaml

namespace PluginFabric

/-- The configuration that a YAML text describes; it may hold one document, and none is the empty
    configuration. -/
def EngineConfig.ofYaml? (s : String) : Option EngineConfig := do
  match ← Yaml.documents? s with
  | [] => return {}
  | [d] => d.engine? d.root
  | _ => none

end PluginFabric
