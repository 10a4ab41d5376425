import PluginFabric.Binary64
import PluginFabric.Log.Pattern
import PluginFabric.Log.Record

/-! Which log records are wanted.

    A filter is a list of directives with commas between them. A directive is a level, or a target or a
    span or both and then, after `=`, a level; without a level it wants everything. A span may name a
    field, and that field a value. A directive speaks of the records whose target begins with its own
    and that have the field it names; one for a span or for the value of a field speaks of no record
    outside of spans. Of the directives that speak of a record the most specific one decides.

    Blanks around a directive do not count while its parts are told from each other, but the parts are
    then cut out of the text as it stands, by the numbers of their bytes. After blanks in front every
    part is therefore shifted, and a cut may fall into a character, which nothing survives. -/

namespace PluginFabric

/-- One directive of a filter; a verbosity of 0 wants nothing. -/
structure Directive where
  target : Option String := none
  field : Option String := none
  /-- Whether only records within some span are meant. -/
  withinSpan : Bool := false
  verbosity : Nat := 5
  deriving DecidableEq, Inhabited

/-- Why a text is no directive. -/
inductive DirectiveError where
  | unreadable
  /-- A part would begin or end within a character. -/
  | torn
  deriving DecidableEq, Inhabited

namespace Directive

/-! ### Parts of a text -/

/-- What comes before and after a number of bytes, unless that is within a character. -/
def splitBytes? : Nat → List Char → Option (List Char × List Char)
  | 0, cs => some ([], cs)
  | _ + 1, [] => none
  | n + 1, c :: cs =>
    if n + 1 < c.utf8Size then none
    else (splitBytes? (n + 1 - c.utf8Size) cs).map fun p => (c :: p.1, p.2)

/-- The part of a text from one byte to another. -/
def part (text : List Char) (start stop : Nat) : Except DirectiveError (List Char) :=
  match (splitBytes? stop text).bind fun front => splitBytes? start front.1 with
  | some p => .ok p.2
  | none => .error .torn

/-- The part of a text from a byte on. -/
def partFrom (text : List Char) (start : Nat) : Except DirectiveError (List Char) :=
  match splitBytes? start text with
  | some p => .ok p.2
  | none => .error .torn

/-! ### Levels and values -/

/-- The verbosities by name. -/
def verbosityNames : List (String × Nat) :=
  [("off", 0), ("error", 1), ("warn", 2), ("info", 3), ("debug", 4), ("trace", 5)]

/-- The verbosity that a word names, in any case. -/
def named? (cs : List Char) : Option Nat :=
  let word := String.ofList (cs.map Char.toLower)
  (verbosityNames.find? fun p => p.1 == word).map (·.2)

/-- The verbosity that a word denotes: a name or a number up to five. -/
def verbosity? (cs : List Char) : Option Nat := (named? cs).or ((Text.unsigned64? cs).filter (· ≤ 5))

/-- What the value of a field may be: a truth value, a number or a pattern. -/
def isValue (cs : List Char) : Bool :=
  cs == "true".toList || cs == "false".toList || (Text.unsigned64? cs).isSome ||
    (Text.signed64? cs).isSome || (Binary64.ofText? cs).isSome || Log.Pattern.isWellFormed cs

/-! ### Reading -/

/-- Where in a directive a reader is, with the byte at which the part it is in began. -/
inductive Place where
  | start
  | word
  | span (began : Nat)
  | field (began : Nat)
  /-- After the brace that ends a field. -/
  | fieldEnd
  /-- After the bracket that ends a span. -/
  | spanEnd
  | level (began : Nat)
  deriving DecidableEq

/-- The characters that a word may begin with. -/
def beginsWord (c : Char) : Bool := c = '_' || c = ':' || c = '-' || Text.isLetterOrNumber c

/-- The directive with a field, and the value that it may be given after `=`; a directive that gives
    one is for spans. -/
def withField (d : Directive) (cs : List Char) : Except DirectiveError Directive :=
  if cs.isEmpty then .error .unreadable
  else
    let name := String.ofList (cs.takeWhile (· ≠ '='))
    match cs.dropWhile (· ≠ '=') with
    | [] => .ok { d with field := some name }
    | _ :: value =>
      if isValue (value.takeWhile (· ≠ '=')) then .ok { d with field := some name, withinSpan := true }
      else .error .unreadable

/-- Reads the character at a byte. -/
def step (text : List Char) (byte : Nat) (c : Char) (d : Directive) :
    Place → Except DirectiveError (Directive × Place)
  | .start =>
    if c = '[' then .ok (d, .span (byte + 1))
    else if beginsWord c then .ok (d, .word)
    else .error .unreadable
  | .word => do
    if c = '=' ∨ c = '[' then
      let target := some (String.ofList (← part text 0 byte))
      return ({ d with target }, if c = '=' then .level (byte + 1) else .span (byte + 1))
    else return (d, .word)
  | .span began => do
    if c = ']' then
      let _ ← part text began byte
      return ({ d with withinSpan := true }, .spanEnd)
    else if c = '\x7b' then
      let name ← part text began byte
      return ({ d with withinSpan := !name.isEmpty }, .field (byte + 1))
    else return (d, .span began)
  | .field began => do
    if c = '\x7d' then return (← d.withField (← part text began byte), .fieldEnd)
    else return (d, .field began)
  | .fieldEnd => if c = ']' then .ok (d, .spanEnd) else .error .unreadable
  | .spanEnd => if c = '=' then .ok (d, .level (byte + 1)) else .error .unreadable
  | .level began => .ok (d, .level began)

/-- Reads characters from a byte on. -/
def run (text : List Char) : Nat → List Char → Directive → Place → Except DirectiveError (Directive × Place)
  | _, [], d, place => .ok (d, place)
  | byte, c :: cs, d, place => do
    let (d, place) ← step text byte c d place
    run text (byte + c.utf8Size) cs d place

/-- The directive at the end of its text: a single word is a level if it can be one, and an empty level
    is none. -/
def finish (text : List Char) (d : Directive) : Place → Except DirectiveError Directive
  | .word => match verbosity? text with
    | some verbosity => .ok { verbosity }
    | none => .ok { target := some (String.ofList text) }
  | .level began => do
    let level ← partFrom text began
    if level.isEmpty then return d
    else match verbosity? level with
      | some verbosity => return { d with verbosity }
      | none => throw .unreadable
  | .spanEnd => .ok d
  | _ => .error .unreadable

/-- The directive that a text denotes. -/
def read (s : String) : Except DirectiveError Directive := do
  let text := s.toList
  let (d, place) ← run text 0 (Text.trim text) {} .start
  finish text d place

/-! ### What a directive is about -/

/-- Whether the directive speaks of a record. -/
def concerns (d : Directive) (r : LogRecord) : Bool :=
  !d.withinSpan && (d.target.all fun t => t.toList.isPrefixOf r.target.toList) &&
    d.field.all fun field => field == "message" || r.fields.any fun f => f.1 == field

/-- How specific two directives are to each other: the longer target first, then whether there is a
    field, and else the order of their texts. -/
def specificity (d e : Directive) : Ordering :=
  let size (t : Option String) : Nat := (t.map fun t => t.utf8ByteSize + 1).getD 0
  (compare (size d.target) (size e.target)).then
    ((compare d.field.isSome e.field.isSome).then
      ((compare (d.target.getD "") (e.target.getD "")).then
        (compare (d.field.getD "") (e.field.getD ""))))

end Directive

/-- The directives of a log. -/
structure LogFilter where
  directives : List Directive
  deriving DecidableEq, Inhabited

namespace LogFilter

/-- The filter of these directives; without any, it has one of this verbosity. -/
def ofDirectives (verbosity : Nat) (ds : List Directive) : LogFilter :=
  ⟨if ds.isEmpty then [{ verbosity }] else ds⟩

/-- The directives of a list as they are written; empty ones are passed over. -/
def written (s : String) : List String := (s.splitOn ",").filter (· ≠ "")

/-- The filter of a list of directives, all of which must be readable; no directive wants nothing. -/
def ofText (s : String) : Except DirectiveError LogFilter :=
  ((written s).mapM Directive.read).map (ofDirectives 0)

/-- Those of the directives that are readable. -/
def readable : List String → Except DirectiveError (List Directive)
  | [] => .ok []
  | s :: rest =>
    match Directive.read s with
    | .ok d => do return d :: (← readable rest)
    | .error .unreadable => readable rest
    | .error .torn => .error .torn

/-- The filter of those directives in a list that are readable; without any, errors are wanted. -/
def ofReadable (s : String) : Except DirectiveError LogFilter :=
  (readable (written s)).map (ofDirectives 1)

/-- The directive that decides about a record: the most specific one, and the last of equals. -/
def decisive? (f : LogFilter) (r : LogRecord) : Option Directive :=
  (f.directives.filter (·.concerns r)).foldl (fun best d =>
    match best with
    | none => some d
    | some b => if d.specificity b = .lt then some b else some d) none

def wants (f : LogFilter) (r : LogRecord) : Bool :=
  (f.decisive? r).any fun d => r.level.verbosity ≤ d.verbosity

end LogFilter

end PluginFabric
