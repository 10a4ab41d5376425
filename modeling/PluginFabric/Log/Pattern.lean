import PluginFabric.Text.Blank
import PluginFabric.Text.Letter
import PluginFabric.Text.Numeral

/-! Patterns for the values of fields.

    A pattern is a regular expression. What matters of it here is only whether it is one: whether its
    groups and classes are closed, its repetitions have something to repeat, its escapes are known and
    its ranges go upward, whether its parts are not nested too deeply, and whether an automaton can tell
    by single bytes where it matches, which rules out word boundaries among all letters. A pattern that
    matches what is no text is refused as well, which concerns expressions over bytes only. The reader
    goes from left to right and keeps the groups that are open, with the flags that are set in each and
    how deep the parts in each are nested. -/

namespace PluginFabric.Log.Pattern

/-- The flags of a group that decide what may stand in it. -/
structure Flags where
  /-- Classes and boundaries are those of all letters, and not of ASCII only. -/
  unicode : Bool := true
  /-- Blanks and comments between the parts do not count. -/
  spaced : Bool := false

/-- How deep a pattern may be nested. -/
def nestLimit : Nat := 250

/-- Parts in a row: how many there are, and how deep the last one and the deepest before it are. -/
structure Row where
  count : Nat := 0
  deepest : Nat := 0
  last : Nat := 0

namespace Row

def add (r : Row) (depth : Nat) : Row := ⟨r.count + 1, max r.deepest r.last, depth⟩

/-- The row with its last part repeated. -/
def repeated (r : Row) : Row := { r with last := r.last + 1 }

/-- How deep the row is; a single part is as deep as it is alone. -/
def depth (r : Row) : Nat := max r.deepest r.last + if 2 ≤ r.count then 1 else 0

end Row

/-- The inside of a group: its flags, the alternative that is being read, and how deep the ones before
    it are, if there are any. -/
structure Inside where
  flags : Flags := {}
  row : Row := {}
  alternatives : Option Nat := none

namespace Inside

def add (i : Inside) (depth : Nat) : Inside := { i with row := i.row.add depth }

def deepest (i : Inside) : Nat := max (i.alternatives.getD 0) i.row.depth

def depth (i : Inside) : Nat := i.deepest + if i.alternatives.isSome then 1 else 0

/-- The inside where a further alternative begins. -/
def alternative (i : Inside) : Inside := { i with row := {}, alternatives := some i.deepest }

end Inside

/-- A place in a pattern: what is left, the inside of the group here and of those around, the names
    given to groups, and whether a part that can be repeated has just ended. -/
structure Place where
  rest : List Char
  inside : Inside := {}
  outer : List Inside := []
  names : List (List Char) := []
  repeatable : Bool := false

def Place.flags (p : Place) : Flags := p.inside.flags

/-- What is left after a comment that has begun. -/
def afterComment (cs : List Char) : List Char := (cs.dropWhile (· ≠ '\n')).drop 1

/-- Past blanks and comments. -/
def skipSpace : Nat → List Char → List Char
  | 0, cs => cs
  | fuel + 1, cs =>
    match cs with
    | [] => []
    | c :: rest =>
      if Text.isBlank c then skipSpace fuel rest
      else if c = '#' then skipSpace fuel (afterComment rest)
      else cs

/-- Past blanks and comments, where they do not count. -/
def skip (flags : Flags) (cs : List Char) : List Char :=
  if flags.spaced then skipSpace cs.length cs else cs

/-! ### Escapes -/

/-- What a single part of a pattern is. -/
inductive Part where
  | literal (c : Char)
  /-- A character given by two digits, which may stand for a byte. -/
  | byte (c : Char)
  /-- A class of characters by its letter. -/
  | charClass
  /-- A condition on the place. -/
  | condition
  deriving DecidableEq

/-- The signs with a meaning of their own. -/
def isMeta (c : Char) : Bool := "\\.+*?()|[]\x7b\x7d^$#&-~".toList.contains c

/-- Whether a backslash before the character makes it literal. -/
def isEscapable (c : Char) : Bool :=
  isMeta c || (decide (c.toNat < 0x80) && !c.isAlphanum && c ≠ '<' && c ≠ '>')

/-- The letters of escapes for control characters. -/
def controlEscapes : List (Char × Char) :=
  [('a', '\x07'), ('f', '\x0c'), ('t', '\t'), ('n', '\n'), ('r', '\r'), ('v', '\x0b')]

/-- Digits of base sixteen, blanks between them being skipped where they do not count. -/
def hexDigits? (flags : Flags) : Nat → List Char → Option (List Char × List Char)
  | 0, cs => some ([], cs)
  | count + 1, cs =>
    match skip flags cs with
    | [] => none
    | c :: rest => do
      let _ ← Text.digitValue? 16 c
      let (ds, rest) ← hexDigits? flags count rest
      return (c :: ds, rest)

/-- A character by its code point, of so many digits. -/
def codePoint? (flags : Flags) (count : Nat) (cs : List Char) : Option (Char × List Char) := do
  let (ds, rest) ← hexDigits? flags count cs
  let n ← Text.digits? 16 ds
  if n.isValidChar then return (Char.ofNat n, skip flags rest) else none

/-- The letters of the general categories that have one. -/
def categoryLetters : List Char := "CLMNPSZ".toList

/-- An escape after its backslash, and what is left. -/
def escape? (flags : Flags) : List Char → Option (Part × List Char)
  | [] => none
  | c :: rest =>
    if c = 'x' then (codePoint? flags 2 rest).map fun p => (.byte p.1, p.2)
    else if c = 'u' then (codePoint? flags 4 rest).map fun p => (.literal p.1, p.2)
    else if c = 'U' then (codePoint? flags 8 rest).map fun p => (.literal p.1, p.2)
    else if c = 'p' ∨ c = 'P' then
      match skip flags rest with
      | [] => none
      | d :: rest =>
        if flags.unicode && categoryLetters.contains d.toUpper then some (.charClass, skip flags rest)
        else none
    else if c = 'd' ∨ c = 's' ∨ c = 'w' then some (.charClass, rest)
    else if c = 'D' ∨ c = 'S' ∨ c = 'W' then if flags.unicode then some (.charClass, rest) else none
    else if isEscapable c then some (.literal c, rest)
    else if c = 'A' ∨ c = 'z' then some (.condition, rest)
    else if c = 'b' ∨ c = 'B' ∨ c = '<' ∨ c = '>' then
      if flags.unicode then none else some (.condition, rest)
    else (controlEscapes.find? fun e => e.1 == c).map fun e => (.literal e.2, rest)

/-- Whether a part can be matched in texts only: over bytes, a byte past ASCII is no character. -/
def Part.isText (flags : Flags) : Part → Bool
  | .byte c => flags.unicode || decide (c.toNat < 0x80)
  | _ => true

/-! ### Classes in brackets -/

/-- The names of the classes of ASCII. -/
def asciiClasses : List String :=
  ["alnum", "alpha", "ascii", "blank", "cntrl", "digit", "graph", "lower", "print", "punct", "space",
    "upper", "word", "xdigit"]

/-- A class of ASCII by name, after its bracket: whether it is the complement, and what is left. -/
def asciiClass? (cs : List Char) : Option (Bool × List Char) :=
  match cs with
  | ':' :: cs =>
    let negated := cs.head? == some '^'
    let cs := if negated then cs.drop 1 else cs
    match cs.dropWhile (· ≠ ':') with
    | ':' :: ']' :: rest =>
      if asciiClasses.contains (String.ofList (cs.takeWhile (· ≠ ':'))) then some (negated, rest)
      else none
    | _ => none
  | _ => none

/-- Members of a class, and how deep the class before the last set operation is, if there is one. -/
structure Members where
  row : Row := {}
  operand : Option Nat := none

namespace Members

def add (m : Members) (depth : Nat) : Members := { m with row := m.row.add depth }

/-- How deep the members are; a set operation is one level above its operands. -/
def depth (m : Members) : Nat :=
  match m.operand with
  | some left => max left m.row.depth + 1
  | none => m.row.depth

/-- The members after a set operation. -/
def operation (m : Members) : Members := { operand := some m.depth }

end Members

/-- Past hyphens, which are members. -/
def hyphens (flags : Flags) (m : Members) : Nat → List Char → Members × List Char
  | fuel + 1, '-' :: rest => hyphens flags (m.add 0) fuel (skip flags rest)
  | _, cs => (m, cs)

/-- The inside of a class after its bracket: past a complement sign and past what stands for itself
    only here, which is any hyphens or else a closing bracket. -/
def classOpening? (flags : Flags) (cs : List Char) : Option (Members × List Char) :=
  let cs := skip flags cs
  let negated := cs.head? == some '^'
  if negated && !flags.unicode then none
  else
    let cs := if negated then skip flags (cs.drop 1) else cs
    let (members, rest) :=
      if cs.head? = some ']' then (Members.add {} 0, skip flags (cs.drop 1))
      else hyphens flags {} cs.length cs
    if rest.isEmpty then none else some (members, rest)

/-- One end of a range or one member of a class. -/
def classPart? (flags : Flags) : List Char → Option (Part × List Char)
  | [] => none
  | '\\' :: rest => do
    let (part, rest) ← escape? flags rest
    if part ≠ .condition && part.isText flags then return (part, rest) else none
  | c :: rest => some (.literal c, rest)

/-- The character of a part that is one; over bytes it must be ASCII. -/
def Part.char? (flags : Flags) : Part → Option Char
  | .literal c | .byte c => if flags.unicode || decide (c.toNat < 0x80) then some c else none
  | _ => none

/-- A member of a class, or a range of them. -/
def member? (flags : Flags) (cs : List Char) : Option (List Char) := do
  let (first, rest) ← classPart? flags cs
  let rest := skip flags rest
  let single : Option (List Char) :=
    if first = .charClass then some rest else (first.char? flags).map fun _ => rest
  match rest with
  | [] => none
  | '-' :: more =>
    match skip flags more with
    | [] => none
    | d :: _ =>
      if d = ']' ∨ d = '-' then single
      else do
        let (last, rest) ← classPart? flags (skip flags more)
        if (← first.char? flags) ≤ (← last.char? flags) then return rest else none
  | _ => single

/-- How deep a class is whose members are given, in the classes around it, and what is left after all
    of them. -/
def afterClass? (flags : Flags) : Nat → Members → List Members → List Char → Option (Nat × List Char)
  | 0, _, _, _ => none
  | fuel + 1, m, outer, cs =>
    match skip flags cs with
    | [] => none
    | '[' :: rest =>
      match asciiClass? rest with
      | some (negated, rest) =>
        if negated && !flags.unicode then none else afterClass? flags fuel (m.add 0) outer rest
      | none => do
        let (inner, rest) ← classOpening? flags rest
        afterClass? flags fuel inner (m :: outer) rest
    | ']' :: rest =>
      match outer with
      | [] => some (m.depth + 1, rest)
      | n :: outer => afterClass? flags fuel (n.add (m.depth + 1)) outer rest
    | '&' :: '&' :: rest => afterClass? flags fuel m.operation outer rest
    | '-' :: '-' :: rest => afterClass? flags fuel m.operation outer rest
    | '~' :: '~' :: rest => afterClass? flags fuel m.operation outer rest
    | cs => do afterClass? flags fuel (m.add 0) outer (← member? flags cs)

/-! ### Groups -/

/-- The flags of a group after its question mark, with the sign that ends them; every flag and the
    minus sign may be given once. -/
def groupFlags? (flags : Flags) (seen : List Char) : List Char → Option (Flags × List Char × List Char)
  | [] => none
  | c :: rest =>
    if c = ':' ∨ c = ')' then
      if seen.head? = some '-' then none else some (flags, seen, c :: rest)
    else if seen.contains c || !"imsUuRx-".toList.contains c then none
    else
      let value := !seen.contains '-'
      let flags :=
        if c = 'u' then { flags with unicode := value }
        else if c = 'x' then { flags with spaced := value }
        else flags
      groupFlags? flags (c :: seen) rest

/-- The name of a group, to the sign that ends it. -/
def groupName? (cs : List Char) : Option (List Char × List Char) :=
  let isNameChar (c : Char) : Bool :=
    c = '_' || c = '.' || c = '[' || c = ']' || Text.isLetterOrNumber c
  match cs.takeWhile (· ≠ '>'), cs.dropWhile (· ≠ '>') with
  | c :: name, _ :: rest =>
    if (c = '_' || Text.isLetter c) && name.all isNameChar then some (c :: name, rest) else none
  | _, _ => none

/-- The place within a group that begins here, with its flags. -/
def Place.enter (p : Place) (flags : Flags) (rest : List Char) : Place :=
  { p with rest, inside := { flags }, outer := p.inside :: p.outer, repeatable := false }

/-- The place after a part of this depth. -/
def Place.pass (p : Place) (depth : Nat) (rest : List Char) : Place :=
  { p with rest, inside := p.inside.add depth, repeatable := true }

/-- The place within a group of this name, or nowhere if the name is taken. -/
def Place.named? (p : Place) (cs : List Char) : Option Place := do
  let (name, rest) ← groupName? cs
  if p.names.contains name then none
  else return { p.enter p.flags rest with names := name :: p.names }

/-- The place after the opening of a group, whose parenthesis is read; flags may stand for themselves. -/
def Place.openGroup? (p : Place) : Option Place :=
  match skip p.flags p.rest with
  | '?' :: 'P' :: '<' :: rest => p.named? rest
  | '?' :: '<' :: rest => p.named? rest
  | '?' :: rest => do
    let (flags, seen, rest) ← groupFlags? p.flags [] rest
    match rest with
    | ':' :: rest => return p.enter flags rest
    | _ :: rest =>
      if seen.isEmpty then none
      else return { p with rest, inside := { p.inside.add 0 with flags }, repeatable := false }
    | [] => none
  | rest => some (p.enter p.flags rest)

/-! ### The whole -/

/-- The place after one part. -/
def Place.next? (p : Place) (c : Char) (rest : List Char) : Option Place :=
  if c = '(' then { p with rest }.openGroup?
  else if c = ')' then
    match p.outer with
    | around :: outer => some ({ p with inside := around, outer }.pass (p.inside.depth + 1) rest)
    | [] => none
  else if c = '|' then some { p with rest, inside := p.inside.alternative, repeatable := false }
  else if c = '[' then do
    let (members, rest) ← classOpening? p.flags rest
    let (depth, rest) ← afterClass? p.flags (rest.length + 1) members [] rest
    return p.pass depth rest
  else if c = '?' ∨ c = '*' ∨ c = '+' then
    if p.repeatable then
      let rest := if rest.head? = some '?' then rest.drop 1 else rest
      some { p with rest, inside := { p.inside with row := p.inside.row.repeated } }
    else none
  else if c = '\x7b' then none
  else if c = '\\' then do
    let (part, rest) ← escape? p.flags rest
    if part.isText p.flags then return p.pass 0 rest else none
  else if c = '.' && !p.flags.unicode then none
  else some (p.pass 0 rest)

/-- Whether the pattern is one from here on. -/
def wellFormedFrom : Nat → Place → Bool
  | 0, _ => false
  | fuel + 1, p =>
    match skip p.flags p.rest with
    | [] => p.outer.isEmpty && decide (p.inside.depth ≤ nestLimit)
    | c :: rest => (p.next? c rest).any (wellFormedFrom fuel)

/-- Whether a text without a closing brace is a pattern. A repetition by count would need one. -/
def isWellFormed (cs : List Char) : Bool := wellFormedFrom (cs.length + 1) { rest := cs }

end PluginFabric.Log.Pattern
