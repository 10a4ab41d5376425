import PluginFabric.Text.Numeral
import PluginFabric.Yaml.Cursor

/-! The scalars of a YAML text.

    A plain or quoted scalar may go over several lines: a single line break inside it becomes a space,
    more of them keep all but the first, and the blanks around them are dropped. A block scalar keeps
    its lines, or folds those that are not indented further; its indentation is that of its first line
    unless it is given, and its last line breaks are kept, clipped to one or stripped. The fuel of a
    reader exceeds the length of the text that is left. -/

namespace PluginFabric.Yaml

/-- How a scalar is written. -/
inductive Style where | plain | singleQuoted | doubleQuoted | literal | folded
  deriving DecidableEq, Inhabited

/-- The blanks and line breaks between two words of a scalar. -/
structure Gap where
  broken : Bool
  blanks : List Char := []
  first : List Char := []
  more : List Char := []

namespace Gap

/-- What a gap is read as. -/
def text (g : Gap) : List Char :=
  if g.broken then
    if g.first.head? = some '\n' then (if g.more.isEmpty then [' '] else g.more)
    else g.first ++ g.more
  else g.blanks

/-- The gap from here on; a tab may not stand left of the column `margin` on a new line. -/
def read? (margin : Nat) : Nat → Gap → Cursor → Option (Gap × Cursor)
  | 0, _, _ => none
  | fuel + 1, g, c =>
    if c.holds 0 isBlank then
      if g.broken && decide (c.column < margin) && c.starts '\t' then none
      else read? margin fuel (if g.broken then g else { g with blanks := g.blanks ++ c.rest.take 1 }) (c.skip 1)
    else if c.holds 0 isBreak then
      let (b, c) := c.takeBreak
      read? margin fuel
        (if g.broken then { g with more := g.more ++ b } else { broken := true, first := b }) c
    else some (g, c)

end Gap

/-! ### Plain scalars -/

/-- The signs that separate entries within brackets and braces. -/
def isFlowSign (c : Char) : Bool := c = ',' || c = '[' || c = ']' || c = '\x7b' || c = '\x7d'

/-- One word of a plain scalar. Within brackets a colon may not touch one of their signs. -/
def plainWord? (flow : Bool) : Nat → Cursor → Option (List Char × Cursor)
  | 0, _ => none
  | fuel + 1, c =>
    match c.rest with
    | [] => some ([], c)
    | ch :: _ =>
      if isBlank ch || isBreak ch then some ([], c)
      else if flow && ch = ':' && c.holds 1 (fun d => isFlowSign d || d = '?') then none
      else if (ch = ':' && c.wordEndsAt 1) || (flow && isFlowSign ch) then some ([], c)
      else (plainWord? flow fuel (c.skip 1)).map fun (word, after) => (ch :: word, after)

/-- A plain scalar from here on, with the gap in front of each of its words; also tells whether it
    ended with a line break. -/
def plain? (flow : Bool) (margin : Nat) : Nat → Gap → Cursor → Option (List Char × Bool × Cursor)
  | 0, _, _ => none
  | fuel + 1, gap, c =>
    if c.atAnyDocumentMark || c.starts '#' then some ([], gap.broken, c)
    else do
      let (word, c) ← plainWord? flow (fuel + 1) c
      let front := if word.isEmpty then [] else gap.text ++ word
      let gap := if word.isEmpty then gap else { broken := false }
      if c.holds 0 (fun ch => isBlank ch || isBreak ch) then
        let (gap, c) ← Gap.read? margin (fuel + 1) gap c
        if !flow && decide (c.column < margin) then return (front, gap.broken, c)
        else
          let (rest, ended) ← plain? flow margin fuel gap c
          return (front ++ rest, ended)
      else return (front, gap.broken, c)

/-! ### Quoted scalars -/

/-- The escapes of one letter. -/
def letterEscapes : List (Char × Char) :=
  [('0', '\x00'), ('a', '\x07'), ('b', '\x08'), ('t', '\t'), ('\t', '\t'), ('n', '\n'), ('v', '\x0b'),
    ('f', '\x0c'), ('r', '\r'), ('e', '\x1b'), (' ', ' '), ('"', '"'), ('/', '/'), ('\\', '\\'),
    ('N', '\u0085'), ('_', '\u00a0'), ('L', '\u2028'), ('P', '\u2029')]

/-- How many digits follow an escape by code point. -/
def escapeDigits? (c : Char) : Option Nat :=
  if c = 'x' then some 2 else if c = 'u' then some 4 else if c = 'U' then some 8 else none

/-- The character of an escape after its backslash, and how many characters that takes. -/
def escape? (cs : List Char) : Option (Char × Nat) :=
  match cs with
  | [] => none
  | c :: rest =>
    match escapeDigits? c with
    | some n =>
      if rest.length < n then none
      else (Text.digits? 16 (rest.take n)).bind fun v =>
        if v.isValidChar then some (Char.ofNat v, n + 1) else none
    | none => (letterEscapes.find? fun e => e.1 == c).map fun e => (e.2, 1)

/-- One word of a quoted scalar; also tells whether it ended with an escaped line break. -/
def quotedWord? (double : Bool) : Nat → Cursor → Option (List Char × Bool × Cursor)
  | 0, _ => none
  | fuel + 1, c =>
    match c.rest with
    | [] => some ([], false, c)
    | ch :: rest =>
      if isBlank ch || isBreak ch then some ([], false, c)
      else if !double && ch = '\'' then
        if rest.head? = some '\'' then
          (quotedWord? double fuel (c.skip 2)).map fun (word, rest) => ('\'' :: word, rest)
        else some ([], false, c)
      else if double && ch = '"' then some ([], false, c)
      else if double && ch = '\\' then
        if c.holds 1 isBreak then some ([], true, (c.skip 1).skipBreak)
        else do
          let (e, n) ← escape? rest
          let (word, after) ← quotedWord? double fuel (c.skip (n + 1))
          return (e :: word, after)
      else (quotedWord? double fuel (c.skip 1)).map fun (word, rest) => (ch :: word, rest)

/-- The rest of a quoted scalar. -/
def quoted? (double : Bool) : Nat → Cursor → Option (List Char × Cursor)
  | 0, _ => none
  | fuel + 1, c =>
    if c.atAnyDocumentMark || c.atEnd then none
    else do
      let (word, escapedBreak, c) ← quotedWord? double (fuel + 1) c
      if c.starts (if double then '"' else '\'') then return (word, c.skip 1)
      else
        let (gap, c) ← Gap.read? 0 (fuel + 1) { broken := escapedBreak } c
        let (rest, c) ← quoted? double fuel c
        return (word ++ gap.text ++ rest, c)

/-! ### Block scalars -/

/-- What becomes of the last line breaks of a block scalar. -/
inductive Chomping where | strip | clip | keep
  deriving DecidableEq, Inhabited

def chomping? (c : Char) : Option Chomping :=
  if c = '+' then some .keep else if c = '-' then some .strip else none

/-- The digit that gives the indentation of a block scalar. -/
def indentDigit? (c : Char) : Option Nat := (Text.natural? [c]).filter (0 < ·)

/-- The signs after the one that begins a block scalar: in either order, and each may be missing. -/
def blockHeader? (c : Cursor) : Option (Chomping × Nat × Cursor) :=
  match c.rest.head?.bind chomping? with
  | some chomping =>
    let c := c.skip 1
    if c.holds 0 Text.isDigit then
      (c.rest.head?.bind indentDigit?).map fun n => (chomping, n, c.skip 1)
    else some (chomping, 0, c)
  | none =>
    if c.holds 0 Text.isDigit then
      (c.rest.head?.bind indentDigit?).map fun n =>
        let c := c.skip 1
        match c.rest.head?.bind chomping? with
        | some chomping => (chomping, n, c.skip 1)
        | none => (.clip, n, c)
    else some (.clip, 0, c)

/-- The empty lines from here on and the indentation after them, which is at most `indent` unless that
    is 0 for not known; also tells the widest indentation seen. -/
def emptyLines? (indent : Nat) : Nat → Nat → List Char → Cursor → Option (List Char × Nat × Cursor)
  | 0, _, _, _ => none
  | fuel + 1, widest, breaks, c =>
    let blanks := (c.rest.takeWhile (· = ' ')).length
    let c := c.skip (if indent = 0 then blanks else min blanks (indent - c.column))
    let widest := max widest c.column
    if (indent = 0 || decide (c.column < indent)) && c.starts '\t' then none
    else if c.holds 0 isBreak then
      let (b, c) := c.takeBreak
      emptyLines? indent fuel widest (breaks ++ b) c
    else some (breaks, widest, c)

/-- The lines of a block scalar, after a line break and empty lines; with them the last line break and
    the empty lines after it. Whether the line before began with a blank decides about folding. -/
def blockLines? (literal : Bool) (indent : Nat) : Nat → List Char → List Char → Bool → Cursor →
    Option (List Char × List Char × List Char × Cursor)
  | 0, _, _, _, _ => none
  | fuel + 1, lineBreak, empty, afterBlank, c =>
    if c.column = indent && !c.atEnd then do
      let beforeBlank := c.holds 0 isBlank
      let joint :=
        if !literal && lineBreak.head? = some '\n' && !afterBlank && !beforeBlank then
          (if empty.isEmpty then [' '] else empty)
        else lineBreak ++ empty
      let (line, c) := c.span fun ch => !isBreak ch
      let (lineBreak, c) := c.takeBreak
      let (empty, _, c) ← emptyLines? indent (fuel + 1) 0 [] c
      let (text, last) ← blockLines? literal indent fuel lineBreak empty beforeBlank c
      return (joint ++ line ++ text, last)
    else some ([], lineBreak, empty, c)

/-- A block scalar from here on, after the sign that begins it, within a block whose indentation is
    `outer`, or `-1` outside of all blocks. -/
def block? (literal : Bool) (outer : Int) (fuel : Nat) (c : Cursor) : Option (List Char × Cursor) := do
  let (chomping, given, c) ← blockHeader? c
  let c ← c.endLine?
  let known := if given = 0 then 0 else (max outer 0).toNat + given
  let (empty, widest, c) ← emptyLines? known fuel 0 [] c
  let indent := if known = 0 then max (max widest (outer + 1).toNat) 1 else known
  let (text, lineBreak, empty, c) ← blockLines? literal indent fuel [] empty false c
  let tail := match chomping with
    | .strip => []
    | .clip => lineBreak
    | .keep => lineBreak ++ empty
  return (text ++ tail, c)

end PluginFabric.Yaml
