/-! A place in a YAML text.

    Lines end at a line feed, a carriage return, both together, or one of the three other line breaks
    of Unicode; the column counts the characters since. -/

namespace PluginFabric.Yaml

/-- The line breaks that are kept as they are when lines are read; the others become a line feed. -/
def isKeptBreak (c : Char) : Bool := c = '\u2028' || c = '\u2029'

def isBreak (c : Char) : Bool := c = '\n' || c = '\r' || c = '\u0085' || isKeptBreak c

def isBlank (c : Char) : Bool := c = ' ' || c = '\t'

/-- The characters that may stand in a text at all. -/
def isAllowed (c : Char) : Bool :=
  let n := c.toNat
  n = 0x09 || n = 0x0A || n = 0x0D || (decide (0x20 ≤ n) && decide (n ≤ 0x7E)) || n = 0x85 ||
    (decide (0xA0 ≤ n) && decide (n ≤ 0xFFFD)) || decide (0x10000 ≤ n)

/-- The characters of the names of anchors, directives and tag handles. -/
def isNameChar (c : Char) : Bool := c.isAlphanum || c = '_' || c = '-'

/-- The text that is left, and where it begins: how many bytes are before it, and its line and
    column. -/
structure Cursor where
  rest : List Char
  bytes : Nat := 0
  line : Nat := 0
  column : Nat := 0

namespace Cursor

def atEnd (c : Cursor) : Bool := c.rest.isEmpty

/-- Whether the next character is `ch`. -/
def starts (c : Cursor) (ch : Char) : Bool := c.rest.head? == some ch

/-- Whether the character `n` places ahead is there and passes the test. -/
def holds (c : Cursor) (n : Nat) (test : Char → Bool) : Bool := (c.rest[n]?).any test

/-- Whether a blank, a line break or the end is `n` places ahead. -/
def wordEndsAt (c : Cursor) (n : Nat) : Bool := (c.rest[n]?).all fun ch => isBlank ch || isBreak ch

/-- Past `n` characters that are no line breaks. -/
def skip (c : Cursor) (n : Nat) : Cursor :=
  { c with
    rest := c.rest.drop n
    bytes := (c.rest.take n).foldl (fun bytes ch => bytes + ch.utf8Size) c.bytes
    column := c.column + n }

/-- Past characters that pass the test, none of which is a line break. -/
def span (c : Cursor) (test : Char → Bool) : List Char × Cursor :=
  let front := c.rest.takeWhile test
  (front, c.skip front.length)

def skipWhile (c : Cursor) (test : Char → Bool) : Cursor := (c.span test).2

/-- Past a line break, if one is next, and what it is read as. -/
def takeBreak (c : Cursor) : List Char × Cursor :=
  match c.rest with
  | '\r' :: '\n' :: rest => (['\n'], ⟨rest, c.bytes + 2, c.line + 1, 0⟩)
  | ch :: rest =>
    if isBreak ch then ([if isKeptBreak ch then ch else '\n'], ⟨rest, c.bytes + ch.utf8Size, c.line + 1, 0⟩)
    else ([], c)
  | [] => ([], c)

def skipBreak (c : Cursor) : Cursor := c.takeBreak.2

/-- Past a comment, if one is next. -/
def skipComment (c : Cursor) : Cursor :=
  if c.starts '#' then c.skipWhile fun ch => !isBreak ch else c

/-- Past blanks and a comment to the end of the line, which must be next. -/
def endLine? (c : Cursor) : Option Cursor :=
  let c := (c.skipWhile isBlank).skipComment
  if c.holds 0 (fun ch => !isBreak ch) then none else some c.skipBreak

/-- Whether a mark between documents is next. -/
def atDocumentMark (c : Cursor) (mark : Char) : Bool :=
  c.column = 0 && c.rest.take 3 == [mark, mark, mark] && c.wordEndsAt 3

def atAnyDocumentMark (c : Cursor) : Bool := c.atDocumentMark '-' || c.atDocumentMark '.'

end Cursor

end PluginFabric.Yaml
