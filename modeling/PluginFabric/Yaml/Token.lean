import PluginFabric.Yaml.Scalar

/-! The tokens of a YAML text.

    Blocks have no brackets of their own: an entry that begins further right than the block around it
    opens a block, and a line that begins further left closes those it leaves. A key is known only by
    the colon after it, so the places where a key could begin are kept until they can be none any
    more, and the tokens for it are put in there. The fuel of a reader exceeds the length of the text
    that is left. -/

namespace PluginFabric.Yaml

/-- A tag, as bytes, which need not be text. -/
abbrev Tag := List UInt8

namespace Tag

def ofText (s : String) : Tag := s.toUTF8.toList

/-- The tag of these bytes: they end before the first one that is zero. -/
def ofBytes (bytes : List UInt8) : Tag := bytes.takeWhile (· ≠ 0)

end Tag

/-- A token. -/
inductive Token where
  | version (major minor : Nat)
  | tagHandle (handle : String) (expansion : Tag)
  | documentStart | documentEnd
  | blockSequenceStart | blockMappingStart | blockEnd
  | flowSequenceStart | flowSequenceEnd | flowMappingStart | flowMappingEnd
  | blockEntry | flowEntry | key | value
  | reference (name : String)
  | anchor (name : String)
  | tag (handle : String) (ending : Tag)
  | scalar (style : Style) (text : String)
  deriving DecidableEq, Inhabited

/-- A place where a key may begin. -/
structure KeyPlace where
  /-- Whether nothing but a key may begin here. -/
  required : Bool
  tokenCount : Nat
  bytes : Nat
  line : Nat
  column : Nat

/-- A text that is being read. -/
structure Lexer where
  cursor : Cursor
  tokens : Array Token := #[]
  /-- The column of the innermost block, or `-1` outside of all blocks. -/
  indent : Int := -1
  outerIndents : List Int := []
  /-- The place of a key for each bracket that is open, the innermost first, and for the block. -/
  keyPlaces : List (Option KeyPlace) := [none]
  keyAllowed : Bool := true

namespace Lexer

/-- Whether any bracket is open. -/
def inFlow (l : Lexer) : Bool := decide (1 < l.keyPlaces.length)

def push (l : Lexer) (t : Token) : Lexer := { l with tokens := l.tokens.push t }

/-- Puts a token in before the token of this number. -/
def putIn (l : Lexer) (number : Nat) (t : Token) : Lexer :=
  { l with tokens := l.tokens.insertIdxIfInBounds number t }

def move (l : Lexer) (cursor : Cursor) : Lexer := { l with cursor }

def allowKey (l : Lexer) (keyAllowed : Bool) : Lexer := { l with keyAllowed }

def setKeyPlace (l : Lexer) (place : Option KeyPlace) : Lexer :=
  { l with keyPlaces := place :: l.keyPlaces.drop 1 }

def keyPlace (l : Lexer) : Option KeyPlace := (l.keyPlaces.head?).join

/-- Gives up the place of a key, which fails if there must be one. -/
def dropKeyPlace? (l : Lexer) : Option Lexer :=
  if l.keyPlace.any (·.required) then none else some (l.setKeyPlace none)

/-- Keeps the present place if a key may begin here. -/
def keepKeyPlace? (l : Lexer) : Option Lexer :=
  if l.keyAllowed then
    l.dropKeyPlace?.map fun l => l.setKeyPlace (some {
      required := !l.inFlow && l.indent == (l.cursor.column : Int)
      tokenCount := l.tokens.size
      bytes := l.cursor.bytes
      line := l.cursor.line
      column := l.cursor.column })
  else some l

/-- Gives up the places on earlier lines or more than 1024 bytes behind. -/
def dropStaleKeyPlaces? (l : Lexer) : Option Lexer := do
  let places ← l.keyPlaces.mapM fun place =>
    match place with
    | none => some none
    | some p =>
      if p.line < l.cursor.line ∨ p.bytes + 1024 < l.cursor.bytes then
        (if p.required then none else some none)
      else some place
  return { l with keyPlaces := places }

/-- Opens a block at a column if that is further right; the token goes in at its number, or last. -/
def openBlock (l : Lexer) (column : Nat) (number : Option Nat) (t : Token) : Lexer :=
  if !l.inFlow && decide (l.indent < column) then
    let opened := { l with outerIndents := l.indent :: l.outerIndents, indent := column }
    match number with
    | some n => opened.putIn n t
    | none => opened.push t
  else l

/-- The number of blocks that a line at this column leaves, and the columns of those it stays in. -/
def leave (column : Int) : Int → List Int → Nat × Int × List Int
  | indent, [] => (0, indent, [])
  | indent, outer :: rest =>
    if column < indent then
      let (n, indent, rest) := leave column outer rest
      (n + 1, indent, rest)
    else (0, indent, outer :: rest)

/-- Closes the blocks that a line at this column leaves. -/
def closeBlocks (l : Lexer) (column : Int) : Lexer :=
  if l.inFlow then l
  else
    let (n, indent, outerIndents) := leave column l.indent l.outerIndents
    { l with indent, outerIndents, tokens := l.tokens ++ Array.replicate n .blockEnd }

/-- Past blanks, comments and line breaks. Tabs do not count as blanks where a key may begin, and a
    line may begin with a byte order mark. -/
def toNextToken : Nat → Lexer → Lexer
  | 0, l => l
  | fuel + 1, l =>
    let c := if l.cursor.column = 0 && l.cursor.starts '\ufeff' then l.cursor.skip 1 else l.cursor
    let c := c.skipWhile fun ch => ch = ' ' || (ch = '\t' && (l.inFlow || !l.keyAllowed))
    let c := c.skipComment
    if c.holds 0 isBreak then
      toNextToken fuel { l with cursor := c.skipBreak, keyAllowed := l.keyAllowed || !l.inFlow }
    else l.move c

/-! ### Directives, anchors and tags -/

/-- The characters of a tag; the last three only where the tag has an end of its own. -/
def isTagChar (verbatim : Bool) (c : Char) : Bool :=
  isNameChar c || ";/?:@&=+$.!~*'()".toList.contains c ||
    (verbatim && (c = ',' || c = '[' || c = ']'))

/-- The byte that an escape of two digits denotes. -/
def escapedByte? : List Char → Option (Nat × List Char)
  | '%' :: a :: b :: rest => (Text.digits? 16 [a, b]).map (·, rest)
  | _ => none

/-- How many bytes follow the first one of a character. -/
def bytesAfter? (first : Nat) : Option Nat :=
  if first < 0x80 then some 0
  else if first / 0x20 = 6 then some 1
  else if first / 0x10 = 14 then some 2
  else if first / 0x08 = 30 then some 3
  else none

/-- So many escapes of bytes that continue a character. -/
def laterBytes? : Nat → List Char → Option (List UInt8 × List Char)
  | 0, cs => some ([], cs)
  | n + 1, cs => do
    let (byte, rest) ← escapedByte? cs
    if byte / 0x40 = 2 then
      let (bytes, rest) ← laterBytes? n rest
      return (.ofNat byte :: bytes, rest)
    else none

/-- A character that is written in escapes; whether its bytes are the shortest form does not count. -/
def escapedChar? (cs : List Char) : Option (List UInt8 × List Char) := do
  let (first, rest) ← escapedByte? cs
  let (bytes, rest) ← laterBytes? (← bytesAfter? first) rest
  return (.ofNat first :: bytes, rest)

/-- The bytes of a tag from here on, with escapes resolved. -/
def tagBytes? (verbatim : Bool) : Nat → Cursor → Option (List UInt8 × Cursor)
  | 0, _ => none
  | fuel + 1, c =>
    match c.rest with
    | '%' :: _ => do
      let (bytes, after) ← escapedChar? c.rest
      let (tail, c) ← tagBytes? verbatim fuel (c.skip (c.rest.length - after.length))
      return (bytes ++ tail, c)
    | ch :: _ =>
      if isTagChar verbatim ch then
        (tagBytes? verbatim fuel (c.skip 1)).map fun (tail, c) => (.ofNat ch.toNat :: tail, c)
      else some ([], c)
    | [] => some ([], c)

/-- A tag handle: a name between two exclamation marks, or the first of them and what follows it. -/
def handle? (c : Cursor) : Option (List Char × Cursor) :=
  if c.starts '!' then
    let (name, c) := (c.skip 1).span isNameChar
    if c.starts '!' then some ('!' :: name ++ ['!'], c.skip 1) else some ('!' :: name, c)
  else none

/-- A tag, split into its handle and its ending. -/
def tag? (c : Cursor) : Option (Token × Cursor) := do
  let (t, c) ←
    if c.holds 1 (· = '<') then do
      let (bytes, c) ← tagBytes? true (c.rest.length + 1) (c.skip 2)
      if !bytes.isEmpty && c.starts '>' then some (Token.tag "" (Tag.ofBytes bytes), c.skip 1) else none
    else do
      let (handle, c) ← handle? c
      let (bytes, c) ← tagBytes? false (c.rest.length + 1) c
      if 1 < handle.length && handle.getLast? = some '!' then
        if bytes.isEmpty then none
        else some (Token.tag (String.ofList handle) (Tag.ofBytes bytes), c)
      else
        let ending := Tag.ofText (String.ofList (handle.drop 1)) ++ bytes
        if (Tag.ofBytes ending).isEmpty then some (Token.tag "" (Tag.ofText "!"), c)
        else some (Token.tag "!" (Tag.ofBytes ending), c)
  return (t, c)

/-- A number of up to nine digits. -/
def versionNumber? (c : Cursor) : Option (Nat × Cursor) :=
  let (ds, c) := c.span Text.isDigit
  if ds.length ≤ 9 then (Text.natural? ds).map (·, c) else none

/-- A directive, to the end of its line. -/
def directive? (c : Cursor) : Option (Token × Cursor) := do
  let (name, c) := (c.skip 1).span isNameChar
  if !c.wordEndsAt 0 then none
  else
    let c := c.skipWhile isBlank
    let (t, c) ←
      if name = "YAML".toList then do
        let (major, c) ← versionNumber? c
        if c.starts '.' then
          let (minor, c) ← versionNumber? (c.skip 1)
          some (Token.version major minor, c)
        else none
      else if name = "TAG".toList then do
        let (handle, c) ← handle? c
        if (handle.length = 1 || handle.getLast? = some '!') && c.holds 0 isBlank then
          let (bytes, c) ← tagBytes? true (c.rest.length + 1) (c.skipWhile isBlank)
          if !bytes.isEmpty && c.wordEndsAt 0 then
            some (Token.tagHandle (String.ofList handle) (Tag.ofBytes bytes), c)
          else none
        else none
      else none
    return (t, ← c.endLine?)

/-- The name of an anchor or a reference to one, after its sign. -/
def anchorName? (c : Cursor) : Option (String × Cursor) :=
  let (name, c) := (c.skip 1).span isNameChar
  if !name.isEmpty && (c.wordEndsAt 0 || c.holds 0 fun ch => "?:,]\x7d%@\x60".toList.contains ch) then
    some (String.ofList name, c)
  else none

/-! ### Tokens -/

/-- A mark between documents. -/
def documentMark? (l : Lexer) (t : Token) : Option Lexer := do
  let l ← (l.closeBlocks (-1)).dropKeyPlace?
  return ((l.allowKey false).move (l.cursor.skip 3)).push t

/-- A token of one sign. -/
def sign (l : Lexer) (t : Token) : Lexer := (l.move (l.cursor.skip 1)).push t

def flowStart? (l : Lexer) (t : Token) : Option Lexer := do
  let l ← l.keepKeyPlace?
  return ({ l with keyPlaces := none :: l.keyPlaces, keyAllowed := true }).sign t

def flowEnd? (l : Lexer) (t : Token) : Option Lexer := do
  let l ← l.dropKeyPlace?
  let places := if l.inFlow then l.keyPlaces.drop 1 else l.keyPlaces
  return ({ l with keyPlaces := places, keyAllowed := false }).sign t

def flowEntry? (l : Lexer) : Option Lexer := do
  let l ← l.dropKeyPlace?
  return (l.allowKey true).sign .flowEntry

/-- An entry of a block sequence; within brackets it is left to the grammar to refuse it. -/
def blockEntry? (l : Lexer) : Option Lexer := do
  if !l.inFlow && !l.keyAllowed then none
  else
    let l ← (l.openBlock l.cursor.column none .blockSequenceStart).dropKeyPlace?
    return (l.allowKey true).sign .blockEntry

/-- A key that is marked as such. -/
def key? (l : Lexer) : Option Lexer := do
  if !l.inFlow && !l.keyAllowed then none
  else
    let l ← (l.openBlock l.cursor.column none .blockMappingStart).dropKeyPlace?
    return (l.allowKey (!l.inFlow)).sign .key

/-- A value: it makes a key of what began at the place that was kept, if one was. -/
def value? (l : Lexer) : Option Lexer :=
  match l.keyPlace with
  | some p =>
    let l := (l.putIn p.tokenCount .key).openBlock p.column (some p.tokenCount) .blockMappingStart
    some (((l.setKeyPlace none).allowKey false).sign .value)
  | none =>
    if !l.inFlow && !l.keyAllowed then none
    else
      let l := l.openBlock l.cursor.column none .blockMappingStart
      some ((l.allowKey (!l.inFlow)).sign .value)

def anchor? (l : Lexer) (make : String → Token) : Option Lexer := do
  let l ← l.keepKeyPlace?
  let (name, c) ← anchorName? l.cursor
  return ((l.allowKey false).move c).push (make name)

def tagToken? (l : Lexer) : Option Lexer := do
  let l ← l.keepKeyPlace?
  let (t, c) ← tag? l.cursor
  if c.wordEndsAt 0 || (l.inFlow && c.starts ',') then
    return ((l.allowKey false).move c).push t
  else none

def blockScalar? (l : Lexer) (fuel : Nat) (style : Style) : Option Lexer := do
  let l ← l.dropKeyPlace?
  let (text, c) ← block? (style = .literal) l.indent fuel (l.cursor.skip 1)
  return ((l.allowKey true).move c).push (.scalar style (String.ofList text))

def quotedScalar? (l : Lexer) (fuel : Nat) (style : Style) : Option Lexer := do
  let l ← l.keepKeyPlace?
  let (text, c) ← quoted? (style = .doubleQuoted) fuel (l.cursor.skip 1)
  return ((l.allowKey false).move c).push (.scalar style (String.ofList text))

def plainScalar? (l : Lexer) (fuel : Nat) : Option Lexer := do
  let l ← l.keepKeyPlace?
  let (text, broken, c) ← plain? l.inFlow (l.indent + 1).toNat fuel { broken := false } l.cursor
  return ((l.allowKey broken).move c).push (.scalar .plain (String.ofList text))

/-- The signs that a plain scalar does not begin with. -/
def isIndicator (c : Char) : Bool := "-?:,[]\x7b\x7d#&*!|>'\"%@\x60".toList.contains c

/-- Whether a plain scalar may begin here: with no sign of another token, or with one of three signs
    that is followed by more of the word. -/
def plainMayStart (l : Lexer) : Bool :=
  let c := l.cursor
  !(c.wordEndsAt 0 || c.holds 0 isIndicator) || (c.starts '-' && !c.holds 1 isBlank) ||
    (!l.inFlow && (c.starts '?' || c.starts ':') && !c.wordEndsAt 1)

/-- One token from here on, or nothing at the end. -/
def next? (l : Lexer) (fuel : Nat) : Option Lexer :=
  let c := l.cursor
  if c.column = 0 && c.starts '%' then do
    let l ← (l.closeBlocks (-1)).dropKeyPlace?
    let (t, c) ← directive? c
    return ((l.allowKey false).move c).push t
  else if c.atDocumentMark '-' then l.documentMark? .documentStart
  else if c.atDocumentMark '.' then l.documentMark? .documentEnd
  else if c.starts '[' then l.flowStart? .flowSequenceStart
  else if c.starts '\x7b' then l.flowStart? .flowMappingStart
  else if c.starts ']' then l.flowEnd? .flowSequenceEnd
  else if c.starts '\x7d' then l.flowEnd? .flowMappingEnd
  else if c.starts ',' then l.flowEntry?
  else if c.starts '-' && c.wordEndsAt 1 then l.blockEntry?
  else if c.starts '?' && (l.inFlow || c.wordEndsAt 1) then l.key?
  else if c.starts ':' && (l.inFlow || c.wordEndsAt 1) then l.value?
  else if c.starts '*' then l.anchor? .reference
  else if c.starts '&' then l.anchor? .anchor
  else if c.starts '!' then l.tagToken?
  else if c.starts '|' && !l.inFlow then l.blockScalar? fuel .literal
  else if c.starts '>' && !l.inFlow then l.blockScalar? fuel .folded
  else if c.starts '\'' then l.quotedScalar? fuel .singleQuoted
  else if c.starts '"' then l.quotedScalar? fuel .doubleQuoted
  else if l.plainMayStart then l.plainScalar? fuel
  else none

/-- All tokens from here on. Each step reads at least one character. -/
def run? : Nat → Lexer → Option Lexer
  | 0, _ => none
  | fuel + 1, l => do
    let l ← (toNextToken (fuel + 1) l).dropStaleKeyPlaces?
    let l := l.closeBlocks l.cursor.column
    if l.cursor.atEnd then (l.closeBlocks (-1)).dropKeyPlace?
    else run? fuel (← l.next? (fuel + 1))

end Lexer

/-- The tokens of a text. -/
def tokens? (cs : List Char) : Option (List Token) :=
  if cs.all isAllowed then
    (Lexer.run? (cs.length + 1) { cursor := { rest := cs } }).map (·.tokens.toList)
  else none

end PluginFabric.Yaml
