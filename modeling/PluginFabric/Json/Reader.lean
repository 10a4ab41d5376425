import PluginFabric.Json.Value

/-! Reading a value from its JSON text.

    A numeral with neither a point nor an exponent is an integer if it fits 64 bits, signed or
    unsigned; every other numeral, and `-0`, is a floating point number. Its digits are read into a
    word of 64 bits, as many as fit, and the word is then scaled by a power of ten with each step
    rounded: of a long numeral or one of a large exponent the number may be a neighbour of the
    nearest one. Each reader takes the text
    in front of it and answers what it read and what is left; the fuel is the length of the text,
    which no nesting exceeds. -/

namespace PluginFabric.Json

/-- The signs that may stand between any two tokens. -/
def isSpace (c : Char) : Bool := c = ' ' ∨ c = '\t' ∨ c = '\n' ∨ c = '\r'

def skipSpace (cs : List Char) : List Char := cs.dropWhile isSpace

/-- Four digits of base sixteen. -/
def codeUnit? : List Char → Option (Nat × List Char)
  | a :: b :: c :: d :: rest => (Text.digits? 16 [a, b, c, d]).map (·, rest)
  | _ => none

/-- The character that an escape stands for, after its backslash; a pair of surrogates is one. -/
def escaped? : List Char → Option (Char × List Char)
  | 'u' :: rest => do
    let (high, rest) ← codeUnit? rest
    if 0xD800 ≤ high ∧ high < 0xDC00 then
      match rest with
      | '\\' :: 'u' :: rest =>
        let (low, rest) ← codeUnit? rest
        if 0xDC00 ≤ low ∧ low < 0xE000 then
          return (Char.ofNat (0x10000 + (high - 0xD800) * 0x400 + (low - 0xDC00)), rest)
        else none
      | _ => none
    else if 0xDC00 ≤ high ∧ high < 0xE000 then none
    else return (Char.ofNat high, rest)
  | 'n' :: rest => some ('\n', rest)
  | 't' :: rest => some ('\t', rest)
  | 'r' :: rest => some ('\r', rest)
  | 'b' :: rest => some ('\x08', rest)
  | 'f' :: rest => some ('\x0c', rest)
  | c :: rest => if c = '"' ∨ c = '\\' ∨ c = '/' then some (c, rest) else none
  | [] => none

/-- The rest of a string, after its opening quote. -/
def string? : Nat → List Char → Option (List Char × List Char)
  | 0, _ => none
  | fuel + 1, cs =>
    match cs with
    | [] => none
    | '"' :: rest => some ([], rest)
    | '\\' :: rest => do
      let (c, rest) ← escaped? rest
      let (tail, rest) ← string? fuel rest
      return (c :: tail, rest)
    | c :: rest => do
      let (tail, rest) ← string? fuel rest
      return (c :: tail, rest)

/-- The signs a numeral is made of. -/
def isNumeralSign (c : Char) : Bool :=
  Text.isDigit c || c = '-' || c = '+' || c = '.' || c = 'e' || c = 'E'

/-- Digits taken into a word as long as it fits 64 bits, and the digits that are left. -/
def takeDigits : Nat → List Char → Nat × List Char
  | m, [] => (m, [])
  | m, c :: cs =>
    match (Text.extendDigits? 10 m [c]).filter Text.fitsUnsigned64 with
    | some m => takeDigits m cs
    | none => (m, c :: cs)

/-- The magnitude of a decimal that has a digit before its point. Each digit there that does not fit
    the word counts as a power of ten, and one behind the point counts for nothing. -/
def magnitude? (d : Binary64.Decimal) : Option Binary64 :=
  let (m, more) := takeDigits 0 d.whole
  let (m, lost) := takeDigits m d.fraction
  if d.whole.isEmpty then none
  else Binary64.scaled? m (d.exponent + more.length - (d.fraction.length - lost.length : Nat))

/-- The number that a numeral denotes. -/
def number? (cs : List Char) : Option Json :=
  let (negative, digits) := match cs with
    | '-' :: ds => (true, ds)
    | ds => (false, ds)
  let float? := do
    let x ← magnitude? (← Binary64.Decimal.split? digits)
    return Json.float (x.withSign negative)
  match Text.natural? digits with
  | some n =>
    if negative then
      if n ≠ 0 ∧ Text.fitsSigned64 (-n) then some (.int (-n)) else float?
    else if Text.fitsUnsigned64 n then some (.int n) else float?
  | none => float?

mutual

/-- One value, with blanks allowed before it. -/
def value? : Nat → List Char → Option (Json × List Char)
  | 0, _ => none
  | fuel + 1, cs =>
    match skipSpace cs with
    | 'n' :: 'u' :: 'l' :: 'l' :: rest => some (.null, rest)
    | 't' :: 'r' :: 'u' :: 'e' :: rest => some (.bool true, rest)
    | 'f' :: 'a' :: 'l' :: 's' :: 'e' :: rest => some (.bool false, rest)
    | '"' :: rest => do
      let (s, rest) ← string? (rest.length + 1) rest
      return (.str (String.ofList s), rest)
    | '[' :: rest =>
      match skipSpace rest with
      | ']' :: rest => some (.arr [], rest)
      | rest => do
        let (elements, rest) ← elements? fuel rest
        return (.arr elements, rest)
    | '\x7b' :: rest =>
      match skipSpace rest with
      | '\x7d' :: rest => some (.obj [], rest)
      | rest => do
        let (members, rest) ← members? fuel rest
        return (object members, rest)
    | rest => do
      let n ← number? (rest.takeWhile isNumeralSign)
      return (n, rest.dropWhile isNumeralSign)

/-- One or more elements of a list and the bracket after them. -/
def elements? : Nat → List Char → Option (List Json × List Char)
  | 0, _ => none
  | fuel + 1, cs => do
    let (v, rest) ← value? fuel cs
    match skipSpace rest with
    | ',' :: rest =>
      let (vs, rest) ← elements? fuel rest
      return (v :: vs, rest)
    | ']' :: rest => return ([v], rest)
    | _ => none

/-- One or more members of an object and the brace after them. -/
def members? : Nat → List Char → Option (List (String × Json) × List Char)
  | 0, _ => none
  | fuel + 1, cs =>
    match skipSpace cs with
    | '"' :: rest => do
      let (key, rest) ← string? (rest.length + 1) rest
      match skipSpace rest with
      | ':' :: rest =>
        let (v, rest) ← value? fuel rest
        match skipSpace rest with
        | ',' :: rest =>
          let (ms, rest) ← members? fuel rest
          return ((String.ofList key, v) :: ms, rest)
        | '\x7d' :: rest => return ([(String.ofList key, v)], rest)
        | _ => none
      | _ => none
    | _ => none

end

/-- The value of a text that holds one value and blanks around it. -/
def parse? (s : String) : Option Json := do
  let cs := s.toList
  let (v, rest) ← value? (2 * cs.length + 2) cs
  if (skipSpace rest).isEmpty then return v else none

end PluginFabric.Json
