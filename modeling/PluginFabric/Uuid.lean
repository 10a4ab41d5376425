import PluginFabric.Text.Numeral

/-! Universally unique identifiers.

    An identifier is thirty-two digits of base sixteen. It is written in lower case with hyphens
    after the eighth, twelfth, sixteenth and twentieth digit; it is read in that form in either case,
    also between braces or after `urn:uuid:` in either case, and in the form without hyphens. -/

namespace PluginFabric

/-- A universally unique identifier, by its digits. -/
structure Uuid where
  digits : List (Fin 16)
  length_eq : digits.length = 32
  deriving DecidableEq

namespace Uuid

def nil : Uuid := ⟨List.replicate 32 0, rfl⟩

instance : Inhabited Uuid := ⟨nil⟩

/-- The identifier with these digits, if there are thirty-two of them. -/
def ofDigits? (ds : List (Fin 16)) : Option Uuid :=
  if h : ds.length = 32 then some ⟨ds, h⟩ else none

/-- The digit that a character denotes. -/
def digit? (c : Char) : Option (Fin 16) := (Text.digitValue? 16 c).map (Fin.ofNat 16 ·)

def digitChar (d : Fin 16) : Char := Nat.digitChar d

/-- Thirty-two digits without hyphens. -/
def ofPlain? (cs : List Char) : Option Uuid := do ofDigits? (← cs.mapM digit?)

/-- Five groups of digits with hyphens between them. -/
def ofHyphenated? (cs : List Char) : Option Uuid :=
  if cs.length = 36 ∧ cs[8]? = some '-' ∧ cs[13]? = some '-' ∧ cs[18]? = some '-' ∧ cs[23]? = some '-'
  then ofPlain? (cs.take 8 ++ (cs.drop 9).take 4 ++ (cs.drop 14).take 4 ++ (cs.drop 19).take 4 ++ cs.drop 24)
  else none

def ofText? (s : String) : Option Uuid :=
  let cs := s.toList
  if cs.length = 32 then ofPlain? cs
  else if cs.length = 38 ∧ cs.head? = some '\x7b' ∧ cs.getLast? = some '\x7d' then
    ofHyphenated? (cs.drop 1).dropLast
  else if cs.length = 45 ∧ (cs.take 9).map Char.toLower = "urn:uuid:".toList then ofHyphenated? (cs.drop 9)
  else ofHyphenated? cs

def toText (u : Uuid) : String :=
  let cs := u.digits.map digitChar
  String.ofList (cs.take 8 ++ '-' :: (cs.drop 8).take 4 ++ '-' :: (cs.drop 12).take 4 ++
    '-' :: (cs.drop 16).take 4 ++ '-' :: cs.drop 20)

end Uuid

end PluginFabric
