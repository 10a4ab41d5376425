import PluginFabric.Text.Numeral

/-! Numbers in the 64-bit binary floating point format.

    A number is its word of bits: a sign, eleven bits of exponent and 52 of significand. The finite
    words of one sign, read as naturals, are in the order of their values, and neighbours among them
    are the neighbours on the grid; so a real is rounded by scaling it to the grid, rounding to the
    nearest integer with halves going to the even one, and adding the offset of its exponent. A carry
    out of the significand then lands in the exponent, as it should. -/

namespace PluginFabric

/-- A 64-bit binary floating point number, by its bits. -/
structure Binary64 where
  bits : UInt64
  deriving DecidableEq

namespace Binary64

def zero : Binary64 := ⟨0⟩
def infinity : Binary64 := ⟨0x7FF0000000000000⟩
def nan : Binary64 := ⟨0x7FF8000000000000⟩

instance : Inhabited Binary64 := ⟨zero⟩

/-- The bit of the sign. -/
def signBit : Nat := 0x8000000000000000

/-- The leading bit of a number of 53 bits, which is not written. -/
def leadingBit : Nat := 0x10000000000000

/-- The bits without the sign. -/
def magnitude (x : Binary64) : Nat := x.bits.toNat % signBit

def isNaN (x : Binary64) : Bool := decide (infinity.magnitude < x.magnitude)
def isFinite (x : Binary64) : Bool := decide (x.magnitude < infinity.magnitude)

/-- Equality as numbers: the two zeros are equal, and a NaN differs from everything. -/
def sameNumber (x y : Binary64) : Bool :=
  !x.isNaN && !y.isNaN && (x.bits == y.bits || (x.magnitude == 0 && y.magnitude == 0))

/-- The number with the given sign and the magnitude of `x`. -/
def withSign (negative : Bool) (x : Binary64) : Binary64 :=
  ⟨.ofNat (x.magnitude + if negative then signBit else 0)⟩

/-- The integer nearest to `num / den`, the even one of two. -/
def nearest (num den : Nat) : Nat :=
  let q := num / den
  let r := num % den
  if 2 * r < den ∨ (2 * r = den ∧ q % 2 = 0) then q else q + 1

/-- The exponent of the grid that `num / den` is rounded on: the one that leaves 53 bits, and no
    finer than the finest. -/
def gridExponent (num den : Nat) : Int :=
  let q : Int := (num.log2 : Int) - den.log2 - 52
  let reaches : Bool :=
    if q ≥ 0 then decide (leadingBit * (den <<< q.toNat) ≤ num)
    else decide (leadingBit * den ≤ num <<< (-q).toNat)
  max (-1074) (if reaches then q else q - 1)

/-- The number nearest to the non-negative quotient `num / den`. -/
def ofQuotient (num den : Nat) : Binary64 :=
  if num = 0 then zero
  else
    let q := gridExponent num den
    let m := if q ≥ 0 then nearest num (den <<< q.toNat) else nearest (num <<< (-q).toNat) den
    let word := (q + 1074).toNat * leadingBit + m
    if word < infinity.magnitude then ⟨.ofNat word⟩ else infinity

/-- The number nearest to an integer. -/
def ofInt (n : Int) : Binary64 := withSign (n < 0) (ofQuotient n.natAbs 1)

/-- The number nearest to `m * 10 ^ e`. Beyond the range of the format the answer needs no powers. -/
def ofDecimal (negative : Bool) (m : Nat) (e : Int) : Binary64 :=
  let scale : Int := (Nat.toDigits 10 m).length + e
  withSign negative <|
    if m = 0 ∨ scale < -400 then zero
    else if 400 < scale then infinity
    else if e ≥ 0 then ofQuotient (m * Nat.pow 10 e.toNat) 1
    else ofQuotient m (Nat.pow 10 (-e).toNat)

/-! ### Arithmetic of magnitudes -/

/-- The magnitude of a finite number, as a quotient of naturals. -/
def quotient (x : Binary64) : Nat × Nat :=
  let e := x.magnitude / leadingBit
  let m := x.magnitude % leadingBit
  (if e = 0 then m else (leadingBit + m) <<< (e - 1), 1 <<< 1074)

def times (x y : Binary64) : Binary64 :=
  ofQuotient (x.quotient.1 * y.quotient.1) (x.quotient.2 * y.quotient.2)

def dividedBy (x y : Binary64) : Binary64 :=
  ofQuotient (x.quotient.1 * y.quotient.2) (x.quotient.2 * y.quotient.1)

/-- The number nearest to a power of ten. -/
def tenTo (k : Nat) : Binary64 := ofQuotient (Nat.pow 10 k) 1

/-- The number nearest to `m`, scaled by the number nearest to a power of ten and rounded again; so
    it may lie beside the one nearest to `m * 10 ^ e`. A power that the format does not reach is
    divided by in two steps, and nothing beyond the range of the format is a number. -/
def scaled? (m : Nat) (e : Int) : Option Binary64 :=
  let x := ofQuotient m 1
  if m = 0 ∨ e < -616 then some zero
  else if e < -308 then some ((x.dividedBy (tenTo 308)).dividedBy (tenTo (-308 - e).toNat))
  else if e < 0 then some (x.dividedBy (tenTo (-e).toNat))
  else if e ≤ 308 then (some (x.times (tenTo e.toNat))).filter isFinite
  else none

/-! ### The text of a number -/

/-- An exponent: nothing, or `e` and a signed run of digits. -/
def exponent? : List Char → Option Int
  | [] => some 0
  | c :: cs =>
    if c = 'e' ∨ c = 'E' then
      match cs with
      | '+' :: ds => (Text.natural? ds).map fun n => (n : Int)
      | '-' :: ds => (Text.natural? ds).map fun n => -(n : Int)
      | ds => (Text.natural? ds).map fun n => (n : Int)
    else none

/-- An unsigned decimal by its signs: the digits before and after its point, and its exponent. -/
structure Decimal where
  whole : List Char
  fraction : List Char := []
  exponent : Int := 0

/-- The parts of a text that may be a decimal: digits with at most one point among them, and then an
    exponent. -/
def Decimal.split? (cs : List Char) : Option Decimal := do
  let whole := cs.takeWhile Text.isDigit
  let rest := cs.dropWhile Text.isDigit
  let (fraction, rest) := match rest with
    | '.' :: rest => (rest.takeWhile Text.isDigit, rest.dropWhile Text.isDigit)
    | _ => ([], rest)
  return { whole, fraction, exponent := ← exponent? rest }

/-- The number nearest to an unsigned decimal, which has at least one digit. -/
def decimal? (negative : Bool) (cs : List Char) : Option Binary64 := do
  let d ← Decimal.split? cs
  let m ← Text.natural? (d.whole ++ d.fraction)
  return ofDecimal negative m (d.exponent - d.fraction.length)

/-- The number a text denotes: an optional sign, and then a decimal or a name of infinity or of no
    number in any case. -/
def ofText? (cs : List Char) : Option Binary64 :=
  let (negative, body) := match cs with
    | '-' :: rest => (true, rest)
    | '+' :: rest => (false, rest)
    | _ => (false, cs)
  let word := String.ofList (body.map Char.toLower)
  if word = "inf" ∨ word = "infinity" then some (withSign negative infinity)
  else if word = "nan" then some nan
  else decimal? negative body

end Binary64

end PluginFabric
