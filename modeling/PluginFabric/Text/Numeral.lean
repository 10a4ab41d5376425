/-! Numerals.

    An unsigned numeral is an optional `+` and then one or more digits, a signed one may have `-` in
    place of the `+`. Reading fails on any other character, on an empty run of digits and on a value
    out of bounds; leading zeros are allowed. -/

namespace PluginFabric.Text

/-- The value of a digit in a base up to sixteen; letters count in either case. -/
def digitValue? (base : Nat) (c : Char) : Option Nat :=
  let v? :=
    if '0' ≤ c ∧ c ≤ '9' then some (c.toNat - '0'.toNat)
    else if 'a' ≤ c ∧ c ≤ 'f' then some (c.toNat - 'a'.toNat + 10)
    else if 'A' ≤ c ∧ c ≤ 'F' then some (c.toNat - 'A'.toNat + 10)
    else none
  v?.filter (· < base)

def isDigit (c : Char) : Bool := decide ('0' ≤ c) && decide (c ≤ '9')

/-- Extends a number by further digits of a base. -/
def extendDigits? (base : Nat) : Nat → List Char → Option Nat
  | n, [] => some n
  | n, c :: cs => do extendDigits? base (n * base + (← digitValue? base c)) cs

/-- The number that one or more digits of a base denote. -/
def digits? (base : Nat) : List Char → Option Nat
  | [] => none
  | cs => extendDigits? base 0 cs

/-- The number that one or more decimal digits denote. -/
def natural? (cs : List Char) : Option Nat := digits? 10 cs

/-- The bounds of a 64-bit unsigned integer. -/
def fitsUnsigned64 (n : Nat) : Bool := decide (n < UInt64.size)

/-- The bounds of a 64-bit signed integer. -/
def fitsSigned64 (n : Int) : Bool := decide (Int64.minValue.toInt ≤ n) && decide (n ≤ Int64.maxValue.toInt)

/-- The value of an unsigned 64-bit numeral. -/
def unsigned64? (cs : List Char) : Option Nat :=
  let digits := match cs with
    | '+' :: rest => rest
    | _ => cs
  (natural? digits).filter fitsUnsigned64

/-- The value of a signed 64-bit numeral. -/
def signed64? (cs : List Char) : Option Int :=
  let value := match cs with
    | '+' :: rest => (natural? rest).map fun n => (n : Int)
    | '-' :: rest => (natural? rest).map fun n => -(n : Int)
    | _ => (natural? cs).map fun n => (n : Int)
  value.filter fitsSigned64

/-- A number in lower-case base sixteen without leading zeros, after `0x`. -/
def hexadecimal (n : Nat) : String := "0x" ++ String.ofList (Nat.toDigits 16 n)

end PluginFabric.Text
