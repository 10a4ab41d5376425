import PluginFabric.Text.Blank
import PluginFabric.Text.Numeral

/-! Instants in Coordinated Universal Time.

    An instant is its date and its time of day; second sixty is a leap second. It is written as RFC
    3339 has it, with the fewest of 0, 3, 6 or 9 fraction digits that lose nothing and `Z` for the
    zone. Reading also allows blanks between the parts, a blank in place of the `T`, any offset, the
    zone name `UTC`, and a signed year of any length. -/

namespace PluginFabric

namespace Calendar

def isLeap (year : Int) : Bool := year % 4 == 0 && (year % 100 != 0 || year % 400 == 0)

/-- The number of days of a month; no day for a month out of range. -/
def daysIn (year : Int) (month : Nat) : Nat :=
  if month = 2 then (if isLeap year then 29 else 28)
  else if month = 4 ∨ month = 6 ∨ month = 9 ∨ month = 11 then 30
  else if 1 ≤ month ∧ month ≤ 12 then 31
  else 0

/-- A day of the calendar, which runs from the year -262143 to the year 262142. -/
def hasDay (year : Int) (month day : Nat) : Bool :=
  decide (-262143 ≤ year) && decide (year ≤ 262142) && decide (1 ≤ day) && decide (day ≤ daysIn year month)

def nextDay (year : Int) (month day : Nat) : Int × Nat × Nat :=
  if day < daysIn year month then (year, month, day + 1)
  else if month < 12 then (year, month + 1, 1)
  else (year + 1, 1, 1)

def previousDay (year : Int) (month day : Nat) : Int × Nat × Nat :=
  if 1 < day then (year, month, day - 1)
  else if 1 < month then (year, month - 1, daysIn year (month - 1))
  else (year - 1, 12, 31)

end Calendar

/-- An instant, as its date and time of day in Coordinated Universal Time. -/
structure Timestamp where
  year : Int
  month : Nat
  day : Nat
  hour : Nat
  minute : Nat
  second : Nat
  nano : Nat
  hasDay : Calendar.hasDay year month day = true
  hour_lt : hour < 24
  minute_lt : minute < 60
  second_le : second ≤ 60
  nano_lt : nano < 1000000000
  deriving DecidableEq

namespace Timestamp

/-- The first instant of the year 1970. -/
def epoch : Timestamp := ⟨1970, 1, 1, 0, 0, 0, 0, by decide, by decide, by decide, by decide, by decide⟩

instance : Inhabited Timestamp := ⟨epoch⟩

/-- The instant of a date and a time of day, if there is one. -/
def of? (year : Int) (month day hour minute second nano : Nat) : Option Timestamp :=
  if h : Calendar.hasDay year month day = true ∧ hour < 24 ∧ minute < 60 ∧ second ≤ 60 ∧ nano < 1000000000
  then some ⟨year, month, day, hour, minute, second, nano, h.1, h.2.1, h.2.2.1, h.2.2.2.1, h.2.2.2.2⟩
  else none

/-- The instant at which a clock that is `offset` minutes ahead shows `t`. -/
def behind? (t : Timestamp) (offset : Int) : Option Timestamp :=
  let minutes : Int := t.hour * 60 + t.minute - offset
  let (year, month, day) :=
    if minutes < 0 then Calendar.previousDay t.year t.month t.day
    else if minutes < 1440 then (t.year, t.month, t.day)
    else Calendar.nextDay t.year t.month t.day
  let ofDay := (minutes % 1440).toNat
  of? year month day (ofDay / 60) (ofDay % 60) t.second t.nano

/-! ### Writing -/

/-- A number with zeros before it up to a width. -/
def padded (width n : Nat) : List Char :=
  let ds := Nat.toDigits 10 n
  List.replicate (width - ds.length) '0' ++ ds

/-- A year of four digits, or a signed one outside them. -/
def yearText (year : Int) : List Char :=
  if 0 ≤ year ∧ year ≤ 9999 then padded 4 year.natAbs
  else (if year < 0 then '-' else '+') :: padded 4 year.natAbs

/-- The fraction of a second: nothing, or a point and 3, 6 or 9 digits. -/
def fractionText (nano : Nat) : List Char :=
  if nano = 0 then []
  else if nano % 1000000 = 0 then '.' :: padded 3 (nano / 1000000)
  else if nano % 1000 = 0 then '.' :: padded 6 (nano / 1000)
  else '.' :: padded 9 nano

def toText (t : Timestamp) : String :=
  String.ofList (yearText t.year ++ '-' :: padded 2 t.month ++ '-' :: padded 2 t.day ++ 'T' ::
    padded 2 t.hour ++ ':' :: padded 2 t.minute ++ ':' :: padded 2 t.second ++
    fractionText t.nano ++ ['Z'])

/-! ### Reading -/

/-- A number of one digit up to `width` digits, with blanks before it. -/
def number? (width : Nat) (cs : List Char) : Option (Nat × List Char) := do
  let cs := Text.trimStart cs
  let ds := (cs.take width).takeWhile Text.isDigit
  return (← Text.natural? ds, cs.drop ds.length)

/-- The sign `c`, with blanks before it. -/
def sign? (c : Char) (cs : List Char) : Option (List Char) :=
  match Text.trimStart cs with
  | d :: rest => if d = c then some rest else none
  | [] => none

/-- A year of up to four digits, or of any length after a sign. -/
def year? (cs : List Char) : Option (Int × List Char) :=
  match Text.trimStart cs with
  | '-' :: rest =>
    let ds := rest.takeWhile Text.isDigit
    (Text.natural? ds).map fun n => (-(n : Int), rest.drop ds.length)
  | '+' :: rest =>
    let ds := rest.takeWhile Text.isDigit
    (Text.natural? ds).map fun n => ((n : Int), rest.drop ds.length)
  | cs => (number? 4 cs).map fun p => ((p.1 : Int), p.2)

/-- The nanoseconds of an optional fraction, of one digit at least; digits after the ninth do not
    count. -/
def fraction? : List Char → Option (Nat × List Char)
  | '.' :: rest => do
    let ds := rest.takeWhile Text.isDigit
    let kept := ds.take 9
    if kept.isEmpty then none
    else return (← Text.natural? (kept ++ List.replicate (9 - kept.length) '0'), rest.drop ds.length)
  | cs => some (0, cs)

/-- The minutes by which a zone is ahead: `Z`, `UTC`, or a sign, two digits of hours and two of
    minutes, with colons and blanks allowed between. -/
def zone? (cs : List Char) : Option (Int × List Char) :=
  let two? (cs : List Char) : Option (Nat × List Char) :=
    match cs with
    | a :: b :: rest => (Text.natural? [a, b]).map (·, rest)
    | _ => none
  let ahead? (rest : List Char) : Option (Nat × List Char) := do
    let (hours, rest) ← two? rest
    let (minutes, rest) ← two? (rest.dropWhile fun c => c = ':' ∨ Text.isBlank c)
    if hours < 24 ∧ minutes < 60 then return (hours * 60 + minutes, rest) else none
  if (cs.take 3).map Char.toLower = ['u', 't', 'c'] then some (0, cs.drop 3)
  else match cs with
    | c :: rest =>
      if c = 'Z' ∨ c = 'z' then some (0, rest)
      else if c = '+' then (ahead? rest).map fun p => ((p.1 : Int), p.2)
      else if c = '-' ∨ c = '−' then (ahead? rest).map fun p => (-(p.1 : Int), p.2)
      else none
    | [] => none

/-- The instant that a text denotes. -/
def ofText? (s : String) : Option Timestamp := do
  let (year, cs) ← year? s.toList
  let cs ← sign? '-' cs
  let (month, cs) ← number? 2 cs
  let cs ← sign? '-' cs
  let (day, cs) ← number? 2 cs
  let cs ← match cs with
    | c :: rest => if c = 'T' ∨ c = 't' ∨ c = ' ' then some rest else none
    | [] => none
  let (hour, cs) ← number? 2 cs
  let cs ← sign? ':' cs
  let (minute, cs) ← number? 2 cs
  let cs ← sign? ':' cs
  let (second, cs) ← number? 2 cs
  let (nano, cs) ← fraction? cs
  let (offset, cs) ← zone? (Text.trimStart cs)
  if (Text.trimStart cs).isEmpty then
    (← of? year month day hour minute second nano).behind? offset
  else none

end Timestamp

end PluginFabric
