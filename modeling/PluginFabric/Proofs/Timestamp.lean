import PluginFabric.Timestamp
import PluginFabric.Proofs.Text.Numeral
import Mathlib.Algebra.Group.Nat.Defs
import Mathlib.Data.List.TakeWhile

/-! Instants read back.

    Each reader takes what was written for its part of an instant and leaves the rest. A part that is
    padded to its width is as long as that; where the width is open, as of a year with a sign or of a
    fraction, the sign behind the digits ends it. So an instant is read back from its text. -/

namespace PluginFabric.Timestamp

open Text (isDigit isBlank trimStart natural? natural?_of_isDigit isBlank_of_isDigit)

/-! ### Padded numbers -/

section Padded

variable {width n : Nat}

theorem isDigit_of_mem_padded {c : Char} (h : c ∈ padded width n) : isDigit c = true := by
  rcases List.mem_append.1 h with h | h
  · rw [List.eq_of_mem_replicate h]
    rfl
  · exact Text.isDigit_of_mem_toDigits c h

theorem padded_ne_nil (width n : Nat) : padded width n ≠ [] := by
  simp [padded]

theorem length_padded (hwidth : 0 < width) (h : n < 10 ^ width) :
    (padded width n).length = width := by
  have hle := (Nat.length_toDigits_le_iff (b := 10) (by decide) hwidth).2 h
  rw [padded, List.length_append, List.length_replicate]
  omega

/-- The zeros in front do not count. -/
theorem ofDigitChars_padded (width n : Nat) : Nat.ofDigitChars 10 (padded width n) 0 = n := by
  rw [padded, Nat.ofDigitChars_append, Nat.ofDigitChars_replicate_zero, Nat.mul_zero,
    Nat.ofDigitChars_ten_toDigits]

theorem natural?_padded (width n : Nat) : natural? (padded width n) = some n := by
  rw [natural?_of_isDigit (padded_ne_nil width n) fun c hc => isDigit_of_mem_padded hc,
    ofDigitChars_padded]

theorem takeWhile_padded : (padded width n).takeWhile isDigit = padded width n :=
  List.takeWhile_eq_self_iff.2 fun _ hc => isDigit_of_mem_padded hc

/-- Digits end where something else follows. -/
theorem takeWhile_padded_append {c : Char} (hc : isDigit c = false) (rest : List Char) :
    (padded width n ++ c :: rest).takeWhile isDigit = padded width n := by
  rw [List.takeWhile_append_of_pos fun _ h => isDigit_of_mem_padded h, List.takeWhile_cons_of_neg,
    List.append_nil]
  simp [hc]

end Padded

/-! ### Parts -/

section Parts

variable {width n : Nat}

theorem trimStart_cons {c : Char} (h : isBlank c = false) (cs : List Char) :
    trimStart (c :: cs) = c :: cs := by
  rw [trimStart, List.dropWhile_cons_of_neg]
  simp [h]

theorem trimStart_padded (rest : List Char) :
    trimStart (padded width n ++ rest) = padded width n ++ rest := by
  obtain ⟨c, cs, h⟩ := List.exists_cons_of_ne_nil (padded_ne_nil width n)
  have hc : isDigit c = true := isDigit_of_mem_padded (h ▸ List.mem_cons_self)
  rw [h, List.cons_append, trimStart_cons (isBlank_of_isDigit hc)]

/-- A number is read from as many digits as it was padded to. -/
theorem number?_padded (hwidth : 0 < width) (h : n < 10 ^ width) (rest : List Char) :
    number? width (padded width n ++ rest) = some (n, rest) := by
  have htake : (padded width n ++ rest).take width = padded width n :=
    List.take_left' (length_padded hwidth h)
  rw [number?, trimStart_padded, htake, takeWhile_padded, natural?_padded, Option.bind_eq_bind,
    Option.bind_some, List.drop_left, Option.pure_def]

theorem sign?_cons {c : Char} (h : isBlank c = false) (rest : List Char) :
    sign? c (c :: rest) = some rest := by
  rw [sign?, trimStart_cons h]
  exact if_pos rfl

/-- A year of four digits is read as far as its digits go. -/
theorem year?_padded {n : Nat} (h : n < 10 ^ 4) (rest : List Char) :
    year? (padded 4 n ++ rest) = some ((n : Int), rest) := by
  have hnumber := number?_padded (by decide) h rest
  obtain ⟨c, cs, hcs⟩ := List.exists_cons_of_ne_nil (padded_ne_nil 4 n)
  have hc : isDigit c = true := isDigit_of_mem_padded (hcs ▸ List.mem_cons_self)
  rw [year?, trimStart_padded]
  rw [hcs, List.cons_append] at hnumber ⊢
  split
  · rename_i heq
    rw [(List.cons.inj heq).1] at hc
    exact absurd hc (by decide)
  · rename_i heq
    rw [(List.cons.inj heq).1] at hc
    exact absurd hc (by decide)
  · rw [hnumber, Option.map_some]

/-- A year is read back; with a sign, it ends at the hyphen. -/
theorem year?_yearText (year : Int) (rest : List Char) :
    year? (yearText year ++ '-' :: rest) = some (year, '-' :: rest) := by
  have hdigits : (padded 4 year.natAbs ++ '-' :: rest).takeWhile isDigit = padded 4 year.natAbs :=
    takeWhile_padded_append (by decide) rest
  rw [yearText]
  split
  · rename_i h
    rw [year?_padded (by omega), Int.natAbs_of_nonneg h.1]
  · split
    · rw [List.cons_append, year?, trimStart_cons (by decide)]
      simp only [hdigits, natural?_padded, Option.bind_eq_bind, Option.bind_some, Option.pure_def,
        Option.map_some, List.drop_left]
      congr 2
      omega
    · rw [List.cons_append, year?, trimStart_cons (by decide)]
      simp only [hdigits, natural?_padded, Option.bind_eq_bind, Option.bind_some, Option.pure_def,
        Option.map_some, List.drop_left]
      congr 2
      omega

/-- A fraction counts by the place of its digits. -/
theorem fraction?_padded (hwidth : 0 < width) (hle : width ≤ 9) (h : n < 10 ^ width) :
    fraction? ('.' :: padded width n ++ ['Z']) = some (n * 10 ^ (9 - width), ['Z']) := by
  have hlength := length_padded hwidth h
  have hkept : (padded width n).take 9 = padded width n := List.take_of_length_le (by omega)
  have hrest : (padded width n ++ ['Z']).drop width = ['Z'] := List.drop_left' hlength
  have hdigits : natural? (padded width n ++ List.replicate (9 - width) '0')
      = some (n * 10 ^ (9 - width)) := by
    rw [natural?_of_isDigit (by simp [padded_ne_nil]), Nat.ofDigitChars_append, ofDigitChars_padded,
      Nat.ofDigitChars_replicate_zero, Nat.mul_comm]
    intro c hc
    rcases List.mem_append.1 hc with hc | hc
    · exact isDigit_of_mem_padded hc
    · rw [List.eq_of_mem_replicate hc]
      rfl
  rw [List.cons_append, fraction?, takeWhile_padded_append (by decide), hkept, hlength, hdigits,
    hrest]
  simp [padded_ne_nil]

theorem fraction?_fractionText {nano : Nat} (h : nano < 1000000000) :
    fraction? (fractionText nano ++ ['Z']) = some (nano, ['Z']) := by
  rw [fractionText]
  split
  · rename_i h0
    rw [h0]
    rfl
  · split
    · rw [fraction?_padded (by decide) (by decide) (by omega)]
      congr 2
      omega
    · split
      · rw [fraction?_padded (by decide) (by decide) (by omega)]
        congr 2
        omega
      · rw [fraction?_padded (by decide) (by decide) (by omega)]
        congr 2
        omega

theorem zone?_utc : zone? ['Z'] = some (0, []) := by
  rfl

end Parts

/-! ### Instants -/

theorem of?_fields (t : Timestamp) :
    of? t.year t.month t.day t.hour t.minute t.second t.nano = some t :=
  dif_pos ⟨t.hasDay, t.hour_lt, t.minute_lt, t.second_le, t.nano_lt⟩

/-- In the zone of the time itself, a clock shows it. -/
theorem behind?_zero (t : Timestamp) : t.behind? 0 = some t := by
  have hhour := t.hour_lt
  have hminute := t.minute_lt
  have hofDay : (((t.hour : Int) * 60 + t.minute - 0) % 1440).toNat = t.hour * 60 + t.minute := by
    omega
  have hh : (t.hour * 60 + t.minute) / 60 = t.hour := by omega
  have hm : (t.hour * 60 + t.minute) % 60 = t.minute := by omega
  rw [behind?, if_neg (by omega), if_pos (by omega)]
  simp only [hofDay, hh, hm]
  exact of?_fields t

/-- A day of the calendar is in one of twelve months, which have at most thirty-one. -/
theorem month_le_and_day_le (t : Timestamp) : t.month ≤ 12 ∧ t.day ≤ 31 := by
  have hday := t.hasDay
  simp only [Calendar.hasDay, Bool.and_eq_true, decide_eq_true_eq] at hday
  obtain ⟨⟨-, hfirst⟩, hlast⟩ := hday
  rw [Calendar.daysIn] at hlast
  split_ifs at hlast <;> omega

/-- What a reader that succeeds read is passed on. -/
theorem bind_of_eq_some {α β : Type} {o : Option α} {a : α} (h : o = some a) (f : α → Option β) :
    o >>= f = f a := by
  rw [h]
  rfl

/-- An instant that was written is read back. -/
theorem ofText?_toText (t : Timestamp) : ofText? t.toText = some t := by
  have hdate := t.month_le_and_day_le
  have hhour := t.hour_lt
  have hminute := t.minute_lt
  have hsecond := t.second_le
  have two {n : Nat} (h : n < 100) (rest : List Char) :
      number? 2 (padded 2 n ++ rest) = some (n, rest) := number?_padded (by decide) h rest
  have hyphen := @sign?_cons '-' (by decide)
  have colon := @sign?_cons ':' (by decide)
  have hend : (trimStart []).isEmpty = true := rfl
  rw [ofText?, toText, String.toList_ofList]
  simp only [List.append_assoc, List.cons_append]
  rw [bind_of_eq_some (year?_yearText _ _), bind_of_eq_some (hyphen _),
    bind_of_eq_some (two (by omega) _), bind_of_eq_some (hyphen _),
    bind_of_eq_some (two (by omega) _)]
  dsimp only
  rw [if_pos (Or.inl rfl), bind_of_eq_some rfl, bind_of_eq_some (two (by omega) _),
    bind_of_eq_some (colon _), bind_of_eq_some (two (by omega) _), bind_of_eq_some (colon _),
    bind_of_eq_some (two (by omega) _), bind_of_eq_some (fraction?_fractionText t.nano_lt)]
  dsimp only
  rw [trimStart_cons (by decide), bind_of_eq_some zone?_utc]
  dsimp only
  rw [if_pos hend, bind_of_eq_some t.of?_fields, t.behind?_zero]

end PluginFabric.Timestamp
