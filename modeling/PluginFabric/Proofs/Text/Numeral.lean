import Mathlib.Data.List.Induction
import Mathlib.Data.Nat.Digits.Defs
import PluginFabric.Text.Blank
import PluginFabric.Text.Numeral

/-! Digits that are read.

    One or more decimal digits denote the number that they are the digits of, each by its place. What
    is read as a number of 64 bits is told by a grammar (`Unsigned`, `Signed`) and the bounds, and by
    nothing else: a text is read exactly if the grammar has it and its number is within the bounds
    (`unsigned64?_eq_some_iff`, `signed64?_eq_some_iff`). In particular a number within the bounds is
    read back from its decimal text. -/

namespace PluginFabric.Text

/-! ### The grammar -/

/-- `ds` are one or more decimal digits, the most significant one in front, and they denote `n`. -/
structure Denotes (ds : List Char) (n : Nat) : Prop where
  nonempty : ds ≠ []
  digits : ∀ c ∈ ds, '0' ≤ c ∧ c ≤ '9'
  value : Nat.ofDigits 10 (ds.reverse.map fun c => c.toNat - '0'.toNat) = n

/-- An unsigned numeral and its number: digits, with a plus in front or without. -/
inductive Unsigned : List Char → Nat → Prop
  | plain {ds : List Char} {n : Nat} (h : Denotes ds n) : Unsigned ds n
  | plus {ds : List Char} {n : Nat} (h : Denotes ds n) : Unsigned ('+' :: ds) n

/-- A signed numeral and its number: an unsigned one, or digits with a hyphen in front. -/
inductive Signed : List Char → Int → Prop
  | unsigned {cs : List Char} {n : Nat} (h : Unsigned cs n) : Signed cs n
  | minus {ds : List Char} {n : Nat} (h : Denotes ds n) : Signed ('-' :: ds) (-(n : Int))

variable {c : Char} {cs ds : List Char} {n : Nat}

/-! ### Digits -/

theorem isDigit_iff : isDigit c = true ↔ '0' ≤ c ∧ c ≤ '9' := by simp [isDigit]

/-- The code points of the digits. -/
theorem toNat_of_isDigit (h : isDigit c = true) : 48 ≤ c.toNat ∧ c.toNat ≤ 57 := isDigit_iff.1 h

theorem isBlank_of_isDigit (h : isDigit c = true) : isBlank c = false := by
  obtain ⟨hlow, hhigh⟩ := toNat_of_isDigit h
  simp only [isBlank, blankRanges, List.any_cons, List.any_nil, Bool.or_false, Bool.or_eq_false_iff,
    Bool.and_eq_false_iff, decide_eq_false_iff_not]
  omega

theorem digitValue?_of_isDigit (h : isDigit c = true) :
    digitValue? 10 c = some (c.toNat - '0'.toNat) := by
  have hlt : c.toNat - '0'.toNat < 10 := by
    have hzero : '0'.toNat = 48 := rfl
    have hnine := (toNat_of_isDigit h).2
    omega
  rw [digitValue?, if_pos (isDigit_iff.1 h)]
  exact Option.filter_some_pos (decide_eq_true hlt)

/-- Of the characters that are digits of some base, the letters have too large a value for base ten. -/
theorem isDigit_of_digitValue? {d : Nat} (h : digitValue? 10 c = some d) : isDigit c = true := by
  rw [digitValue?] at h
  obtain ⟨hvalue, hlt⟩ := Option.filter_eq_some_iff.1 h
  have hten : d < 10 := of_decide_eq_true hlt
  split at hvalue
  · rename_i hbounds
    exact isDigit_iff.2 hbounds
  · have hletter : 10 ≤ d := by
      split at hvalue
      · have hd := Option.some.inj hvalue
        omega
      · split at hvalue
        · have hd := Option.some.inj hvalue
          omega
        · cases hvalue
    omega

/-- A number is extended by every digit. -/
theorem extendDigits?_of_isDigit (h : ∀ c ∈ cs, isDigit c = true) (n : Nat) :
    extendDigits? 10 n cs = some (Nat.ofDigitChars 10 cs n) := by
  induction cs generalizing n with
  | nil => rfl
  | cons c cs ih =>
    obtain ⟨hc, hcs⟩ := List.forall_mem_cons.1 h
    rw [extendDigits?, digitValue?_of_isDigit hc, Option.bind_eq_bind, Option.bind_some, ih hcs,
      Nat.ofDigitChars_cons, Nat.mul_comm]

/-- A number is extended by nothing but digits. -/
theorem isDigit_of_extendDigits? {m : Nat} (h : extendDigits? 10 m cs = some n) :
    ∀ c ∈ cs, isDigit c = true := by
  induction cs generalizing m with
  | nil => simp
  | cons c cs ih =>
    rw [extendDigits?, Option.bind_eq_bind] at h
    obtain ⟨d, hd, hrest⟩ := Option.bind_eq_some_iff.1 h
    exact List.forall_mem_cons.2 ⟨isDigit_of_digitValue? hd, ih hrest⟩

theorem natural?_of_isDigit (hne : cs ≠ []) (h : ∀ c ∈ cs, isDigit c = true) :
    natural? cs = some (Nat.ofDigitChars 10 cs 0) := by
  rw [natural?, digits?]
  · exact extendDigits?_of_isDigit h 0
  · exact hne

/-- Digits that are read from the front on count by their places, the last one by one. -/
theorem ofDigitChars_eq_ofDigits (cs : List Char) :
    Nat.ofDigitChars 10 cs 0 = Nat.ofDigits 10 (cs.reverse.map fun c => c.toNat - '0'.toNat) := by
  induction cs using List.reverseRecOn with
  | nil => rfl
  | append_singleton cs c ih =>
    rw [Nat.ofDigitChars_append, ih, Nat.ofDigitChars_cons, Nat.ofDigitChars_nil,
      List.reverse_append, List.reverse_singleton, List.singleton_append, List.map_cons,
      Nat.ofDigits_cons, Nat.add_comm]

theorem natural?_eq_some_iff : natural? cs = some n ↔ Denotes cs n := by
  constructor
  · intro h
    have hne : cs ≠ [] := by
      rintro rfl
      cases h
    have hdigits : ∀ c ∈ cs, isDigit c = true := by
      rw [natural?, digits?] at h
      · exact isDigit_of_extendDigits? h
      · exact hne
    rw [natural?_of_isDigit hne hdigits, ofDigitChars_eq_ofDigits] at h
    exact ⟨hne, fun c hc => isDigit_iff.1 (hdigits c hc), Option.some.inj h⟩
  · rintro ⟨hne, hdigits, rfl⟩
    rw [natural?_of_isDigit hne fun c hc => isDigit_iff.2 (hdigits c hc), ofDigitChars_eq_ofDigits]

/-! ### Signs -/

theorem not_denotes_cons (hc : isDigit c = false) : ¬ Denotes (c :: ds) n := by
  intro h
  have hdigit := isDigit_iff.2 (h.digits c List.mem_cons_self)
  rw [hc] at hdigit
  cases hdigit

theorem unsigned_plus_iff : Unsigned ('+' :: ds) n ↔ Denotes ds n := by
  constructor
  · intro h
    cases h with
    | plain h => exact absurd h (not_denotes_cons (by decide))
    | plus h => exact h
  · exact .plus

theorem unsigned_iff_of_ne (h : ∀ ds, cs ≠ '+' :: ds) : Unsigned cs n ↔ Denotes cs n := by
  constructor
  · intro hcs
    cases hcs with
    | plain hcs => exact hcs
    | plus => exact absurd rfl (h _)
  · exact .plain

theorem not_unsigned_minus : ¬ Unsigned ('-' :: ds) n := by
  rw [unsigned_iff_of_ne fun ds => by simp]
  exact not_denotes_cons (by decide)

theorem signed_minus_iff {i : Int} : Signed ('-' :: ds) i ↔ ∃ n, Denotes ds n ∧ -(n : Int) = i := by
  constructor
  · intro h
    cases h with
    | unsigned h => exact absurd h not_unsigned_minus
    | minus h => exact ⟨_, h, rfl⟩
  · rintro ⟨n, h, rfl⟩
    exact .minus h

theorem signed_iff_of_ne {i : Int} (h : ∀ ds, cs ≠ '-' :: ds) :
    Signed cs i ↔ ∃ n, Unsigned cs n ∧ (n : Int) = i := by
  constructor
  · intro hcs
    cases hcs with
    | unsigned hcs => exact ⟨_, hcs, rfl⟩
    | minus => exact absurd rfl (h _)
  · rintro ⟨n, hcs, rfl⟩
    exact .unsigned hcs

/-- A numeral has one number. -/
theorem Unsigned.unique {m : Nat} (hn : Unsigned cs n) (hm : Unsigned cs m) : m = n := by
  cases hn with
  | plain hn =>
    cases hm with
    | plain hm => exact hm.value.symm.trans hn.value
    | plus => exact absurd hn (not_denotes_cons (by decide))
  | plus hn =>
    have hm := unsigned_plus_iff.1 hm
    exact hm.value.symm.trans hn.value

/-- A numeral that is both signed and unsigned has the same number as either. -/
theorem Signed.eq_of_unsigned {i : Int} (hi : Signed cs i) (hn : Unsigned cs n) : i = n := by
  cases hi with
  | unsigned hm => rw [hn.unique hm]
  | minus => exact absurd hn not_unsigned_minus

/-! ### Numbers of 64 bits -/

/-- What is read as an unsigned number is a numeral of the grammar, within the bounds. -/
theorem unsigned64?_eq_some_iff : unsigned64? cs = some n ↔ Unsigned cs n ∧ n < UInt64.size := by
  unfold unsigned64?
  rw [Option.filter_eq_some_iff, fitsUnsigned64, decide_eq_true_eq]
  refine and_congr_left fun _ => ?_
  split
  · exact natural?_eq_some_iff.trans unsigned_plus_iff.symm
  · rename_i hno
    exact natural?_eq_some_iff.trans (unsigned_iff_of_ne fun ds hds => hno ds hds).symm

theorem fitsSigned64_iff {i : Int} : fitsSigned64 i = true ↔ -2 ^ 63 ≤ i ∧ i ≤ 2 ^ 63 - 1 := by
  rw [fitsSigned64, Bool.and_eq_true, decide_eq_true_eq, decide_eq_true_eq]
  exact Iff.rfl

/-- A number that is read and then made an integer, with its sign or without. -/
theorem map_natural?_eq_some_iff (f : Int → Int) {i : Int} :
    (natural? ds >>= fun n => pure (n : Int)).map f = some i ↔ ∃ n, Denotes ds n ∧ f n = i := by
  simp [Option.bind_eq_some_iff, natural?_eq_some_iff]

/-- What is read as a signed number is a numeral of the grammar, within the bounds. -/
theorem signed64?_eq_some_iff {i : Int} :
    signed64? cs = some i ↔ Signed cs i ∧ -2 ^ 63 ≤ i ∧ i ≤ 2 ^ 63 - 1 := by
  unfold signed64?
  rw [Option.filter_eq_some_iff, fitsSigned64_iff]
  refine and_congr_left fun _ => ?_
  split
  · rw [signed_iff_of_ne fun ds => by simp]
    simp only [unsigned_plus_iff]
    exact map_natural?_eq_some_iff _
  · rw [signed_minus_iff]
    exact map_natural?_eq_some_iff _
  · rename_i hplus hminus
    rw [signed_iff_of_ne fun ds hds => hminus ds hds]
    simp only [unsigned_iff_of_ne fun ds hds => hplus ds hds]
    exact map_natural?_eq_some_iff _

/-- A number that is read is within the bounds. -/
theorem lt_of_unsigned64? (h : unsigned64? cs = some n) : n < UInt64.size :=
  (unsigned64?_eq_some_iff.1 h).2

theorem bounds_of_signed64? {i : Int} (h : signed64? cs = some i) :
    Int64.minValue.toInt ≤ i ∧ i ≤ Int64.maxValue.toInt :=
  (signed64?_eq_some_iff.1 h).2

/-! ### Decimal texts -/

theorem isDigit_of_mem_toDigits {n : Nat} : ∀ c ∈ Nat.toDigits 10 n, isDigit c = true :=
  fun _ hc => Nat.isDigit_of_mem_toDigits (by decide) (by decide) hc

theorem denotes_toDigits (n : Nat) : Denotes (Nat.toDigits 10 n) n := by
  rw [← natural?_eq_some_iff, natural?_of_isDigit Nat.toDigits_ne_nil isDigit_of_mem_toDigits,
    Nat.ofDigitChars_ten_toDigits]

theorem toList_toString_ofNat (n : Nat) :
    (toString (Int.ofNat n)).toList = Nat.toDigits 10 n := Nat.toList_repr

/-- A negative number is written with a hyphen in front. -/
theorem toList_toString_negSucc (n : Nat) :
    (toString (Int.negSucc n)).toList = '-' :: Nat.toDigits 10 (n + 1) := by
  have htext : toString (Int.negSucc n) = "-" ++ Nat.repr (n + 1) := rfl
  rw [htext, String.toList_append, Nat.toList_repr]
  rfl

/-- A decimal text is a numeral of the number that it was written for. -/
theorem unsigned_toString (n : Nat) : Unsigned (toString n).toList n := by
  rw [Nat.toString_eq_repr, Nat.toList_repr]
  exact .plain (denotes_toDigits n)

theorem signed_toString (i : Int) : Signed (toString i).toList i := by
  cases i with
  | ofNat n => exact .unsigned (unsigned_toString n)
  | negSucc n =>
    rw [toList_toString_negSucc]
    exact .minus (denotes_toDigits (n + 1))

theorem unsigned64?_toString (h : n < UInt64.size) : unsigned64? (toString n).toList = some n :=
  unsigned64?_eq_some_iff.2 ⟨unsigned_toString n, h⟩

theorem signed64?_toString {i : Int} (hmin : Int64.minValue.toInt ≤ i)
    (hmax : i ≤ Int64.maxValue.toInt) : signed64? (toString i).toList = some i :=
  signed64?_eq_some_iff.2 ⟨signed_toString i, hmin, hmax⟩

/-- A decimal text has no blanks in it. -/
theorem isBlank_of_mem_toString {n : Int} : ∀ c ∈ (toString n).toList, isBlank c = false := by
  intro c hc
  cases n with
  | ofNat n =>
    rw [toList_toString_ofNat] at hc
    exact isBlank_of_isDigit (isDigit_of_mem_toDigits c hc)
  | negSucc n =>
    rw [toList_toString_negSucc] at hc
    rcases List.mem_cons.1 hc with rfl | hc
    · decide
    · exact isBlank_of_isDigit (isDigit_of_mem_toDigits c hc)

end PluginFabric.Text
