import PluginFabric.Proofs.Config.Register
import PluginFabric.Proofs.Text.Items
import PluginFabric.Proofs.Text.Numeral

/-! What the integer getters accept.

    A getter reads the value of a property with the blanks around it aside, and accepts what its grammar
    has and its bounds allow; any other value is complained about as it stands (`reads_read`, which
    holds of every typed getter). So the signed and the unsigned reading of one value are the same
    number, and a number that is written as text, whatever blanks stand around it, is read again. -/

namespace PluginFabric

namespace Configuration

/-- A getter finds what is accepted and nothing else; where nothing is accepted, it complains. -/
structure Reads {α : Type} (result : Except PropertyError (Option α)) (accepted : α → Prop)
    (complaint : PropertyError) : Prop where
  found : ∀ a, result = .ok (some a) ↔ accepted a
  refused : (∀ a, ¬ accepted a) → result = .error complaint

variable {α : Type} {conf : Configuration} {key raw : String}

/-! ### Reading -/

theorem reads_read {expected : ValueKind} {parse : List Char → Option α} {accepted : α → Prop}
    (present : conf.get? key = some raw)
    (accepts : ∀ a, parse (Text.trim raw.toList) = some a ↔ accepted a) :
    Reads (conf.read key expected parse) accepted (.invalidValue key raw expected) := by
  rw [read, present]
  dsimp only
  cases hparse : parse (Text.trim raw.toList) with
  | none => exact ⟨fun a => by simp [← accepts, hparse], fun _ => rfl⟩
  | some b =>
    have hb : accepted b := (accepts b).1 hparse
    exact ⟨fun a => by simp [← accepts, hparse], fun hnone => absurd hb (hnone b)⟩

theorem reads_getUnsigned (present : conf.get? key = some raw) :
    Reads (conf.getUnsigned key)
      (fun n => Text.Unsigned (Text.trim raw.toList) n ∧ n < 2 ^ 64)
      (.invalidValue key raw .unsignedInteger) :=
  reads_read present fun _ => Text.unsigned64?_eq_some_iff

theorem reads_getInteger (present : conf.get? key = some raw) :
    Reads (conf.getInteger key)
      (fun i => Text.Signed (Text.trim raw.toList) i ∧ -2 ^ 63 ≤ i ∧ i ≤ 2 ^ 63 - 1)
      (.invalidValue key raw .integer) :=
  reads_read present fun _ => Text.signed64?_eq_some_iff

/-! ### Writing and reading again -/

/-- A property that is not final has the value that is written. -/
theorem get?_perform_write (hopen : conf.isFinal key = false) (value : String) (isFinal : Bool) :
    (conf.perform (.write key value isFinal)).1 = .written ∧
      get? (conf.perform (.write key value isFinal)).2 key = some value := by
  obtain ⟨hanswer, hentry⟩ := perform_write_open hopen value isFinal
  refine ⟨hanswer, ?_⟩
  rw [get?, hentry, Option.map_some]

/-- A value without blanks in it is found again where it is written with blanks around it. -/
theorem read_perform_write {expected : ValueKind} {parse : List Char → Option α} {a : α}
    {front text back : String} (hopen : conf.isFinal key = false)
    (hfront : Text.allBlank front = true) (hback : Text.allBlank back = true) (isFinal : Bool)
    (solid : ∀ c ∈ text.toList, Text.isBlank c = false) (read_back : parse text.toList = some a) :
    let stored := conf.perform (.write key (front ++ text ++ back) isFinal)
    stored.1 = .written ∧ stored.2.read key expected parse = .ok (some a) := by
  intro stored
  obtain ⟨hwritten, present⟩ := get?_perform_write hopen (front ++ text ++ back) isFinal
  have htrim : Text.trim (front ++ text ++ back).toList = text.toList := by
    refine Text.trims_iff.1 ⟨⟨front.toList, back.toList, ?_, ?_⟩, ?_⟩
    · rw [String.toList_append, String.toList_append]
    · exact List.forall_mem_append.2 ⟨List.all_eq_true.1 hfront, List.all_eq_true.1 hback⟩
    · exact Text.trim_eq_self_iff.1 (Text.trim_of_not_isBlank solid)
  refine ⟨hwritten, ((reads_read present fun _ => Iff.rfl).found a).2 ?_⟩
  rw [htrim, read_back]

/-- The integer getters accept exactly the numerals of their grammars that are within the bounds of 64
    bits, with the blanks around the value aside, and complain about any other value as it stands. Where
    both find a number it is the same. The decimal text of any number of 64 bits, with any blanks
    around it, is read as that number once it is written. -/
theorem integers_read_exactly :
    (∀ (conf : Configuration) (key raw : String), conf.get? key = some raw →
      let text := Text.trim raw.toList
      Text.Trims raw.toList text ∧
      Reads (conf.getUnsigned key) (fun n => Text.Unsigned text n ∧ n < 2 ^ 64)
        (.invalidValue key raw .unsignedInteger) ∧
      Reads (conf.getInteger key) (fun i => Text.Signed text i ∧ -2 ^ 63 ≤ i ∧ i ≤ 2 ^ 63 - 1)
        (.invalidValue key raw .integer) ∧
      ∀ n i, conf.getUnsigned key = .ok (some n) → conf.getInteger key = .ok (some i) → i = n) ∧
    ∀ (conf : Configuration) (key front back : String) (isFinal : Bool), conf.isFinal key = false →
      Text.allBlank front = true → Text.allBlank back = true →
      (∀ n : UInt64,
        let stored := conf.perform (.write key (front ++ toString n ++ back) isFinal)
        stored.1 = .written ∧ stored.2.getUnsigned key = .ok (some n.toNat)) ∧
      ∀ i : Int64,
        let stored := conf.perform (.write key (front ++ toString i ++ back) isFinal)
        stored.1 = .written ∧ stored.2.getInteger key = .ok (some i.toInt) := by
  constructor
  · intro conf key raw present text
    have hunsigned := reads_getUnsigned present
    have hsigned := reads_getInteger present
    refine ⟨Text.trims_trim raw.toList, hunsigned, hsigned, fun n i hn hi => ?_⟩
    obtain ⟨hn, -⟩ := (hunsigned.found n).1 hn
    obtain ⟨hi, -⟩ := (hsigned.found i).1 hi
    exact hi.eq_of_unsigned hn
  · intro conf key front back isFinal hopen hfront hback
    constructor
    · intro n
      -- the decimal text of a natural number is that of the integer
      have solid : ∀ c ∈ (toString (n.toNat : Int)).toList, Text.isBlank c = false :=
        Text.isBlank_of_mem_toString
      exact read_perform_write hopen hfront hback isFinal solid
        (Text.unsigned64?_toString n.toNat_lt)
    · intro i
      exact read_perform_write hopen hfront hback isFinal Text.isBlank_of_mem_toString
        (Text.signed64?_toString i.minValue_le_toInt i.toInt_le)

/-- The largest unsigned number, with zeros and a plus in front, is no signed one; the smallest signed
    number is read where blanks of other scripts stand around it. -/
theorem integers_read_exactly_extreme :
    let raw := "\t+0018446744073709551615\u3000"
    let conf : Configuration := .ofList [("bound", raw)]
    let stored := conf.perform (.write "bound" ("\u2003" ++ toString Int64.minValue ++ "\u0085") true)
    conf.get? "bound" = some raw ∧ conf.getUnsigned "bound" = .ok (some 18446744073709551615) ∧
      conf.getInteger "bound" = .error (.invalidValue "bound" raw .integer) ∧
      conf.isFinal "bound" = false ∧ Text.allBlank "\u2003" = true ∧ Text.allBlank "\u0085" = true ∧
      stored.1 = .written ∧ stored.2.getInteger "bound" = .ok (some (-9223372036854775808)) := by
  intro raw conf stored
  obtain ⟨hreads, hstores⟩ := integers_read_exactly
  have present : conf.get? "bound" = some raw := by decide +kernel
  obtain ⟨-, hunsigned, hsigned, -⟩ := hreads conf "bound" raw present
  have htext : Text.trim raw.toList = '+' :: "0018446744073709551615".toList := by decide +kernel
  have hnumeral : Text.Unsigned (Text.trim raw.toList) 18446744073709551615 := by
    rw [htext]
    exact .plus (Text.natural?_eq_some_iff.1 (by decide +kernel))
  have hopen : conf.isFinal "bound" = false := by decide +kernel
  have hfront : Text.allBlank "\u2003" = true := by decide +kernel
  have hback : Text.allBlank "\u0085" = true := by decide +kernel
  obtain ⟨-, hinteger⟩ := hstores conf "bound" "\u2003" "\u0085" true hopen hfront hback
  obtain ⟨hwritten, hstored⟩ := hinteger Int64.minValue
  refine ⟨present, (hunsigned.found _).2 ⟨hnumeral, by decide⟩, hsigned.refused ?_, hopen, hfront, hback,
    hwritten, hstored⟩
  rintro i ⟨hi, -, hmax⟩
  rw [hi.eq_of_unsigned hnumeral] at hmax
  exact absurd hmax (by decide)

end Configuration

end PluginFabric
