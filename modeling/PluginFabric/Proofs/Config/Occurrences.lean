import Mathlib.Data.List.Infix
import PluginFabric.Proofs.Config.References

/-! Which references of a text are replaced, told position by position.

    A reference occurs wherever `$` and a name between braces stand, and it is escaped if another `$`
    stands right before it. What becomes of a character depends on the occurrences around it alone
    (`Becomes`): an occurrence that is not escaped gives way to its value, one that is escaped loses the
    `$` before it, and every other character stays. The reading from left to right, which decides at
    each `$` how much to take, lays its parts over the text in just this way (`laid_pieces`). -/

namespace PluginFabric.Reference

/-- A name: a capital letter or an underscore, then capital letters, digits and underscores. -/
def IsName (name : List Char) : Prop :=
  ∃ c rest, name = c :: rest ∧ isNameStart c = true ∧ ∀ d ∈ rest, isNameChar d = true

/-- A reference to `name` stands at position `i`. -/
def Occurs (cs : List Char) (i : Nat) (name : List Char) : Prop :=
  IsName name ∧ written name <+: cs.drop i

/-- A `$` stands right before position `i`. -/
def Escaped (cs : List Char) (i : Nat) : Prop := ∃ j, i = j + 1 ∧ cs[j]? = some '$'

/-- A reference that is not escaped stands at position `i`. -/
def Free (cs : List Char) (i : Nat) (name : List Char) : Prop := Occurs cs i name ∧ ¬ Escaped cs i

/-- Position `i` lies within a reference that is not escaped. -/
def Covered (cs : List Char) (i : Nat) : Prop :=
  ∃ start name, Free cs start name ∧ start ≤ i ∧ i < start + (written name).length

/-- The variable is set to a value that is not empty. -/
def Given (env : Variables) (name : List Char) (value : String) : Prop :=
  env (String.ofList name) = some value ∧ value ≠ ""

/-- What becomes of the character at position `i`. -/
inductive Becomes (env : Variables) (cs : List Char) (i : Nat) : List Char → Prop where
  /-- The first character of a reference becomes the value. -/
  | value {name : List Char} {value : String} (free : Free cs i name) (given : Given env name value) :
    Becomes env cs i value.toList
  /-- The others of a reference go. -/
  | inside {start : Nat} {name : List Char} (free : Free cs start name) (after : start < i)
    (before : i < start + (written name).length) : Becomes env cs i []
  /-- The `$` that escapes a reference goes. -/
  | escape {name : List Char} (dollar : cs[i]? = some '$') (occurs : Occurs cs (i + 1) name) :
    Becomes env cs i []
  /-- Everything else stays. -/
  | kept {c : Char} (char : cs[i]? = some c) (outside : ¬ Covered cs i)
    (plain : c = '$' → ∀ name, ¬ Occurs cs (i + 1) name) : Becomes env cs i [c]

/-- `out` is put together from what becomes of the characters of `cs`. -/
def Spells (env : Variables) (cs out : List Char) : Prop :=
  ∃ parts : List (List Char), parts.flatten = out ∧ parts.length = cs.length ∧
    ∀ i part, parts[i]? = some part → Becomes env cs i part

theorem value?_eq_some_iff {env : Variables} {name : List Char} {value : String} :
    env.value? (String.ofList name) = some value ↔ Given env name value := by
  rw [Variables.value?, Option.filter_eq_some_iff, Given, decide_eq_true_eq]

/-! ### One occurrence -/

theorem isNameChar_of_isNameStart {c : Char} (h : isNameStart c = true) : isNameChar c = true := by
  rw [isNameChar, h, Bool.true_or]

theorem IsName.all {name : List Char} (h : IsName name) : ∀ d ∈ name, isNameChar d = true := by
  obtain ⟨c, rest, rfl, hc, hrest⟩ := h
  intro d hd
  rcases List.mem_cons.1 hd with rfl | hd
  · exact isNameChar_of_isNameStart hc
  · exact hrest d hd

/-- A name is read up to the brace that closes it. -/
theorem name?_eq_some_iff {cs name rest : List Char} :
    name? cs = some (name, rest) ↔ IsName name ∧ cs = name ++ '\x7d' :: rest := by
  constructor
  · intro h
    have hsplit : cs.takeWhile isNameChar ++ cs.dropWhile isNameChar = cs :=
      List.takeWhile_append_dropWhile
    have hall : ∀ d ∈ cs.takeWhile isNameChar, isNameChar d = true :=
      List.all_eq_true.1 List.all_takeWhile
    unfold name? at h
    split at h
    · rename_i c tail r htake hdrop
      split at h
      · rename_i hc
        obtain ⟨rfl, rfl⟩ := Prod.mk.inj (Option.some.inj h)
        rw [htake, hdrop] at hsplit
        rw [htake] at hall
        exact ⟨⟨c, tail, rfl, hc, fun d hd => hall d (List.mem_cons_of_mem _ hd)⟩, hsplit.symm⟩
      · cases h
    · cases h
  · rintro ⟨hname, rfl⟩
    have htake : (name ++ '\x7d' :: rest).takeWhile isNameChar = name := by
      rw [List.takeWhile_append_of_pos hname.all, List.takeWhile_cons_of_neg (by decide),
        List.append_nil]
    have hdrop : (name ++ '\x7d' :: rest).dropWhile isNameChar = '\x7d' :: rest := by
      rw [List.dropWhile_append_of_pos hname.all, List.dropWhile_cons_of_neg (by decide)]
    obtain ⟨c, tail, rfl, hc, -⟩ := hname
    unfold name?
    rw [htake, hdrop]
    exact if_pos hc

/-- A reference is read off the front of a text just where one occurs. -/
theorem occurrence?_eq_some_iff {cs name rest : List Char} :
    occurrence? cs = some (name, rest) ↔ IsName name ∧ cs = written name ++ rest := by
  unfold occurrence?
  split
  · rename_i tail
    rw [name?_eq_some_iff]
    simp [written]
  · rename_i hno
    refine ⟨fun h => (by cases h), fun ⟨_, hcs⟩ => absurd hcs ?_⟩
    intro hcs
    exact hno (name ++ '\x7d' :: rest) (by rw [hcs]; simp [written])

theorem occurs_iff {cs name : List Char} {i : Nat} :
    Occurs cs i name ↔ ∃ rest, occurrence? (cs.drop i) = some (name, rest) := by
  constructor
  · rintro ⟨hname, rest, hrest⟩
    exact ⟨rest, occurrence?_eq_some_iff.2 ⟨hname, hrest.symm⟩⟩
  · rintro ⟨rest, h⟩
    obtain ⟨hname, hcs⟩ := occurrence?_eq_some_iff.1 h
    exact ⟨hname, rest, hcs.symm⟩

theorem occurrence?_eq_none_iff {cs : List Char} {i : Nat} :
    occurrence? (cs.drop i) = none ↔ ∀ name, ¬ Occurs cs i name := by
  simp only [occurs_iff, Option.eq_none_iff_forall_ne_some, Prod.forall, not_exists, ne_eq]

section Occurs

variable {cs name other : List Char} {i j : Nat}

theorem Occurs.eq (h : Occurs cs i name) (h' : Occurs cs i other) : name = other := by
  obtain ⟨rest, hrest⟩ := occurs_iff.1 h
  obtain ⟨rest', hrest'⟩ := occurs_iff.1 h'
  rw [hrest] at hrest'
  exact (Prod.mk.inj (Option.some.inj hrest')).1

theorem length_written (name : List Char) : (written name).length = name.length + 3 := by
  simp [written]

/-- Within an occurrence stand the characters of the reference. -/
theorem Occurs.getElem? (h : Occurs cs i name) (hj : j < (written name).length) :
    cs[i + j]? = (written name)[j]? := by
  obtain ⟨-, rest, hrest⟩ := h
  rw [← List.getElem?_drop, ← hrest, List.getElem?_append_left hj]

theorem Occurs.dollar (h : Occurs cs i name) : cs[i]? = some '$' :=
  h.getElem? (j := 0) (by simp [written])

theorem Occurs.brace (h : Occurs cs i name) : cs[i + 1]? = some '\x7b' :=
  h.getElem? (j := 1) (by simp [written])

/-- No other `$` stands within a reference. -/
theorem ne_dollar_of_isName (hname : IsName name) : (written name)[j + 1]? ≠ some '$' := by
  intro hd
  have hmem : '$' ∈ '\x7b' :: name ++ ['\x7d'] := List.mem_of_getElem? hd
  have hname' : '$' ∈ name := by simpa using hmem
  exact absurd (hname.all _ hname') (by decide)

theorem Occurs.ne_dollar (h : Occurs cs i name) (hij : i < j) (hj : j < i + (written name).length) :
    cs[j]? ≠ some '$' := by
  obtain ⟨k, rfl⟩ := Nat.exists_eq_add_of_lt hij
  rw [Nat.add_assoc, h.getElem? (by omega)]
  exact ne_dollar_of_isName h.1

/-- No two references overlap. -/
theorem Occurs.not_occurs_inside (h : Occurs cs i name) (hij : i < j)
    (hj : j < i + (written name).length) : ¬ Occurs cs j other :=
  fun h' => h.ne_dollar hij hj h'.dollar

/-- What comes right after a reference is not escaped by it. -/
theorem Occurs.not_escaped_after (h : Occurs cs i name) :
    ¬ Escaped cs (i + (written name).length) := by
  rintro ⟨j, hj, hdollar⟩
  have hlen := length_written name
  exact h.ne_dollar (j := j) (by omega) (by omega) hdollar

/-- Before an escaped reference no reference begins. -/
theorem Occurs.not_occurs_before (h : Occurs cs (i + 1) name) : ¬ Occurs cs i other := by
  intro h'
  have hbrace := h'.brace
  rw [h.dollar] at hbrace
  exact absurd hbrace (by decide)

end Occurs

/-! ### Where the parts of a text lie -/

/-- How many characters of the text a part stands for. -/
def Piece.width : Piece → Nat
  | .char _ => 1
  | .reference name => (written name).length
  | .escaped name => (written name).length + 1

/-- What stands at position `i` if this part does. -/
def Piece.Sits (cs : List Char) (i : Nat) : Piece → Prop
  | .char c => cs[i]? = some c ∧ (∀ name, ¬ Occurs cs i name) ∧
      (c = '$' → ∀ name, ¬ Occurs cs (i + 1) name)
  | .reference name => Free cs i name
  | .escaped name => cs[i]? = some '$' ∧ Occurs cs (i + 1) name

/-- The parts lie over the text from position `i` to its end, one after the other. -/
def Laid (cs : List Char) : Nat → List Piece → Prop
  | i, [] => i = cs.length
  | i, p :: ps => p.Sits cs i ∧ Laid cs (i + p.width) ps

/-- No reference that begins before position `i` reaches beyond it. -/
def Clear (cs : List Char) (i : Nat) : Prop :=
  ∀ j name, j < i → Occurs cs j name → j + (written name).length ≤ i

section Laid

variable {cs name : List Char} {i k : Nat} {p : Piece}

theorem getElem?_and_drop {c : Char} {tail : List Char} (h : cs.drop i = c :: tail) :
    cs[i]? = some c ∧ cs.drop (i + 1) = tail := by
  constructor
  · have hhead : (cs.drop i)[0]? = cs[i + 0]? := List.getElem?_drop
    rw [h] at hhead
    exact hhead.symm
  · rw [← List.drop_drop, h]
    rfl

theorem Piece.width_pos (p : Piece) : 0 < p.width := by
  cases p <;> simp [Piece.width, written]

theorem pieces_escaped {tail rest : List Char} (h : occurrence? tail = some (name, rest)) :
    pieces ('$' :: tail) = .escaped name :: pieces rest := by
  rw [pieces, if_pos rfl]
  split
  · rename_i h'
    rw [h] at h'
    obtain ⟨rfl, rfl⟩ := Prod.mk.inj (Option.some.inj h')
    rfl
  · rename_i h'
    rw [h] at h'
    cases h'

theorem pieces_reference {tail rest : List Char} (hno : occurrence? tail = none)
    (h : occurrence? ('$' :: tail) = some (name, rest)) :
    pieces ('$' :: tail) = .reference name :: pieces rest := by
  rw [pieces, if_pos rfl]
  split
  · rename_i h'
    rw [hno] at h'
    cases h'
  · split
    · rename_i h'
      rw [h] at h'
      obtain ⟨rfl, rfl⟩ := Prod.mk.inj (Option.some.inj h')
      rfl
    · rename_i h'
      rw [h] at h'
      cases h'

theorem pieces_char {c : Char} {tail : List Char} (hno : c = '$' → occurrence? tail = none)
    (hno' : occurrence? (c :: tail) = none) : pieces (c :: tail) = .char c :: pieces tail := by
  rw [pieces]
  split
  · rename_i hc
    split
    · rename_i h'
      rw [hno hc] at h'
      cases h'
    · split
      · rename_i h'
        rw [hno'] at h'
        cases h'
      · rfl
  · rfl

/-- After a reference the reading stands behind it, and on no escaped reference. -/
theorem Occurs.drop_eq {rest : List Char} (h : occurrence? (cs.drop i) = some (name, rest)) :
    Occurs cs i name ∧ cs.drop (i + (written name).length) = rest ∧
      i + (written name).length ≤ cs.length := by
  obtain ⟨hname, hcs⟩ := occurrence?_eq_some_iff.1 h
  refine ⟨⟨hname, rest, hcs.symm⟩, ?_, ?_⟩
  · rw [← List.drop_drop, hcs, List.drop_left]
  · have hlen := congrArg List.length hcs
    rw [List.length_drop, List.length_append, length_written] at hlen
    rw [length_written]
    omega

/-- The reading from left to right, from where it stands on no escaped reference. -/
theorem laid_pieces_drop (h : ∀ name, Occurs cs i name → ¬ Escaped cs i) (hi : i ≤ cs.length) :
    Laid cs i (pieces (cs.drop i)) := by
  generalize hrest : cs.drop i = rest
  induction rest using pieces.induct generalizing i with
  | case1 =>
    rw [pieces]
    exact Nat.le_antisymm hi (List.drop_eq_nil_iff.1 hrest)
  | case2 tail name rest ho ih =>
    obtain ⟨hd, htail⟩ := getElem?_and_drop hrest
    rw [← htail] at ho
    obtain ⟨hocc, hdrop, hle⟩ := Occurs.drop_eq ho
    rw [htail] at ho
    rw [pieces_escaped ho]
    refine ⟨⟨hd, hocc⟩, ?_⟩
    rw [Piece.width, Nat.add_comm _ 1, ← Nat.add_assoc]
    exact ih (fun _ _ => hocc.not_escaped_after) hle hdrop
  | case3 tail hno name rest ho ih =>
    rw [pieces_reference hno ho]
    rw [← hrest] at ho
    obtain ⟨hocc, hdrop, hle⟩ := Occurs.drop_eq ho
    exact ⟨⟨hocc, h name hocc⟩, ih (fun _ _ => hocc.not_escaped_after) hle hdrop⟩
  | case4 tail hno hno' ih =>
    obtain ⟨hd, htail⟩ := getElem?_and_drop hrest
    rw [pieces_char (fun _ => hno) hno']
    rw [← hrest] at hno'
    rw [← htail] at hno
    have hnext := occurrence?_eq_none_iff.1 hno
    have hlt : i < cs.length := (List.getElem?_eq_some_iff.1 hd).1
    exact ⟨⟨hd, occurrence?_eq_none_iff.1 hno', fun _ => hnext⟩,
      ih (fun name hocc => absurd hocc (hnext name)) hlt htail⟩
  | case5 c tail hc ih =>
    obtain ⟨hd, htail⟩ := getElem?_and_drop hrest
    have hno : ∀ name, ¬ Occurs cs i name := by
      intro name hocc
      rw [hocc.dollar] at hd
      exact hc (Option.some.inj hd).symm
    have hno' : occurrence? (c :: tail) = none := by
      rw [← hrest]
      exact occurrence?_eq_none_iff.2 hno
    have hlt : i < cs.length := (List.getElem?_eq_some_iff.1 hd).1
    rw [pieces_char (fun hdollar => absurd hdollar hc) hno']
    refine ⟨⟨hd, hno, fun hdollar => absurd hdollar hc⟩, ih ?_ hlt htail⟩
    -- the character before the next position is not `$`
    rintro name - ⟨j, hj, hdollar⟩
    obtain rfl := Nat.succ.inj hj
    rw [hd] at hdollar
    exact hc (Option.some.inj hdollar)

/-- The parts of a text lie over it from its beginning to its end. -/
theorem laid_pieces (cs : List Char) : Laid cs 0 (pieces cs) := by
  refine laid_pieces_drop (i := 0) ?_ (Nat.zero_le _)
  rintro name - ⟨j, hj, -⟩
  cases hj

/-- Where a part lies, a reference begins with it or is the one that it escapes. -/
theorem Piece.Sits.occurs_cases (hp : p.Sits cs i) (hk : i ≤ k) (hk' : k < i + p.width)
    (h : Occurs cs k name) : (p = .reference name ∧ k = i) ∨ (p = .escaped name ∧ k = i + 1) := by
  cases p with
  | char c =>
    obtain rfl : k = i := by
      rw [Piece.width] at hk'
      omega
    exact absurd h (hp.2.1 name)
  | reference found =>
    rcases Nat.eq_or_lt_of_le hk with rfl | hlt
    · rw [hp.1.eq h]
      exact .inl ⟨rfl, rfl⟩
    · exact absurd h (hp.1.not_occurs_inside hlt hk')
  | escaped found =>
    obtain ⟨-, hfound⟩ := hp
    rw [Piece.width] at hk'
    rcases Nat.eq_or_lt_of_le hk with rfl | hlt
    · exact absurd h hfound.not_occurs_before
    rcases Nat.eq_or_lt_of_le hlt with rfl | hlt'
    · rw [hfound.eq h]
      exact .inr ⟨rfl, rfl⟩
    · exact absurd h (hfound.not_occurs_inside hlt' (by omega))

/-- Behind a part no reference reaches that begins before its end. -/
theorem Piece.Sits.clear (hp : p.Sits cs i) (h : Clear cs i) : Clear cs (i + p.width) := by
  intro j name hj hocc
  rcases Nat.lt_or_ge j i with hlt | hge
  · exact Nat.le_trans (h j name hlt hocc) (Nat.le_add_right _ _)
  · rcases hp.occurs_cases hge hj hocc with ⟨rfl, rfl⟩ | ⟨rfl, rfl⟩
    · exact Nat.le_refl _
    · rw [Piece.width]
      omega

/-- A reference that is not escaped is a part of its own. -/
theorem Piece.Sits.free_iff (hp : p.Sits cs i) (hk : i ≤ k) (hk' : k < i + p.width) :
    Free cs k name ↔ p = .reference name ∧ k = i := by
  constructor
  · intro hfree
    rcases hp.occurs_cases hk hk' hfree.1 with hreference | ⟨rfl, rfl⟩
    · exact hreference
    · exact absurd ⟨i, rfl, hp.1⟩ hfree.2
  · rintro ⟨rfl, rfl⟩
    exact hp

/-- A part that is no reference lies outside of all that are not escaped. -/
theorem Piece.Sits.not_covered (hp : p.Sits cs i) (hclear : Clear cs i)
    (hno : ∀ name, p ≠ .reference name) (hk : i ≤ k) (hk' : k < i + p.width) : ¬ Covered cs k := by
  rintro ⟨start, name, hfree, hstart, hend⟩
  rcases Nat.lt_or_ge start i with hlt | hge
  · have := hclear start name hlt hfree.1
    omega
  · exact hno name ((hp.free_iff hge (by omega)).1 hfree).1

end Laid

/-! ### What becomes of a text -/

section Becomes

variable {env : Variables} {cs out out' name : List Char} {i : Nat} {p : Piece} {ps : List Piece}

/-- What a part is replaced by, each of its characters told apart. -/
theorem Piece.Sits.becomes (hp : p.Sits cs i) (hclear : Clear cs i)
    (h : p.substitute env = .ok out) :
    ∃ parts : List (List Char), parts.flatten = out ∧ parts.length = p.width ∧
      ∀ j part, parts[j]? = some part → Becomes env cs (i + j) part := by
  have houtside := fun k => hp.not_covered (k := k) hclear
  cases p with
  | char c =>
    cases h
    refine ⟨[[c]], rfl, rfl, fun j part hj => ?_⟩
    cases j with
    | zero =>
      cases hj
      exact .kept hp.1 (houtside i (fun _ => Piece.noConfusion) (Nat.le_refl _) (Nat.lt_succ_self _))
        hp.2.2
    | succ j => cases hj
  | reference name =>
    rw [Piece.substitute] at h
    split at h
    · rename_i value hvalue
      cases h
      refine ⟨value.toList :: List.replicate (name.length + 2) [], by simp, ?_, fun j part hj => ?_⟩
      · rw [List.length_cons, List.length_replicate, Piece.width, length_written]
      cases j with
      | zero =>
        cases hj
        exact .value hp (value?_eq_some_iff.1 hvalue)
      | succ j =>
        obtain ⟨hlt, rfl⟩ : j < name.length + 2 ∧ [] = part := by simpa [List.getElem?_replicate] using hj
        refine .inside hp (by omega) ?_
        rw [length_written]
        omega
    · cases h
  | escaped name =>
    cases h
    obtain ⟨hd, hocc⟩ := hp
    refine ⟨[] :: (written name).map ([·]), ?_, by simp [Piece.width], fun j part hj => ?_⟩
    · rw [List.flatten_cons, List.nil_append, ← List.flatMap_def, List.flatMap_singleton']
    cases j with
    | zero =>
      cases hj
      exact .escape hd hocc
    | succ j =>
      obtain ⟨c, hc, rfl⟩ : ∃ c, (written name)[j]? = some c ∧ [c] = part := by simpa using hj
      have hlt : j < (written name).length := (List.getElem?_eq_some_iff.1 hc).1
      have hat : cs[i + (j + 1)]? = some c := by
        rw [← hc, ← hocc.getElem? hlt]
        congr 1
        omega
      refine .kept hat (houtside _ (fun _ => Piece.noConfusion) (by omega) ?_) ?_
      · rw [Piece.width]
        omega
      · -- a `$` within the reference is its first character, and no other reference begins behind it
        rintro rfl other hother
        have hfirst : ¬ i + 1 < i + (j + 1) := fun hj => hocc.ne_dollar hj (by omega) hat
        have hlen := length_written name
        exact hocc.not_occurs_inside (by omega) (by omega) hother

/-- What parts are replaced by, each character of the text told apart. -/
theorem Laid.becomes (hlaid : Laid cs i ps) (hclear : Clear cs i)
    (h : substitutePieces env ps = .ok out) :
    ∃ parts : List (List Char), parts.flatten = out ∧ i + parts.length = cs.length ∧
      ∀ j part, parts[j]? = some part → Becomes env cs (i + j) part := by
  induction ps generalizing i out with
  | nil =>
    cases h
    exact ⟨[], rfl, hlaid, fun j part hj => (by cases hj)⟩
  | cons p ps ih =>
    obtain ⟨hp, hrest⟩ := hlaid
    rw [substitutePieces_cons] at h
    cases hfront : p.substitute env with
    | error => rw [hfront] at h; cases h
    | ok front =>
      cases hback : substitutePieces env ps with
      | error => rw [hfront, hback] at h; cases h
      | ok back =>
        rw [hfront, hback] at h
        cases h
        obtain ⟨parts, rfl, hlen, hparts⟩ := hp.becomes hclear hfront
        obtain ⟨parts', rfl, hlen', hparts'⟩ := ih hrest (hp.clear hclear) hback
        refine ⟨parts ++ parts', List.flatten_append, ?_, fun j part hj => ?_⟩
        · rw [List.length_append, hlen]
          omega
        · rcases Nat.lt_or_ge j parts.length with hlt | hge
          · rw [List.getElem?_append_left hlt] at hj
            exact hparts j part hj
          · rw [List.getElem?_append_right hge] at hj
            have hbecomes := hparts' _ part hj
            rwa [← hlen, Nat.add_assoc, Nat.add_sub_cancel' hge] at hbecomes

/-- Where a reference begins that is not escaped, its value is put in. -/
theorem Becomes.given {part : List Char} (h : Becomes env cs i part) (hfree : Free cs i name) :
    ∃ value, Given env name value ∧ part = value.toList := by
  cases h with
  | value hfree' hgiven =>
    rw [hfree.1.eq hfree'.1]
    exact ⟨_, hgiven, rfl⟩
  | inside hfree' hafter hbefore => exact absurd hfree.1 (hfree'.1.not_occurs_inside hafter hbefore)
  | escape _ hocc => exact absurd hfree.1 hocc.not_occurs_before
  | kept _ houtside _ =>
    refine absurd ⟨i, name, hfree, Nat.le_refl _, ?_⟩ houtside
    rw [length_written]
    omega

theorem Becomes.eq_value {part : List Char} {value : String} (h : Becomes env cs i part)
    (hfree : Free cs i name) (hgiven : Given env name value) : part = value.toList := by
  obtain ⟨value', hgiven', rfl⟩ := h.given hfree
  rw [Option.some.inj (hgiven.1.symm.trans hgiven'.1)]

/-- A character becomes one thing only. -/
theorem Becomes.eq {part part' : List Char} (h : Becomes env cs i part)
    (h' : Becomes env cs i part') : part = part' := by
  cases h with
  | value hfree hgiven => exact (h'.eq_value hfree hgiven).symm
  | inside hfree hafter hbefore =>
    cases h' with
    | value hfree' hgiven' => exact eq_value (.inside hfree hafter hbefore) hfree' hgiven'
    | inside => rfl
    | escape => rfl
    | kept _ houtside => exact absurd ⟨_, _, hfree, Nat.le_of_lt hafter, hbefore⟩ houtside
  | escape hd hocc =>
    cases h' with
    | value hfree' hgiven' => exact eq_value (.escape hd hocc) hfree' hgiven'
    | inside => rfl
    | escape => rfl
    | kept hc _ hplain => exact absurd hocc (hplain (Option.some.inj (hc.symm.trans hd)) _)
  | kept hc houtside hplain =>
    cases h' with
    | value hfree' hgiven' => exact eq_value (.kept hc houtside hplain) hfree' hgiven'
    | inside hfree hafter hbefore =>
      exact absurd ⟨_, _, hfree, Nat.le_of_lt hafter, hbefore⟩ houtside
    | escape hd hocc => exact absurd hocc (hplain (Option.some.inj (hc.symm.trans hd)) _)
    | kept hc' => rw [Option.some.inj (hc.symm.trans hc')]

/-- A text is put together in one way only. -/
theorem Spells.eq (h : Spells env cs out) (h' : Spells env cs out') : out = out' := by
  obtain ⟨parts, rfl, hlen, hparts⟩ := h
  obtain ⟨parts', rfl, hlen', hparts'⟩ := h'
  congr 1
  refine List.ext_getElem (hlen.trans hlen'.symm) fun i hi hi' => ?_
  exact (hparts i _ (List.getElem?_eq_getElem hi)).eq (hparts' i _ (List.getElem?_eq_getElem hi'))

/-- Only a text whose references are all given is put together. -/
theorem Spells.given (h : Spells env cs out) (hfree : Free cs i name) :
    ∃ value, Given env name value := by
  obtain ⟨parts, -, hlen, hparts⟩ := h
  have hi : i < parts.length := hlen ▸ (List.getElem?_eq_some_iff.1 hfree.1.dollar).1
  obtain ⟨value, hgiven, -⟩ := (hparts i _ (List.getElem?_eq_getElem hi)).given hfree
  exact ⟨value, hgiven⟩

end Becomes

/-! ### The references in their order -/

section Spots

variable {env : Variables} {cs name : List Char} {i k : Nat} {ps : List Piece}

/-- The references among parts that lie from position `i` on, each with where it begins. -/
def spots : Nat → List Piece → List (Nat × List Char)
  | _, [] => []
  | i, .reference name :: ps => (i, name) :: spots (i + (written name).length) ps
  | i, p :: ps => spots (i + p.width) ps

theorem names_spots (i : Nat) (ps : List Piece) :
    (spots i ps).map (fun spot => String.ofList spot.2) = ps.filterMap Piece.reference? := by
  induction ps generalizing i with
  | nil => rfl
  | cons p ps ih =>
    cases p with
    | char c => exact ih _
    | reference name => exact congrArg (String.ofList name :: ·) (ih _)
    | escaped name => exact ih _

/-- The references that are not escaped are the spots. -/
theorem mem_spots (hlaid : Laid cs i ps) : (k, name) ∈ spots i ps ↔ i ≤ k ∧ Free cs k name := by
  induction ps generalizing i with
  | nil =>
    constructor
    · intro h
      cases h
    · rintro ⟨hk, hfree⟩
      have hlt := (List.getElem?_eq_some_iff.1 hfree.1.dollar).1
      rw [← (show i = cs.length from hlaid)] at hlt
      exact absurd hk (Nat.not_le_of_lt hlt)
  | cons p ps ih =>
    obtain ⟨hp, hrest⟩ := hlaid
    have hcons : (k, name) ∈ spots i (p :: ps) ↔
        (p = .reference name ∧ k = i) ∨ (k, name) ∈ spots (i + p.width) ps := by
      cases p <;> simp [spots, Piece.width, and_comm, eq_comm]
    rw [hcons, ih hrest]
    rcases Nat.lt_or_ge k (i + p.width) with hlt | hge
    · constructor
      · rintro (⟨rfl, rfl⟩ | ⟨hk, -⟩)
        · exact ⟨Nat.le_refl _, hp⟩
        · omega
      · rintro ⟨hk, hfree⟩
        exact .inl ((hp.free_iff hk hlt).1 hfree)
    · have := p.width_pos
      constructor
      · rintro (⟨rfl, rfl⟩ | ⟨hk, hfree⟩)
        · exact ⟨Nat.le_refl _, hp⟩
        · exact ⟨by omega, hfree⟩
      · rintro ⟨-, hfree⟩
        exact .inr ⟨hge, hfree⟩

theorem pairwise_spots (hlaid : Laid cs i ps) : (spots i ps).Pairwise fun a b => a.1 < b.1 := by
  induction ps generalizing i with
  | nil => exact .nil
  | cons p ps ih =>
    obtain ⟨hp, hrest⟩ := hlaid
    cases p with
    | char c => exact ih hrest
    | reference name =>
      refine List.pairwise_cons.2 ⟨?_, ih hrest⟩
      rintro ⟨k, other⟩ hk
      have hbehind := ((mem_spots hrest).1 hk).1
      have hpos := (Piece.reference name).width_pos
      dsimp only
      omega
    | escaped name => exact ih hrest

/-- What is found first among things in ascending position is the leftmost. -/
theorem find?_of_ascending {β : Type} {l : List (Nat × β)} (h : l.Pairwise fun a b => a.1 < b.1)
    {q : Nat × β → Bool} {b : Nat × β} :
    l.find? q = some b ↔ b ∈ l ∧ q b = true ∧ ∀ a ∈ l, a.1 < b.1 → q a = false := by
  rw [List.find?_eq_some_iff_append]
  constructor
  · rintro ⟨hq, front, back, rfl, hno⟩
    refine ⟨List.mem_append_right _ List.mem_cons_self, hq, fun a ha hlt => ?_⟩
    rcases List.mem_append.1 ha with ha | ha
    · simpa using hno a ha
    · rcases List.mem_cons.1 ha with rfl | ha
      · exact absurd hlt (Nat.lt_irrefl _)
      · have hgt := (List.pairwise_cons.1 (List.pairwise_append.1 h).2.1).1 a ha
        omega
  · rintro ⟨hb, hq, hleft⟩
    obtain ⟨front, back, rfl⟩ := List.append_of_mem hb
    refine ⟨hq, front, back, rfl, fun a ha => ?_⟩
    have hlt := (List.pairwise_append.1 h).2.2 a ha b List.mem_cons_self
    simp [hleft a (List.mem_append_left _ ha) hlt]

theorem isNone_value?_eq_false_iff :
    (env.value? (String.ofList name)).isNone = false ↔ ∃ value, Given env name value := by
  rw [Option.isNone_eq_false_iff, Option.isSome_iff_exists]
  exact exists_congr fun value => value?_eq_some_iff

theorem isNone_value?_iff :
    (env.value? (String.ofList name)).isNone = true ↔ ¬ ∃ value, Given env name value := by
  rw [← isNone_value?_eq_false_iff, Bool.not_eq_false]

/-- A text that asks for a variable that is missing asks for it where the leftmost such reference
    stands. -/
theorem missing?_eq_some_iff {s missing : String} : missing? env s = some missing ↔
    ∃ i name, Free s.toList i name ∧ missing = String.ofList name ∧
      (¬ ∃ value, Given env name value) ∧
      ∀ j earlier, j < i → Free s.toList j earlier → ∃ value, Given env earlier value := by
  have hlaid := laid_pieces s.toList
  rw [missing?, references, ← names_spots 0, List.find?_map, Option.map_eq_some_iff]
  constructor
  · rintro ⟨⟨i, name⟩, hfind, rfl⟩
    obtain ⟨hmem, hnone, hleft⟩ := (find?_of_ascending (pairwise_spots hlaid)).1 hfind
    refine ⟨i, name, ((mem_spots hlaid).1 hmem).2, rfl, isNone_value?_iff.1 hnone, ?_⟩
    intro j earlier hj hfree
    exact isNone_value?_eq_false_iff.1 (hleft (j, earlier) ((mem_spots hlaid).2 ⟨Nat.zero_le _, hfree⟩) hj)
  · rintro ⟨i, name, hfree, rfl, hno, hleft⟩
    refine ⟨(i, name), (find?_of_ascending (pairwise_spots hlaid)).2
      ⟨(mem_spots hlaid).2 ⟨Nat.zero_le _, hfree⟩, isNone_value?_iff.2 hno, ?_⟩, rfl⟩
    rintro ⟨j, earlier⟩ hmem hj
    exact isNone_value?_eq_false_iff.2 (hleft j earlier hj ((mem_spots hlaid).1 hmem).2)

end Spots

/-! ### Texts -/

theorem mayRefer_iff {cs : List Char} : mayRefer cs = true ↔ ['$', '\x7b'] <:+: cs := by
  induction cs with
  | nil => simp [mayRefer]
  | cons c cs ih =>
    rw [List.infix_cons_iff, ← ih]
    conv => lhs; unfold mayRefer
    split
    · rename_i heq
      rw [heq]
      exact iff_of_true rfl (.inl ⟨_, rfl⟩)
    · rename_i hno heq
      obtain ⟨rfl, rfl⟩ := List.cons.inj heq
      refine ⟨.inr, fun h => h.resolve_left ?_⟩
      rintro ⟨rest, hrest⟩
      obtain ⟨hc, hcs⟩ := List.cons.inj hrest
      exact hno rest hc.symm hcs.symm
    · rename_i heq
      cases heq

section Texts

variable {env : Variables} {s t missing : String}

/-- A text that is replaced is put together from what becomes of its characters. -/
theorem spells_of_ok (h : substituteText env s = .ok t) : Spells env s.toList t.toList := by
  rw [substituteText_eq] at h
  cases hout : substitutePieces env (pieces s.toList) with
  | error => rw [hout] at h; cases h
  | ok out =>
    rw [hout] at h
    cases h
    have hclear : Clear s.toList 0 := fun j name hj => absurd hj (Nat.not_lt_zero j)
    obtain ⟨parts, rfl, hlen, hparts⟩ := (laid_pieces s.toList).becomes hclear hout
    rw [Nat.zero_add] at hlen
    refine ⟨parts, String.toList_ofList.symm, hlen, fun i part hi => ?_⟩
    rw [← Nat.zero_add i]
    exact hparts i part hi

theorem substituteText_error_iff_leftmost : substituteText env s = .error missing ↔
    ∃ i name, Free s.toList i name ∧ missing = String.ofList name ∧
      (¬ ∃ value, Given env name value) ∧
      ∀ j earlier, j < i → Free s.toList j earlier → ∃ value, Given env earlier value :=
  substituteText_error_iff.trans missing?_eq_some_iff

theorem exists_ok_iff : (∃ t, substituteText env s = .ok t) ↔
    ∀ i name, Free s.toList i name → ∃ value, Given env name value := by
  constructor
  · rintro ⟨t, ht⟩ i name hfree
    exact (spells_of_ok ht).given hfree
  · intro hall
    cases hdone : substituteText env s with
    | ok t => exact ⟨t, rfl⟩
    | error missing =>
      obtain ⟨i, name, hfree, -, hno, -⟩ := substituteText_error_iff_leftmost.1 hdone
      exact absurd (hall i name hfree) hno

theorem substituteText_ok_iff : substituteText env s = .ok t ↔ Spells env s.toList t.toList := by
  refine ⟨spells_of_ok, fun h => ?_⟩
  obtain ⟨t', ht'⟩ := exists_ok_iff.2 fun i name hfree => h.given hfree
  rw [ht', String.toList_inj.1 ((spells_of_ok ht').eq h)]

end Texts

/-- A text is replaced position by position: it is put together from what becomes of each of its
    characters. This succeeds if all references that are not escaped have values, and otherwise it is
    the leftmost without one that is reported. A text that nowhere begins a reference, which is not
    read at all, stays as it is. -/
theorem substituteText_positionwise (env : Variables) (s : String) :
    (∀ t, substituteText env s = .ok t ↔ Spells env s.toList t.toList) ∧
    ((∃ t, substituteText env s = .ok t) ↔
      ∀ i name, Free s.toList i name → ∃ value, Given env name value) ∧
    (∀ missing, substituteText env s = .error missing ↔
      ∃ i name, Free s.toList i name ∧ missing = String.ofList name ∧
        (¬ ∃ value, Given env name value) ∧
        ∀ j earlier, j < i → Free s.toList j earlier → ∃ value, Given env earlier value) ∧
    (¬ ['$', '\x7b'] <:+: s.toList →
      substituteText env s = .ok s ∧ Spells env s.toList s.toList) := by
  refine ⟨fun t => substituteText_ok_iff, exists_ok_iff, fun missing =>
    substituteText_error_iff_leftmost, fun hno => ?_⟩
  have hsame : substituteText env s = .ok s := by
    rw [substituteText, if_neg (mt mayRefer_iff.1 hno)]
  exact ⟨hsame, spells_of_ok hsame⟩

/-- A value that makes a reference with the text after it is not read again, and of three `$` before a
    reference the last one escapes it. -/
theorem substituteText_positionwise_joined :
    let env : Variables := fun name => if name = "A" then some "$" else none
    let s := "$\x7bA\x7d\x7bB\x7d$$$\x7bC\x7d"
    let t := "$\x7bB\x7d$$\x7bC\x7d"
    substituteText env s = .ok t ∧ Spells env s.toList t.toList ∧
      ∀ i name, Free s.toList i name → ∃ value, Given env name value := by
  intro env s t
  have h : substituteText env s = .ok t := by decide +kernel
  obtain ⟨hok, hall, -⟩ := substituteText_positionwise env s
  exact ⟨h, (hok t).1 h, hall.1 ⟨t, h⟩⟩

end PluginFabric.Reference
