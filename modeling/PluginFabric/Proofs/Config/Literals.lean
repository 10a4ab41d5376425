import PluginFabric.Proofs.Config.Occurrences
import PluginFabric.Proofs.Config.Substitution

/-! Every text can be written so that substitution gives it back.

    One more `$` right before each reference, whatever stands before it, makes the reference literal:
    substitution drops this `$` and leaves the reference. The `$` that stood there before are read on
    their own, since in a text that is written so no reference begins that is not behind such a `$`
    (`occurrence?_escape`). -/

namespace PluginFabric.Reference

/-- The text with one more `$` right before every reference in it. -/
def escape : List Char → List Char
  | [] => []
  | c :: tail =>
    if (occurrence? (c :: tail)).isSome then '$' :: c :: escape tail else c :: escape tail

def escapeText (s : String) : String := String.ofList (escape s.toList)

/-- What the character at position `i` is written as. -/
inductive WrittenAs (cs : List Char) (i : Nat) : List Char → Prop where
  /-- Where a reference begins, with one more `$` before it. -/
  | reference {c : Char} {name : List Char} (char : cs[i]? = some c) (occurs : Occurs cs i name) :
    WrittenAs cs i ['$', c]
  /-- Everywhere else, as it is. -/
  | plain {c : Char} (char : cs[i]? = some c) (apart : ∀ name, ¬ Occurs cs i name) :
    WrittenAs cs i [c]

/-- `out` is put together from what the characters of `cs` are written as. -/
def Escapes (cs out : List Char) : Prop :=
  ∃ parts : List (List Char), parts.flatten = out ∧ parts.length = cs.length ∧
    ∀ i part, parts[i]? = some part → WrittenAs cs i part

/-! ### Texts that are escaped -/

section Escape

variable {c : Char} {tail name rest front : List Char}

theorem escape_of_occurrence? (h : occurrence? (c :: tail) = some (name, rest)) :
    escape (c :: tail) = '$' :: c :: escape tail := by
  rw [escape, h]
  exact if_pos rfl

theorem escape_of_none (h : occurrence? (c :: tail) = none) :
    escape (c :: tail) = c :: escape tail := by
  rw [escape, h]
  exact if_neg Bool.false_ne_true

theorem eq_dollar_of_occurrence? (h : occurrence? (c :: tail) = some (name, rest)) : c = '$' := by
  obtain ⟨-, hcs⟩ := occurrence?_eq_some_iff.1 h
  exact (List.cons.inj hcs).1

theorem occurrence?_of_ne_dollar (hc : c ≠ '$') : occurrence? (c :: tail) = none := by
  refine Option.eq_none_iff_forall_ne_some.2 ?_
  rintro ⟨name, rest⟩ h
  exact hc (eq_dollar_of_occurrence? h)

/-- A stretch without `$` is left alone. -/
theorem escape_append (h : '$' ∉ front) (rest : List Char) :
    escape (front ++ rest) = front ++ escape rest := by
  induction front with
  | nil => rfl
  | cons c front ih =>
    have hc : c ≠ '$' := fun hc => h (hc ▸ List.mem_cons_self)
    rw [List.cons_append, escape_of_none (occurrence?_of_ne_dollar hc),
      ih fun hmem => h (List.mem_cons_of_mem _ hmem), List.cons_append]

/-- What an escaped text begins with, up to the first `$`, the text itself begins with. -/
theorem prefix_of_prefix_escape {cs : List Char} (h : '$' ∉ front) (hfront : front <+: escape cs) :
    front <+: cs := by
  induction front generalizing cs with
  | nil => exact List.nil_prefix
  | cons d front ih =>
    have hd : d ≠ '$' := fun hd => h (hd ▸ List.mem_cons_self)
    cases cs with
    | nil => exact hfront
    | cons c tail =>
      cases hocc : occurrence? (c :: tail) with
      | some found =>
        rw [escape_of_occurrence? hocc, List.cons_prefix_cons] at hfront
        exact absurd hfront.1 hd
      | none =>
        rw [escape_of_none hocc, List.cons_prefix_cons] at hfront
        refine List.cons_prefix_cons.2 ⟨hfront.1, ih (fun hmem => ?_) hfront.2⟩
        exact h (List.mem_cons_of_mem _ hmem)

theorem dollar_notMem_of_isName (hname : IsName name) : '$' ∉ '\x7b' :: name ++ ['\x7d'] := by
  intro hmem
  obtain ⟨j, hj⟩ := List.mem_iff_getElem?.1 hmem
  exact ne_dollar_of_isName (j := j) hname hj

/-- No escaped text begins with a reference. -/
theorem occurrence?_escape (cs : List Char) : occurrence? (escape cs) = none := by
  refine Option.eq_none_iff_forall_ne_some.2 ?_
  rintro ⟨name, rest⟩ h
  obtain ⟨hname, hwritten⟩ := occurrence?_eq_some_iff.1 h
  cases cs with
  | nil => cases hwritten
  | cons c tail =>
    cases hocc : occurrence? (c :: tail) with
    | some found =>
      -- a `$` now stands in front of the reference, and behind that `$` no brace
      rw [escape_of_occurrence? hocc, eq_dollar_of_occurrence? hocc] at hwritten
      exact absurd (List.cons.inj (List.cons.inj hwritten).2).1 (by decide)
    | none =>
      -- a reference that stands here now stood here before
      rw [escape_of_none hocc] at hwritten
      obtain ⟨rfl, htail⟩ := List.cons.inj hwritten
      obtain ⟨rest', rfl⟩ : '\x7b' :: name ++ ['\x7d'] <+: tail :=
        prefix_of_prefix_escape (dollar_notMem_of_isName hname) ⟨rest, htail.symm⟩
      have hbefore : occurrence? (written name ++ rest') = some (name, rest') :=
        occurrence?_eq_some_iff.2 ⟨hname, rfl⟩
      exact Option.some_ne_none _ (hbefore.symm.trans hocc)

/-- A reference is escaped as a whole. -/
theorem escape_written (hname : IsName name) (rest : List Char) :
    escape (written name ++ rest) = '$' :: (written name ++ escape rest) := by
  have hocc : occurrence? (written name ++ rest) = some (name, rest) :=
    occurrence?_eq_some_iff.2 ⟨hname, rfl⟩
  calc escape (written name ++ rest)
      = '$' :: '$' :: escape ('\x7b' :: name ++ ['\x7d'] ++ rest) := escape_of_occurrence? hocc
    _ = '$' :: '$' :: ('\x7b' :: name ++ ['\x7d'] ++ escape rest) := by
      rw [escape_append (dollar_notMem_of_isName hname)]

end Escape

/-- The places where a text is escaped are those of its references. -/
theorem escapes_escape (cs : List Char) : Escapes cs (escape cs) := by
  induction cs with
  | nil => exact ⟨[], rfl, rfl, fun i part hi => (by cases hi)⟩
  | cons c tail ih =>
    obtain ⟨parts, hflatten, hlength, hparts⟩ := ih
    have hlater : ∀ i part, parts[i]? = some part → WrittenAs (c :: tail) (i + 1) part := by
      intro i part hi
      cases hparts i part hi with
      | reference char occurs => exact .reference char occurs
      | plain char apart => exact .plain char apart
    have with_first : ∀ first, WrittenAs (c :: tail) 0 first →
        Escapes (c :: tail) (first ++ escape tail) := by
      intro first hfirst
      refine ⟨first :: parts, by rw [List.flatten_cons, hflatten], by simp [hlength], ?_⟩
      intro i part hi
      cases i with
      | zero =>
        cases hi
        exact hfirst
      | succ i => exact hlater i part hi
    cases hocc : occurrence? (c :: tail) with
    | some found =>
      rw [escape_of_occurrence? hocc]
      exact with_first ['$', c] (.reference rfl (occurs_iff.2 ⟨found.2, hocc⟩))
    | none =>
      rw [escape_of_none hocc]
      exact with_first [c] (.plain rfl (occurrence?_eq_none_iff.1 hocc))

/-! ### Substitution of what is escaped -/

/-- Every escaped reference is read as such, and every other character for itself. -/
theorem substitutePieces_escape (env : Variables) :
    ∀ cs : List Char, substitutePieces env (pieces (escape cs)) = .ok cs
  | [] => by
    rw [escape, pieces]
    rfl
  | c :: tail => by
    cases hocc : occurrence? (c :: tail) with
    | some found =>
      obtain ⟨name, rest⟩ := found
      obtain ⟨hname, hcs⟩ := occurrence?_eq_some_iff.1 hocc
      have hread : occurrence? (written name ++ escape rest) = some (name, escape rest) :=
        occurrence?_eq_some_iff.2 ⟨hname, rfl⟩
      rw [hcs, escape_written hname, pieces_escaped hread, substitutePieces_cons,
        substitutePieces_escape env rest]
      rfl
    | none =>
      have hread := occurrence?_escape (c :: tail)
      rw [escape_of_none hocc] at hread ⊢
      rw [pieces_char (fun _ => occurrence?_escape tail) hread, substitutePieces_cons,
        substitutePieces_escape env tail]
      rfl
termination_by cs => cs.length
decreasing_by
  · exact Nat.lt_succ_self tail.length
  · exact length_lt_of_occurrence? hocc

theorem substituteText_escapeText (env : Variables) (s : String) :
    substituteText env (escapeText s) = .ok s := by
  rw [substituteText_eq, escapeText, String.toList_ofList, substitutePieces_escape]
  exact congrArg Except.ok String.ofList_toList

section Trees

variable {env : Variables} {f : String → String}

mutual

/-- A change of texts that substitution undoes is undone in a tree. -/
theorem substitute_mapTexts (undone : ∀ s, substituteText env (f s) = .ok s) (path : String) :
    ∀ v : Json, substitute env path (v.mapTexts f) = .ok v
  | .str s => by rw [Json.mapTexts, substitute, undone]
  | .arr xs => by
    rw [Json.mapTexts, substitute, substituteElements_mapTexts undone path 0 xs]
    rfl
  | .obj ms => by
    rw [Json.mapTexts, substitute, substituteMembers_mapTexts undone path ms]
    rfl
  | .null => rfl
  | .bool _ => rfl
  | .int _ => rfl
  | .float _ => rfl

theorem substituteElements_mapTexts (undone : ∀ s, substituteText env (f s) = .ok s)
    (path : String) : ∀ (i : Nat) (xs : List Json),
      substituteElements env path i (Json.mapTextsOfElements f xs) = .ok xs
  | _, [] => rfl
  | i, x :: xs => by
    rw [Json.mapTextsOfElements, substituteElements, substitute_mapTexts undone _ x,
      substituteElements_mapTexts undone path (i + 1) xs]
    rfl

theorem substituteMembers_mapTexts (undone : ∀ s, substituteText env (f s) = .ok s)
    (path : String) : ∀ ms : List (String × Json),
      substituteMembers env path (Json.mapTextsOfMembers f ms) = .ok ms
  | [] => rfl
  | (key, x) :: ms => by
    rw [Json.mapTextsOfMembers, substituteMembers, substitute_mapTexts undone _ x,
      substituteMembers_mapTexts undone path ms]
    rfl

end

end Trees

/-- Every text can be written so that substitution gives it back, in whatever environment, with one
    more `$` right before each of its references; and so can every tree, text by text. -/
theorem literals_restored (env : Variables) :
    (∀ s, Escapes s.toList (escapeText s).toList ∧ substituteText env (escapeText s) = .ok s) ∧
    ∀ v : Json, resolve env (v.mapTexts escapeText) = .ok v := by
  refine ⟨fun s => ⟨?_, substituteText_escapeText env s⟩, fun v => ?_⟩
  · rw [escapeText, String.toList_ofList]
    exact escapes_escape s.toList
  · exact substitute_mapTexts (substituteText_escapeText env) "" v

/-- What is escaped already, behind however many `$`, is escaped once more. -/
example : escapeText "$$\x7bA\x7d$$$\x7bB\x7d\x7bC\x7d" = "$$$\x7bA\x7d$$$$\x7bB\x7d\x7bC\x7d" := by
  decide +kernel

end PluginFabric.Reference
