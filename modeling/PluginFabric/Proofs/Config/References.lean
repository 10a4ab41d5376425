import PluginFabric.Config.Reference

/-! What a text asks of an environment.

    A text refers to the variables whose references in it are not escaped. Its substitution fails if
    one of them is missing, with the first that is, and depends on nothing else of the environment.
    The look ahead for something that may be a reference saves work and makes no difference
    (`substituteText_eq`). -/

namespace PluginFabric.Reference

/-- The variable that a part of a text is replaced by, if it is. -/
def Piece.reference? : Piece → Option String
  | .reference name => some (String.ofList name)
  | .char _ | .escaped _ => none

/-- The variables that a text refers to, in order. -/
def references (s : String) : List String := (pieces s.toList).filterMap Piece.reference?

/-- The first variable that a text refers to and that is missing. -/
def missing? (env : Variables) (s : String) : Option String :=
  (references s).find? fun name => (env.value? name).isNone

/-! ### Looking ahead -/

theorem mayRefer_of_occurrence? {cs name rest : List Char} (h : occurrence? cs = some (name, rest)) :
    mayRefer cs = true := by
  unfold occurrence? at h
  split at h
  · simp [mayRefer]
  · cases h

theorem mayRefer_cons {c : Char} {cs : List Char} (h : mayRefer cs = true) :
    mayRefer (c :: cs) = true := by
  unfold mayRefer
  split
  · rfl
  · rename_i heq
    rw [← (List.cons.inj heq).2]
    exact h
  · rename_i heq
    cases heq

/-- Where no reference can begin, every character stands for itself. -/
theorem pieces_of_not_mayRefer {cs : List Char} (h : mayRefer cs = false) :
    pieces cs = cs.map .char := by
  induction cs with
  | nil => rw [pieces, List.map_nil]
  | cons c cs ih =>
    have htail : mayRefer cs = false := by
      rw [← Bool.not_eq_true] at h ⊢
      exact fun ht => h (mayRefer_cons ht)
    rw [pieces, List.map_cons, ← ih htail]
    split
    · split
      · rename_i ho
        rw [mayRefer_of_occurrence? ho] at htail
        cases htail
      · split
        · rename_i ho
          rw [mayRefer_of_occurrence? ho] at h
          cases h
        · rfl
    · rfl

/-! ### Parts of a text -/

section Pieces

variable {env env' : Variables}

theorem substitutePieces_cons (p : Piece) (ps : List Piece) : substitutePieces env (p :: ps)
    = (p.substitute env).bind fun front => (substitutePieces env ps).map (front ++ ·) := rfl

theorem substitutePieces_chars (cs : List Char) : substitutePieces env (cs.map .char) = .ok cs := by
  induction cs with
  | nil => rfl
  | cons c cs ih =>
    rw [List.map_cons, substitutePieces_cons, ih]
    rfl

/-- A part that is replaced leaves it to the others to miss a variable. -/
theorem substitutePieces_cons_error {p : Piece} {front : List Char}
    (hp : p.substitute env = .ok front) {ps : List Piece} {name : String} :
    substitutePieces env (p :: ps) = .error name ↔ substitutePieces env ps = .error name := by
  rw [substitutePieces_cons, hp]
  cases substitutePieces env ps <;> simp [Except.bind, Except.map]

/-- A substitution fails with the first variable that is missing. -/
theorem substitutePieces_error_iff {ps : List Piece} {name : String} :
    substitutePieces env ps = .error name ↔
      (ps.filterMap Piece.reference?).find? (fun name => (env.value? name).isNone) = some name := by
  induction ps with
  | nil => simp [substitutePieces]
  | cons p ps ih =>
    cases p with
    | char c =>
      rw [substitutePieces_cons_error rfl, ih]
      rfl
    | escaped n =>
      rw [substitutePieces_cons_error rfl, ih]
      rfl
    | reference n =>
      have hvariable : Piece.reference? (.reference n) = some (String.ofList n) := rfl
      rw [List.filterMap_cons_some hvariable]
      cases hv : env.value? (String.ofList n) with
      | some value =>
        have hp : Piece.substitute env (.reference n) = .ok value.toList := by
          rw [Piece.substitute, hv]
        rw [substitutePieces_cons_error hp, ih, List.find?_cons_of_neg (by simp [hv])]
      | none =>
        rw [substitutePieces_cons, Piece.substitute, hv, List.find?_cons_of_pos (by simp [hv])]
        simp [Except.bind]

/-- What the variables of the parts are is all that a substitution depends on. -/
theorem substitutePieces_congr {ps : List Piece}
    (agree : ∀ name ∈ ps.filterMap Piece.reference?, env.value? name = env'.value? name) :
    substitutePieces env ps = substitutePieces env' ps := by
  induction ps with
  | nil => rfl
  | cons p ps ih =>
    have hp : p.substitute env = p.substitute env' := by
      cases p with
      | char | escaped => rfl
      | reference name =>
        rw [Piece.substitute, Piece.substitute, agree _ (by simp [Piece.reference?])]
    have hrest := ih fun name hname => agree name (by
      cases hv : p.reference? <;> simp [hv, hname])
    rw [substitutePieces_cons, substitutePieces_cons, hp, hrest]

end Pieces

/-! ### Texts -/

section Texts

variable {env env' : Variables} {s : String}

/-- A text is substituted part by part, whether it is looked ahead or not. -/
theorem substituteText_eq (env : Variables) (s : String) :
    substituteText env s = (substitutePieces env (pieces s.toList)).map String.ofList := by
  rw [substituteText]
  split
  · rfl
  · rename_i h
    rw [pieces_of_not_mayRefer (Bool.not_eq_true _ ▸ h), substitutePieces_chars]
    simp [Except.map]

theorem substituteText_error_iff {name : String} :
    substituteText env s = .error name ↔ missing? env s = some name := by
  rw [missing?, references, ← substitutePieces_error_iff, substituteText_eq]
  cases substitutePieces env (pieces s.toList) <;> simp [Except.map]

/-- A text depends on the environment through the variables that it refers to. -/
theorem substituteText_congr (agree : ∀ name ∈ references s, env.value? name = env'.value? name) :
    substituteText env s = substituteText env' s := by
  rw [substituteText_eq, substituteText_eq, substitutePieces_congr agree]

end Texts

end PluginFabric.Reference
