import PluginFabric.Config.Reference

/-! What substitution does to a tree.

    A tree holds texts, each at a path: those of a list by index, those of an object by key. If no
    text misses a variable, each is replaced and the rest of the tree stays as it is; otherwise the
    first text that misses one ends it (`substitute_eq`). -/

namespace PluginFabric

open Reference (elementPath memberPath)

namespace Json

mutual

/-- The texts of a tree with their paths, in order. -/
def texts (path : String) : Json → List (String × String)
  | .str s => [(path, s)]
  | .arr xs => textsOfElements path 0 xs
  | .obj ms => textsOfMembers path ms
  | .null | .bool _ | .int _ | .float _ => []

def textsOfElements (path : String) : Nat → List Json → List (String × String)
  | _, [] => []
  | i, x :: xs => texts (elementPath path i) x ++ textsOfElements path (i + 1) xs

def textsOfMembers (path : String) : List (String × Json) → List (String × String)
  | [] => []
  | (key, x) :: ms => texts (memberPath path key) x ++ textsOfMembers path ms

end

mutual

/-- The tree with every text changed. -/
def mapTexts (f : String → String) : Json → Json
  | .str s => .str (f s)
  | .arr xs => .arr (mapTextsOfElements f xs)
  | .obj ms => .obj (mapTextsOfMembers f ms)
  | .null => .null
  | .bool b => .bool b
  | .int n => .int n
  | .float x => .float x

def mapTextsOfElements (f : String → String) : List Json → List Json
  | [] => []
  | x :: xs => mapTexts f x :: mapTextsOfElements f xs

def mapTextsOfMembers (f : String → String) : List (String × Json) → List (String × Json)
  | [] => []
  | (key, x) :: ms => (key, mapTexts f x) :: mapTextsOfMembers f ms

end

/-! ### Lists and objects -/

section Children

variable (path : String) (f : String → String)

theorem textsOfElements_eq (i : Nat) (xs : List Json) : textsOfElements path i xs
    = (xs.zipIdx i).flatMap fun p => p.1.texts (elementPath path p.2) := by
  induction xs generalizing i with
  | nil => rfl
  | cons x xs ih => rw [textsOfElements, ih, List.zipIdx_cons, List.flatMap_cons]

theorem textsOfMembers_eq (ms : List (String × Json)) :
    textsOfMembers path ms = ms.flatMap fun m => m.2.texts (memberPath path m.1) := by
  induction ms with
  | nil => rfl
  | cons m ms ih => rw [textsOfMembers, ih, List.flatMap_cons]

theorem mapTextsOfElements_eq (xs : List Json) : mapTextsOfElements f xs = xs.map (mapTexts f) := by
  induction xs with
  | nil => rfl
  | cons x xs ih => rw [mapTextsOfElements, ih, List.map_cons]

theorem mapTextsOfMembers_eq (ms : List (String × Json)) :
    mapTextsOfMembers f ms = ms.map fun m => (m.1, m.2.mapTexts f) := by
  induction ms with
  | nil => rfl
  | cons m ms ih => rw [mapTextsOfMembers, ih, List.map_cons]

end Children

end Json

namespace Reference

variable {α β γ : Type}

/-- A text with its references replaced, or as it is where a variable is missing. -/
def replaced (env : Variables) (s : String) : String :=
  match substituteText env s with
  | .ok t => t
  | .error _ => s

/-- The variable that a text misses. -/
def missingAt? (env : Variables) (p : String × String) : Option MissingVariable :=
  match substituteText env p.2 with
  | .ok _ => none
  | .error name => some ⟨name, p.1⟩

/-- The first variable that one of several texts misses. -/
def firstMissing? (env : Variables) (texts : List (String × String)) : Option MissingVariable :=
  texts.findSome? (missingAt? env)

/-- A result, unless one of the texts it is made of misses a variable. -/
def unlessMissing (env : Variables) (texts : List (String × String)) (a : α) :
    Except MissingVariable α :=
  match firstMissing? env texts with
  | none => .ok a
  | some m => .error m

theorem map_unlessMissing (env : Variables) (f : α → β) (ts : List (String × String)) (a : α) :
    f <$> unlessMissing env ts a = unlessMissing env ts (f a) := by
  rw [unlessMissing, unlessMissing]
  cases firstMissing? env ts <;> rfl

/-- Of two parts, the first is looked at first. -/
theorem unlessMissing_append (env : Variables) (g : α → β → γ) (ts us : List (String × String))
    (a : α) (b : β) : (unlessMissing env ts a >>= fun x => g x <$> unlessMissing env us b)
      = unlessMissing env (ts ++ us) (g a b) := by
  have happend : firstMissing? env (ts ++ us) = (firstMissing? env ts).or (firstMissing? env us) :=
    List.findSome?_append
  rw [unlessMissing, unlessMissing, unlessMissing, happend]
  cases firstMissing? env ts with
  | some m => rfl
  | none => cases firstMissing? env us <;> rfl

variable (env : Variables)

mutual

/-- Substitution replaces every text, unless one misses a variable. -/
theorem substitute_eq (path : String) : ∀ j : Json,
    substitute env path j = unlessMissing env (j.texts path) (j.mapTexts (replaced env))
  | .str s => by
    rw [substitute, Json.texts, Json.mapTexts, unlessMissing, firstMissing?, replaced]
    cases h : substituteText env s <;> simp [missingAt?, h]
  | .arr xs => by
    rw [substitute, substituteElements_eq path 0 xs]
    exact map_unlessMissing env Json.arr _ _
  | .obj ms => by
    rw [substitute, substituteMembers_eq path ms]
    exact map_unlessMissing env Json.obj _ _
  | .null => rfl
  | .bool _ => rfl
  | .int _ => rfl
  | .float _ => rfl

theorem substituteElements_eq (path : String) : ∀ (i : Nat) (xs : List Json),
    substituteElements env path i xs
      = unlessMissing env (Json.textsOfElements path i xs) (Json.mapTextsOfElements (replaced env) xs)
  | _, [] => rfl
  | i, x :: xs => by
    rw [substituteElements, substitute_eq _ x, substituteElements_eq path (i + 1) xs]
    exact unlessMissing_append env List.cons _ _ _ _

theorem substituteMembers_eq (path : String) : ∀ ms : List (String × Json),
    substituteMembers env path ms
      = unlessMissing env (Json.textsOfMembers path ms) (Json.mapTextsOfMembers (replaced env) ms)
  | [] => rfl
  | (key, x) :: ms => by
    rw [substituteMembers, substitute_eq _ x, substituteMembers_eq path ms]
    exact unlessMissing_append env (fun y ys => (key, y) :: ys) _ _ _ _

end

end Reference

end PluginFabric
