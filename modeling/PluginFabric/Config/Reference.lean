import PluginFabric.Json.Value

/-! References to environment variables.

    `$` and a name between braces stand for the value of a variable; one more `$` in front makes the
    reference literal and is dropped. A name is a capital letter or an underscore, then capital
    letters, digits and underscores. A variable that is not set or empty is missing. Values that are
    put in are not looked at again. In a tree of values only the texts are substituted, lists by index
    and objects by key, and the first missing variable ends it. -/

namespace PluginFabric

/-- The variables of an environment. -/
abbrev Variables := String → Option String

/-- The value of a variable, if it has one that is not empty. -/
def Variables.value? (env : Variables) (name : String) : Option String :=
  (env name).filter (· ≠ "")

/-- A missing variable and where in the configuration it is wanted. -/
structure MissingVariable where
  name : String
  path : String
  deriving DecidableEq, Inhabited

def MissingVariable.message (m : MissingVariable) : String :=
  "Missing env var \"" ++ m.name ++ "\" referenced at config path: " ++ m.path

namespace Reference

def isNameStart (c : Char) : Bool := decide ('A' ≤ c) && decide (c ≤ 'Z') || c = '_'

def isNameChar (c : Char) : Bool := isNameStart c || decide ('0' ≤ c) && decide (c ≤ '9')

/-- A name and the brace that closes it, with the rest of the text. -/
def name? (cs : List Char) : Option (List Char × List Char) :=
  match cs.takeWhile isNameChar, cs.dropWhile isNameChar with
  | c :: name, '\x7d' :: rest => if isNameStart c then some (c :: name, rest) else none
  | _, _ => none

/-- A reference at the front of a text: its name and the rest. -/
def occurrence? : List Char → Option (List Char × List Char)
  | '$' :: '\x7b' :: rest => name? rest
  | _ => none

/-- The parts of a text with references. -/
inductive Piece where
  /-- A character that stands for itself. -/
  | char (c : Char)
  /-- A reference to replace. -/
  | reference (name : List Char)
  /-- A reference to keep, whose extra `$` is dropped. -/
  | escaped (name : List Char)
  deriving DecidableEq

theorem length_lt_of_name? {cs name rest : List Char} (h : name? cs = some (name, rest)) :
    rest.length < cs.length := by
  have hsplit : (cs.takeWhile isNameChar ++ cs.dropWhile isNameChar).length = cs.length := by
    rw [List.takeWhile_append_dropWhile]
  unfold name? at h
  split at h
  · rename_i c tail r htake hdrop
    split at h
    · simp only [Option.some.injEq, Prod.mk.injEq] at h
      rw [htake, hdrop, h.2, List.length_append, List.length_cons, List.length_cons] at hsplit
      omega
    · simp at h
  · simp at h

theorem length_lt_of_occurrence? {cs name rest : List Char}
    (h : occurrence? cs = some (name, rest)) : rest.length < cs.length := by
  unfold occurrence? at h
  split at h
  · have hname := length_lt_of_name? h
    rw [List.length_cons, List.length_cons]
    omega
  · simp at h

/-- The parts of a text, from left to right. -/
def pieces (cs : List Char) : List Piece :=
  match cs with
  | [] => []
  | c :: tail =>
    if c = '$' then
      match _h : occurrence? tail with
      | some (name, rest) => .escaped name :: pieces rest
      | none => match _plain : occurrence? (c :: tail) with
        | some (name, rest) => .reference name :: pieces rest
        | none => .char c :: pieces tail
    else .char c :: pieces tail
termination_by cs.length
decreasing_by
  · have hrest := length_lt_of_occurrence? _h
    rw [List.length_cons]
    omega
  · exact length_lt_of_occurrence? _plain
  · simp
  · simp

/-- The text that a name is referred to by. -/
def written (name : List Char) : List Char := '$' :: '\x7b' :: name ++ ['\x7d']

/-- What a part becomes, or the variable it misses. -/
def Piece.substitute (env : Variables) : Piece → Except String (List Char)
  | .char c => .ok [c]
  | .escaped name => .ok (written name)
  | .reference name => match env.value? (String.ofList name) with
    | some value => .ok value.toList
    | none => .error (String.ofList name)

/-- The parts substituted and put together, or the first variable that is missing. -/
def substitutePieces (env : Variables) : List Piece → Except String (List Char)
  | [] => .ok []
  | p :: ps => do
    let front ← p.substitute env
    return front ++ (← substitutePieces env ps)

/-- Whether a reference could begin somewhere in a text. -/
def mayRefer : List Char → Bool
  | '$' :: '\x7b' :: _ => true
  | _ :: tail => mayRefer tail
  | [] => false

/-- A text with its references replaced, or the first variable that is missing. -/
def substituteText (env : Variables) (s : String) : Except String String :=
  if mayRefer s.toList then (substitutePieces env (pieces s.toList)).map String.ofList
  else .ok s

/-- The path of an element of a list. -/
def elementPath (path : String) (index : Nat) : String :=
  path ++ "[" ++ toString index ++ "]"

/-- The path of a member of an object. -/
def memberPath (path key : String) : String :=
  if path = "" then key else path ++ "." ++ key

mutual

/-- A tree with the references in its texts replaced. -/
def substitute (env : Variables) (path : String) : Json → Except MissingVariable Json
  | .str s => match substituteText env s with
    | .ok t => .ok (.str t)
    | .error name => .error ⟨name, path⟩
  | .arr xs => do return .arr (← substituteElements env path 0 xs)
  | .obj ms => do return .obj (← substituteMembers env path ms)
  | .null => .ok .null
  | .bool b => .ok (.bool b)
  | .int n => .ok (.int n)
  | .float x => .ok (.float x)

def substituteElements (env : Variables) (path : String) :
    Nat → List Json → Except MissingVariable (List Json)
  | _, [] => .ok []
  | i, x :: xs => do
    let y ← substitute env (elementPath path i) x
    return y :: (← substituteElements env path (i + 1) xs)

def substituteMembers (env : Variables) (path : String) :
    List (String × Json) → Except MissingVariable (List (String × Json))
  | [] => .ok []
  | (key, x) :: ms => do
    let y ← substitute env (memberPath path key) x
    return (key, y) :: (← substituteMembers env path ms)

end

/-- A tree with the references in its texts replaced, or the first variable that is missing. -/
def resolve (env : Variables) (j : Json) : Except MissingVariable Json := substitute env "" j

end Reference

end PluginFabric
