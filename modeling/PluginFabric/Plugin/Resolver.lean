import PluginFabric.Config.Properties
import PluginFabric.FabricError
import PluginFabric.Log.Notice
import PluginFabric.Text.Quoted

/-! Resolution of configured identifiers.

    A resolver knows a constructor for each identifier; a later registration of an identifier takes
    the place of an earlier one. A list of identifiers is resolved in order, with blanks around an
    identifier ignored and blank identifiers left out: every entry gets an instance of its own, and
    the first one that is unknown or cannot be constructed ends the resolution. -/

namespace PluginFabric

/-- What a constructor leaves behind. -/
structure Construction (ω π : Type) where
  result : Except Fault π
  world : ω

/-- Code that makes one instance `π`. -/
abbrev Constructor (ω π : Type) := ω → Construction ω π

/-- The constructors of one domain, by identifier. -/
structure Resolver (ω π : Type) where
  constructors : SortedMap String (Constructor ω π) := ∅

/-- What a resolution leaves behind, with the identifiers whose constructors were called. -/
structure Resolution (ω π : Type) where
  result : Except FabricError (List π)
  world : ω
  attempts : List String
  notices : List Notice

namespace Resolver

variable {ω π : Type}

def empty : Resolver ω π := {}

/-- Registers a constructor in place of the one the identifier had. -/
def register (r : Resolver ω π) (id : String) (make : Constructor ω π) : Resolver ω π :=
  ⟨r.constructors.insert id make⟩

/-- The identifiers that are registered, in order. Not all of them can be resolved: a resolution trims
    what it is asked for and leaves out what is blank. -/
def ids (r : Resolver ω π) : List String := r.constructors.keys

def contains (r : Resolver ω π) (id : String) : Bool := r.constructors.contains id

/-- The identifiers of a list that ask for a plugin. -/
def wanted (ids : List String) : List String := (ids.map Text.trimmed).filter (· ≠ "")

/-- Makes one instance for each identifier, where `position` of them were made before. -/
def resolveFrom (r : Resolver ω π) (position : Nat) : List String → ω → Resolution ω π
  | [], w => ⟨.ok [], w, [], []⟩
  | id :: ids, w =>
    match r.constructors.get? id with
    | none => ⟨.error (.unknownPlugin id), w, [], []⟩
    | some make =>
      let made := make w
      match made.result with
      | .error cause => ⟨.error (.instantiation id cause), made.world, [id], []⟩
      | .ok instance_ =>
        let later := resolveFrom r (position + 1) ids made.world
        ⟨later.result.map (instance_ :: ·), later.world, id :: later.attempts,
          .pluginResolved id position :: later.notices⟩

/-- Resolves a list of identifiers. -/
def resolveIds (r : Resolver ω π) (ids : List String) (w : ω) : Resolution ω π :=
  r.resolveFrom 0 (wanted ids) w

/-- Resolves the identifiers that a property lists; a missing property lists none. -/
def resolve (r : Resolver ω π) (c : Configuration) (key : String) (w : ω) : Resolution ω π :=
  let done := r.resolveIds (c.getList key) w
  match done.result with
  | .ok made => { done with notices := done.notices ++ [.pluginsResolved key made.length] }
  | .error _ => done

/-- The text that shows a resolver for diagnosis. -/
def diagnosis (r : Resolver ω π) : String :=
  "PluginResolver \x7b ids: " ++ Text.quotedList r.ids ++ " \x7d"

end Resolver

end PluginFabric
