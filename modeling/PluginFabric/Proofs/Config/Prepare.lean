import Mathlib.Data.List.Nodup
import PluginFabric.Config.Prepare
import PluginFabric.Proofs.Config.Engine

/-! Preparing a configuration, field by field.

    A configuration goes through a tree only to have its texts replaced. What comes of it is what
    replacing them one after the other would: the first text that misses a variable is told by a path
    that no other text has, and nothing but texts changes. -/

namespace PluginFabric

open Reference

/-! ### Paths -/

/-- The first characters of a path. -/
def pathFront (n : Nat) (path : String) : List Char := path.toList.take n

theorem pathFront_append {n : Nat} {s : String} (h : n ≤ s.toList.length) (t : String) :
    pathFront n (s ++ t) = pathFront n s := by
  rw [pathFront, String.toList_append, List.take_append_of_le_length h, pathFront]

theorem elementPath_injective (path : String) : Function.Injective (elementPath path) := by
  intro i j h
  have hchars := congrArg String.toList h
  simp only [elementPath, String.toList_append, List.append_assoc] at hchars
  -- what stands between the brackets is the index in decimal digits
  have hnumeral := List.append_cancel_right (List.append_cancel_left (List.append_cancel_left hchars))
  have hvalue := congrArg (fun digits => Nat.ofDigitChars 10 digits 0) hnumeral
  simpa [Nat.toString_eq_ofList_toDigits] using hvalue

/-- The paths of a list are the path of the list with an index each. -/
theorem paths_numbered (path : String) (l : List String) :
    (numbered path l).map (·.1) = (List.range l.length).map (elementPath path) := by
  rw [numbered, List.map_map, List.range_eq_range', ← List.zipIdx_map_snd, List.map_map]
  rfl

/-- Paths of which no two are the same and all begin alike. -/
def PathGroup (n : Nat) (x : List Char) (paths : List String) : Prop :=
  paths.Nodup ∧ ∀ p ∈ paths, pathFront n p = x

theorem PathGroup.disjoint {n : Nat} {x y : List Char} {l r : List String} (hl : PathGroup n x l)
    (hr : PathGroup n y r) (hxy : x ≠ y) : l.Disjoint r :=
  fun p hp hp' => hxy ((hl.2 p hp).symm.trans (hr.2 p hp'))

theorem PathGroup.option {α : Type} {n : Nat} {x : List Char} {texts : α → List (String × String)}
    (h : ∀ a, PathGroup n x ((texts a).map (·.1))) (o : Option α) :
    PathGroup n x ((o.toList.flatMap texts).map (·.1)) := by
  cases o with
  | none => exact ⟨.nil, fun _ hp => (by cases hp)⟩
  | some a =>
    rw [Option.toList_some, List.flatMap_singleton]
    exact h a

theorem pathGroup_numbered (n : Nat) (path : String) (h : n ≤ path.toList.length) (l : List String) :
    PathGroup n (pathFront n path) ((numbered path l).map (·.1)) := by
  rw [paths_numbered]
  refine ⟨List.nodup_range.map (elementPath_injective path), fun p hp => ?_⟩
  obtain ⟨i, -, rfl⟩ := List.mem_map.1 hp
  rw [elementPath, String.append_assoc, String.append_assoc, pathFront_append h]

theorem LoggingConfig.pathGroup_texts (l : LoggingConfig) :
    PathGroup 2 ['l', 'o'] (l.texts.map (·.1)) := by
  obtain ⟨level, dir, json⟩ := l
  cases level <;> cases dir <;> simp [PathGroup, texts] <;> decide

theorem PluginsConfig.pathGroup_texts (p : PluginsConfig) :
    PathGroup 2 ['p', 'l'] (p.texts.map (·.1)) := by
  have differ : ((numbered "plugins.dagSetup" p.dagSetup).map (·.1)).Disjoint
      ((numbered "plugins.execution" p.execution).map (·.1)) :=
    (pathGroup_numbered 9 _ (by decide) _).disjoint (pathGroup_numbered 9 _ (by decide) _) (by decide)
  obtain ⟨hsetup, hsetup'⟩ := pathGroup_numbered 2 "plugins.dagSetup" (by decide) p.dagSetup
  obtain ⟨hexecution, hexecution'⟩ := pathGroup_numbered 2 "plugins.execution" (by decide) p.execution
  rw [texts, List.map_append]
  exact ⟨hsetup.append hexecution differ,
    fun q hq => (List.mem_append.1 hq).elim (hsetup' q) (hexecution' q)⟩

/-- The path of a property ends in its name. -/
theorem pathGroup_properties (m : SortedMap String String) :
    PathGroup 2 ['p', 'r'] ((m.toList.map fun p => ("properties." ++ p.1, p.2)).map (·.1)) := by
  rw [List.map_map]
  constructor
  · -- names ascend, so that two paths that are the same would be of a name below itself
    refine List.pairwise_map.2 (m.sorted.imp fun hlt heq => ?_)
    have hchars := congrArg String.toList heq
    simp only [Function.comp_apply, String.toList_append] at hchars
    rw [String.toList_inj.1 (List.append_cancel_left hchars)] at hlt
    simp at hlt
  · intro p hp
    obtain ⟨q, -, rfl⟩ := List.mem_map.1 hp
    exact pathFront_append (by decide) q.1

/-- No two texts of a configuration have the same path. -/
theorem EngineConfig.nodup_paths (c : EngineConfig) : (c.texts.map (·.1)).Nodup := by
  have hlogging := PathGroup.option LoggingConfig.pathGroup_texts c.logging
  have hplugins := PathGroup.option PluginsConfig.pathGroup_texts c.plugins
  have hproperties := pathGroup_properties c.properties
  rw [texts, List.map_append, List.map_append]
  have hfirst := hlogging.1.append hplugins.1 (hlogging.disjoint hplugins (by decide))
  refine hfirst.append hproperties.1 ?_
  exact List.disjoint_append_left.2
    ⟨hlogging.disjoint hproperties (by decide), hplugins.disjoint hproperties (by decide)⟩

/-! ### Preparation -/

namespace EngineConfig

/-- Replacing the references of a configuration is replacing them text by text; it never fails for
    another reason than a missing variable. -/
theorem resolveReferences_eq (env : Variables) (raw : EngineConfig) : raw.resolveReferences env
    = match firstMissing? env raw.texts with
      | some m => .error (.missingVariable m)
      | none => .ok (raw.mapTexts (replaced env)) := by
  rw [resolveReferences, resolve, substitute_eq, texts_encode, unlessMissing, mapTexts_encode]
  cases firstMissing? env raw.texts with
  | some m => rfl
  | none => simp only [decode_encode]

/-- A configuration is ready for use if no text misses a variable and, with its references replaced and
    its defaults filled in, it has no errors. -/
theorem prepare_eq_ok_iff {env : Variables} {raw c : EngineConfig} : raw.prepare env = .ok c ↔
    firstMissing? env raw.texts = none ∧ c = (raw.mapTexts (replaced env)).withDefaults ∧
      c.validate.errors = [] := by
  rw [prepare, resolveReferences_eq]
  cases firstMissing? env raw.texts with
  | some m => exact ⟨nofun, nofun⟩
  | none =>
    have hready : (raw.mapTexts (replaced env)).withDefaults.validated = .ok c ↔
        c = (raw.mapTexts (replaced env)).withDefaults ∧ c.validate.errors = [] := by
      rw [validated]
      split
      · rename_i hnone
        rw [Except.ok.injEq]
        exact ⟨fun h => ⟨h.symm, h ▸ hnone⟩, fun h => h.1.symm⟩
      · rename_i hsome
        refine ⟨nofun, ?_⟩
        rintro ⟨rfl, hnone⟩
        rw [hnone] at hsome
        cases hsome
    exact hready.trans (by simp)

/-- Preparing a configuration replaces its texts one after the other, each at a path of its own; the
    first that misses a variable is told. Otherwise defaults are filled in, and the first error that
    validation finds is told, or there is none. -/
theorem prepare_textwise (env : Variables) (raw : EngineConfig) :
    (raw.prepare env = match firstMissing? env raw.texts with
      | some m => .error (.missingVariable m)
      | none =>
        let c := (raw.mapTexts (replaced env)).withDefaults
        match c.validate.errors with
        | [] => .ok c
        | first :: _ => .error (.invalid first)) ∧
    (raw.texts.map (·.1)).Nodup ∧ raw.prepare env ≠ .error .undecodable := by
  have hprepare : raw.prepare env = match firstMissing? env raw.texts with
      | some m => .error (.missingVariable m)
      | none => (raw.mapTexts (replaced env)).withDefaults.validated := by
    rw [prepare, resolveReferences_eq]
    cases firstMissing? env raw.texts <;> rfl
  refine ⟨hprepare, raw.nodup_paths, fun hno => ?_⟩
  rw [hprepare] at hno
  cases hmissing : firstMissing? env raw.texts with
  | some m => simp [hmissing] at hno
  | none =>
    simp only [hmissing, validated] at hno
    split at hno <;> cases hno

end EngineConfig

end PluginFabric
