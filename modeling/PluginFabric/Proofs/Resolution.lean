import PluginFabric.Plugin.Resolver
import PluginFabric.Proofs.Text.Items

/-! What a resolution makes.

    Identifiers are asked for in order, each in the world that the constructors before it left. If all
    constructors succeed, there is a plugin for each identifier, in the same order; otherwise the first
    identifier that is unknown or whose constructor fails is told (`resolves_resolveFrom`). A list that
    is written as one text and read again asks for the same (`wanted_items_joinItems`). -/

namespace PluginFabric.Resolver

variable {ω π : Type}

/-- What comes of asking for one plugin. -/
def attempt (r : Resolver ω π) (id : String) (w : ω) : Except FabricError π :=
  match r.constructors.get? id with
  | none => .error (.unknownPlugin id)
  | some make => match (make w).result with
    | .error cause => .error (.instantiation id cause)
    | .ok plugin => .ok plugin

/-- The world after asking for one plugin. -/
def worldAfter (r : Resolver ω π) (w : ω) (id : String) : ω :=
  match r.constructors.get? id with
  | none => w
  | some make => (make w).world

/-- What comes of asking for the plugin at a position of a list, after those before it. -/
def attemptAt (r : Resolver ω π) (ids : List String) (w : ω) (i : Nat) :
    Option (Except FabricError π) :=
  ids[i]?.map fun id => r.attempt id ((ids.take i).foldl r.worldAfter w)

/-- What resolving a list of identifiers should come to. -/
structure Resolves (r : Resolver ω π) (ids : List String) (w : ω)
    (result : Except FabricError (List π)) : Prop where
  /-- A plugin for each identifier, in order. -/
  made : ∀ plugins, result = .ok plugins → plugins.length = ids.length ∧
    ∀ i < ids.length, ∃ plugin, plugins[i]? = some plugin ∧ r.attemptAt ids w i = some (.ok plugin)
  /-- The first identifier that there is no plugin for. -/
  refused : ∀ e, result = .error e → ∃ i, r.attemptAt ids w i = some (.error e) ∧
    ∀ j < i, ∃ plugin, r.attemptAt ids w j = some (.ok plugin)

section Cons

variable (r : Resolver ω π) (id : String) (ids : List String) (w : ω)

theorem attemptAt_zero : r.attemptAt (id :: ids) w 0 = some (r.attempt id w) := rfl

/-- The first identifier is asked for; only if it is made, the others are, too. -/
theorem resolveFrom_cons (position : Nat) :
    let result := (r.resolveFrom position (id :: ids) w).result
    (∃ e, r.attempt id w = .error e ∧ result = .error e) ∨
    ∃ plugin, r.attempt id w = .ok plugin ∧
      result = (r.resolveFrom (position + 1) ids (r.worldAfter w id)).result.map (plugin :: ·) := by
  rw [resolveFrom, attempt, worldAfter]
  cases r.constructors.get? id with
  | none => exact .inl ⟨_, rfl, rfl⟩
  | some make =>
    dsimp only
    cases (make w).result with
    | error cause => exact .inl ⟨_, rfl, rfl⟩
    | ok plugin => exact .inr ⟨_, rfl, rfl⟩

end Cons

theorem resolves_resolveFrom (r : Resolver ω π) (position : Nat) (ids : List String) (w : ω) :
    r.Resolves ids w (r.resolveFrom position ids w).result := by
  induction ids generalizing position w with
  | nil =>
    refine ⟨fun plugins h => ?_, fun e h => (by cases h)⟩
    cases h
    exact ⟨rfl, fun i hi => (by cases hi)⟩
  | cons id ids ih =>
    rcases r.resolveFrom_cons id ids w position with
      ⟨e, hattempt, hresult⟩ | ⟨plugin, hattempt, hresult⟩
    · rw [hresult]
      refine ⟨fun plugins h => (by cases h), fun e' h => ⟨0, ?_, fun j hj => (by cases hj)⟩⟩
      cases h
      rw [attemptAt_zero, hattempt]
    · obtain ⟨hmade, hrefused⟩ := ih (position + 1) (r.worldAfter w id)
      have hfirst : r.attemptAt (id :: ids) w 0 = some (.ok plugin) := by
        rw [attemptAt_zero, hattempt]
      rw [hresult]
      cases hlater : (r.resolveFrom (position + 1) ids (r.worldAfter w id)).result with
      | ok plugins =>
        obtain ⟨hlength, hplugins⟩ := hmade plugins hlater
        refine ⟨fun all h => ?_, fun e h => (by cases h)⟩
        cases h
        refine ⟨congrArg (· + 1) hlength, fun i hi => ?_⟩
        cases i with
        | zero => exact ⟨plugin, rfl, hfirst⟩
        | succ i => exact hplugins i (Nat.lt_of_succ_lt_succ hi)
      | error e =>
        obtain ⟨i, hi, hbefore⟩ := hrefused e hlater
        refine ⟨fun all h => (by cases h), fun e' h => ?_⟩
        cases h
        refine ⟨i + 1, hi, fun j hj => ?_⟩
        cases j with
        | zero => exact ⟨plugin, hfirst⟩
        | succ j => exact hbefore j (Nat.lt_of_succ_lt_succ hj)

/-- A list is resolved if and only if there is a plugin for each of its identifiers. -/
theorem Resolves.ok_iff {r : Resolver ω π} {ids : List String} {w : ω}
    {result : Except FabricError (List π)} (h : r.Resolves ids w result) :
    (∃ plugins, result = .ok plugins) ↔
      ∀ i < ids.length, ∃ plugin, r.attemptAt ids w i = some (.ok plugin) := by
  constructor
  · rintro ⟨plugins, hok⟩ i hi
    obtain ⟨plugin, -, hplugin⟩ := (h.made plugins hok).2 i hi
    exact ⟨plugin, hplugin⟩
  · intro hall
    cases result with
    | ok plugins => exact ⟨plugins, rfl⟩
    | error e =>
      obtain ⟨i, hi, -⟩ := h.refused e rfl
      have hlt : i < ids.length := by
        obtain ⟨id, hid, -⟩ := Option.map_eq_some_iff.1 hi
        exact (List.getElem?_eq_some_iff.1 hid).1
      obtain ⟨plugin, hplugin⟩ := hall i hlt
      rw [hi] at hplugin
      cases hplugin

theorem result_resolve (r : Resolver ω π) (c : Configuration) (key : String) (w : ω) :
    (r.resolve c key w).result = (r.resolveFrom 0 (wanted (c.getList key)) w).result := by
  rw [resolve, resolveIds]
  split <;> rfl

/-! ### Identifiers -/

/-- What is wanted is trimmed and not blank already. -/
theorem wanted_wanted (ids : List String) : wanted (wanted ids) = wanted ids := by
  refine Text.filter_map_trimmed_eq_self fun id hid => ?_
  obtain ⟨hmem, hblank⟩ := List.mem_filter.1 hid
  obtain ⟨id, -, rfl⟩ := List.mem_map.1 hmem
  exact ⟨Text.trimmed_trimmed id, of_decide_eq_true hblank⟩

/-- A list that is written as one text and read again asks for the same plugins. -/
theorem wanted_items_joinItems {ids : List String} (h : ∀ id ∈ ids, Text.itemSeparator ∉ id.toList) :
    wanted (Text.items (Text.joinItems ids)) = wanted ids := by
  rw [Text.items_joinItems h]
  exact wanted_wanted ids

end PluginFabric.Resolver
