import PluginFabric.Execution.Manager
import PluginFabric.Preparation.Manager
import PluginFabric.Proofs.Config.Flatten
import PluginFabric.Proofs.Config.Validation
import PluginFabric.Proofs.Resolution
import PluginFabric.Proofs.Text.Items

/-! The plugins of a configuration are the plugins of its managers.

    A list of identifiers becomes one text among the properties and a list again where plugins are
    resolved. Validation keeps out identifiers that would be lost or taken for several, so that each
    manager has one plugin for each identifier, in the same order and identified by its position. -/

namespace PluginFabric

variable {ω ρ σ ε κ : Type}

/-- What making the plugins of these identifiers should come to: the plugins with their positions, or
    the refusal of the first identifier that there is no plugin for. -/
structure Listed (r : Resolver ω (Plugin ρ σ ε κ)) (ids : List String) (w : ω)
    (members : Except FabricError (List (PluginId × Plugin ρ σ ε κ))) : Prop where
  /-- All are made if and only if each of them can be. -/
  succeeds : (∃ ms, members = .ok ms) ↔
    ∀ i < ids.length, ∃ plugin, r.attemptAt ids w i = some (.ok plugin)
  /-- There are as many as identifiers, each made for the identifier at its position. -/
  made : ∀ ms, members = .ok ms → ms.length = ids.length ∧
    ∀ i < ids.length, ∃ plugin, r.attemptAt ids w i = some (.ok plugin) ∧ ms[i]? = some (i, plugin)
  /-- The first identifier that there is no plugin for is told. -/
  refused : ∀ e, members = .error e → ∃ i, r.attemptAt ids w i = some (.error e) ∧
    ∀ j < i, ∃ plugin, r.attemptAt ids w j = some (.ok plugin)

/-- Identifiers that can be told apart come out of their list as they went in, but for blanks around
    them. -/
theorem wanted_items {ids : List String} (h : ∀ id ∈ ids, Identifies id) :
    Resolver.wanted (Text.items (Text.joinItems ids)) = ids.map Text.trimmed := by
  rw [Resolver.wanted_items_joinItems fun id hid => (h id hid).2]
  exact Validation.filter_trimmed_of_identifies h

theorem getElem?_members [EventTag κ] (plugins : List (Plugin ρ σ ε κ)) (i : Nat) :
    (Host.ofPlugins plugins).members[i]? = plugins[i]?.map (i, ·) := by
  rw [Host.ofPlugins, List.getElem?_map, List.getElem?_zipIdx, Option.map_map, Nat.zero_add]
  rfl

theorem listed_of_resolves [EventTag κ] {r : Resolver ω (Plugin ρ σ ε κ)} {ids : List String} {w : ω}
    {result : Except FabricError (List (Plugin ρ σ ε κ))} (h : r.Resolves ids w result) :
    Listed r ids w (result.map fun plugins => (Host.ofPlugins plugins).members) := by
  have hiff := h.ok_iff
  cases result with
  | error e =>
    refine ⟨?_, fun ms hms => (by cases hms), fun e' he' => ?_⟩
    · rw [← hiff]
      exact ⟨fun ⟨_, hms⟩ => (by cases hms), fun ⟨_, hms⟩ => (by cases hms)⟩
    · cases he'
      exact h.refused e rfl
  | ok plugins =>
    obtain ⟨hlength, hplugins⟩ := h.made plugins rfl
    refine ⟨?_, fun ms hms => ?_, fun e he => (by cases he)⟩
    · rw [← hiff]
      exact ⟨fun _ => ⟨_, rfl⟩, fun _ => ⟨_, rfl⟩⟩
    · cases hms
      refine ⟨?_, fun i hi => ?_⟩
      · simpa [Host.ofPlugins] using hlength
      · obtain ⟨plugin, hplugin, hattempt⟩ := hplugins i hi
        exact ⟨plugin, hattempt, by rw [getElem?_members, hplugin]; rfl⟩

/-- A property that lists identifiers that can be told apart makes a plugin of each. -/
theorem listed_resolve [EventTag κ] (r : Resolver ω (Plugin ρ σ ε κ)) {conf : Configuration}
    {key : String} {ids : List String} (h : ∀ id ∈ ids, Identifies id)
    (lists : conf.getList key = Text.items (Text.joinItems ids)) (w : ω) :
    Listed r (ids.map Text.trimmed) w
      ((r.resolve conf key w).result.map fun plugins => (Host.ofPlugins plugins).members) := by
  rw [Resolver.result_resolve, lists, wanted_items h]
  exact listed_of_resolves (r.resolves_resolveFrom 0 _ w)

theorem members_forPreparation {δ : Type} (r : Resolver ω (PreparationPlugin δ σ))
    (conf : Configuration) (w : ω) : (PreparationManager.forPreparation r conf w).1.map (·.host.members)
      = (r.resolve conf EngineConfig.dagSetupKey w).result.map
        fun plugins => (Host.ofPlugins plugins).members := by
  rw [PreparationManager.forPreparation]
  cases (r.resolve conf EngineConfig.dagSetupKey w).result <;> rfl

theorem members_fromResolver {δ : Type} (r : Resolver ω (ExecutionPlugin δ σ))
    (environment : Environment δ) (w : ω) : (ExecutionManager.fromResolver r environment w).1.map (·.host.members)
      = (r.resolve environment.configuration EngineConfig.executionKey w).result.map
        fun plugins => (Host.ofPlugins plugins).members := by
  rw [ExecutionManager.fromResolver]
  cases (r.resolve environment.configuration EngineConfig.executionKey w).result <;> rfl

/-- Whatever a prepared configuration lists is what its managers are made of, whatever the free-form
    properties are. -/
theorem plugins_as_listed {env : Variables} {raw c : EngineConfig}
    (prepared : raw.prepare env = .ok c) :
    ∃ conf, c.toConfiguration = .ok conf ∧
    (∀ (ω δ σ : Type) (r : Resolver ω (PreparationPlugin δ σ)) (w : ω),
      Listed r (c.dagSetupPlugins.map Text.trimmed) w
        ((PreparationManager.forPreparation r conf w).1.map (·.host.members))) ∧
    (∀ (ω δ σ : Type) (r : Resolver ω (ExecutionPlugin δ σ)) (environment : Environment δ) (w : ω),
      environment.configuration = conf →
      Listed r (c.executionPlugins.map Text.trimmed) w
        ((ExecutionManager.fromResolver r environment w).1.map (·.host.members))) := by
  obtain ⟨hsetup, hexecution⟩ :=
    EngineConfig.identifies_of_validate (EngineConfig.errors_of_prepare prepared)
  obtain ⟨hsetupList, hexecutionList⟩ := c.getList_flattened
  refine ⟨c.flattened, c.toConfiguration_eq, fun ω δ σ r w => ?_, fun ω δ σ r environment w henv => ?_⟩
  · rw [members_forPreparation]
    exact listed_resolve r hsetup hsetupList w
  · rw [members_fromResolver, henv]
    exact listed_resolve r hexecution hexecutionList w

/-- A resolver that makes plugins of two names, which do nothing. -/
def tapAndMeter : Resolver Unit (ExecutionPlugin Unit Unit) :=
  let inert (name : String) : ExecutionPlugin Unit Unit :=
    ⟨name, fun _ _ w => ⟨[], ⟨.ok (), w, []⟩⟩, fun _ w => ⟨.ok (), w, []⟩⟩
  (Resolver.empty.register "tap" fun w => ⟨.ok (inert "tap"), w⟩).register "meter"
    fun w => ⟨.ok (inert "meter"), w⟩

/-- An identifier is listed twice, once with blanks around it, another comes from a variable, and a
    free-form property has the name that plugins are listed under. -/
theorem plugins_as_listed_twice :
    let env : Variables := fun name => if name = "METER" then some "meter" else none
    let raw : EngineConfig :=
      { plugins := some { execution := ["tap", " tap ", "$\x7bMETER\x7d"] }
        properties := .ofList [(EngineConfig.executionKey, "other")] }
    let c := { raw with plugins := some { execution := ["tap", " tap ", "meter"] } }.withDefaults
    raw.prepare env = .ok c ∧ ∃ conf, c.toConfiguration = .ok conf ∧
      ∃ ms, (ExecutionManager.fromResolver tapAndMeter (.ofLaunch () conf) ()).1.map (·.host.members)
        = .ok ms ∧ ms.length = 3 := by
  intro env raw c
  have prepared : raw.prepare env = .ok c := by decide +kernel
  have hids : c.executionPlugins.map Text.trimmed = ["tap", "tap", "meter"] := by decide +kernel
  obtain ⟨conf, hconf, -, hexecution⟩ := plugins_as_listed prepared
  have h := hexecution Unit Unit Unit tapAndMeter (.ofLaunch () conf) () rfl
  rw [hids] at h
  obtain ⟨ms, hms⟩ := h.succeeds.2 fun i hi => (by
    match i with
    | 0 => exact ⟨_, rfl⟩
    | 1 => exact ⟨_, rfl⟩
    | 2 => exact ⟨_, rfl⟩)
  exact ⟨prepared, conf, hconf, ms, hms, (h.made ms hms).1⟩

end PluginFabric
