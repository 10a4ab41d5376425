import PluginFabric.Config.Validation
import PluginFabric.Log.Options

/-! Filling in what a configuration leaves out changes nothing of what it means.

    Defaults are known in two places: the pass that fills them in, and every reader of a configuration
    that finds a section or a value missing. The pass keeps what is given and leaves nothing to fill
    in, so it makes a difference only once (`withDefaults_eq_self_iff`). Section by section, each
    reader reads the filled one as it reads the one that was there, and a missing one as an empty
    one. -/

namespace PluginFabric

/-! ### Sections -/

theorem Validation.geometry_filled (w : WindowConfig) :
    Validation.geometry w.filled = Validation.geometry w := by
  have hwidth : w.filled.widthMillis = some 0 ↔ w.widthMillis = some 0 := by
    rw [WindowConfig.filled]
    cases w.widthMillis <;> simp [defaultWindowWidth]
  have hfirst : w.filled.firstWindowMillis.any (· < 0) = w.firstWindowMillis.any (· < 0) := by
    rw [WindowConfig.filled]
    cases w.firstWindowMillis <;> rfl
  simp only [geometry, hwidth, hfirst]

theorem LogOptions.ofConfig_filled (l : LoggingConfig) : ofConfig l.filled = ofConfig l := rfl

namespace EngineConfig

variable {c d : EngineConfig}

/-- Every value that `c` gives is given by `d` too, and is the same there. -/
structure Keeps (c d : EngineConfig) : Prop where
  dagSetup : ∀ ids, c.plugins.map (·.dagSetup) = some ids → d.plugins.map (·.dagSetup) = some ids
  execution : ∀ ids, c.plugins.map (·.execution) = some ids → d.plugins.map (·.execution) = some ids
  widthMillis : ∀ n, c.window.bind (·.widthMillis) = some n → d.window.bind (·.widthMillis) = some n
  firstWindowMillis : ∀ n, c.window.bind (·.firstWindowMillis) = some n →
    d.window.bind (·.firstWindowMillis) = some n
  level : ∀ text, c.logging.bind (·.level) = some text → d.logging.bind (·.level) = some text
  dir : ∀ text, c.logging.bind (·.dir) = some text → d.logging.bind (·.dir) = some text
  json : ∀ b, c.logging.bind (·.json) = some b → d.logging.bind (·.json) = some b
  properties : ∀ key text, c.properties.get? key = some text → d.properties.get? key = some text

/-- Every section is there, and every value that has a default. -/
structure Complete (c : EngineConfig) : Prop where
  plugins : c.plugins.isSome
  widthMillis : (c.window.bind (·.widthMillis)).isSome
  firstWindowMillis : (c.window.bind (·.firstWindowMillis)).isSome
  level : (c.logging.bind (·.level)).isSome
  json : (c.logging.bind (·.json)).isSome

/-! ### Filling in -/

theorem window_withDefaults (c : EngineConfig) :
    c.withDefaults.window = some (c.window.getD {}).filled := rfl

theorem logging_withDefaults (c : EngineConfig) :
    c.withDefaults.logging = some (c.logging.getD {}).filled := rfl

theorem keeps_withDefaults (c : EngineConfig) : c.Keeps c.withDefaults := by
  obtain ⟨plugins, window, logging, properties⟩ := c
  constructor
  case dagSetup | execution => cases plugins <;> simp [withDefaults]
  case widthMillis | firstWindowMillis => cases window <;> simp +contextual [withDefaults, WindowConfig.filled]
  case level | dir | json =>
    cases logging <;> simp +contextual [withDefaults, LoggingConfig.filled]
  case properties => exact fun _ _ h => h

theorem complete_withDefaults (c : EngineConfig) : c.withDefaults.Complete := ⟨rfl, rfl, rfl, rfl, rfl⟩

/-- Nothing is filled in exactly where nothing is left out. -/
theorem withDefaults_eq_self_iff : c.withDefaults = c ↔ c.Complete := by
  refine ⟨fun h => h ▸ c.complete_withDefaults, fun h => ?_⟩
  obtain ⟨plugins, window, logging, properties⟩ := c
  obtain ⟨hplugins, hwidth, hfirst, hlevel, hjson⟩ := h
  obtain ⟨plugins, rfl⟩ := Option.isSome_iff_exists.1 hplugins
  cases window with
  | none => cases hwidth
  | some window =>
    cases logging with
    | none => cases hlevel
    | some logging =>
      obtain ⟨width, first⟩ := window
      obtain ⟨level, dir, json⟩ := logging
      obtain ⟨width, rfl⟩ := Option.isSome_iff_exists.1 hwidth
      obtain ⟨first, rfl⟩ := Option.isSome_iff_exists.1 hfirst
      obtain ⟨level, rfl⟩ := Option.isSome_iff_exists.1 hlevel
      obtain ⟨json, rfl⟩ := Option.isSome_iff_exists.1 hjson
      rfl

/-! ### Readers -/

theorem dagSetupPlugins_withDefaults (c : EngineConfig) :
    c.withDefaults.dagSetupPlugins = c.dagSetupPlugins := by
  rw [dagSetupPlugins, dagSetupPlugins, withDefaults]
  cases c.plugins <;> rfl

theorem executionPlugins_withDefaults (c : EngineConfig) :
    c.withDefaults.executionPlugins = c.executionPlugins := by
  rw [executionPlugins, executionPlugins, withDefaults]
  cases c.plugins <;> rfl

theorem windowClock_withDefaults (c : EngineConfig) : c.withDefaults.windowClock = c.windowClock := rfl

/-- A configuration is flattened from its lists of plugins, its clock and its properties. -/
theorem toConfiguration_congr (hsetup : c.dagSetupPlugins = d.dagSetupPlugins)
    (hexecution : c.executionPlugins = d.executionPlugins) (hclock : c.windowClock = d.windowClock)
    (hproperties : c.properties = d.properties) : c.toConfiguration = d.toConfiguration := by
  rw [toConfiguration, toConfiguration, hsetup, hexecution, hclock, hproperties]

theorem validate_withDefaults (c : EngineConfig) : c.withDefaults.validate = c.validate := by
  have hgeometry : (c.withDefaults.window.map Validation.geometry).getD {}
      = (c.window.map Validation.geometry).getD {} := by
    rw [window_withDefaults, Option.map_some, Option.getD_some, Validation.geometry_filled]
    cases c.window <;> rfl
  rw [validate, validate, dagSetupPlugins_withDefaults, executionPlugins_withDefaults, hgeometry]

/-- Filled in, a configuration keeps every value that it gives, and has nothing left to fill in. It
    lists the same plugins, has the same clock, is flattened into the same properties, is validated
    with the same errors and warnings, and is logged with the same options, where a missing section is
    read as an empty one. -/
theorem defaults_keep_meaning (c : EngineConfig) :
    let d := c.withDefaults
    c.Keeps d ∧ d.withDefaults = d ∧
    d.dagSetupPlugins = c.dagSetupPlugins ∧ d.executionPlugins = c.executionPlugins ∧
    d.windowClock = c.windowClock ∧ d.toConfiguration = c.toConfiguration ∧
    d.validate = c.validate ∧
    d.logging.map LogOptions.ofConfig = some (LogOptions.ofConfig (c.logging.getD {})) := by
  intro d
  refine ⟨c.keeps_withDefaults, withDefaults_eq_self_iff.2 c.complete_withDefaults,
    c.dagSetupPlugins_withDefaults, c.executionPlugins_withDefaults, c.windowClock_withDefaults,
    ?_, c.validate_withDefaults, ?_⟩
  · exact toConfiguration_congr c.dagSetupPlugins_withDefaults c.executionPlugins_withDefaults
      c.windowClock_withDefaults rfl
  · rw [logging_withDefaults, Option.map_some, LogOptions.ofConfig_filled]

end EngineConfig

end PluginFabric
