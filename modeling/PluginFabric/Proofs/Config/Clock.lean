import PluginFabric.Execution.Environment
import PluginFabric.Proofs.Config.Flatten
import PluginFabric.Proofs.Config.Validation
import PluginFabric.Proofs.Text.Items
import PluginFabric.Proofs.Text.Numeral

/-! The engine and its plugins share one clock.

    The engine takes the geometry of its windows from its configuration, the plugins take it from the
    properties that they were launched with. On the way it becomes decimal text and is read again,
    which gives every number of 64 bits back; and the two properties are written behind the free-form
    ones, so that none of these stands in their place. -/

namespace PluginFabric

namespace Configuration

variable {α : Type} {conf : Configuration} {key : String} {expected : ValueKind}
  {parse : List Char → Option α} {a : α}

/-- The property is there, and its value, blanks around it aside, is read as `a`. -/
def Holds (conf : Configuration) (key : String) (parse : List Char → Option α) (a : α) : Prop :=
  ∃ raw, conf.get? key = some raw ∧ parse (Text.trim raw.toList) = some a

/-- A value is found where the property holds it. -/
theorem found_read_eq_some_iff :
    Environment.found (conf.read key expected parse) = some a ↔ conf.Holds key parse a := by
  rw [read, Holds]
  cases conf.get? key with
  | none => simp [Environment.found]
  | some raw =>
    dsimp only
    cases hparse : parse (Text.trim raw.toList) <;> simp [Environment.found, hparse]

theorem found_read_eq_none (h : ¬ ∃ a, conf.Holds key parse a) :
    Environment.found (conf.read key expected parse) = none := by
  refine Option.eq_none_iff_forall_ne_some.2 fun a ha => ?_
  exact h ⟨a, found_read_eq_some_iff.1 ha⟩

/-- A property holds what its text is read as, if the text has no blanks. -/
theorem holds_of_get? {text : String} (h : conf.get? key = some text)
    (solid : ∀ c ∈ text.toList, Text.isBlank c = false) (read_back : parse text.toList = some a) :
    conf.Holds key parse a :=
  ⟨text, h, by rw [Text.trim_of_not_isBlank solid, read_back]⟩

end Configuration

open EngineConfig (firstWindowKey windowWidthKey)

namespace Environment

variable {conf : Configuration}

/-! ### The clock that is read -/

theorem firstWindow_clockOf {n : Int} (h : conf.Holds firstWindowKey Text.signed64? n) :
    (clockOf conf).firstWindow.toInt = n := by
  have hfound : found (conf.getInteger firstWindowKey) = some n :=
    Configuration.found_read_eq_some_iff.2 h
  obtain ⟨raw, -, hparse⟩ := h
  obtain ⟨hmin, hmax⟩ := Text.bounds_of_signed64? hparse
  have hlow : -2 ^ 63 ≤ n := hmin
  have hhigh : n < 2 ^ 63 := Int.lt_add_one_of_le hmax
  rw [clockOf, hfound, Option.map_some, Option.getD_some, Int64.toInt_ofInt_of_le hlow hhigh]

theorem firstWindow_clockOf_default (h : ¬ ∃ n, conf.Holds firstWindowKey Text.signed64? n) :
    (clockOf conf).firstWindow = defaultFirstWindow := by
  have hfound : found (conf.getInteger firstWindowKey) = none := Configuration.found_read_eq_none h
  rw [clockOf, hfound, Option.map_none, Option.getD_none]

theorem windowWidth_clockOf {n : Nat} (h : conf.Holds windowWidthKey Text.unsigned64? n)
    (hpos : 0 < n) : (clockOf conf).windowWidth.toNat = n := by
  have hfound : (found (conf.getUnsigned windowWidthKey)).filter (0 < ·) = some n :=
    Option.filter_eq_some_iff.2
      ⟨Configuration.found_read_eq_some_iff.2 h, decide_eq_true hpos⟩
  obtain ⟨raw, -, hparse⟩ := h
  have hlt := Text.lt_of_unsigned64? hparse
  rw [clockOf, hfound, Option.map_some, Option.getD_some, UInt64.toNat_ofNat_of_lt' hlt]

theorem windowWidth_clockOf_default
    (h : ¬ ∃ n, conf.Holds windowWidthKey Text.unsigned64? n ∧ 0 < n) :
    (clockOf conf).windowWidth = defaultWindowWidth := by
  have hfound : (found (conf.getUnsigned windowWidthKey)).filter (0 < ·) = none := by
    refine Option.eq_none_iff_forall_ne_some.2 fun n hn => ?_
    obtain ⟨hread, hpos⟩ := Option.filter_eq_some_iff.1 hn
    exact h ⟨n, Configuration.found_read_eq_some_iff.1 hread, of_decide_eq_true hpos⟩
  rw [clockOf, hfound, Option.map_none, Option.getD_none]

end Environment

/-! ### The clock that is written -/

namespace EngineConfig

variable {c : EngineConfig}

theorem holds_firstWindow (c : EngineConfig) :
    c.flattened.Holds firstWindowKey Text.signed64? c.windowClock.firstWindow.toInt := by
  have hmem : (firstWindowKey, toString c.windowClock.firstWindow.toInt) ∈ c.wellKnown :=
    .tail _ (.tail _ (.tail _ (.head _)))
  have hread := Text.signed64?_toString c.windowClock.firstWindow.minValue_le_toInt
    c.windowClock.firstWindow.toInt_le
  exact Configuration.holds_of_get? (c.get?_flattened_wellKnown hmem) Text.isBlank_of_mem_toString hread

theorem holds_windowWidth (c : EngineConfig) :
    c.flattened.Holds windowWidthKey Text.unsigned64? c.windowClock.windowWidth.toNat := by
  have hmem : (windowWidthKey, toString c.windowClock.windowWidth.toNat) ∈ c.wellKnown :=
    .tail _ (.tail _ (.head _))
  have hread := Text.unsigned64?_toString c.windowClock.windowWidth.toNat_lt
  -- the decimal text of a natural number is that of the integer
  have solid : ∀ d ∈ (toString (c.windowClock.windowWidth.toNat : Int)).toList,
      Text.isBlank d = false := Text.isBlank_of_mem_toString
  exact Configuration.holds_of_get? (c.get?_flattened_wellKnown hmem) solid hread

theorem windowWidth_pos (h : c.window.bind (·.widthMillis) ≠ some 0) :
    0 < c.windowClock.windowWidth.toNat := by
  have hne : c.windowClock.windowWidth ≠ 0 := by
    rw [windowClock]
    dsimp only
    cases hwindow : c.window with
    | none => decide
    | some window =>
      rw [hwindow] at h
      cases hwidth : window.widthMillis with
      | none => simp [hwidth, defaultWindowWidth]
      | some width => simpa [hwidth] using h
  exact Nat.pos_of_ne_zero fun hzero => hne (UInt64.toNat_inj.1 hzero)

/-- Plugins read the clock that the engine has. -/
theorem clockOf_flattened (h : c.window.bind (·.widthMillis) ≠ some 0) :
    Environment.clockOf c.flattened = c.windowClock := by
  have hfirst := Environment.firstWindow_clockOf c.holds_firstWindow
  have hwidth := Environment.windowWidth_clockOf c.holds_windowWidth (windowWidth_pos h)
  rw [WindowClock.mk.injEq]
  exact ⟨Int64.toInt_inj.1 hfirst, UInt64.toNat_inj.1 hwidth⟩

end EngineConfig

/-- The engine and its plugins map every window to the same time, as long as a window has some width,
    which a configuration that is prepared makes sure of. Of the properties that plugins read the
    clock from, each decides about its own part only: what it holds is taken, the width only if it is
    positive, and the default otherwise. -/
theorem clock_shared :
    (∀ c : EngineConfig, c.window.bind (·.widthMillis) ≠ some 0 →
      ∃ conf, c.toConfiguration = .ok conf ∧ ∀ (δ : Type) (dag : δ) (window : WindowId),
        (Environment.ofLaunch dag conf).millisOf window = c.windowClock.toMillis window) ∧
    (∀ env (raw c : EngineConfig), raw.prepare env = .ok c →
      c.window.bind (·.widthMillis) ≠ some 0) ∧
    ∀ (conf : Configuration) (δ : Type) (dag : δ),
      let clock := (Environment.ofLaunch dag conf).clock
      (∀ n, conf.Holds firstWindowKey Text.signed64? n → clock.firstWindow.toInt = n) ∧
      ((¬ ∃ n, conf.Holds firstWindowKey Text.signed64? n) →
        clock.firstWindow = defaultFirstWindow) ∧
      (∀ n, conf.Holds windowWidthKey Text.unsigned64? n → 0 < n → clock.windowWidth.toNat = n) ∧
      ((¬ ∃ n, conf.Holds windowWidthKey Text.unsigned64? n ∧ 0 < n) →
        clock.windowWidth = defaultWindowWidth) := by
  refine ⟨fun c h => ⟨c.flattened, c.toConfiguration_eq, fun δ dag window => ?_⟩,
    fun env raw c prepared => ?_, fun conf δ dag => ⟨?_, ?_, ?_, ?_⟩⟩
  · have hclock : (Environment.ofLaunch dag c.flattened).clock = c.windowClock :=
      EngineConfig.clockOf_flattened h
    rw [Environment.millisOf, hclock]
  · exact EngineConfig.width_of_validate (EngineConfig.errors_of_prepare prepared)
  · exact fun n h => Environment.firstWindow_clockOf h
  · exact fun h => Environment.firstWindow_clockOf_default h
  · exact fun n h hpos => Environment.windowWidth_clockOf h hpos
  · exact fun h => Environment.windowWidth_clockOf_default h

/-- The width is the largest there is, the first window the earliest, and free-form properties have the
    names of the two that hold them. -/
theorem clock_shared_extreme :
    let c : EngineConfig :=
      { window := some
          { widthMillis := some 18446744073709551615, firstWindowMillis := some Int64.minValue }
        properties := .ofList [(windowWidthKey, "1"), (firstWindowKey, "0")] }
    c.window.bind (·.widthMillis) ≠ some 0 ∧ ∃ conf, c.toConfiguration = .ok conf ∧
      (Environment.ofLaunch () conf).millisOf ⟨1⟩ = Int64.maxValue := by
  intro c
  have hwidth : c.window.bind (·.widthMillis) ≠ some 0 := by decide
  obtain ⟨conf, hconf, hmillis⟩ := clock_shared.1 c hwidth
  refine ⟨hwidth, conf, hconf, (hmillis Unit () ⟨1⟩).trans ?_⟩
  decide +kernel

end PluginFabric
