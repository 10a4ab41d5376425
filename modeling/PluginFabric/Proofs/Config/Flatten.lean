import PluginFabric.Config.Engine

/-! Flattening a configuration into properties.

    The free-form properties can all be written, as none is final before the four well-known ones
    are; and each of these takes the place of a free-form property of its name
    (`toConfiguration_eq`). -/

namespace PluginFabric

namespace Configuration

/-- Properties that may be written again, none of them described. -/
def ofMap (m : SortedMap String String) : Configuration := ⟨m.mapValues fun value => { value }⟩

/-- The configuration with a property written for good in place of the one that may have been there. -/
def withFinal (c : Configuration) (key value : String) : Configuration :=
  ⟨c.entries.insert key { value, isFinal := true }⟩

/-- A key that is missing, or may be written and has no description. -/
def Plain (c : Configuration) (key : String) : Prop := ∀ e ∈ c.entry? key, e = { value := e.value }

theorem entry?_ofMap (m : SortedMap String String) (key : String) :
    entry? (ofMap m) key = (m.get? key).map fun value => { value } := SortedMap.get?_mapValues ..

theorem entry?_withFinal (c : Configuration) (key value key' : String) :
    entry? (c.withFinal key value) key'
      = if key' = key then some { value, isFinal := true } else c.entry? key' :=
  SortedMap.get?_insert ..

theorem plain_ofMap (m : SortedMap String String) (key : String) : (ofMap m).Plain key := by
  intro e he
  rw [entry?_ofMap] at he
  obtain ⟨value, -, rfl⟩ := Option.map_eq_some_iff.1 he
  rfl

theorem Plain.withFinal {c : Configuration} {key key' : String} (h : c.Plain key) (hne : key ≠ key')
    (value : String) : (c.withFinal key' value).Plain key := by
  intro e he
  rw [entry?_withFinal, if_neg hne] at he
  exact h e he

theorem Plain.put {c : Configuration} {key : String} (h : c.Plain key) (value : String)
    (isFinal : Bool) :
    c.put key value isFinal = .ok ⟨c.entries.insert key { value, isFinal }⟩ := by
  rw [Configuration.put]
  cases hold : c.entry? key with
  | none => rfl
  | some old =>
    rw [h old hold]
    rfl

theorem Plain.setFinal {c : Configuration} {key : String} (h : c.Plain key) (value : String) :
    c.setFinal key value = .ok (c.withFinal key value) := h.put value true

theorem set_ofMap (m : SortedMap String String) (key value : String) :
    (ofMap m).set key value = .ok (ofMap (m.insert key value)) := by
  have hentries : (ofMap m).entries.insert key { value } = (ofMap (m.insert key value)).entries := by
    refine SortedMap.ext_get? fun key' => ?_
    simp only [ofMap, SortedMap.get?_insert, SortedMap.get?_mapValues]
    split <;> rfl
  rw [set, (plain_ofMap m key).put, hentries]

/-- Writing pairs one after the other makes the configuration of their map. -/
theorem foldlM_set (l : List (String × String)) (m : SortedMap String String) :
    l.foldlM (fun c p => c.set p.1 p.2) (ofMap m)
      = .ok (ofMap (l.foldl (fun m p => m.insert p.1 p.2) m)) := by
  induction l generalizing m with
  | nil => rfl
  | cons p l ih =>
    rw [List.foldlM_cons, set_ofMap]
    exact ih _

/-- The configuration with several properties written for good. -/
def withFinals (c : Configuration) (l : List (String × String)) : Configuration :=
  l.foldl (fun c p => c.withFinal p.1 p.2) c

theorem foldlM_setFinal {l : List (String × String)} (distinct : (l.map (·.1)).Nodup)
    {c : Configuration} (plain : ∀ p ∈ l, c.Plain p.1) :
    l.foldlM (fun c p => c.setFinal p.1 p.2) c = .ok (c.withFinals l) := by
  induction l generalizing c with
  | nil => rfl
  | cons p l ih =>
    obtain ⟨hp, hl⟩ := List.nodup_cons.1 distinct
    rw [List.foldlM_cons, (plain p List.mem_cons_self).setFinal]
    refine ih hl fun q hq => (plain q (List.mem_cons_of_mem _ hq)).withFinal (fun hqp => hp ?_) p.2
    exact List.mem_map.2 ⟨q, hq, hqp⟩

/-- A property that is not among those written for good is as it was. -/
theorem entry?_withFinals_of_notMem {l : List (String × String)} {key : String}
    (h : key ∉ l.map (·.1)) (c : Configuration) : entry? (c.withFinals l) key = c.entry? key := by
  induction l generalizing c with
  | nil => rfl
  | cons p l ih =>
    obtain ⟨hne, hl⟩ := not_or.1 (mt List.mem_cons.2 h)
    exact (ih hl _).trans ((entry?_withFinal c p.1 p.2 key).trans (if_neg hne))

theorem entry?_withFinals {l : List (String × String)} (distinct : (l.map (·.1)).Nodup)
    {p : String × String} (hp : p ∈ l) (c : Configuration) :
    entry? (c.withFinals l) p.1 = some { value := p.2, isFinal := true } := by
  induction l generalizing c with
  | nil => cases hp
  | cons q l ih =>
    obtain ⟨hq, hl⟩ := List.nodup_cons.1 distinct
    rcases List.mem_cons.1 hp with rfl | hp
    · exact (entry?_withFinals_of_notMem hq _).trans ((entry?_withFinal c ..).trans (if_pos rfl))
    · exact ih hl hp _

end Configuration

namespace EngineConfig

open PluginFabric.Configuration

/-- The four well-known properties. -/
def wellKnown (c : EngineConfig) : List (String × String) := [
  (dagSetupKey, Text.joinItems c.dagSetupPlugins),
  (executionKey, Text.joinItems c.executionPlugins),
  (windowWidthKey, toString c.windowClock.windowWidth.toNat),
  (firstWindowKey, toString c.windowClock.firstWindow.toInt)]

/-- The names of the well-known properties. -/
def wellKnownKeys : List String := [dagSetupKey, executionKey, windowWidthKey, firstWindowKey]

/-- The properties that plugins receive: the free-form ones, and the well-known ones in place of any
    free-form ones of their names. -/
def flattened (c : EngineConfig) : Configuration := (ofMap c.properties).withFinals c.wellKnown

theorem nodup_wellKnown (c : EngineConfig) : (c.wellKnown.map (·.1)).Nodup := by
  have hkeys : [dagSetupKey, executionKey, windowWidthKey, firstWindowKey].Nodup := by decide
  exact hkeys

/-- Every configuration can be flattened, whatever its free-form properties are. -/
theorem toConfiguration_eq (c : EngineConfig) : c.toConfiguration = .ok c.flattened := by
  have hfree : c.properties.toList.foldlM (fun conf p => conf.set p.1 p.2) Configuration.empty
      = .ok (ofMap c.properties) :=
    (foldlM_set c.properties.toList ∅).trans
      (congrArg (fun m => Except.ok (ofMap m)) (SortedMap.ofList_toList c.properties))
  -- no free-form property is final, whatever its name
  have hfinal := foldlM_setFinal c.nodup_wellKnown fun p _ => plain_ofMap c.properties p.1
  simp only [wellKnown, List.foldlM_cons, List.foldlM_nil, bind_pure] at hfinal
  rw [toConfiguration, hfree]
  exact hfinal

/-- A well-known property is final, whatever free-form property has its name. -/
theorem entry?_flattened_wellKnown (c : EngineConfig) {p : String × String} (hp : p ∈ c.wellKnown) :
    c.flattened.entry? p.1 = some { value := p.2, isFinal := true } :=
  entry?_withFinals c.nodup_wellKnown hp _

theorem get?_flattened_wellKnown (c : EngineConfig) {p : String × String} (hp : p ∈ c.wellKnown) :
    c.flattened.get? p.1 = some p.2 := by
  rw [get?, c.entry?_flattened_wellKnown hp, Option.map_some]

/-- The properties list the plugins of the configuration. -/
theorem getList_flattened (c : EngineConfig) :
    c.flattened.getList dagSetupKey = Text.items (Text.joinItems c.dagSetupPlugins) ∧
      c.flattened.getList executionKey = Text.items (Text.joinItems c.executionPlugins) := by
  have listed : ∀ p ∈ c.wellKnown, c.flattened.getList p.1 = Text.items p.2 := by
    intro p hp
    rw [getList, c.get?_flattened_wellKnown hp, Option.map_some, Option.getD_some]
  exact ⟨listed _ List.mem_cons_self, listed _ (List.mem_cons_of_mem _ List.mem_cons_self)⟩

/-- Every other property is the free-form one. -/
theorem entry?_flattened_free (c : EngineConfig) {key : String} (h : key ∉ wellKnownKeys) :
    c.flattened.entry? key = (c.properties.get? key).map fun value => { value } :=
  (entry?_withFinals_of_notMem h _).trans (entry?_ofMap c.properties key)

theorem mem_wellKnownKeys (c : EngineConfig) {key : String} :
    key ∈ wellKnownKeys ↔ ∃ value, (key, value) ∈ c.wellKnown := by
  have hkeys : wellKnownKeys = c.wellKnown.map (·.1) := rfl
  simp [hkeys]

theorem mem_keys_flattened (c : EngineConfig) (key : String) :
    key ∈ c.flattened.entries.keys ↔ key ∈ c.properties.keys ∨ key ∈ wellKnownKeys := by
  rw [SortedMap.mem_keys, SortedMap.mem_keys]
  by_cases hkey : key ∈ wellKnownKeys
  · obtain ⟨value, hp⟩ := c.mem_wellKnownKeys.1 hkey
    have hentry : c.flattened.entries.get? key = some { value, isFinal := true } :=
      c.entry?_flattened_wellKnown hp
    simp [hentry, hkey]
  · have hentry : c.flattened.entries.get? key = (c.properties.get? key).map fun value => { value } :=
      c.entry?_flattened_free hkey
    simp [hentry, hkey]

theorem description_flattened (c : EngineConfig) {key : String} {e : PropertyEntry}
    (h : c.flattened.entry? key = some e) : e.description = none := by
  by_cases hkey : key ∈ wellKnownKeys
  · obtain ⟨value, hp⟩ := c.mem_wellKnownKeys.1 hkey
    rw [c.entry?_flattened_wellKnown hp] at h
    cases h
    rfl
  · rw [c.entry?_flattened_free hkey] at h
    obtain ⟨value, -, rfl⟩ := Option.map_eq_some_iff.1 h
    rfl

/-- Whatever the free-form properties are, also where they have well-known names, a configuration is
    flattened, into these properties and no others: the four well-known ones, which are final, and the
    free-form ones of other names, which are not. None is described. -/
theorem flattened_exactly (c : EngineConfig) : ∃ conf, c.toConfiguration = .ok conf ∧
    (∀ key, key ∈ conf.entries.keys ↔ key ∈ c.properties.keys ∨
      key ∈ [dagSetupKey, executionKey, windowWidthKey, firstWindowKey]) ∧
    conf.entry? dagSetupKey = some
      { value := Text.joinItems c.dagSetupPlugins, isFinal := true } ∧
    conf.entry? executionKey = some
      { value := Text.joinItems c.executionPlugins, isFinal := true } ∧
    conf.entry? windowWidthKey = some
      { value := toString c.windowClock.windowWidth.toNat, isFinal := true } ∧
    conf.entry? firstWindowKey = some
      { value := toString c.windowClock.firstWindow.toInt, isFinal := true } ∧
    (∀ key, key ∉ [dagSetupKey, executionKey, windowWidthKey, firstWindowKey] →
      conf.entry? key = (c.properties.get? key).map fun value => { value, isFinal := false }) ∧
    ∀ key e, conf.entry? key = some e → e.description = none := by
  have hwellKnown : ∀ p ∈ c.wellKnown,
      c.flattened.entry? p.1 = some { value := p.2, isFinal := true } :=
    fun p hp => c.entry?_flattened_wellKnown hp
  simp only [wellKnown, List.forall_mem_cons] at hwellKnown
  obtain ⟨hsetup, hexecution, hwidth, hfirst, -⟩ := hwellKnown
  exact ⟨c.flattened, c.toConfiguration_eq, c.mem_keys_flattened, hsetup, hexecution, hwidth, hfirst,
    fun key hkey => c.entry?_flattened_free hkey, fun key e h => c.description_flattened h⟩

end EngineConfig

end PluginFabric
