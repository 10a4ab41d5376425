import PluginFabric.Config.Engine
import PluginFabric.Proofs.Config.Substitution
import PluginFabric.Proofs.Json.Record

/-! A configuration as a tree.

    A written configuration lists its sections and their fields by name, holds exactly the texts of
    the configuration (`texts_encode`), and is read back as it was (`decode_encode`). Changing every
    text of the tree is changing every text of the configuration (`mapTexts_encode`). -/

namespace PluginFabric

open Reference (elementPath memberPath)

/-! ### Texts -/

/-- The texts of a list at a path, each at its index. -/
def numbered (path : String) (l : List String) : List (String × String) :=
  l.zipIdx.map fun p => (elementPath path p.2, p.1)

def LoggingConfig.texts (l : LoggingConfig) : List (String × String) :=
  l.dir.toList.map ("logging.dir", ·) ++ l.level.toList.map ("logging.level", ·)

def PluginsConfig.texts (p : PluginsConfig) : List (String × String) :=
  numbered "plugins.dagSetup" p.dagSetup ++ numbered "plugins.execution" p.execution

/-- The texts of a configuration with their paths: how to log, the plugins of both domains in their
    order, and the properties by name. -/
def EngineConfig.texts (c : EngineConfig) : List (String × String) :=
  c.logging.toList.flatMap LoggingConfig.texts ++ c.plugins.toList.flatMap PluginsConfig.texts ++
    c.properties.toList.map fun p => ("properties." ++ p.1, p.2)

section MapTexts

variable (f : String → String)

def LoggingConfig.mapTexts (l : LoggingConfig) : LoggingConfig :=
  { l with level := l.level.map f, dir := l.dir.map f }

def PluginsConfig.mapTexts (p : PluginsConfig) : PluginsConfig :=
  ⟨p.dagSetup.map f, p.execution.map f⟩

/-- The configuration with every text changed. -/
def EngineConfig.mapTexts (c : EngineConfig) : EngineConfig :=
  { c with
    logging := c.logging.map (LoggingConfig.mapTexts f)
    plugins := c.plugins.map (PluginsConfig.mapTexts f)
    properties := c.properties.mapValues f }

end MapTexts

/-! ### Members in order -/

section Order

open Json (optionalMember)

theorem PluginsConfig.encode_eq (p : PluginsConfig) : p.encode = .obj [
    ("dagSetup", .arr (p.dagSetup.map .str)), ("execution", .arr (p.execution.map .str))] := by
  have hkeys : compare "dagSetup" "execution" = .lt := by decide
  rw [encode, Json.object, SortedMap.toList_ofList (by simp [hkeys])]

theorem WindowConfig.encode_eq (w : WindowConfig) : w.encode = .obj (
    optionalMember "firstWindowMillis" .ofInt64 w.firstWindowMillis ++
    optionalMember "widthMillis" .ofUInt64 w.widthMillis) := by
  have hfirst : compare "firstWindowMillis" "widthMillis" = .lt := by decide
  obtain ⟨width, first⟩ := w
  cases width <;> cases first <;>
    simp [encode, Json.object_eq, optionalMember, SortedMap.insertPair, hfirst]

theorem LoggingConfig.encode_eq (l : LoggingConfig) : l.encode = .obj (
    optionalMember "dir" .str l.dir ++ (optionalMember "json" .bool l.json ++
    optionalMember "level" .str l.level)) := by
  have hdir : compare "dir" "level" = .lt := by decide
  have hjson : compare "json" "dir" = .gt := by decide
  have hlevel : compare "json" "level" = .lt := by decide
  obtain ⟨level, dir, json⟩ := l
  cases level <;> cases dir <;> cases json <;>
    simp [encode, Json.object_eq, optionalMember, SortedMap.insertPair, hdir, hjson, hlevel]

theorem EngineConfig.encode_eq (c : EngineConfig) : c.encode = .obj (
    optionalMember "logging" LoggingConfig.encode c.logging ++
    (optionalMember "plugins" PluginsConfig.encode c.plugins ++
    (("properties", .ofMap (c.properties.mapValues .str)) ::
    optionalMember "window" WindowConfig.encode c.window))) := by
  have hplugins : compare "window" "plugins" = .gt := by decide
  have hlogging : compare "logging" "plugins" = .lt := by decide
  have hwindow : compare "logging" "window" = .lt := by decide
  have hproperties : compare "properties" "logging" = .gt ∧ compare "properties" "plugins" = .gt ∧
      compare "properties" "window" = .lt := by decide
  obtain ⟨plugins, window, logging, properties⟩ := c
  cases plugins <;> cases window <;> cases logging <;>
    simp [encode, Json.object_eq, optionalMember, SortedMap.insertPair, hplugins, hlogging, hwindow,
      hproperties]

end Order

/-! ### Texts of what was written -/

section Texts

open Json

variable {α β : Type} (path : String) (f : String → String)

theorem textsOfMembers_append (ms ns : List (String × Json)) :
    textsOfMembers path (ms ++ ns) = textsOfMembers path ms ++ textsOfMembers path ns := by
  rw [textsOfMembers_eq, textsOfMembers_eq, textsOfMembers_eq, List.flatMap_append]

theorem textsOfMembers_optionalMember (name : String) (write : α → Json) (o : Option α) :
    textsOfMembers path (optionalMember name write o)
      = o.toList.flatMap fun a => (write a).texts (memberPath path name) := by
  rw [textsOfMembers_eq]
  cases o <;> rfl

theorem texts_strings (l : List String) : (Json.arr (l.map .str)).texts path = numbered path l := by
  rw [texts, textsOfElements_eq, List.zipIdx_map, List.flatMap_map]
  exact List.map_eq_flatMap.symm

theorem texts_strings_map (m : SortedMap String String) : (Json.ofMap (m.mapValues .str)).texts path
    = m.toList.map fun p => (memberPath path p.1, p.2) := by
  rw [ofMap, texts, textsOfMembers_eq]
  exact (List.flatMap_map ..).trans List.map_eq_flatMap.symm

end Texts

theorem PluginsConfig.texts_encode (p : PluginsConfig) : p.encode.texts "plugins" = p.texts := by
  rw [encode_eq, Json.texts, Json.textsOfMembers, Json.textsOfMembers, Json.textsOfMembers,
    texts_strings, texts_strings, List.append_nil]
  rfl

theorem LoggingConfig.texts_encode (l : LoggingConfig) : l.encode.texts "logging" = l.texts := by
  obtain ⟨level, dir, json⟩ := l
  rw [encode_eq]
  cases level <;> cases dir <;> cases json <;> rfl

/-- There is no text in the windows' geometry. -/
theorem WindowConfig.texts_encode (w : WindowConfig) (path : String) : w.encode.texts path = [] := by
  obtain ⟨width, first⟩ := w
  rw [encode_eq]
  cases width <;> cases first <;> rfl

/-- A written configuration holds the texts of the configuration, in their order. -/
theorem EngineConfig.texts_encode (c : EngineConfig) : c.encode.texts "" = c.texts := by
  have top : ∀ name, memberPath "" name = name := fun _ => rfl
  have property : ∀ name, memberPath "properties" name = "properties." ++ name := fun _ => rfl
  rw [encode_eq, Json.texts, textsOfMembers_append, textsOfMembers_append, Json.textsOfMembers,
    textsOfMembers_optionalMember, textsOfMembers_optionalMember, textsOfMembers_optionalMember]
  simp only [top, LoggingConfig.texts_encode, PluginsConfig.texts_encode, WindowConfig.texts_encode,
    texts_strings_map, property]
  simp [EngineConfig.texts]

/-! ### Changing every text -/

section MapTexts

open Json

variable (f : String → String)

theorem mapTexts_strings (l : List String) :
    (Json.arr (l.map .str)).mapTexts f = .arr ((l.map f).map .str) := by
  simp [Json.mapTexts, mapTextsOfElements_eq]

theorem mapTexts_strings_map (m : SortedMap String String) :
    (Json.ofMap (m.mapValues .str)).mapTexts f = .ofMap ((m.mapValues f).mapValues .str) := by
  simp [ofMap, Json.mapTexts, mapTextsOfMembers_eq, SortedMap.mapValues, SortedMap.mapPairs]

theorem mapTexts_optionalMember {α : Type} {write : α → Json} {g : α → α}
    (h : ∀ a, (write a).mapTexts f = write (g a)) (name : String) (o : Option α) :
    (optionalMember name write o).map (fun m => (m.1, m.2.mapTexts f))
      = optionalMember name write (o.map g) := by
  cases o with
  | none => rfl
  | some a => simp [optionalMember, h]

theorem PluginsConfig.mapTexts_encode (p : PluginsConfig) :
    p.encode.mapTexts f = (p.mapTexts f).encode := by
  rw [encode_eq, encode_eq, Json.mapTexts, mapTextsOfMembers, mapTextsOfMembers, mapTextsOfMembers,
    mapTexts_strings, mapTexts_strings]
  rfl

theorem LoggingConfig.mapTexts_encode (l : LoggingConfig) :
    l.encode.mapTexts f = (l.mapTexts f).encode := by
  obtain ⟨level, dir, json⟩ := l
  rw [encode_eq, encode_eq]
  cases level <;> cases dir <;> cases json <;> rfl

theorem WindowConfig.mapTexts_encode (w : WindowConfig) : w.encode.mapTexts f = w.encode := by
  obtain ⟨width, first⟩ := w
  rw [encode_eq]
  cases width <;> cases first <;> rfl

/-- To change every text of a written configuration is to change every text of the configuration. -/
theorem EngineConfig.mapTexts_encode (c : EngineConfig) :
    c.encode.mapTexts f = (c.mapTexts f).encode := by
  have hwindow :=
    mapTexts_optionalMember f (g := id) (WindowConfig.mapTexts_encode f) "window" c.window
  rw [Option.map_id_fun, id] at hwindow
  rw [encode_eq, encode_eq, Json.mapTexts, mapTextsOfMembers_eq, List.map_append, List.map_append,
    List.map_cons, hwindow, mapTexts_optionalMember f (LoggingConfig.mapTexts_encode f),
    mapTexts_optionalMember f (PluginsConfig.mapTexts_encode f), mapTexts_strings_map]
  rfl

end MapTexts

/-! ### Reading it back -/

section Decode

open Json

theorem PluginsConfig.decode_encode (p : PluginsConfig) : decode p.encode = some p := by
  have hstrings : ∀ l : List String, listOf? text? (.arr (l.map .str)) = some l :=
    listOf?_map text?_str
  rw [decode, encode, source?_object, Option.bind_eq_bind, Option.bind_some,
    defaulted_written 0 (a := p.dagSetup) (by simp) (hstrings _),
    defaulted_written 1 (a := p.execution) (by simp) (hstrings _)]
  rfl

theorem WindowConfig.decode_encode (w : WindowConfig) : decode w.encode = some w := by
  rw [decode, encode, source?_object, Option.bind_eq_bind, Option.bind_some,
    defaulted_optional 0 (o := w.widthMillis) (by simp)
      fun n => nullable?_of_ne_null (by simp [ofUInt64]) (uint64?_ofUInt64 n),
    defaulted_optional 1 (o := w.firstWindowMillis) (by simp)
      fun n => nullable?_of_ne_null (by simp [ofInt64]) (int64?_ofInt64 n)]
  rfl

theorem LoggingConfig.decode_encode (l : LoggingConfig) : decode l.encode = some l := by
  rw [decode, encode, source?_object, Option.bind_eq_bind, Option.bind_some,
    defaulted_optional 0 (o := l.level) (by simp) nullable?_text,
    defaulted_optional 1 (o := l.dir) (by simp) nullable?_text,
    defaulted_optional 2 (o := l.json) (by simp) nullable?_bool]
  rfl

/-- A configuration that was written is read back. -/
theorem EngineConfig.decode_encode (c : EngineConfig) : decode c.encode = some c := by
  have hproperties : mapOf? text? (.ofMap (c.properties.mapValues .str)) = some c.properties :=
    mapOf?_mapValues text?_str _
  rw [decode, encode, source?_object, Option.bind_eq_bind, Option.bind_some,
    defaulted_optional 0 (o := c.plugins) (by simp)
      fun p => nullable?_of_ne_null (by simp [PluginsConfig.encode_eq]) p.decode_encode,
    defaulted_optional 1 (o := c.window) (by simp)
      fun w => nullable?_of_ne_null (by simp [WindowConfig.encode_eq]) w.decode_encode,
    defaulted_optional 2 (o := c.logging) (by simp)
      fun l => nullable?_of_ne_null (by simp [LoggingConfig.encode_eq]) l.decode_encode,
    defaulted_written 3 (a := c.properties) (by simp) hproperties]
  rfl

end Decode

end PluginFabric
