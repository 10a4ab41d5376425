import PluginFabric.Proofs.Config.Prepare
import PluginFabric.Proofs.Text.Items

/-! What validation finds, and what it makes sure of.

    The identifiers of a list are gone through one after the other, with those that were seen; what is
    told of each of them depends on the identifiers before it and on nothing else
    (`identifiersFrom_eq`). So the errors and the warnings of a list can be read off its positions one
    by one. Where there is no error, the identifiers can be told from others, and a list of them is read
    back from its text. -/

namespace PluginFabric

open Reference (elementPath)

/-- An identifier that can be told from others in a list: not blank, and without a separator. -/
def Identifies (id : String) : Prop := Text.allBlank id = false ∧ Text.itemSeparator ∉ id.toList

namespace Validation

/-- What is wrong with an identifier: it is nothing but blanks, or else it has a separator in it. -/
def fault? (id : String) : Option String :=
  if Text.trimmed id = "" then some blankIdentifier
  else if Text.itemSeparator ∈ id.toList then some separatorInIdentifier
  else none

/-- What is worth a look about an identifier behind others: it is not blank, and one of them is the same
    but for blanks around it. -/
def repetition? (earlier : List String) (id : String) : Option String :=
  if Text.trimmed id ≠ "" ∧ ∃ other ∈ earlier, Text.trimmed other = Text.trimmed id then
    some (repeatedIdentifier id)
  else none

/-- The issues of a list, position by position: at most one of each, as `tell` has it from the
    identifiers before the position and the one there. -/
def told (path : String) (tell : List String → String → Option String) (ids : List String) :
    List ConfigIssue :=
  ids.zipIdx.filterMap fun p =>
    (tell (ids.take p.2) p.1).map fun message => ⟨elementPath path p.2, message⟩

/-- The issues of the positions of `rest` behind `before`. -/
def toldBehind (path : String) (tell : List String → String → Option String)
    (before rest : List String) : List ConfigIssue :=
  (rest.zipIdx before.length).filterMap fun p =>
    (tell ((before ++ rest).take p.2) p.1).map fun message => ⟨elementPath path p.2, message⟩

section Lists

variable {path : String} {tell : List String → String → Option String}

theorem toldBehind_cons (before : List String) (id : String) (rest : List String) :
    toldBehind path tell before (id :: rest)
      = ((tell before id).map fun message =>
          (⟨elementPath path before.length, message⟩ : ConfigIssue)).toList
        ++ toldBehind path tell (before ++ [id]) rest := by
  have hsplit : before ++ id :: rest = before ++ [id] ++ rest := by simp
  rw [toldBehind, List.zipIdx_cons, List.filterMap_cons, List.take_left' rfl, hsplit, toldBehind,
    List.length_append, List.length_singleton]
  cases tell before id <;> rfl

/-- The keys that were seen are those of the identifiers before, but for blank ones, which are passed
    over. -/
def Seen (before seen : List String) : Prop :=
  ∀ key, key ∈ seen ↔ key ≠ "" ∧ ∃ id ∈ before, Text.trimmed id = key

theorem seen_nil : Seen [] [] := fun key => by simp

theorem Seen.blank {before seen : List String} (h : Seen before seen) {id : String}
    (hid : Text.trimmed id = "") : Seen (before ++ [id]) seen := by
  intro key
  rw [h key]
  refine and_congr_right fun hkey => ?_
  have hne : Text.trimmed id ≠ key := hid ▸ Ne.symm hkey
  simp [or_and_right, exists_or, hne]

theorem Seen.identifier {before seen : List String} (h : Seen before seen) {id : String}
    (hid : Text.trimmed id ≠ "") : Seen (before ++ [id]) (Text.trimmed id :: seen) := by
  intro key
  rw [List.mem_cons, h key]
  by_cases hkey : key = Text.trimmed id
  · subst hkey
    simp [hid]
  · simp [hkey, or_and_right, exists_or, Ne.symm hkey]

/-- Going through a list with what was seen tells of each position what there is to tell. By induction
    along the list, with `Seen` kept at each step. -/
theorem identifiersFrom_eq {before seen : List String} (hseen : Seen before seen)
    (rest : List String) : identifiersFrom path before.length seen rest
      = ⟨toldBehind path (fun _ => fault?) before rest, toldBehind path repetition? before rest⟩ := by
  induction rest generalizing before seen with
  | nil => rfl
  | cons id rest ih =>
    have hlength : before.length + 1 = (before ++ [id]).length := by simp
    rw [identifiersFrom, toldBehind_cons, toldBehind_cons, hlength]
    by_cases hblank : Text.trimmed id = ""
    · rw [if_pos (Text.trimmed_eq_empty_iff.1 hblank), ih (hseen.blank hblank), fault?, repetition?,
        if_pos hblank, if_neg fun h => h.1 hblank]
      rfl
    · -- also an identifier with a separator in it is seen from here on
      have hrepeated : seen.contains (Text.trimmed id) = true ↔
          Text.trimmed id ≠ "" ∧ ∃ other ∈ before, Text.trimmed other = Text.trimmed id := by
        rw [List.contains_iff_mem, hseen]
      rw [if_neg (mt Text.trimmed_eq_empty_iff.2 hblank)]
      dsimp only
      rw [ih (hseen.identifier hblank), fault?, repetition?, if_neg hblank]
      simp only [hrepeated, List.contains_iff_mem]
      split <;> split <;> rfl

theorem identifiers_eq (path : String) (ids : List String) :
    identifiers path ids = ⟨told path (fun _ => fault?) ids, told path repetition? ids⟩ :=
  identifiersFrom_eq seen_nil ids

theorem fault?_eq_none_iff {id : String} : fault? id = none ↔ Identifies id := by
  rw [fault?, Identifies, ← Bool.not_eq_true, ← Text.trimmed_eq_empty_iff]
  split <;> simp [*]

/-- Of no position anything is told exactly if there is nothing to tell of any of them. -/
theorem told_eq_nil_iff {ids : List String} {tell : String → Option String} :
    told path (fun _ => tell) ids = [] ↔ ∀ id ∈ ids, tell id = none := by
  rw [told, List.filterMap_eq_nil_iff]
  simp only [Option.map_eq_none_iff]
  conv_rhs => rw [← List.zipIdx_map_fst 0 ids, List.forall_mem_map]

/-- The places of what is told are among those of the list, in their order. -/
theorem paths_told_sublist (path : String) (tell : List String → String → Option String)
    (ids : List String) :
    ((told path tell ids).map (·.path)).Sublist ((numbered path ids).map (·.1)) := by
  rw [told, numbered, List.map_map]
  induction ids.zipIdx with
  | nil => exact .slnil
  | cons p ps ih =>
    rw [List.filterMap_cons, List.map_cons]
    cases tell (ids.take p.2) p.1 with
    | none => exact ih.cons _
    | some message => exact ih.cons_cons _

end Lists

/-! ### Lists that are read back -/

section Apart

variable {ids : List String} (h : ∀ id ∈ ids, Identifies id)

include h

theorem filter_trimmed_of_identifies :
    (ids.map Text.trimmed).filter (· ≠ "") = ids.map Text.trimmed := by
  refine List.filter_eq_self.2 fun s hs => ?_
  obtain ⟨id, hid, rfl⟩ := List.mem_map.1 hs
  have hblank : ¬ Text.trimmed id = "" := by
    rw [Text.trimmed_eq_empty_iff, (h id hid).1]
    exact Bool.false_ne_true
  exact decide_eq_true hblank

/-- Identifiers that can be told apart come out of their list as they went in, but for blanks around
    them. -/
theorem items_of_identifies : Text.items (Text.joinItems ids) = ids.map Text.trimmed := by
  rw [Text.items_joinItems fun id hid => (h id hid).2, filter_trimmed_of_identifies h]

end Apart

/-! ### The windows -/

/-- What is wrong with the windows: a width of zero, and a negative time of the first one. -/
def windowFaults (width : Option UInt64) (first : Option Int64) : List ConfigIssue :=
  (if width = some 0 then [⟨"window.widthMillis", windowWithoutWidth⟩] else []) ++
  if first.any (·.toInt < 0) then [⟨"window.firstWindowMillis", negativeFirstWindow⟩] else []

theorem geometry_eq (window : Option WindowConfig) : (window.map geometry).getD {}
    = ⟨windowFaults (window.bind (·.widthMillis)) (window.bind (·.firstWindowMillis)), []⟩ := by
  cases window with
  | none => rfl
  | some w => simp only [Option.map_some, Option.getD_some, geometry, windowFaults, Option.bind_some,
      Int64.lt_iff_toInt_lt, Int64.toInt_zero]

theorem windowFaults_eq_nil_iff {width : Option UInt64} {first : Option Int64} :
    windowFaults width first = [] ↔ width ≠ some 0 ∧ ∀ ms ∈ first, 0 ≤ ms.toInt := by
  rw [windowFaults, List.append_eq_nil_iff]
  refine and_congr (by split <;> simp [*]) ?_
  cases first with
  | none => simp
  | some ms => simp

theorem pathGroup_windowFaults (width : Option UInt64) (first : Option Int64) :
    PathGroup 2 ['w', 'i'] ((windowFaults width first).map (·.path)) := by
  rw [windowFaults]
  split <;> split <;> simp [PathGroup] <;> decide

end Validation

namespace EngineConfig

open Validation

variable {c : EngineConfig}

theorem errors_validate (c : EngineConfig) : c.validate.errors
    = told "plugins.dagSetup" (fun _ => fault?) c.dagSetupPlugins ++
      told "plugins.execution" (fun _ => fault?) c.executionPlugins ++
      windowFaults (c.window.bind (·.widthMillis)) (c.window.bind (·.firstWindowMillis)) := by
  rw [validate, identifiers_eq, identifiers_eq, geometry_eq]
  rfl

theorem warnings_validate (c : EngineConfig) : c.validate.warnings
    = told "plugins.dagSetup" repetition? c.dagSetupPlugins ++
      told "plugins.execution" repetition? c.executionPlugins := by
  rw [validate, identifiers_eq, identifiers_eq, geometry_eq]
  exact List.append_nil _

/-- Validation finds no error exactly where both lists hold identifiers that can be told apart, and the
    windows have some width and the first one has no negative time. -/
theorem errors_eq_nil_iff : c.validate.errors = [] ↔
    ((∀ id ∈ c.dagSetupPlugins, Identifies id) ∧ ∀ id ∈ c.executionPlugins, Identifies id) ∧
    c.window.bind (·.widthMillis) ≠ some 0 ∧
    ∀ ms ∈ c.window.bind (·.firstWindowMillis), 0 ≤ ms.toInt := by
  rw [errors_validate, List.append_eq_nil_iff, List.append_eq_nil_iff, told_eq_nil_iff,
    told_eq_nil_iff, windowFaults_eq_nil_iff]
  simp only [fault?_eq_none_iff]

/-- No two positions of the two lists have one place. -/
theorem pathGroup_told (tell : List String → String → Option String) (c : EngineConfig) :
    PathGroup 2 ['p', 'l'] ((told "plugins.dagSetup" tell c.dagSetupPlugins ++
      told "plugins.execution" tell c.executionPlugins).map (·.path)) := by
  have hplaces := (paths_told_sublist "plugins.dagSetup" tell c.dagSetupPlugins).append
    (paths_told_sublist "plugins.execution" tell c.executionPlugins)
  obtain ⟨hnodup, hfront⟩ := PluginsConfig.pathGroup_texts ⟨c.dagSetupPlugins, c.executionPlugins⟩
  rw [PluginsConfig.texts, List.map_append] at hnodup hfront
  rw [List.map_append]
  exact ⟨hplaces.nodup hnodup, fun place hplace => hfront place (hplaces.subset hplace)⟩

theorem identifies_of_validate (h : c.validate.errors = []) :
    (∀ id ∈ c.dagSetupPlugins, Identifies id) ∧ ∀ id ∈ c.executionPlugins, Identifies id :=
  (errors_eq_nil_iff.1 h).1

theorem width_of_validate (h : c.validate.errors = []) : c.window.bind (·.widthMillis) ≠ some 0 :=
  (errors_eq_nil_iff.1 h).2.1

/-- A configuration that is ready for use has no errors. -/
theorem errors_of_prepare {env : Variables} {raw : EngineConfig}
    (h : raw.prepare env = .ok c) : c.validate.errors = [] := (prepare_eq_ok_iff.1 h).2.2

/-- Validation tells of each position of the two lists at most one error: of the preparation plugins
    first and then of the execution plugins, in their order, that an identifier is blank or else has a
    separator in it. Behind these it tells of a width of zero and of a negative time of the first
    window. It warns in the same order of each identifier that is not blank and, but for blanks around
    it, stands before in its own list; no place has two errors or two warnings. Lists without an error
    are read back from their texts, identifier by identifier. -/
theorem validate_exactly (c : EngineConfig) :
    c.validate.errors = told "plugins.dagSetup" (fun _ => fault?) c.dagSetupPlugins ++
      told "plugins.execution" (fun _ => fault?) c.executionPlugins ++
      windowFaults (c.window.bind (·.widthMillis)) (c.window.bind (·.firstWindowMillis)) ∧
    c.validate.warnings = told "plugins.dagSetup" repetition? c.dagSetupPlugins ++
      told "plugins.execution" repetition? c.executionPlugins ∧
    (c.validate.errors.map (·.path)).Nodup ∧ (c.validate.warnings.map (·.path)).Nodup ∧
    (c.validate.isValid = true →
      Text.items (Text.joinItems c.dagSetupPlugins) = c.dagSetupPlugins.map Text.trimmed ∧
      Text.items (Text.joinItems c.executionPlugins) = c.executionPlugins.map Text.trimmed) := by
  refine ⟨c.errors_validate, c.warnings_validate, ?_, ?_, fun hvalid => ?_⟩
  · have hwindow := pathGroup_windowFaults (c.window.bind (·.widthMillis))
      (c.window.bind (·.firstWindowMillis))
    have hlists := pathGroup_told (fun _ => fault?) c
    rw [errors_validate, List.map_append]
    exact hlists.1.append hwindow.1 (hlists.disjoint hwindow (by decide))
  · rw [warnings_validate]
    exact (pathGroup_told repetition? c).1
  · obtain ⟨hsetup, hexecution⟩ := identifies_of_validate (List.isEmpty_iff.1 hvalid)
    exact ⟨items_of_identifies hsetup, items_of_identifies hexecution⟩

/-- An identifier stands in both lists, in one of them twice with blanks around it: this is warned about
    once, and both lists are read back. -/
theorem validate_exactly_repeated :
    let c : EngineConfig := { plugins := some {
      dagSetup := ["tap"]
      execution := [" tap\u00a0", "meter", "tap\u3000", "t ap"] } }
    c.validate.isValid = true ∧
      c.validate.warnings = [⟨"plugins.execution[2]", repeatedIdentifier "tap\u3000"⟩] ∧
      Text.items (Text.joinItems c.dagSetupPlugins) = ["tap"] ∧
      Text.items (Text.joinItems c.executionPlugins) = ["tap", "meter", "tap", "t ap"] := by
  intro c
  have hvalid : c.validate.isValid = true := by decide +kernel
  obtain ⟨-, hwarnings, -, -, hread⟩ := validate_exactly c
  obtain ⟨hsetup, hexecution⟩ := hread hvalid
  exact ⟨hvalid, hwarnings.trans (by decide +kernel), hsetup.trans (by decide +kernel),
    hexecution.trans (by decide +kernel)⟩

/-- A blank identifier, two with a separator that are the same, and both bounds of the windows. -/
example :
    let c : EngineConfig :=
      { plugins := some { dagSetup := ["a,b", " ", "\u2003a,b"] }
        window := some { widthMillis := some 0, firstWindowMillis := some (-1) } }
    c.validate.errors.map (·.path) = ["plugins.dagSetup[0]", "plugins.dagSetup[1]",
      "plugins.dagSetup[2]", "window.widthMillis", "window.firstWindowMillis"] ∧
      c.validate.warnings.map (·.path) = ["plugins.dagSetup[2]"] := by decide +kernel

end EngineConfig

end PluginFabric
