import Mathlib.Algebra.Order.BigOperators.Group.List
import Mathlib.Algebra.Order.Group.Nat
import PluginFabric.Proofs.Config.Defaults
import PluginFabric.Proofs.Config.Occurrences
import PluginFabric.Proofs.Config.Validation

/-! A configuration that is ready stays as it is.

    What preparing a configuration comes to is complete and has no errors, so there is nothing left to
    fill in and nothing to refuse. Preparing it again can only replace texts; and a text stays as it is
    in every environment exactly if no reference occurs in it, be it escaped or not
    (`substituteText_fixed_iff`). -/

namespace PluginFabric

open Reference

/-! ### Texts that stay -/

namespace Reference

variable {env : Variables} {cs : List Char} {s : String}

/-- Where no reference occurs, every character stands for itself. -/
theorem pieces_of_not_occurs (h : ∀ i name, ¬ Occurs cs i name) : pieces cs = cs.map .char := by
  induction cs with
  | nil => rw [pieces, List.map_nil]
  | cons c tail ih =>
    have htail : ∀ i name, ¬ Occurs tail i name := fun i name hocc => h (i + 1) name hocc
    have hhere : occurrence? (c :: tail) = none := (occurrence?_eq_none_iff (i := 0)).2 (h 0)
    have hnext : occurrence? tail = none := (occurrence?_eq_none_iff (i := 0)).2 (htail 0)
    rw [pieces_char (fun _ => hnext) hhere, ih htail, List.map_cons]

theorem substituteText_of_not_occurs (h : ∀ i name, ¬ Occurs s.toList i name) (env : Variables) :
    substituteText env s = .ok s := by
  rw [substituteText_eq, pieces_of_not_occurs h, substitutePieces_chars]
  exact congrArg Except.ok String.ofList_toList

/-- Where nothing is replaced, no character becomes several. -/
theorem Becomes.length_le {i : Nat} {part : List Char} (h : Becomes env cs i part)
    (unreplaced : ∀ i name, ¬ Free cs i name) : part.length ≤ 1 := by
  cases h with
  | value free given => exact absurd free (unreplaced _ _)
  | inside | escape => exact Nat.zero_le 1
  | kept => exact Nat.le_refl 1

/-- Where a `$` escapes a reference, the text gets shorter. -/
theorem Spells.length_lt {out name : List Char} {i : Nat} (h : Spells env cs out)
    (unreplaced : ∀ i name, ¬ Free cs i name) (dollar : cs[i]? = some '$')
    (occurs : Occurs cs (i + 1) name) : out.length < cs.length := by
  obtain ⟨parts, rfl, hlength, hparts⟩ := h
  have hle : ∀ part ∈ parts, part.length ≤ 1 := by
    intro part hpart
    obtain ⟨j, hj⟩ := List.mem_iff_getElem?.1 hpart
    exact (hparts j part hj).length_le unreplaced
  have hgone : ∃ part ∈ parts, part.length < 1 := by
    have hi : i < parts.length := hlength ▸ (List.getElem?_eq_some_iff.1 dollar).1
    obtain ⟨part, hpart⟩ : ∃ part, parts[i]? = some part := ⟨_, List.getElem?_eq_getElem hi⟩
    refine ⟨part, List.mem_of_getElem? hpart, ?_⟩
    cases hparts i part hpart with
    | value free given => exact absurd free (unreplaced _ _)
    | inside | escape => exact Nat.zero_lt_one
    | kept char outside plain =>
      rw [dollar, Option.some.injEq] at char
      exact absurd occurs (plain char.symm name)
  have hsum := List.sum_lt_sum List.length (fun _ => 1) hle hgone
  rw [← List.length_flatten] at hsum
  simpa [hlength] using hsum

/-- A text stays as it is in every environment exactly if no reference occurs in it. -/
theorem substituteText_fixed_iff :
    (∀ env, substituteText env s = .ok s) ↔ ∀ i name, ¬ Occurs s.toList i name := by
  refine ⟨fun h i name hocc => ?_, substituteText_of_not_occurs⟩
  -- without any variable no reference can be replaced
  have unreplaced : ∀ i name, ¬ Free s.toList i name := by
    intro j other hfree
    obtain ⟨value, hset, -⟩ := exists_ok_iff.1 ⟨s, h fun _ => none⟩ j other hfree
    cases hset
  by_cases hescaped : Escaped s.toList i
  · obtain ⟨j, rfl, hdollar⟩ := hescaped
    have hspells := substituteText_ok_iff.1 (h fun _ => none)
    exact Nat.lt_irrefl _ (hspells.length_lt unreplaced hdollar hocc)
  · exact unreplaced i name ⟨hocc, hescaped⟩

/-- Whether a reference occurs is told by looking at each position of a text. -/
theorem not_occurs_iff :
    (∀ i name, ¬ Occurs cs i name) ↔ ∀ i < cs.length, occurrence? (cs.drop i) = none := by
  refine ⟨fun h i _ => occurrence?_eq_none_iff.2 (h i), fun h i => occurrence?_eq_none_iff.1 ?_⟩
  rcases Nat.lt_or_ge i cs.length with hi | hi
  · exact h i hi
  · rw [List.drop_eq_nil_of_le hi]
    rfl

theorem missingAt?_of_fixed {p : String × String} (h : substituteText env p.2 = .ok p.2) :
    missingAt? env p = none := by
  rw [missingAt?, h]

theorem replaced_of_fixed (h : substituteText env s = .ok s) : replaced env s = s := by
  rw [replaced, h]

theorem substituteText_of_missingAt? {p : String × String} (h : missingAt? env p = none) :
    substituteText env p.2 = .ok (replaced env p.2) := by
  rw [missingAt?] at h
  rw [replaced]
  split at h
  · rename_i t ht
    rw [ht]
  · cases h

end Reference

/-! ### Changing every text -/

section MapTexts

variable {f : String → String}

/-- A list is left alone exactly if none of its texts is changed, wherever it stands. -/
theorem map_eq_self_iff_numbered (path : String) (l : List String) :
    l.map f = l ↔ ∀ p ∈ numbered path l, f p.2 = p.2 := by
  have hlist : l.map f = l ↔ ∀ s ∈ l, f s = s := by
    conv_lhs => rhs; rw [← List.map_id l]
    exact List.map_inj_left
  rw [hlist, numbered, List.forall_mem_map]
  conv_lhs => rw [← List.zipIdx_map_fst 0 l, List.forall_mem_map]

theorem mapValues_eq_self_iff (path : String) (m : SortedMap String String) : m.mapValues f = m ↔
    ∀ p ∈ m.toList.map fun p => (path ++ p.1, p.2), f p.2 = p.2 := by
  have hpairs : m.mapValues f = m ↔ m.toList.map (fun p => (p.1, f p.2)) = m.toList.map id := by
    rw [List.map_id]
    exact ⟨congrArg SortedMap.toList, fun h => SortedMap.ext (m := m.mapValues f) h⟩
  rw [hpairs, List.map_inj_left, List.forall_mem_map]
  simp [Prod.ext_iff]

/-- A section that may be missing is left alone exactly if it is where it is there. -/
theorem map_eq_self_iff_texts {α : Type} {texts : α → List (String × String)} {g : α → α}
    (hg : ∀ a, g a = a ↔ ∀ p ∈ texts a, f p.2 = p.2) (o : Option α) :
    o.map g = o ↔ ∀ p ∈ o.toList.flatMap texts, f p.2 = p.2 := by
  cases o with
  | none => exact iff_of_true rfl fun _ h => (by cases h)
  | some a => rw [Option.map_some, Option.some.injEq, hg, Option.toList_some, List.flatMap_singleton]

theorem LoggingConfig.mapTexts_eq_self_iff (l : LoggingConfig) :
    l.mapTexts f = l ↔ ∀ p ∈ l.texts, f p.2 = p.2 := by
  obtain ⟨level, dir, json⟩ := l
  cases level <;> cases dir <;> simp [texts, mapTexts, and_comm]

theorem PluginsConfig.mapTexts_eq_self_iff (p : PluginsConfig) :
    p.mapTexts f = p ↔ ∀ q ∈ p.texts, f q.2 = q.2 := by
  rw [texts, List.forall_mem_append, ← map_eq_self_iff_numbered, ← map_eq_self_iff_numbered, mapTexts]
  exact ⟨fun h => ⟨congrArg dagSetup h, congrArg execution h⟩, fun h => by rw [h.1, h.2]⟩

namespace EngineConfig

variable {c : EngineConfig}

/-- A configuration is not changed exactly if none of its texts is. -/
theorem mapTexts_eq_self_iff : c.mapTexts f = c ↔ ∀ p ∈ c.texts, f p.2 = p.2 := by
  rw [texts, List.forall_mem_append, List.forall_mem_append,
    ← map_eq_self_iff_texts LoggingConfig.mapTexts_eq_self_iff,
    ← map_eq_self_iff_texts PluginsConfig.mapTexts_eq_self_iff, ← mapValues_eq_self_iff, mapTexts]
  constructor
  · intro h
    exact ⟨⟨congrArg logging h, congrArg plugins h⟩, congrArg properties h⟩
  · rintro ⟨⟨hlogging, hplugins⟩, hproperties⟩
    rw [hlogging, hplugins, hproperties]

theorem Complete.mapTexts (h : c.Complete) : (c.mapTexts f).Complete := by
  obtain ⟨plugins, window, logging, properties⟩ := c
  obtain ⟨hplugins, hwidth, hfirst, hlevel, hjson⟩ := h
  cases logging with
  | none => cases hlevel
  | some logging =>
    exact ⟨by simpa [EngineConfig.mapTexts] using hplugins, hwidth, hfirst,
      by simpa [EngineConfig.mapTexts, LoggingConfig.mapTexts] using hlevel, hjson⟩

end EngineConfig

end MapTexts

/-! ### Configurations that are ready -/

namespace EngineConfig

variable {env : Variables} {raw c : EngineConfig}

/-- Nothing is missing that there is a default for, a window has some width, and the first one has no
    negative time. -/
structure Ready (c : EngineConfig) : Prop extends Complete c where
  width : ∀ n ∈ c.window.bind (·.widthMillis), 0 < n.toNat
  first : ∀ ms ∈ c.window.bind (·.firstWindowMillis), 0 ≤ ms.toInt

theorem ready_of_prepare (prepared : raw.prepare env = .ok c) : c.Ready := by
  obtain ⟨-, hfilled, herrors⟩ := prepare_eq_ok_iff.1 prepared
  obtain ⟨-, hwidth, hfirst⟩ := errors_eq_nil_iff.1 herrors
  have hcomplete : c.Complete := hfilled ▸ complete_withDefaults _
  refine ⟨hcomplete, fun n hn => ?_, hfirst⟩
  rw [Option.mem_def] at hn
  rw [hn, ne_eq, Option.some.injEq, ← UInt64.toNat_inj] at hwidth
  exact Nat.pos_of_ne_zero hwidth

/-- A configuration with nothing missing and without errors is prepared to itself if and only if no
    text misses a variable and none is changed. -/
theorem prepare_eq_self_iff (hcomplete : c.Complete) (herrors : c.validate.errors = []) :
    c.prepare env = .ok c ↔ ∀ p ∈ c.texts, substituteText env p.2 = .ok p.2 := by
  rw [prepare_eq_ok_iff, firstMissing?, List.findSome?_eq_none_iff,
    withDefaults_eq_self_iff.2 hcomplete.mapTexts]
  constructor
  · rintro ⟨hmissing, hsame, -⟩ p hp
    have hkept := mapTexts_eq_self_iff.1 hsame.symm p hp
    rw [substituteText_of_missingAt? (hmissing p hp), hkept]
  · intro hfixed
    exact ⟨fun p hp => missingAt?_of_fixed (hfixed p hp),
      (mapTexts_eq_self_iff.2 fun p hp => replaced_of_fixed (hfixed p hp)).symm, herrors⟩

/-- A configuration that is ready for use has all its sections, with a positive width of the windows,
    no negative time of the first one, a log level and a choice of format, and validation finds no
    error in it. In every environment it is prepared to itself, if and only if no reference is left in
    any of its texts: the log level and the log directory, the identifiers of the plugins and the
    values of the properties. -/
theorem prepare_settles (prepared : raw.prepare env = .ok c) :
    c.Ready ∧ c.validate.errors = [] ∧
    ((∀ env', c.prepare env' = .ok c) ↔
      ∀ p ∈ c.texts, ∀ i name, ¬ Occurs p.2.toList i name) := by
  have hready := ready_of_prepare prepared
  have herrors := errors_of_prepare prepared
  refine ⟨hready, herrors, ?_⟩
  simp only [prepare_eq_self_iff hready.toComplete herrors, ← substituteText_fixed_iff]
  exact ⟨fun h p hp env' => h env' p hp, fun h env' p hp => h p hp env'⟩

/-- A value with a `$` and braces is put in, with no reference in it, and is not looked at again. -/
theorem prepare_settles_braces :
    let env : Variables := fun name => if name = "SINK" then some "$\x7bsink\x7d" else none
    let raw : EngineConfig := { properties := .ofList [("sink", "to $\x7bSINK\x7d")] }
    let c := { raw with properties := .ofList [("sink", "to $\x7bsink\x7d")] }.withDefaults
    raw.prepare env = .ok c ∧ c.validate.errors = [] ∧ ∀ env', c.prepare env' = .ok c := by
  intro env raw c
  have prepared : raw.prepare env = .ok c := by decide +kernel
  have hnone : ∀ p ∈ c.texts, ∀ i < p.2.toList.length, occurrence? (p.2.toList.drop i) = none := by
    decide +kernel
  obtain ⟨-, herrors, hstays⟩ := prepare_settles prepared
  exact ⟨prepared, herrors, hstays.2 fun p hp => not_occurs_iff.2 (hnone p hp)⟩

end EngineConfig

end PluginFabric
