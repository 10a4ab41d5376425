import PluginFabric.Proofs.Instances

/-! Which registered identifiers can be resolved.

    Any text can be registered as an identifier, while a resolution trims the identifiers that it is
    asked for and leaves out the blank ones. So a registered identifier is resolved, by a call of its
    constructor, as long as there are no blanks around it and it is not empty; otherwise its constructor
    is out of reach (`attempts_subset`). -/

namespace PluginFabric.Resolver

open Text (Tight trimmed)

variable {ω π : Type}

/-- The resolution of one identifier is the one call of a constructor: its instance, or its failure. -/
structure Calls (make : Constructor ω π) (id : String) (w : ω) (done : Resolution ω π) : Prop where
  attempts : done.attempts = [id]
  world : done.world = (make w).world
  made : ∀ plugin, (make w).result = .ok plugin → done.result = .ok [plugin]
  failed : ∀ cause, (make w).result = .error cause → done.result = .error (.instantiation id cause)

/-! ### Registered identifiers -/

section Registered

variable {calls : List (String × Constructor ω π)} {id : String}

theorem mem_ids (r : Resolver ω π) (id : String) : id ∈ r.ids ↔ r.contains id = true :=
  SortedMap.mem_keys

/-- What is registered has a constructor that was registered last. -/
theorem contains_ofCalls : (ofCalls calls).contains id = true ↔
    ∃ make, lastConstructor? calls id = some make := by
  rw [contains, SortedMap.contains, get?_ofCalls, Option.isSome_iff_exists]

end Registered

/-! ### One identifier -/

section Single

variable {r : Resolver ω π} {id : String} {w : ω}

theorem wanted_singleton (id : String) :
    wanted [id] = if trimmed id = "" then [] else [trimmed id] := by
  rw [wanted, List.map_singleton, List.filter_singleton]
  by_cases hblank : trimmed id = "" <;> simp [hblank]

/-- Blanks around an identifier make no difference. -/
theorem resolveIds_trimmed (r : Resolver ω π) (id : String) (w : ω) :
    r.resolveIds [trimmed id] w = r.resolveIds [id] w := by
  rw [resolveIds, resolveIds, wanted_singleton, wanted_singleton, Text.trimmed_trimmed]

theorem resolveIds_blank (r : Resolver ω π) (hblank : trimmed id = "") (w : ω) :
    r.resolveIds [id] w = ⟨.ok [], w, [], []⟩ := by
  rw [resolveIds, wanted_singleton, if_pos hblank]
  rfl

/-- An identifier without blanks around it is resolved by a call of its constructor. -/
theorem calls_of_tight {make : Constructor ω π} (known : r.constructors.get? id = some make)
    (hne : id ≠ "") (htight : Tight id.toList) : Calls make id w (r.resolveIds [id] w) := by
  have htrimmed : trimmed id = id := Text.trimmed_eq_self_iff.2 htight
  rw [resolveIds, wanted_singleton, htrimmed, if_neg hne]
  cases hmade : (make w).result with
  | ok plugin =>
    rw [resolveFrom_made known hmade, worldAfter_of_known known]
    refine ⟨rfl, rfl, fun plugin' h => ?_, fun cause h => ?_⟩
    · cases hmade.symm.trans h
      rfl
    · cases hmade.symm.trans h
  | error cause =>
    rw [resolveFrom_broken known hmade]
    refine ⟨rfl, rfl, fun plugin h => ?_, fun cause' h => ?_⟩
    · cases hmade.symm.trans h
    · cases hmade.symm.trans h
      rfl

/-- No constructor is called but that of the identifier without the blanks around it. -/
theorem attempts_subset (r : Resolver ω π) (id : String) (w : ω) :
    ∀ called ∈ (r.resolveIds [id] w).attempts, called = trimmed id ∧ trimmed id ≠ "" := by
  intro called hcalled
  rw [resolveIds, wanted_singleton] at hcalled
  by_cases hblank : trimmed id = ""
  · rw [if_pos hblank] at hcalled
    cases hcalled
  · rw [if_neg hblank] at hcalled
    refine ⟨?_, hblank⟩
    cases hknown : r.constructors.get? (trimmed id) with
    | none =>
      rw [resolveFrom_unknown hknown] at hcalled
      cases hcalled
    | some make =>
      cases hmade : (make w).result with
      | ok plugin =>
        rw [resolveFrom_made hknown hmade] at hcalled
        exact List.mem_singleton.1 hcalled
      | error cause =>
        rw [resolveFrom_broken hknown hmade] at hcalled
        exact List.mem_singleton.1 hcalled

end Single

/-- An identifier that is registered, so that it is listed, is resolved by one call of the constructor
    that was registered last under it, if it is not empty and there are no blanks around it: to the
    instance that the constructor makes, or to its failure. Any other is resolved as it is without the
    blanks around it, and to nothing if it is blank; its own constructor is never called. -/
theorem registered_resolved (calls : List (String × Constructor ω π)) :
    let r := ofCalls calls
    (∀ id, id ∈ r.ids ↔ r.contains id = true) ∧
    (∀ id w, r.contains id = true → id ≠ "" → Tight id.toList →
      ∃ make, lastConstructor? calls id = some make ∧ Calls make id w (r.resolveIds [id] w)) ∧
    (∀ id w, ¬ (id ≠ "" ∧ Tight id.toList) → id ∉ (r.resolveIds [id] w).attempts) ∧
    (∀ id w, r.resolveIds [id] w = r.resolveIds [trimmed id] w) ∧
    ∀ id w, trimmed id = "" → r.resolveIds [id] w = ⟨.ok [], w, [], []⟩ := by
  intro r
  refine ⟨r.mem_ids, fun id w hcontains hne htight => ?_, fun id w hother hcalled => ?_,
    fun id w => (r.resolveIds_trimmed id w).symm, fun id w hblank => r.resolveIds_blank hblank w⟩
  · obtain ⟨make, hlast⟩ := contains_ofCalls.1 hcontains
    exact ⟨make, hlast, calls_of_tight ((get?_ofCalls calls id).trans hlast) hne htight⟩
  · obtain ⟨hid, hne⟩ := r.attempts_subset id w id hcalled
    exact hother ⟨hid ▸ hne, Text.trimmed_eq_self_iff.1 hid.symm⟩

/-- The constructor registered last under an identifier makes its instance, also where others are
    registered under the identifier with blanks around it. -/
theorem registered_resolved_again :
    let calls := [("tap", "old"), (" tap", "padded"), ("tap", "tap")].map fun p => (p.1, numbered p.2)
    let r := ofCalls calls
    "tap" ∈ r.ids ∧ "tap" ≠ "" ∧ Tight "tap".toList ∧ (r.resolveIds ["tap"] 0).attempts = ["tap"] ∧
      (r.resolveIds ["tap"] 0).result = .ok [("tap", 0)] ∧
      " tap" ∉ (r.resolveIds [" tap"] 0).attempts := by
  intro calls r
  have hcontains : r.contains "tap" = true := by decide +kernel
  have hne : "tap" ≠ "" := by decide
  have htight : Tight "tap".toList := Text.trimmed_eq_self_iff.1 (by decide +kernel)
  have hpadded : ¬ (" tap" ≠ "" ∧ Tight " tap".toList) := fun h =>
    absurd (Text.trimmed_eq_self_iff.2 h.2) (by decide +kernel)
  obtain ⟨hids, hresolved, hother, -⟩ := registered_resolved calls
  obtain ⟨make, hlast, hcalls⟩ := hresolved "tap" 0 hcontains hne htight
  have hmake : make = numbered "tap" := Option.some.inj (hlast.symm.trans rfl)
  refine ⟨(hids "tap").2 hcontains, hne, htight, hcalls.attempts, hcalls.made _ ?_,
    hother " tap" 0 hpadded⟩
  rw [hmake]
  rfl

/-- Not every registered identifier can be resolved: one with a blank behind it is unknown, a blank one
    comes to nothing, and one with a blank before it comes to the plugin of another. -/
theorem padded_out_of_reach :
    let r := ofCalls ([("tap ", "padded"), (" ", "blank"), (" meter", "padded"), ("meter", "meter")].map
      fun p => (p.1, numbered p.2))
    (r.contains "tap " = true ∧ (r.resolveIds ["tap "] 0).result = .error (.unknownPlugin "tap")) ∧
    (r.contains " " = true ∧ (r.resolveIds [" "] 0).result = .ok []) ∧
    (r.contains " meter" = true ∧ (r.resolveIds [" meter"] 0).result = .ok [("meter", 0)]) := by
  intro r
  refine ⟨⟨?_, ?_⟩, ⟨?_, ?_⟩, ?_, ?_⟩ <;> decide +kernel

end PluginFabric.Resolver
