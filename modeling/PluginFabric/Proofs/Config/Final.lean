import PluginFabric.Config.Properties

/-! A final property is fixed until it is removed.

    Four changes are made to a configuration. The two writes respect a final property and a
    description leaves values alone, but a removal asks nothing: it takes a final property away like
    any other, and the next write sets it anew. What a property is fixed at is therefore a register
    of its own (`fixed?_change`): empty until a final write, then closed to every change but a
    removal. -/

namespace PluginFabric

/-- The value that a property is fixed at, if it is final. -/
def PropertyEntry.fixed? (e : PropertyEntry) : Option String := if e.isFinal then some e.value else none

namespace Configuration

/-- A change of a configuration. -/
inductive Change where
  | set (key value : String)
  | setFinal (key value : String)
  | describe (key description : String)
  | remove (key : String)
  deriving DecidableEq

/-- The configuration after a change; one that is refused leaves it as it was. -/
def change (c : Configuration) : Change → Configuration
  | .set key value => (c.set key value).toOption.getD c
  | .setFinal key value => (c.setFinal key value).toOption.getD c
  | .describe key description => (c.describe key description).getD c
  | .remove key => c.remove key

/-- The configuration after several changes, one after the other. -/
def changes (c : Configuration) (cs : List Change) : Configuration := cs.foldl change c

/-- A property is final and has this value. -/
def Fixes (c : Configuration) (key value : String) : Prop :=
  c.get? key = some value ∧ c.isFinal key = true

/-- The value that a property is fixed at, if there is one and it is final. -/
def fixed? (c : Configuration) (key : String) : Option String :=
  (c.entry? key).bind PropertyEntry.fixed?

/-- What a property is fixed at after a change, where it was fixed at `fixed`. -/
def Change.fixing (key : String) (fixed : Option String) : Change → Option String
  | .setFinal k value => if k = key then fixed.or (some value) else fixed
  | .remove k => if k = key then none else fixed
  | _ => fixed

/-- The value that the first final write of a property gives it. -/
def firstFinal? (key : String) (cs : List Change) : Option String :=
  cs.findSome? fun
    | .setFinal k value => if k = key then some value else none
    | _ => none

variable {c : Configuration} {key value : String} {cs : List Change}

theorem fixes_iff : c.Fixes key value ↔ c.fixed? key = some value := by
  rw [Fixes, get?, isFinal, fixed?]
  cases c.entry? key with
  | none => simp
  | some e => cases he : e.isFinal <;> simp [PropertyEntry.fixed?, he]

/-! ### One change -/

theorem fixed?_insert (c : Configuration) (k key : String) (e : PropertyEntry) :
    (Configuration.mk (c.entries.insert k e)).fixed? key
      = if k = key then e.fixed? else c.fixed? key := by
  rw [fixed?, entry?, SortedMap.get?_insert]
  by_cases hk : k = key
  · rw [if_pos hk.symm, if_pos hk, Option.bind_some]
  · rw [if_neg (Ne.symm hk), if_neg hk, fixed?, entry?]

/-- A write to a final property changes nothing, and any other one makes the property as final as it
    says. -/
theorem fixed?_put (c : Configuration) (k value : String) (isFinal : Bool) (key : String) :
    ((c.put k value isFinal).toOption.getD c).fixed? key
      = if k = key ∧ isFinal then (c.fixed? key).or (some value) else c.fixed? key := by
  rw [put]
  split
  · rename_i hnone
    have hold : c.fixed? k = none := by rw [fixed?, hnone, Option.bind_none]
    simp only [Except.toOption, Option.getD_some, fixed?_insert]
    by_cases hk : k = key
    · subst hk
      cases isFinal <;> simp [PropertyEntry.fixed?, hold]
    · simp [hk]
  · rename_i old hsome
    have hold : c.fixed? k = old.fixed? := by rw [fixed?, hsome, Option.bind_some]
    split
    · rename_i hfinal
      by_cases hk : k = key
      · subst hk
        simp [Except.toOption, hold, PropertyEntry.fixed?, hfinal]
      · simp [Except.toOption, hk]
    · rename_i hfinal
      simp only [Except.toOption, Option.getD_some, fixed?_insert]
      by_cases hk : k = key
      · subst hk
        cases isFinal <;> simp [PropertyEntry.fixed?, hold, hfinal]
      · simp [hk]

theorem fixed?_describe (c : Configuration) (k description key : String) :
    ((c.describe k description).getD c).fixed? key = c.fixed? key := by
  rw [describe]
  cases hold : c.entry? k with
  | none => rfl
  | some old =>
    rw [Option.map_some, Option.getD_some, fixed?_insert]
    split
    · rename_i hk
      rw [← hk, fixed?, hold]
      rfl
    · rfl

theorem fixed?_remove (c : Configuration) (k key : String) :
    (c.remove k).fixed? key = if k = key then none else c.fixed? key := by
  rw [fixed?, entry?, remove, SortedMap.get?_erase]
  by_cases hk : k = key
  · rw [if_pos hk.symm, if_pos hk, Option.bind_none]
  · rw [if_neg (Ne.symm hk), if_neg hk, fixed?, entry?]

/-- What a property is fixed at is a register: a change finds it and leaves it, and minds nothing else
    of the configuration. -/
theorem fixed?_change (c : Configuration) (ch : Change) (key : String) :
    (c.change ch).fixed? key = ch.fixing key (c.fixed? key) := by
  cases ch with
  | set k value => simp [change, set, fixed?_put, Change.fixing]
  | setFinal k value => simp [change, setFinal, fixed?_put, Change.fixing]
  | describe k description => exact fixed?_describe ..
  | remove k => exact fixed?_remove ..

/-! ### Several changes -/

/-- As long as a property is not removed, it stays fixed, or the first final write fixes it. -/
theorem fixed?_changes (c : Configuration) (kept : .remove key ∉ cs) :
    (c.changes cs).fixed? key = (c.fixed? key).or (firstFinal? key cs) := by
  induction cs generalizing c with
  | nil => simp [changes, firstFinal?]
  | cons ch cs ih =>
    have hch : .remove key ≠ ch := fun h => kept (h ▸ List.mem_cons_self)
    have hrest := ih (c.change ch) fun h => kept (List.mem_cons_of_mem _ h)
    rw [changes, List.foldl_cons, ← changes, hrest, fixed?_change]
    cases ch with
    | setFinal k value =>
      by_cases hk : k = key
      · simp [Change.fixing, firstFinal?, hk]
      · simp [Change.fixing, firstFinal?, hk]
    | remove k =>
      have hk : k ≠ key := fun h => hch (h ▸ rfl)
      simp [Change.fixing, firstFinal?, hk]
    | set | describe => rfl

theorem changes_append (c : Configuration) (before later : List Change) :
    c.changes (before ++ later) = (c.changes before).changes later := List.foldl_append

/-- From its last removal on, a property is fixed by the first final write. -/
theorem fixed?_since_removal (c : Configuration) (before : List Change) {later : List Change}
    (kept : .remove key ∉ later) :
    (c.changes (before ++ .remove key :: later)).fixed? key = firstFinal? key later := by
  rw [changes_append, changes, List.foldl_cons, ← changes, fixed?_changes _ kept, fixed?_change,
    Change.fixing, if_pos rfl, Option.none_or]

/-- A property that is removed is removed for the last time. -/
theorem exists_last_removal (h : .remove key ∈ cs) :
    ∃ before later, cs = before ++ .remove key :: later ∧ .remove key ∉ later := by
  obtain ⟨later, before, hsplit, hlast⟩ := List.eq_append_cons_of_mem (List.mem_reverse.2 h)
  refine ⟨before.reverse, later.reverse, ?_, by simpa using hlast⟩
  have := congrArg List.reverse hsplit
  simpa using this

/-- A final property keeps its value over changes exactly if it is not removed, or if the first final
    write after its last removal gives it the same value again; and it keeps it all the time exactly if
    it is not removed. -/
theorem fixed_until_removed (c : Configuration) (key value : String) (cs : List Change)
    (fixed : c.Fixes key value) :
    ((c.changes cs).Fixes key value ↔ .remove key ∉ cs ∨ ∃ before later,
      cs = before ++ .remove key :: later ∧ .remove key ∉ later ∧ firstFinal? key later = some value) ∧
    ((∀ done, done <+: cs → (c.changes done).Fixes key value) ↔ .remove key ∉ cs) := by
  have hfixed := fixes_iff.1 fixed
  have kept : ∀ done, .remove key ∉ done → (c.changes done).Fixes key value := fun done h => by
    rw [fixes_iff, fixed?_changes c h, hfixed, Option.some_or]
  refine ⟨⟨fun h => ?_, ?_⟩, fun h hmem => ?_, fun h done hdone => ?_⟩
  · by_cases hmem : .remove key ∈ cs
    · obtain ⟨before, later, rfl, hlast⟩ := exists_last_removal hmem
      rw [fixes_iff, fixed?_since_removal c before hlast] at h
      exact .inr ⟨before, later, rfl, hlast, h⟩
    · exact .inl hmem
  · rintro (h | ⟨before, later, rfl, hlast, hfirst⟩)
    · exact kept cs h
    · rw [fixes_iff, fixed?_since_removal c before hlast, hfirst]
  · -- right after a removal the property is not fixed
    obtain ⟨before, later, rfl, -⟩ := exists_last_removal hmem
    have hgone := fixes_iff.1 (h (before ++ [.remove key]) ⟨later, by simp⟩)
    rw [fixed?_since_removal c before List.not_mem_nil] at hgone
    cases hgone
  · exact kept done fun hmem => h (hdone.subset hmem)

/-- Writes and descriptions do not get at a final property, nor does the removal of another one. -/
theorem fixed_until_removed_writes :
    let c := empty.changes [.setFinal "a" "1"]
    c.Fixes "a" "1" ∧
      (c.changes [.set "a" "2", .describe "a" "first", .setFinal "a" "3", .remove "b"]).Fixes "a" "1" := by
  intro c
  have fixed : c.Fixes "a" "1" := ⟨by decide +kernel, by decide +kernel⟩
  exact ⟨fixed, ((fixed_until_removed c "a" "1" _ fixed).1).2 (.inl (by decide))⟩

/-- A final property can be removed, and then written again. -/
theorem final_property_removed :
    let c := empty.changes [.setFinal "a" "1"]
    c.Fixes "a" "1" ∧ (c.changes [.remove "a"]).get? "a" = none ∧
      (c.changes [.remove "a"]).isFinal "a" = false ∧
      (c.changes [.remove "a", .set "a" "2"]).get? "a" = some "2" := by
  refine ⟨⟨?_, ?_⟩, ?_, ?_, ?_⟩ <;> decide +kernel

end Configuration

end PluginFabric
