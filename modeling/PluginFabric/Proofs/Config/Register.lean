import Mathlib.Data.List.Induction
import PluginFabric.Proofs.Config.Final

/-! Every key of a configuration is a register of its own.

    A change finds the entry of its key and answers from it alone; what it leaves there depends on
    nothing else, and the entries of all other keys stay as they were (`perform_onEntry`). So the entry
    of a key can be told from the changes of that key, in their order, whatever changes of other keys
    stand between them (`entry?_changes`). -/

namespace PluginFabric

namespace Configuration

/-- What a change is answered with. -/
inductive Answer where
  | written
  | refused (error : PropertyError)
  | described (found : Bool)
  | removed (entry : Option PropertyEntry)
  deriving DecidableEq

/-- The answer to a write, and the configuration after it. -/
def answered (c : Configuration) : Except PropertyError Configuration → Answer × Configuration
  | .ok next => (.written, next)
  | .error e => (.refused e, c)

/-- The answer to a change, and the configuration after it. -/
def perform (c : Configuration) : Change → Answer × Configuration
  | .set key value => c.answered (c.set key value)
  | .setFinal key value => c.answered (c.setFinal key value)
  | .describe key description =>
    (.described (c.describe key description).isSome, (c.describe key description).getD c)
  | .remove key => (.removed (c.takeOut key).1, (c.takeOut key).2)

/-- The key that a change is about. -/
def Change.key : Change → String
  | .set key _ | .setFinal key _ | .describe key _ | .remove key => key

/-- A write, for good or not. -/
def Change.write (key value : String) (isFinal : Bool) : Change :=
  if isFinal then .setFinal key value else .set key value

/-! ### A key on its own -/

/-- A write where the entry of its key is all there is. -/
def overwrite (key value : String) (isFinal : Bool) (entry : Option PropertyEntry) :
    Answer × Option PropertyEntry :=
  if entry.any (·.isFinal) then (.refused (.finalOverride key), entry)
  else (.written, some { value, isFinal, description := entry.bind (·.description) })

/-- A change where the entry of its key is all there is. -/
def Change.onEntry (entry : Option PropertyEntry) : Change → Answer × Option PropertyEntry
  | .set key value => overwrite key value false entry
  | .setFinal key value => overwrite key value true entry
  | .describe _ description =>
    (.described entry.isSome, entry.map ({ · with description := some description }))
  | .remove _ => (.removed entry, none)

/-- The entry of a key after changes of it. -/
def Change.register (entry : Option PropertyEntry) (cs : List Change) : Option PropertyEntry :=
  cs.foldl (fun entry ch => (ch.onEntry entry).2) entry

variable {c : Configuration} {key value : String} {cs : List Change}

/-! ### One change -/

theorem perform_snd (c : Configuration) (ch : Change) : (c.perform ch).2 = c.change ch := by
  cases ch with
  | set key value => cases h : c.set key value <;> simp [perform, change, answered, h, Except.toOption]
  | setFinal key value =>
    cases h : c.setFinal key value <;> simp [perform, change, answered, h, Except.toOption]
  | describe | remove => rfl

theorem entry?_insert (c : Configuration) (k key : String) (e : PropertyEntry) :
    entry? (Configuration.mk (c.entries.insert k e)) key = if key = k then some e else c.entry? key :=
  SortedMap.get?_insert ..

theorem ext_entry? {c d : Configuration} (h : ∀ key, c.entry? key = d.entry? key) : c = d := by
  cases c
  cases d
  exact congrArg mk (SortedMap.ext_get? h)

/-- A write of a key does to the configuration what it does to the entry. -/
theorem answered_put (c : Configuration) (key value : String) (isFinal : Bool) :
    let entry := overwrite key value isFinal (c.entry? key)
    (c.answered (c.put key value isFinal)).1 = entry.1 ∧
      ∀ k, entry? (c.answered (c.put key value isFinal)).2 k
        = if k = key then entry.2 else c.entry? k := by
  rw [put, overwrite]
  cases hold : c.entry? key with
  | none => simp [answered, entry?_insert]
  | some old =>
    cases hfinal : old.isFinal with
    | false => simp [answered, entry?_insert, hfinal]
    | true =>
      refine ⟨by simp [answered, hfinal], fun k => ?_⟩
      by_cases hk : k = key
      · simp [answered, hfinal, hk, hold]
      · simp [answered, hfinal, hk]

/-- A change answers from the entry of its key, and changes this entry only. -/
theorem perform_onEntry (c : Configuration) (ch : Change) :
    (c.perform ch).1 = (ch.onEntry (c.entry? ch.key)).1 ∧
      ∀ k, entry? (c.perform ch).2 k
        = if k = ch.key then (ch.onEntry (c.entry? ch.key)).2 else c.entry? k := by
  cases ch with
  | set key value => exact c.answered_put key value false
  | setFinal key value => exact c.answered_put key value true
  | describe key description =>
    simp only [perform, describe, Change.onEntry, Change.key]
    cases hold : c.entry? key with
    | none =>
      refine ⟨rfl, fun k => ?_⟩
      by_cases hk : k = key <;> simp [hk, hold]
    | some old => exact ⟨rfl, fun k => c.entry?_insert ..⟩
  | remove key => exact ⟨rfl, fun k => SortedMap.get?_erase ..⟩

theorem entry?_perform_of_ne {ch : Change} {k : String} (h : ch.key ≠ k) :
    entry? (c.perform ch).2 k = c.entry? k :=
  ((c.perform_onEntry ch).2 k).trans (if_neg (Ne.symm h))

theorem entry?_perform_self (c : Configuration) (ch : Change) :
    entry? (c.perform ch).2 ch.key = (ch.onEntry (c.entry? ch.key)).2 :=
  ((c.perform_onEntry ch).2 ch.key).trans (if_pos rfl)

theorem perform_write (c : Configuration) (key value : String) (isFinal : Bool) :
    c.perform (.write key value isFinal) = c.answered (c.put key value isFinal) := by
  cases isFinal <;> rfl

theorem isFinal_of_not {key : String} (h : ¬ (c.contains key = true ∧ c.isFinal key = true)) :
    (c.entry? key).any (·.isFinal) = false := by
  have hcontains : c.contains key = (c.entry? key).isSome := rfl
  rw [hcontains, isFinal] at h
  cases hold : c.entry? key with
  | none => rfl
  | some old => simpa [hold] using h

/-- A final property is not written to, and the whole configuration stays as it was. -/
theorem perform_write_final (hfinal : c.isFinal key = true) (value : String) (isFinal : Bool) :
    c.perform (.write key value isFinal) = (.refused (.finalOverride key), c) := by
  rw [perform_write, put]
  rw [Configuration.isFinal] at hfinal
  cases hold : c.entry? key with
  | none => simp [hold] at hfinal
  | some old =>
    rw [hold, Option.any_some] at hfinal
    simp [answered, hfinal]

/-- Any other property is written, and keeps the description that it may have. -/
theorem perform_write_open (hopen : (c.entry? key).any (·.isFinal) = false) (value : String)
    (isFinal : Bool) :
    (c.perform (.write key value isFinal)).1 = .written ∧
      entry? (c.perform (.write key value isFinal)).2 key
        = some { value, isFinal, description := (c.entry? key).bind (·.description) } := by
  obtain ⟨hanswer, hentry⟩ := c.answered_put key value isFinal
  rw [perform_write, hanswer, hentry, if_pos rfl, overwrite, hopen]
  exact ⟨rfl, rfl⟩

/-- A change answers the same after a change of another key. -/
theorem answer_perform_of_ne {a b : Change} (h : a.key ≠ b.key) :
    ((c.perform a).2.perform b).1 = (c.perform b).1 := by
  rw [(perform_onEntry _ b).1, (perform_onEntry _ b).1, entry?_perform_of_ne h]

theorem perform_comm {a b : Change} (h : a.key ≠ b.key) :
    ((c.perform a).2.perform b).2 = ((c.perform b).2.perform a).2 := by
  refine ext_entry? fun k => ?_
  by_cases ha : k = a.key
  · subst ha
    rw [entry?_perform_of_ne (Ne.symm h), entry?_perform_self, entry?_perform_self,
      entry?_perform_of_ne (Ne.symm h)]
  · by_cases hb : k = b.key
    · subst hb
      rw [entry?_perform_self, entry?_perform_of_ne h, entry?_perform_of_ne h, entry?_perform_self]
    · rw [entry?_perform_of_ne (Ne.symm hb), entry?_perform_of_ne (Ne.symm ha),
        entry?_perform_of_ne (Ne.symm ha), entry?_perform_of_ne (Ne.symm hb)]

/-! ### Several changes -/

/-- The entry of a key after changes is told by the changes of this key. -/
theorem entry?_changes (c : Configuration) (cs : List Change) (key : String) :
    entry? (c.changes cs) key = Change.register (c.entry? key) (cs.filter (·.key = key)) := by
  induction cs generalizing c with
  | nil => rfl
  | cons ch cs ih =>
    have hstep : c.changes (ch :: cs) = (c.perform ch).2.changes cs := by rw [perform_snd]; rfl
    rw [hstep, ih]
    by_cases hkey : ch.key = key
    · subst hkey
      rw [List.filter_cons_of_pos (by simp), entry?_perform_self]
      rfl
    · rw [List.filter_cons_of_neg (by simpa using hkey), entry?_perform_of_ne hkey]

/-! ### Listings -/

theorem mem_toList {p : String × String} : p ∈ c.toList ↔ c.get? p.1 = some p.2 := by
  have hget := SortedMap.get?_mapValues (·.value) c.entries p.1
  rw [get?, entry?, ← hget, SortedMap.get?_eq_some_iff]
  rfl

/-- The keys are listed in strictly increasing order. -/
theorem increasing_toList (c : Configuration) : c.toList.Pairwise (fun p q => p.1 < q.1) :=
  (c.entries.mapValues (·.value)).sorted.imp compareOfLessAndEq_eq_lt.1

theorem length_toList (c : Configuration) : c.toList.length = c.size := List.length_map _

/-- Of the pairs of a key, the last one makes its entry. -/
theorem entry?_ofList (pairs : List (String × String)) (key : String) :
    entry? (ofList pairs) key
      = (pairs.filter (·.1 = key)).getLast?.map fun p => { value := p.2 } := by
  induction pairs using List.reverseRecOn with
  | nil => rfl
  | append_singleton pairs p ih =>
    rw [ofList, entry?] at ih
    rw [ofList, entry?, List.map_append, SortedMap.get?_ofList_append, ih, List.filter_append]
    by_cases hkey : p.1 = key
    · subst hkey
      simp
    · simp [hkey, Ne.symm hkey]

/-! ### Registers -/

/-- Over any changes, each key of a configuration is a register of its own: its entry is told by the
    changes of this key. A write is refused exactly if the key is there and final, and then nothing
    changes; any other write leaves the value, as final as it says, and the description as it was. A
    description is all that describing changes, and a removal gives back what it removes. No change
    touches another key, so changes of different keys can change places. The listing has the keys that
    are there, in strictly increasing order, and of a list of pairs the last one of a key counts. -/
theorem keys_are_registers (c : Configuration) (cs : List Change) :
    let now := c.changes cs
    (∀ key, now.entry? key = Change.register (c.entry? key) (cs.filter (·.key = key))) ∧
    (∀ ch, c.changes (cs ++ [ch]) = (now.perform ch).2) ∧
    (∀ key value isFinal, let write := now.perform (.write key value isFinal)
      (now.contains key = true ∧ now.isFinal key = true →
        write = (.refused (.finalOverride key), now)) ∧
      (¬ (now.contains key = true ∧ now.isFinal key = true) → write.1 = .written ∧
        entry? write.2 key
          = some { value, isFinal, description := (now.entry? key).bind (·.description) })) ∧
    (∀ key description, let describe := now.perform (.describe key description)
      describe.1 = .described (now.contains key) ∧
      entry? describe.2 key = (now.entry? key).map ({ · with description := some description })) ∧
    (∀ key, (now.perform (.remove key)).1 = .removed (now.entry? key) ∧
      entry? (now.perform (.remove key)).2 key = none) ∧
    (∀ ch key, ch.key ≠ key → entry? (now.perform ch).2 key = now.entry? key) ∧
    (∀ a b, a.key ≠ b.key →
      ((now.perform a).2.perform b).1 = (now.perform b).1 ∧
      ((now.perform b).2.perform a).1 = (now.perform a).1 ∧
      ((now.perform a).2.perform b).2 = ((now.perform b).2.perform a).2) ∧
    (now.toList.Pairwise (fun p q => p.1 < q.1) ∧
      (∀ key value, (key, value) ∈ now.toList ↔ now.get? key = some value) ∧
      now.toList.length = now.size) ∧
    ∀ pairs key, entry? (ofList pairs) key
      = (pairs.filter (·.1 = key)).getLast?.map fun p => { value := p.2 } := by
  intro now
  refine ⟨fun key => c.entry?_changes cs key, fun ch => ?_, fun key value isFinal => ⟨?_, ?_⟩,
    fun key description => ?_, fun key => ?_, fun ch key => entry?_perform_of_ne, fun a b hne => ?_,
    ⟨now.increasing_toList, fun key value => mem_toList, now.length_toList⟩, entry?_ofList⟩
  · rw [changes_append, perform_snd]
    rfl
  · exact fun h => perform_write_final h.2 value isFinal
  · exact fun h => perform_write_open (isFinal_of_not h) value isFinal
  · exact ⟨(now.perform_onEntry (.describe key description)).1,
      now.entry?_perform_self (.describe key description)⟩
  · exact ⟨(now.perform_onEntry (.remove key)).1, now.entry?_perform_self (.remove key)⟩
  · exact ⟨answer_perform_of_ne hne, answer_perform_of_ne (Ne.symm hne), perform_comm hne⟩

/-- A property is described and then made final: it is not written again, while another one is, and
    the removal of the one and the write of the other can change places. -/
theorem keys_are_registers_described :
    let now := empty.changes [.set "a" "1", .describe "a" "first", .setFinal "a" "2", .set "b" "3"]
    now.entry? "a" = some { value := "2", isFinal := true, description := some "first" } ∧
      now.contains "a" = true ∧ now.isFinal "a" = true ∧
      now.perform (.set "a" "4") = (.refused (.finalOverride "a"), now) ∧
      ¬ (now.contains "b" = true ∧ now.isFinal "b" = true) ∧
      (now.perform (.setFinal "b" "4")).1 = .written ∧
      entry? (now.perform (.remove "a")).2 "b" = now.entry? "b" ∧
      ((now.perform (.remove "a")).2.perform (.set "b" "5")).2
        = ((now.perform (.set "b" "5")).2.perform (.remove "a")).2 := by
  intro now
  have hcontains : now.contains "a" = true := by decide +kernel
  have hfinal : now.isFinal "a" = true := by decide +kernel
  have hopen : ¬ (now.contains "b" = true ∧ now.isFinal "b" = true) := by decide +kernel
  obtain ⟨hregister, -, hwrite, -, -, halone, hcomm, -⟩ := keys_are_registers empty
    [.set "a" "1", .describe "a" "first", .setFinal "a" "2", .set "b" "3"]
  have hentry : now.entry? "a" = some { value := "2", isFinal := true, description := some "first" } :=
    (hregister "a").trans (by decide +kernel)
  have hother : (Change.remove "a").key ≠ (Change.set "b" "5").key := by decide
  exact ⟨hentry, hcontains, hfinal, (hwrite "a" "4" false).1 ⟨hcontains, hfinal⟩, hopen,
    ((hwrite "b" "4" true).2 hopen).1, halone (.remove "a") "b" hother, (hcomm _ _ hother).2.2⟩

end Configuration

end PluginFabric
