import PluginFabric.Proofs.Host

/-! Histories of a lifecycle.

    A host goes one way: its plugins are set up in order, then events are handled, then they are torn
    down in order. What its plugins were called for has one of five shapes, by the state it is in:

        not set up    nothing
        set up        all setups succeed, handlers
        torn down     nothing
        torn down     setups succeed up to one that does not, teardowns of those before it
        torn down     all setups succeed, handlers, all teardowns

    One call of a manager goes from shape to shape (`History.extend`), and everything that is safe
    about a lifecycle can be read off the shapes (`History.safe`). -/

namespace PluginFabric

/-- What may become of a lifecycle: it stays, or it moves on. -/
inductive LifecycleState.Leads : LifecycleState → LifecycleState → Prop
  | stay (s : LifecycleState) : Leads s s
  | setUp : Leads .notSetUp .setUp
  | tearDown : Leads .setUp .tornDown
  | giveUp : Leads .notSetUp .tornDown

namespace Lifecycle

variable {ε : Type} {n k : Nat} {s s' : LifecycleState} {t c hs ds : Trace ε}

/-- The setups of the first `k` plugins are called, and all succeed. -/
def succeeding (k : Nat) : Trace ε := (List.range k).map fun i => .settingUp i (.ok ())

/-- Nothing but handlers is called. -/
def OnlyHandling (t : Trace ε) : Prop := ∀ o ∈ t, ∃ id event outcome, o = .handling id event outcome

/-- The teardowns of the first `k` plugins are called, however they end. -/
def Undone (k : Nat) (t : Trace ε) : Prop := t.map Occurrence.tornDown? = (List.range k).map some

/-- What one call of a manager of `n` plugins may do: the state it finds, what plugins are called for,
    and the state it leaves. -/
inductive Passage (n : Nat) : LifecycleState → Trace ε → LifecycleState → Prop
  | quiet (s : LifecycleState) : Passage n s [] s
  | served {hs : Trace ε} (only : OnlyHandling hs) : Passage n .setUp hs .setUp
  | ready : Passage n .notSetUp (succeeding n) .setUp
  | givenUp : Passage n .notSetUp [] .tornDown
  | rolledBack {k : Nat} {o : Outcome Unit} {ds : Trace ε} (below : k < n) (failed : o.isOk = false)
      (undone : Undone k ds) : Passage n .notSetUp (succeeding k ++ .settingUp k o :: ds) .tornDown
  | finished {ds : Trace ε} (undone : Undone n ds) : Passage n .setUp ds .tornDown

/-- What plugins were called for so far, by the state of the lifecycle. -/
inductive History (n : Nat) : LifecycleState → Trace ε → Prop
  | fresh : History n .notSetUp []
  | serving {hs : Trace ε} (only : OnlyHandling hs) : History n .setUp (succeeding n ++ hs)
  | givenUp : History n .tornDown []
  | rolledBack {k : Nat} {o : Outcome Unit} {ds : Trace ε} (below : k < n) (failed : o.isOk = false)
      (undone : Undone k ds) : History n .tornDown (succeeding k ++ .settingUp k o :: ds)
  | finished {hs ds : Trace ε} (only : OnlyHandling hs) (undone : Undone n ds) :
      History n .tornDown (succeeding n ++ hs ++ ds)

theorem Passage.leads (p : Passage n s c s') : s.Leads s' := by
  cases p with
  | quiet => exact .stay _
  | served => exact .stay _
  | ready => exact .setUp
  | givenUp => exact .giveUp
  | rolledBack => exact .giveUp
  | finished => exact .tearDown

/-- A call goes from history to history. -/
theorem History.extend (h : History n s t) (p : Passage n s c s') : History n s' (t ++ c) := by
  cases p with
  | quiet => simpa using h
  | served only =>
    cases h with
    | serving earlier =>
      rw [List.append_assoc]
      refine .serving fun o ho => ?_
      exact (List.mem_append.1 ho).elim (earlier o) (only o)
  | ready =>
    cases h with
    | fresh =>
      have : History n .setUp (succeeding n ++ ([] : Trace ε)) := .serving (by simp [OnlyHandling])
      simpa using this
  | givenUp =>
    cases h with
    | fresh => exact .givenUp
  | rolledBack below failed undone =>
    cases h with
    | fresh => exact .rolledBack below failed undone
  | finished undone =>
    cases h with
    | serving only => exact .finished only undone

/-- Before the setup, plugins were called for nothing. -/
theorem History.eq_nil_of_notSetUp (h : History n s t) (hs : s = .notSetUp) : t = [] := by
  cases h with
  | fresh => rfl
  | _ => cases hs

/-! ### What is safe -/

/-- What is safe about `n` plugins that were called for `t` and are in state `s` now. -/
structure Safe (n : Nat) (s : LifecycleState) (t : Trace ε) : Prop where
  /-- No setup is called twice. -/
  setUps_nodup : t.setUps.Nodup
  /-- No teardown is called twice. -/
  tearDowns_nodup : t.tearDowns.Nodup
  /-- A teardown comes after the plugin's own setup has succeeded. -/
  setUp_before_tearDown : ∀ (l r : Trace ε) i o, t = l ++ .tearingDown i o :: r →
    .settingUp i (.ok ()) ∈ l
  /-- A handler comes after all setups have succeeded, and before any teardown. -/
  handling_between : ∀ (l r : Trace ε) i e o, t = l ++ .handling i e o :: r →
    (∀ k < n, .settingUp k (.ok ()) ∈ l) ∧ l.tearDowns = []
  /-- In the end, all whose setup succeeded have been torn down once. -/
  tornDown_once : s = .tornDown → ∀ i, .settingUp i (.ok ()) ∈ t → t.tearDowns.count i = 1

theorem prefix_of_notMem_left {α : Type} {a b l r : List α} {x : α} (h : a ++ b = l ++ x :: r)
    (hx : x ∉ a) : a <+: l := by
  rcases List.append_eq_append_iff.1 h with ⟨m, rfl, -⟩ | ⟨m, rfl, hm⟩
  · exact List.prefix_append ..
  · cases m with
    | nil => simp
    | cons y m =>
      obtain rfl : x = y := (List.cons.inj hm).1
      simp at hx

theorem prefix_of_notMem_right {α : Type} {a b l r : List α} {x : α} (h : a ++ b = l ++ x :: r)
    (hx : x ∉ b) : l <+: a := by
  rcases List.append_eq_append_iff.1 h with ⟨m, rfl, rfl⟩ | ⟨m, rfl, -⟩
  · simp at hx
  · exact List.prefix_append ..

theorem mem_succeeding {o : Occurrence ε} :
    o ∈ succeeding k ↔ ∃ i < k, o = .settingUp i (.ok ()) := by
  simp [succeeding, eq_comm]

theorem setUps_succeeding : (succeeding k : Trace ε).setUps = List.range k := by
  simp [Trace.setUps, succeeding, List.filterMap_map, Function.comp_def, Occurrence.setUp?]

theorem tearDowns_succeeding : (succeeding k : Trace ε).tearDowns = [] := by
  simp [Trace.tearDowns, succeeding, Occurrence.tornDown?]

theorem OnlyHandling.setUps (only : OnlyHandling hs) : hs.setUps = [] := by
  refine List.filterMap_eq_nil_iff.2 fun o ho => ?_
  obtain ⟨id, event, outcome, rfl⟩ := only o ho
  rfl

theorem OnlyHandling.tearDowns (only : OnlyHandling hs) : hs.tearDowns = [] := by
  refine List.filterMap_eq_nil_iff.2 fun o ho => ?_
  obtain ⟨id, event, outcome, rfl⟩ := only o ho
  rfl

theorem Undone.tearDowns (undone : Undone k ds) : ds.tearDowns = List.range k := by
  have h := congrArg (List.filterMap id) undone
  simpa [List.filterMap_map, Function.comp_def, Trace.tearDowns] using h

theorem Undone.mem {o : Occurrence ε} (undone : Undone k ds) (h : o ∈ ds) :
    ∃ i < k, ∃ outcome, o = .tearingDown i outcome := by
  have hmem : o.tornDown? ∈ (List.range k).map some := undone ▸ List.mem_map_of_mem h
  obtain ⟨i, hi, heq⟩ := List.mem_map.1 hmem
  cases o with
  | tearingDown j outcome =>
    obtain rfl : i = j := Option.some.inj heq
    exact ⟨i, List.mem_range.1 hi, outcome, rfl⟩
  | _ => simp [Occurrence.tornDown?] at heq

theorem Undone.setUps (undone : Undone k ds) : ds.setUps = [] := by
  refine List.filterMap_eq_nil_iff.2 fun o ho => ?_
  obtain ⟨i, -, outcome, rfl⟩ := undone.mem ho
  rfl

/-- The shapes in one: setups of `k` plugins that succeed, perhaps one that does not, handlers, and
    teardowns. -/
def shape (k : Nat) (failing : Option (Outcome Unit)) (hs ds : Trace ε) : Trace ε :=
  succeeding k ++ (failing.toList.map (.settingUp k) ++ (hs ++ ds))

section Shape

variable {j i : Nat} {failing : Option (Outcome Unit)} {o : Outcome Unit} {e : ε} {l r : Trace ε}

theorem setUps_shape (only : OnlyHandling hs) (undone : Undone j ds) :
    (shape k failing hs ds).setUps = List.range k ++ failing.toList.map fun _ => k := by
  simp only [shape, Trace.setUps_append, setUps_succeeding, only.setUps, undone.setUps]
  cases failing <;> rfl

theorem tearDowns_shape (only : OnlyHandling hs) (undone : Undone j ds) :
    (shape k failing hs ds).tearDowns = List.range j := by
  simp only [shape, Trace.tearDowns_append, tearDowns_succeeding, only.tearDowns, undone.tearDowns]
  cases failing <;> rfl

theorem lt_of_tearingDown_mem_shape (only : OnlyHandling hs) (undone : Undone j ds)
    (h : .tearingDown i o ∈ shape k failing hs ds) : i < j := by
  have hi : i ∈ (shape k failing hs ds).tearDowns := List.mem_filterMap.2 ⟨_, h, rfl⟩
  rw [tearDowns_shape only undone] at hi
  exact List.mem_range.1 hi

theorem ne_nil_of_handling_mem_shape (undone : Undone j ds)
    (h : .handling i e o ∈ shape k failing hs ds) : hs ≠ [] := by
  simp only [shape, List.mem_append, mem_succeeding, List.mem_map] at h
  rcases h with ⟨_, _, h⟩ | ⟨_, _, h⟩ | h | h
  · cases h
  · cases h
  · exact List.ne_nil_of_mem h
  · obtain ⟨_, _, _, h⟩ := undone.mem h
    cases h

theorem lt_of_settingUp_mem_shape (hfail : ∀ o ∈ failing, o.isOk = false) (only : OnlyHandling hs)
    (undone : Undone j ds) (h : .settingUp i (.ok ()) ∈ shape k failing hs ds) : i < k := by
  simp only [shape, List.mem_append, mem_succeeding, List.mem_map] at h
  rcases h with ⟨_, hi, h⟩ | ⟨o, ho, h⟩ | h | h
  · cases h
    exact hi
  · cases h
    exact absurd (hfail _ (Option.mem_toList.1 ho)) (by decide)
  · obtain ⟨_, _, _, h⟩ := only _ h
    cases h
  · obtain ⟨_, _, _, h⟩ := undone.mem h
    cases h

/-- Whatever is no setup comes after the setups that succeed. -/
theorem settingUp_mem_of_shape_eq {x : Occurrence ε} (h : shape k failing hs ds = l ++ x :: r)
    (hx : x.setUp? = none) (hi : i < k) : .settingUp i (.ok ()) ∈ l := by
  have hpre : succeeding k <+: l := by
    refine prefix_of_notMem_left h fun hm => ?_
    obtain ⟨_, _, rfl⟩ := mem_succeeding.1 hm
    cases hx
  exact hpre.subset (mem_succeeding.2 ⟨i, hi, rfl⟩)

/-- Whatever is no teardown comes before the teardowns. -/
theorem tearDowns_eq_nil_of_shape_eq {x : Occurrence ε} (only : OnlyHandling hs) (undone : Undone j ds)
    (h : shape k failing hs ds = l ++ x :: r) (hx : x.tornDown? = none) : l.tearDowns = [] := by
  have hsplit : succeeding k ++ (failing.toList.map (.settingUp k) ++ hs) ++ ds = l ++ x :: r := by
    simpa [shape] using h
  have hpre := prefix_of_notMem_right hsplit fun hm => by
    obtain ⟨_, _, _, rfl⟩ := undone.mem hm
    cases hx
  have hnone : Trace.tearDowns (succeeding k ++ (failing.toList.map (.settingUp k) ++ hs)) = [] := by
    simp only [Trace.tearDowns_append, tearDowns_succeeding, only.tearDowns]
    cases failing <;> rfl
  exact List.prefix_nil.1 (hnone ▸ hpre.filterMap Occurrence.tornDown?)

/-- A shape is safe if only a full set of plugins handles events, only plugins that were set up are
    torn down, and in the end all of them. -/
theorem safe_shape (hfail : ∀ o ∈ failing, o.isOk = false) (only : OnlyHandling hs)
    (undone : Undone j ds) (hfull : hs ≠ [] → k = n) (hj : j ≤ k) (hend : s = .tornDown → j = k) :
    Safe n s (shape k failing hs ds) where
  setUps_nodup := by
    rw [setUps_shape only undone]
    cases failing with
    | none => simpa using List.nodup_range
    | some o => simpa [← List.range_succ] using List.nodup_range
  tearDowns_nodup := tearDowns_shape only undone ▸ List.nodup_range
  setUp_before_tearDown l r i o h := by
    have hmem : .tearingDown i o ∈ shape k failing hs ds := by rw [h]; simp
    have hi := lt_of_tearingDown_mem_shape only undone hmem
    exact settingUp_mem_of_shape_eq h rfl (by omega)
  handling_between l r i e o h := by
    have hmem : .handling i e o ∈ shape k failing hs ds := by rw [h]; simp
    obtain rfl := hfull (ne_nil_of_handling_mem_shape undone hmem)
    exact ⟨fun _ hi => settingUp_mem_of_shape_eq h rfl hi,
      tearDowns_eq_nil_of_shape_eq only undone h rfl⟩
  tornDown_once hs i h := by
    have hi := lt_of_settingUp_mem_shape hfail only undone h
    rw [tearDowns_shape only undone, List.count_range, if_pos (hend hs ▸ hi)]

end Shape

theorem History.safe (h : History n s t) : Safe n s t := by
  have none_ok : ∀ o ∈ (none : Option (Outcome Unit)), o.isOk = false := by simp
  have nothing : OnlyHandling ([] : Trace ε) := by simp [OnlyHandling]
  have untouched : Undone 0 ([] : Trace ε) := rfl
  cases h with
  | fresh => exact safe_shape (k := 0) none_ok nothing untouched (by simp) (Nat.le_refl 0) (by simp)
  | serving only =>
    have := safe_shape (s := .setUp) none_ok only untouched (fun _ => rfl) (Nat.zero_le n) (by simp)
    simpa [shape] using this
  | givenUp => exact safe_shape (k := 0) none_ok nothing untouched (by simp) (Nat.le_refl 0) (by simp)
  | @rolledBack k o ds below failed undone =>
    have some_failed : ∀ o' ∈ some o, o'.isOk = false := by simpa using failed
    have := safe_shape (n := n) (s := .tornDown) some_failed nothing undone (by simp) (Nat.le_refl k)
      (fun _ => rfl)
    simpa [shape] using this
  | finished only undone =>
    have := safe_shape (s := .tornDown) none_ok only undone (fun _ => rfl) (Nat.le_refl n) (fun _ => rfl)
    simpa [shape] using this

/-- What is safe about the calls of a trace is safe about the trace. -/
theorem safe_of_calls (h : Safe n s t.calls) : Safe n s t where
  setUps_nodup := Trace.setUps_calls t ▸ h.setUps_nodup
  tearDowns_nodup := Trace.tearDowns_calls t ▸ h.tearDowns_nodup
  setUp_before_tearDown l r i o ht := by
    have := h.setUp_before_tearDown (Trace.calls l) (Trace.calls r) i o
      (by simp [ht, Trace.calls_cons, Occurrence.isCall])
    exact (Trace.mem_calls.1 this).1
  handling_between l r i e o ht := by
    have := h.handling_between (Trace.calls l) (Trace.calls r) i e o
      (by simp [ht, Trace.calls_cons, Occurrence.isCall])
    exact ⟨fun k hk => (Trace.mem_calls.1 (this.1 k hk)).1, Trace.tearDowns_calls l ▸ this.2⟩
  tornDown_once hs i hi := by
    rw [← Trace.tearDowns_calls]
    exact h.tornDown_once hs i (Trace.mem_calls.2 ⟨hi, rfl⟩)

end Lifecycle

end PluginFabric
