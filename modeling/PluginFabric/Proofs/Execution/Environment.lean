import Mathlib.Data.List.DropRight
import Mathlib.Data.List.Induction
import PluginFabric.Execution.Environment

/-! The snapshots of an environment follow its history.

    The engine puts records of metrics and operators in and takes operators out, in any order. A queue
    of metrics keeps the last records of its name (`windowMetrics_after`): each new one makes room for
    itself by a loop that drops the oldest as long as the queue is full. The loop comes to an end
    because an environment has room for one record at least (`evicts_iff`, `not_evicts_zero`). An
    operator is there from the snapshot that brought it until it is removed or replaced
    (`get?_after`). -/

namespace PluginFabric

namespace Environment

variable {δ α : Type}

/-- What the engine does with the snapshots that have a history. -/
inductive Call where
  | recordMetrics (name : String) (metrics : WindowMetrics)
  | upsertOperator (name : String) (stats : OperatorStats)
  | removeOperator (id : Int32)

/-- The environment after a call. -/
def perform (e : Environment δ) : Call → Environment δ
  | .recordMetrics name metrics => e.recordMetrics name metrics
  | .upsertOperator name stats => e.upsertOperator name stats
  | .removeOperator id => (e.removeOperator id).2

/-- The environment after several calls, one after the other. -/
def after (e : Environment δ) (calls : List Call) : Environment δ := calls.foldl perform e

/-- An environment as it is built, with another version, another clock and another capacity than the
    usual ones where they are given. -/
def built (dag : δ) (c : Configuration) (version : Option String) (clock : Option WindowClock)
    (capacity : Option Nat) : Environment δ :=
  let e := ofLaunch dag c
  let e := { e with engineVersion := version.getD e.engineVersion, clock := clock.getD e.clock }
  capacity.elim e e.withMetricsCapacity

/-- The records of metrics made under a name, the oldest first. -/
def recorded (name : String) (calls : List Call) : List WindowMetrics :=
  calls.filterMap fun
    | .recordMetrics n metrics => if n = name then some metrics else none
    | _ => none

/-- The call is about the operator with this id. -/
def Call.Touches (id : Int32) : Call → Prop
  | .recordMetrics .. => False
  | .upsertOperator _ stats => stats.operatorId = id
  | .removeOperator i => i = id

/-- The last call about an operator put it there. -/
def Stands (id : Int32) (operator : PhysicalOperator) (calls : List Call) : Prop :=
  ∃ before later, calls = before ++ .upsertOperator operator.name operator.stats :: later ∧
    operator.stats.operatorId = id ∧ ∀ call ∈ later, ¬ call.Touches id

/-- The loop that makes room for one more record: as long as the queue is full its first record is
    dropped, if it has one, and what is left in the end is `rest`. -/
inductive Evicts (capacity : Nat) : List α → List α → Prop
  | full {queue rest : List α} : capacity ≤ queue.length → Evicts capacity queue.tail rest →
      Evicts capacity queue rest
  | room {queue : List α} : queue.length < capacity → Evicts capacity queue queue

/-! ### The loop -/

theorem makeRoom_of_lt {capacity : Nat} {queue : List α} (h : queue.length < capacity) :
    makeRoom capacity queue = queue := by
  have hnone : queue.length + 1 - capacity = 0 := by omega
  rw [makeRoom, hnone, List.drop_zero]

theorem makeRoom_cons {capacity : Nat} {a : α} {queue : List α}
    (h : capacity ≤ (a :: queue).length) : makeRoom capacity (a :: queue) = makeRoom capacity queue := by
  rw [List.length_cons] at h
  have hone : (a :: queue).length + 1 - capacity = queue.length + 1 - capacity + 1 := by
    rw [List.length_cons]
    omega
  rw [makeRoom, hone, List.drop_succ_cons, makeRoom]

theorem evicts_makeRoom {capacity : Nat} (hpos : 0 < capacity) (queue : List α) :
    Evicts capacity queue (makeRoom capacity queue) := by
  induction queue with
  | nil =>
    rw [makeRoom_of_lt (by simpa using hpos)]
    exact .room hpos
  | cons a queue ih =>
    by_cases h : capacity ≤ (a :: queue).length
    · rw [makeRoom_cons h]
      exact .full h ih
    · rw [makeRoom_of_lt (Nat.lt_of_not_le h)]
      exact .room (Nat.lt_of_not_le h)

/-- With some capacity the loop ends, in what there is room for. -/
theorem evicts_iff {capacity : Nat} (hpos : 0 < capacity) {queue rest : List α} :
    Evicts capacity queue rest ↔ rest = makeRoom capacity queue := by
  refine ⟨fun h => ?_, fun h => h ▸ evicts_makeRoom hpos queue⟩
  induction h with
  | @full queue rest hfull _ ih =>
    cases queue with
    | nil => exact absurd hfull (Nat.not_le_of_lt hpos)
    | cons a queue => rw [ih, List.tail_cons, makeRoom_cons hfull]
  | room h => exact (makeRoom_of_lt h).symm

/-- Without any, it would not end. -/
theorem not_evicts_zero (queue rest : List α) : ¬ Evicts 0 queue rest := by
  intro h
  induction h with
  | full _ _ ih => exact ih
  | room h => exact absurd h (Nat.not_lt_zero _)

/-! ### Metrics -/

variable {e : Environment δ} {calls : List Call}

theorem after_concat (e : Environment δ) (calls : List Call) (call : Call) :
    e.after (calls ++ [call]) = (e.after calls).perform call := List.foldl_concat ..

theorem metricsCapacity_after (e : Environment δ) (calls : List Call) :
    (e.after calls).metricsCapacity = e.metricsCapacity := by
  induction calls using List.reverseRecOn with
  | nil => rfl
  | append_singleton calls call ih =>
    rw [after_concat, ← ih]
    cases call <;> rfl

theorem windowMetrics_recordMetrics (e : Environment δ) (n name : String) (metrics : WindowMetrics) :
    (e.recordMetrics n metrics).windowMetrics name
      = if name = n then makeRoom e.metricsCapacity (e.windowMetrics n) ++ [metrics]
        else e.windowMetrics name := by
  rw [windowMetrics, recordMetrics, SortedMap.get?_insert]
  split <;> rfl

/-- To the last records there are, one more is added. -/
theorem makeRoom_rtake {capacity : Nat} (hpos : 0 < capacity) (l : List α) (a : α) :
    makeRoom capacity (l.rtake capacity) ++ [a] = (l ++ [a]).rtake capacity := by
  obtain ⟨room, rfl⟩ : ∃ room, capacity = room + 1 := ⟨capacity - 1, by omega⟩
  have hdrop : l.length - (room + 1) + ((l.drop (l.length - (room + 1))).length + 1 - (room + 1))
      = l.length - room := by
    rw [List.length_drop]
    omega
  rw [List.rtake_concat_succ, makeRoom, List.rtake, List.rtake, List.drop_drop, hdrop]

theorem recorded_concat (name : String) (calls : List Call) (call : Call) :
    recorded name (calls ++ [call]) = recorded name calls ++ recorded name [call] :=
  List.filterMap_append

/-- A queue that starts empty has the last records of its name. -/
theorem windowMetrics_after {name : String} (h : e.windowMetrics name = []) (calls : List Call) :
    (e.after calls).windowMetrics name = (recorded name calls).rtake e.metricsCapacity := by
  induction calls using List.reverseRecOn with
  | nil => simpa [after, recorded, List.rtake_nil] using h
  | append_singleton calls call ih =>
    rw [after_concat, recorded_concat]
    cases call with
    | recordMetrics n metrics =>
      rw [perform, windowMetrics_recordMetrics]
      by_cases hname : name = n
      · subst hname
        rw [if_pos rfl, ih, metricsCapacity_after, makeRoom_rtake e.capacity_pos]
        simp [recorded]
      · rw [if_neg hname, ih]
        simp [recorded, Ne.symm hname]
    | upsertOperator | removeOperator =>
      -- these have no part in the metrics
      refine ih.trans ?_
      simp [recorded]

/-! ### Operators -/

theorem not_stands_nil (id : Int32) (operator : PhysicalOperator) : ¬ Stands id operator [] := by
  rintro ⟨before, later, hsplit, -⟩
  simp at hsplit

theorem stands_concat {id : Int32} {operator : PhysicalOperator} {call : Call} :
    Stands id operator (calls ++ [call]) ↔
      call = .upsertOperator operator.name operator.stats ∧ operator.stats.operatorId = id ∨
        ¬ call.Touches id ∧ Stands id operator calls := by
  constructor
  · rintro ⟨before, later, hsplit, hid, huntouched⟩
    rcases List.eq_nil_or_concat later with rfl | ⟨later, last, rfl⟩
    · obtain ⟨-, hlast⟩ := List.append_inj' hsplit rfl
      exact .inl ⟨List.head_eq_of_cons_eq hlast, hid⟩
    · rw [List.concat_eq_append] at hsplit huntouched
      rw [← List.cons_append, ← List.append_assoc] at hsplit
      obtain ⟨hcalls, hlast⟩ := List.append_inj' hsplit rfl
      cases hlast
      exact .inr ⟨huntouched call (by simp), before, later, hcalls, hid,
        fun c hc => huntouched c (List.mem_append_left _ hc)⟩
  · rintro (⟨rfl, hid⟩ | ⟨hcall, before, later, rfl, hid, huntouched⟩)
    · exact ⟨calls, [], rfl, hid, by simp⟩
    · refine ⟨before, later ++ [call], by simp, hid, fun c hc => ?_⟩
      rcases List.mem_append.1 hc with hc | hc
      · exact huntouched c hc
      · rw [List.mem_singleton.1 hc]
        exact hcall

/-- A call about an operator puts it there or takes it away, and no other call minds it. -/
theorem get?_perform (e : Environment δ) (call : Call) (id : Int32) (operator : PhysicalOperator) :
    (e.perform call).operators.get? id = some operator ↔
      call = .upsertOperator operator.name operator.stats ∧ operator.stats.operatorId = id ∨
        ¬ call.Touches id ∧ e.operators.get? id = some operator := by
  cases call with
  | recordMetrics n metrics => simp [perform, recordMetrics, Call.Touches]
  | upsertOperator name stats =>
    simp only [perform, upsertOperator, SortedMap.get?_insert, Call.Touches]
    by_cases hid : id = stats.operatorId
    · subst hid
      simp only [if_pos, Option.some.injEq, not_true_eq_false, false_and, or_false,
        Call.upsertOperator.injEq]
      constructor
      · rintro rfl
        exact ⟨⟨rfl, rfl⟩, rfl⟩
      · rintro ⟨⟨rfl, rfl⟩, -⟩
        rfl
    · simp only [if_neg hid, Ne.symm hid, not_false_eq_true, true_and, Call.upsertOperator.injEq]
      refine ⟨.inr, fun h => h.resolve_left ?_⟩
      rintro ⟨⟨-, rfl⟩, hsame⟩
      exact hid hsame.symm
  | removeOperator i =>
    simp only [perform, removeOperator, SortedMap.get?_erase, Call.Touches]
    by_cases hid : id = i
    · simp [hid]
    · simp [hid, Ne.symm hid]

/-- Where there were no operators, those are there that were put there last. -/
theorem get?_after (h : e.operators = ∅) (calls : List Call) (id : Int32)
    (operator : PhysicalOperator) :
    (e.after calls).operators.get? id = some operator ↔ Stands id operator calls := by
  induction calls using List.reverseRecOn with
  | nil =>
    have hnone : (e.after []).operators.get? id = none := by
      rw [after, List.foldl_nil, h]
      rfl
    simp [hnone, not_stands_nil]
  | append_singleton calls call ih => rw [after_concat, stands_concat, get?_perform, ih]

/-! ### Every history -/

variable (dag : δ) (c : Configuration) (version : Option String) (clock : Option WindowClock)
  (capacity : Option Nat)

theorem metricsCapacity_built :
    (built dag c version clock capacity).metricsCapacity = max (capacity.getD 100) 1 := by
  cases capacity <;> rfl

theorem windowMetrics_built (name : String) :
    (built dag c version clock capacity).windowMetrics name = [] := by
  cases capacity <;> rfl

theorem operators_built : (built dag c version clock capacity).operators = ∅ := by
  cases capacity <;> rfl

/-- However an environment is built and whatever is put in and taken out, the metrics of a name are
    the last records made under it, as many as the capacity says and one at least. The loop that makes
    room for the next record ends, in one way, as the capacity is never zero; without any it would not
    end. An operator's name and counters are those of the last call about its id, if that put it
    there, and only such an operator is there to be removed. -/
theorem snapshots_follow_history (calls : List Call) :
    let now := (built dag c version clock capacity).after calls
    (∀ name, now.windowMetrics name = (recorded name calls).rtake (max (capacity.getD 100) 1)) ∧
    (now.metricsCapacity = max (capacity.getD 100) 1 ∧ ∀ name metrics, ∃ rest,
      (∀ queue, Evicts now.metricsCapacity (now.windowMetrics name) queue ↔ queue = rest) ∧
      (now.recordMetrics name metrics).windowMetrics name = rest ++ [metrics]) ∧
    (∀ queue rest : List WindowMetrics, ¬ Evicts 0 queue rest) ∧
    (∀ id operator, Stands id operator calls →
      now.operatorName? id = some operator.name ∧ now.operatorStats? id = some operator.stats) ∧
    (∀ id, (¬ ∃ operator, Stands id operator calls) →
      now.operatorName? id = none ∧ now.operatorStats? id = none) ∧
    ∀ id, (now.removeOperator id).1 = true ↔ ∃ operator, Stands id operator calls := by
  intro now
  have hoperators := fun id operator =>
    get?_after (operators_built dag c version clock capacity) calls id operator
  have hcapacity : now.metricsCapacity = max (capacity.getD 100) 1 :=
    (metricsCapacity_after _ calls).trans (metricsCapacity_built ..)
  refine ⟨fun name => ?_, ⟨hcapacity, fun name metrics => ?_⟩, not_evicts_zero,
    fun id operator h => ?_, fun id h => ?_, fun id => ?_⟩
  · have hmetrics := windowMetrics_after (windowMetrics_built dag c version clock capacity name) calls
    rwa [metricsCapacity_built] at hmetrics
  · exact ⟨makeRoom now.metricsCapacity (now.windowMetrics name),
      fun queue => evicts_iff now.capacity_pos,
      (windowMetrics_recordMetrics ..).trans (if_pos rfl)⟩
  · have hget : now.operators.get? id = some operator := (hoperators id operator).2 h
    simp [operatorName?, operatorStats?, hget]
  · have hget : now.operators.get? id = none :=
      Option.eq_none_iff_forall_ne_some.2 fun operator hget => h ⟨operator, (hoperators id _).1 hget⟩
    simp [operatorName?, operatorStats?, hget]
  · rw [removeOperator, SortedMap.contains, Option.isSome_iff_exists]
    exact exists_congr fun operator => hoperators id operator

/-- Built without any capacity, an environment keeps one record of a name; an operator that is put in
    again is the newer one, and one that is taken out is gone. -/
theorem snapshots_follow_history_single :
    let metrics (n : UInt64) : WindowMetrics := ⟨⟨n⟩, ∅⟩
    let old : PhysicalOperator := ⟨"old", { operatorId := 3 }⟩
    let new : PhysicalOperator := ⟨"new", { operatorId := 3, latencyMillis := 12 }⟩
    let calls : List Call := [.recordMetrics "a" (metrics 1), .upsertOperator old.name old.stats,
      .recordMetrics "b" (metrics 2), .upsertOperator new.name new.stats, .recordMetrics "a" (metrics 3),
      .upsertOperator "gone" { operatorId := 4 }, .removeOperator 4]
    let now := (built () Configuration.empty none none (some 0)).after calls
    Stands 3 new calls ∧ (¬ ∃ operator, Stands 4 operator calls) ∧
      now.windowMetrics "a" = [metrics 3] ∧
      now.operatorName? 3 = some "new" ∧ now.operatorStats? 3 = some new.stats ∧
      now.operatorName? 4 = none ∧ now.operatorStats? 4 = none ∧ (now.removeOperator 3).1 = true := by
  intro metrics old new calls now
  obtain ⟨hmetrics, -, -, hstands, hgone, hremove⟩ :=
    snapshots_follow_history () Configuration.empty none none (some 0) calls
  have hnew : Stands 3 new calls := by
    refine ⟨calls.take 3, calls.drop 4, rfl, rfl, fun call hcall => ?_⟩
    simp only [calls, List.drop_succ_cons, List.drop_zero, List.mem_cons, List.not_mem_nil,
      or_false] at hcall
    rcases hcall with rfl | rfl | rfl <;> simp [Call.Touches]
  have hnone : ¬ ∃ operator, Stands 4 operator calls := by
    rintro ⟨operator, hoperator⟩
    rw [← get?_after (operators_built () Configuration.empty none none (some 0)) calls] at hoperator
    cases hoperator
  exact ⟨hnew, hnone, hmetrics "a", (hstands 3 new hnew).1, (hstands 3 new hnew).2, (hgone 4 hnone).1,
    (hgone 4 hnone).2, (hremove 3).2 ⟨new, hnew⟩⟩

end Environment

end PluginFabric
