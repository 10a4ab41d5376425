import PluginFabric.Plugin.Contract

/-! What is read off a trace.

    Each reading of a trace (its calls of plugin code, whose setup or teardown is called, which events
    are accepted, who handles them) distributes over concatenation and finds nothing in notices. What
    concerns calls of plugin code alone can be read off these. -/

namespace PluginFabric.Trace

variable {ε : Type} (s t : Trace ε) (o : Occurrence ε) (notices : List Notice)

/-! ### Concatenation -/

@[simp] theorem calls_append : calls (s ++ t) = calls s ++ calls t := List.filter_append ..

@[simp] theorem setUps_append : setUps (s ++ t) = setUps s ++ setUps t := List.filterMap_append ..

@[simp] theorem dispatched_append : dispatched (s ++ t) = dispatched s ++ dispatched t :=
  List.filterMap_append ..

@[simp] theorem handled_append : handled (s ++ t) = handled s ++ handled t := List.filterMap_append ..

@[simp] theorem tearDowns_append : tearDowns (s ++ t) = tearDowns s ++ tearDowns t :=
  List.filterMap_append ..

/-! ### One occurrence -/

@[simp] theorem calls_nil : calls ([] : Trace ε) = [] := rfl

@[simp] theorem dispatched_nil : dispatched ([] : Trace ε) = [] := rfl

theorem calls_cons : calls (o :: t) = if o.isCall then o :: calls t else calls t := List.filter_cons ..

theorem dispatched_cons : dispatched (o :: t) = o.dispatched?.toList ++ dispatched t := by
  cases o <;> rfl

theorem handled_cons : handled (o :: t) = o.handled?.toList ++ handled t := by cases o <;> rfl

/-! ### Notices -/

@[simp] theorem calls_ofNotices : calls (ofNotices notices : Trace ε) = [] := by
  simp [calls, ofNotices, Occurrence.isCall]

@[simp] theorem handled_ofNotices : handled (ofNotices notices : Trace ε) = [] := by
  simp [handled, ofNotices, Occurrence.handled?]

@[simp] theorem dispatched_ofNotices : dispatched (ofNotices notices : Trace ε) = [] := by
  simp [dispatched, ofNotices, Occurrence.dispatched?]

/-- The calls of handlers in a trace. -/
def handlerCalls (t : Trace ε) : Trace ε := t.filter fun o => o.handled?.isSome

/-! ### Readings of the calls -/

theorem setUps_calls : setUps (calls t) = setUps t := by
  simp only [setUps, calls, List.filterMap_filter]
  congr 1
  funext o
  cases o <;> rfl

theorem handled_calls : handled (calls t) = handled t := by
  simp only [handled, calls, List.filterMap_filter]
  congr 1
  funext o
  cases o <;> rfl

theorem handlerCalls_calls : handlerCalls (calls t) = handlerCalls t := by
  rw [handlerCalls, calls, List.filter_filter]
  refine List.filter_congr fun o _ => ?_
  cases o <;> rfl

theorem tearDowns_calls : tearDowns (calls t) = tearDowns t := by
  simp only [tearDowns, calls, List.filterMap_filter]
  congr 1
  funext o
  cases o <;> rfl

variable {s t o}

/-- No event is accepted, and none is handled. -/
def Quiet (t : Trace ε) : Prop := t.dispatched = [] ∧ t.handled = []

theorem Quiet.append (hs : Quiet s) (ht : Quiet t) : Quiet (s ++ t) := by
  simp [Quiet, hs.1, hs.2, ht.1, ht.2]

theorem Quiet.handlerCalls (h : Quiet t) : t.handlerCalls = [] := by
  have hnone : ∀ o ∈ t, o.handled? = none := List.filterMap_eq_nil_iff.1 h.2
  exact List.filter_eq_nil_iff.2 fun o ho => (by simp [hnone o ho])

theorem quiet_said (notice : Notice) : Quiet ([.said notice] : Trace ε) := ⟨rfl, rfl⟩

theorem mem_calls : o ∈ calls t ↔ o ∈ t ∧ o.isCall = true := List.mem_filter

end PluginFabric.Trace
