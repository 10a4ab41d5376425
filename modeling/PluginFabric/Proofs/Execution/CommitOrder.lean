import Mathlib.Data.List.Induction
import PluginFabric.Proofs.Execution.Service

/-! Commits go forward only.

    Of the windows that are announced while the plugins are set up, in whichever of the two ways, the
    plugins get those that are past all announced before, each once and in order (`strictMaxima`); the
    last one committed is the greatest one announced. Nothing but the announced windows decides this:
    it makes no difference who handles them, nor how that ends. -/

namespace PluginFabric

/-! ### Strict maxima -/

/-- The window is past all of these. -/
def WindowId.Past (v : WindowId) (ws : List WindowId) : Prop := ∀ u ∈ ws, u.value < v.value

instance (v : WindowId) (ws : List WindowId) : Decidable (v.Past ws) :=
  inferInstanceAs (Decidable (∀ u ∈ ws, _))

/-- The windows of a list that are past all before them, where `seen` came first. -/
def strictMaxima (seen : List WindowId) : List WindowId → List WindowId
  | [] => []
  | v :: ws => (if v.Past seen then [v] else []) ++ strictMaxima (seen ++ [v]) ws

theorem strictMaxima_concat (seen ws : List WindowId) (v : WindowId) :
    strictMaxima seen (ws ++ [v])
      = strictMaxima seen ws ++ if v.Past (seen ++ ws) then [v] else [] := by
  induction ws generalizing seen with
  | nil => simp [strictMaxima]
  | cons u ws ih =>
    rw [List.cons_append, strictMaxima, strictMaxima, ih, List.append_assoc, List.append_assoc,
      List.singleton_append]

theorem mem_of_mem_strictMaxima {seen ws : List WindowId} {v : WindowId}
    (h : v ∈ strictMaxima seen ws) : v ∈ ws := by
  induction ws generalizing seen with
  | nil => exact h
  | cons u ws ih =>
    rw [strictMaxima] at h
    rcases List.mem_append.1 h with h | h
    · split at h
      · rw [List.mem_singleton.1 h]
        exact List.mem_cons_self
      · cases h
    · exact List.mem_cons_of_mem _ (ih h)

theorem pairwise_strictMaxima (ws : List WindowId) :
    (strictMaxima [] ws).Pairwise fun u v => u.value < v.value := by
  induction ws using List.reverseRecOn with
  | nil => exact .nil
  | append_singleton ws v ih =>
    rw [strictMaxima_concat, List.nil_append]
    split
    · rename_i hpast
      refine List.pairwise_append.2 ⟨ih, List.pairwise_singleton _ _, fun u hu v' hv' => ?_⟩
      rw [List.mem_singleton.1 hv']
      exact hpast u (mem_of_mem_strictMaxima hu)
    · rwa [List.append_nil]

example : strictMaxima [] [⟨0⟩, ⟨0⟩, ⟨3⟩, ⟨2⟩, ⟨3⟩, ⟨7⟩] = [⟨0⟩, ⟨3⟩, ⟨7⟩] := by decide

/-- The window is the greatest of these, if there are any. -/
def Greatest (last : Option WindowId) (ws : List WindowId) : Prop :=
  (last = none → ws = []) ∧ ∀ u ∈ last, u ∈ ws ∧ ∀ v ∈ ws, v.value ≤ u.value

section Greatest

variable {last : Option WindowId} {ws : List WindowId} {v : WindowId}

theorem Greatest.past_iff (h : Greatest last ws) : v.Past ws ↔ ∀ u ∈ last, u.value < v.value := by
  constructor
  · exact fun hv u hu => hv u (h.2 u hu).1
  · intro hv u hu
    cases last with
    | none =>
      rw [h.1 rfl] at hu
      cases hu
    | some top => exact UInt64.lt_of_le_of_lt ((h.2 top rfl).2 u hu) (hv top rfl)

theorem Greatest.concat_past (hv : v.Past ws) : Greatest (some v) (ws ++ [v]) := by
  refine ⟨fun h => (by cases h), fun u hu => ?_⟩
  cases hu
  refine ⟨List.mem_concat_self, fun x hx => ?_⟩
  rcases List.mem_append.1 hx with hx | hx
  · exact UInt64.le_of_lt (hv x hx)
  · rw [List.mem_singleton.1 hx]
    exact UInt64.le_refl _

theorem Greatest.concat_stale (h : Greatest last ws) (hv : ¬ ∀ u ∈ last, u.value < v.value) :
    Greatest last (ws ++ [v]) := by
  cases last with
  | none => exact absurd (fun u hu => (by cases hu)) hv
  | some top =>
    refine ⟨fun h0 => (by cases h0), fun u hu => ?_⟩
    cases hu
    obtain ⟨hmem, hle⟩ := h.2 top rfl
    refine ⟨List.mem_append_left _ hmem, fun x hx => ?_⟩
    rcases List.mem_append.1 hx with hx | hx
    · exact hle x hx
    · rw [List.mem_singleton.1 hx]
      exact UInt64.not_lt.1 fun hlt => hv fun u hu => (by cases hu; exact hlt)

theorem Greatest.eq_max? (h : Greatest last ws) :
    last.map (·.value.toNat) = (ws.map (·.value.toNat)).max? := by
  cases last with
  | none => simp [h.1 rfl]
  | some top =>
    obtain ⟨hmem, hle⟩ := h.2 top rfl
    symm
    refine List.max?_eq_some_iff.2 ⟨List.mem_map_of_mem hmem, fun b hb => ?_⟩
    obtain ⟨v, hv, rfl⟩ := List.mem_map.1 hb
    exact UInt64.le_iff_toNat_le.1 (hle v hv)

end Greatest

namespace ExecutionManager

variable {δ σ : Type} {n : Nat}

/-! ### What is announced and what is handled -/

/-- The window that a call announces, if the plugins are set up. -/
def announcing (m : ExecutionManager δ σ) (c : Call δ σ) : List WindowId :=
  if m.state = .setUp then (c.event?.bind ExecutionEvent.commitWindow?).toList else []

/-- The windows announced over a run while the plugins were set up. -/
def announced (r : Session δ σ) : List WindowId :=
  r.moments.flatMap fun mo => announcing mo.manager mo.call

/-- The windows that a plugin got. -/
def committedTo (id : PluginId) (t : Trace ExecutionEvent) : List WindowId :=
  t.handled.filterMap fun p => if p.1 = id then p.2.commitWindow? else none

/-- The manager minds the greatest window announced, and accepted those past all before them. -/
structure Minds (m : ExecutionManager δ σ) (t : Trace ExecutionEvent) (ws : List WindowId) :
    Prop where
  last : Greatest m.lastCommitted ws
  dispatched : t.dispatched.filterMap ExecutionEvent.commitWindow? = strictMaxima [] ws

section Call

variable {m : ExecutionManager δ σ} {t : Trace ExecutionEvent} {event : ExecutionEvent}
  {c : Call δ σ} {ws : List WindowId} {enrolled : List (Enrolled δ σ)}

theorem lastCommitted_noting (m : ExecutionManager δ σ) (event : ExecutionEvent) :
    (m.noting event).lastCommitted = event.commitWindow?.or m.lastCommitted := by
  cases event <;> rfl

/-- An accepted commit is past all windows announced before, and is the last one now. -/
theorem Minds.accepted (h : m.Minds t ws) (hin : InService n enrolled m t)
    (hc : c.event? = some event) (hacc : m.Accepts event) (w : σ) :
    (m.perform w c).manager.Minds (t ++ (m.perform w c).trace) (ws ++ announcing m c) := by
  obtain ⟨hman, -, -, hdis⟩ := perform_accepted hin hc hacc w
  rw [announcing, if_pos hacc.1, hc, Option.bind_some]
  cases hwindow : event.commitWindow? with
  | none =>
    refine ⟨?_, ?_⟩
    · rw [hman, lastCommitted_noting, hwindow, Option.toList_none, List.append_nil]
      exact h.last
    · simpa [hdis, hwindow] using h.dispatched
  | some v =>
    have hpast : v.Past ws := h.last.past_iff.2 (hacc.2 v hwindow)
    refine ⟨?_, ?_⟩
    · rw [hman, lastCommitted_noting, hwindow]
      exact .concat_past hpast
    · rw [Option.toList_some, strictMaxima_concat, List.nil_append, if_pos hpast, ← h.dispatched]
      simp [hdis, hwindow]

/-- A refused event announces nothing, or a window that is not past the last one. -/
theorem Minds.refused (h : m.Minds t ws) (hc : c.event? = some event) (hno : ¬ m.Accepts event)
    (w : σ) : (m.perform w c).manager.Minds (t ++ (m.perform w c).trace) (ws ++ announcing m c) := by
  obtain ⟨hman, -, -, hdis⟩ := perform_refused hc hno w
  have hquiet : (t ++ (m.perform w c).trace).dispatched = t.dispatched := by simp [hdis]
  rw [hman, announcing]
  by_cases hs : m.state = .setUp
  · cases hwindow : event.commitWindow? with
    | none => exact absurd ⟨hs, by simp [hwindow]⟩ hno
    | some v =>
      have hstale : ¬ ∀ u ∈ m.lastCommitted, u.value < v.value := fun hlt =>
        hno ⟨hs, fun v' hv' => (by rw [hwindow] at hv'; cases hv'; exact hlt)⟩
      rw [if_pos hs, hc, Option.bind_some, hwindow, Option.toList_some]
      refine ⟨h.last.concat_stale hstale, ?_⟩
      rw [strictMaxima_concat, List.nil_append, if_neg (mt h.last.past_iff.1 hstale), List.append_nil,
        hquiet]
      exact h.dispatched
  · rw [if_neg hs, List.append_nil]
    exact ⟨h.last, hquiet ▸ h.dispatched⟩

/-- Every call keeps the greatest window in mind. -/
theorem Minds.perform (h : m.Minds t ws) (hin : InService n enrolled m t) (w : σ) (c : Call δ σ) :
    (m.perform w c).manager.Minds (t ++ (m.perform w c).trace) (ws ++ announcing m c) := by
  cases hc : c.event? with
  | some event =>
    by_cases hacc : m.Accepts event
    · exact h.accepted hin hc hacc w
    · exact h.refused hc hacc w
  | none =>
    obtain ⟨hquiet, hlast⟩ := perform_silent (m := m) hc w
    have hnone : announcing m c = [] := by simp [announcing, hc]
    refine ⟨?_, ?_⟩
    · rw [hnone, List.append_nil, hlast]
      exact h.last
    · rw [hnone, List.append_nil, Trace.dispatched_append, hquiet.1, List.append_nil]
      exact h.dispatched

end Call

/-- A plugin that wants commits gets each of them that is accepted, and another one gets none. -/
theorem committedTo_eq {m : ExecutionManager δ σ} {t : Trace ExecutionEvent}
    {enrolled : List (Enrolled δ σ)} (h : InService n enrolled m t) (id : PluginId) :
    committedTo id t = if id ∈ (recipients enrolled .commit).map (·.1)
      then t.dispatched.filterMap ExecutionEvent.commitWindow? else [] := by
  have hids := h.serves.nodup_recipients ExecutionTag.commit
  have once : ∀ event : ExecutionEvent,
      ((recipients enrolled event.kind).map fun p => (p.1, event)).filterMap
          (fun p => if p.1 = id then p.2.commitWindow? else none)
        = if id ∈ (recipients enrolled .commit).map (·.1) then event.commitWindow?.toList else [] := by
    intro event
    cases hwindow : event.commitWindow? with
    | none => simp [List.filterMap_map, hwindow]
    | some v =>
      obtain rfl := eq_commit_of_commitWindow? hwindow
      rw [List.filterMap_map]
      exact filterMap_owner hids id v
  rw [committedTo, h.serves.handled, List.filterMap_flatMap]
  refine (List.flatMap_congr fun event _ => once event).trans ?_
  split
  · rw [List.filterMap_eq_flatMap_toList]
  · simp

/-! ### Two ways to announce a commit -/

/-- A call, and the call that announces the same commit in the other way. -/
inductive Call.Swaps : Call δ σ → Call δ σ → Prop where
  | same (c : Call δ σ) : Swaps c c
  | dispatched (v : WindowId) : Swaps (.commit v) (.dispatch (.commit v))
  | committed (v : WindowId) : Swaps (.dispatch (.commit v)) (.commit v)

/-- The replies to two calls that swap: the same, with an empty report for a commit that was not
    accepted. -/
inductive Call.Replies : Call δ σ → Reply → Call δ σ → Reply → Prop where
  | same (c : Call δ σ) (a : Reply) : Replies c a c a
  | dispatched (v : WindowId) (o : Option DispatchReport) :
    Replies (.commit v) (.committed o) (.dispatch (.commit v)) (.report (o.getD {}))
  | committed (v : WindowId) (o : Option DispatchReport) :
    Replies (.dispatch (.commit v)) (.report (o.getD {})) (.commit v) (.committed o)

/-- Two calls found the same manager and world, and left the same behind, each with its own reply. -/
structure Alike (a b : Moment (ExecutionManager δ σ) σ ExecutionEvent (Call δ σ) Reply) : Prop where
  manager : a.manager = b.manager
  world : a.world = b.world
  replies : a.call.Replies a.left.answer b.call b.left.answer
  left_manager : a.left.manager = b.left.manager
  left_world : a.left.world = b.left.world
  left_trace : a.left.trace = b.left.trace

theorem alike_of_swaps {c c' : Call δ σ} (h : c.Swaps c') (m : ExecutionManager δ σ) (w : σ) :
    Alike ⟨c, m, w, m.perform w c⟩ ⟨c', m, w, m.perform w c'⟩ := by
  cases h with
  | same => exact ⟨rfl, rfl, .same _ _, rfl, rfl, rfl⟩
  | dispatched v => exact ⟨rfl, rfl, .dispatched v (m.commit v w).answer, rfl, rfl, rfl⟩
  | committed v => exact ⟨rfl, rfl, .committed v (m.commit v w).answer, rfl, rfl, rfl⟩

theorem trace_eq_of_alike {r r' : Session δ σ}
    (h : List.Forall₂ Alike r.moments r'.moments) : r.trace = r'.trace := by
  obtain ⟨m, w, moments⟩ := r
  obtain ⟨m', w', moments'⟩ := r'
  rw [Run.trace, Run.trace]
  dsimp only at h ⊢
  induction h with
  | nil => rfl
  | cons halike _ ih => rw [List.flatMap_cons, List.flatMap_cons, halike.left_trace, ih]

/-- Swapping ways to announce commits changes nothing but the replies to the swapped calls. -/
theorem run_swaps (plugins : List (ExecutionPlugin δ σ)) (environment : Environment δ) (w : σ)
    {calls calls' : List (Call δ σ)} (swaps : List.Forall₂ Call.Swaps calls calls') :
    let r := run plugins environment w calls
    let r' := run plugins environment w calls'
    r.manager = r'.manager ∧ r.world = r'.world ∧ List.Forall₂ Alike r.moments r'.moments := by
  refine Run.run_induction₂ (P := fun r r' => r.manager = r'.manager ∧ r.world = r'.world ∧
    List.Forall₂ Alike r.moments r'.moments) ⟨rfl, rfl, .nil⟩ ?_ swaps
  rintro ⟨m, w, moments⟩ ⟨_, _, moments'⟩ c c' hc ⟨rfl, rfl, hmoments⟩
  have halike := alike_of_swaps hc m w
  refine ⟨halike.left_manager, halike.left_world, ?_⟩
  rw [Run.moments_advance, Run.moments_advance]
  exact List.rel_append hmoments (.cons halike .nil)

/-! ### A run -/

theorem minds_run (plugins : List (ExecutionPlugin δ σ)) (environment : Environment δ) (w : σ)
    (calls : List (Call δ σ)) :
    let r := run plugins environment w calls
    InService plugins.length (roster r) r.manager r.trace ∧
      r.manager.Minds r.trace (announced r) := by
  refine inService_induction (P := fun r => r.manager.Minds r.trace (announced r)) ?_ ?_ calls
  · exact ⟨⟨fun _ => rfl, fun u hu => (by cases hu)⟩, rfl⟩
  · intro r c hin hminds
    rw [announced, Run.flatMap_moments_advance, Run.manager_advance, Run.trace_advance]
    exact hminds.perform hin r.world c

/-- Over every run the commits that plugins get are the strict maxima of the windows announced, the
    last one is the greatest of them, the next commit is answered by this, and it makes no difference
    in which of the two ways commits are announced. -/
theorem commits_in_order (plugins : List (ExecutionPlugin δ σ)) (environment : Environment δ) (w : σ)
    (calls : List (Call δ σ)) :
    let r := run plugins environment w calls
    let ws := announced r
    r.trace.dispatched.filterMap ExecutionEvent.commitWindow? = strictMaxima [] ws ∧
    (strictMaxima [] ws).Pairwise (fun u v => u.value < v.value) ∧
    (∀ id, committedTo id r.trace
      = if id ∈ (recipients (roster r) .commit).map (·.1) then strictMaxima [] ws else []) ∧
    r.manager.lastCommitted.map (·.value.toNat) = (ws.map (·.value.toNat)).max? ∧
    (∀ v w', (r.manager.commit v w').answer.isSome ↔ r.manager.state = .setUp ∧ v.Past ws) ∧
    (∀ calls', List.Forall₂ Call.Swaps calls calls' →
      let r' := run plugins environment w calls'
      r.manager = r'.manager ∧ r.world = r'.world ∧ r.trace = r'.trace ∧
        List.Forall₂ Alike r.moments r'.moments) := by
  intro r ws
  obtain ⟨hin, hminds⟩ := minds_run plugins environment w calls
  refine ⟨hminds.dispatched, pairwise_strictMaxima ws, fun id => ?_, hminds.last.eq_max?, ?_, ?_⟩
  · rw [committedTo_eq hin id, hminds.dispatched]
  · intro v w'
    have hacc : r.manager.Accepts (.commit v) ↔ r.manager.state = .setUp ∧ v.Past ws := by
      rw [hminds.last.past_iff, Accepts]
      exact and_congr_right fun _ => ⟨fun h => h v rfl, fun h v' hv' => (by cases hv'; exact h)⟩
    rw [← hacc]
    rcases commit_cases r.manager v w' with ⟨hyes, hd⟩ | ⟨hno, notice, hd⟩
    · simp [hd, hyes]
    · simp [hd, hno]
  · intro calls' swaps
    obtain ⟨hman, hworld, hmoments⟩ := run_swaps plugins environment w swaps
    exact ⟨hman, hworld, trace_eq_of_alike hmoments, hmoments⟩

end ExecutionManager

end PluginFabric
