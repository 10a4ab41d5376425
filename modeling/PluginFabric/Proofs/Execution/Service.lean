import PluginFabric.Proofs.Lifecycle.Safety
import PluginFabric.Proofs.Service

/-! A run of the plugins of an application serves every event it accepts.

    The roster of a run is what its setups enrolled. An accepted event goes to all whom the roster
    names for its kind, whichever call announced it (`perform_accepted`); for any other event nothing
    is done (`perform_refused`). -/

namespace PluginFabric.ExecutionManager

variable {δ σ : Type} {n : Nat}

/-- A plugin of an application, and what it registered. -/
abbrev Enrolled (δ σ : Type) := Enrolment (Environment δ) σ ExecutionEvent ExecutionTag

/-- The plugins whose setup a run called, and what they registered. -/
def roster (r : Session δ σ) : List (Enrolled δ σ) :=
  r.moments.flatMap fun mo => match mo.call with
    | .setUp => mo.manager.host.enrolling mo.manager.environment mo.world
    | _ => []

theorem roster_advance (r : Session δ σ) (c : Call δ σ) :
    roster (r.advance perform c) = roster r ++ match c with
      | .setUp => r.manager.host.enrolling r.manager.environment r.world
      | _ => [] := by
  rw [roster, Run.flatMap_moments_advance]
  rfl

/-- A manager of `n` plugins, of which some enrolled and were called for `t` so far. -/
structure InService (n : Nat) (enrolled : List (Enrolled δ σ)) (m : ExecutionManager δ σ)
    (t : Trace ExecutionEvent) : Prop where
  sound : Sound n m t
  serves : m.host.Serves n enrolled t

section Call

variable {m : ExecutionManager δ σ} {t : Trace ExecutionEvent} {event : ExecutionEvent}
  {c : Call δ σ} {enrolled : List (Enrolled δ σ)}

/-- A call that announces no event makes no handler run, and leaves the last commit as it is. -/
theorem perform_silent (hc : c.event? = none) (w : σ) :
    (m.perform w c).trace.Quiet ∧ (m.perform w c).manager.lastCommitted = m.lastCommitted := by
  cases c with
  | setUp => exact ⟨Host.quiet_setUp .., rfl⟩
  | tearDown => exact ⟨Host.quiet_tearDown .., rfl⟩
  | meanwhile => exact ⟨⟨rfl, rfl⟩, rfl⟩
  | _ => cases hc

/-- Nothing is done for an event that is not accepted. -/
theorem perform_refused (hc : c.event? = some event) (hno : ¬ m.Accepts event) (w : σ) :
    let done := m.perform w c
    done.manager = m ∧ done.world = w ∧ done.trace.calls = [] ∧ done.trace.dispatched = [] := by
  obtain ⟨hman, hworld, htrace⟩ := perform_event hc m w
  rcases dispatch_cases m event w with ⟨hacc, -⟩ | ⟨-, notice, hd⟩
  · exact absurd hacc hno
  · rw [hd] at hman hworld htrace
    exact ⟨hman, hworld, congrArg Trace.calls htrace, congrArg Trace.dispatched htrace⟩

/-- An accepted event goes to everyone whom the roster names for its kind, and to no one else. -/
theorem perform_accepted (h : InService n enrolled m t) (hc : c.event? = some event)
    (hacc : m.Accepts event) (w : σ) :
    let done := m.perform w c
    let pass := callEach m.environment event (recipients enrolled event.kind) w
    done.manager = m.noting event ∧ done.world = pass.world ∧ done.trace.calls = pass.calls ∧
      done.trace.dispatched = [event] := by
  obtain ⟨hman, hworld, htrace⟩ := perform_event hc m w
  rcases dispatch_cases m event w with ⟨-, hd⟩ | ⟨hno, -⟩
  · obtain ⟨hcalls, hafter, hdis⟩ := dispatch_entries m.host.registry m.environment event w
    rw [(h.serves.enrolled hacc.1).2, handlersFor_entries] at hcalls hafter
    rw [hd] at hman hworld htrace
    exact ⟨hman, hworld.trans hafter, (congrArg Trace.calls htrace).trans hcalls,
      (congrArg Trace.dispatched htrace).trans hdis⟩
  · exact absurd hacc hno

theorem InService.announce (h : InService n enrolled m t) (hc : c.event? = some event) (w : σ) :
    (m.perform w c).manager.host.Serves n enrolled (t ++ (m.perform w c).trace) := by
  by_cases hacc : m.Accepts event
  · obtain ⟨hman, -, hcalls, hdis⟩ := perform_accepted h hc hacc w
    have hdispatch := (dispatch_entries m.host.registry m.environment event w).1
    rw [(h.serves.enrolled hacc.1).2, handlersFor_entries] at hdispatch
    refine h.serves.dispatch hacc.1 m.environment event w ?_ ?_ (hcalls.trans hdispatch.symm) hdis
    · rw [hman, host_noting]
    · rw [hman, host_noting]
  · obtain ⟨hman, -, hcalls, hdis⟩ := perform_refused hc hacc w
    have hquiet : (m.perform w c).trace.Quiet := ⟨hdis, by rw [← Trace.handled_calls, hcalls]; rfl⟩
    exact h.serves.quiet hquiet (by rw [hman]) (by rw [hman])

end Call

/-- Every call leaves the manager in service. -/
theorem inService_advance (r : Session δ σ) (c : Call δ σ)
    (h : InService n (roster r) r.manager r.trace) :
    InService n (roster (r.advance perform c)) (r.advance perform c).manager
      (r.advance perform c).trace := by
  have hsound := h.sound.perform r.world c
  rw [roster_advance, Run.manager_advance, Run.trace_advance]
  cases c with
  | setUp =>
    exact ⟨hsound, h.serves.setUp h.sound.positioned .execution r.manager.environment r.world⟩
  | tearDown =>
    rw [List.append_nil]
    exact ⟨hsound, h.serves.tornDown (Host.quiet_tearDown ..) (Host.state_tearDown ..)⟩
  | meanwhile environment world =>
    rw [List.append_nil]
    exact ⟨hsound, h.serves.quiet ⟨rfl, rfl⟩ rfl rfl⟩
  | _ =>
    rw [List.append_nil]
    exact ⟨hsound, h.announce rfl r.world⟩

theorem inService_ofPlugins (plugins : List (ExecutionPlugin δ σ)) (environment : Environment δ) :
    InService plugins.length [] (ofPlugins plugins environment) [] :=
  ⟨sound_ofPlugins plugins environment, Host.serves_ofPlugins plugins⟩

/-- Every run is in service; and what every call preserves of a run that is, holds of every run. -/
theorem inService_induction {plugins : List (ExecutionPlugin δ σ)} {environment : Environment δ}
    {w : σ} {P : Session δ σ → Prop}
    (start : P { manager := ofPlugins plugins environment, world := w })
    (step : ∀ r c, InService plugins.length (roster r) r.manager r.trace → P r →
      P (r.advance perform c)) (calls : List (Call δ σ)) :
    let r := run plugins environment w calls
    InService plugins.length (roster r) r.manager r.trace ∧ P r := by
  refine run_invariant (P := fun r => InService plugins.length (roster r) r.manager r.trace ∧ P r)
    ⟨inService_ofPlugins plugins environment, start⟩ ?_ calls
  rintro r c ⟨hin, hr⟩
  exact ⟨inService_advance r c hin, step r c hin hr⟩

/-- Whoever is on the roster of a run is one of its plugins. -/
theorem stemsFrom_of_mem_roster {plugins : List (ExecutionPlugin δ σ)} {environment : Environment δ}
    {w : σ} {calls : List (Call δ σ)} {e : Enrolled δ σ}
    (he : e ∈ roster (run plugins environment w calls)) : e.StemsFrom plugins := by
  let P : Session δ σ → Prop := fun r =>
    r.manager.host.members = (Host.ofPlugins plugins).members ∧ ∀ e ∈ roster r, e.StemsFrom plugins
  suffices h : P (run plugins environment w calls) from h.2 e he
  refine (inService_induction (P := P) ⟨rfl, fun e he => (by cases he)⟩ ?_ calls).2
  rintro r c hin ⟨hmembers, hstems⟩
  refine ⟨(passage_perform hin.sound.positioned r.world c).2.trans hmembers, fun e he => ?_⟩
  rw [roster_advance] at he
  rcases List.mem_append.1 he with he | he
  · exact hstems e he
  · cases c with
    | setUp => exact Host.stemsFrom_of_mem_enrolling hmembers he
    | _ => cases he

end PluginFabric.ExecutionManager
