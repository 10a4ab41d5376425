import PluginFabric.Proofs.Lifecycle.History

/-! Every operation of a host is a passage.

    Setting up, tearing down and dispatching are all that calls plugin code, and each of them leads
    from one shape of a history to another. -/

namespace PluginFabric.Lifecycle

variable {ρ ω ε κ : Type} [EventTag κ] {n : Nat} {h : Host ρ ω ε κ}

/-- Setups of members that are identified by their positions. -/
theorem settingUps_eq_succeeding {π : Type} {ms : List (PluginId × π)} {k : Nat}
    (hms : ms.map (·.1) = List.range k) :
    ms.map (fun m => (.settingUp m.1 (.ok ()) : Occurrence ε)) = succeeding k := by
  rw [succeeding, ← hms, List.map_map]
  rfl

omit [EventTag κ] in
theorem undone_tearDownEach (ctx : ρ) {ms : List (PluginId × Plugin ρ ω ε κ)} {k : Nat}
    (hms : ms.map (·.1) = List.range k) (w : ω) :
    Undone k (Host.tearDownEach ctx ms w).trace.calls := by
  rw [Undone, Host.calls_tearDownEach, ← hms, List.map_map]
  rfl

/-- What stands before some position of a range is the range up to there. -/
theorem range_split {ids rest : List Nat} {i n : Nat} (h : ids ++ i :: rest = List.range n) :
    ids = List.range ids.length ∧ i = ids.length ∧ ids.length < n := by
  have hlen : ids.length < n := by
    have := congrArg List.length h
    simp only [List.length_append, List.length_cons, List.length_range] at this
    omega
  refine ⟨?_, ?_, hlen⟩
  · have := congrArg (List.take ids.length) h
    rwa [List.take_left, List.take_range, Nat.min_eq_left (by omega)] at this
  · have := congrArg (·[ids.length]?) h
    simpa [List.getElem?_range hlen] using this

theorem passage_setUp (hn : h.Positioned n) (domain : Domain) (ctx : ρ) (w : ω) :
    Passage n h.state (h.setUp domain ctx w).trace.calls (h.setUp domain ctx w).manager.state := by
  have hpass := Host.setUpEach_cases domain ctx h.members h.registry w
  rcases Host.setUp_cases domain ctx h w with
    ⟨-, hdone⟩ | ⟨hs, hnone, -, hman, -, hcalls⟩ | ⟨hs, plugin, cause, hsome, -, hman, -, hcalls⟩
  · rw [hdone]
    exact .quiet _
  · rcases hpass with ⟨-, -, h3⟩ | ⟨m, rest, o, cause, -, -, h3, -⟩
    · rw [hs, hman, hcalls, h3, settingUps_eq_succeeding hn]
      exact .ready
    · rw [hnone] at h3
      cases h3
  · rcases hpass with ⟨h1, -, -⟩ | ⟨m, rest, o, cause', hsplit, hout, -, h4⟩
    · rw [h1] at hsome
      cases hsome
    · -- the plugins before the failing one are the first ones, and it stands right behind them
      generalize hready : (Host.setUpEach domain ctx h.members h.registry w).ready = ready at *
      have hids : ready.map (·.1) ++ m.1 :: rest.map (·.1) = List.range n := by
        rw [← hn, hsplit]
        simp
      obtain ⟨hfirst, hat, hlt⟩ := range_split hids
      rw [hs, hman, hcalls, h4, settingUps_eq_succeeding hfirst, hat, List.append_assoc]
      exact .rolledBack hlt (Outcome.isOk_of_toExcept hout) (undone_tearDownEach ctx hfirst _)

theorem passage_tearDown (hn : h.Positioned n) (ctx : ρ) (w : ω) :
    Passage n h.state (h.tearDown ctx w).trace.calls (h.tearDown ctx w).manager.state := by
  rcases Host.tearDown_cases ctx h w with ⟨hs, -, hman, -, hcalls⟩ | ⟨hs, hdone⟩ | ⟨hs, hdone⟩
  · rw [hs, hman, hcalls]
    exact .finished (undone_tearDownEach ctx hn w)
  · rw [hs, hdone]
    exact .givenUp
  · rw [hdone]
    exact .quiet _

/-- A dispatch calls nothing but handlers. -/
theorem onlyHandling_dispatch [Tagged ε κ] (r : Registry κ (Handler ρ ω ε)) (ctx : ρ) (event : ε)
    (w : ω) : OnlyHandling (r.dispatch ctx event w).trace.calls := by
  intro o ho
  rw [(dispatch_entries r ctx event w).1] at ho
  obtain ⟨id, outcome, rfl⟩ := mem_callEach ho
  exact ⟨id, event, outcome, rfl⟩

end PluginFabric.Lifecycle
