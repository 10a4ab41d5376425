import Mathlib.Data.List.Nodup
import PluginFabric.Proofs.Host

/-! Every accepted event reaches everyone who asked for it.

    The plugins that a setup was called of stand on a roster, in order and with what they registered.
    While a host is set up, its registry holds this roster; so the handlers called over a run are, for
    one accepted event after the other, those that the roster names (`Serves`). -/

namespace PluginFabric

variable {ρ ω ε κ : Type} [EventTag κ]

/-- The plugin at this position of a list made these registrations when it was set up. -/
def Enrolment.StemsFrom (plugins : List (Plugin ρ ω ε κ)) (e : Enrolment ρ ω ε κ) : Prop :=
  ∃ plugin ctx w, plugins[e.id]? = some plugin ∧
    e = ⟨e.id, plugin.name, (plugin.setup ctx e.id w).registrations⟩

namespace Host

/-- The plugins whose setup is called if the host is set up in this world, and what they register. -/
def enrolling (ctx : ρ) (h : Host ρ ω ε κ) (w : ω) : List (Enrolment ρ ω ε κ) :=
  if h.state = .notSetUp then enrolments ctx h.members w else []

theorem stemsFrom_of_mem_enrolling {plugins : List (Plugin ρ ω ε κ)} {h : Host ρ ω ε κ} {ctx : ρ}
    {w : ω} {e : Enrolment ρ ω ε κ} (same : h.members = (ofPlugins plugins).members)
    (he : e ∈ h.enrolling ctx w) : e.StemsFrom plugins := by
  rw [enrolling] at he
  split at he
  · obtain ⟨plugin, w', hmem, heq⟩ := mem_enrolments he
    rw [same, ofPlugins] at hmem
    obtain ⟨p, hp, hpair⟩ := List.mem_map.1 hmem
    obtain ⟨hid, rfl⟩ := Prod.mk.inj hpair
    refine ⟨p.1, ctx, w', ?_, heq⟩
    rw [← hid]
    exact List.mem_zipIdx_iff_getElem?.1 hp
  · cases he

variable [Tagged ε κ] [DecidableEq κ]

/-- A host of `n` plugins with this roster has served all events it accepted in `t`. -/
structure Serves (n : Nat) (h : Host ρ ω ε κ) (roster : List (Enrolment ρ ω ε κ)) (t : Trace ε) :
    Prop where
  positions : roster.map (·.id) <+: List.range n
  untouched : h.state = .notSetUp → h.registry.entries.toList = [] ∧ roster = [] ∧ t.dispatched = []
  enrolled : h.state = .setUp →
    roster.map (·.id) = List.range n ∧ h.registry.entries.toList = roster.map Enrolment.entry
  handled : t.handled
    = t.dispatched.flatMap fun event => (recipients roster (tag event)).map fun p => (p.1, event)

variable {n : Nat} {h h' : Host ρ ω ε κ} {roster : List (Enrolment ρ ω ε κ)} {s t : Trace ε}

theorem serves_ofPlugins (plugins : List (Plugin ρ ω ε κ)) :
    (ofPlugins plugins).Serves n [] [] where
  positions := List.nil_prefix
  untouched _ := ⟨rfl, rfl, rfl⟩
  enrolled hs := by cases hs
  handled := rfl

/-- Nothing changes by what is neither a setup nor a dispatch. -/
theorem Serves.quiet (hserves : h.Serves n roster t) (hs : s.Quiet) (hstate : h'.state = h.state)
    (hregistry : h'.registry = h.registry) : h'.Serves n roster (t ++ s) where
  positions := hserves.positions
  untouched h0 := by
    obtain ⟨h1, h2, h3⟩ := hserves.untouched (hstate ▸ h0)
    exact ⟨hregistry ▸ h1, h2, by simp [h3, hs.1]⟩
  enrolled h1 := hregistry ▸ hserves.enrolled (hstate ▸ h1)
  handled := by simpa [hs.1, hs.2] using hserves.handled

/-- After a teardown nothing more is accepted. -/
theorem Serves.tornDown (hserves : h.Serves n roster t) (hs : s.Quiet) (hstate : h'.state = .tornDown) :
    h'.Serves n roster (t ++ s) where
  positions := hserves.positions
  untouched h0 := by rw [hstate] at h0; cases h0
  enrolled h1 := by rw [hstate] at h1; cases h1
  handled := by simpa [hs.1, hs.2] using hserves.handled

/-- A setup fills the roster with the plugins it calls; later ones find it filled. -/
theorem Serves.setUp (hserves : h.Serves n roster t) (hn : h.Positioned n) (domain : Domain) (ctx : ρ)
    (w : ω) :
    (h.setUp domain ctx w).manager.Serves n (roster ++ h.enrolling ctx w)
      (t ++ (h.setUp domain ctx w).trace) := by
  have hquiet := quiet_setUp domain ctx h w
  by_cases hs : h.state = .notSetUp
  · obtain ⟨hreg, rfl, hdis⟩ := hserves.untouched hs
    have hhandled : t.handled = [] := by simpa [hdis] using hserves.handled
    have hids : (enrolments ctx h.members w).map (·.id) <+: List.range n := by
      rw [← hn]
      exact ids_enrolments ctx h.members w
    have hentries := entries_setUpEach domain ctx hn.ascending (r := h.registry) (by simp [hreg]) w
    rw [hreg, List.nil_append] at hentries
    rw [enrolling, if_pos hs, List.nil_append]
    rcases setUp_cases domain ctx h w with ⟨hne, -⟩ | ⟨-, hready, -, hman, -⟩ | ⟨-, _, _, -, -, hman, -⟩
    · exact absurd hs hne
    · have hall : (enrolments ctx h.members w).map (·.id) = List.range n := by
        rw [← hn]
        exact ids_enrolments_of_ready domain ctx h.members h.registry w hready
      rw [hman]
      refine ⟨hids, fun h0 => (by cases h0), fun _ => ⟨hall, hentries⟩, ?_⟩
      simp [hdis, hhandled, hquiet.1, hquiet.2]
    · rw [hman]
      refine ⟨hids, fun h0 => (by cases h0), fun h1 => (by cases h1), ?_⟩
      simp [hdis, hhandled, hquiet.1, hquiet.2]
  · rcases setUp_cases domain ctx h w with ⟨-, hdone⟩ | ⟨h0, -⟩ | ⟨h0, -⟩
    · rw [enrolling, if_neg hs, List.append_nil, hdone]
      exact hserves.quiet ⟨rfl, rfl⟩ rfl rfl
    · exact absurd h0 hs
    · exact absurd h0 hs

/-- A dispatch accepts one event, and calls the handlers that the roster names for it. -/
theorem Serves.dispatch (hserves : h.Serves n roster t) (hs : h.state = .setUp) (ctx : ρ) (event : ε)
    (w : ω) (hstate : h'.state = h.state) (hregistry : h'.registry = h.registry)
    (hcalls : s.calls = (h.registry.dispatch ctx event w).trace.calls)
    (hdispatched : s.dispatched = [event]) : h'.Serves n roster (t ++ s) where
  positions := hserves.positions
  untouched h0 := by rw [hstate, hs] at h0; cases h0
  enrolled _ := hregistry ▸ hserves.enrolled hs
  handled := by
    have hhandled : s.handled = (recipients roster (tag event)).map fun p => (p.1, event) := by
      rw [← Trace.handled_calls, hcalls, (dispatch_entries h.registry ctx event w).1, handled_callEach,
        (hserves.enrolled hs).2, handlersFor_entries]
    simp [hserves.handled, hhandled, hdispatched]

/-- Those who get an event stand in ascending position. -/
theorem Serves.ascending_recipients (hserves : h.Serves n roster t) (k : κ) :
    (recipients roster k).Pairwise fun p q => p.1 < q.1 := by
  have hids : (roster.map (·.id)).Pairwise (· < ·) :=
    List.pairwise_lt_range.sublist hserves.positions.sublist
  exact List.pairwise_map.1 (hids.sublist (ids_recipients roster k))

/-- No one gets an event twice. -/
theorem Serves.nodup_recipients (hserves : h.Serves n roster t) (k : κ) :
    ((recipients roster k).map (·.1)).Nodup :=
  List.pairwise_map.2 ((hserves.ascending_recipients k).imp Nat.ne_of_lt)

/-- What is accepted once is handled once by each plugin. -/
theorem Serves.nodup_handled (hserves : h.Serves n roster t) (once : t.dispatched.Nodup) :
    t.handled.Nodup := by
  rw [hserves.handled, List.nodup_flatMap]
  refine ⟨fun event _ => ?_, once.imp fun hne => ?_⟩
  · refine .of_map (·.1) ?_
    simpa [List.map_map, Function.comp_def] using hserves.nodup_recipients (tag event)
  · intro p hp hq
    obtain ⟨_, -, rfl⟩ := List.mem_map.1 hp
    obtain ⟨_, -, heq⟩ := List.mem_map.1 hq
    exact hne (congrArg Prod.snd heq).symm

end Host

end PluginFabric
