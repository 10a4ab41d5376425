import PluginFabric.Proofs.Service

/-! Plugins that share nothing do not notice each other.

    The world has a part for each plugin. Code of a plugin is confined to its part if what it does
    depends on this part alone and every other part stays as it is. Then whatever goes over a list of
    plugins (setting them up, delivering an event, tearing them down) does to the others what it does
    to them where plugin `k` is not on the list at all. -/

namespace PluginFabric

variable {ρ ω ε κ α β : Type} {τ : PluginId → Type}

/-- Two worlds that agree in the parts of all plugins but `k`. -/
def SameBut (part : ∀ i, ω → τ i) (k : PluginId) (w w' : ω) : Prop := ∀ i ≠ k, part i w = part i w'

/-- Code of plugin `i` that depends on the plugin's part of the world and changes no other part. -/
structure Confined (part : ∀ i, ω → τ i) (i : PluginId) (code : ω → Completion ω α) : Prop where
  reads : ∀ w w', part i w = part i w' →
    (code w).outcome = (code w').outcome ∧ part i (code w).world = part i (code w').world
  keeps : ∀ w, ∀ j ≠ i, part j (code w).world = part j w

/-- A plugin whose code, its handlers included, is confined to the part of plugin `i`. -/
structure Plugin.ConfinedTo (part : ∀ i, ω → τ i) (i : PluginId) (plugin : Plugin ρ ω ε κ) : Prop where
  setUp : ∀ ctx, Confined part i fun w => (plugin.setup ctx i w).completion
  registers : ∀ ctx w w', part i w = part i w' →
    (plugin.setup ctx i w).registrations = (plugin.setup ctx i w').registrations
  handlers : ∀ ctx w, ∀ g ∈ (plugin.setup ctx i w).registrations, ∀ ctx' event,
    Confined part i (g.handler ctx' event)
  tearDown : ∀ ctx, Confined part i (plugin.teardown ctx)

/-- A plugin on the roster whose handlers are confined to its part. -/
def Enrolment.Confined (part : ∀ i, ω → τ i) (e : Enrolment ρ ω ε κ) : Prop :=
  ∀ g ∈ e.registrations, ∀ ctx event, PluginFabric.Confined part e.id (g.handler ctx event)

/-- Plugins of which each is confined to the part of its position. -/
def Isolated (part : ∀ i, ω → τ i) (plugins : List (Plugin ρ ω ε κ)) : Prop :=
  ∀ i (plugin : Plugin ρ ω ε κ), plugins[i]? = some plugin → plugin.ConfinedTo part i

/-- Two lists of the same length that differ at position `k` at most. -/
def DifferAt (k : Nat) (l l' : List β) : Prop := l.length = l'.length ∧ ∀ i ≠ k, l[i]? = l'[i]?

section Worlds

variable {part : ∀ i, ω → τ i} {i k : PluginId} {w w' w'' : ω} {code : ω → Completion ω α}

theorem SameBut.refl (w : ω) : SameBut part k w w := fun _ _ => rfl

theorem SameBut.symm (h : SameBut part k w w') : SameBut part k w' w := fun i hi => (h i hi).symm

theorem SameBut.trans (h : SameBut part k w w') (h' : SameBut part k w' w'') : SameBut part k w w'' :=
  fun i hi => (h i hi).trans (h' i hi)

/-- The others do not see that code of plugin `k` ran. -/
theorem Confined.unseen (hc : Confined part k code) (h : SameBut part k w w') :
    SameBut part k (code w).world w' :=
  fun i hi => (hc.keeps w i hi).trans (h i hi)

/-- Code of another plugin does the same in both worlds. -/
theorem Confined.alike (hc : Confined part i code) (hi : i ≠ k) (h : SameBut part k w w') :
    (code w).outcome = (code w').outcome ∧ SameBut part k (code w).world (code w').world := by
  obtain ⟨hout, hown⟩ := hc.reads w w' (h i hi)
  refine ⟨hout, fun j hj => ?_⟩
  by_cases hji : j = i
  · rw [hji, hown]
  · rw [hc.keeps w j hji, hc.keeps w' j hji, h j hj]

end Worlds

/-! ### What concerns the others -/

/-- What a list holds of plugins other than `k`, where `owner` tells whose an entry is. -/
def others (owner : β → PluginId) (k : PluginId) (l : List β) : List β :=
  l.filter fun b => owner b ≠ k

theorem others_cons (owner : β → PluginId) (k : PluginId) (b : β) (l : List β) :
    others owner k (b :: l) = if owner b = k then others owner k l else b :: others owner k l := by
  by_cases h : owner b = k <;> simp [others, h]

theorem others_map {γ : Type} (owner : γ → PluginId) (k : PluginId) (f : β → γ) (l : List β) :
    others owner k (l.map f) = (others (fun b => owner (f b)) k l).map f := List.filter_map ..

theorem others_append (owner : β → PluginId) (k : PluginId) (l l' : List β) :
    others owner k (l ++ l') = others owner k l ++ others owner k l' := List.filter_append ..

/-- Numbered from `s` on, two lists that differ at `k` at most hold the same at the other numbers. -/
theorem others_zipIdx {k : PluginId} {l l' : List β} (length : l.length = l'.length) (s : Nat)
    (same : ∀ i, s + i ≠ k → l[i]? = l'[i]?) :
    others (·.1) k ((l.zipIdx s).map fun p => (p.2, p.1))
      = others (·.1) k ((l'.zipIdx s).map fun p => (p.2, p.1)) := by
  induction l generalizing l' s with
  | nil => rw [List.eq_nil_of_length_eq_zero length.symm]
  | cons b l ih =>
    cases l' with
    | nil => cases length
    | cons b' l' =>
      have hrest := ih (Nat.succ.inj length) (s + 1) fun i hi =>
        same (i + 1) (by omega)
      rw [List.zipIdx_cons, List.zipIdx_cons, List.map_cons, List.map_cons, others_cons, others_cons,
        hrest]
      by_cases hs : s = k
      · rw [if_pos hs, if_pos hs]
      · have hb : b = b' := Option.some.inj (same 0 hs)
        rw [hb]

/-- The plugin that is called here, or whose failure is contained here. -/
def Occurrence.plugin? : Occurrence ε → Option PluginId
  | settingUp id _ | handling id _ _ | tearingDown id _ => some id
  | contained record => some record.pluginId
  | _ => none

/-- Whether this is no setup, or one that succeeds. -/
def Occurrence.succeeds : Occurrence ε → Bool
  | settingUp _ o => o.isOk
  | _ => true

theorem Outcome.eq_ok_of_isOk {o : Outcome Unit} (h : o.isOk = true) : o = .ok () := by
  cases o with
  | ok => rfl
  | failed | panicked => cases h

namespace Trace

/-- What plugins other than `k` are called for, how they end, and their failures. -/
def ofOthers (k : PluginId) (t : Trace ε) : Trace ε := t.filter fun o => o.plugin?.any (· ≠ k)

/-- Every setup that is called succeeds. -/
def SetUpsSucceed (t : Trace ε) : Prop := ∀ i o, .settingUp i o ∈ t → o = .ok ()

instance (t : Trace ε) : Decidable t.SetUpsSucceed :=
  decidable_of_iff (∀ o ∈ t, o.succeeds = true) (by
    refine ⟨fun h i o ho => Outcome.eq_ok_of_isOk (h _ ho), fun h o ho => ?_⟩
    cases o with
    | settingUp i o =>
      rw [h i o ho]
      rfl
    | _ => rfl)

section OfOthers

variable (k : PluginId) (s t : Trace ε) (o : Occurrence ε) (notices : List Notice)

@[simp] theorem ofOthers_append : ofOthers k (s ++ t) = ofOthers k s ++ ofOthers k t :=
  List.filter_append ..

@[simp] theorem ofOthers_nil : ofOthers k ([] : Trace ε) = [] := rfl

@[simp] theorem ofOthers_ofNotices : ofOthers k (ofNotices notices : Trace ε) = [] := by
  simp [ofOthers, ofNotices, Occurrence.plugin?]

theorem setUpsSucceed_append : SetUpsSucceed (s ++ t) ↔ SetUpsSucceed s ∧ SetUpsSucceed t := by
  simp only [SetUpsSucceed, List.mem_append, or_imp, forall_and]

theorem ofOthers_cons : ofOthers k (o :: t)
    = if o.plugin?.any (· ≠ k) then o :: ofOthers k t else ofOthers k t := List.filter_cons ..

end OfOthers

end Trace

/-- Two deliveries with the same failures of plugins other than `k`, in which these were called for the
    same, and worlds that look the same to them. -/
structure Delivery.AlikeBut (part : ∀ i, ω → τ i) (k : PluginId) (d d' : Delivery ω ε) : Prop where
  failures : others (·.pluginId) k d.report.failures = others (·.pluginId) k d'.report.failures
  trace : d.trace.ofOthers k = d'.trace.ofOthers k
  worlds : SameBut part k d.world d'.world

/-! ### Passes over a list of plugins -/

section Passes

variable [EventTag κ] {part : ∀ i, ω → τ i} (k : PluginId) (ctx : ρ)

/-- The others get an event as they would without plugin `k`. -/
theorem Registry.deliver_others [Tagged ε κ] (event : ε)
    {entries : List (PluginId × RegistryEntry κ (Handler ρ ω ε))}
    (confined : ∀ p ∈ entries, ∀ handler, p.2.handlers.get? (tag event) = some handler →
      Confined part p.1 (handler ctx event))
    {w w' : ω} (same : SameBut part k w w') :
    Delivery.AlikeBut part k (deliver ctx event entries w)
      (deliver ctx event (others (·.1) k entries) w') := by
  induction entries generalizing w w' with
  | nil => exact ⟨rfl, rfl, same⟩
  | cons p rest ih =>
    obtain ⟨id, entry⟩ := p
    have hrest := fun p hp => confined p (List.mem_cons_of_mem _ hp)
    have hhead := confined _ List.mem_cons_self
    by_cases hid : id = k
    · -- plugin `k` handles the event on the left only, and the others do not see it
      subst hid
      rw [others_cons, if_pos rfl, deliver]
      cases hget : entry.handlers.get? (tag event) with
      | none => exact ih hrest same
      | some handler =>
        obtain ⟨hfailures, htrace, hworlds⟩ := ih hrest ((hhead handler hget).unseen same)
        rcases hout : (handler ctx event w).outcome.failure? with _ | ⟨error, panicked⟩ <;>
          constructor <;>
          simp [hout, hfailures, htrace, hworlds, others_cons, Trace.ofOthers_cons,
            Occurrence.plugin?, HandlerFailure.record, FailureRecord.dispatch]
    · -- another plugin handles it on both sides, and does the same
      rw [others_cons, if_neg hid, deliver, deliver]
      cases hget : entry.handlers.get? (tag event) with
      | none => exact ih hrest same
      | some handler =>
        obtain ⟨hsame, hnext⟩ := (hhead handler hget).alike hid same
        obtain ⟨hfailures, htrace, hworlds⟩ := ih hrest hnext
        rcases hout : (handler ctx event w).outcome.failure? with _ | ⟨error, panicked⟩ <;>
          constructor <;>
          simp [hout, ← hsame, hfailures, htrace, hworlds, others_cons, Trace.ofOthers_cons,
            Occurrence.plugin?]

omit [EventTag κ] in
/-- The others are torn down as they would be without plugin `k`. -/
theorem Host.tearDownEach_others {ms : List (PluginId × Plugin ρ ω ε κ)}
    (confined : ∀ m ∈ ms, m.2.ConfinedTo part m.1) {w w' : ω} (same : SameBut part k w w') :
    let pass := tearDownEach ctx ms w
    let pass' := tearDownEach ctx (others (·.1) k ms) w'
    pass.trace.ofOthers k = pass'.trace.ofOthers k ∧ SameBut part k pass.world pass'.world := by
  induction ms generalizing w w' with
  | nil => exact ⟨rfl, same⟩
  | cons m rest ih =>
    obtain ⟨id, plugin⟩ := m
    have hrest := fun m hm => confined m (List.mem_cons_of_mem _ hm)
    have hhead : Confined part id (plugin.teardown ctx) := (confined _ List.mem_cons_self).tearDown ctx
    by_cases hid : id = k
    · subst hid
      obtain ⟨htrace, hworlds⟩ := ih hrest (hhead.unseen same)
      rw [others_cons, if_pos rfl, tearDownEach]
      rcases hout : (plugin.teardown ctx w).outcome.failure? with _ | ⟨error, panicked⟩ <;>
        simp [htrace, hworlds, Trace.ofOthers_cons, Occurrence.plugin?, FailureRecord.teardown]
    · obtain ⟨hsame, hnext⟩ := hhead.alike hid same
      obtain ⟨htrace, hworlds⟩ := ih hrest hnext
      rw [others_cons, if_neg hid, tearDownEach, tearDownEach]
      rcases hout : (plugin.teardown ctx w).outcome.failure? with _ | ⟨error, panicked⟩ <;>
        simp [hout, ← hsame, htrace, hworlds, Trace.ofOthers_cons, Occurrence.plugin?]

/-- If no setup fails, the others are set up as they would be without plugin `k`, and register the
    same. -/
theorem Host.setUpEach_others (domain : Domain) {ms : List (PluginId × Plugin ρ ω ε κ)}
    (confined : ∀ m ∈ ms, m.2.ConfinedTo part m.1) (r r' : Registry κ (Handler ρ ω ε)) {w w' : ω}
    (same : SameBut part k w w') (ready : (setUpEach domain ctx ms r w).failure = none) :
    let pass := setUpEach domain ctx ms r w
    let pass' := setUpEach domain ctx (others (·.1) k ms) r' w'
    pass.trace.ofOthers k = pass'.trace.ofOthers k ∧ SameBut part k pass.world pass'.world ∧
      others (·.id) k (enrolments ctx ms w) = enrolments ctx (others (·.1) k ms) w' := by
  induction ms generalizing r r' w w' with
  | nil => exact ⟨rfl, same, rfl⟩
  | cons m rest ih =>
    obtain ⟨id, plugin⟩ := m
    have hrest := fun m hm => confined m (List.mem_cons_of_mem _ hm)
    have hhead : plugin.ConfinedTo part id := confined _ List.mem_cons_self
    have hok : (plugin.setup ctx id w).completion.outcome = .ok () := by
      rcases setUpEach_cons domain ctx id plugin rest r w with ⟨hok, -⟩ | ⟨_, -, -, hfail, -⟩
      · exact hok
      · rw [ready] at hfail
        cases hfail
    simp only [setUpEach, hok, Outcome.toExcept] at ready
    by_cases hid : id = k
    · subst hid
      obtain ⟨htrace, hworlds, hlist⟩ := ih hrest _ r' ((hhead.setUp ctx).unseen same) ready
      rw [others_cons, if_pos rfl, setUpEach, enrolments, hok]
      simp [Outcome.toExcept, Outcome.isOk, Trace.ofOthers_cons, Occurrence.plugin?, htrace, hworlds,
        others_cons, hlist]
    · obtain ⟨hsame, hnext⟩ := (hhead.setUp ctx).alike hid same
      have hok' : (plugin.setup ctx id w').completion.outcome = .ok () := hsame.symm.trans hok
      have hregistrations := hhead.registers ctx w w' (same id hid)
      obtain ⟨htrace, hworlds, hlist⟩ := ih hrest _ ((r'.enroll id plugin.name).registerAll id
        (plugin.setup ctx id w).registrations).1 hnext ready
      rw [others_cons, if_neg hid, setUpEach, setUpEach, enrolments, enrolments, hok, hok',
        ← hregistrations]
      simp [Outcome.toExcept, Outcome.isOk, Trace.ofOthers_cons, Occurrence.plugin?, htrace, hworlds,
        others_cons, hlist, hid]

end Passes

/-! ### Two hosts that differ in plugin `k` -/

section Hosts

variable [EventTag κ] {part : ∀ i, ω → τ i} {k : PluginId}

/-- What a registry holds of a roster is confined if the roster is. -/
theorem confined_entries [DecidableEq κ] {roster : List (Enrolment ρ ω ε κ)}
    (confined : ∀ e ∈ roster, e.Confined part) (t : κ) (ctx : ρ) (event : ε) :
    ∀ p ∈ roster.map Enrolment.entry, ∀ handler, p.2.handlers.get? t = some handler →
      Confined part p.1 (handler ctx event) := by
  intro p hp handler hget
  obtain ⟨e, he, rfl⟩ := List.mem_map.1 hp
  rw [Enrolment.entry, get?_handlersOf] at hget
  obtain ⟨g, hg, rfl⟩ := Option.map_eq_some_iff.1 hget
  exact confined e he g (List.mem_filter.1 (List.mem_of_getLast? hg)).1 ctx event

/-- The handlers of the others are found in what the registry holds of the others. -/
theorem others_handlersFor (k : PluginId) (t : κ)
    (entries : List (PluginId × RegistryEntry κ (Handler ρ ω ε))) :
    others (·.1) k (handlersFor t entries) = handlersFor t (others (·.1) k entries) := by
  induction entries with
  | nil => rfl
  | cons p rest ih =>
    rw [handlersFor] at ih ⊢
    by_cases hp : p.1 = k <;> cases hget : p.2.handlers.get? t <;>
      simp [others_cons, handlersFor, hp, hget, ih]

/-- Where two registries hold the same of the others, these get an event alike from both. -/
theorem Registry.dispatch_alike [Tagged ε κ] {r r' : Registry κ (Handler ρ ω ε)}
    (ctx : ρ) (event : ε)
    (confined : ∀ p ∈ r.entries.toList, ∀ handler, p.2.handlers.get? (tag event) = some handler →
      Confined part p.1 (handler ctx event))
    (confined' : ∀ p ∈ r'.entries.toList, ∀ handler, p.2.handlers.get? (tag event) = some handler →
      Confined part p.1 (handler ctx event))
    (entries : others (·.1) k r.entries.toList = others (·.1) k r'.entries.toList)
    {w w' : ω} (same : SameBut part k w w') :
    Delivery.AlikeBut part k (r.dispatch ctx event w) (r'.dispatch ctx event w') := by
  have left := deliver_others k ctx event confined same
  have right := deliver_others k ctx event confined' (.refl w')
  rw [← entries] at right
  refine ⟨left.failures.trans right.failures.symm, ?_, left.worlds.trans right.worlds.symm⟩
  simpa [dispatch, Trace.ofOthers_cons, Occurrence.plugin?] using left.trace.trans right.trace.symm

namespace Host

variable {h h' : Host ρ ω ε κ} {w w' : ω}

/-- Two hosts with their worlds that only plugin `k` can tell apart. -/
structure AlikeBut (part : ∀ i, ω → τ i) (k : PluginId) (h h' : Host ρ ω ε κ) (w w' : ω) : Prop where
  state : h.state = h'.state
  members : others (·.1) k h.members = others (·.1) k h'.members
  worlds : SameBut part k w w'

/-- A setup of a host in which every plugin succeeds is the whole pass. -/
theorem setUp_of_ready (domain : Domain) (ctx : ρ) (fresh : h.state = .notSetUp)
    (ready : ∀ i o, .settingUp i o ∈ (h.setUp domain ctx w).trace → o = .ok ()) :
    let pass := setUpEach domain ctx h.members h.registry w
    pass.failure = none ∧ (h.setUp domain ctx w).answer = .ok () ∧
      (h.setUp domain ctx w).manager = { h with registry := pass.registry, state := .setUp } ∧
      (h.setUp domain ctx w).world = pass.world ∧
      ∀ k, (h.setUp domain ctx w).trace.ofOthers k = pass.trace.ofOthers k := by
  rcases setUp_cases domain ctx h w with
    ⟨hs, -⟩ | ⟨-, hnone, hans, hman, hworld, -⟩ | ⟨-, _, _, hsome, -, -, -, hcalls⟩
  · exact absurd fresh hs
  · refine ⟨hnone, hans, hman, hworld, fun k => ?_⟩
    simp [setUp, require, fresh, hnone, Trace.ofOthers_cons, Occurrence.plugin?]
  · rcases setUpEach_cases domain ctx h.members h.registry w with
      ⟨h1, -⟩ | ⟨m, _, o, _, -, hout, -, h4⟩
    · rw [h1] at hsome
      cases hsome
    · -- a setup that does not succeed is called all the same
      have hmem : .settingUp m.1 o ∈ (h.setUp domain ctx w).trace.calls := by
        rw [hcalls, h4]
        simp
      rw [ready m.1 o (Trace.mem_calls.1 hmem).1] at hout
      cases hout

/-- If no setup fails, two hosts that only plugin `k` can tell apart are set up alike. -/
theorem setUp_alike (alike : AlikeBut part k h h' w w') (domain : Domain) (ctx : ρ)
    (confined : ∀ m ∈ h.members, m.2.ConfinedTo part m.1)
    (confined' : ∀ m ∈ h'.members, m.2.ConfinedTo part m.1)
    (ready : ∀ i o, .settingUp i o ∈ (h.setUp domain ctx w).trace → o = .ok ())
    (ready' : ∀ i o, .settingUp i o ∈ (h'.setUp domain ctx w').trace → o = .ok ()) :
    let done := h.setUp domain ctx w
    let done' := h'.setUp domain ctx w'
    AlikeBut part k done.manager done'.manager done.world done'.world ∧ done.answer = done'.answer ∧
      done.trace.ofOthers k = done'.trace.ofOthers k ∧
      others (·.id) k (h.enrolling ctx w) = others (·.id) k (h'.enrolling ctx w') := by
  by_cases fresh : h.state = .notSetUp
  · have fresh' : h'.state = .notSetUp := alike.state.symm.trans fresh
    obtain ⟨hnone, hans, hman, hworld, htrace⟩ := setUp_of_ready domain ctx fresh ready
    obtain ⟨hnone', hans', hman', hworld', htrace'⟩ := setUp_of_ready domain ctx fresh' ready'
    obtain ⟨l1, l2, l3⟩ := setUpEach_others k ctx domain confined _ h'.registry alike.worlds hnone
    obtain ⟨r1, r2, r3⟩ := setUpEach_others k ctx domain confined' _ h'.registry (.refl w') hnone'
    rw [← alike.members] at r1 r2 r3
    dsimp only
    rw [hans, hans', hman, hman', hworld, hworld', htrace, htrace', enrolling, enrolling, if_pos fresh,
      if_pos fresh']
    exact ⟨⟨rfl, alike.members, l2.trans r2.symm⟩, rfl, l1.trans r1.symm, l3.trans r3.symm⟩
  · have fresh' : h'.state ≠ .notSetUp := fun hs => fresh (alike.state.trans hs)
    have hdone := (setUp_cases domain ctx h w).resolve_right fun hc =>
      hc.elim (fun h0 => fresh h0.1) fun h0 => fresh h0.1
    have hdone' := (setUp_cases domain ctx h' w').resolve_right fun hc =>
      hc.elim (fun h0 => fresh' h0.1) fun h0 => fresh' h0.1
    dsimp only
    rw [hdone.2, hdone'.2, enrolling, enrolling, if_neg fresh, if_neg fresh', alike.state]
    exact ⟨alike, rfl, rfl, rfl⟩

/-- Two hosts that only plugin `k` can tell apart are torn down alike, or refuse alike. -/
theorem tearDown_alike (alike : AlikeBut part k h h' w w') (ctx : ρ)
    (confined : ∀ m ∈ h.members, m.2.ConfinedTo part m.1)
    (confined' : ∀ m ∈ h'.members, m.2.ConfinedTo part m.1) :
    let done := h.tearDown ctx w
    let done' := h'.tearDown ctx w'
    AlikeBut part k done.manager done'.manager done.world done'.world ∧
      done.trace.ofOthers k = done'.trace.ofOthers k ∧
      ((∃ failed failed', done.answer = .ok failed ∧ done'.answer = .ok failed') ∨
        ∃ e, done.answer = .error e ∧ done'.answer = .error e) := by
  have hstate := alike.state
  dsimp only
  rw [tearDown, tearDown, ← hstate]
  cases hs : h.state with
  | setUp =>
    obtain ⟨l1, l2⟩ := tearDownEach_others k ctx confined alike.worlds
    obtain ⟨r1, r2⟩ := tearDownEach_others k ctx confined' (.refl w')
    rw [← alike.members] at r1 r2
    refine ⟨⟨rfl, alike.members, l2.trans r2.symm⟩, ?_, .inl ⟨_, _, rfl, rfl⟩⟩
    simpa [tearDownAll, Trace.ofOthers_cons, Occurrence.plugin?] using l1.trans r1.symm
  | notSetUp => exact ⟨⟨rfl, alike.members, alike.worlds⟩, rfl, .inl ⟨_, _, rfl, rfl⟩⟩
  | tornDown => exact ⟨alike, rfl, .inr ⟨_, rfl, rfl⟩⟩

end Host

variable {plugins plugins' : List (Plugin ρ ω ε κ)}

theorem Isolated.members (h : Isolated part plugins) :
    ∀ m ∈ (Host.ofPlugins plugins).members, m.2.ConfinedTo part m.1 := by
  intro m hm
  obtain ⟨p, hp, rfl⟩ := List.mem_map.1 hm
  exact h p.2 p.1 (List.mem_zipIdx_iff_getElem?.1 hp)

omit [EventTag κ] in
theorem Isolated.stemsFrom (h : Isolated part plugins) {e : Enrolment ρ ω ε κ}
    (he : e.StemsFrom plugins) : e.Confined part := by
  obtain ⟨plugin, ctx, w, hplugin, heq⟩ := he
  have hmade : e.registrations = (plugin.setup ctx e.id w).registrations :=
    congrArg (·.registrations) heq
  intro g hg
  rw [hmade] at hg
  exact (h e.id plugin hplugin).handlers ctx w g hg

/-- Two lists that differ at position `k` have the same plugins at the others. -/
theorem DifferAt.others_members (h : DifferAt k plugins plugins') :
    others (·.1) k (Host.ofPlugins plugins).members
      = others (·.1) k (Host.ofPlugins plugins').members :=
  others_zipIdx h.1 0 fun i hi => h.2 i (by omega)

end Hosts

end PluginFabric
