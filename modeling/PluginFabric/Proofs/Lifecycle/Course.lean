import Mathlib.Data.List.TakeWhile
import PluginFabric.Proofs.Host
import PluginFabric.Proofs.Run

/-! The course of a lifecycle.

    What a lifecycle shows of itself (what it answers, whose setups and teardowns are called, where it
    stands) depends on the plugins by two things only: their names, and how their setups and teardowns
    end. With these given, a course can be told without any plugin code (`Cast.course`), and every run
    of calls that do what the course says takes it (`Run.course_ofCalls`). -/

namespace PluginFabric

/-- What a lifecycle is asked for, and what it asks its plugins for. -/
inductive Hook where | setUp | tearDown
  deriving DecidableEq

/-- A plugin was called for a hook, and how that ended. -/
structure Invocation where
  hook : Hook
  id : PluginId
  outcome : Outcome Unit
  deriving DecidableEq

/-- The setup or teardown that is called here, if one is. -/
def Occurrence.invocation? {ε : Type} : Occurrence ε → Option Invocation
  | settingUp id outcome => some ⟨.setUp, id, outcome⟩
  | tearingDown id outcome => some ⟨.tearDown, id, outcome⟩
  | _ => none

/-- The setups and teardowns that are called. -/
def Trace.invocations {ε : Type} (t : Trace ε) : List Invocation :=
  t.filterMap Occurrence.invocation?

/-- What a lifecycle answers. -/
inductive LifecycleReply where
  | setUp (r : Except FabricError Unit)
  | tornDown (r : Except FabricError (List String))
  deriving DecidableEq

/-- What is seen of one call: the answer, what plugins were called for, where the lifecycle stands then
    and how many plugins its registry knows. -/
structure LifecycleStep where
  reply : LifecycleReply
  invocations : List Invocation
  state : LifecycleState
  pluginCount : Nat

/-- What is seen of a call that got this reply and left this host. -/
def LifecycleStep.of {ρ ω ε κ : Type} [EventTag κ] (reply : LifecycleReply) (h : Host ρ ω ε κ)
    (t : Trace ε) : LifecycleStep :=
  ⟨reply, t.invocations, h.state, h.registry.pluginCount⟩

/-- Where a lifecycle stands, and what was seen of its calls so far. -/
structure Course where
  state : LifecycleState := .notSetUp
  pluginCount : Nat := 0
  steps : List LifecycleStep := []

/-- The plugins of a lifecycle as far as its course depends on them. -/
structure Cast where
  /-- Their names, by position. -/
  names : List String
  /-- How their setups and teardowns end, by position. -/
  outcome : Hook → PluginId → Outcome Unit

namespace Cast

variable (c : Cast)

def members : List (PluginId × String) := c.names.zipIdx.map fun p => (p.2, p.1)

def succeeds (hook : Hook) (p : PluginId × String) : Bool := (c.outcome hook p.1).isOk

def invoke (hook : Hook) (p : PluginId × String) : Invocation := ⟨hook, p.1, c.outcome hook p.1⟩

/-- The plugins before the first whose setup does not succeed. -/
def ready : List (PluginId × String) := c.members.takeWhile (c.succeeds .setUp)

/-- The first plugin whose setup does not succeed, if there is one. -/
def failing? : Option (PluginId × String) := c.members.find? fun p => !c.succeeds .setUp p

/-- All plugins are set up, or those before one that fails are torn down again. -/
def setUp : LifecycleStep :=
  match c.failing? with
  | none => ⟨.setUp (.ok ()), c.ready.map (c.invoke .setUp), .setUp, c.ready.length⟩
  | some p => ⟨.setUp ((c.outcome .setUp p.1).toExcept.mapError (.setup p.2)),
      (c.ready ++ [p]).map (c.invoke .setUp) ++ c.ready.map (c.invoke .tearDown),
      .tornDown, c.ready.length + 1⟩

/-- What comes of a call, by where the lifecycle stands and how many plugins its registry knows. -/
def step : Hook → LifecycleState → Nat → LifecycleStep
  | .setUp, .notSetUp, _ => c.setUp
  | .setUp, s, n => ⟨.setUp (.error (.invalidState .setUp s.text)), [], s, n⟩
  | .tearDown, .setUp, n =>
    ⟨.tornDown (.ok ((c.members.filter fun p => !c.succeeds .tearDown p).map (·.2))),
      c.members.map (c.invoke .tearDown), .tornDown, n⟩
  | .tearDown, .notSetUp, n => ⟨.tornDown (.ok []), [], .tornDown, n⟩
  | .tearDown, .tornDown, n =>
    ⟨.tornDown (.error (.invalidState .tearDown LifecycleState.tornDown.text)), [], .tornDown, n⟩

def advance (course : Course) (hook : Hook) : Course :=
  let step := c.step hook course.state course.pluginCount
  ⟨step.state, step.pluginCount, course.steps ++ [step]⟩

/-- The course that these calls take. -/
def course (hooks : List Hook) : Course := hooks.foldl c.advance {}

/-- Whatever is called in a trace ends as told. -/
def Plays {ε : Type} (t : Trace ε) : Prop := ∀ i ∈ t.invocations, i.outcome = c.outcome i.hook i.id

end Cast

/-! ### Invocations -/

namespace Trace

variable {ε : Type} (s t : Trace ε)

@[simp] theorem invocations_append : invocations (s ++ t) = invocations s ++ invocations t :=
  List.filterMap_append ..

theorem invocations_cons (o : Occurrence ε) :
    invocations (o :: t) = o.invocation?.toList ++ invocations t := by
  cases o <;> rfl

@[simp] theorem invocations_ofNotices (notices : List Notice) :
    invocations (ofNotices notices : Trace ε) = [] := by
  simp [invocations, ofNotices, Occurrence.invocation?]

theorem invocations_calls : invocations (calls t) = invocations t := by
  simp only [invocations, calls, List.filterMap_filter]
  congr 1
  funext o
  cases o <;> rfl

/-- The plugins that are called for a hook. -/
def calledFor (hook : Hook) (t : Trace ε) : List PluginId :=
  t.invocations.filterMap fun i => if i.hook = hook then some i.id else none

theorem calledFor_setUp : calledFor .setUp t = setUps t := by
  simp only [calledFor, setUps, invocations, List.filterMap_filterMap]
  congr 1
  funext o
  cases o <;> rfl

theorem calledFor_tearDown : calledFor .tearDown t = tearDowns t := by
  simp only [calledFor, tearDowns, invocations, List.filterMap_filterMap]
  congr 1
  funext o
  cases o <;> rfl

end Trace

namespace Cast

variable {c : Cast} {ε : Type} {s t : Trace ε}

theorem plays_append : c.Plays (s ++ t) ↔ c.Plays s ∧ c.Plays t := by
  simp only [Plays, Trace.invocations_append, List.forall_mem_append]

theorem plays_calls : c.Plays t.calls ↔ c.Plays t := by rw [Plays, Plays, Trace.invocations_calls]

theorem invoke_of_plays (h : c.Plays t) {hook : Hook} {p : PluginId × String} {outcome : Outcome Unit}
    (hp : ⟨hook, p.1, outcome⟩ ∈ t.invocations) :
    c.invoke hook p = ⟨hook, p.1, outcome⟩ ∧ c.succeeds hook p = outcome.isOk := by
  rw [invoke, succeeds, ← h _ hp]
  exact ⟨rfl, rfl⟩

theorem length_setUps {l : List (PluginId × String)} (h : t.invocations = l.map (c.invoke .setUp)) :
    t.setUps.length = l.length := by
  simp [← Trace.calledFor_setUp, Trace.calledFor, h, invoke, List.filterMap_map, Function.comp_def]

/-- If the plugins before one succeed and it does not, these are the ready ones and it is the one that
    fails. -/
theorem ready_of_split {l rest : List (PluginId × String)} {p : PluginId × String}
    (split : c.members = l ++ p :: rest) (succeed : ∀ q ∈ l, c.succeeds .setUp q)
    (failed : c.succeeds .setUp p = false) : c.ready = l ∧ c.failing? = some p := by
  constructor
  · rw [ready, split, List.takeWhile_append_of_pos succeed, List.takeWhile_cons_of_neg (by simp [failed]),
      List.append_nil]
  · have hnone : l.find? (fun p => !c.succeeds .setUp p) = none := by simpa using succeed
    rw [failing?, split, List.find?_append, hnone, Option.none_or,
      List.find?_cons_of_pos (by simp [failed])]

theorem ready_of_forall (succeed : ∀ q ∈ c.members, c.succeeds .setUp q) :
    c.ready = c.members ∧ c.failing? = none :=
  ⟨List.takeWhile_eq_self_iff.2 succeed, by simpa [failing?] using succeed⟩

end Cast

/-! ### Hosts -/

namespace Host

variable {ρ ω ε κ : Type}

/-- Plugins by their positions and names. -/
def roles (ms : List (PluginId × Plugin ρ ω ε κ)) : List (PluginId × String) :=
  ms.map fun m => (m.1, m.2.name)

theorem roles_ofPlugins [EventTag κ] {plugins : List (Plugin ρ ω ε κ)} {c : Cast}
    (names : c.names = plugins.map (·.name)) : roles (ofPlugins plugins).members = c.members := by
  simp [roles, ofPlugins, Cast.members, names, List.zipIdx_map, List.map_map, Function.comp_def]

theorem invocations_settingUps (ms : List (PluginId × Plugin ρ ω ε κ)) :
    Trace.invocations (ms.map fun m => (.settingUp m.1 (.ok ()) : Occurrence ε))
      = (roles ms).map fun p => ⟨.setUp, p.1, .ok ()⟩ := by
  simp [Trace.invocations, List.filterMap_map, Function.comp_def, Occurrence.invocation?, roles]

section TearDown

variable (ctx : ρ)

/-- A pass of teardowns begins with the first plugin's and goes on whatever becomes of it. -/
theorem tearDownEach_cons (id : PluginId) (plugin : Plugin ρ ω ε κ)
    (rest : List (PluginId × Plugin ρ ω ε κ)) (w : ω) :
    let done := plugin.teardown ctx w
    let later := tearDownEach ctx rest done.world
    let pass := tearDownEach ctx ((id, plugin) :: rest) w
    pass.trace.invocations = ⟨.tearDown, id, done.outcome⟩ :: later.trace.invocations ∧
      pass.failed = if done.outcome.isOk then later.failed else plugin.name :: later.failed := by
  intro done later pass
  simp only [pass, tearDownEach]
  cases hout : (plugin.teardown ctx w).outcome <;>
    simp [done, later, Outcome.failure?, Outcome.isOk, Trace.invocations_cons, Occurrence.invocation?]

variable {c : Cast}

/-- A pass of teardowns calls every plugin's, and tells the names of those that fail. -/
theorem tearDownEach_plays (ms : List (PluginId × Plugin ρ ω ε κ)) (w : ω)
    (plays : c.Plays (tearDownEach ctx ms w).trace) :
    let pass := tearDownEach ctx ms w
    pass.trace.invocations = (roles ms).map (c.invoke .tearDown) ∧
      pass.failed = ((roles ms).filter fun p => !c.succeeds .tearDown p).map (·.2) := by
  induction ms generalizing w with
  | nil => exact ⟨rfl, rfl⟩
  | cons m rest ih =>
    obtain ⟨id, plugin⟩ := m
    obtain ⟨hinvocations, hfailed⟩ := tearDownEach_cons ctx id plugin rest w
    rw [Cast.Plays, hinvocations, List.forall_mem_cons] at plays
    obtain ⟨hhead, hrest⟩ := plays
    obtain ⟨ih1, ih2⟩ := ih _ hrest
    dsimp only
    rw [hinvocations, hfailed, ih1, ih2]
    constructor
    · simp [roles, Cast.invoke, ← hhead]
    · have hsucceeds : c.succeeds .tearDown (id, plugin.name) = (plugin.teardown ctx w).outcome.isOk := by
        rw [Cast.succeeds, ← hhead]
      cases hok : (plugin.teardown ctx w).outcome.isOk <;> simp [roles, hsucceeds, hok]

end TearDown

section SetUp

variable [EventTag κ] (domain : Domain) (ctx : ρ)

/-- The plugins that a pass of setups enrolls are those whose setups it calls. -/
theorem setUps_setUpEach (ms : List (PluginId × Plugin ρ ω ε κ)) (r : Registry κ (Handler ρ ω ε))
    (w : ω) : (setUpEach domain ctx ms r w).trace.setUps = (enrolments ctx ms w).map (·.id) := by
  induction ms generalizing r w with
  | nil => rfl
  | cons m rest ih =>
    have hlater := ih ((r.enroll m.1 m.2.name).registerAll m.1 (m.2.setup ctx m.1 w).registrations).1
      (m.2.setup ctx m.1 w).completion.world
    rw [← Trace.setUps_calls] at hlater ⊢
    rw [enrolments]
    rcases setUpEach_cons domain ctx m.1 m.2 rest r w with
      ⟨hok, -, -, -, -, hcalls, -⟩ | ⟨cause, herr, -, -, -, -, hcalls, -⟩
    · rw [hcalls, hok, Outcome.isOk, if_pos rfl, List.map_cons, ← hlater]
      rfl
    · rw [hcalls, Outcome.isOk_of_toExcept herr]
      rfl

/-- An empty registry comes to know those whose setups are called. -/
theorem pluginCount_setUpEach {ms : List (PluginId × Plugin ρ ω ε κ)}
    (ascending : ms.Pairwise fun a b => compare a.1 b.1 = .lt) {r : Registry κ (Handler ρ ω ε)}
    (empty : r.entries.toList = []) (w : ω) :
    let pass := setUpEach domain ctx ms r w
    pass.registry.pluginCount = pass.trace.setUps.length := by
  have hentries := entries_setUpEach domain ctx ascending (r := r) (by simp [empty]) w
  simp only [Registry.pluginCount, SortedMap.size, hentries, empty, setUps_setUpEach, List.nil_append,
    List.length_map]

variable {c : Cast}

/-- A pass of setups calls those of the ready plugins, and that of the failing one if there is one. -/
theorem setUpEach_plays {ms : List (PluginId × Plugin ρ ω ε κ)} (cast : roles ms = c.members)
    (r : Registry κ (Handler ρ ω ε)) (w : ω) (plays : c.Plays (setUpEach domain ctx ms r w).trace) :
    let pass := setUpEach domain ctx ms r w
    roles pass.ready = c.ready ∧
    ((c.failing? = none ∧ pass.failure = none ∧
      pass.trace.invocations = c.ready.map (c.invoke .setUp)) ∨
    ∃ p cause, c.failing? = some p ∧ (c.outcome .setUp p.1).toExcept = .error cause ∧
      pass.failure = some (p.2, cause) ∧
      pass.trace.invocations = (c.ready ++ [p]).map (c.invoke .setUp)) := by
  rcases setUpEach_cases domain ctx ms r w with
    ⟨hnone, hready, hcalls⟩ | ⟨m, rest, outcome, cause, hsplit, hout, hfail, hcalls⟩
  · have hinv := congrArg Trace.invocations hcalls
    rw [Trace.invocations_calls, invocations_settingUps, cast] at hinv
    have hall : ∀ p ∈ c.members, c.invoke .setUp p = ⟨.setUp, p.1, .ok ()⟩ ∧ c.succeeds .setUp p :=
      fun p hp => Cast.invoke_of_plays plays (by rw [hinv]; exact List.mem_map_of_mem hp)
    obtain ⟨hmembers, hfailing⟩ := Cast.ready_of_forall fun p hp => (hall p hp).2
    refine ⟨by rw [hready, cast, hmembers], .inl ⟨hfailing, hnone, ?_⟩⟩
    rw [hinv, hmembers]
    exact List.map_congr_left fun p hp => (hall p hp).1.symm
  · have hinv := congrArg Trace.invocations hcalls
    rw [Trace.invocations_calls, Trace.invocations_append, invocations_settingUps] at hinv
    have hall : ∀ p ∈ roles (setUpEach domain ctx ms r w).ready,
        c.invoke .setUp p = ⟨.setUp, p.1, .ok ()⟩ ∧ c.succeeds .setUp p := fun p hp =>
      Cast.invoke_of_plays plays (by rw [hinv]; exact List.mem_append_left _ (List.mem_map_of_mem hp))
    -- the call that stopped the pass ends as told, so the cast fails at the same plugin
    have hcalled : ⟨.setUp, m.1, outcome⟩ ∈ (setUpEach domain ctx ms r w).trace.invocations := by
      rw [hinv]
      exact List.mem_append_right _ List.mem_cons_self
    obtain ⟨hlast, hstops⟩ := Cast.invoke_of_plays plays (p := (m.1, m.2.name)) hcalled
    have split : c.members = roles (setUpEach domain ctx ms r w).ready
        ++ (m.1, m.2.name) :: roles rest :=
      cast.symm.trans ((congrArg roles hsplit).trans List.map_append)
    obtain ⟨hready, hfailing⟩ := Cast.ready_of_split split (fun p hp => (hall p hp).2)
      (hstops.trans (Outcome.isOk_of_toExcept hout))
    have houtcome : c.outcome .setUp m.1 = outcome := congrArg Invocation.outcome hlast
    refine ⟨hready.symm, .inr ⟨_, cause, hfailing, by rw [houtcome, hout], hfail, ?_⟩⟩
    rw [hinv, hready, List.map_append, List.map_singleton, hlast]
    congr 1
    exact List.map_congr_left fun p hp => (hall p hp).1.symm

end SetUp

section Calls

variable [EventTag κ] {c : Cast} (ctx : ρ) {h : Host ρ ω ε κ} (w : ω)

/-- Setting a host up does what the course says. -/
theorem setUp_course (domain : Domain) {n : Nat} (hn : h.Positioned n)
    (cast : roles h.members = c.members)
    (untouched : h.state = .notSetUp → h.registry.entries.toList = [])
    (plays : c.Plays (h.setUp domain ctx w).trace) :
    let done := h.setUp domain ctx w
    LifecycleStep.of (.setUp done.answer) done.manager done.trace
      = c.step .setUp h.state h.registry.pluginCount := by
  -- the registry is empty before the first setup, so it knows those whose setups are called
  have hcount := fun hs => pluginCount_setUpEach domain ctx hn.ascending (untouched hs) w
  rcases setUp_cases domain ctx h w with
    ⟨hs, hd⟩ | ⟨hs, hnone, hans, hman, -, hcalls⟩ | ⟨hs, plugin, cause, hsome, hans, hman, -, hcalls⟩
  · rw [hd]
    obtain ⟨members, registry, state⟩ := h
    cases state with
    | notSetUp => exact absurd rfl hs
    | _ => rfl
  · rw [← Cast.plays_calls, hcalls, Cast.plays_calls] at plays
    obtain ⟨-, ⟨hfailing, -, hinv⟩ | ⟨_, _, -, -, hsome, -⟩⟩ :=
      setUpEach_plays domain ctx cast h.registry w plays
    · dsimp only
      rw [LifecycleStep.of, ← Trace.invocations_calls, hans, hman, hcalls, Trace.invocations_calls, hinv,
        hcount hs, Cast.length_setUps hinv, hs, Cast.step, Cast.setUp, hfailing]
    · rw [hnone] at hsome
      cases hsome
  · rw [← Cast.plays_calls, hcalls, Cast.plays_append, Cast.plays_calls, Cast.plays_calls] at plays
    obtain ⟨hready, ⟨-, hnone, -⟩ | ⟨p, cause', hfailing, hcause, hfail, hinv⟩⟩ :=
      setUpEach_plays domain ctx cast h.registry w plays.1
    · rw [hnone] at hsome
      cases hsome
    · obtain ⟨rfl, rfl⟩ := Prod.mk.inj (Option.some.inj (hfail.symm.trans hsome))
      have hundone := (tearDownEach_plays ctx _ _ plays.2).1
      rw [hready] at hundone
      dsimp only
      rw [LifecycleStep.of, ← Trace.invocations_calls, hans, hman, hcalls, Trace.invocations_append,
        Trace.invocations_calls, Trace.invocations_calls, hinv, hundone, hcount hs,
        Cast.length_setUps hinv, hs, Cast.step, Cast.setUp, hfailing]
      simp [hcause, Except.mapError]

/-- Tearing a host down does what the course says. -/
theorem tearDown_course (cast : roles h.members = c.members)
    (plays : c.Plays (h.tearDown ctx w).trace) :
    let done := h.tearDown ctx w
    LifecycleStep.of (.tornDown done.answer) done.manager done.trace
      = c.step .tearDown h.state h.registry.pluginCount := by
  rcases tearDown_cases ctx h w with ⟨hs, hans, hman, -, hcalls⟩ | ⟨hs, hd⟩ | ⟨hs, hd⟩
  · rw [← Cast.plays_calls, hcalls, Cast.plays_calls] at plays
    obtain ⟨hinv, hfailed⟩ := tearDownEach_plays ctx h.members w plays
    dsimp only
    rw [LifecycleStep.of, ← Trace.invocations_calls, hans, hman, hcalls, Trace.invocations_calls, hinv,
      hfailed, hs, cast, Cast.step]
  · rw [hd, hs]
    rfl
  · rw [hd]
    obtain ⟨members, registry, state⟩ := h
    obtain rfl : state = .tornDown := hs
    rfl

end Calls

end Host

/-! ### Runs -/

section Run

variable {μ ω χ α ρ ω' ε κ : Type} [EventTag κ] (host : μ → Host ρ ω' ε κ)
  (reply? : α → Option LifecycleReply)

/-- What is seen of a call, if it is one of the lifecycle. -/
def Step.seen? (left : Step μ ω ε α) : Option LifecycleStep :=
  (reply? left.answer).map fun reply => .of reply (host left.manager) left.trace

/-- The course that a run takes. -/
def Run.course (r : Run μ ω ε χ α) : Course :=
  ⟨(host r.manager).state, (host r.manager).registry.pluginCount,
    r.moments.filterMap (·.left.seen? host reply?)⟩

/-- What a call leaves is what the course says, or nothing about the lifecycle if the call is not one of
    the lifecycle. -/
def Cast.Directs (c : Cast) (m : μ) (left : Step μ ω ε α) : Option Hook → Prop
  | some hook =>
    left.seen? host reply? = some (c.step hook (host m).state (host m).registry.pluginCount)
  | none => left.seen? host reply? = none ∧ host left.manager = host m ∧ left.trace.invocations = []

variable {host} {reply?} {c : Cast} {perform : μ → ω → χ → Step μ ω ε α}

/-- What is seen of a call is the reply to it, and the host and the trace it left. -/
theorem Step.of_seen? {left : Step μ ω ε α} {step : LifecycleStep}
    (h : left.seen? host reply? = some step) :
    left.trace.invocations = step.invocations ∧ (host left.manager).state = step.state ∧
      (host left.manager).registry.pluginCount = step.pluginCount := by
  obtain ⟨reply, -, rfl⟩ := Option.map_eq_some_iff.1 h
  exact ⟨rfl, rfl, rfl⟩

/-- A call takes the course of a run one step further, or leaves it as it is. -/
theorem Run.course_advance {r : Run μ ω ε χ α} {call : χ} {hook : Option Hook}
    (h : c.Directs host reply? r.manager (perform r.manager r.world call) hook)
    (hinv : r.trace.invocations = (r.course host reply?).steps.flatMap (·.invocations)) :
    let r' := r.advance perform call
    r'.course host reply? = hook.toList.foldl c.advance (r.course host reply?) ∧
      r'.trace.invocations = (r'.course host reply?).steps.flatMap (·.invocations) := by
  dsimp only
  rw [trace_advance, Trace.invocations_append, hinv]
  cases hook with
  | none =>
    obtain ⟨hseen, hhost, hnone⟩ := h
    simp [course, moments_advance, hseen, hhost, hnone]
  | some hook =>
    rw [Cast.Directs] at h
    obtain ⟨hcalled, hstate, hcount⟩ := Step.of_seen? h
    simp [course, moments_advance, h, hcalled, hstate, hcount, Cast.advance]

/-- If each of its calls does what the course says, a run takes this course. -/
theorem Run.course_ofCalls {hook? : χ → Option Hook} {m : μ} {w : ω}
    (fresh : (host m).state = .notSetUp ∧ (host m).registry.pluginCount = 0)
    (directed : ∀ before call, let r := ofCalls perform m w before
      let left := perform r.manager r.world call
      c.Plays left.trace → c.Directs host reply? r.manager left (hook? call))
    (calls : List χ) (plays : c.Plays (ofCalls perform m w calls).trace) :
    let r := ofCalls perform m w calls
    r.course host reply? = c.course (calls.filterMap hook?) ∧
      r.trace.invocations = (r.course host reply?).steps.flatMap (·.invocations) := by
  induction calls using List.reverseRecOn with
  | nil =>
    refine ⟨?_, rfl⟩
    simp only [Run.course, ofCalls, List.foldl_nil, fresh]
    rfl
  | append_singleton calls call ih =>
    rw [ofCalls_concat, trace_advance, Cast.plays_append] at plays
    obtain ⟨hcourse, hinv⟩ := ih plays.1
    have hone : [call].filterMap hook? = (hook? call).toList := by
      cases h : hook? call <;> simp [h]
    have hcall := course_advance (directed calls call plays.2) hinv
    rwa [hcourse, ← ofCalls_concat, Cast.course, ← List.foldl_append, ← hone, ← List.filterMap_append,
      ← Cast.course] at hcall

end Run

end PluginFabric
