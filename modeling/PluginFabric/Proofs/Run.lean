import Mathlib.Data.List.Chain
import Mathlib.Data.List.Induction
import PluginFabric.Plugin.Contract

/-! Runs of a manager.

    An engine makes calls of a manager, one after the other; each finds the manager and the world as
    the call before left them. A run keeps every call with what it found and what it left, so that
    questions about a whole run (which windows were announced, whose setup was called) are questions
    about a list. What one call preserves, a run preserves (`run_induction`). -/

namespace PluginFabric

/-- The step with its answer changed. -/
def Step.map {μ ω ε α β : Type} (f : α → β) (s : Step μ ω ε α) : Step μ ω ε β :=
  { s with answer := f s.answer }

section StepMap

variable {μ ω ε α β : Type} (f : α → β) (s : Step μ ω ε α)

@[simp] theorem Step.manager_map : (s.map f).manager = s.manager := rfl

@[simp] theorem Step.trace_map : (s.map f).trace = s.trace := rfl

end StepMap

/-- One call in a run: the manager and the world it found, and what it left. -/
structure Moment (μ ω ε χ α : Type) where
  call : χ
  manager : μ
  world : ω
  left : Step μ ω ε α

/-- A run so far: its calls in order, and the manager and the world after them. -/
structure Run (μ ω ε χ α : Type) where
  manager : μ
  world : ω
  moments : List (Moment μ ω ε χ α) := []

namespace Run

variable {μ ω ε χ α : Type}

/-- All that happened in a run. -/
def trace (r : Run μ ω ε χ α) : Trace ε := r.moments.flatMap (·.left.trace)

/-- The managers of a run: the one each call found, and the one after all. -/
def managers (r : Run μ ω ε χ α) : List μ := r.moments.map (·.manager) ++ [r.manager]

/-- The run with one call more. -/
def advance (perform : μ → ω → χ → Step μ ω ε α) (r : Run μ ω ε χ α) (c : χ) : Run μ ω ε χ α :=
  let left := perform r.manager r.world c
  ⟨left.manager, left.world, r.moments ++ [⟨c, r.manager, r.world, left⟩]⟩

/-- The run of these calls. -/
def ofCalls (perform : μ → ω → χ → Step μ ω ε α) (manager : μ) (world : ω) (calls : List χ) :
    Run μ ω ε χ α :=
  calls.foldl (advance perform) { manager, world }

section Advance

variable (perform : μ → ω → χ → Step μ ω ε α) (r : Run μ ω ε χ α) (c : χ)

@[simp] theorem manager_advance :
    (r.advance perform c).manager = (perform r.manager r.world c).manager := rfl

theorem moments_advance : (r.advance perform c).moments
    = r.moments ++ [⟨c, r.manager, r.world, perform r.manager r.world c⟩] := rfl

theorem trace_advance :
    (r.advance perform c).trace = r.trace ++ (perform r.manager r.world c).trace := by
  simp [trace, moments_advance]

theorem managers_advance :
    (r.advance perform c).managers = r.managers ++ [(perform r.manager r.world c).manager] := by
  simp [managers, moments_advance]

/-- What is read off the calls of a run grows by what is read off the new one. -/
theorem flatMap_moments_advance {β : Type} (read : Moment μ ω ε χ α → List β) :
    (r.advance perform c).moments.flatMap read
      = r.moments.flatMap read ++ read ⟨c, r.manager, r.world, perform r.manager r.world c⟩ := by
  simp [moments_advance]

/-- If every call goes from one manager to a related one, so does the new one. -/
theorem isChain_managers_advance {R : μ → μ → Prop} (h : r.managers.IsChain R)
    (hc : R r.manager (perform r.manager r.world c).manager) :
    (r.advance perform c).managers.IsChain R := by
  rw [managers_advance, managers, List.append_assoc]
  exact List.isChain_append_cons_cons.2 ⟨h, hc, .singleton _⟩

end Advance

theorem ofCalls_append (perform : μ → ω → χ → Step μ ω ε α) (m : μ) (w : ω) (before later : List χ) :
    ofCalls perform m w (before ++ later)
      = later.foldl (advance perform) (ofCalls perform m w before) := List.foldl_append

theorem ofCalls_append_cons (perform : μ → ω → χ → Step μ ω ε α) (m : μ) (w : ω) (before : List χ)
    (c : χ) (later : List χ) : ofCalls perform m w (before ++ c :: later)
      = later.foldl (advance perform) ((ofCalls perform m w before).advance perform c) := by
  rw [ofCalls_append, List.foldl_cons]

theorem ofCalls_concat (perform : μ → ω → χ → Step μ ω ε α) (m : μ) (w : ω) (calls : List χ) (c : χ) :
    ofCalls perform m w (calls ++ [c]) = (ofCalls perform m w calls).advance perform c :=
  ofCalls_append_cons perform m w calls c []

/-- What every call preserves from a run on, the rest of the calls preserve. -/
theorem foldl_induction {perform : μ → ω → χ → Step μ ω ε α} {P : Run μ ω ε χ α → Prop}
    (step : ∀ r c, P r → P (r.advance perform c)) (calls : List χ) :
    ∀ r, P r → P (calls.foldl (advance perform) r) := by
  induction calls with
  | nil => exact fun _ hr => hr
  | cons c calls ih => exact fun r hr => ih _ (step r c hr)

/-- A property of runs that every call preserves holds of every run. -/
theorem run_induction {perform : μ → ω → χ → Step μ ω ε α} {P : Run μ ω ε χ α → Prop}
    {m : μ} {w : ω} (start : P { manager := m, world := w })
    (step : ∀ r c, P r → P (r.advance perform c)) (calls : List χ) : P (ofCalls perform m w calls) :=
  foldl_induction step calls _ start

/-- Every call of a run found what calls before it left. -/
theorem found {perform : μ → ω → χ → Step μ ω ε α} {m : μ} {w : ω} {calls : List χ} :
    ∀ mo ∈ (ofCalls perform m w calls).moments, ∃ before,
      (ofCalls perform m w before).manager = mo.manager ∧
        (ofCalls perform m w before).world = mo.world := by
  induction calls using List.reverseRecOn with
  | nil => exact fun mo hmo => (by cases hmo)
  | append_singleton calls c ih =>
    rw [ofCalls_concat, moments_advance]
    intro mo hmo
    rcases List.mem_append.1 hmo with hmo | hmo
    · exact ih mo hmo
    · rw [List.mem_singleton.1 hmo]
      exact ⟨calls, rfl, rfl⟩

/-- What related calls preserve between two runs holds between runs of related calls. -/
theorem run_induction₂ {μ' ω' χ' α' : Type} {perform : μ → ω → χ → Step μ ω ε α}
    {perform' : μ' → ω' → χ' → Step μ' ω' ε α'} {R : χ → χ' → Prop}
    {P : Run μ ω ε χ α → Run μ' ω' ε χ' α' → Prop} {m : μ} {w : ω} {m' : μ'} {w' : ω'}
    (start : P { manager := m, world := w } { manager := m', world := w' })
    (step : ∀ r r' c c', R c c' → P r r' → P (r.advance perform c) (r'.advance perform' c'))
    {calls : List χ} {calls' : List χ'} (related : List.Forall₂ R calls calls') :
    P (ofCalls perform m w calls) (ofCalls perform' m' w' calls') := by
  suffices h : ∀ r r', P r r' →
      P (calls.foldl (advance perform) r) (calls'.foldl (advance perform') r') from h _ _ start
  induction related with
  | nil => exact fun _ _ hr => hr
  | cons hc _ ih => exact fun r r' hr => ih _ _ (step r r' _ _ hc hr)

end Run

end PluginFabric
