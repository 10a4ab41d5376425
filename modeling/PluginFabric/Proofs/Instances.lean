import Mathlib.Data.List.Induction
import PluginFabric.Proofs.Resolution

/-! Which instances come of a list of identifiers.

    Of the registrations that make a resolver, the last one under an identifier counts
    (`get?_ofCalls`). A list is resolved by calling the constructors of its identifiers in turn, each
    in the world that the calls before it left (`world_resolveFrom`), and up to the first identifier
    that is unknown or whose constructor fails (`attempts_of_made`). So there is one call for every
    instance, and where constructors make new instances only, no two are the same. -/

namespace PluginFabric.Resolver

variable {ω π ι : Type}

/-- The resolver after these registrations. -/
def ofCalls (calls : List (String × Constructor ω π)) : Resolver ω π :=
  calls.foldl (fun r call => r.register call.1 call.2) empty

/-- The constructor that was registered last under an identifier. -/
def lastConstructor? (calls : List (String × Constructor ω π)) (id : String) :
    Option (Constructor ω π) :=
  (calls.filter (·.1 = id)).getLast?.map (·.2)

section Spec

variable (calls : List (String × Constructor ω π)) (ids : List String) (w : ω) (i : Nat)

/-- The world after a call of the constructor of an identifier that has one. -/
def called (w : ω) (id : String) : ω :=
  match lastConstructor? calls id with
  | none => w
  | some make => (make w).world

/-- The world in which it is position `i`'s turn, after a call for each identifier before it. -/
def worldAt : ω := (ids.take i).foldl (called calls) w

/-- The constructor registered last for the identifier at position `i` makes this instance, when it is
    its turn. -/
def MakesAt (plugin : π) : Prop :=
  ∃ id make, ids[i]? = some id ∧ lastConstructor? calls id = some make ∧
    (make (worldAt calls ids w i)).result = .ok plugin

/-- Position `i` has no instance, with the refusal and the identifiers whose constructors were called
    by then. -/
inductive FailsAt : FabricError → List String → Prop where
  /-- Nothing is registered under the identifier, and nothing is called for it. -/
  | unknown {id : String} (asked : ids[i]? = some id) (missing : lastConstructor? calls id = none) :
    FailsAt (.unknownPlugin id) (ids.take i)
  /-- The constructor registered last is called and fails. -/
  | broken {id : String} {make : Constructor ω π} {cause : Fault} (asked : ids[i]? = some id)
    (known : lastConstructor? calls id = some make)
    (failed : (make (worldAt calls ids w i)).result = .error cause) :
    FailsAt (.instantiation id cause) (ids.take (i + 1))

/-- What resolving these identifiers should come to. -/
structure Constructs (done : Resolution ω π) : Prop where
  /-- All are made if and only if each of them can be. -/
  succeeds : (∃ plugins, done.result = .ok plugins) ↔
    ∀ i < ids.length, ∃ plugin, MakesAt calls ids w i plugin
  /-- There is one instance for each identifier, in order, and one call for each instance. -/
  made : ∀ plugins, done.result = .ok plugins → plugins.length = ids.length ∧
    (∀ i plugin, plugins[i]? = some plugin → MakesAt calls ids w i plugin) ∧ done.attempts = ids
  /-- The first identifier that there is no instance for is told, and no constructor behind it is
      called. -/
  refused : ∀ e, done.result = .error e → ∃ i, FailsAt calls ids w i e done.attempts ∧
    ∀ j < i, ∃ plugin, MakesAt calls ids w j plugin
  /-- The calls are all that happens to the world. -/
  world : done.world = done.attempts.foldl (called calls) w

/-- Every call of a constructor that succeeds makes a new instance: its mark is not in use before, and
    is in use from then on. -/
structure MakesNew (mark : π → ι) (used : ω → ι → Prop) : Prop where
  unused : ∀ call ∈ calls, ∀ w plugin, (call.2 w).result = .ok plugin → ¬ used w (mark plugin)
  taken : ∀ call ∈ calls, ∀ w plugin, (call.2 w).result = .ok plugin →
    used (call.2 w).world (mark plugin)
  kept : ∀ call ∈ calls, ∀ w m, used w m → used (call.2 w).world m

end Spec

/-! ### Registrations -/

section Registrations

variable {calls : List (String × Constructor ω π)} {id : String}

theorem ofCalls_concat (calls : List (String × Constructor ω π)) (call : String × Constructor ω π) :
    ofCalls (calls ++ [call]) = (ofCalls calls).register call.1 call.2 := List.foldl_append

theorem lastConstructor?_concat (calls : List (String × Constructor ω π))
    (call : String × Constructor ω π) (id : String) : lastConstructor? (calls ++ [call]) id
      = if call.1 = id then some call.2 else lastConstructor? calls id := by
  by_cases h : call.1 = id <;> simp [lastConstructor?, List.filter_append, h]

theorem get?_ofCalls (calls : List (String × Constructor ω π)) (id : String) :
    (ofCalls calls).constructors.get? id = lastConstructor? calls id := by
  induction calls using List.reverseRecOn with
  | nil => rfl
  | append_singleton calls call ih =>
    rw [ofCalls_concat, lastConstructor?_concat, register, SortedMap.get?_insert, ih]
    simp only [eq_comm]

theorem mem_of_lastConstructor? {make : Constructor ω π}
    (h : lastConstructor? calls id = some make) : (id, make) ∈ calls := by
  obtain ⟨⟨id', make'⟩, hlast, rfl⟩ := Option.map_eq_some_iff.1 h
  obtain ⟨hmem, hid⟩ := List.mem_filter.1 (List.mem_of_getLast? hlast)
  rw [← of_decide_eq_true hid]
  exact hmem

theorem worldAfter_ofCalls (calls : List (String × Constructor ω π)) :
    (ofCalls calls).worldAfter = called calls := by
  funext w id
  cases hlast : lastConstructor? calls id <;> simp [worldAfter, called, get?_ofCalls, hlast]

end Registrations

/-! ### Calls of constructors -/

section Calls

variable (r : Resolver ω π) {ids : List String} {w : ω} {i : Nat}

theorem attempt_ok_iff {id : String} {plugin : π} : r.attempt id w = .ok plugin ↔
    ∃ make, r.constructors.get? id = some make ∧ (make w).result = .ok plugin := by
  rw [attempt]
  cases r.constructors.get? id with
  | none => simp
  | some make => cases hmade : (make w).result <;> simp [hmade]

theorem attempt_error_iff {id : String} {e : FabricError} : r.attempt id w = .error e ↔
    (r.constructors.get? id = none ∧ e = .unknownPlugin id) ∨
    ∃ make cause, r.constructors.get? id = some make ∧ (make w).result = .error cause ∧
      e = .instantiation id cause := by
  rw [attempt]
  cases r.constructors.get? id with
  | none => simp [eq_comm]
  | some make => cases hmade : (make w).result <;> simp [hmade, eq_comm]

section First

variable {r} {id : String} {make : Constructor ω π}

theorem resolveFrom_unknown (missing : r.constructors.get? id = none) (position : Nat)
    (ids : List String) (w : ω) :
    r.resolveFrom position (id :: ids) w = ⟨.error (.unknownPlugin id), w, [], []⟩ := by
  rw [resolveFrom, missing]

theorem resolveFrom_broken {cause : Fault} (known : r.constructors.get? id = some make)
    (failed : (make w).result = .error cause) (position : Nat) (ids : List String) :
    r.resolveFrom position (id :: ids) w
      = ⟨.error (.instantiation id cause), (make w).world, [id], []⟩ := by
  rw [resolveFrom, known]
  dsimp only
  rw [failed]

/-- After an instance the others are made, in the world that its constructor left. -/
theorem resolveFrom_made {plugin : π} (known : r.constructors.get? id = some make)
    (made : (make w).result = .ok plugin) (position : Nat) (ids : List String) :
    let later := r.resolveFrom (position + 1) ids (r.worldAfter w id)
    r.resolveFrom position (id :: ids) w = ⟨later.result.map (plugin :: ·), later.world,
      id :: later.attempts, .pluginResolved id position :: later.notices⟩ := by
  rw [resolveFrom, worldAfter, known]
  dsimp only
  rw [made]

theorem worldAfter_of_known (known : r.constructors.get? id = some make) (w : ω) :
    r.worldAfter w id = (make w).world := by rw [worldAfter, known]

end First

/-- The world that a resolution leaves is what the constructors that it called have left. -/
theorem world_resolveFrom (position : Nat) (ids : List String) (w : ω) :
    (r.resolveFrom position ids w).world
      = (r.resolveFrom position ids w).attempts.foldl r.worldAfter w := by
  induction ids generalizing position w with
  | nil => rfl
  | cons id ids ih =>
    cases hknown : r.constructors.get? id with
    | none => rw [resolveFrom_unknown hknown, List.foldl_nil]
    | some make =>
      cases hmade : (make w).result with
      | error cause =>
        rw [resolveFrom_broken hknown hmade, List.foldl_cons, List.foldl_nil,
          worldAfter_of_known hknown]
      | ok plugin =>
        rw [resolveFrom_made hknown hmade, List.foldl_cons]
        exact ih ..

/-- As long as instances are made, a resolution goes on. -/
theorem attempts_of_made (position : Nat)
    (made : ∀ j < i, ∃ plugin, r.attemptAt ids w j = some (.ok plugin)) :
    (r.resolveFrom position ids w).attempts = ids.take i ++
      (r.resolveFrom (position + i) (ids.drop i) ((ids.take i).foldl r.worldAfter w)).attempts := by
  induction i generalizing position ids w with
  | zero => rfl
  | succ i ih =>
    cases ids with
    | nil => rfl
    | cons id ids =>
      obtain ⟨plugin, hplugin⟩ := made 0 (Nat.succ_pos i)
      rw [attemptAt_zero, Option.some.injEq] at hplugin
      obtain ⟨make, hknown, hmade⟩ := r.attempt_ok_iff.1 hplugin
      have hlater := @ih ids (r.worldAfter w id) (position + 1)
        fun j hj => made (j + 1) (Nat.succ_lt_succ hj)
      rw [Nat.add_assoc, Nat.add_comm 1 i] at hlater
      rw [resolveFrom_made hknown hmade, hlater]
      rfl

end Calls

/-! ### What comes of a list -/

section Positions

variable {calls : List (String × Constructor ω π)} {ids : List String} {w : ω} {i j : Nat}

theorem attemptAt_ofCalls_ok_iff {plugin : π} :
    (ofCalls calls).attemptAt ids w i = some (.ok plugin) ↔ MakesAt calls ids w i plugin := by
  rw [attemptAt, worldAfter_ofCalls, Option.map_eq_some_iff]
  constructor
  · rintro ⟨id, hasked, hattempt⟩
    obtain ⟨make, hknown, hmade⟩ := (attempt_ok_iff _).1 hattempt
    rw [get?_ofCalls] at hknown
    exact ⟨id, make, hasked, hknown, hmade⟩
  · rintro ⟨id, make, hasked, hknown, hmade⟩
    rw [← get?_ofCalls] at hknown
    exact ⟨id, hasked, (attempt_ok_iff _).2 ⟨make, hknown, hmade⟩⟩

/-- A position that has no instance ends the calls. -/
theorem failsAt_of_attemptAt {e : FabricError} (position : Nat)
    (failed : (ofCalls calls).attemptAt ids w i = some (.error e))
    (made : ∀ j < i, ∃ plugin, (ofCalls calls).attemptAt ids w j = some (.ok plugin)) :
    FailsAt calls ids w i e ((ofCalls calls).resolveFrom position ids w).attempts := by
  rw [attempts_of_made _ position made, worldAfter_ofCalls]
  rw [attemptAt, worldAfter_ofCalls] at failed
  obtain ⟨id, hasked, hattempt⟩ := Option.map_eq_some_iff.1 failed
  obtain ⟨hi, hid⟩ := List.getElem?_eq_some_iff.1 hasked
  rw [List.drop_eq_getElem_cons hi, hid]
  rcases (attempt_error_iff _).1 hattempt with ⟨hmissing, rfl⟩ | ⟨make, cause, hknown, hfailed, rfl⟩
  · rw [resolveFrom_unknown hmissing, List.append_nil]
    rw [get?_ofCalls] at hmissing
    exact .unknown hasked hmissing
  · have htake : ids.take (i + 1) = ids.take i ++ [id] := by
      rw [List.take_add_one, hasked, Option.toList_some]
    rw [resolveFrom_broken hknown hfailed, ← htake]
    rw [get?_ofCalls] at hknown
    exact .broken hasked hknown hfailed

theorem constructs_resolveFrom (calls : List (String × Constructor ω π)) (position : Nat)
    (ids : List String) (w : ω) :
    Constructs calls ids w ((ofCalls calls).resolveFrom position ids w) := by
  have hresolves := (ofCalls calls).resolves_resolveFrom position ids w
  refine ⟨?_, fun plugins hok => ?_, fun e he => ?_, ?_⟩
  · simpa only [attemptAt_ofCalls_ok_iff] using hresolves.ok_iff
  · obtain ⟨hlength, hmade⟩ := hresolves.made plugins hok
    refine ⟨hlength, fun i plugin hi => ?_, ?_⟩
    · have hlt : i < ids.length := hlength ▸ (List.getElem?_eq_some_iff.1 hi).1
      obtain ⟨plugin', hi', hattempt⟩ := hmade i hlt
      rw [Option.some.inj (hi.symm.trans hi')]
      exact attemptAt_ofCalls_ok_iff.1 hattempt
    · have hall : ∀ j < ids.length, ∃ plugin, (ofCalls calls).attemptAt ids w j = some (.ok plugin) :=
        hresolves.ok_iff.1 ⟨plugins, hok⟩
      rw [attempts_of_made _ position hall, List.take_length, List.drop_length]
      exact List.append_nil ids
  · obtain ⟨i, hfailed, hbefore⟩ := hresolves.refused e he
    refine ⟨i, failsAt_of_attemptAt position hfailed hbefore, fun j hj => ?_⟩
    obtain ⟨plugin, hplugin⟩ := hbefore j hj
    exact ⟨plugin, attemptAt_ofCalls_ok_iff.1 hplugin⟩
  · rw [world_resolveFrom, worldAfter_ofCalls]

theorem worldAt_succ {id : String} (hasked : ids[i]? = some id) :
    worldAt calls ids w (i + 1) = called calls (worldAt calls ids w i) id := by
  rw [worldAt, List.take_add_one, hasked, Option.toList_some, List.foldl_append]
  rfl

variable {mark : π → ι} {used : ω → ι → Prop} {m : ι} {plugin plugin' : π}

theorem MakesNew.used_called (h : MakesNew calls mark used) (id : String) (hused : used w m) :
    used (called calls w id) m := by
  rw [called]
  split
  · exact hused
  · rename_i make hknown
    exact h.kept _ (mem_of_lastConstructor? hknown) w m hused

/-- A mark stays in use while a list is resolved. -/
theorem MakesNew.used_later (h : MakesNew calls mark used) (k : Nat)
    (hused : used (worldAt calls ids w i) m) : used (worldAt calls ids w (i + k)) m := by
  induction k with
  | zero => exact hused
  | succ k ih =>
    rw [← Nat.add_assoc]
    cases hasked : ids[i + k]? with
    | none =>
      rw [worldAt, List.take_add_one, hasked, Option.toList_none, List.append_nil]
      exact ih
    | some id =>
      rw [worldAt_succ hasked]
      exact h.used_called id ih

theorem MakesNew.mark_ne (h : MakesNew calls mark used) (hi : MakesAt calls ids w i plugin)
    (hj : MakesAt calls ids w j plugin') (hij : i < j) : mark plugin ≠ mark plugin' := by
  obtain ⟨id, make, hasked, hknown, hmade⟩ := hi
  obtain ⟨id', make', -, hknown', hmade'⟩ := hj
  have htaken : used (worldAt calls ids w (i + 1)) (mark plugin) := by
    rw [worldAt_succ hasked, called, hknown]
    exact h.taken _ (mem_of_lastConstructor? hknown) _ _ hmade
  have hunused := h.unused _ (mem_of_lastConstructor? hknown') _ _ hmade'
  obtain ⟨k, rfl⟩ := Nat.exists_eq_add_of_le hij
  intro heq
  rw [← heq] at hunused
  exact hunused (h.used_later k htaken)

/-- Constructors that make new instances only make no instance twice. -/
theorem Constructs.nodup {done : Resolution ω π} (h : Constructs calls ids w done)
    (new : MakesNew calls mark used) {plugins : List π} (hok : done.result = .ok plugins) :
    (plugins.map mark).Nodup := by
  obtain ⟨-, hmade, -⟩ := h.made plugins hok
  refine List.pairwise_iff_getElem.2 fun i j hi hj hij => ?_
  rw [List.length_map] at hi hj
  rw [List.getElem_map, List.getElem_map]
  exact new.mark_ne (hmade i _ (List.getElem?_eq_getElem hi))
    (hmade j _ (List.getElem?_eq_getElem hj)) hij

end Positions

/-- A list comes to instances of the constructors registered last under its identifiers, blanks around
    an identifier and blank identifiers left aside: one by one and in order, or the first identifier
    that none can be made for is refused. Where a property holds the list as one text, it comes to
    the same. -/
theorem instances_as_registered (calls : List (String × Constructor ω π)) :
    let r := ofCalls calls
    (∀ ids w, Constructs calls ((ids.map Text.trimmed).filter (· ≠ "")) w (r.resolveIds ids w)) ∧
    (∀ (ι : Type) (mark : π → ι) (used : ω → ι → Prop), MakesNew calls mark used →
      ∀ ids w plugins, (r.resolveIds ids w).result = .ok plugins → (plugins.map mark).Nodup) ∧
    ∀ (conf : Configuration) (key : String) (ids : List String) (w : ω),
      (∀ id ∈ ids, Text.itemSeparator ∉ id.toList) → conf.get? key = some (Text.joinItems ids) →
      (r.resolve conf key w).result = (r.resolveIds ids w).result ∧
      (r.resolve conf key w).world = (r.resolveIds ids w).world ∧
      (r.resolve conf key w).attempts = (r.resolveIds ids w).attempts := by
  intro r
  have hconstructs : ∀ ids w,
      Constructs calls ((ids.map Text.trimmed).filter (· ≠ "")) w (r.resolveIds ids w) :=
    fun ids w => constructs_resolveFrom calls 0 (wanted ids) w
  refine ⟨hconstructs, fun ι mark used new ids w plugins hok => ?_,
    fun conf key ids w apart held => ?_⟩
  · exact (hconstructs ids w).nodup new hok
  · have hlist : r.resolveIds (conf.getList key) w = r.resolveIds ids w := by
      rw [resolveIds, resolveIds, Configuration.getList, held, Option.map_some, Option.getD_some,
        wanted_items_joinItems apart]
    rw [resolve, hlist]
    split <;> exact ⟨rfl, rfl, rfl⟩

/-- A constructor of instances that are numbered in the order in which they are made. -/
def numbered (name : String) : Constructor Nat (String × Nat) := fun n => ⟨.ok (name, n), n + 1⟩

theorem makesNew_numbered (names : List (String × String)) :
    MakesNew (names.map fun p => (p.1, numbered p.2)) (·.2) fun n k => k < n := by
  refine ⟨fun call hcall n plugin hok => ?_, fun call hcall n plugin hok => ?_,
    fun call hcall n k hk => ?_⟩
  all_goals obtain ⟨p, -, rfl⟩ := List.mem_map.1 hcall
  · cases hok
    exact Nat.lt_irrefl n
  · cases hok
    exact Nat.lt_succ_self n
  · exact Nat.lt_succ_of_lt hk

/-- An identifier is listed twice, once with blanks around it, between blank ones; it is registered
    again, and each entry gets an instance of its own from the later constructor. -/
theorem instances_as_registered_twice :
    let calls := [("tap", "old"), ("meter", "meter"), ("tap", "tap")].map fun p => (p.1, numbered p.2)
    let ids := [" tap\u00a0", "", "meter", " ", "tap"]
    let conf := Configuration.ofList [("plugins", Text.joinItems ids)]
    ((ofCalls calls).resolve conf "plugins" 0).result = .ok [("tap", 0), ("meter", 1), ("tap", 2)] ∧
      (∀ id ∈ ids, Text.itemSeparator ∉ id.toList) ∧
      ((ofCalls calls).resolveIds ids 0).result = .ok [("tap", 0), ("meter", 1), ("tap", 2)] ∧
      [0, 1, 2].Nodup := by
  intro calls ids conf
  have hok : ((ofCalls calls).resolveIds ids 0).result = .ok [("tap", 0), ("meter", 1), ("tap", 2)] := by
    decide +kernel
  have apart : ∀ id ∈ ids, Text.itemSeparator ∉ id.toList := by decide +kernel
  obtain ⟨-, hnew, hjoined⟩ := instances_as_registered calls
  obtain ⟨hresult, -, -⟩ := hjoined conf "plugins" ids 0 apart (by decide +kernel)
  exact ⟨hresult.trans hok, apart, hok, hnew Nat (·.2) _ (makesNew_numbered _) ids 0 _ hok⟩

end PluginFabric.Resolver
