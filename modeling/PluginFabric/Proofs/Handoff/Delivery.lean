import Mathlib.Data.List.Nodup
import PluginFabric.Proofs.Handoff.Subscribers

/-! What a hand-off delivers.

    Over every run a subscriber gets, in order and without repetition, values that were published since
    it came; it misses one exactly if as many more as are kept were published before it got to it, and
    then goes on with the oldest value kept. What the other subscribers do is of no matter to it. -/

namespace PluginFabric.Handoff

variable {ε α : Type}

/-- What a hand-off answers in a state that a run reaches: a value goes to all who came and did not
    leave; handlers that forward never fail, and publish what their event is mapped to; and a reception
    is one on the channel that is retried if it lags. -/
structure Answers (r : Session ε α) : Prop where
  publish : ∀ a, (r.manager.publish a).1 = (live r).length
  forward : ∀ (map : ε → Option α) event,
    (r.manager.forward map event).outcome = .ok () ∧
    (r.manager.forward map event).world = match map event with
      | none => r.manager
      | some a => (r.manager.publish a).2.1
  receive : ∀ id, (r.manager.receive id).map (fun p => (Attempt.received p.1, p.2)) = r.manager.retry id

/-- What the subscriber `id` gets over the calls `later` since it came, which lead to the run `r`. -/
structure Delivers (B : Nat) (id : SubscriberId) (later : List (Call ε α)) (r : Session ε α) : Prop where
  /-- It gets values published in its life, in the order in which they were published and none twice. -/
  got : let s := reading B id later
    s.published = (life id later).filterMap Call.value? ∧
      (got id r).map some = s.taken.map (s.published[·]?) ∧ s.taken.Pairwise (· < ·)
  /-- It misses a value, however it goes on, exactly if at some time `B` more were published and it had
      not got the value. -/
  missed : ∀ j < (reading B id later).published.length,
    (∀ more, j ∉ (reading B id (life id later ++ more)).taken) ↔
      ∃ earlier, earlier <+: life id later ∧ j ∉ (reading B id earlier).taken ∧
        j + B < (reading B id earlier).published.length
  /-- As long as it stays, it receives the value after the last one it got; or, if this one is not kept
      any more, the oldest one that is. -/
  next : (∀ c ∈ later, c.ends id = false) →
    let s := reading B id later
    let received := (r.manager.receive id).map (·.1)
    (s.due + B < s.published.length → ∃ a, r.manager.retained.head? = some a ∧
      s.published[s.published.length - B]? = some a ∧ received = some (.value a)) ∧
    (s.published.length ≤ s.due + B → received = some (match s.published[s.due]? with
      | some a => .value a
      | none => if r.manager.senders = 0 then .closed else .pending))

/-! ### Every run -/

/-- What holds of a run: the last values published are kept, nobody stands or gets anything before it
    came, and those who stand are those who came and did not leave. -/
structure InOrder (B : Nat) (r : Session ε α) : Prop where
  keeps : ∃ all, r.manager.Keeps B all
  unborn : ∀ id, r.manager.nextSubscriber ≤ id →
    r.manager.positions.get? id = none ∧ got id r = []
  nodup : (live r).Nodup
  mem_live : ∀ id, id ∈ live r ↔ (r.manager.positions.get? id).isSome

theorem got_advance (id : SubscriberId) (r : Session ε α) (c : Call ε α) :
    got id (r.advance perform c)
      = got id r ++ (gained id ⟨c, r.manager, r.world, r.manager.perform r.world c⟩).toList := by
  rw [got, Run.moments_advance, List.filterMap_append]
  rfl

theorem live_advance (r : Session ε α) (c : Call ε α) :
    live (r.advance perform c)
      = living (live r) ⟨c, r.manager, r.world, r.manager.perform r.world c⟩ := by
  rw [live, Run.moments_advance, List.foldl_append]
  rfl

/-- Who does not stand anywhere gets nothing. -/
theorem gained_of_none {h : Handoff α} {id : SubscriberId} (hid : h.positions.get? id = none) (w : Unit)
    (c : Call ε α) : gained id ⟨c, h, w, h.perform w c⟩ = none := by
  rw [gained]
  split
  · rename_i hreceiver
    cases c with
    | attempt id' | receive id' =>
      obtain rfl : id' = id := Option.some.inj hreceiver
      simp [perform, attempt, receive, hid, Reply.value?]
    | _ => cases hreceiver
  · rfl

theorem living_of_stay (ids : List SubscriberId) {c : Call ε α} (hc : c.isPassage = false)
    (h : Handoff α) (w : Unit) (left : Step (Handoff α) Unit Empty (Reply α)) :
    living ids ⟨c, h, w, left⟩ = ids := by
  cases c with
  | subscribe | unsubscribe => cases hc
  | _ => rfl

@[simp] theorem positions_publish (h : Handoff α) (a : α) :
    (h.publish a).2.1.positions = h.positions := by
  rw [publish]
  split <;> rfl

@[simp] theorem nextSubscriber_publish (h : Handoff α) (a : α) :
    (h.publish a).2.1.nextSubscriber = h.nextSubscriber := by
  rw [publish]
  split <;> rfl

/-- Only those who come and leave change who is there. -/
theorem stay_perform {c : Call ε α} (hc : c.isPassage = false) (h : Handoff α) (w : Unit) :
    (h.perform w c).manager.nextSubscriber = h.nextSubscriber ∧
      ∀ id, ((h.perform w c).manager.positions.get? id).isSome = (h.positions.get? id).isSome := by
  generalize (h.perform w c).manager = h', change_perform h w c = hchange
  cases hchange with
  | subscribed | unsubscribed => cases hc
  | published => simp
  | moved position _ hid =>
    refine ⟨rfl, fun id => ?_⟩
    rw [moveTo, SortedMap.get?_insert]
    split
    · rename_i heq
      rw [heq, hid]
      rfl
    · rfl
  | still => exact ⟨rfl, fun _ => rfl⟩

theorem Keeps.perform {B : Nat} {all : List α} {h : Handoff α} (hk : h.Keeps B all) (w : Unit)
    (c : Call ε α) : ∃ all', (h.perform w c).manager.Keeps B all' := by
  generalize (h.perform w c).manager = h', change_perform h w c = hchange
  cases hchange with
  | @published _ a _ =>
    rw [Handoff.publish]
    split
    · exact ⟨all, hk⟩
    · exact ⟨_, hk.publish a⟩
  | _ => exact ⟨all, hk.aside rfl rfl rfl⟩

theorem InOrder.advance {B : Nat} {r : Session ε α} (hr : InOrder B r) (c : Call ε α) :
    InOrder B (r.advance perform c) := by
  obtain ⟨⟨all, hkeeps⟩, hunborn, hnodup, hlive⟩ := hr
  have hgot : ∀ id, r.manager.nextSubscriber ≤ id → got id (r.advance perform c) = [] := by
    intro id hid
    obtain ⟨hnone, hgot⟩ := hunborn id hid
    rw [got_advance, hgot, gained_of_none hnone]
    rfl
  have hkept : ∃ all, (r.advance perform c).manager.Keeps B all := hkeeps.perform r.world c
  cases hc : c.isPassage with
  | false =>
    obtain ⟨hnext, hstay⟩ := stay_perform hc r.manager r.world
    refine ⟨hkept, fun id hid => ?_, ?_, fun id => ?_⟩
    · rw [Run.manager_advance, hnext] at hid
      refine ⟨?_, hgot id hid⟩
      rw [Run.manager_advance, ← Option.isNone_iff_eq_none, ← Option.not_isSome, hstay,
        (hunborn id hid).1]
      rfl
    · rwa [live_advance, living_of_stay _ hc]
    · rw [live_advance, living_of_stay _ hc, Run.manager_advance, hstay]
      exact hlive id
  | true =>
    cases c with
    | subscribe =>
      have hnew : r.manager.nextSubscriber ∉ live r := fun hmem => by
        rw [hlive, (hunborn _ (Nat.le_refl _)).1] at hmem
        cases hmem
      have hlive' : live (r.advance perform .subscribe) = live r ++ [r.manager.nextSubscriber] :=
        live_advance r .subscribe
      have hget : ∀ id, (r.advance perform .subscribe).manager.positions.get? id
          = if id = r.manager.nextSubscriber then some r.manager.published
            else r.manager.positions.get? id := fun id => SortedMap.get?_insert ..
      refine ⟨hkept, fun id hid => ?_, ?_, fun id => ?_⟩
      · have hlt : r.manager.nextSubscriber < id := hid
        refine ⟨?_, hgot id (Nat.le_of_lt hlt)⟩
        rw [hget, if_neg (Nat.ne_of_gt hlt)]
        exact (hunborn id (Nat.le_of_lt hlt)).1
      · rw [hlive', List.nodup_append]
        refine ⟨hnodup, List.nodup_singleton _, fun i hi j hj heq => ?_⟩
        exact hnew (List.mem_singleton.1 hj ▸ heq ▸ hi)
      · rw [hlive', List.mem_append, List.mem_singleton, hget, hlive]
        by_cases heq : id = r.manager.nextSubscriber <;> simp [heq]
    | unsubscribe id' =>
      have hlive' : live (r.advance perform (.unsubscribe id')) = (live r).filter (· ≠ id') :=
        live_advance r (.unsubscribe id')
      have hget : ∀ id, (r.advance perform (.unsubscribe id')).manager.positions.get? id
          = if id = id' then none else r.manager.positions.get? id := fun id => SortedMap.get?_erase ..
      refine ⟨hkept, fun id hid => ⟨?_, hgot id hid⟩, ?_, fun id => ?_⟩
      · rw [hget, (hunborn id hid).1]
        split <;> rfl
      · rw [hlive']
        exact hnodup.filter _
      · rw [hlive', List.mem_filter, hget, hlive]
        by_cases heq : id = id' <;> simp [heq]
    | _ => cases hc

theorem inOrder_run (wanted : Nat) (calls : List (Call ε α)) :
    InOrder (bound wanted) (run wanted calls) := by
  refine Run.run_induction ⟨⟨[], rfl, rfl, List.drop_nil.symm⟩, fun id _ => ⟨rfl, rfl⟩, .nil, ?_⟩
    (fun r c hr => hr.advance c) calls
  exact fun id => ⟨fun h => (by cases h), fun h => (by cases h)⟩

theorem InOrder.answers {wanted : Nat} {r : Session ε α} (hr : InOrder (bound wanted) r) :
    Answers r := by
  obtain ⟨⟨all, hkeeps⟩, -, hnodup, hlive⟩ := hr
  refine ⟨fun a => ?_, fun map event => ?_, receive_eq_retry hkeeps (bound_pos wanted)⟩
  · rw [receivers_publish]
    refine ((List.perm_ext_iff_of_nodup (SortedMap.nodup_keys _) hnodup).2 fun id => ?_).length_eq
    rw [SortedMap.mem_keys, hlive]
  · rw [Handoff.forward]
    cases map event <;> exact ⟨rfl, rfl⟩

/-! ### One subscriber over a run -/

/-- As long as a subscriber stays it follows the reader of its course, and gets what this takes. -/
theorem follows_run (wanted : Nat) (before later : List (Call ε α)) :
    let id := (run wanted before).manager.nextSubscriber
    let r := run wanted (before ++ .subscribe :: later)
    (∀ c ∈ later, c.ends id = false) →
    let s := Reader.ofActs (bound wanted) (later.filterMap (Call.act? id))
    (∃ earlier, Follows (bound wanted) earlier id r.manager s) ∧ (got id r).map some = s.values := by
  intro id r
  induction later using List.reverseRecOn with
  | nil =>
    intro _ s
    obtain ⟨⟨all, hkeeps⟩, hunborn, -⟩ := inOrder_run wanted before
    have hr : r = (run wanted before).advance perform .subscribe := Run.ofCalls_concat ..
    rw [hr]
    refine ⟨⟨all, ?_, ?_, Nat.lt_succ_self _⟩, ?_⟩
    · rw [show s.published = [] from rfl, List.append_nil]
      exact hkeeps.aside rfl rfl rfl
    · refine (SortedMap.get?_insert ..).trans ?_
      rw [if_pos rfl, hkeeps.published]
      rfl
    · rw [got_advance, (hunborn id (Nat.le_refl _)).2]
      rfl
  | append_singleton later c ih =>
    intro hstays s
    obtain ⟨⟨earlier, hf⟩, hgot⟩ := ih fun c' hc' => hstays c' (List.mem_append_left _ hc')
    have hr : r = (run wanted (before ++ .subscribe :: later)).advance perform c := by
      have hconcat := Run.ofCalls_concat perform (ofCapacity wanted) () (before ++ .subscribe :: later) c
      rwa [List.append_assoc, List.cons_append] at hconcat
    have hs : s = ((c.act? id).map ((Reader.ofActs (bound wanted)
        (later.filterMap (Call.act? id))).act (bound wanted))).getD
          (Reader.ofActs (bound wanted) (later.filterMap (Call.act? id))) := by
      simp only [s, List.filterMap_append]
      cases hact : c.act? id with
      | none => simp [hact]
      | some x => simpa [hact] using Reader.ofActs_concat _ x
    obtain ⟨hf', hvalues⟩ := hf.perform (Reader.sound_ofActs _) (bound_pos wanted)
      (run wanted (before ++ .subscribe :: later)).world (hstays c (List.mem_append_right _ (.head _)))
    rw [← hs] at hf' hvalues
    rw [hr]
    refine ⟨⟨earlier, hf'⟩, ?_⟩
    rw [got_advance, List.map_append, hgot, hvalues]
    congr 1
    cases gained id _ <;> rfl

/-- Who left gets nothing any more. -/
theorem got_later {id : SubscriberId} (calls : List (Call ε α)) {r : Session ε α}
    (hgone : r.manager.positions.get? id = none) (hborn : id < r.manager.nextSubscriber) :
    got id (calls.foldl (Run.advance perform) r) = got id r := by
  refine (Run.foldl_induction (P := fun r' => r'.manager.positions.get? id = none ∧
    id < r'.manager.nextSubscriber ∧ got id r' = got id r) ?_ calls r ⟨hgone, hborn, rfl⟩).2.2
  rintro r' c ⟨hgone', hborn', hgot⟩
  rw [got_advance, gained_of_none hgone', Option.toList_none, List.append_nil, Run.manager_advance]
  generalize (r'.manager.perform r'.world c).manager = h', change_perform r'.manager r'.world c = hchange
  cases hchange with
  | subscribed =>
    refine ⟨?_, Nat.lt_succ_of_lt hborn', hgot⟩
    exact (SortedMap.get?_insert ..).trans ((if_neg (Nat.ne_of_lt hborn')).trans hgone')
  | unsubscribed id' =>
    refine ⟨(SortedMap.get?_erase ..).trans ?_, hborn', hgot⟩
    rw [hgone']
    split <;> rfl
  | published => exact ⟨by rwa [positions_publish], by rwa [nextSubscriber_publish], hgot⟩
  | moved position _ hid =>
    refine ⟨(SortedMap.get?_insert ..).trans ((if_neg fun heq => ?_).trans hgone'), hborn', hgot⟩
    rw [← heq, hgone'] at hid
    cases hid
  | still => exact ⟨hgone', hborn', hgot⟩

theorem ends_of_mem_life {id : SubscriberId} {calls : List (Call ε α)} {c : Call ε α}
    (hc : c ∈ life id calls) : c.ends id = false := by
  have hall := List.all_eq_true.1 (List.all_takeWhile (p := fun c : Call ε α => !c.ends id)) c hc
  simpa using hall

/-- The calls since a subscriber came are those of its life, or it leaves then and others follow. -/
theorem life_cases (id : SubscriberId) (calls : List (Call ε α)) :
    life id calls = calls ∨ ∃ rest, calls = life id calls ++ .unsubscribe id :: rest := by
  have hsplit : life id calls ++ calls.dropWhile (fun c => !c.ends id) = calls :=
    List.takeWhile_append_dropWhile
  have hhead := List.head?_dropWhile_not (fun c : Call ε α => !c.ends id) calls
  rcases hrest : calls.dropWhile (fun c => !c.ends id) with _ | ⟨c, rest⟩
  · left
    rwa [hrest, List.append_nil] at hsplit
  · right
    rw [hrest] at hsplit hhead
    cases c with
    | unsubscribe id' =>
      obtain rfl : id' = id := by simpa [Call.ends] using hhead
      exact ⟨rest, hsplit.symm⟩
    | _ => simp [Call.ends] at hhead

theorem life_of_stays {id : SubscriberId} {calls : List (Call ε α)}
    (hstays : ∀ c ∈ calls, c.ends id = false) : life id calls = calls := by
  refine (life_cases id calls).resolve_right fun ⟨rest, hsplit⟩ => ?_
  have hmem : .unsubscribe id ∈ calls := by
    rw [hsplit]
    exact List.mem_append_right _ (.head _)
  simpa [Call.ends] using hstays _ hmem

/-- What a subscriber got over its life is all that it got. -/
theorem got_run (wanted : Nat) (before later : List (Call ε α)) :
    let id := (run wanted before).manager.nextSubscriber
    (got id (run wanted (before ++ .subscribe :: later))).map some
      = (reading (bound wanted) id later).values := by
  intro id
  obtain ⟨⟨earlier, hf⟩, hgot⟩ := follows_run wanted before (life id later) fun c => ends_of_mem_life
  rw [reading, course, ← hgot]
  congr 1
  rcases life_cases id later with hlife | ⟨rest, hlife⟩
  · rw [hlife]
  · let left := (run wanted (before ++ .subscribe :: life id later)).advance perform (.unsubscribe id)
    have hrun : run wanted (before ++ .subscribe :: later) = rest.foldl (Run.advance perform) left := by
      conv => lhs; rw [hlife]
      rw [← List.cons_append, ← List.append_assoc]
      exact Run.ofCalls_append_cons ..
    have hgone : left.manager.positions.get? id = none := (SortedMap.get?_erase ..).trans (if_pos rfl)
    rw [hrun]
    refine (got_later rest hgone hf.born).trans ?_
    rw [got_advance]
    exact List.append_nil _

/-- The values of a course are those published in the life. -/
theorem published_reading (B : Nat) (id : SubscriberId) (calls : List (Call ε α)) :
    (reading B id calls).published = (life id calls).filterMap Call.value? := by
  rw [reading, Reader.published_ofActs, course, List.filterMap_filterMap]
  refine List.filterMap_congr fun c _ => ?_
  cases c with
  | attempt id' | receive id' =>
    rw [Call.act?]
    split <;> rfl
  | forward map event => cases hmap : map event <;> simp [Call.act?, Call.value?, Act.value?, hmap]
  | _ => rfl

/-! ### What is missed -/

theorem course_append_of_life (id : SubscriberId) (calls more : List (Call ε α)) :
    course id (life id calls ++ more) = course id calls ++ course id more := by
  have hlife : life id (life id calls ++ more) = life id calls ++ life id more :=
    List.takeWhile_append_of_pos fun c hc => by simp [ends_of_mem_life hc]
  rw [course, hlife, List.filterMap_append]
  rfl

/-- Whatever may concern a subscriber can be brought about by calls. -/
theorem exists_course (ε : Type) (id : SubscriberId) (acts : List (Act α)) :
    ∃ calls : List (Call ε α), course id calls = acts := by
  induction acts with
  | nil => exact ⟨[], rfl⟩
  | cons x acts ih =>
    obtain ⟨calls, hcalls⟩ := ih
    have hcons : ∀ c : Call ε α, c.ends id = false → c.act? id = some x →
        course id (c :: calls) = x :: acts := by
      intro c hends hact
      rw [← hcalls, course, course, life, List.takeWhile_cons_of_pos (by simp [hends]),
        List.filterMap_cons_some hact]
      rfl
    cases x with
    | published a => exact ⟨_, hcons (.publish a) rfl rfl⟩
    | attempting => exact ⟨_, hcons (.attempt id) rfl (if_pos rfl)⟩
    | receiving => exact ⟨_, hcons (.receive id) rfl (if_pos rfl)⟩

theorem missed_iff (B : Nat) (id : SubscriberId) (calls : List (Call ε α)) {j : Nat}
    (hj : j < (reading B id calls).published.length) :
    (∀ more, j ∉ (reading B id (life id calls ++ more)).taken) ↔
      ∃ earlier, earlier <+: life id calls ∧ j ∉ (reading B id earlier).taken ∧
        j + B < (reading B id earlier).published.length := by
  have hlost := Reader.lost_iff (course id calls) hj
  have hearlier : ∀ earlier, earlier <+: life id calls →
      course id earlier = earlier.filterMap (Call.act? id) := by
    intro earlier hbegins
    rw [course, life_of_stays fun c hc => ends_of_mem_life (hbegins.subset hc)]
  simp only [reading, course_append_of_life]
  constructor
  · intro hmissed
    obtain ⟨acts, hbegins, hnot, hB⟩ := hlost.1 fun more => by
      obtain ⟨calls', rfl⟩ := exists_course ε id more
      exact hmissed calls'
    obtain ⟨earlier, hbegins', rfl⟩ := List.prefix_filterMap_iff.1 hbegins
    refine ⟨earlier, hbegins', ?_⟩
    rw [hearlier earlier hbegins']
    exact ⟨hnot, hB⟩
  · rintro ⟨earlier, hbegins, hnot, hB⟩ more
    refine hlost.2 ⟨course id earlier, ?_, hnot, hB⟩ _
    rw [hearlier earlier hbegins]
    exact hbegins.filterMap _

/-! ### What is received next -/

/-- What a subscriber receives next: its reader tells where it takes its value. -/
theorem Follows.next {B : Nat} {earlier : List α} {id : SubscriberId} {h : Handoff α} {s : Reader α}
    (hf : Follows B earlier id h s) (hs : s.Sound B) (hB : 0 < B) :
    let received := (h.receive id).map (·.1)
    (s.due + B < s.published.length → ∃ a, h.retained.head? = some a ∧
      s.published[s.published.length - B]? = some a ∧ received = some (.value a)) ∧
    (s.published.length ≤ s.due + B → received = some (match s.published[s.due]? with
      | some a => .value a
      | none => if h.senders = 0 then .closed else .pending)) := by
  obtain ⟨notices, hreceive⟩ := hf.receive
  have hskip := hs.position_skip
  rw [Reader.oldest] at hskip
  dsimp only
  rw [hreceive]
  constructor
  · intro hlost
    have hlt : s.published.length - B < s.published.length := by omega
    have hat : (s.skip B).position = s.published.length - B := by omega
    refine ⟨_, ?_, List.getElem?_eq_getElem hlt, ?_⟩
    · have hread := hf.read (i := s.published.length - B) (Nat.le_refl _)
      rw [hf.forgotten, show earlier.length + (s.published.length - B)
        - (earlier.length + s.published.length - B) = 0 by omega] at hread
      rw [List.head?_eq_getElem?, hread, List.getElem?_eq_getElem hlt]
    · rw [hat, List.getElem?_eq_getElem hlt]
      rfl
  · intro hkept
    have hat : (s.skip B).position = s.due := by omega
    rw [hat]
    cases s.published[s.due]? <;> rfl

/-- Over every run of a hand-off, a subscriber gets values published in its life, in order and none
    twice; it misses those that were overtaken by as many as are kept, and goes on with the oldest one
    kept. Publishing reaches all who are there, forwarding handlers never fail, and two subscribers with
    the same course get the same, whatever others do. -/
theorem subscribers_read_alone (ε α : Type) (wanted : Nat) :
    let run : List (Call ε α) → Session ε α := run wanted
    (∀ calls, Answers (run calls)) ∧
    ∀ before later,
      let id := (run before).manager.nextSubscriber
      let r := run (before ++ .subscribe :: later)
      Delivers (bound wanted) id later r ∧
      ∀ before' later',
        let id' := (run before').manager.nextSubscriber
        let r' := run (before' ++ .subscribe :: later')
        course id' later' = course id later → got id' r' = got id r := by
  intro run
  refine ⟨fun calls => (inOrder_run wanted calls).answers, fun before later => ⟨⟨?_, ?_, ?_⟩, ?_⟩⟩
  · exact ⟨published_reading .., got_run wanted before later, (Reader.sound_ofActs _).ascending⟩
  · exact fun j hj => missed_iff _ _ later hj
  · intro hstays
    obtain ⟨⟨earlier, hf⟩, -⟩ := follows_run wanted before later hstays
    rw [reading, course, life_of_stays hstays]
    exact hf.next (Reader.sound_ofActs _) (bound_pos wanted)
  · intro before' later' id' r' hcourse
    refine List.map_injective_iff.2 (fun _ _ => Option.some.inj) ?_
    refine (got_run wanted before' later').trans ?_
    rw [reading, hcourse]
    exact (got_run wanted before later).symm

/-- The first of two subscribers lags, and again before it catches up: it goes on with the oldest of the
    four values kept, and misses one for good that was still kept when it lagged first. -/
theorem subscribers_read_alone_lapped :
    let even (n : Nat) : Option Nat := if n % 2 = 0 then some (10 * n) else none
    let later : List (Call Nat Nat) := [.publish 1, .subscribe, .forward even 2, .forward even 3,
      .receive 1, .publish 4, .publish 5, .publish 6, .publish 7, .publish 8, .attempt 0, .publish 9,
      .receive 0, .unsubscribe 1, .receive 0]
    let r := run 3 ([.publish 0] ++ .subscribe :: later)
    (got 0 r).map some = [some 6, some 7] ∧ (r.manager.publish 10).1 = 1 ∧
      ∀ more, 3 ∉ (reading 4 0 (life 0 later ++ more)).taken := by
  intro even later r
  have hbound : bound 3 = 4 := by decide +kernel
  obtain ⟨hanswers, hdelivers⟩ := subscribers_read_alone Nat Nat 3
  obtain ⟨⟨⟨-, hgot, -⟩, hmissed, -⟩, -⟩ := hdelivers [.publish 0] later
  rw [hbound] at hgot hmissed
  refine ⟨hgot.trans (by decide +kernel), ?_, ?_⟩
  · rw [(hanswers _).publish]
    decide +kernel
  · have hpublished : 3 < (reading 4 0 (life 0 later)).published.length := by decide +kernel
    exact (hmissed 3 hpublished).2
      ⟨(life 0 later).take 12, List.take_prefix .., by decide +kernel, by decide +kernel⟩

end PluginFabric.Handoff
