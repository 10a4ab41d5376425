import PluginFabric.Proofs.Handoff.Reader
import PluginFabric.Proofs.Run

/-! Subscribers of a hand-off.

    Subscribers come and go, each receives at its own pace, and values are published by any holder of
    the hand-off or by handlers that forward to it, in any order. Whatever the others do, a subscriber
    gets what a reader by itself takes (`Follows`): the values published in its life and the moments at
    which it receives decide what it gets, and nothing else. -/

namespace PluginFabric.Handoff

variable {ε α : Type}

/-! ### What is called -/

/-- What comes of one reception on the channel. -/
inductive Attempt (α : Type) where
  | received (r : Received α)
  /-- So many values were skipped, and nothing is received. -/
  | lagged (skipped : Nat)

/-- The hand-off with a subscriber at this position. -/
def moveTo (h : Handoff α) (id : SubscriberId) (position : Nat) : Handoff α :=
  { h with positions := h.positions.insert id position }

/-- One reception on the channel: a subscriber that lags is told so and moved to the oldest value kept,
    another one gets its next value. -/
def attempt (h : Handoff α) (id : SubscriberId) : Option (Attempt α × Handoff α) :=
  (h.positions.get? id).map fun position =>
    if position < h.forgotten then
      (.lagged (h.forgotten - position), h.moveTo id h.forgotten)
    else match h.retained[position - h.forgotten]? with
      | some a => (.received (.value a), h.moveTo id (position + 1))
      | none => (.received (if h.senders = 0 then .closed else .pending), h)

/-- A reception, and another one if it lags. -/
def retry (h : Handoff α) (id : SubscriberId) : Option (Attempt α × Handoff α × List Notice) :=
  (h.attempt id).bind fun
    | (.lagged skipped, after) =>
      (after.attempt id).map fun p => (p.1, p.2, [.subscriberLagged skipped])
    | (.received r, after) => some (.received r, after, [])

/-- What is done with a hand-off, where forwarding handlers get events `ε`. -/
inductive Call (ε α : Type) where
  | subscribe
  | unsubscribe (id : SubscriberId)
  | publish (a : α)
  | forward (map : ε → Option α) (event : ε)
  | addSender
  | dropSender
  /-- One of the receptions on the channel that make up a `receive`, so that others can come between. -/
  | attempt (id : SubscriberId)
  | receive (id : SubscriberId)

/-- What comes of it. -/
inductive Reply (α : Type) where
  | subscribed (id : SubscriberId)
  | published (receivers : Nat)
  | forwarded (outcome : Outcome Unit)
  | attempted (r : Option (Attempt α))
  | received (r : Option (Received α))
  | nothing

def perform (h : Handoff α) (w : Unit) : Call ε α → Step (Handoff α) Unit Empty (Reply α)
  | .subscribe => ⟨.subscribed h.subscribe.1, h.subscribe.2, w, []⟩
  | .unsubscribe id => ⟨.nothing, h.unsubscribe id, w, []⟩
  | .publish a => ⟨.published (h.publish a).1, (h.publish a).2.1, w, .ofNotices (h.publish a).2.2⟩
  | .forward map event =>
    let done := h.forward map event
    ⟨.forwarded done.outcome, done.world, w, .ofNotices done.notices⟩
  | .addSender => ⟨.nothing, h.addSender, w, []⟩
  | .dropSender => ⟨.nothing, h.dropSender, w, []⟩
  | .attempt id =>
    match h.attempt id with
    | none => ⟨.attempted none, h, w, []⟩
    | some (r, after) => ⟨.attempted (some r), after, w, []⟩
  | .receive id =>
    match h.receive id with
    | none => ⟨.received none, h, w, []⟩
    | some (r, after, notices) => ⟨.received (some r), after, w, .ofNotices notices⟩

/-- A run of a hand-off. -/
abbrev Session (ε α : Type) := Run (Handoff α) Unit Empty (Call ε α) (Reply α)

/-- The run of these calls on a new hand-off of the wanted capacity. -/
def run (wanted : Nat) (calls : List (Call ε α)) : Session ε α :=
  .ofCalls perform (ofCapacity wanted) () calls

/-! ### What is read off a run -/

/-- The value that a reply hands over, if it does. -/
def Reply.value? : Reply α → Option α
  | .attempted (some (.received (.value a))) | .received (some (.value a)) => some a
  | _ => none

namespace Call

/-- The subscriber that receives, if one does. -/
def receiver? : Call ε α → Option SubscriberId
  | attempt id | receive id => some id
  | _ => none

/-- The value that is published, if one is: a handler that forwards publishes what its event is mapped
    to. -/
def value? : Call ε α → Option α
  | publish a => some a
  | forward map event => map event
  | _ => none

/-- Whether a subscriber comes or leaves. -/
def isPassage : Call ε α → Bool
  | subscribe | unsubscribe _ => true
  | _ => false

/-- Whether the subscriber `id` leaves. -/
def ends (id : SubscriberId) : Call ε α → Bool
  | unsubscribe id' => id' = id
  | _ => false

/-- A call by which a subscriber receives publishes nothing. -/
theorem value?_of_receiver? {c : Call ε α} {id : SubscriberId} (hc : c.receiver? = some id) :
    c.value? = none := by
  cases c with
  | attempt | receive => rfl
  | _ => cases hc

/-- What the call means to the subscriber `id`, if anything. -/
def act? (id : SubscriberId) : Call ε α → Option (Act α)
  | attempt id' => if id' = id then some .attempting else none
  | receive id' => if id' = id then some .receiving else none
  | c => c.value?.map .published

end Call

/-- The calls up to the one by which the subscriber `id` leaves. -/
def life (id : SubscriberId) (calls : List (Call ε α)) : List (Call ε α) :=
  calls.takeWhile fun c => !c.ends id

/-- What concerns the subscriber `id` as long as it stays. -/
def course (id : SubscriberId) (calls : List (Call ε α)) : List (Act α) :=
  (life id calls).filterMap (Call.act? id)

/-- The reader that the subscriber `id` is like as long as it stays. -/
def reading (B : Nat) (id : SubscriberId) (calls : List (Call ε α)) : Reader α :=
  .ofActs B (course id calls)

/-- The value that `id` gets by a call, if it does. -/
def gained (id : SubscriberId) (mo : Moment (Handoff α) Unit Empty (Call ε α) (Reply α)) : Option α :=
  if mo.call.receiver? = some id then mo.left.answer.value? else none

/-- The values that `id` got in a run. -/
def got (id : SubscriberId) (r : Session ε α) : List α := r.moments.filterMap (gained id)

/-- The subscribers after a call. -/
def living (ids : List SubscriberId) (mo : Moment (Handoff α) Unit Empty (Call ε α) (Reply α)) :
    List SubscriberId :=
  match mo.call, mo.left.answer with
  | .subscribe, .subscribed id => ids ++ [id]
  | .unsubscribe id, _ => ids.filter (· ≠ id)
  | _, _ => ids

/-- The subscribers that came and did not leave. -/
def live (r : Session ε α) : List SubscriberId := r.moments.foldl living []

/-! ### The values kept -/

theorem bound_pos (wanted : Nat) : 0 < bound wanted :=
  Nat.pos_of_isPowerOfTwo (Nat.isPowerOfTwo_nextPowerOfTwo _)

/-- The last values of all so far are the last ones of those kept and the new one. -/
theorem lastOf_concat (n : Nat) (l : List α) (a : α) :
    lastOf n (lastOf n l ++ [a]) = lastOf n (l ++ [a]) := by
  rw [lastOf, lastOf, lastOf]
  rcases Nat.lt_or_ge l.length n with hlt | hge
  · rw [show l.length - n = 0 by omega, List.drop_zero]
  · rw [← List.drop_append_of_le_length (Nat.sub_le ..), List.drop_drop]
    congr 1
    simp only [List.length_append, List.length_drop, List.length_singleton]
    omega

/-- A hand-off that accepted `all` keeps the last `B` of them. -/
structure Keeps (B : Nat) (all : List α) (h : Handoff α) : Prop where
  capacity : h.capacity = B
  published : h.published = all.length
  retained : h.retained = lastOf B all

section Keeps

variable {B : Nat} {all : List α} {h : Handoff α}

theorem Keeps.forgotten (hk : h.Keeps B all) : h.forgotten = all.length - B := by
  rw [Handoff.forgotten, hk.published, hk.retained, lastOf, List.length_drop]
  omega

/-- What is kept is found at its place among all values. -/
theorem Keeps.read (hk : h.Keeps B all) {i : Nat} (hi : all.length - B ≤ i) :
    h.retained[i - h.forgotten]? = all[i]? := by
  rw [hk.retained, hk.forgotten, lastOf, List.getElem?_drop]
  congr 1
  omega

theorem Keeps.publish (hk : h.Keeps B all) (a : α) :
    Keeps B (all ++ [a]) { h with
      published := h.published + 1
      retained := lastOf h.capacity (h.retained ++ [a]) } := by
  refine ⟨hk.capacity, ?_, ?_⟩
  · rw [hk.published, List.length_append]
    rfl
  · rw [hk.capacity, hk.retained, lastOf_concat]

/-- Where the subscribers stand is of no matter to what is kept. -/
theorem Keeps.aside (hk : h.Keeps B all) {h' : Handoff α} (hcap : h'.capacity = h.capacity)
    (hpub : h'.published = h.published) (hret : h'.retained = h.retained) : h'.Keeps B all :=
  ⟨hcap.trans hk.capacity, hpub.trans hk.published, hret.trans hk.retained⟩

theorem isEmpty_positions (h : Handoff α) {id : SubscriberId} (hid : (h.positions.get? id).isSome) :
    h.positions.isEmpty = false := by
  rw [SortedMap.isEmpty, List.isEmpty_eq_false_iff]
  intro hnil
  simp [SortedMap.get?, hnil, SortedMap.lookup] at hid

/-- A value goes to all subscribers, and there may be none. -/
theorem receivers_publish (h : Handoff α) (a : α) : (h.publish a).1 = h.positions.keys.length := by
  rw [publish, SortedMap.keys, List.length_map]
  split
  · rename_i hempty
    rw [SortedMap.isEmpty, List.isEmpty_iff] at hempty
    rw [hempty]
    rfl
  · rfl

end Keeps

/-! ### One call -/

/-- What a call can do to a hand-off. -/
inductive Change (h : Handoff α) : Call ε α → Handoff α → Prop where
  | subscribed : Change h .subscribe h.subscribe.2
  | unsubscribed (id : SubscriberId) : Change h (.unsubscribe id) (h.unsubscribe id)
  | published {c : Call ε α} {a : α} (hc : c.value? = some a) : Change h c (h.publish a).2.1
  | moved {c : Call ε α} {id : SubscriberId} (position : Nat) (hc : c.receiver? = some id)
      (hid : (h.positions.get? id).isSome) : Change h c (h.moveTo id position)
  | still {c : Call ε α} (senders : Nat) (hc : c.value? = none) (hstay : c.isPassage = false) :
      Change h c { h with senders }

theorem change_perform (h : Handoff α) (w : Unit) (c : Call ε α) :
    Change h c (h.perform w c).manager := by
  cases c with
  | subscribe => exact .subscribed
  | unsubscribe id => exact .unsubscribed id
  | publish a => exact .published rfl
  | forward map event =>
    cases hmap : map event with
    | none =>
      simp only [perform, forward, hmap]
      exact .still h.senders hmap rfl
    | some a =>
      simp only [perform, forward, hmap]
      exact .published hmap
  | addSender => exact .still (h.senders + 1) rfl rfl
  | dropSender => exact .still (h.senders - 1) rfl rfl
  | attempt id =>
    rw [perform, attempt]
    cases hid : h.positions.get? id with
    | none => exact .still h.senders rfl rfl
    | some position =>
      have hsome : (h.positions.get? id).isSome := by rw [hid]; rfl
      rw [Option.map_some]
      by_cases hlt : position < h.forgotten
      · rw [if_pos hlt]
        exact .moved _ rfl hsome
      · rw [if_neg hlt]
        rcases h.retained[position - h.forgotten]? with _ | a
        · exact .still h.senders rfl rfl
        · exact .moved _ rfl hsome
  | receive id =>
    rw [perform, receive]
    cases hid : h.positions.get? id with
    | none => exact .still h.senders rfl rfl
    | some position =>
      have hsome : (h.positions.get? id).isSome := by rw [hid]; rfl
      simp only [Option.map_some]
      rcases h.retained[max position h.forgotten - h.forgotten]? with _ | a
      · exact .still h.senders rfl rfl
      · exact .moved _ rfl hsome

/-! ### One subscriber -/

/-- The subscriber `id`, who came after the values `earlier`, stands where the reader `s` stands. -/
structure Follows (B : Nat) (earlier : List α) (id : SubscriberId) (h : Handoff α) (s : Reader α) :
    Prop where
  keeps : h.Keeps B (earlier ++ s.published)
  stands : h.positions.get? id = some (earlier.length + s.position)
  born : id < h.nextSubscriber

section Follows

variable {B : Nat} {earlier : List α} {id : SubscriberId} {h : Handoff α} {s : Reader α}

/-- The values kept from a subscriber on are those that its reader has before it. -/
theorem Follows.read (hf : Follows B earlier id h s) {i : Nat} (hi : s.oldest B ≤ i) :
    h.retained[earlier.length + i - h.forgotten]? = s.published[i]? := by
  rw [Reader.oldest] at hi
  rw [hf.keeps.read (by rw [List.length_append]; omega), List.getElem?_append_right (by omega)]
  congr 1
  omega

theorem Follows.forgotten (hf : Follows B earlier id h s) :
    h.forgotten = earlier.length + s.published.length - B := by
  rw [hf.keeps.forgotten, List.length_append]

/-- A subscriber lags where its reader does. -/
theorem Follows.lags_iff (hf : Follows B earlier id h s) :
    earlier.length + s.position < h.forgotten ↔ s.position < s.oldest B := by
  rw [hf.forgotten, Reader.oldest]
  omega

theorem Follows.moveTo (hf : Follows B earlier id h s) {t : Reader α} {position : Nat}
    (hpublished : t.published = s.published) (hposition : position = earlier.length + t.position) :
    Follows B earlier id (h.moveTo id position) t := by
  obtain ⟨⟨hcap, hpub, hret⟩, -, hborn⟩ := hf
  refine ⟨⟨hcap, ?_, ?_⟩, ?_, hborn⟩
  · rw [hpublished]
    exact hpub
  · rw [hpublished]
    exact hret
  · rw [Handoff.moveTo, SortedMap.get?_insert, if_pos rfl, hposition]

/-- Other subscribers can be moved, come and go. -/
theorem Follows.other (hf : Follows B earlier id h s) {h' : Handoff α}
    (hkeeps : h'.Keeps B (earlier ++ s.published)) (hborn : h.nextSubscriber ≤ h'.nextSubscriber)
    (hsame : h'.positions.get? id = h.positions.get? id) : Follows B earlier id h' s :=
  ⟨hkeeps, hsame.trans hf.stands, Nat.lt_of_lt_of_le hf.born hborn⟩

theorem Follows.publish (hf : Follows B earlier id h s) (a : α) :
    Follows B earlier id (h.publish a).2.1 (s.act B (.published a)) := by
  obtain ⟨hkeeps, hstands, hborn⟩ := hf
  have hsome : (h.positions.get? id).isSome := by rw [hstands]; rfl
  rw [Handoff.publish, isEmpty_positions h hsome]
  refine ⟨?_, hstands, hborn⟩
  rw [Reader.act, ← List.append_assoc]
  exact hkeeps.publish a

/-- One reception of the subscriber. -/
theorem Follows.attempt (hf : Follows B earlier id h s) :
    h.attempt id =
      if s.position < s.oldest B then
        some (.lagged (s.oldest B - s.position), h.moveTo id (earlier.length + s.oldest B))
      else match s.published[s.position]? with
        | some a => some (.received (.value a), h.moveTo id (earlier.length + s.position + 1))
        | none => some (.received (if h.senders = 0 then .closed else .pending), h) := by
  rw [Handoff.attempt, hf.stands, Option.map_some]
  simp only [hf.lags_iff]
  split
  · rename_i hlt
    have hforgotten : h.forgotten = earlier.length + s.oldest B := by
      rw [hf.forgotten]
      rw [Reader.oldest] at hlt ⊢
      omega
    rw [hforgotten, Nat.add_sub_add_left]
  · rename_i hge
    rw [hf.read (Nat.le_of_not_lt hge)]
    cases s.published[s.position]? <;> rfl

/-- All receptions of the subscriber until one does not lag. -/
theorem Follows.receive (hf : Follows B earlier id h s) :
    ∃ notices, h.receive id = match s.published[(s.skip B).position]? with
      | some a => some (.value a, h.moveTo id (earlier.length + (s.skip B).position + 1), notices)
      | none => some (if h.senders = 0 then .closed else .pending, h, notices) := by
  have hstart : max (earlier.length + s.position) h.forgotten
      = earlier.length + (s.skip B).position := by
    rw [hf.forgotten, Reader.skip, Reader.oldest]
    dsimp only
    omega
  have hread := hf.read (i := (s.skip B).position) (Nat.le_max_right ..)
  rw [Handoff.receive, hf.stands, Option.map_some]
  simp only [hstart, hread]
  rcases s.published[(s.skip B).position]? with _ | a <;> exact ⟨_, rfl⟩

/-- Where a reader takes a value, its subscriber is moved past it. -/
theorem Follows.taken (hf : Follows B earlier id h s) {t : Reader α} (hsame : t.published = s.published)
    {a : α} (ha : s.published[t.position]? = some a) :
    Follows B earlier id (h.moveTo id (earlier.length + t.position + 1)) t.take ∧
      t.take.values = t.values ++ [some a] := by
  rw [← hsame] at ha
  have hlt := (List.getElem?_eq_some_iff.1 ha).1
  refine ⟨hf.moveTo ?_ ?_, ?_⟩
  · rw [Reader.published_take, hsame]
  · rw [Reader.take_of_lt hlt, Nat.add_assoc]
  · rw [Reader.values_take hlt, ha]

/-- One reception moves a subscriber as it moves its reader, and hands over what this takes. -/
theorem Follows.attempting (hf : Follows B earlier id h s) (w : Unit) :
    let left := h.perform w (.attempt id : Call ε α)
    Follows B earlier id left.manager (s.act B .attempting) ∧
      (s.act B .attempting).values = s.values ++ (left.answer.value?.map some).toList := by
  dsimp only
  rw [perform, hf.attempt, Reader.act]
  by_cases hlt : s.position < s.oldest B
  · rw [if_pos hlt, if_pos hlt]
    have hskip : (s.skip B).position = s.oldest B := Nat.max_eq_right (Nat.le_of_lt hlt)
    exact ⟨hf.moveTo rfl (by rw [hskip]), (List.append_nil _).symm⟩
  · rw [if_neg hlt, if_neg hlt]
    cases hread : s.published[s.position]? with
    | some a => exact hf.taken rfl hread
    | none =>
      rw [Reader.take_of_le (List.getElem?_eq_none_iff.1 hread)]
      refine ⟨hf, ?_⟩
      by_cases hsenders : h.senders = 0 <;> simp [hsenders, Reply.value?]

/-- So does a reception with those that it is retried for. -/
theorem Follows.receiving (hf : Follows B earlier id h s) (hB : 0 < B) (w : Unit) :
    let left := h.perform w (.receive id : Call ε α)
    Follows B earlier id left.manager (s.act B .receiving) ∧
      (s.act B .receiving).values = s.values ++ (left.answer.value?.map some).toList := by
  dsimp only
  obtain ⟨notices, hreceive⟩ := hf.receive
  rw [perform, hreceive, Reader.act]
  cases hread : s.published[(s.skip B).position]? with
  | some a => exact hf.taken (t := s.skip B) rfl hread
  | none =>
    -- nothing is left to take, so there was nothing to skip either
    have hend := List.getElem?_eq_none_iff.1 hread
    have hskip : s.skip B = s := by
      refine Reader.skip_of_le (Nat.le_of_not_lt fun hlt => ?_)
      rw [Reader.skip] at hend
      rw [Reader.oldest] at hlt hend
      dsimp only at hend
      omega
    rw [hskip] at hend ⊢
    rw [Reader.take_of_le hend]
    refine ⟨hf, ?_⟩
    by_cases hsenders : h.senders = 0 <;> simp [hsenders, Reply.value?]

/-- Whatever call comes but the one by which it leaves, a subscriber goes where its reader goes, and gets
    what its reader takes. -/
theorem Follows.perform (hf : Follows B earlier id h s) (hs : s.Sound B) (hB : 0 < B) (w : Unit)
    {c : Call ε α} (hc : c.ends id = false) :
    let after := ((c.act? id).map (s.act B)).getD s
    Follows B earlier id (h.perform w c).manager after ∧
      after.values = s.values ++ ((gained id ⟨c, h, w, h.perform w c⟩).map some).toList := by
  by_cases hown : c.receiver? = some id
  · rw [gained, if_pos hown]
    cases c with
    | attempt id' =>
      obtain rfl : id' = id := Option.some.inj hown
      simpa [Call.act?] using hf.attempting w
    | receive id' =>
      obtain rfl : id' = id := Option.some.inj hown
      simpa [Call.act?] using hf.receiving hB w
    | _ => cases hown
  · rw [gained, if_neg hown, Option.map_none, Option.toList_none, List.append_nil]
    have hact : c.act? id = c.value?.map .published := by
      cases c with
      | attempt id' | receive id' =>
        have hne : id' ≠ id := fun heq => hown (congrArg some heq)
        simp [Call.act?, Call.value?, hne]
      | _ => rfl
    rw [hact]
    -- the others may come, go and be moved
    have silent {h' : Handoff α} (hvalue : c.value? = none) (hf' : Follows B earlier id h' s) :
        let after := ((c.value?.map Act.published).map (s.act B)).getD s
        Follows B earlier id h' after ∧ after.values = s.values := by
      rw [hvalue]
      exact ⟨hf', rfl⟩
    generalize (h.perform w c).manager = h', change_perform h w c = hchange
    cases hchange with
    | subscribed =>
      refine silent rfl (hf.other (hf.keeps.aside rfl rfl rfl) (Nat.le_succ _) ?_)
      exact (SortedMap.get?_insert ..).trans (if_neg (Nat.ne_of_lt hf.born))
    | unsubscribed id' =>
      have hne : id ≠ id' := fun heq => by simp [Call.ends, heq] at hc
      refine silent rfl (hf.other (hf.keeps.aside rfl rfl rfl) (Nat.le_refl _) ?_)
      exact (SortedMap.get?_erase ..).trans (if_neg hne)
    | published hvalue =>
      rw [hvalue]
      exact ⟨hf.publish _, Reader.values_act hs _⟩
    | moved position hreceiver hid =>
      have hne : id ≠ _ := fun heq => hown (heq ▸ hreceiver)
      refine silent ?_ (hf.other (hf.keeps.aside rfl rfl rfl) (Nat.le_refl _) ?_)
      · exact Call.value?_of_receiver? hreceiver
      · exact (SortedMap.get?_insert ..).trans (if_neg hne)
    | still senders hvalue hstay =>
      exact silent hvalue (hf.other (hf.keeps.aside rfl rfl rfl) (Nat.le_refl _) rfl)

end Follows

/-! ### Receptions that lag -/

@[simp] theorem moveTo_moveTo (h : Handoff α) (id : SubscriberId) (p q : Nat) :
    (h.moveTo id p).moveTo id q = h.moveTo id q := by
  rw [moveTo, moveTo, moveTo, Handoff.mk.injEq]
  refine ⟨rfl, rfl, rfl, rfl, SortedMap.ext_get? fun k => ?_, rfl⟩
  simp only [SortedMap.get?_insert]
  split <;> rfl

/-- A reception that skips is a reception that is retried if it lags, which happens at most once. -/
theorem receive_eq_retry {B : Nat} {all : List α} {h : Handoff α} (hk : h.Keeps B all) (hB : 0 < B)
    (id : SubscriberId) :
    (h.receive id).map (fun p => (Attempt.received p.1, p.2)) = h.retry id := by
  cases hid : h.positions.get? id with
  | none => simp [receive, retry, attempt, hid]
  | some position =>
    have hat : (h.moveTo id h.forgotten).positions.get? id = some h.forgotten :=
      (SortedMap.get?_insert ..).trans (if_pos rfl)
    have hsame : (h.moveTo id h.forgotten).forgotten = h.forgotten := rfl
    by_cases hlt : position < h.forgotten
    · -- more is published than kept, so something is kept
      obtain ⟨a, ha⟩ : ∃ a, h.retained[0]? = some a := by
        have hforgotten := hk.forgotten
        refine ⟨_, List.getElem?_eq_getElem (?_ : 0 < h.retained.length)⟩
        rw [hk.retained, lastOf, List.length_drop]
        omega
      have hmax : max position h.forgotten = h.forgotten := Nat.max_eq_right (Nat.le_of_lt hlt)
      have hret : (h.moveTo id h.forgotten).retained[0]? = some a := ha
      simp only [receive, retry, attempt, hid, hlt, hmax, ha, hat, hsame, hret, Option.map_some,
        Option.bind_some, if_true, Nat.sub_self, Nat.lt_irrefl, if_false, moveTo_moveTo]
      rfl
    · have hmax : max position h.forgotten = position := Nat.max_eq_left (Nat.le_of_not_lt hlt)
      simp only [receive, retry, attempt, hid, hlt, hmax, Option.map_some, if_false]
      rcases h.retained[position - h.forgotten]? with _ | a <;> rfl

end PluginFabric.Handoff
