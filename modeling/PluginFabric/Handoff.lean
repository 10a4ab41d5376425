import PluginFabric.Plugin.Contract

/-! Hand-off of values from handlers to work in the background.

    A hand-off keeps the last values that were published while somebody was subscribed; how many it
    keeps is its capacity, which is a power of two. Each subscriber reads at its own pace, from the
    value after its subscription on; one that falls behind the oldest value kept goes on from there.
    A hand-off is closed for a subscriber when no sender is left and all values are read. -/

namespace PluginFabric

/-- A subscriber's identity within its hand-off. -/
abbrev SubscriberId := Nat

/-- A channel from any number of senders to any number of subscribers. -/
structure Handoff (α : Type) where
  capacity : Nat
  /-- How many values were accepted so far. -/
  published : Nat := 0
  /-- The last of them, as many as the capacity allows. -/
  retained : List α := []
  senders : Nat := 1
  /-- How many values each subscriber has behind it. -/
  positions : SortedMap SubscriberId Nat := ∅
  nextSubscriber : SubscriberId := 0

/-- What a subscriber gets. -/
inductive Received (α : Type) where
  | value (a : α)
  | closed
  | pending
  deriving DecidableEq

namespace Handoff

variable {α : Type}

/-- The number of values that a hand-off of the wanted capacity keeps: at least one, and rounded up to
    a power of two. -/
def bound (wanted : Nat) : Nat := (max wanted 1).nextPowerOfTwo

/-- A hand-off with one sender and no subscriber. -/
def ofCapacity (wanted : Nat) : Handoff α := { capacity := bound wanted }

/-- Why there is no hand-off of some capacity. -/
inductive CapacityError where
  /-- More is wanted than half of what can be counted in a word. -/
  | uncountable
  /-- There are no addresses for so many values. -/
  | unaddressable
  deriving DecidableEq, Inhabited

def CapacityError.message : CapacityError → String
  | uncountable => "broadcast channel capacity exceeded \x60usize::MAX / 2\x60"
  | unaddressable => "capacity overflow"

/-- The largest capacity that can be asked for. -/
def largestWanted : Nat := Int64.maxValue.toInt.toNat

/-- A hand-off of a capacity, if there can be one: its values may take up half of all addresses, where
    each takes up `slotSize` bytes with what is noted beside it. -/
def ofCapacity? (slotSize wanted : Nat) : Except CapacityError (Handoff α) :=
  if largestWanted < wanted then .error .uncountable
  else if Int64.maxValue.toInt < bound wanted * slotSize then .error .unaddressable
  else .ok (ofCapacity wanted)

/-- One more sender: another hold on the hand-off, or a handler that forwards to it. -/
def addSender (h : Handoff α) : Handoff α := { h with senders := h.senders + 1 }

/-- One sender less. -/
def dropSender (h : Handoff α) : Handoff α := { h with senders := h.senders - 1 }

def subscriberCount (h : Handoff α) : Nat := h.positions.size

/-- A new subscriber, which gets the values published from now on. -/
def subscribe (h : Handoff α) : SubscriberId × Handoff α :=
  (h.nextSubscriber, { h with
    positions := h.positions.insert h.nextSubscriber h.published
    nextSubscriber := h.nextSubscriber + 1 })

def unsubscribe (h : Handoff α) (id : SubscriberId) : Handoff α :=
  { h with positions := h.positions.erase id }

/-- The last `n` elements of a list. -/
def lastOf (n : Nat) (l : List α) : List α := l.drop (l.length - n)

/-- Publishes a value to all subscribers and tells how many they are; without any the value is
    dropped. -/
def publish (h : Handoff α) (a : α) : Nat × Handoff α × List Notice :=
  if h.positions.isEmpty then (0, h, [.valueDropped])
  else (h.subscriberCount,
    { h with published := h.published + 1, retained := lastOf h.capacity (h.retained ++ [a]) }, [])

/-- The number of values that are no longer kept. -/
def forgotten (h : Handoff α) : Nat := h.published - h.retained.length

/-- The next value for a subscriber, and what is said if it had to skip some; nothing for a subscriber
    that does not exist. -/
def receive (h : Handoff α) (id : SubscriberId) : Option (Received α × Handoff α × List Notice) :=
  (h.positions.get? id).map fun position =>
    let start := max position h.forgotten
    let notices := if position < h.forgotten then [.subscriberLagged (h.forgotten - position)] else []
    match h.retained[start - h.forgotten]? with
    | some a => (.value a, { h with positions := h.positions.insert id (start + 1) }, notices)
    | none => (if h.senders = 0 then .closed else .pending, h, notices)

/-- The handling of one event by a forwarder: the value it is mapped to, if any, is published. -/
def forward {ε : Type} (map : ε → Option α) (event : ε) (h : Handoff α) : Completion (Handoff α) Unit :=
  match map event with
  | none => ⟨.ok (), h, []⟩
  | some a =>
    let (_, after, notices) := h.publish a
    ⟨.ok (), after, notices⟩

end Handoff

end PluginFabric
