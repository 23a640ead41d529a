import Mathlib.Logic.Function.Basic

/-!
Event delivery (`engine/bus.rs`): every subscription has one bounded buffer
per kind. A full buffer drops its oldest event and counts it, and the receiver
then reads a `lagged` item where the dropped events were.

The bus reads nothing of an event but its kind, so the events are any type
with a `kind`. `Mutex`es make each of `publish`, `next`, `subscribe` and
`close` one step; the wake-up of a waiting receiver is left out.
-/

namespace PpvpnCore

/-- The kinds to subscribe to; one bounded buffer each. -/
inductive EventKind where
  | stateChanged
  | profileApplied
  | reloadFailed
  | coreStarted
  | coreStopped
  | nodeSelected
  | nodeEndpointChanged
  | nodeIngressSwitched
  | nodeIngressPinned
  | nodeIngressPinCleared
  | entranceProbed
  | availabilityProbed
  | ruleSetChanged
  | systemProxyChanged
  | localProxyEndpointChanged
  | kernelSwitched
  | kernelDrained
  | networkChanged
  | tunRoutingBroken
  | tunRoutingRestored
  deriving DecidableEq, Repr

/-- What a receiver yields: an event, or how many of a kind were dropped
because this receiver fell behind. -/
inductive EventItem (ε : Type) where
  | event (event : ε)
  | lagged (kind : EventKind) (dropped : Nat)
  deriving DecidableEq, Repr

/-- Events of one kind a subscription holds before it drops the oldest. -/
def kindCapacity : Nat := 64

structure KindQueue (ε : Type) where
  events : List (Nat × ε) := []
  /-- Dropped since the receiver last read this kind. -/
  dropped : Nat := 0
  /-- Where the first of them was. -/
  laggedAt : Nat := 0

/-- The position of what the receiver reads next of this kind. -/
def KindQueue.head {ε : Type} (queue : KindQueue ε) : Option Nat :=
  if 0 < queue.dropped then some queue.laggedAt
  else queue.events.head?.map (·.1)

/-- The part of `Shared::push` under the kind's entry: a full buffer loses its
oldest event first. -/
def KindQueue.push {ε : Type} (queue : KindQueue ε) (seq : Nat) (event : ε) : KindQueue ε :=
  let kept : KindQueue ε :=
    if kindCapacity ≤ queue.events.length then
      match queue.events with
      | [] => queue
      | (oldest, _) :: rest =>
        { events := rest
          dropped := queue.dropped + 1
          laggedAt := if queue.dropped = 0 then oldest else queue.laggedAt }
    else queue
  { kept with events := kept.events ++ [(seq, event)] }

structure Queues (ε : Type) where
  seq : Nat := 0
  kinds : EventKind → Option (KindQueue ε) := fun _ => none
  closed : Bool := false

/-- The queue of a kind; a kind never pushed has an empty one
(`entry(kind).or_default()`). -/
def Queues.queue {ε : Type} (queues : Queues ε) (kind : EventKind) : KindQueue ε :=
  (queues.kinds kind).getD {}

structure Shared (ε : Type) where
  kinds : List EventKind
  queues : Queues ε := {}

namespace Shared

variable {ε : Type}

def push (shared : Shared ε) (kind : EventKind) (event : ε) : Shared ε :=
  if shared.queues.closed then shared
  else
    let seq := shared.queues.seq + 1
    let queue := (shared.queues.queue kind).push seq event
    { shared with
      queues := { shared.queues with
        seq := seq
        kinds := Function.update shared.queues.kinds kind (some queue) } }

/-- `Iterator::min_by_key` by the position: the first of the least. -/
def minByPosition : List (Nat × EventKind) → Option (Nat × EventKind)
  | [] => none
  | entry :: rest =>
    match minByPosition rest with
    | none => some entry
    | some least => if entry.1 ≤ least.1 then some entry else some least

/-- An order a hash map may be iterated in: each of its keys once. -/
def Iterates (shared : Shared ε) (order : List EventKind) : Prop :=
  order.Nodup ∧ ∀ kind, kind ∈ order ↔ (shared.queues.kinds kind).isSome

/-- What the receiver reads next, and where it stands among the publications. -/
def upcoming (shared : Shared ε) (order : List EventKind) : Option (Nat × EventKind) :=
  minByPosition (order.filterMap fun kind =>
    (shared.queues.queue kind).head.map fun seq => (seq, kind))

def setQueue (shared : Shared ε) (kind : EventKind) (queue : KindQueue ε) : Shared ε :=
  { shared with
    queues := { shared.queues with kinds := Function.update shared.queues.kinds kind (some queue) } }

/-- The next item in publication order; `error` when closed and empty. -/
def next (shared : Shared ε) (order : List EventKind) :
    Except Unit (Option (EventItem ε)) × Shared ε :=
  match shared.upcoming order with
  | none => (if shared.queues.closed then .error () else .ok none, shared)
  | some (_, kind) =>
    let queue := shared.queues.queue kind
    if 0 < queue.dropped then
      (.ok (some (.lagged kind queue.dropped)), shared.setQueue kind { queue with dropped := 0 })
    else
      match queue.events with
      | [] => (.ok none, shared)
      | (_, event) :: rest =>
        (.ok (some (.event event)), shared.setQueue kind { queue with events := rest })

end Shared

/-- The bus and the subscriptions still held. `Bus.subscribers` holds weak
handles: a subscription that was dropped is not `held` any more, and the next
`publish` or `subscribe` forgets its handle. -/
structure Bus (ε : Type) where
  subscribers : List Nat := []
  closed : Bool := false
  held : Nat → Option (Shared ε) := fun _ => none
  /-- Subscriptions made so far; the next one's handle. -/
  made : Nat := 0

namespace Bus

variable {ε : Type}

/-- The handles whose subscription is still held (`strong_count() > 0`). -/
def retained (bus : Bus ε) : List Nat :=
  bus.subscribers.filter fun id => (bus.held id).isSome

def subscribe (bus : Bus ε) (kinds : List EventKind) : Bus ε :=
  let shared : Shared ε := { kinds }
  if bus.closed then
    { bus with
      held := Function.update bus.held bus.made
        (some { shared with queues := { shared.queues with closed := true } })
      made := bus.made + 1 }
  else
    { bus with
      subscribers := bus.retained ++ [bus.made]
      held := Function.update bus.held bus.made (some shared)
      made := bus.made + 1 }

def publish (kind : ε → EventKind) (bus : Bus ε) (event : ε) : Bus ε :=
  { bus with
    subscribers := bus.retained
    held := fun id => (bus.held id).map fun shared =>
      if id ∈ bus.retained ∧ kind event ∈ shared.kinds then shared.push (kind event) event
      else shared }

/-- Ends every subscription: receivers read what is buffered, then nothing. -/
def close (bus : Bus ε) : Bus ε :=
  { bus with
    closed := true
    subscribers := []
    held := fun id => (bus.held id).map fun shared =>
      if id ∈ bus.retained then { shared with queues := { shared.queues with closed := true } }
      else shared }

/-- Dropping a subscription unsubscribes. -/
def drop (bus : Bus ε) (id : Nat) : Bus ε :=
  { bus with held := Function.update bus.held id none }

def next (bus : Bus ε) (id : Nat) (order : List EventKind) : Bus ε :=
  match bus.held id with
  | none => bus
  | some shared => { bus with held := Function.update bus.held id (some (shared.next order).2) }

end Bus

end PpvpnCore
