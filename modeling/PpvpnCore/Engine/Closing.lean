import Mathlib.Algebra.BigOperators.Group.List.Basic
import Mathlib.Algebra.Ring.Nat
import PpvpnCore.Engine.Delivery

/-!
A subscription ends once the bus is closed (`Bus::subscribe`, `Bus::close` and
`Subscription::recv` in `engine/bus.rs`).

Here each lock section is a step of its own: `subscribe` reads the closed flag
and registers under two locks, `close` sets the flag and then goes through the
subscribers, each of which is marked and notified. A notification is a permit
that the waiting receiver takes (`Notify::notify_one`).

* `Shared.ReadsOut`: however its buffers are iterated, the receiver reads on to
  the end and never waits.
* `ends_once_closed`: what holds of a subscription once the close has returned.
-/

namespace PpvpnCore

variable {ε : Type}

/-! ## Reading a closed subscription -/

def EventKind.all : List EventKind :=
  [.stateChanged, .profileApplied, .reloadFailed, .coreStarted, .coreStopped, .nodeSelected,
   .nodeEndpointChanged, .nodeIngressSwitched, .nodeIngressPinned, .nodeIngressPinCleared,
   .entranceProbed, .availabilityProbed, .ruleSetChanged, .systemProxyChanged,
   .localProxyEndpointChanged, .kernelSwitched, .kernelDrained, .networkChanged, .tunRoutingBroken,
   .tunRoutingRestored]

def Shared.close (shared : Shared ε) : Shared ε :=
  { shared with queues := { shared.queues with closed := true } }

/-- Whether an event of the kind is buffered, or a lagged item. -/
def Shared.Unread (shared : Shared ε) (k : EventKind) : Prop :=
  0 < (shared.queues.queue k).dropped ∨ (shared.queues.queue k).events ≠ []

/-- Every call of `recv` from here on returns at once: an item that was
buffered, or nothing once all were read. -/
inductive Shared.ReadsOut : Shared ε → Prop
  | intro {shared : Shared ε}
      (returns : ∀ order, shared.Iterates order → (shared.next order).1 ≠ .ok none)
      (ended : ∀ order, shared.Iterates order → (shared.next order).1 = .error () →
        ∀ k, ¬ shared.Unread k)
      (later : ∀ order, shared.Iterates order → ∀ item, (shared.next order).1 = .ok (some item) →
        ReadsOut (shared.next order).2) :
      Shared.ReadsOut shared

/-- The items a receiver can still read of a kind. -/
def KindQueue.size (queue : KindQueue ε) : Nat :=
  queue.events.length + if 0 < queue.dropped then 1 else 0

/-- The items it can still read of the kinds in `order`. -/
def Shared.size (shared : Shared ε) (order : List EventKind) : Nat :=
  (order.map fun k => (shared.queues.queue k).size).sum

namespace Shared

variable {shared : Shared ε} {order : List EventKind} {k : EventKind} {queue : KindQueue ε}

theorem setQueue_queue (k' : EventKind) : (shared.setQueue k queue).queues.queue k' =
    if k' = k then queue else shared.queues.queue k' := by
  unfold setQueue Queues.queue
  dsimp only
  by_cases same : k' = k
  · rw [same, Function.update_self, if_pos rfl]
    rfl
  · rw [Function.update_of_ne same, if_neg same]

/-- A kind that is known keeps the map's keys. -/
theorem setQueue_iterates (known : (shared.queues.kinds k).isSome = true) (order : List EventKind) :
    (shared.setQueue k queue).Iterates order ↔ shared.Iterates order := by
  have keys : ∀ k', ((shared.setQueue k queue).queues.kinds k').isSome =
      (shared.queues.kinds k').isSome := by
    intro k'
    unfold setQueue
    dsimp only
    by_cases same : k' = k
    · rw [same, Function.update_self, known]
      rfl
    · rw [Function.update_of_ne same]
  unfold Iterates
  simp only [keys]

theorem head_eq_none {queue : KindQueue ε} :
    queue.head = none ↔ ¬ (0 < queue.dropped ∨ queue.events ≠ []) := by
  unfold KindQueue.head
  by_cases lagged : 0 < queue.dropped
  · simp [lagged]
  · simp [lagged]

theorem minByPosition_eq_none {entries : List (Nat × EventKind)} :
    minByPosition entries = none ↔ entries = [] := by
  cases entries with
  | nil => simp [minByPosition]
  | cons entry rest =>
    simp only [minByPosition, reduceCtorEq, iff_false]
    split
    · simp
    · split <;> simp

/-- Nothing to read: no kind has any. -/
theorem upcoming_none (iterates : shared.Iterates order) (none : shared.upcoming order = none)
    (k : EventKind) : ¬ shared.Unread k := by
  have empty := minByPosition_eq_none.1 none
  rw [List.filterMap_eq_nil_iff] at empty
  cases there : shared.queues.kinds k with
  | none => simp [Unread, Queues.queue, there]
  | some q =>
    have mem : k ∈ order := (iterates.2 k).2 (by rw [there]; rfl)
    have last := empty k mem
    rw [Option.map_eq_none_iff] at last
    exact head_eq_none.1 last

theorem upcoming_some {at_ : Nat} (found : shared.upcoming order = some (at_, k)) :
    k ∈ order ∧ shared.Unread k := by
  obtain ⟨mem, -⟩ := minByPosition_spec found
  rw [List.mem_filterMap] at mem
  obtain ⟨k', inOrder, mapped⟩ := mem
  obtain ⟨seq, head, same⟩ := Option.map_eq_some_iff.1 mapped
  cases same
  refine ⟨inOrder, ?_⟩
  by_contra nothing
  rw [head_eq_none.2 nothing] at head
  cases head

/-- What a read of a subscription with something to read does: an item is taken
off the queue of its kind. -/
theorem next_taken {at_ : Nat} (found : shared.upcoming order = some (at_, k)) :
    ∃ item queue, shared.next order = (.ok (some item), shared.setQueue k queue) ∧
      queue.size + 1 = (shared.queues.queue k).size := by
  obtain ⟨-, unread⟩ := upcoming_some found
  unfold next
  rw [found]
  dsimp only
  by_cases lagged : 0 < (shared.queues.queue k).dropped
  · rw [if_pos lagged]
    refine ⟨_, _, rfl, ?_⟩
    unfold KindQueue.size
    rw [if_pos lagged]
    simp
  · rw [if_neg lagged]
    cases events : (shared.queues.queue k).events with
    | nil =>
      rcases unread with dropped | buffered
      · exact absurd dropped lagged
      · exact absurd events buffered
    | cons first rest =>
      refine ⟨_, _, rfl, ?_⟩
      unfold KindQueue.size
      rw [if_neg lagged, events]
      simp

theorem size_setQueue (nodup : order.Nodup) (mem : k ∈ order)
    (less : queue.size + 1 = (shared.queues.queue k).size) :
    (shared.setQueue k queue).size order + 1 = shared.size order := by
  induction order with
  | nil => cases mem
  | cons first rest ih =>
    obtain ⟨fresh, nodup⟩ := List.nodup_cons.1 nodup
    unfold size at ih ⊢
    simp only [List.map_cons, List.sum_cons, setQueue_queue] at ih ⊢
    by_cases here : first = k
    · -- the other kinds keep their queues
      have others : (rest.map fun k' => (if k' = k then queue else shared.queues.queue k').size) =
          rest.map fun k' => (shared.queues.queue k').size := by
        apply List.map_congr_left
        intro k' inRest
        have ne : k' ≠ k := by
          rintro rfl
          exact fresh (here ▸ inRest)
        rw [if_neg ne]
      rw [others, if_pos here, here]
      omega
    · have later : k ∈ rest := by
        rcases List.mem_cons.1 mem with same | later
        · exact absurd same.symm here
        · exact later
      have rest := ih nodup later
      rw [if_neg here]
      omega

theorem size_perm {order' : List EventKind} (iterates : shared.Iterates order)
    (iterates' : shared.Iterates order') : shared.size order = shared.size order' := by
  have perm : order.Perm order' := by
    rw [List.perm_ext_iff_of_nodup iterates.1 iterates'.1]
    intro k
    exact (iterates.2 k).trans (iterates'.2 k).symm
  exact (perm.map _).sum_eq

/-- What a read of a closed subscription returns. -/
theorem next_closed (closed : shared.queues.closed = true) (iterates : shared.Iterates order) :
    ((shared.next order).1 = .error () ∧ ∀ k, ¬ shared.Unread k) ∨
      ∃ item k queue, shared.next order = (.ok (some item), shared.setQueue k queue) ∧ k ∈ order ∧
        queue.size + 1 = (shared.queues.queue k).size := by
  cases found : shared.upcoming order with
  | none =>
    refine .inl ⟨?_, upcoming_none iterates found⟩
    unfold next
    rw [found]
    simp [closed]
  | some entry =>
    obtain ⟨item, queue, taken, less⟩ := next_taken found
    exact .inr ⟨item, entry.2, queue, taken, (upcoming_some found).1, less⟩

/-- The map can be iterated: there are only so many kinds. -/
theorem exists_iterates (shared : Shared ε) : ∃ order, shared.Iterates order := by
  refine ⟨EventKind.all.filter fun k => (shared.queues.kinds k).isSome, ?_, ?_⟩
  · exact List.Nodup.filter _ (by decide)
  · intro k
    have mem : k ∈ EventKind.all := by cases k <;> decide
    simp [List.mem_filter, mem]

/-- The receiver of a closed subscription reads what is buffered and then ends. -/
theorem readsOut (closed : shared.queues.closed = true) : shared.ReadsOut := by
  obtain ⟨order, iterates⟩ := shared.exists_iterates
  -- by the number of items left, which no order of the buffers changes
  induction size : shared.size order using Nat.strongRecOn generalizing shared with
  | ind n ih =>
    refine .intro ?_ ?_ ?_
    · intro order' iterates'
      rcases next_closed closed iterates' with ⟨ended, -⟩ | ⟨item, k, queue, taken, -⟩
      · rw [ended]
        exact fun h => by cases h
      · rw [taken]
        exact fun h => by cases h
    · intro order' iterates' last
      rcases next_closed closed iterates' with ⟨-, empty⟩ | ⟨item, k, queue, taken, -⟩
      · exact empty
      · rw [taken] at last
        cases last
    · intro order' iterates' item given
      rcases next_closed closed iterates' with ⟨ended, -⟩ | ⟨item, k, queue, taken, mem, less⟩
      · rw [ended] at given
        cases given
      · have known := (iterates'.2 k).1 mem
        have total := size_setQueue iterates.1 ((iterates.2 k).2 known) less
        rw [taken]
        refine ih ((shared.setQueue k queue).size order) ?_ ?_ ?_ rfl
        · omega
        · exact closed
        · exact (setQueue_iterates known order).2 iterates

end Shared

namespace Closing

/-! ## The calls, section by section -/

/-- How far `subscribe` has come. -/
inductive Stage where
  | called
  /-- It read that the bus is not closed, and is not registered yet. -/
  | registering
  | returned
  deriving DecidableEq

/-- Where the receiver is in `recv`. -/
inductive Reader where
  | idle
  | polling
  /-- It saw nothing, and waits for a permit. -/
  | waiting
  deriving DecidableEq

structure Subscriber (ε : Type) where
  shared : Shared ε
  stage : Stage := .called
  reader : Reader := .idle
  /-- A notification that was not taken yet. -/
  permit : Bool := false
  /-- The receiver was dropped (`strong_count() = 0`). -/
  gone : Bool := false

/-- One poll of `recv`. -/
def Subscriber.poll (sub : Subscriber ε) (order : List EventKind) : Subscriber ε :=
  match sub.shared.next order with
  | (.ok none, shared) => { sub with shared, reader := .waiting }
  | (.ok (some _), shared) | (.error (), shared) => { sub with shared, reader := .idle }

/-- Who has the lock of the subscribers, whom it has still to see, and who of
them is to be notified next. -/
inductive Holder (ε : Type) where
  | free
  | publishing (event : ε) (todo : List Nat) (told : Option Nat)
  | closing (todo : List Nat) (told : Option Nat)

inductive CloseStage where
  | before | flagged | draining | returned
  deriving DecidableEq

structure Sys (ε : Type) where
  closed : Bool := false
  subscribers : List Nat := []
  subs : List (Subscriber ε) := []
  holder : Holder ε := .free
  close : CloseStage := .before

inductive Action (ε : Type) where
  | subscribe (kinds : List EventKind)
  /-- `subscribe` reads the flag, and registers. -/
  | readFlag (i : Nat)
  | register (i : Nat)
  | publish (event : ε)
  /-- `close` sets the flag, and takes the subscribers. -/
  | flag
  | drain
  /-- What has the lock sees the next subscriber, notifies it, is done. -/
  | next
  | notify
  | release
  | recv (i : Nat)
  | poll (i : Nat) (order : List EventKind)
  | wake (i : Nat)
  | drop (i : Nat)

namespace Sys

variable (kind : ε → EventKind)

def update (s : Sys ε) (i : Nat) (f : Subscriber ε → Subscriber ε) : Sys ε :=
  { s with subs := s.subs.modify i f }

/-- The handles that can still be upgraded. -/
def retained (s : Sys ε) : List Nat :=
  s.subscribers.filter fun i => s.subs[i]?.any fun sub => !sub.gone

/-- Whether an event is for the subscriber. -/
def wants (s : Sys ε) (event : ε) (i : Nat) : Bool :=
  s.subs[i]?.any fun sub => !sub.gone && sub.shared.kinds.contains (kind event)

/-- One step; none where it cannot be taken. -/
def act (s : Sys ε) : Action ε → Option (Sys ε)
  | .subscribe kinds => some { s with subs := s.subs ++ [{ shared := { kinds } }] }
  | .readFlag i => do
    let sub ← s.subs[i]?
    if sub.stage = .called then
      if s.closed then
        some (s.update i fun sub => { sub with shared := sub.shared.close, stage := .returned })
      else some (s.update i fun sub => { sub with stage := .registering })
    else none
  | .register i => do
    let sub ← s.subs[i]?
    match sub.stage, s.holder with
    | .registering, .free =>
      some { s.update i (fun sub => { sub with stage := .returned }) with
        subscribers := s.retained ++ [i] }
    | _, _ => none
  | .publish event =>
    match s.holder with
    | .free =>
      some { s with
        subscribers := s.retained
        holder := .publishing event s.retained none }
    | _ => none
  | .flag =>
    if s.close = .before then some { s with closed := true, close := .flagged } else none
  | .drain =>
    match s.close, s.holder with
    | .flagged, .free =>
      some { s with
        subscribers := []
        holder := .closing s.subscribers none
        close := .draining }
    | _, _ => none
  | .next =>
    match s.holder with
    | .publishing event (i :: todo) none =>
      if s.wants kind event i then
        some { s.update i (fun sub => { sub with shared := sub.shared.push (kind event) event }) with
          holder := .publishing event todo (some i) }
      else some { s with holder := .publishing event todo none }
    | .closing (i :: todo) none =>
      if s.subs[i]?.any fun sub => !sub.gone then
        some { s.update i (fun sub => { sub with shared := sub.shared.close }) with
          holder := .closing todo (some i) }
      else some { s with holder := .closing todo none }
    | _ => none
  | .notify =>
    match s.holder with
    | .publishing event todo (some i) =>
      some { s.update i ({ · with permit := true }) with holder := .publishing event todo none }
    | .closing todo (some i) =>
      some { s.update i ({ · with permit := true }) with holder := .closing todo none }
    | _ => none
  | .release =>
    match s.holder with
    | .publishing _ [] none => some { s with holder := .free }
    | .closing [] none => some { s with holder := .free, close := .returned }
    | _ => none
  | .recv i => do
    let sub ← s.subs[i]?
    if sub.stage = .returned ∧ sub.gone = false ∧ sub.reader = .idle then
      some (s.update i ({ · with reader := .polling }))
    else none
  | .poll i order => do
    let sub ← s.subs[i]?
    if sub.reader = .polling then some (s.update i (Subscriber.poll · order)) else none
  | .wake i => do
    let sub ← s.subs[i]?
    if sub.reader = .waiting ∧ sub.permit = true then
      some (s.update i ({ · with reader := .polling, permit := false }))
    else none
  | .drop i => do
    let sub ← s.subs[i]?
    if sub.stage = .returned ∧ sub.reader = .idle then
      some (s.update i ({ · with gone := true }))
    else none

/-- A hash map is iterated in some order of its keys. -/
def Possible (s : Sys ε) : Action ε → Prop
  | .poll i order => ∀ sub, s.subs[i]? = some sub → sub.shared.Iterates order
  | _ => True

/-- A subscription registers before the close has taken the subscribers. -/
def InTime (s : Sys ε) : Action ε → Prop
  | .register _ => s.close ≠ .returned
  | _ => True

end Sys

/-- The states of a new bus, by steps that all meet a condition. -/
inductive Reaches (kind : ε → EventKind) (meets : Sys ε → Action ε → Prop) : Sys ε → Prop
  | start : Reaches kind meets {}
  | step {s s' : Sys ε} {a : Action ε} (before : Reaches kind meets s) (possible : s.Possible a)
      (met : meets s a) (taken : s.act kind a = some s') : Reaches kind meets s'

/-! ## What holds of each subscription -/

/-- Before it is closed the bus knows the subscription, and once it is closed it
is notified. -/
structure Fine (subscribers : List Nat) (holder : Holder ε) (i : Nat) (sub : Subscriber ε) :
    Prop where
  known : sub.stage = .returned → sub.gone = false → sub.shared.queues.closed = false →
    i ∈ subscribers ∨ ∃ todo told, holder = .closing todo told ∧ i ∈ todo
  woken : sub.shared.queues.closed = true → sub.reader = .waiting →
    sub.permit = true ∨ ∃ todo, holder = .closing todo (some i)
  unread : sub.stage ≠ .returned → sub.reader = .idle

structure Good (s : Sys ε) : Prop where
  each : ∀ i sub, s.subs[i]? = some sub → Fine s.subscribers s.holder i sub
  emptied : s.close = .draining ∨ s.close = .returned → s.subscribers = []
  holding : s.close = .draining ↔ ∃ todo told, s.holder = .closing todo told

variable {kind : ε → EventKind} {s s' : Sys ε} {i j : Nat} {sub sub' : Subscriber ε}

theorem Sys.update_some {f : Subscriber ε → Subscriber ε} {subs : List (Subscriber ε)}
    (here : (subs.modify i f)[j]? = some sub') :
    ∃ sub, subs[j]? = some sub ∧ sub' = if i = j then f sub else sub := by
  rw [List.getElem?_modify] at here
  obtain ⟨sub, there, same⟩ := Option.map_eq_some_iff.1 here
  exact ⟨sub, there, same.symm⟩

/-- While no close goes through the subscribers, one that stays known, or that a
close takes now, is fine. -/
theorem Fine.moved {subscribers subscribers' : List Nat} {holder holder' : Holder ε}
    (fine : Fine subscribers holder i sub) (resting : ∀ todo told, holder ≠ .closing todo told)
    (keeps : sub.gone = false → i ∈ subscribers →
      i ∈ subscribers' ∨ ∃ todo told, holder' = .closing todo told ∧ i ∈ todo) :
    Fine subscribers' holder' i sub := by
  refine ⟨fun returned held opened => ?_, fun closed waiting => ?_, fine.unread⟩
  · rcases fine.known returned held opened with mem | ⟨todo, told, closing, -⟩
    · exact keeps held mem
    · exact absurd closing (resting todo told)
  · rcases fine.woken closed waiting with permit | ⟨todo, closing⟩
    · exact .inl permit
    · exact absurd closing (resting todo (some i))

/-- No close goes through the subscribers of a free lock. -/
theorem resting_free (free : s.holder = .free) (todo : List Nat) (told : Option Nat) :
    s.holder ≠ .closing todo told := by
  rw [free]
  exact fun h => by cases h

theorem resting_publishing {event : ε} {todo : List Nat} {told : Option Nat}
    (holder : s.holder = .publishing event todo told) (todo' : List Nat) (told' : Option Nat) :
    s.holder ≠ .closing todo' told' := by
  rw [holder]
  exact fun h => by cases h

/-- Nor does the close run then. -/
theorem Good.notDraining (good : Good s) (resting : ∀ todo told, s.holder ≠ .closing todo told) :
    s.close ≠ .draining := by
  intro draining
  obtain ⟨todo, told, holder⟩ := good.holding.1 draining
  exact resting todo told holder

/-- One subscription moves; the bus stays. -/
theorem Good.update {f : Subscriber ε → Subscriber ε} (good : Good s) (here : s.subs[i]? = some sub)
    (fine : Fine s.subscribers s.holder i sub → Fine s.subscribers s.holder i (f sub)) :
    Good (s.update i f) := by
  refine ⟨fun j sub' there => ?_, good.emptied, good.holding⟩
  obtain ⟨sub₀, before, rfl⟩ := Sys.update_some there
  have known := good.each j sub₀ before
  by_cases same : i = j
  · cases same
    rw [if_pos rfl]
    rw [here] at before
    cases before
    exact fine known
  · rw [if_neg same]
    exact known

theorem push_closed (shared : Shared ε) (k : EventKind) (event : ε) :
    (shared.push k event).queues.closed = shared.queues.closed := by
  unfold Shared.push
  split <;> rfl

theorem next_queues_closed (shared : Shared ε) (order : List EventKind) :
    (shared.next order).2.queues.closed = shared.queues.closed := by
  unfold Shared.next
  split
  · rfl
  · dsimp only
    split
    · rfl
    · split <;> rfl

/-- A poll leaves a closed subscription's receiver with an answer. -/
theorem poll_fine {order : List EventKind} {subscribers : List Nat} {holder : Holder ε}
    (fine : Fine subscribers holder i sub) (returned : sub.stage = .returned)
    (iterates : sub.shared.Iterates order) : Fine subscribers holder i (sub.poll order) := by
  have keeps := next_queues_closed sub.shared order
  have stage : (sub.poll order).stage = sub.stage ∧ (sub.poll order).gone = sub.gone ∧
      (sub.poll order).shared = (sub.shared.next order).2 := by
    unfold Subscriber.poll
    split <;> next eq => exact ⟨rfl, rfl, by rw [eq]⟩
  obtain ⟨stage, gone, shared⟩ := stage
  refine ⟨fun returned' held opened => ?_, fun closed waiting => ?_, fun notReturned => ?_⟩
  · rw [shared, keeps] at opened
    exact fine.known returned (gone ▸ held) opened
  · -- it only waits when it saw nothing in an open subscription
    rw [shared, keeps] at closed
    unfold Subscriber.poll at waiting
    rcases Shared.next_closed closed iterates with ⟨ended, -⟩ | ⟨item, k, queue, taken, -⟩
    · split at waiting
      next eq => rw [eq] at ended; cases ended
      next => cases waiting
      next => cases waiting
    · rw [taken] at waiting
      cases waiting
  · exact absurd (stage.trans returned) notReturned

/-! ## Steps -/

theorem Good.subscribe (good : Good s) (kinds : List EventKind) :
    Good { s with subs := s.subs ++ [{ shared := { kinds } }] } := by
  refine ⟨fun j sub there => ?_, good.emptied, good.holding⟩
  rw [List.getElem?_append] at there
  split at there
  · exact good.each j sub there
  · have new : sub = { shared := { kinds } } := by
      have mem := List.mem_of_getElem? there
      exact List.mem_singleton.1 mem
    rw [new]
    exact ⟨(fun h => by cases h), (fun h => by cases h), fun _ => rfl⟩

theorem Good.readFlag (good : Good s) (here : s.subs[i]? = some sub) (called : sub.stage = .called)
    {f : Subscriber ε → Subscriber ε} (reader : (f sub).reader = sub.reader)
    (known : (f sub).stage = .returned → (f sub).shared.queues.closed = true) :
    Good (s.update i f) := by
  refine good.update here fun fine => ?_
  have idle : sub.reader = .idle := fine.unread (by rw [called]; exact fun h => by cases h)
  refine ⟨fun returned _ opened => ?_, fun _ waiting => ?_, fun _ => reader.trans idle⟩
  · rw [known returned] at opened
    cases opened
  · rw [reader, idle] at waiting
    cases waiting

/-- The subscribers that are still held are the retained ones. -/
theorem Sys.mem_retained (mem : i ∈ s.subscribers) (here : s.subs[i]? = some sub)
    (held : sub.gone = false) : i ∈ s.retained := by
  refine List.mem_filter.2 ⟨mem, ?_⟩
  rw [here]
  simp [held]

theorem Good.register (good : Good s) (free : s.holder = .free) (inTime : s.close ≠ .returned)
    (here : s.subs[i]? = some sub) (registering : sub.stage = .registering) :
    Good { s.update i (fun sub => { sub with stage := .returned }) with
      subscribers := s.retained ++ [i] } := by
  have idle := (good.each i sub here).unread (by rw [registering]; exact fun h => by cases h)
  refine ⟨fun j sub' there => ?_, ?_, good.holding⟩
  · obtain ⟨sub₀, before, rfl⟩ := Sys.update_some there
    have fine := good.each j sub₀ before
    by_cases same : i = j
    · cases same
      rw [here] at before
      cases before
      rw [if_pos rfl]
      refine ⟨fun _ _ _ => .inl (by simp), fun _ waiting => ?_, fun _ => idle⟩
      rw [show sub.reader = .waiting from waiting] at idle
      cases idle
    · rw [if_neg same]
      exact fine.moved (resting_free free) fun held mem =>
        .inl (List.mem_append_left _ (Sys.mem_retained mem before held))
  · -- the close is not under way, as the lock is free
    intro drained
    rcases drained with draining | returned
    · exact absurd draining (good.notDraining (resting_free free))
    · exact absurd returned inTime

theorem Good.publish (good : Good s) (free : s.holder = .free) (event : ε) :
    Good { s with
      subscribers := s.retained
      holder := .publishing event s.retained none } := by
  have resting := good.notDraining (resting_free free)
  refine ⟨fun j sub there => ?_, fun drained => ?_, ?_⟩
  · exact (good.each j sub there).moved (resting_free free) fun held mem =>
      .inl (Sys.mem_retained mem there held)
  · have empty := good.emptied drained
    show s.retained = []
    unfold Sys.retained
    rw [empty]
    rfl
  · constructor
    · intro draining
      exact absurd draining resting
    · rintro ⟨todo, told, holder⟩
      cases holder

theorem Good.drain (good : Good s) (free : s.holder = .free) :
    Good { s with
      subscribers := []
      holder := .closing s.subscribers none
      close := .draining } := by
  refine ⟨fun j sub there => ?_, fun _ => rfl, ?_⟩
  · exact (good.each j sub there).moved (resting_free free) fun _ mem =>
      .inr ⟨s.subscribers, none, rfl, mem⟩
  · exact ⟨fun _ => ⟨_, _, rfl⟩, fun _ => rfl⟩

/-- A publisher's steps: what it pushes and notifies closes no subscription. -/
theorem Good.publishing (good : Good s) {event : ε} {todo todo' : List Nat} {told told' : Option Nat}
    (holder : s.holder = .publishing event todo told) {f : Subscriber ε → Subscriber ε}
    (same : ∀ sub, (f sub).stage = sub.stage ∧ (f sub).gone = sub.gone ∧
      (f sub).reader = sub.reader ∧ (f sub).shared.queues.closed = sub.shared.queues.closed ∧
      (sub.permit = true → (f sub).permit = true)) (i : Nat) :
    Good { s.update i f with holder := .publishing event todo' told' } := by
  refine ⟨fun j sub' there => ?_, good.emptied, ?_⟩
  · obtain ⟨sub, before, rfl⟩ := Sys.update_some there
    have still : Fine s.subscribers (.publishing event todo' told') j sub :=
      (good.each j sub before).moved (resting_publishing holder) fun _ => .inl
    split
    · obtain ⟨stage, gone, reader, closed, permit⟩ := same sub
      refine ⟨?_, ?_, ?_⟩
      · rw [stage, gone, closed]
        exact still.known
      · rw [reader, closed]
        intro shut waiting
        exact (still.woken shut waiting).imp_left permit
      · rw [stage, reader]
        exact still.unread
    · exact still
  · refine iff_of_false (good.notDraining (resting_publishing holder)) ?_
    rintro ⟨todo, told, closing⟩
    cases closing

/-- The close marks the next subscriber, or skips one that is gone. -/
theorem Good.mark (good : Good s) {todo : List Nat} (holder : s.holder = .closing (i :: todo) none) :
    Good { s.update i (fun sub => { sub with shared := sub.shared.close }) with
      holder := .closing todo (some i) } := by
  refine ⟨fun j sub' there => ?_, good.emptied, ?_⟩
  · obtain ⟨sub, before, rfl⟩ := Sys.update_some there
    have fine := good.each j sub before
    rw [holder] at fine
    by_cases same : i = j
    · cases same
      rw [if_pos rfl]
      refine ⟨fun _ _ opened => ?_, fun _ _ => .inr ⟨todo, rfl⟩, fine.unread⟩
      cases opened
    · rw [if_neg same]
      refine ⟨fun returned held opened => ?_, fun closed waiting => ?_, fine.unread⟩
      · rcases fine.known returned held opened with mem | ⟨todo', told, closing, mem⟩
        · exact .inl mem
        · cases closing
          rcases List.mem_cons.1 mem with first | later
          · exact absurd first.symm same
          · exact .inr ⟨todo, some i, rfl, later⟩
      · rcases fine.woken closed waiting with permit | ⟨todo', closing⟩
        · exact .inl permit
        · cases closing
  · show s.close = .draining ↔ _
    rw [good.holding, holder]
    exact ⟨fun _ => ⟨_, _, rfl⟩, fun _ => ⟨_, _, rfl⟩⟩

theorem Good.skip (good : Good s) {todo : List Nat} (holder : s.holder = .closing (i :: todo) none)
    (lost : (s.subs[i]?.any fun sub => !sub.gone) = false) :
    Good { s with holder := .closing todo none } := by
  refine ⟨fun j sub there => ?_, good.emptied, ?_⟩
  · have fine := good.each j sub there
    rw [holder] at fine
    refine ⟨fun returned held opened => ?_, fun closed waiting => ?_, fine.unread⟩
    · rcases fine.known returned held opened with mem | ⟨todo', told, closing, mem⟩
      · exact .inl mem
      · cases closing
        rcases List.mem_cons.1 mem with first | later
        · rw [← first, there] at lost
          simp [held] at lost
        · exact .inr ⟨todo, none, rfl, later⟩
    · rcases fine.woken closed waiting with permit | ⟨todo', closing⟩
      · exact .inl permit
      · cases closing
  · show s.close = .draining ↔ _
    rw [good.holding, holder]
    exact ⟨fun _ => ⟨_, _, rfl⟩, fun _ => ⟨_, _, rfl⟩⟩

theorem Good.ring (good : Good s) {todo : List Nat} (holder : s.holder = .closing todo (some i)) :
    Good { s.update i ({ · with permit := true }) with holder := .closing todo none } := by
  refine ⟨fun j sub' there => ?_, good.emptied, ?_⟩
  · obtain ⟨sub, before, rfl⟩ := Sys.update_some there
    have fine := good.each j sub before
    rw [holder] at fine
    have known : sub.stage = .returned → sub.gone = false → sub.shared.queues.closed = false →
        j ∈ s.subscribers ∨ ∃ todo' told, Holder.closing (ε := ε) todo none = .closing todo' told ∧
          j ∈ todo' := by
      intro returned held opened
      rcases fine.known returned held opened with mem | ⟨todo', told, closing, mem⟩
      · exact .inl mem
      · cases closing
        exact .inr ⟨todo, none, rfl, mem⟩
    by_cases same : i = j
    · rw [if_pos same]
      exact ⟨known, fun _ _ => .inl rfl, fine.unread⟩
    · rw [if_neg same]
      refine ⟨known, fun closed waiting => ?_, fine.unread⟩
      rcases fine.woken closed waiting with permit | ⟨todo', closing⟩
      · exact .inl permit
      · cases closing
        exact absurd rfl same
  · show s.close = .draining ↔ _
    rw [good.holding, holder]
    exact ⟨fun _ => ⟨_, _, rfl⟩, fun _ => ⟨_, _, rfl⟩⟩

theorem Good.released (good : Good s) (holder : s.holder = .closing [] none) :
    Good { s with holder := .free, close := .returned } := by
  have draining : s.close = .draining := good.holding.2 ⟨[], none, holder⟩
  refine ⟨fun j sub there => ?_, fun _ => good.emptied (.inl draining), ?_⟩
  · have fine := good.each j sub there
    rw [holder] at fine
    refine ⟨fun returned held opened => ?_, fun closed waiting => ?_, fine.unread⟩
    · rcases fine.known returned held opened with mem | ⟨todo, told, closing, mem⟩
      · exact .inl mem
      · cases closing
        cases mem
    · rcases fine.woken closed waiting with permit | ⟨todo, closing⟩
      · exact .inl permit
      · cases closing
  · constructor
    · intro h
      cases h
    · rintro ⟨todo, told, closing⟩
      cases closing

theorem Good.publishReleased (good : Good s) {event : ε}
    (holder : s.holder = .publishing event [] none) : Good { s with holder := .free } := by
  refine ⟨fun j sub there => ?_, good.emptied, ?_⟩
  · exact (good.each j sub there).moved (resting_publishing holder) fun _ => .inl
  · refine iff_of_false (good.notDraining (resting_publishing holder)) ?_
    rintro ⟨todo, told, closing⟩
    cases closing

/-- One step of anything. -/
theorem Good.act (good : Good s) {a : Action ε} (possible : s.Possible a) (inTime : s.InTime a)
    (taken : s.act kind a = some s') : Good s' := by
  cases a with
  | subscribe kinds =>
    cases taken
    exact good.subscribe kinds
  | readFlag i =>
    obtain ⟨sub, here, taken⟩ := Option.bind_eq_some_iff.1 taken
    split at taken
    next called =>
      split at taken
      · cases taken
        exact good.readFlag here called rfl fun _ => rfl
      · cases taken
        exact good.readFlag here called rfl fun h => by cases h
    next => cases taken
  | register i =>
    obtain ⟨sub, here, taken⟩ := Option.bind_eq_some_iff.1 taken
    split at taken
    next registering free =>
      cases taken
      exact good.register free inTime here registering
    next => cases taken
  | publish event =>
    rw [Sys.act] at taken
    split at taken
    next free =>
      cases taken
      exact good.publish free event
    next => cases taken
  | flag =>
    rw [Sys.act] at taken
    split at taken
    next before =>
      cases taken
      refine ⟨good.each, fun drained => ?_, ?_⟩
      · rcases drained with h | h <;> cases h
      · show CloseStage.flagged = .draining ↔ _
        rw [← good.holding, before]
        simp
    next => cases taken
  | drain =>
    rw [Sys.act] at taken
    split at taken
    next free =>
      cases taken
      exact good.drain free
    next => cases taken
  | next =>
    rw [Sys.act] at taken
    split at taken
    next event i todo holder =>
      split at taken
      · cases taken
        exact good.publishing holder
          (f := fun sub => { sub with shared := sub.shared.push (kind event) event })
          (fun sub => ⟨rfl, rfl, rfl, push_closed _ _ _, id⟩) i
      · cases taken
        have still : Good { s.update i id with holder := .publishing event todo none } :=
          good.publishing holder (fun sub => ⟨rfl, rfl, rfl, rfl, id⟩) i
        rwa [Sys.update, List.modify_id] at still
    next i todo holder =>
      split at taken
      · cases taken
        exact good.mark holder
      next lost =>
        cases taken
        exact good.skip holder (by simpa using lost)
    next => cases taken
  | notify =>
    rw [Sys.act] at taken
    split at taken
    next event todo i holder =>
      cases taken
      exact good.publishing holder (f := fun sub => { sub with permit := true })
        (fun sub => ⟨rfl, rfl, rfl, rfl, fun _ => rfl⟩) i
    next todo i holder =>
      cases taken
      exact good.ring holder
    next => cases taken
  | release =>
    rw [Sys.act] at taken
    split at taken
    next event holder =>
      cases taken
      exact good.publishReleased holder
    next holder =>
      cases taken
      exact good.released holder
    next => cases taken
  | recv i =>
    obtain ⟨sub, here, taken⟩ := Option.bind_eq_some_iff.1 taken
    split at taken
    next ready =>
      cases taken
      refine good.update here fun fine => ⟨fine.known, fun _ h => (by cases h), ?_⟩
      exact fun notReturned => absurd ready.1 notReturned
    next => cases taken
  | poll i order =>
    obtain ⟨sub, here, taken⟩ := Option.bind_eq_some_iff.1 taken
    split at taken
    next polling =>
      cases taken
      refine good.update here fun fine => poll_fine fine ?_ (possible sub here)
      by_contra notReturned
      rw [fine.unread notReturned] at polling
      cases polling
    next => cases taken
  | wake i =>
    obtain ⟨sub, here, taken⟩ := Option.bind_eq_some_iff.1 taken
    split at taken
    next ready =>
      cases taken
      refine good.update here fun fine => ⟨fine.known, fun _ h => (by cases h), ?_⟩
      intro notReturned
      have idle := fine.unread notReturned
      rw [ready.1] at idle
      cases idle
    next => cases taken
  | drop i =>
    obtain ⟨sub, here, taken⟩ := Option.bind_eq_some_iff.1 taken
    split at taken
    next ready =>
      cases taken
      exact good.update here fun fine => ⟨fun _ h => (by cases h), fine.woken, fine.unread⟩
    next => cases taken

theorem Reaches.good (reached : Reaches kind Sys.InTime s) : Good s := by
  induction reached with
  | start =>
    refine ⟨fun i sub here => (by cases here), fun _ => rfl, ?_⟩
    constructor
    · intro h
      cases h
    · rintro ⟨todo, told, closing⟩
      cases closing
  | step before possible met taken ih => exact ih.act possible met taken

/-- Once the close and a subscribe have returned the subscription is closed, its
receiver does not wait without a permit, and it reads what is buffered and then
nothing: in every run in which no subscription registers after the close. -/
theorem ends_once_closed (kind : ε → EventKind) {s : Sys ε} (reached : Reaches kind Sys.InTime s)
    (closed : s.close = .returned) {i : Nat} {sub : Subscriber ε} (here : s.subs[i]? = some sub)
    (returned : sub.stage = .returned) (held : sub.gone = false) :
    sub.shared.queues.closed = true ∧ (sub.reader = .waiting → sub.permit = true) ∧
      sub.shared.ReadsOut := by
  have good := reached.good
  have fine := good.each i sub here
  have notClosing : ¬ ∃ todo told, s.holder = .closing todo told := by
    rw [← good.holding, closed]
    exact fun h => by cases h
  have shut : sub.shared.queues.closed = true := by
    by_contra opened
    rcases fine.known returned held (by simpa using opened) with mem | ⟨todo, told, holder, -⟩
    · rw [good.emptied (.inr closed)] at mem
      cases mem
    · exact notClosing ⟨todo, told, holder⟩
  refine ⟨shut, fun waiting => ?_, Shared.readsOut shut⟩
  rcases fine.woken shut waiting with permit | ⟨todo, holder⟩
  · exact permit
  · exact absurd ⟨todo, some i, holder⟩ notClosing

/-! ## Two runs -/

/-- Whether an order polled is one of the buffers' map. -/
def Sys.orderly (s : Sys ε) : Action ε → Bool
  | .poll i order => s.subs[i]?.all fun sub =>
      decide order.Nodup &&
        EventKind.all.all fun k => order.contains k == (sub.shared.queues.kinds k).isSome
  | _ => true

theorem Sys.orderly_possible {a : Action ε} (orderly : s.orderly a = true) : s.Possible a := by
  cases a with
  | poll i order =>
    intro sub here
    rw [Sys.orderly, here, Option.all_some, Bool.and_eq_true, List.all_eq_true] at orderly
    refine ⟨of_decide_eq_true orderly.1, fun k => ?_⟩
    have mem : k ∈ EventKind.all := by cases k <;> decide
    have agree := orderly.2 k mem
    rw [beq_iff_eq] at agree
    rw [← agree, List.contains_iff_mem]
  | _ => trivial

def Sys.inTime (s : Sys ε) : Action ε → Bool
  | .register _ => s.close != .returned
  | _ => true

theorem Sys.inTime_met {a : Action ε} (inTime : s.inTime a = true) : s.InTime a := by
  cases a with
  | register i => exact bne_iff_ne.1 inTime
  | _ => trivial

/-- Where a run leads, each step checked first. -/
def Sys.play (kind : ε → EventKind) (check : Sys ε → Action ε → Bool) :
    Sys ε → List (Action ε) → Option (Sys ε)
  | s, [] => some s
  | s, a :: rest =>
    if s.orderly a && check s a then (s.act kind a).bind fun s' => s'.play kind check rest else none

theorem Reaches.play {meets : Sys ε → Action ε → Prop} {check : Sys ε → Action ε → Bool}
    (sound : ∀ s a, check s a = true → meets s a) {actions : List (Action ε)}
    (reached : Reaches kind meets s) (played : s.play kind check actions = some s') :
    Reaches kind meets s' := by
  induction actions generalizing s with
  | nil =>
    cases played
    exact reached
  | cons a rest ih =>
    rw [Sys.play] at played
    split at played
    next checked =>
      rw [Bool.and_eq_true] at checked
      obtain ⟨mid, taken, played⟩ := Option.bind_eq_some_iff.1 played
      exact ih (.step reached (Sys.orderly_possible checked.1) (sound s a checked.2) taken) played
    next => cases played

/-- Closed while a publication is delivered; the receiver was waiting. -/
def closedWhileWaiting : List (Action EventKind) :=
  [.subscribe [.coreStarted], .readFlag 0, .register 0, .recv 0, .poll 0 [], .publish .coreStarted,
   .flag, .next, .notify, .release, .drain, .next, .notify, .release]

theorem ends_once_closed_waiting : ∃ s sub, Reaches id Sys.InTime s ∧ s.subs[0]? = some sub ∧
    sub.reader = .waiting ∧ sub.shared.queues.closed = true ∧ sub.permit = true ∧
    sub.shared.ReadsOut := by
  have checked : ((Sys.play id Sys.inTime {} closedWhileWaiting).any fun s =>
      decide (s.close = .returned) && s.subs[0]?.any fun sub =>
        decide (sub.stage = .returned) && !sub.gone && decide (sub.reader = .waiting)) = true := by
    decide +kernel
  obtain ⟨s, played, here⟩ := (Option.any_eq_true _ _).1 checked
  rw [Bool.and_eq_true, decide_eq_true_eq] at here
  obtain ⟨closed, here⟩ := here
  obtain ⟨sub, here, stands⟩ := (Option.any_eq_true _ _).1 here
  simp only [Bool.and_eq_true, decide_eq_true_eq, Bool.not_eq_true'] at stands
  obtain ⟨⟨returned, held⟩, waiting⟩ := stands
  have reached : Reaches id Sys.InTime s := Reaches.play (fun s a => Sys.inTime_met) .start played
  obtain ⟨shut, woken, reads⟩ := ends_once_closed id reached closed here returned held
  exact ⟨s, sub, reached, here, waiting, shut, woken waiting, reads⟩

/-- That every subscription of every run ends once the bus is closed. -/
def AlwaysEnds (kind : ε → EventKind) : Prop :=
  ∀ (s : Sys ε) (i : Nat) (sub : Subscriber ε), Reaches kind (fun _ _ => True) s →
    s.close = .returned → s.subs[i]? = some sub → sub.stage = .returned → sub.gone = false →
    sub.shared.queues.closed = true ∧ (sub.reader = .waiting → sub.permit = true) ∧
      sub.shared.ReadsOut

/-- A subscribe that read the flag before the close and registers after it. -/
def registeredLate : List (Action EventKind) :=
  [.subscribe [.coreStarted], .readFlag 0, .flag, .drain, .release, .register 0, .recv 0, .poll 0 []]

/-- Its receiver waits for a permit that nobody gives. -/
theorem late_waits : ¬ AlwaysEnds (id : EventKind → EventKind) := by
  intro always
  have checked : ((Sys.play id (fun _ _ => true) {} registeredLate).any fun s =>
      decide (s.close = .returned) && s.subs[0]?.any fun sub =>
        decide (sub.stage = .returned) && !sub.gone && decide (sub.reader = .waiting) &&
          !sub.permit) = true := by
    decide +kernel
  obtain ⟨s, played, here⟩ := (Option.any_eq_true _ _).1 checked
  rw [Bool.and_eq_true, decide_eq_true_eq] at here
  obtain ⟨closed, here⟩ := here
  obtain ⟨sub, here, stands⟩ := (Option.any_eq_true _ _).1 here
  simp only [Bool.and_eq_true, decide_eq_true_eq, Bool.not_eq_true'] at stands
  obtain ⟨⟨⟨returned, held⟩, waiting⟩, unnotified⟩ := stands
  have reached : Reaches id (fun _ _ => True) s := Reaches.play (fun _ _ _ => trivial) .start played
  obtain ⟨-, woken, -⟩ := always s 0 sub reached closed here returned held
  rw [woken waiting] at unnotified
  cases unnotified

end Closing

end PpvpnCore
