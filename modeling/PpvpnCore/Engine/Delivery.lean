import Mathlib.Algebra.GroupWithZero.Nat
import Mathlib.Data.List.Induction
import Mathlib.Data.List.Pairwise
import PpvpnCore.Lib.Cover
import PpvpnCore.Engine.Bus

/-!
What a subscription reads accounts for everything published to it.

Publications a subscription asked for are numbered from one, as `Queues.seq`
counts them. What it has not read yet of a kind, `rest`, is the events its
buffer lost since the last read and then the buffer; the items it read cover
what was published of that kind up to that rest (`Lib.Covers`).
-/

namespace PpvpnCore

open Lib

variable {ε : Type}

namespace EventItem

def kind (kind : ε → EventKind) : EventItem ε → EventKind
  | .event e => kind e
  | .lagged kind _ => kind

/-- How many publications an item accounts for. -/
def count : EventItem ε → Nat
  | .event _ => 1
  | .lagged _ dropped => dropped

def isLagged : EventItem ε → Bool
  | .event _ => false
  | .lagged _ _ => true

def event? : EventItem ε → Option ε
  | .event e => some e
  | .lagged _ _ => none

end EventItem

/-! ## Runs of the bus -/

inductive BusAct (ε : Type) where
  | subscribe (kinds : List EventKind)
  | publish (event : ε)
  | next (id : Nat) (order : List EventKind)
  | drop (id : Nat)
  | close

namespace BusAct

def run (kind : ε → EventKind) (bus : Bus ε) : BusAct ε → Bus ε
  | .subscribe kinds => bus.subscribe kinds
  | .publish event => bus.publish kind event
  | .next id order => bus.next id order
  | .drop id => bus.drop id
  | .close => bus.close

/-- A hash map is iterated in some order of its keys. -/
def Possible (bus : Bus ε) : BusAct ε → Prop
  | .next id order => ∀ shared, bus.held id = some shared → shared.Iterates order
  | _ => True

def published : BusAct ε → List ε
  | .publish event => [event]
  | _ => []

end BusAct

/-- What a call of `next` gives the receiver, with its position: an event's
publication number, a lagged item's that of its first dropped event. -/
def Shared.read (shared : Shared ε) (order : List EventKind) : List (Nat × EventItem ε) :=
  match shared.upcoming order, (shared.next order).1 with
  | some (position, _), .ok (some item) => [(position, item)]
  | _, _ => []

def BusAct.read (id : Nat) (bus : Bus ε) : BusAct ε → List (Nat × EventItem ε)
  | .next receiver order =>
    if receiver = id then (bus.held id).elim [] fun shared => shared.read order else []
  | _ => []

/-- The runs of a bus from the subscription `id` to `kinds` on, as long as it
is neither closed nor dropped: what was published since, of any kind, and what
the subscription has read. -/
inductive Bus.Follows (kind : ε → EventKind) (id : Nat) (kinds : List EventKind) :
    Bus ε → List ε → List (Nat × EventItem ε) → Prop
  | subscribed {bus : Bus ε} (opened : bus.closed = false) (handle : bus.made = id) :
      Bus.Follows kind id kinds (bus.subscribe kinds) [] []
  | act {bus : Bus ε} {published : List ε} {reads : List (Nat × EventItem ε)} (a : BusAct ε)
      (follows : Bus.Follows kind id kinds bus published reads) (possible : a.Possible bus)
      (opened : a ≠ .close) (kept : a ≠ .drop id) :
      Bus.Follows kind id kinds (a.run kind bus) (published ++ a.published) (reads ++ a.read id bus)

/-- The queue of a kind of the subscription `id`. -/
def Bus.queue (bus : Bus ε) (id : Nat) (k : EventKind) : KindQueue ε :=
  (bus.held id).elim {} fun shared => shared.queues.queue k

/-! ## What was published, numbered -/

/-- The publications of the kinds a subscription asked for. -/
def asked (kind : ε → EventKind) (kinds : List EventKind) (published : List ε) : List ε :=
  published.filter fun event => kind event ∈ kinds

def numbered (events : List ε) : List (Nat × ε) := (events.zipIdx 1).map Prod.swap

def numberedOf (kind : ε → EventKind) (k : EventKind) (events : List ε) : List (Nat × ε) :=
  (numbered events).filter fun entry => kind entry.2 = k

def readsOf (kind : ε → EventKind) (k : EventKind) (reads : List (Nat × EventItem ε)) :
    List (Nat × EventItem ε) :=
  reads.filter fun read => read.2.kind kind = k

theorem numbered_append (events : List ε) (event : ε) :
    numbered (events ++ [event]) = numbered events ++ [(events.length + 1, event)] := by
  simp [numbered, List.zipIdx_append, Nat.add_comm]

theorem numbered_eq {events : List ε} {position : Nat} {event : ε} :
    (position, event) ∈ numbered events ↔ 1 ≤ position ∧ events[position - 1]? = some event := by
  simp only [numbered, List.mem_map, Prod.exists, Prod.swap_prod_mk, Prod.mk.injEq]
  constructor
  · rintro ⟨e, n, mem, rfl, rfl⟩
    exact List.mk_mem_zipIdx_iff_le_and_getElem?_sub.1 mem
  · intro found
    exact ⟨event, position, List.mk_mem_zipIdx_iff_le_and_getElem?_sub.2 found, rfl, rfl⟩

theorem numbered_le {events : List ε} {entry : Nat × ε} (mem : entry ∈ numbered events) :
    entry.1 ≤ events.length := by
  have found := ((numbered_eq).1 mem).2
  have bound := (List.getElem?_eq_some_iff.1 found).1
  omega

theorem numbered_sorted (events : List ε) :
    (numbered events).Pairwise fun x y => x.1 < y.1 := by
  induction events using List.reverseRecOn with
  | nil => exact .nil
  | append_singleton events event ih =>
    rw [numbered_append, List.pairwise_append]
    refine ⟨ih, List.pairwise_singleton _ _, ?_⟩
    intro entry mem last same
    have bound := numbered_le mem
    rw [List.mem_singleton.1 same]
    exact Nat.lt_succ_of_le bound

theorem numbered_inj {events : List ε} {position : Nat} {e e' : ε}
    (mem : (position, e) ∈ numbered events) (mem' : (position, e') ∈ numbered events) : e = e' := by
  have found := ((numbered_eq).1 mem).2
  have found' := ((numbered_eq).1 mem').2
  exact Option.some.inj (found.symm.trans found')

theorem numberedOf_append (kind : ε → EventKind) (k : EventKind) (events : List ε) (event : ε) :
    numberedOf kind k (events ++ [event]) =
      numberedOf kind k events ++ if kind event = k then [(events.length + 1, event)] else [] := by
  rw [numberedOf, numbered_append, List.filter_append]
  by_cases same : kind event = k
  · simp [numberedOf, same]
  · simp [numberedOf, same]

theorem mem_numberedOf {kind : ε → EventKind} {k : EventKind} {events : List ε} {entry : Nat × ε} :
    entry ∈ numberedOf kind k events ↔ entry ∈ numbered events ∧ kind entry.2 = k := by
  simp [numberedOf]

theorem numberedOf_sorted (kind : ε → EventKind) (k : EventKind) (events : List ε) :
    (numberedOf kind k events).Pairwise fun x y => x.1 < y.1 :=
  (numbered_sorted events).sublist List.filter_sublist

/-! ## The queue of one kind -/

/-- What an item stands for: an event for itself, a lagged item for as many
publications as it counts, the first of them at its position. -/
def Block : Nat × EventItem ε → List (Nat × ε) → Prop
  | (position, .event event), taken => taken = [(position, event)]
  | (position, .lagged _ dropped), taken =>
    taken.length = dropped ∧ taken.head?.map (·.1) = some position

/-- `rest` is what the receiver has not read of a queue: the events that were
dropped since it last read, then the buffer. -/
structure KindQueue.Holds (queue : KindQueue ε) (lost rest : List (Nat × ε)) : Prop where
  rest : rest = lost ++ queue.events
  dropped : lost.length = queue.dropped
  laggedAt : 0 < queue.dropped → lost.head?.map (·.1) = some queue.laggedAt
  short : queue.events.length ≤ kindCapacity

namespace KindQueue.Holds

variable {queue : KindQueue ε} {lost rest : List (Nat × ε)}

theorem empty : KindQueue.Holds ({} : KindQueue ε) [] [] :=
  ⟨rfl, rfl, fun h => absurd h (Nat.lt_irrefl 0), Nat.zero_le _⟩

theorem head (holds : queue.Holds lost rest) : queue.head = rest.head?.map (·.1) := by
  unfold KindQueue.head
  rw [holds.rest]
  by_cases lagged : 0 < queue.dropped
  · rw [if_pos lagged, ← holds.laggedAt lagged]
    cases lost with
    | nil =>
      have none := holds.dropped
      simp only [List.length_nil] at none
      omega
    | cons first others => rfl
  · rw [if_neg lagged]
    have none : lost = [] := by
      have same := holds.dropped
      exact List.length_eq_zero_iff.1 (by omega)
    rw [none, List.nil_append]

/-- A full buffer loses its oldest event to the lost ones; the rest only grows. -/
theorem push (holds : queue.Holds lost rest) (seq : Nat) (event : ε) :
    ∃ lost', (queue.push seq event).Holds lost' (rest ++ [(seq, event)]) := by
  unfold KindQueue.push
  by_cases full : kindCapacity ≤ queue.events.length
  · simp only [if_pos full]
    cases events : queue.events with
    | nil =>
      rw [events] at full
      exact absurd full (by simp [kindCapacity])
    | cons oldest others =>
      have size := holds.short
      rw [events, List.length_cons] at size
      refine ⟨lost ++ [oldest], ?_, ?_, ?_, ?_⟩
      · rw [holds.rest, events]
        simp
      · rw [List.length_append, holds.dropped]
        rfl
      · intro _
        by_cases first : queue.dropped = 0
        · have none : lost = [] := List.length_eq_zero_iff.1 (holds.dropped.trans first)
          simp [none, first]
        · have before := holds.laggedAt (Nat.pos_of_ne_zero first)
          cases lost with
          | nil => cases before
          | cons head tail =>
            simp only [if_neg first]
            exact before
      · simp only [List.length_append, List.length_singleton]
        omega
  · simp only [if_neg full]
    refine ⟨lost, ?_, holds.dropped, holds.laggedAt, ?_⟩
    · rw [holds.rest, List.append_assoc]
    · simp only [List.length_append, List.length_singleton]
      omega

/-- Reading the lag marker takes the lost events off the rest. -/
theorem readLag (holds : queue.Holds lost rest) :
    KindQueue.Holds { queue with dropped := 0 } [] queue.events :=
  ⟨rfl, rfl, fun h => absurd h (Nat.lt_irrefl 0), holds.short⟩

theorem readEvent (holds : queue.Holds lost rest) (none : ¬ 0 < queue.dropped)
    {first : Nat × ε} {others : List (Nat × ε)} (events : queue.events = first :: others) :
    rest = first :: others ∧ KindQueue.Holds { queue with events := others } [] others := by
  have same := holds.dropped
  have nothing : lost = [] := List.length_eq_zero_iff.1 (by omega)
  have size := holds.short
  rw [events, List.length_cons] at size
  refine ⟨?_, rfl, ?_, fun h => absurd h none, ?_⟩
  · rw [holds.rest, nothing, events, List.nil_append]
  · rw [List.length_nil]
    exact (Nat.eq_zero_of_not_pos none).symm
  · exact Nat.le_of_succ_le size

end KindQueue.Holds

/-! ## One subscription -/

theorem Shared.minByPosition_spec {entries : List (Nat × EventKind)} {least : Nat × EventKind}
    (found : Shared.minByPosition entries = some least) :
    least ∈ entries ∧ ∀ entry ∈ entries, least.1 ≤ entry.1 := by
  induction entries generalizing least with
  | nil => cases found
  | cons entry rest ih =>
    unfold Shared.minByPosition at found
    cases tail : Shared.minByPosition rest with
    | none =>
      have nothing : rest = [] := by
        cases rest with
        | nil => rfl
        | cons x xs =>
          simp only [Shared.minByPosition] at tail
          split at tail
          · cases tail
          · split at tail
            · cases tail
            · cases tail
      rw [tail] at found
      subst nothing
      cases found
      simp
    | some other =>
      obtain ⟨mem, below⟩ := ih tail
      rw [tail] at found
      simp only at found
      split at found
      · rename_i smaller
        cases found
        refine ⟨List.mem_cons_self, ?_⟩
        intro x among
        rcases List.mem_cons.1 among with rfl | later
        · exact Nat.le_refl _
        · exact Nat.le_trans smaller (below x later)
      · rename_i smaller
        cases found
        refine ⟨List.mem_cons_of_mem _ mem, ?_⟩
        intro x among
        rcases List.mem_cons.1 among with rfl | later
        · omega
        · exact below x later

/-- What holds of a subscription between its steps. -/
structure Shared.Tracks (kind : ε → EventKind) (published : List ε)
    (reads : List (Nat × EventItem ε)) (shared : Shared ε)
    (rest : EventKind → List (Nat × ε)) : Prop where
  opened : shared.queues.closed = false
  seq : shared.queues.seq = published.length
  holds : ∀ k, ∃ lost, (shared.queues.queue k).Holds lost (rest k)
  covers : ∀ k, Covers Block (readsOf kind k reads) (numberedOf kind k published) (rest k)
  ahead : ∀ read ∈ reads, ∀ k, ∀ entry ∈ rest k, read.1 < entry.1
  increasing : reads.Pairwise fun read later => read.1 < later.1

namespace Shared.Tracks

variable {kind : ε → EventKind} {published : List ε} {reads : List (Nat × EventItem ε)}
  {shared : Shared ε} {rest : EventKind → List (Nat × ε)}

theorem new (kinds : List EventKind) :
    Shared.Tracks kind [] [] ({ kinds } : Shared ε) fun _ => [] where
  opened := rfl
  seq := rfl
  holds _ := ⟨[], KindQueue.Holds.empty⟩
  covers _ := .nil []
  ahead _ mem := by cases mem
  increasing := .nil

/-- What is not read of a kind are publications of that kind. -/
theorem published_of_mem (tracks : shared.Tracks kind published reads rest) {k : EventKind}
    {entry : Nat × ε} (mem : entry ∈ rest k) :
    entry ∈ numbered published ∧ kind entry.2 = k := by
  obtain ⟨taken, same⟩ := (tracks.covers k).exists_append
  apply (mem_numberedOf).1
  rw [same]
  exact List.mem_append_right _ mem

theorem rest_sorted (tracks : shared.Tracks kind published reads rest) (k : EventKind) :
    (rest k).Pairwise fun x y => x.1 < y.1 := by
  obtain ⟨taken, same⟩ := (tracks.covers k).exists_append
  have sorted := numberedOf_sorted kind k published
  rw [same] at sorted
  exact (List.pairwise_append.1 sorted).2.1

/-- The position of an item read is the number of a publication of its kind. -/
theorem read_numbered (tracks : shared.Tracks kind published reads rest)
    {read : Nat × EventItem ε} (mem : read ∈ reads) :
    ∃ e, (read.1, e) ∈ numbered published ∧ kind e = read.2.kind kind ∧
      ∀ event, read.2 = .event event → event = e := by
  have among : read ∈ readsOf kind (read.2.kind kind) reads :=
    List.mem_filter.2 ⟨mem, decide_eq_true rfl⟩
  obtain ⟨taken, stands, within⟩ := (tracks.covers (read.2.kind kind)).exists_block among
  obtain ⟨position, item⟩ := read
  cases item with
  | event event =>
    have first : (position, event) ∈ taken := by
      rw [show taken = [(position, event)] from stands]
      exact List.mem_singleton_self _
    obtain ⟨number, same⟩ := (mem_numberedOf).1 (within _ first)
    exact ⟨event, number, same, fun e found => (EventItem.event.inj found).symm⟩
  | lagged k dropped =>
    cases taken with
    | nil => cases stands.2
    | cons first others =>
      obtain ⟨number, same⟩ := (mem_numberedOf).1 (within _ List.mem_cons_self)
      have position : first.1 = position := Option.some.inj stands.2
      refine ⟨first.2, ?_, same, fun e found => by cases found⟩
      rw [← position]
      exact number

theorem push (tracks : shared.Tracks kind published reads rest) (event : ε) :
    ∃ rest', (shared.push (kind event) event).Tracks kind (published ++ [event]) reads rest' := by
  let entry := (published.length + 1, event)
  refine ⟨Function.update rest (kind event) (rest (kind event) ++ [entry]), ?_⟩
  have pushed : shared.push (kind event) event =
      { shared with
        queues := { shared.queues with
          seq := published.length + 1
          kinds := Function.update shared.queues.kinds (kind event)
            (some ((shared.queues.queue (kind event)).push (published.length + 1) event)) } } := by
    simp [Shared.push, tracks.opened, tracks.seq]
  rw [pushed]
  constructor
  · exact tracks.opened
  · simp
  · intro k
    by_cases same : k = kind event
    · subst same
      obtain ⟨lost, holds⟩ := tracks.holds (kind event)
      obtain ⟨lost', holds'⟩ := holds.push (published.length + 1) event
      refine ⟨lost', ?_⟩
      simpa [Queues.queue] using holds'
    · obtain ⟨lost, holds⟩ := tracks.holds k
      refine ⟨lost, ?_⟩
      simpa [Queues.queue, Function.update_of_ne same] using holds
  · intro k
    rw [numberedOf_append]
    by_cases same : k = kind event
    · subst same
      rw [if_pos rfl, Function.update_self]
      exact (tracks.covers _).publish _
    · rw [if_neg (Ne.symm same), Function.update_of_ne same, List.append_nil]
      exact tracks.covers k
  · intro read mem k x among
    by_cases same : k = kind event
    · subst same
      rw [Function.update_self, List.mem_append, List.mem_singleton] at among
      rcases among with old | rfl
      · exact tracks.ahead read mem _ x old
      · obtain ⟨e, number, -⟩ := tracks.read_numbered mem
        exact Nat.lt_succ_of_le (numbered_le number)
    · rw [Function.update_of_ne same] at among
      exact tracks.ahead read mem k x among
  · exact tracks.increasing

/-- The position `next` settles on is the least of all that is not read. -/
theorem upcoming (tracks : shared.Tracks kind published reads rest) {order : List EventKind}
    (iterates : shared.Iterates order) {position : Nat} {k : EventKind}
    (found : shared.upcoming order = some (position, k)) :
    (∃ first others, rest k = first :: others ∧ first.1 = position) ∧
      ∀ k', ∀ entry ∈ rest k', position ≤ entry.1 := by
  obtain ⟨mem, least⟩ := Shared.minByPosition_spec found
  constructor
  · obtain ⟨k', -, head⟩ := List.mem_filterMap.1 mem
    obtain ⟨lost, holds⟩ := tracks.holds k'
    rw [holds.head] at head
    cases entries : rest k' with
    | nil =>
      rw [entries] at head
      cases head
    | cons first others =>
      rw [entries] at head
      cases head
      exact ⟨first, others, entries, rfl⟩
  · intro k' entry among
    obtain ⟨lost, holds⟩ := tracks.holds k'
    cases entries : rest k' with
    | nil =>
      rw [entries] at among
      cases among
    | cons first others =>
      have sorted := tracks.rest_sorted k'
      have head : (shared.queues.queue k').head = some first.1 := by
        rw [holds.head, entries]
        rfl
      have listed : k' ∈ order := by
        rw [iterates.2 k']
        cases present : shared.queues.kinds k' with
        | none =>
          rw [Queues.queue, present] at head
          cases head
        | some queue => rfl
      have below := least (first.1, k') (List.mem_filterMap.2 ⟨k', listed, by rw [head]; rfl⟩)
      rw [entries] at among sorted
      rcases List.mem_cons.1 among with rfl | later
      · exact below
      · exact Nat.le_trans below (Nat.le_of_lt ((List.pairwise_cons.1 sorted).1 entry later))

/-- Nothing else that is not read stands where the first block does: a position
is that of one publication, which has one kind. -/
theorem not_at_head (tracks : shared.Tracks kind published reads rest) {k k' : EventKind}
    {taken left : List (Nat × ε)} {position : Nat} {entry : Nat × ε}
    (entries : rest k = taken ++ left) (at_position : taken.head?.map (·.1) = some position)
    (unread : entry ∈ rest k') (beyond : k' = k → entry ∈ left) : position ≠ entry.1 := by
  intro same
  cases taken with
  | nil => cases at_position
  | cons first others =>
    have here : first.1 = entry.1 := (Option.some.inj at_position).trans same
    have head : first ∈ rest k := by
      rw [entries]
      exact List.mem_cons_self
    obtain ⟨number, of_kind⟩ := tracks.published_of_mem head
    obtain ⟨number', of_kind'⟩ := tracks.published_of_mem unread
    have event : first.2 = entry.2 := by
      apply numbered_inj number
      rw [here]
      exact number'
    have kinds : k' = k := by rw [← of_kind, ← of_kind', event]
    have sorted := tracks.rest_sorted k
    rw [entries] at sorted
    have below := (List.pairwise_append.1 sorted).2.2 first List.mem_cons_self entry (beyond kinds)
    omega

/-- Taking the first block off what is not read of a kind. -/
theorem take (tracks : shared.Tracks kind published reads rest) {k : EventKind}
    {queue : KindQueue ε} {taken left : List (Nat × ε)} {position : Nat} {item : EventItem ε}
    (least : ∀ k', ∀ entry ∈ rest k', position ≤ entry.1)
    (at_position : taken.head?.map (·.1) = some position) (entries : rest k = taken ++ left)
    (of_kind : item.kind kind = k) (stands : Block (position, item) taken)
    (holds : queue.Holds [] left) :
    ∃ rest', (shared.setQueue k queue).Tracks kind published (reads ++ [(position, item)]) rest' := by
  refine ⟨Function.update rest k left, ?_⟩
  constructor
  · exact tracks.opened
  · exact tracks.seq
  · intro k'
    by_cases same : k' = k
    · subst same
      refine ⟨[], ?_⟩
      simpa [Queues.queue, Shared.setQueue] using holds
    · obtain ⟨lost, holds'⟩ := tracks.holds k'
      refine ⟨lost, ?_⟩
      simpa [Queues.queue, Shared.setQueue, Function.update_of_ne same] using holds'
  · intro k'
    by_cases same : k' = k
    · subst same
      have covers := tracks.covers k'
      rw [entries] at covers
      have read : readsOf kind k' (reads ++ [(position, item)]) =
          readsOf kind k' reads ++ [(position, item)] := by
        simp [readsOf, of_kind]
      rw [Function.update_self, read]
      exact covers.read stands
    · have read : readsOf kind k' (reads ++ [(position, item)]) = readsOf kind k' reads := by
        have other : ¬ item.kind kind = k' := fun h => same (h.symm.trans of_kind)
        simp [readsOf, other]
      rw [Function.update_of_ne same, read]
      exact tracks.covers k'
  · intro read mem k' entry among
    have unread : entry ∈ rest k' ∧ (k' = k → entry ∈ left) := by
      by_cases same : k' = k
      · subst same
        rw [Function.update_self] at among
        exact ⟨by rw [entries]; exact List.mem_append_right _ among, fun _ => among⟩
      · rw [Function.update_of_ne same] at among
        exact ⟨among, fun h => absurd h same⟩
    rcases List.mem_append.1 mem with old | last
    · exact tracks.ahead read old k' entry unread.1
    · rw [List.mem_singleton.1 last]
      apply Nat.lt_of_le_of_ne (least k' entry unread.1)
      intro same
      exact tracks.not_at_head entries at_position unread.1 unread.2 same
  · rw [List.pairwise_append]
    refine ⟨tracks.increasing, List.pairwise_singleton _ _, ?_⟩
    intro read mem last same
    rw [List.mem_singleton.1 same]
    cases taken with
    | nil => cases at_position
    | cons first others =>
      have here : first.1 = position := Option.some.inj at_position
      have ahead := tracks.ahead read mem k first (by rw [entries]; exact List.mem_cons_self)
      exact here ▸ ahead

/-- A read keeps the account; it gives at most one item. -/
theorem next (tracks : shared.Tracks kind published reads rest) {order : List EventKind}
    (iterates : shared.Iterates order) :
    ∃ rest', (shared.next order).2.Tracks kind published (reads ++ shared.read order) rest' := by
  unfold Shared.read Shared.next
  cases found : shared.upcoming order with
  | none => exact ⟨rest, by simpa using tracks⟩
  | some entry =>
    obtain ⟨position, k⟩ := entry
    obtain ⟨⟨first, others, entries, here⟩, least⟩ := tracks.upcoming iterates found
    obtain ⟨lost, holds⟩ := tracks.holds k
    by_cases lagged : 0 < (shared.queues.queue k).dropped
    · simp only [if_pos lagged]
      have head : lost.head?.map (·.1) = some position := by
        have same := holds.rest
        rw [entries] at same
        cases lost with
        | nil => exact absurd holds.dropped (Nat.ne_of_lt lagged)
        | cons x xs => rw [← (List.cons.inj same).1, ← here]; rfl
      exact tracks.take least head holds.rest rfl ⟨holds.dropped, head⟩ holds.readLag
    · simp only [if_neg lagged]
      cases events : (shared.queues.queue k).events with
      | nil => exact ⟨rest, by simpa using tracks⟩
      | cons head tail =>
        obtain ⟨same, holds'⟩ := holds.readEvent lagged events
        rw [entries] at same
        obtain ⟨rfl, rfl⟩ := List.cons.inj same
        have of_kind := (tracks.published_of_mem (by rw [entries]; exact List.mem_cons_self)).2
        obtain ⟨number, event⟩ := first
        cases here
        exact tracks.take least rfl entries of_kind rfl holds'

end Shared.Tracks

/-! ## The account -/

/-- How many publications of a kind have a number between two. -/
def publishedBetween (kind : ε → EventKind) (k : EventKind) (events : List ε) (low high : Nat) :
    Nat :=
  ((numbered events).filter fun entry =>
    kind entry.2 = k ∧ low < entry.1 ∧ entry.1 < high).length

/-- The items read account for the publications asked for, `events`. -/
structure Accounts (kind : ε → EventKind) (events : List ε) (reads : List (Nat × EventItem ε)) :
    Prop where
  /-- An event's position is its publication number. -/
  event : ∀ {position e}, (position, EventItem.event e) ∈ reads → (position, e) ∈ numbered events
  /-- A lagged item's position is the number of a publication of its kind that
  was not delivered. -/
  lagged : ∀ {position k dropped}, (position, EventItem.lagged k dropped) ∈ reads →
    0 < dropped ∧ ∃ e, (position, e) ∈ numbered events ∧ kind e = k ∧
      (position, EventItem.event e) ∉ reads
  /-- It is the first that the items of its kind read before do not account for. -/
  first : ∀ {k before position item after},
    readsOf kind k reads = before ++ (position, item) :: after →
    publishedBetween kind k events 0 position = (before.map fun read => read.2.count).sum
  delivered : ∀ k, ((readsOf kind k reads).filterMap fun read => read.2.event?).Sublist
    (events.filter fun e => kind e = k)
  /-- Between two events of a kind delivered one after the other. -/
  between : ∀ {k before low e lags high e' after},
    readsOf kind k reads =
      before ++ (low, EventItem.event e) :: (lags ++ (high, EventItem.event e') :: after) →
    (∀ lag ∈ lags, lag.2.isLagged) →
    (lags.map fun lag => lag.2.count).sum = publishedBetween kind k events low high
  /-- Before the first event of a kind delivered. -/
  beforeFirst : ∀ {k lags high e after},
    readsOf kind k reads = lags ++ (high, EventItem.event e) :: after →
    (∀ lag ∈ lags, lag.2.isLagged) →
    (lags.map fun lag => lag.2.count).sum = publishedBetween kind k events 0 high
  /-- Items come in the order of their positions, whatever their kinds. -/
  increasing : reads.Pairwise fun read later => read.1 < later.1

theorem publishedBetween_eq (kind : ε → EventKind) (k : EventKind) (events : List ε)
    (low high : Nat) :
    publishedBetween kind k events low high =
      ((numberedOf kind k events).filter fun entry => low < entry.1 ∧ entry.1 < high).length := by
  unfold publishedBetween numberedOf
  rw [List.filter_filter]
  congr 1
  apply List.filter_congr
  intro entry _
  simp only [Bool.decide_and]
  exact Bool.and_comm _ _

/-- In a stream in order, what lies between two of its entries is what stands
between them. -/
theorem filter_between {stream before middle after : List (Nat × ε)} {first last : Nat × ε}
    (sorted : stream.Pairwise fun x y => x.1 < y.1)
    (parts : stream = before ++ first :: (middle ++ last :: after)) :
    stream.filter (fun entry => first.1 < entry.1 ∧ entry.1 < last.1) = middle := by
  subst parts
  rw [List.pairwise_append, List.pairwise_cons, List.pairwise_append, List.pairwise_cons] at sorted
  obtain ⟨-, ⟨aboveFirst, -, ⟨aboveLast, -⟩, belowLast⟩, belowFirst⟩ := sorted
  have none : before.filter (fun entry => first.1 < entry.1 ∧ entry.1 < last.1) = [] := by
    rw [List.filter_eq_nil_iff]
    intro entry mem
    have below := belowFirst entry mem first List.mem_cons_self
    simp only [decide_eq_true_eq]
    omega
  have all : middle.filter (fun entry => first.1 < entry.1 ∧ entry.1 < last.1) = middle := by
    rw [List.filter_eq_self]
    intro entry mem
    have above := aboveFirst entry (List.mem_append_left _ mem)
    have below := belowLast entry mem last List.mem_cons_self
    simp only [decide_eq_true_eq]
    omega
  have beyond : after.filter (fun entry => first.1 < entry.1 ∧ entry.1 < last.1) = [] := by
    rw [List.filter_eq_nil_iff]
    intro entry mem
    have above := aboveLast entry mem
    simp only [decide_eq_true_eq]
    omega
  rw [List.filter_append, none, List.filter_cons_of_neg (by simp), List.filter_append, all,
    List.filter_cons_of_neg (by simp), beyond, List.append_nil, List.nil_append]

theorem filter_below {stream before after : List (Nat × ε)} {last : Nat × ε}
    (sorted : stream.Pairwise fun x y => x.1 < y.1) (positive : ∀ entry ∈ stream, 0 < entry.1)
    (parts : stream = before ++ last :: after) :
    stream.filter (fun entry => 0 < entry.1 ∧ entry.1 < last.1) = before := by
  subst parts
  rw [List.pairwise_append, List.pairwise_cons] at sorted
  obtain ⟨-, ⟨aboveLast, -⟩, belowLast⟩ := sorted
  have all : before.filter (fun entry => 0 < entry.1 ∧ entry.1 < last.1) = before := by
    rw [List.filter_eq_self]
    intro entry mem
    have above := positive entry (List.mem_append_left _ mem)
    have below := belowLast entry mem last List.mem_cons_self
    simp only [decide_eq_true_eq]
    omega
  have beyond : after.filter (fun entry => 0 < entry.1 ∧ entry.1 < last.1) = [] := by
    rw [List.filter_eq_nil_iff]
    intro entry mem
    have above := aboveLast entry mem
    simp only [decide_eq_true_eq]
    omega
  rw [List.filter_append, all, List.filter_cons_of_neg (by simp), beyond, List.append_nil]

/-- The items read count what they cover. -/
theorem covers_count {items : List (Nat × EventItem ε)} {stream rest : List (Nat × ε)}
    (covers : Covers Block items stream rest) :
    ∃ taken, stream = taken ++ rest ∧ taken.length = (items.map fun read => read.2.count).sum := by
  induction items generalizing stream with
  | nil =>
    obtain ⟨blocks, all, rfl⟩ := covers
    cases all
    exact ⟨[], rfl, rfl⟩
  | cons read items ih =>
    obtain ⟨taken, later, rfl, stands, others⟩ := covers.uncons
    obtain ⟨more, rfl, length⟩ := ih others
    refine ⟨taken ++ more, (List.append_assoc _ _ _).symm, ?_⟩
    have count : taken.length = read.2.count := by
      obtain ⟨position, item⟩ := read
      cases item with
      | event e => rw [show taken = [(position, e)] from stands]; rfl
      | lagged k dropped => exact stands.1
    rw [List.length_append, count, length, List.map_cons, List.sum_cons]

theorem covers_delivered {items : List (Nat × EventItem ε)} {stream rest : List (Nat × ε)}
    (covers : Covers Block items stream rest) :
    (items.filterMap fun read => read.2.event?).Sublist (stream.map (·.2)) := by
  induction items generalizing stream with
  | nil => exact List.nil_sublist _
  | cons read items ih =>
    obtain ⟨taken, later, rfl, stands, others⟩ := covers.uncons
    have tail := ih others
    obtain ⟨position, item⟩ := read
    cases item with
    | event e =>
      rw [show taken = [(position, e)] from stands]
      exact tail.cons_cons e
    | lagged k dropped =>
      rw [List.map_append]
      exact tail.trans (List.sublist_append_right _ _)

theorem numberedOf_events (kind : ε → EventKind) (k : EventKind) (events : List ε) :
    (numberedOf kind k events).map (·.2) = events.filter fun e => kind e = k := by
  induction events using List.reverseRecOn with
  | nil => rfl
  | append_singleton events event ih =>
    rw [numberedOf_append, List.map_append, ih, List.filter_append]
    by_cases same : kind event = k
    · simp [same]
    · simp [same]

theorem numberedOf_pos {kind : ε → EventKind} {k : EventKind} {events : List ε} {entry : Nat × ε}
    (mem : entry ∈ numberedOf kind k events) : 0 < entry.1 :=
  ((numbered_eq).1 ((mem_numberedOf).1 mem).1).1

/-- A block begins at the position of its item. -/
theorem Block.exists_cons {position : Nat} {item : EventItem ε} {taken : List (Nat × ε)}
    (stands : Block (position, item) taken) :
    ∃ first others, taken = first :: others ∧ first.1 = position := by
  cases item with
  | event e => exact ⟨(position, e), [], stands, rfl⟩
  | lagged k dropped =>
    cases taken with
    | nil => cases stands.2
    | cons first others => exact ⟨first, others, rfl, Option.some.inj stands.2⟩

section

variable {kind : ε → EventKind} {events : List ε} {reads : List (Nat × EventItem ε)}
  {shared : Shared ε} {rest : EventKind → List (Nat × ε)}

theorem Shared.Tracks.first (tracks : shared.Tracks kind events reads rest) {k : EventKind}
    {before after : List (Nat × EventItem ε)} {position : Nat} {item : EventItem ε}
    (parts : readsOf kind k reads = before ++ (position, item) :: after) :
    publishedBetween kind k events 0 position = (before.map fun read => read.2.count).sum := by
  have covers := tracks.covers k
  rw [parts] at covers
  obtain ⟨middle, left, right⟩ := covers.split
  obtain ⟨earlier, stream, length⟩ := covers_count left
  obtain ⟨taken, later, rfl, stands, -⟩ := right.uncons
  obtain ⟨first, others, rfl, rfl⟩ := stands.exists_cons
  rw [publishedBetween_eq, ← length]
  congr 1
  exact filter_below (numberedOf_sorted kind k events) (fun _ => numberedOf_pos) stream

theorem Shared.Tracks.between (tracks : shared.Tracks kind events reads rest) {k : EventKind}
    {before lags after : List (Nat × EventItem ε)} {low high : Nat} {e e' : ε}
    (parts : readsOf kind k reads =
      before ++ (low, EventItem.event e) :: (lags ++ (high, EventItem.event e') :: after)) :
    (lags.map fun lag => lag.2.count).sum = publishedBetween kind k events low high := by
  have covers := tracks.covers k
  rw [parts] at covers
  obtain ⟨middle, left, right⟩ := covers.split
  obtain ⟨earlier, stream, -⟩ := covers_count left
  obtain ⟨taken, later, rfl, stands, lagging⟩ := right.uncons
  obtain ⟨next, lagged, right'⟩ := lagging.split
  obtain ⟨dropped, rfl, length⟩ := covers_count lagged
  obtain ⟨taken', later', rfl, stands', -⟩ := right'.uncons
  obtain rfl : taken = [(low, e)] := stands
  obtain rfl : taken' = [(high, e')] := stands'
  rw [publishedBetween_eq, ← length]
  congr 1
  exact (filter_between (numberedOf_sorted kind k events) stream).symm

theorem Shared.Tracks.accounts (tracks : shared.Tracks kind events reads rest) :
    Accounts kind events reads where
  event mem := by
    obtain ⟨e, number, -, same⟩ := tracks.read_numbered mem
    rw [same _ rfl]
    exact number
  lagged := by
    intro position k dropped mem
    obtain ⟨e, number, of_kind, -⟩ := tracks.read_numbered mem
    have among : (position, EventItem.lagged k dropped) ∈ readsOf kind k reads :=
      List.mem_filter.2 ⟨mem, decide_eq_true rfl⟩
    obtain ⟨taken, stands, -⟩ := (tracks.covers k).exists_block among
    have distinct : reads.Pairwise fun read later => read.1 ≠ later.1 :=
      tracks.increasing.imp Nat.ne_of_lt
    refine ⟨?_, e, number, of_kind, ?_⟩
    · obtain ⟨first, others, rfl, -⟩ := stands.exists_cons
      rw [← stands.1]
      exact Nat.succ_pos _
    · intro delivered
      have apart : Std.Symm fun read later : Nat × EventItem ε => read.1 ≠ later.1 :=
        ⟨fun _ _ ne => ne.symm⟩
      exact distinct.forall mem delivered (by simp) rfl
  first := tracks.first
  delivered k := by
    rw [← numberedOf_events]
    exact covers_delivered (tracks.covers k)
  between parts _ := tracks.between parts
  beforeFirst parts _ := (tracks.first parts).symm
  increasing := tracks.increasing

end

/-! ## Every run -/

/-- The subscription `id` to `kinds` on the bus. -/
def Bus.Serves (kind : ε → EventKind) (id : Nat) (kinds : List EventKind) (bus : Bus ε)
    (published : List ε) (reads : List (Nat × EventItem ε)) : Prop :=
  id ∈ bus.subscribers ∧ id < bus.made ∧
    ∃ shared rest, bus.held id = some shared ∧ shared.kinds = kinds ∧
      shared.Tracks kind (asked kind kinds published) reads rest

namespace Bus.Serves

variable {kind : ε → EventKind} {id : Nat} {kinds : List EventKind} {bus : Bus ε}
  {published : List ε} {reads : List (Nat × EventItem ε)}

theorem retained (serves : bus.Serves kind id kinds published reads) : id ∈ bus.retained := by
  obtain ⟨listed, -, shared, rest, held, -⟩ := serves
  rw [Bus.retained, List.mem_filter, held]
  exact ⟨listed, rfl⟩

theorem subscribe (serves : bus.Serves kind id kinds published reads) (others : List EventKind) :
    (bus.subscribe others).Serves kind id kinds published reads := by
  have retained := serves.retained
  obtain ⟨listed, made, shared, rest, held, asks, tracks⟩ := serves
  have other : id ≠ bus.made := Nat.ne_of_lt made
  unfold Bus.subscribe
  split
  · refine ⟨listed, Nat.lt_succ_of_lt made, shared, rest, ?_, asks, tracks⟩
    exact (Function.update_of_ne other _ _).trans held
  · refine ⟨List.mem_append_left _ retained, Nat.lt_succ_of_lt made, shared, rest, ?_, asks, tracks⟩
    exact (Function.update_of_ne other _ _).trans held

theorem publish (serves : bus.Serves kind id kinds published reads) (event : ε) :
    (bus.publish kind event).Serves kind id kinds (published ++ [event]) reads := by
  have retained := serves.retained
  obtain ⟨listed, made, shared, rest, held, rfl, tracks⟩ := serves
  refine ⟨retained, made, ?_⟩
  simp only [Bus.publish, held, Option.map_some, asked, List.filter_append]
  by_cases asks : kind event ∈ shared.kinds
  · obtain ⟨rest', tracks'⟩ := tracks.push event
    refine ⟨shared.push (kind event) event, rest', ?_, ?_, ?_⟩
    · rw [if_pos ⟨retained, asks⟩]
    · unfold Shared.push
      split
      · rfl
      · rfl
    · rw [List.filter_cons_of_pos (by simpa using asks), List.filter_nil]
      exact tracks'
  · refine ⟨shared, rest, ?_, rfl, ?_⟩
    · rw [if_neg fun h => asks h.2]
    · rw [List.filter_cons_of_neg (by simpa using asks), List.filter_nil, List.append_nil]
      exact tracks

theorem drop (serves : bus.Serves kind id kinds published reads) {other : Nat} (ne : other ≠ id) :
    (bus.drop other).Serves kind id kinds published reads := by
  obtain ⟨listed, made, shared, rest, held, asks, tracks⟩ := serves
  exact ⟨listed, made, shared, rest, (Function.update_of_ne (Ne.symm ne) _ _).trans held, asks, tracks⟩

theorem next (serves : bus.Serves kind id kinds published reads) {receiver : Nat}
    {order : List EventKind} (possible : (BusAct.next receiver order).Possible bus) :
    (bus.next receiver order).Serves kind id kinds published
      (reads ++ (BusAct.next receiver order).read id bus) := by
  obtain ⟨listed, made, shared, rest, held, asks, tracks⟩ := serves
  unfold Bus.next
  by_cases same : receiver = id
  · subst same
    obtain ⟨rest', tracks'⟩ := tracks.next (possible shared held)
    simp only [held, BusAct.read, if_pos, Option.elim_some]
    refine ⟨listed, made, _, rest', Function.update_self _ _ _, ?_, tracks'⟩
    unfold Shared.next Shared.setQueue
    split
    · exact asks
    · dsimp only
      split
      · exact asks
      · split
        · exact asks
        · exact asks
  · simp only [BusAct.read, if_neg same, List.append_nil]
    cases bus.held receiver with
    | none => exact ⟨listed, made, shared, rest, held, asks, tracks⟩
    | some other =>
      refine ⟨listed, made, shared, rest, ?_, asks, tracks⟩
      exact (Function.update_of_ne (Ne.symm same) _ _).trans held

end Bus.Serves

theorem Bus.Follows.serves {kind : ε → EventKind} {id : Nat} {kinds : List EventKind} {bus : Bus ε}
    {published : List ε} {reads : List (Nat × EventItem ε)}
    (follows : Bus.Follows kind id kinds bus published reads) :
    bus.Serves kind id kinds published reads := by
  induction follows with
  | @subscribed bus opened handle =>
    subst handle
    unfold Bus.subscribe
    rw [opened]
    exact ⟨List.mem_append_right _ (List.mem_singleton_self _), Nat.lt_succ_self _, _, _,
      Function.update_self _ _ _, rfl, .new kinds⟩
  | act a follows possible opened kept ih =>
    cases a with
    | subscribe others => simpa [BusAct.run, BusAct.published, BusAct.read] using ih.subscribe others
    | publish event => simpa [BusAct.run, BusAct.published, BusAct.read] using ih.publish event
    | next receiver order => simpa [BusAct.run, BusAct.published] using ih.next possible
    | drop other =>
      have ne : other ≠ id := fun same => kept (by rw [same])
      simpa [BusAct.run, BusAct.published, BusAct.read] using ih.drop ne
    | close => exact absurd rfl opened

/-- Event delivery accounts for every event. -/
theorem delivery_accounts (kind : ε → EventKind) (id : Nat) (kinds : List EventKind) (bus : Bus ε)
    (published : List ε) (reads : List (Nat × EventItem ε))
    (follows : Bus.Follows kind id kinds bus published reads) :
    Accounts kind (asked kind kinds published) reads ∧
      (∀ k, (bus.queue id k).events.length ≤ kindCapacity) ∧
      ∀ event k, k ≠ kind event → (bus.publish kind event).queue id k = bus.queue id k := by
  obtain ⟨-, -, shared, rest, held, -, tracks⟩ := follows.serves
  refine ⟨tracks.accounts, ?_, ?_⟩
  · intro k
    obtain ⟨lost, holds⟩ := tracks.holds k
    rw [Bus.queue, held]
    exact holds.short
  · intro event k other
    simp only [Bus.queue, Bus.publish, held, Option.map_some, Option.elim_some]
    split
    · simp [Shared.push, tracks.opened, Queues.queue, Function.update_of_ne other]
    · rfl

/-! ## A buffer that overflows -/

theorem Bus.Follows.publishAll {kind : ε → EventKind} {id : Nat} {kinds : List EventKind}
    {bus : Bus ε} {published : List ε} {reads : List (Nat × EventItem ε)}
    (follows : Bus.Follows kind id kinds bus published reads) (events : List ε) :
    Bus.Follows kind id kinds (events.foldl (Bus.publish kind) bus) (published ++ events) reads := by
  induction events generalizing bus published with
  | nil => simpa using follows
  | cons event events ih =>
    have first := follows.act (.publish event) trivial (by simp) (by simp)
    simp only [BusAct.read, List.append_nil, BusAct.published] at first
    have all := ih first
    rwa [List.append_assoc] at all

/-- One more event than a buffer holds, for a subscription that asked for them. -/
def sampleBurst : Bus EventKind :=
  (List.replicate (kindCapacity + 1) EventKind.coreStarted).foldl (Bus.publish id)
    (Bus.subscribe {} [.coreStarted])

theorem sampleBurst_possible :
    (BusAct.next (ε := EventKind) 0 [.coreStarted]).Possible sampleBurst := by
  intro shared held
  have same : sampleBurst.held 0 = some shared := held
  refine ⟨List.nodup_singleton _, ?_⟩
  intro kind
  have present : (sampleBurst.held 0).elim true (fun shared =>
      decide (kind ∈ [EventKind.coreStarted]) == (shared.queues.kinds kind).isSome) = true := by
    cases kind <;> decide +kernel
  rw [same] at present
  simp only [Option.elim_some, beq_iff_eq] at present
  exact (decide_eq_true_iff (p := kind ∈ [EventKind.coreStarted])).symm.trans (by rw [present])

theorem delivery_accounts_sample :
    ∃ bus reads, Bus.Follows id 0 [.coreStarted] bus
        (List.replicate (kindCapacity + 1) EventKind.coreStarted) reads ∧
      reads = [(1, .lagged .coreStarted 1)] ∧
      Accounts id (asked id [.coreStarted]
        (List.replicate (kindCapacity + 1) EventKind.coreStarted)) reads := by
  have opened : Bus.Follows id 0 [.coreStarted]
      (Bus.subscribe ({} : Bus EventKind) [.coreStarted]) [] [] := .subscribed rfl rfl
  have burst := opened.publishAll (List.replicate (kindCapacity + 1) .coreStarted)
  have lag := burst.act (.next 0 [.coreStarted]) sampleBurst_possible (by simp) (by simp)
  refine ⟨_, _, lag, ?_, (delivery_accounts _ _ _ _ _ _ lag).1⟩
  decide +kernel

end PpvpnCore
