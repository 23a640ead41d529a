import PpvpnCore.Service.Protocol
import Mathlib.Data.List.Perm.Basic

/-!
# Watch connections

Who is told when a session's core stopped or the service shuts down
(`service/src/watch.rs`). `sent` is what every watcher's channel was given, in
order. The writers' own time, the closers and the wait for them are left out.
-/

namespace PpvpnCore.Service

/-- What a watch connection is told; each ends the connection. -/
inductive Event where
  /-- The service is shutting down (its core stops next). -/
  | stopping
  /-- The session's core stopped, with the reason. -/
  | coreStopped (reason : String)
  deriving DecidableEq, Repr

structure Watcher where
  id : Nat
  session : SessionRef
  deriving DecidableEq, Repr

structure Hub where
  nextId : Nat := 0
  /-- Set by `closeAll`: no new watchers from then on. -/
  closed : Bool := false
  watchers : List Watcher := []
  /-- History: the events sent, each with its watcher's id. -/
  sent : List (Nat × Event) := []
  deriving DecidableEq, Repr

/-- Watch connections open at once. -/
def maxWatchers : Nat := 32

def serviceStopping : String := "SERVICE_STOPPING"

/-- Rust's `Vec::swap_remove`: the last takes the place of the removed. -/
def swapRemove {α : Type} (l : List α) (index : Nat) : List α :=
  match l[l.length - 1]? with
  | some last => (l.set index last).take (l.length - 1)
  | none => l

namespace Hub

/-- A watcher for `session`. Refused once the service is stopping or when too
many are open. -/
def register (hub : Hub) (session : SessionRef) : Except String Nat × Hub :=
  if hub.closed then (.error serviceStopping, hub)
  else if maxWatchers ≤ hub.watchers.length then (.error "WATCH_LIMIT_REACHED", hub)
  else
    (.ok (hub.nextId + 1),
      { hub with nextId := hub.nextId + 1, watchers := hub.watchers ++ [⟨hub.nextId + 1, session⟩] })

/-- The scan from `index`, with `n` watchers left to look at. -/
def scan (session : SessionRef) (reason : String) : (n index : Nat) → Hub → Hub
  | 0, _, hub => hub
  | n + 1, index, hub =>
    match hub.watchers[index]? with
    | none => hub
    | some watcher =>
      if watcher.session = session then
        scan session reason n index
          { hub with
            watchers := swapRemove hub.watchers index
            sent := hub.sent ++ [(watcher.id, .coreStopped reason)] }
      else scan session reason n (index + 1) hub

/-- `session`'s core stopped: its watchers are told why and are watchers no
more. -/
def coreStopped (hub : Hub) (session : SessionRef) (reason : String) : Hub :=
  scan session reason hub.watchers.length 0 hub

/-- The service is stopping: every watcher is told so. -/
def closeAll (hub : Hub) : Hub :=
  { hub with
    closed := true
    watchers := []
    sent := hub.sent ++ hub.watchers.map fun watcher => (watcher.id, .stopping) }

/-- A registration is dropped: the writer finished. -/
def drop (hub : Hub) (id : Nat) : Hub :=
  match hub.watchers.findIdx? (·.id = id) with
  | some index => { hub with watchers := swapRemove hub.watchers index }
  | none => hub

/-- What the watcher `id` was told. -/
def heard (hub : Hub) (id : Nat) : List Event :=
  (hub.sent.filter (·.1 = id)).map (·.2)

end Hub

/-! ## Removals -/

/-- The removed one, and the rest in some order. -/
theorem swapRemove_perm {α : Type} {l : List α} {index : Nat} {a : α} (here : l[index]? = some a) :
    l.Perm (a :: swapRemove l index) := by
  rcases List.eq_nil_or_concat l with rfl | ⟨xs, last, rfl⟩
  · cases here
  rw [List.concat_eq_append] at here ⊢
  have whole : swapRemove (xs ++ [last]) index = ((xs ++ [last]).set index last).take xs.length := by
    simp [swapRemove]
  rw [whole]
  rcases Nat.lt_or_ge index xs.length with inside | outside
  · have found : xs[index]? = some a := by rwa [List.getElem?_append_left inside] at here
    rw [List.set_append_left _ _ inside, List.take_append_of_le_length (by simp),
      List.take_of_length_le (by simp), List.set_eq_take_append_cons_drop, if_pos inside]
    have split : xs = xs.take index ++ a :: xs.drop (index + 1) := by
      obtain ⟨_, rfl⟩ := List.getElem?_eq_some_iff.mp found
      simp
    have first : xs.Perm (a :: (xs.take index ++ xs.drop (index + 1))) := by
      conv_lhs => rw [split]
      exact List.perm_middle
    have moved : (xs.take index ++ last :: xs.drop (index + 1)).Perm
        (last :: (xs.take index ++ xs.drop (index + 1))) := List.perm_middle
    have front : (xs ++ [last]).Perm (last :: xs) := List.perm_append_singleton last xs
    exact (front.trans (first.cons last)).trans ((List.Perm.swap _ _ _).trans (moved.symm.cons a))
  · have only : index = xs.length := by
      have := (List.getElem?_eq_some_iff.mp here).1
      simp at this
      omega
    subst only
    have eq : last = a := by simpa using here
    subst eq
    simp

theorem length_swapRemove {α : Type} {l : List α} {index : Nat} {a : α} (here : l[index]? = some a) :
    (swapRemove l index).length + 1 = l.length := by
  simpa using (swapRemove_perm here).length_eq.symm

/-- What stands before the removed one stays where it is. -/
theorem take_swapRemove {α : Type} {l : List α} {index : Nat} {a : α} (here : l[index]? = some a) :
    (swapRemove l index).take index = l.take index := by
  have inside : index < l.length := (List.getElem?_eq_some_iff.mp here).1
  unfold swapRemove
  split
  · rw [List.take_take, List.take_set_of_le (by omega), Nat.min_eq_left (by omega)]
  · rfl

namespace Hub

/-- `event` went to the watchers in `who` alone, which are watchers no more. -/
def Tells (hub hub' : Hub) (who : Watcher → Prop) (event : Event) : Prop :=
  ∃ told, hub.watchers.Perm (told ++ hub'.watchers) ∧
    hub'.sent = hub.sent ++ told.map (fun watcher => (watcher.id, event)) ∧
    (∀ watcher ∈ told, who watcher) ∧ (∀ watcher ∈ hub'.watchers, ¬ who watcher) ∧
    hub'.nextId = hub.nextId

theorem scan_tells {session : SessionRef} {reason : String} {n : Nat} (index : Nat) (hub : Hub)
    (left : index + n = hub.watchers.length)
    (seen : ∀ watcher ∈ hub.watchers.take index, watcher.session ≠ session) :
    hub.Tells (scan session reason n index hub) (·.session = session) (.coreStopped reason) ∧
      (scan session reason n index hub).closed = hub.closed := by
  induction n generalizing index hub with
  | zero =>
    refine ⟨⟨[], by simp [scan], by simp [scan], by simp, ?_, rfl⟩, rfl⟩
    rw [List.take_of_length_le (by omega)] at seen
    exact seen
  | succ n ih =>
    have inside : index < hub.watchers.length := by omega
    have here : hub.watchers[index]? = some hub.watchers[index] := List.getElem?_eq_getElem inside
    rw [scan, here]
    dsimp only
    split
    next mine =>
      have shorter := length_swapRemove here
      obtain ⟨⟨told, perm, sent, all, rest, ids⟩, closed⟩ := ih index
        { hub with
          watchers := swapRemove hub.watchers index
          sent := hub.sent ++ [(hub.watchers[index].id, .coreStopped reason)] }
        (by simp only; omega) (by simpa only [take_swapRemove here] using seen)
      refine ⟨⟨hub.watchers[index] :: told, ?_, ?_, ?_, rest, ids⟩, closed⟩
      · exact (swapRemove_perm here).trans (perm.cons _)
      · rw [sent]
        simp
      · simp only [List.forall_mem_cons]
        exact ⟨mine, all⟩
    next other =>
      refine ih _ _ (by omega) ?_
      rw [List.take_add_one, here]
      simp only [Option.toList_some, List.mem_append, List.mem_singleton]
      rintro watcher (before | rfl)
      · exact seen watcher before
      · exact other

theorem coreStopped_tells (hub : Hub) (session : SessionRef) (reason : String) :
    hub.Tells (hub.coreStopped session reason) (·.session = session) (.coreStopped reason) :=
  (scan_tells _ _ (by omega) (by simp)).1

theorem coreStopped_closed (hub : Hub) (session : SessionRef) (reason : String) :
    (hub.coreStopped session reason).closed = hub.closed :=
  (scan_tells _ _ (by omega) (by simp)).2

theorem closeAll_tells (hub : Hub) : hub.Tells hub.closeAll (fun _ => True) .stopping :=
  ⟨hub.watchers, by simp [closeAll], rfl, by simp, by simp [closeAll], rfl⟩

/-- A dropped registration is a watcher no more; the others are. -/
theorem drop_perm (hub : Hub) (id : Nat) :
    ∃ gone, hub.watchers.Perm (gone ++ (hub.drop id).watchers) ∧
      (∀ watcher ∈ gone, watcher.id = id) ∧
      ((hub.watchers.map (·.id)).Nodup → ∀ watcher ∈ (hub.drop id).watchers, watcher.id ≠ id) := by
  unfold drop
  split
  next index found =>
    obtain ⟨inside, mine, -⟩ := List.findIdx?_eq_some_iff_getElem.mp found
    have perm := swapRemove_perm (List.getElem?_eq_getElem inside)
    refine ⟨[hub.watchers[index]], perm, by simpa using mine, fun nodup watcher mem eq => ?_⟩
    have apart := (perm.map (·.id)).nodup_iff.mp nodup
    rw [List.map_cons, List.nodup_cons] at apart
    refine apart.1 (List.mem_map.mpr ⟨watcher, mem, ?_⟩)
    rw [eq]
    exact (of_decide_eq_true mine).symm
  next none_ =>
    refine ⟨[], .refl _, by simp, fun _ watcher mem eq => ?_⟩
    have absent := List.findIdx?_eq_none_iff.mp none_ watcher mem
    simp [eq] at absent

theorem drop_frame (hub : Hub) (id : Nat) : (hub.drop id).nextId = hub.nextId ∧
    (hub.drop id).closed = hub.closed ∧ (hub.drop id).sent = hub.sent := by
  unfold drop
  split <;> exact ⟨rfl, rfl, rfl⟩

end Hub

end PpvpnCore.Service
