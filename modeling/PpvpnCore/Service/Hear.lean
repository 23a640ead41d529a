import PpvpnCore.Service.Walk
import Mathlib.Data.List.Induction

/-!
# Watchers hear the end of their session

`fate` reads off the history what became of a watcher; what it was sent is what
its fate says (`Follows`), and its fate is decided by the first note after its
registration that ends it (`fate_registered`).
-/

namespace PpvpnCore.Service

open Lib

variable {host : Host} {ops : List Op} {q : Pool World Unit Answer Reply}

/-! ## The fate of a watcher -/

inductive Fate where
  | unknown
  /-- Registered for the instance `key` of `session`. -/
  | watching (session : SessionRef) (key : Nat)
  | ended (event : Option Event)
  deriving DecidableEq, Repr

/-- How a note ends the watcher `id` of the instance `key`; `none` inside when
its registration is dropped before it is told anything. -/
def Note.ending (id key : Nat) : Note → Option (Option Event)
  | .stopped key' _ reason => if key' = key then some (some (.coreStopped reason)) else none
  | .closed => some (some .stopping)
  | .dropped id' => if id' = id then some none else none
  | _ => none

def Fate.next (id : Nat) : Fate → Note → Fate
  | .unknown, .registered id' session key => if id' = id then .watching session key else .unknown
  | .watching session key, note =>
    match note.ending id key with
    | some event => .ended event
    | none => .watching session key
  | fate, _ => fate

def fate (id : Nat) (log : List Note) : Fate := log.foldl (Fate.next id) .unknown

/-- What the watcher was told. -/
def Fate.events : Fate → List Event
  | .ended (some event) => [event]
  | _ => []

/-- The instance in the slot and its session. -/
def slotAfter (log : List Note) : Option (Nat × SessionRef) :=
  log.foldl (fun slot note => match note with
    | .started _ key session => some (key, session)
    | .stopped _ _ _ => none
    | _ => slot) none

theorem fate_append (id : Nat) (log : List Note) (note : Note) :
    fate id (log ++ [note]) = (fate id log).next id note := by
  simp [fate]

theorem slotAfter_append (log : List Note) (note : Note) : slotAfter (log ++ [note]) =
    match note with
    | .started _ key session => some (key, session)
    | .stopped _ _ _ => none
    | _ => slotAfter log := by
  simp [slotAfter]

theorem fate_unknown {id : Nat} {log : List Note} :
    fate id log = .unknown ↔ ∀ session key, .registered id session key ∉ log := by
  induction log using List.reverseRecOn with
  | nil => simp [fate]
  | append_singleton log note ih =>
    rw [fate_append]
    simp only [List.mem_append, List.mem_singleton, not_or]
    cases known : fate id log with
    | unknown =>
      rw [known] at ih
      have before := ih.mp rfl
      cases note with
      | registered id' session key =>
        by_cases eq : id' = id
        · subst eq
          refine ⟨fun none_ => ?_, fun all => ((all session key).2 rfl).elim⟩
          simp [Fate.next] at none_
        · simp [Fate.next, eq, Ne.symm eq, before]
      | started | stopped | dropped | closed => simpa [Fate.next] using before
    | watching session key =>
      have there : ¬ ∀ session key, .registered id session key ∉ log := by
        rw [← ih, known]
        simp
      have next : (Fate.watching session key).next id note ≠ .unknown := by
        simp only [Fate.next]
        split <;> simp
      exact ⟨fun eq => (next eq).elim, fun all => (there fun session key => (all session key).1).elim⟩
    | ended event =>
      have there : ¬ ∀ session key, .registered id session key ∉ log := by
        rw [← ih, known]
        simp
      exact ⟨nofun, fun all => (there fun session key => (all session key).1).elim⟩

/-- Once registered, the first note that ends the watcher says how. -/
theorem fate_registered {id key : Nat} {session : SessionRef} {before after : List Note}
    (unknown : fate id before = .unknown) :
    (fate id (before ++ .registered id session key :: after)).events =
      match after.findSome? (Note.ending id key) with
      | some (some event) => [event]
      | _ => [] := by
  have ends : ∀ (event : Option Event) (notes : List Note),
      notes.foldl (Fate.next id) (.ended event) = .ended event := by
    intro event notes
    induction notes with
    | nil => rfl
    | cons note notes ih => exact ih
  have goes : ∀ notes : List Note, notes.foldl (Fate.next id) (.watching session key) =
      match notes.findSome? (Note.ending id key) with
      | some event => .ended event
      | none => .watching session key := by
    intro notes
    induction notes with
    | nil => rfl
    | cons note notes ih =>
      rw [List.foldl_cons, List.findSome?_cons, Fate.next]
      cases note.ending id key with
      | none => exact ih
      | some event => exact ends event notes
  have first : (Fate.unknown).next id (.registered id session key) = .watching session key := by
    simp [Fate.next]
  rw [fate, List.foldl_append, List.foldl_cons]
  rw [fate] at unknown
  rw [unknown, first, goes]
  cases after.findSome? (Note.ending id key) with
  | none => rfl
  | some event => cases event <;> rfl

/-! ## The hub -/

theorem filter_id {watchers : List Watcher} {watcher : Watcher}
    (nodup : (watchers.map (·.id)).Nodup) (mem : watcher ∈ watchers) :
    watchers.filter (·.id = watcher.id) = [watcher] := by
  induction watchers with
  | nil => cases mem
  | cons first watchers ih =>
    rw [List.map_cons, List.nodup_cons] at nodup
    rcases List.mem_cons.mp mem with rfl | later
    · rw [List.filter_cons_of_pos (by simp), List.cons.injEq, List.filter_eq_nil_iff]
      refine ⟨rfl, fun other there eq => nodup.1 (List.mem_map.mpr ⟨other, there, ?_⟩)⟩
      simpa using eq
    · have ne : first.id ≠ watcher.id := fun eq => nodup.1 (List.mem_map.mpr ⟨watcher, later, eq.symm⟩)
      rw [List.filter_cons_of_neg (by simpa using ne)]
      exact ih nodup.2 later

/-- With distinct ids, a watcher that is told hears it once, and the others hear
nothing. -/
theorem Hub.Tells.heard {hub hub' : Hub} {who : Watcher → Prop} {event : Event}
    (tells : hub.Tells hub' who event) (nodup : (hub.watchers.map (·.id)).Nodup) (id : Nat) :
    (∀ watcher ∈ hub.watchers, watcher.id = id → who watcher →
      hub'.heard id = hub.heard id ++ [event]) ∧
    ((∀ watcher ∈ hub.watchers, watcher.id = id → ¬ who watcher) → hub'.heard id = hub.heard id) := by
  obtain ⟨told, perm, sent, all, rest, -⟩ := tells
  have ids := (perm.map (·.id)).nodup_iff.mp nodup
  rw [List.map_append, List.nodup_append] at ids
  have more : hub'.heard id = hub.heard id ++ (told.filter (·.id = id)).map fun _ => event := by
    rw [Hub.heard, sent, List.filter_append, List.map_append, Hub.heard]
    rw [List.filter_map, List.map_map]
    rfl
  constructor
  · intro watcher mem eq mine
    have here : watcher ∈ told := by
      rcases List.mem_append.mp (perm.mem_iff.mp mem) with here | left
      · exact here
      · exact (rest watcher left mine).elim
    rw [more, ← eq, filter_id ids.1 here]
    rfl
  · intro none_
    have empty : told.filter (·.id = id) = [] := by
      rw [List.filter_eq_nil_iff]
      intro watcher mem eq
      exact none_ watcher (perm.mem_iff.mpr (List.mem_append_left _ mem)) (by simpa using eq) (all watcher mem)
    rw [more, empty]
    simp

/-! ## Every state -/

/-- A watcher is registered while its session's instance is in the slot, before
everything is closed. -/
def Lawful (log : List Note) : Prop :=
  ∀ before id session key after, log = before ++ .registered id session key :: after →
    .closed ∉ before ∧ slotAfter before = some (key, session) ∧ fate id before = .unknown

theorem Lawful.append {log : List Note} {note : Note} (lawful : Lawful log)
    (last : ∀ id session key, note = .registered id session key →
      .closed ∉ log ∧ slotAfter log = some (key, session) ∧ fate id log = .unknown) :
    Lawful (log ++ [note]) := by
  intro before id session key after split
  rcases List.eq_nil_or_concat after with rfl | ⟨init, end_, rfl⟩
  · obtain ⟨rfl, eq⟩ := List.append_inj' split rfl
    exact last id session key (List.cons.inj eq).1
  · rw [List.concat_eq_append, ← List.cons_append, ← List.append_assoc] at split
    obtain ⟨eq, -⟩ := List.append_inj' split rfl
    exact lawful before id session key init eq

/-- The watchers are as the history says. -/
structure Follows (w : World) : Prop where
  closed : w.hub.closed = true ↔ .closed ∈ w.log
  slot : slotAfter w.log = w.state.map fun core => (core.key, core.session)
  ids : (w.hub.watchers.map (·.id)).Nodup
  fresh : ∀ id, w.hub.nextId < id → fate id w.log = .unknown
  watches : ∀ watcher ∈ w.hub.watchers, ∃ key, fate watcher.id w.log = .watching watcher.session key
  watched : ∀ id session key, fate id w.log = .watching session key →
    ⟨id, session⟩ ∈ w.hub.watchers ∧ slotAfter w.log = some (key, session)
  heard : ∀ id, w.hub.heard id = (fate id w.log).events
  lawful : Lawful w.log

/-- A note that ends no watcher and registers none. -/
theorem fate_other {id : Nat} {log : List Note} {note : Note}
    (register : ∀ session key, note ≠ .registered id session key)
    (ending : ∀ session key, fate id log = .watching session key → note.ending id key = none) :
    fate id (log ++ [note]) = fate id log := by
  rw [fate_append]
  cases known : fate id log with
  | unknown =>
    cases note with
    | registered id' session key =>
      have ne : id' ≠ id := fun eq => register session key (by rw [eq])
      simp [Fate.next, ne]
    | started | stopped | dropped | closed => rfl
  | watching session key => simp [Fate.next, ending session key known]
  | ended event => rfl

/-- Every watcher is told and is a watcher no more. -/
theorem Follows.ends {s t : World} {note : Note} {event : Event} {who : Watcher → Prop}
    (follows : Follows s) (tells : s.hub.Tells t.hub who event)
    (all : ∀ watcher ∈ s.hub.watchers, who watcher) (log : t.log = s.log ++ [note])
    (ending : ∀ id session key, fate id s.log = .watching session key →
      note.ending id key = some (some event))
    (register : ∀ id session key, note ≠ .registered id session key)
    (closed : t.hub.closed = true ↔ .closed ∈ t.log)
    (slot : slotAfter t.log = t.state.map fun core => (core.key, core.session)) : Follows t := by
  obtain ⟨told, perm, -, -, rest, nextId⟩ := id tells
  have empty : t.hub.watchers = [] := by
    rw [List.eq_nil_iff_forall_not_mem]
    intro watcher mem
    exact rest watcher mem (all watcher (perm.mem_iff.mpr (List.mem_append_right _ mem)))
  have fates : ∀ id, fate id t.log = match fate id s.log with
      | .watching _ _ => .ended (some event)
      | known => known := by
    intro id
    rw [log, fate_append]
    cases known : fate id s.log with
    | unknown =>
      cases note with
      | registered id' session key => exact (register id' session key rfl).elim
      | started | stopped | dropped | closed => rfl
    | watching session key => simp [Fate.next, ending id session key known]
    | ended event => rfl
  refine ⟨closed, slot, by simp [empty], fun id later => ?_, by simp [empty], fun id session key now => ?_,
    fun id => ?_, ?_⟩
  · rw [fates, follows.fresh id (nextId ▸ later)]
  · rw [fates] at now
    split at now
    · cases now
    next other => exact (other session key now).elim
  · obtain ⟨hears, deaf⟩ := tells.heard follows.ids id
    rw [fates]
    cases known : fate id s.log with
    | watching session key =>
      have mem := (follows.watched id session key known).1
      rw [hears _ mem rfl (all _ mem), follows.heard, known]
      rfl
    | unknown | ended =>
      rw [deaf, follows.heard, known]
      intro watcher mem eq _
      obtain ⟨key, watching⟩ := follows.watches watcher mem
      rw [eq, known] at watching
      cases watching
  · rw [log]
    exact follows.lawful.append fun id session key eq => (register id session key eq).elim

/-- A registration is dropped. -/
theorem Follows.dropped {s t : World} {id : Nat} (follows : Follows s) (hub : t.hub = s.hub.drop id)
    (log : t.log = s.log ++ [.dropped id]) (state : t.state = s.state) : Follows t := by
  obtain ⟨nextId, closed, sent⟩ := s.hub.drop_frame id
  obtain ⟨gone, perm, all, rest⟩ := s.hub.drop_perm id
  have others : ∀ id', id' ≠ id → fate id' t.log = fate id' s.log := by
    intro id' ne
    rw [log]
    exact fate_other nofun fun _ _ _ => by simp [Note.ending, ne.symm]
  have own : fate id t.log = match fate id s.log with
      | .watching _ _ => .ended none
      | known => known := by
    rw [log, fate_append]
    cases fate id s.log with
    | unknown => rfl
    | watching session key => simp [Fate.next, Note.ending]
    | ended event => rfl
  have before : ∀ watcher ∈ t.hub.watchers, watcher ∈ s.hub.watchers ∧ watcher.id ≠ id := by
    intro watcher mem
    rw [hub] at mem
    exact ⟨perm.mem_iff.mpr (List.mem_append_right _ mem), rest follows.ids watcher mem⟩
  refine ⟨?_, ?_, ?_, fun id' later => ?_, fun watcher mem => ?_, fun id' session key watching => ?_,
    fun id' => ?_, ?_⟩
  · rw [hub, log, closed]
    simp [follows.closed]
  · rw [log, slotAfter_append, state]
    exact follows.slot
  · have nodup := (perm.map (·.id)).nodup_iff.mp follows.ids
    rw [List.map_append] at nodup
    rw [hub]
    exact (List.nodup_append.mp nodup).2.1
  · rw [hub, nextId] at later
    by_cases eq : id' = id
    · rw [eq, own, ← eq, follows.fresh id' later]
    · rw [others id' eq, follows.fresh id' later]
  · obtain ⟨there, ne⟩ := before watcher mem
    rw [others watcher.id ne]
    exact follows.watches watcher there
  · have ne : id' ≠ id := by
      rintro rfl
      rw [own] at watching
      split at watching
      · cases watching
      next other => exact other session key watching
    rw [others id' ne] at watching
    obtain ⟨mem, slot⟩ := follows.watched id' session key watching
    refine ⟨?_, by rw [log, slotAfter_append]; exact slot⟩
    rcases List.mem_append.mp (perm.mem_iff.mp mem) with left | still
    · exact (ne (all _ left)).elim
    · rw [hub]
      exact still
  · have same : t.hub.heard id' = s.hub.heard id' := by rw [hub, Hub.heard, sent, Hub.heard]
    rw [same, follows.heard]
    by_cases eq : id' = id
    · subst eq
      rw [own]
      cases fate id' s.log <;> rfl
    · rw [others id' eq]
  · rw [log]
    exact follows.lawful.append nofun

/-- A watcher is registered for the instance in the slot. -/
theorem Follows.registered {s t : World} {core : RunningCore} (follows : Follows s)
    (here : s.state = some core) (open_ : s.hub.closed = false)
    (hub : t.hub = { s.hub with
      nextId := s.hub.nextId + 1
      watchers := s.hub.watchers ++ [⟨s.hub.nextId + 1, core.session⟩] })
    (log : t.log = s.log ++ [.registered (s.hub.nextId + 1) core.session core.key])
    (state : t.state = s.state) : Follows t := by
  have unknown := follows.fresh (s.hub.nextId + 1) (Nat.lt_succ_self _)
  have slot : slotAfter s.log = some (core.key, core.session) := by rw [follows.slot, here]; rfl
  have own : fate (s.hub.nextId + 1) t.log = .watching core.session core.key := by
    rw [log, fate_append, unknown]
    simp [Fate.next]
  have others : ∀ id, id ≠ s.hub.nextId + 1 → fate id t.log = fate id s.log := by
    intro id ne
    rw [log]
    refine fate_other (fun session key eq => ?_) fun _ _ _ => rfl
    cases eq
    exact ne rfl
  have older : ∀ watcher ∈ s.hub.watchers, watcher.id ≠ s.hub.nextId + 1 := by
    intro watcher mem eq
    obtain ⟨key, watching⟩ := follows.watches watcher mem
    rw [eq, unknown] at watching
    cases watching
  refine ⟨?_, ?_, ?_, fun id later => ?_, fun watcher mem => ?_, fun id session key watching => ?_,
    fun id => ?_, ?_⟩
  · rw [hub, log]
    simp [follows.closed]
  · rw [log, slotAfter_append, state]
    exact follows.slot
  · rw [hub, List.map_append, List.nodup_append]
    refine ⟨follows.ids, by simp, fun id mem id' new => ?_⟩
    obtain ⟨watcher, there, rfl⟩ := List.mem_map.mp mem
    simp only [List.map_cons, List.map_nil, List.mem_singleton] at new
    rw [new]
    exact older watcher there
  · rw [hub] at later
    have later : s.hub.nextId + 1 < id := later
    rw [others id (by omega)]
    exact follows.fresh id (by omega)
  · rw [hub] at mem
    rcases List.mem_append.mp mem with there | new
    · rw [others watcher.id (older watcher there)]
      exact follows.watches watcher there
    · cases List.mem_singleton.mp new
      exact ⟨core.key, own⟩
  · rw [log, slotAfter_append, hub]
    by_cases eq : id = s.hub.nextId + 1
    · subst eq
      rw [own] at watching
      cases watching
      exact ⟨by simp, slot⟩
    · rw [others id eq] at watching
      obtain ⟨mem, slot⟩ := follows.watched id session key watching
      exact ⟨List.mem_append_left _ mem, slot⟩
  · have same : t.hub.heard id = s.hub.heard id := by rw [hub]; rfl
    rw [same, follows.heard]
    by_cases eq : id = s.hub.nextId + 1
    · rw [eq, own, unknown]
      rfl
    · rw [others id eq]
  · rw [log]
    refine follows.lawful.append fun id session key eq => ?_
    cases eq
    refine ⟨fun closed => ?_, slot, unknown⟩
    rw [follows.closed.mpr closed] at open_
    cases open_

/-- An instance starts in the empty slot: nobody watches. -/
theorem Follows.started {s t : World} {core : RunningCore} {id : Nat} (follows : Follows s)
    (empty : s.state = none) (here : t.state = some core) (hub : t.hub = s.hub)
    (log : t.log = s.log ++ [.started id core.key core.session]) : Follows t := by
  have same : ∀ id, fate id t.log = fate id s.log := by
    intro id
    rw [log]
    exact fate_other nofun fun _ _ _ => rfl
  have nobody : ∀ id session key, fate id s.log ≠ .watching session key := by
    intro id session key watching
    have slot := (follows.watched id session key watching).2
    rw [follows.slot, empty] at slot
    cases slot
  refine ⟨?_, ?_, hub ▸ follows.ids, fun id later => ?_, fun watcher mem => ?_,
    fun id session key watching => ?_, fun id => ?_, ?_⟩
  · rw [hub, log]
    simp [follows.closed]
  · rw [log, slotAfter_append, here]
    rfl
  · rw [same]
    exact follows.fresh id (hub ▸ later)
  · rw [same]
    exact follows.watches watcher (hub ▸ mem)
  · rw [same] at watching
    exact (nobody id session key watching).elim
  · rw [same, hub]
    exact follows.heard id
  · rw [log]
    exact follows.lawful.append nofun

theorem Told.follows {s t : World} (told : Told s t) (follows : Follows s) : Follows t := by
  cases told with
  | quiet hub log launched slot =>
    refine ⟨?_, ?_, ?_, ?_, ?_, ?_, ?_, ?_⟩ <;> simp only [hub, log, slot]
    · exact follows.closed
    · exact follows.slot
    · exact follows.ids
    · exact follows.fresh
    · exact follows.watches
    · exact follows.watched
    · exact follows.heard
    · exact follows.lawful
  | closed hub log launched state =>
    refine follows.ends (hub ▸ s.hub.closeAll_tells) (fun _ _ => trivial) log (fun _ _ _ _ => rfl)
      (by simp) ?_ ?_
    · rw [hub, log]
      simp [Hub.closeAll]
    · rw [log, slotAfter_append, state]
      exact follows.slot
  | dropped id hub log launched state => exact follows.dropped hub log state
  | stopped core reason here hub log launched empty =>
    -- Whoever watches watches the instance that stops.
    have slot : slotAfter s.log = some (core.key, core.session) := by rw [follows.slot, here]; rfl
    have mine : ∀ id session key, fate id s.log = .watching session key →
        key = core.key ∧ session = core.session := by
      intro id session key watching
      have now := (follows.watched id session key watching).2
      rw [slot] at now
      cases now
      exact ⟨rfl, rfl⟩
    refine follows.ends (hub ▸ s.hub.coreStopped_tells core.session reason) (fun watcher mem => ?_) log
      (fun id session key watching => ?_) (by simp) ?_ ?_
    · obtain ⟨key, watching⟩ := follows.watches watcher mem
      exact (mine watcher.id watcher.session key watching).2
    · simp [Note.ending, (mine id session key watching).1]
    · rw [hub, log, Hub.coreStopped_closed]
      simp [follows.closed]
    · rw [log, slotAfter_append, empty]
      rfl
  | registered core here open_ hub log launched state => exact follows.registered here open_ hub log state
  | started core empty here hub log launched => exact follows.started empty here hub log

/-- A watcher is registered only while its session's instance is the current one
and nothing is closed, under an id of its own; it hears what the first note that
ends it says, and that once: why its instance stopped, or that the service stops.
Who was never registered hears nothing. -/
theorem watcher_hears (served : Served host ops q) :
    (∀ before id session key after,
      q.state.log = before ++ .registered id session key :: after →
      .closed ∉ before ∧ slotAfter before = some (key, session) ∧
      (∀ session' key', .registered id session' key' ∉ before ++ after) ∧
      q.state.hub.heard id = match after.findSome? (Note.ending id key) with
        | some (some event) => [event]
        | _ => []) ∧
    (∀ id, (∀ session key, .registered id session key ∉ q.state.log) → q.state.hub.heard id = []) ∧
    (∀ id, (q.state.hub.heard id).length ≤ 1) ∧
    slotAfter q.state.log = q.state.state.map fun core => (core.key, core.session) := by
  have follows : Follows q.state := by
    refine served.invariant ?_ fun step => step.told.follows
    exact ⟨by simp, rfl, List.nodup_nil, fun _ _ => rfl, nofun, nofun, fun _ => rfl, by
      intro before id session key after split
      simp at split⟩
  refine ⟨fun before id session key after split => ?_, fun id never => ?_, fun id => ?_,
    follows.slot⟩
  · obtain ⟨open_, slot, unknown⟩ := follows.lawful before id session key after split
    refine ⟨open_, slot, fun session' key' mem => ?_, ?_⟩
    · rcases List.mem_append.mp mem with earlier | later
      · exact fate_unknown.mp unknown session' key' earlier
      · obtain ⟨between, rest, rfl⟩ := List.append_of_mem later
        have again := follows.lawful (before ++ .registered id session key :: between) id session' key'
          rest (by rw [split]; simp)
        exact fate_unknown.mp again.2.2 session key (by simp)
    · rw [follows.heard, split]
      exact fate_registered unknown
  · rw [follows.heard, fate_unknown.mpr never]
    rfl
  · rw [follows.heard]
    cases fate id q.state.log with
    | unknown | watching => exact Nat.zero_le _
    | ended event => cases event <;> simp [Fate.events]

/-- Two watch a session; the first goes away, then another session takes over. -/
def sampleWatched : Pool World Unit Answer Reply :=
  samplePlay [sampleConnect "a" false, .watch (some "anna") ⟨"a", 1⟩, .watch (some "anna") ⟨"a", 1⟩,
      sampleConnect "b" true]
    (sampleTurn 0 20 ++ sampleTurn 1 20 ++ sampleTurn 2 5 ++ sampleTurn 3 20)

theorem watcher_hears_takenOver :
    sampleWatched.state.log = [.started 1 0 ⟨"a", 1⟩, .registered 1 ⟨"a", 1⟩ 0, .dropped 1,
        .registered 2 ⟨"a", 1⟩ 0, .stopped 0 ⟨"a", 1⟩ takenOver, .started 2 1 ⟨"b", 1⟩] ∧
      sampleWatched.state.hub.heard 1 = [] ∧
      sampleWatched.state.hub.heard 2 = [.coreStopped takenOver] := by
  have hears := (watcher_hears (q := sampleWatched) (samplePlay_served _ _)).1
  have log : sampleWatched.state.log = [.started 1 0 ⟨"a", 1⟩, .registered 1 ⟨"a", 1⟩ 0, .dropped 1,
      .registered 2 ⟨"a", 1⟩ 0, .stopped 0 ⟨"a", 1⟩ takenOver, .started 2 1 ⟨"b", 1⟩] := by
    decide +kernel
  refine ⟨log, ?_, ?_⟩
  · exact (hears [.started 1 0 ⟨"a", 1⟩] 1 ⟨"a", 1⟩ 0 _ log).2.2.2
  · exact (hears [.started 1 0 ⟨"a", 1⟩, .registered 1 ⟨"a", 1⟩ 0, .dropped 1] 2 ⟨"a", 1⟩ 0 _ log).2.2.2

end PpvpnCore.Service
