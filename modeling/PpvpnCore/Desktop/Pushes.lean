import PpvpnCore.Desktop.PushAgent

/-!
# No push is skipped

Whatever the system accepts, whatever fails and whenever the agent dies, every
id at or below the persisted cursor was accepted or has expired; no id that was
accepted is offered again before the agent is started anew or finds another agent
file; and what was received is accepted, expired or pending.

* `Past`: what happened, beside the files.
* `Knows`: what the memory of a session has of it.
* `tick_spec`: a tick keeps both; `pushes_kept`: so do lives of an agent.
-/

namespace PpvpnCore.Desktop.PushAgent

open Lib

/-! ## What happened -/

structure Past where
  /-- The agent file found at the last look. -/
  file : Option AgentFile := none
  /-- Device and id. -/
  accepted : List (Nat × Nat) := []
  /-- Device, id and when it expires, as the agent reckons. -/
  refused : List (Nat × Nat × Nat) := []
  /-- Accepted since the agent found the file it has. -/
  held : List Nat := []
  /-- Received since the agent found the file it has. -/
  received : List Nat := []
  /-- Something held was offered again. -/
  twice : Bool := false
  deriving DecidableEq, Repr

/-- An agent started anew has found no file. -/
def Past.restarted (past : Past) : Past := { past with file := none, held := [], received := [] }

def note : Place → Disk → Disk → Past → Past
  | .readAgent, _, s, past =>
    if past.file = s.agent then past
    else { past with file := s.agent, held := [], received := [] }
  | _, _, _, past => past

section

variable [PushText]

def Past.offered (past : Past) (file : AgentFile) (message : PushMessage) (shown : Bool)
    (now : Nat) : Past :=
  let twice := past.twice || decide (message.id ∈ past.held)
  if shown then
    { past with
      accepted := (file.deviceId, message.id) :: past.accepted
      held := message.id :: past.held
      twice }
  else
    { past with
      refused := (file.deviceId, message.id, expiresAt message.createdAt now) :: past.refused
      twice }

def hear : (c : Call) → Answer c → Disk → Past → Past
  | .onPush file message, shown, s, past => past.offered file message shown s.now
  | .pull _ _, .ok response, _, past =>
    { past with received := response.items.map (·.id) ++ past.received }
  | _, _, _, past => past

end

/-! ## The server -/

variable (expiry : Nat → Nat → Nat)

/-- An answer to a pull after an id: only later ids, and every live one up to
the cursor. -/
structure Covers (expiry : Nat → Nat) (after now : Nat) (response : PullResponse) : Prop where
  later : ∀ item ∈ response.items, after < item.id
  cursor : ∀ id, after < id → id ≤ response.cursor → now < expiry id →
    id ∈ response.items.map (·.id)

/-- It also has every live id up to each of its own. -/
structure Complete (expiry : Nat → Nat) (after now : Nat) (response : PullResponse) : Prop
    extends Covers expiry after now response where
  items : ∀ item ∈ response.items, ∀ id, after < id → id ≤ item.id → now < expiry id →
    id ∈ response.items.map (·.id)

def Given (answered : (Nat → Nat) → Nat → Nat → PullResponse → Prop) :
    (c : Call) → Answer c → Disk → Prop
  | .pull file after, .ok response, s => answered (expiry file.deviceId) after s.now response
  | _, _, _ => True

/-- The app writes and removes files, time goes on. -/
def Moves (s t : Disk × Past) : Prop :=
  t.2 = s.2 ∧ s.1.now ≤ t.1.now ∧ (t.1.cursor = s.1.cursor ∨ t.1.cursor = none)

/-- Accepted on the device, or past its expiry, as the server or as the agent
reckons it. -/
def Done (s : Disk × Past) (device id : Nat) : Prop :=
  (device, id) ∈ s.2.accepted ∨ expiry device id ≤ s.1.now ∨
    ∃ deadline, (device, id, deadline) ∈ s.2.refused ∧ deadline ≤ s.1.now

/-- Nothing at or below the persisted cursor was skipped, and nothing was
offered again. -/
structure Good (s : Disk × Past) : Prop where
  whole : ∀ file, s.1.cursor = some file → ∀ id, 1 ≤ id → id ≤ file.cursor →
    Done expiry s file.deviceId id
  once : s.2.twice = false

theorem Moves.refl (s : Disk × Past) : Moves s s := ⟨rfl, Nat.le_refl _, .inl rfl⟩

theorem Moves.trans {s t u : Disk × Past} (first : Moves s t) (second : Moves t u) : Moves s u := by
  refine ⟨second.1.trans first.1, Nat.le_trans first.2.1 second.2.1, ?_⟩
  rcases second.2.2 with same | gone
  · exact same ▸ first.2.2
  · exact .inr gone

section

variable [PushText]

/-- The world of an agent whose server answers pulls as `answered` says. -/
def world (answered : (Nat → Nat) → Nat → Nat → PullResponse → Prop) : Env (Disk × Past) Answer where
  effect := beside effect hear
  answers c r s := Given expiry answered c r s.1
  moves := Moves
  refl := Moves.refl
  trans := Moves.trans
  alone := True
  allowed _ _ := True
  good := Good expiry

/-- A task, and what happens beside it. -/
def watch {α : Type} (task : Task α) : Prog (Disk × Past) Place Answer α := task.noted id note

end

/-! ## What lasts -/

variable {expiry} {s t u : Disk × Past} {device id : Nat}

/-- Time went on, nothing was forgotten. -/
structure Later (s t : Disk × Past) : Prop where
  time : s.1.now ≤ t.1.now
  accepted : ∀ x ∈ s.2.accepted, x ∈ t.2.accepted
  refused : ∀ x ∈ s.2.refused, x ∈ t.2.refused

theorem Later.refl : Later s s := ⟨Nat.le_refl _, fun _ => id, fun _ => id⟩

theorem Later.trans (first : Later s t) (second : Later t u) : Later s u :=
  ⟨Nat.le_trans first.time second.time, fun x mem => second.accepted x (first.accepted x mem),
    fun x mem => second.refused x (first.refused x mem)⟩

/-- Time went on, nothing else happened. -/
structure Idle (s t : Disk × Past) : Prop where
  past : t.2 = s.2
  time : s.1.now ≤ t.1.now

theorem Moves.idle (moved : Moves s t) : Idle s t := ⟨moved.1, moved.2.1⟩

theorem Idle.trans (first : Idle s t) (second : Idle t u) : Idle s u :=
  ⟨second.past.trans first.past, Nat.le_trans first.time second.time⟩

theorem Idle.later (idle : Idle s t) : Later s t := by
  obtain ⟨same, time⟩ := idle
  exact ⟨time, by rw [same]; exact fun _ => id, by rw [same]; exact fun _ => id⟩

theorem Done.later (done : Done expiry s device id) (later : Later s t) :
    Done expiry t device id := by
  rcases done with here | server | ⟨deadline, mem, due⟩
  · exact .inl (later.accepted _ here)
  · exact .inr (.inl (Nat.le_trans server later.time))
  · exact .inr (.inr ⟨deadline, later.refused _ mem, Nat.le_trans due later.time⟩)

theorem Good.later (good : Good expiry s) (later : Later s t)
    (cursor : t.1.cursor = s.1.cursor ∨ t.1.cursor = none) (once : t.2.twice = false) :
    Good expiry t := by
  refine ⟨?_, once⟩
  intro file found id pos below
  rcases cursor with kept | gone
  · exact (good.whole file (kept ▸ found) id pos below).later later
  · rw [gone] at found
    cases found

theorem Good.moved (good : Good expiry s) (moved : Moves s t) : Good expiry t :=
  good.later moved.idle.later moved.2.2 (by rw [moved.1]; exact good.once)

/-! ## What a session knows -/

/-- Not shown yet: neither held, and refused no later than the deadline says. -/
structure Pending.Stands (s : Disk × Past) (device : Nat) (p : Pending) : Prop where
  fresh : p.message.id ∉ s.2.held
  refused : ∃ deadline, (device, p.message.id, deadline) ∈ s.2.refused ∧ deadline ≤ p.expiresAt

def Session.Waits (session : Session) (id : Nat) : Prop := id ∈ session.pending.map (·.message.id)

/-- A session whose memory goes up to `bound`. -/
structure Session.Knows (expiry : Nat → Nat → Nat) (s : Disk × Past) (session : Session)
    (bound : Nat) : Prop where
  file : s.2.file = some session.file
  start : session.startCursor ≤ bound
  acked : session.ackedMax ≤ bound
  pending : ∀ p ∈ session.pending, p.Stands s session.file.deviceId
  distinct : (session.pending.map (·.message.id)).Nodup
  done : ∀ id, 1 ≤ id → id ≤ bound → Done expiry s session.file.deviceId id ∨ session.Waits id

theorem Pending.Stands.idle {p : Pending} (stands : p.Stands s device) (idle : Idle s t) :
    p.Stands t device := by
  obtain ⟨fresh, deadline, mem, due⟩ := stands
  rw [← idle.past] at fresh mem
  exact ⟨fresh, deadline, mem, due⟩

variable {session : Session} {bound : Nat}

theorem Session.Knows.idle (knows : session.Knows expiry s bound) (idle : Idle s t) :
    session.Knows expiry t bound where
  file := by rw [idle.past]; exact knows.file
  start := knows.start
  acked := knows.acked
  pending := fun p mem => (knows.pending p mem).idle idle
  distinct := knows.distinct
  done := fun id pos below => (knows.done id pos below).imp_left (·.later idle.later)

/-- A session between two steps: its memory goes up to its cursor. -/
structure Session.Rests (expiry : Nat → Nat → Nat) (s : Disk × Past) (session : Session) : Prop where
  knows : session.Knows expiry s session.cursor
  unacked : ∀ id ∈ session.unacked, id ≤ session.cursor
  waits : ∀ id, session.Waits id → id ≤ session.cursor
  held : ∀ id ∈ s.2.held, id ≤ session.cursor
  received : ∀ id ∈ s.2.received, id ≤ session.cursor

theorem Session.Rests.idle (rests : session.Rests expiry s) (idle : Idle s t) :
    session.Rests expiry t :=
  ⟨rests.knows.idle idle, rests.unacked, rests.waits, by rw [idle.past]; exact rests.held,
    by rw [idle.past]; exact rests.received⟩

theorem Session.Rests.mark (rests : session.Rests expiry s) (nextRetry : Nat) (revoked : Bool) :
    Session.Rests expiry s { session with nextRetry, revoked } :=
  ⟨⟨rests.knows.file, rests.knows.start, rests.knows.acked, rests.knows.pending,
    rests.knows.distinct, rests.knows.done⟩, rests.unacked, rests.waits, rests.held, rests.received⟩

/-- The persisted cursor of a session at rest skips nothing. -/
theorem Session.Rests.safe (rests : session.Rests expiry s) {id : Nat} (pos : 1 ≤ id)
    (below : id ≤ safeCursor (session.pending.map (·.message.id) ++ session.unacked)
      session.ackedMax session.startCursor) : Done expiry s session.file.deviceId id := by
  have known := rests.knows.done id pos
  rw [safeCursor] at below
  cases low : (session.pending.map (·.message.id) ++ session.unacked).min? with
  | none =>
    rw [low] at below
    have start := rests.knows.start
    have acked := rests.knows.acked
    rcases known (by simp only at below; omega) with done | waits
    · exact done
    · rw [List.min?_eq_none_iff, List.append_eq_nil_iff] at low
      rw [Session.Waits, low.1] at waits
      cases waits
  | some lowest =>
    rw [low] at below
    obtain ⟨among, least⟩ := List.min?_eq_some_iff.1 low
    simp only at below
    have under : lowest ≤ session.cursor := by
      rcases List.mem_append.1 among with mem | mem
      · exact rests.waits lowest mem
      · exact rests.unacked lowest mem
    rcases known (by omega) with done | waits
    · exact done
    · have above := least id (List.mem_append_left _ waits)
      omega

/-! ## Steps -/

section

variable [PushText] {answered : (Nat → Nat) → Nat → Nat → PullResponse → Prop}
variable {α : Type} {Q : α → Disk × Past → Prop}

theorem wp_get {place : Place} {k : Disk → Task α} (plain : place ≠ .readAgent)
    (rest : ∀ t, Moves s t → Good expiry t → wp (world expiry answered) (watch (k t.1)) Q t) :
    wp (world expiry answered) (watch ((Prog.get place).bind k)) Q s := by
  intro t moved good
  have same : (t.1, note place t.1 t.1 t.2) = t := by
    cases place <;> first | rfl | exact absurd rfl plain
  change Good expiry (t.1, note place t.1 t.1 t.2) ∧
    wp (world expiry answered) (watch (k t.1)) Q (t.1, note place t.1 t.1 t.2)
  rw [same]
  exact ⟨good, rest t moved good⟩

theorem wp_ask {c : Call} {k : Answer c → Task α}
    (rest : ∀ t r, Moves s t → Good expiry t → Given expiry answered c r t.1 →
      Good expiry (beside effect hear c r t) ∧
        wp (world expiry answered) (watch (k r)) Q (beside effect hear c r t)) :
    wp (world expiry answered) (watch ((ask c).bind k)) Q s := by
  intro t moved good
  exact ⟨trivial, fun r given => rest t r moved good given⟩

/-- A call that writes no cursor and of which nothing is remembered. -/
def Call.Quiet (c : Call) : Prop := ∀ (r : Answer c) (t : Disk × Past),
  Moves t (beside effect hear c r t)

theorem wp_quiet {c : Call} {k : Answer c → Task α} (quiet : c.Quiet)
    (rest : ∀ t r, Moves s t → Good expiry t → wp (world expiry answered) (watch (k r)) Q t) :
    wp (world expiry answered) (watch ((ask c).bind k)) Q s := by
  refine wp_ask ?_
  intro t r moved good _
  have still := quiet r t
  exact ⟨good.moved still, rest _ r (moved.trans still) (good.moved still)⟩

theorem wp_pure {a : α} (post : ∀ t, Moves s t → Good expiry t → Q a t) :
    wp (world expiry answered) (watch (pure a)) Q s := post

theorem wp_then {β : Type} {p : Task β} {k : β → Task α}
    (spec : wp (world expiry answered) (watch p)
      (fun b => wp (world expiry answered) (watch (k b)) Q) s) :
    wp (world expiry answered) (watch (p.bind k)) Q s := wp_noted_bind spec

theorem quiet_writeShown (entries : List Entry) : (Call.writeShown entries).Quiet := by
  intro r t
  cases r <;> exact ⟨rfl, Nat.le_refl _, .inl rfl⟩

theorem quiet_of_still {c : Call}
    (still : ∀ (r : Answer c) (t : Disk × Past), beside effect hear c r t = t) : c.Quiet := by
  intro r t
  rw [still r t]
  exact .refl t

/-- What an offer leaves: the message was accepted or refused in between. -/
def Offered (file : AgentFile) (message : PushMessage) (shown : Bool) (s u : Disk × Past) : Prop :=
  ∃ t, Moves s t ∧ Moves (t.1, t.2.offered file message shown t.1.now) u

theorem Past.offered_twice {past : Past} {file : AgentFile} {message : PushMessage} {shown : Bool}
    {now : Nat} (fresh : message.id ∉ past.held) :
    (past.offered file message shown now).twice = past.twice := by
  cases shown <;> simp [Past.offered, fresh]

theorem Past.offered_later {file : AgentFile} {message : PushMessage} {shown : Bool} (t : Disk × Past) :
    Later t (t.1, t.2.offered file message shown t.1.now) := by
  cases shown
  · exact ⟨Nat.le_refl _, fun _ => id, fun _ mem => List.mem_cons_of_mem _ mem⟩
  · exact ⟨Nat.le_refl _, fun _ mem => List.mem_cons_of_mem _ mem, fun _ => id⟩

theorem Offered.later {file : AgentFile} {message : PushMessage} {shown : Bool}
    (offered : Offered file message shown s u) : Later s u := by
  obtain ⟨t, before, after⟩ := offered
  exact (before.idle.later.trans (Past.offered_later t)).trans after.idle.later

/-- Only what is not held is offered. -/
theorem offer_spec {file : AgentFile} {message : PushMessage} {Q : Bool → Disk × Past → Prop}
    (fresh : message.id ∉ s.2.held)
    (post : ∀ shown u, Offered file message shown s u → Good expiry u → Q shown u) :
    wp (world expiry answered) (watch (offer file message)) Q s := by
  refine wp_ask ?_
  intro t shown moved good _
  have fresh : message.id ∉ t.2.held := by rw [moved.1]; exact fresh
  have kept : Good expiry (t.1, t.2.offered file message shown t.1.now) :=
    good.later (Past.offered_later t) (.inl rfl) ((Past.offered_twice fresh).trans good.once)
  refine ⟨kept, ?_⟩
  cases shown with
  | false =>
    refine wp_pure ?_
    intro u later good
    exact post false u ⟨t, moved, later⟩ good
  | true =>
    refine wp_get (by decide) ?_
    intro v later _
    refine wp_quiet (quiet_writeShown _) ?_
    intro w r then_ _
    refine wp_pure ?_
    intro u last good
    exact post true u ⟨t, moved, (later.trans then_).trans last⟩ good

theorem persist_spec (rests : session.Rests expiry s) :
    wp (world expiry answered) (watch (persistCursor session)) (fun _ t => Idle s t) s := by
  refine wp_ask ?_
  intro t written moved good _
  have rests := rests.idle moved.idle
  cases written with
  | false => exact ⟨good, wp_pure fun u later _ => moved.idle.trans later.idle⟩
  | true =>
    refine ⟨⟨?_, good.once⟩, wp_pure fun u later _ => ⟨?_, ?_⟩⟩
    · intro file found id pos below
      cases found
      exact rests.safe pos below
    · exact later.1.trans moved.1
    · exact Nat.le_trans moved.2.1 later.2.1

/-! ## Retries -/

section

variable {file : AgentFile} {message : PushMessage} {shown : Bool}

theorem Offered.found (offered : Offered file message shown s u) : u.2.file = s.2.file := by
  obtain ⟨t, before, after⟩ := offered
  rw [after.1, ← before.1]
  cases shown <;> rfl

theorem Offered.received (offered : Offered file message shown s u) :
    u.2.received = s.2.received := by
  obtain ⟨t, before, after⟩ := offered
  rw [after.1, ← before.1]
  cases shown <;> rfl

theorem Offered.held_false (offered : Offered file message false s u) : u.2.held = s.2.held := by
  obtain ⟨t, before, after⟩ := offered
  rw [after.1, ← before.1]
  rfl

theorem Offered.held_true (offered : Offered file message true s u) :
    u.2.held = message.id :: s.2.held := by
  obtain ⟨t, before, after⟩ := offered
  rw [after.1, ← before.1]
  rfl

theorem Offered.accepted (offered : Offered file message true s u) :
    (file.deviceId, message.id) ∈ u.2.accepted := by
  obtain ⟨t, _, after⟩ := offered
  rw [after.1]
  exact List.mem_cons_self

theorem Offered.refused (offered : Offered file message false s u) :
    ∃ now, now ≤ u.1.now ∧
      (file.deviceId, message.id, expiresAt message.createdAt now) ∈ u.2.refused := by
  obtain ⟨t, _, after⟩ := offered
  refine ⟨t.1.now, after.2.1, ?_⟩
  rw [after.1]
  exact List.mem_cons_self

end

/-- What pending messages become. -/
structure Retried (expiry : Nat → Nat → Nat) (s t : Disk × Past) (device : Nat)
    (entries still : List Pending) (ids : List Nat) : Prop where
  later : Later s t
  file : t.2.file = s.2.file
  received : t.2.received = s.2.received
  sublist : still.Sublist entries
  stands : ∀ p ∈ still, p.Stands t device
  done : ∀ p ∈ entries, p ∈ still ∨ Done expiry t device p.message.id
  held : ∀ id ∈ t.2.held, id ∈ s.2.held ∨ id ∈ entries.map (·.message.id)
  shown : ∀ id ∈ ids, id ∈ entries.map (·.message.id)

omit [PushText] in
theorem Retried.idle {entries still : List Pending} {ids : List Nat}
    (retried : Retried expiry s t device entries still ids) (idle : Idle t u) :
    Retried expiry s u device entries still ids where
  later := retried.later.trans idle.later
  file := by rw [idle.past]; exact retried.file
  received := by rw [idle.past]; exact retried.received
  sublist := retried.sublist
  stands := fun p mem => (retried.stands p mem).idle idle
  done := fun p mem => (retried.done p mem).imp_right (·.later idle.later)
  held := by rw [idle.past]; exact retried.held
  shown := retried.shown

/-- One that is shown, before the rest. -/
theorem Retried.consShown {file : AgentFile} {entry : Pending} {rest still : List Pending}
    {ids : List Nat} (offered : Offered file entry.message true s u)
    (retried : Retried expiry u t file.deviceId rest still ids) :
    Retried expiry s t file.deviceId (entry :: rest) still (entry.message.id :: ids) where
  later := offered.later.trans retried.later
  file := retried.file.trans offered.found
  received := retried.received.trans offered.received
  sublist := retried.sublist.cons _
  stands := retried.stands
  done := by
    intro p mem
    rcases List.mem_cons.1 mem with rfl | mem
    · exact .inr (.inl (retried.later.accepted _ offered.accepted))
    · exact retried.done p mem
  held := by
    intro id mem
    rcases retried.held id mem with before | later
    · rw [offered.held_true] at before
      rcases List.mem_cons.1 before with rfl | before
      · exact .inr List.mem_cons_self
      · exact .inl before
    · exact .inr (List.mem_cons_of_mem _ later)
  shown := by
    intro id mem
    rcases List.mem_cons.1 mem with rfl | mem
    · exact List.mem_cons_self
    · exact List.mem_cons_of_mem _ (retried.shown id mem)

/-- One that is refused again, before the rest. -/
theorem Retried.consRefused {file : AgentFile} {entry : Pending} {rest still : List Pending}
    {ids : List Nat} (offered : Offered file entry.message false s u)
    (own : entry.Stands s file.deviceId) (other : entry.message.id ∉ rest.map (·.message.id))
    (retried : Retried expiry u t file.deviceId rest still ids) :
    Retried expiry s t file.deviceId (entry :: rest) (entry :: still) ids where
  later := offered.later.trans retried.later
  file := retried.file.trans offered.found
  received := retried.received.trans offered.received
  sublist := retried.sublist.cons_cons _
  stands := by
    intro p mem
    rcases List.mem_cons.1 mem with rfl | mem
    · obtain ⟨fresh, deadline, refused, due⟩ := own
      refine ⟨?_, deadline, retried.later.refused _ (offered.later.refused _ refused), due⟩
      intro held
      rcases retried.held _ held with before | later
      · rw [offered.held_false] at before
        exact fresh before
      · exact other later
    · exact retried.stands p mem
  done := by
    intro p mem
    rcases List.mem_cons.1 mem with rfl | mem
    · exact .inl List.mem_cons_self
    · exact (retried.done p mem).imp_left (List.mem_cons_of_mem _)
  held := by
    intro id mem
    rcases retried.held id mem with before | later
    · rw [offered.held_false] at before
      exact .inl before
    · exact .inr (List.mem_cons_of_mem _ later)
  shown := fun id mem => List.mem_cons_of_mem _ (retried.shown id mem)

theorem retryEach_spec {now : Nat} {file : AgentFile} {entries : List Pending} (past : now ≤ s.1.now)
    (stands : ∀ p ∈ entries, p.Stands s file.deviceId)
    (distinct : (entries.map (·.message.id)).Nodup) :
    wp (world expiry answered) (watch (retryEach now file entries))
      (fun r t => Retried expiry s t file.deviceId entries r.1 r.2) s := by
  induction entries generalizing s with
  | nil =>
    refine wp_pure ?_
    intro t moved _
    exact ⟨moved.idle.later, by rw [moved.1], by rw [moved.1], .refl _, by simp, by simp,
      by rw [moved.1]; exact fun _ => .inl, by simp⟩
  | cons entry rest ih =>
    rw [List.map_cons, List.nodup_cons] at distinct
    have own := stands entry List.mem_cons_self
    have others : ∀ p ∈ rest, p.Stands s file.deviceId := fun p mem =>
      stands p (List.mem_cons_of_mem _ mem)
    rw [retryEach]
    split
    next due =>
      refine wp_mono (ih past others distinct.2) ?_
      intro r t retried
      have done : Done expiry t file.deviceId entry.message.id := by
        obtain ⟨deadline, mem, early⟩ := own.refused
        have time := retried.later.time
        exact .inr (.inr ⟨deadline, retried.later.refused _ mem, by omega⟩)
      refine ⟨retried.later, retried.file, retried.received, retried.sublist.cons _,
        retried.stands, ?_, ?_, ?_⟩
      · intro p mem
        rcases List.mem_cons.1 mem with rfl | mem
        · exact .inr done
        · exact retried.done p mem
      · intro id mem
        exact (retried.held id mem).imp_right (List.mem_cons_of_mem _)
      · intro id mem
        exact List.mem_cons_of_mem _ (retried.shown id mem)
    next =>
      refine wp_then (offer_spec own.fresh ?_)
      intro shown u offered _
      have onward := offered.later
      have standing : ∀ p ∈ rest, p.Stands u file.deviceId := by
        intro p mem
        obtain ⟨fresh, deadline, refused, due⟩ := others p mem
        refine ⟨?_, deadline, onward.refused _ refused, due⟩
        have other : p.message.id ≠ entry.message.id := by
          intro same
          exact distinct.1 (same ▸ List.mem_map_of_mem mem)
        cases shown with
        | false => rw [offered.held_false]; exact fresh
        | true =>
          rw [offered.held_true, List.mem_cons, not_or]
          exact ⟨other, fresh⟩
      refine wp_then (wp_mono (ih (Nat.le_trans past onward.time) standing distinct.2) ?_)
      rintro ⟨still, ids⟩ t retried
      refine wp_pure ?_
      intro v moved _
      have settled := retried.idle moved.idle
      cases shown with
      | true => exact .consShown offered settled
      | false => exact .consRefused offered own distinct.1 settled

omit [PushText] in
theorem mem_insertId {ids : List Nat} {x y : Nat} : y ∈ insertId ids x ↔ y = x ∨ y ∈ ids := by
  rw [insertId]
  split
  next mem =>
    constructor
    · exact .inr
    · rintro (rfl | mem')
      · exact mem
      · exact mem'
  next => exact List.mem_orderedInsert _

omit [PushText] in
theorem mem_foldl_insertId {more ids : List Nat} {y : Nat} :
    y ∈ more.foldl insertId ids ↔ y ∈ ids ∨ y ∈ more := by
  induction more generalizing ids with
  | nil => simp
  | cons x more ih =>
    rw [List.foldl_cons, ih, mem_insertId, List.mem_cons]
    tauto

/-- A session goes on: between two steps, at the same place of the same file. -/
structure Session.Goes (expiry : Nat → Nat → Nat) (s : Disk × Past) (session next : Session) :
    Prop where
  rests : next.Rests expiry s
  file : next.file = session.file
  cursor : next.cursor = session.cursor

theorem retryDue_spec (rests : session.Rests expiry s) :
    wp (world expiry answered) (watch (retryDue session))
      (fun next t => session.Goes expiry t next) s := by
  refine wp_get (by decide) ?_
  intro t moved _
  split
  next =>
    refine wp_pure ?_
    intro u later _
    exact ⟨rests.idle (moved.idle.trans later.idle), rfl, rfl⟩
  next =>
    refine wp_get (by decide) ?_
    intro u later _
    refine wp_get (by decide) ?_
    intro v last _
    have rests := rests.idle ((moved.idle.trans later.idle).trans last.idle)
    refine wp_then (wp_mono (retryEach_spec (Nat.le_refl _) rests.knows.pending
      rests.knows.distinct) ?_)
    rintro ⟨still, ids⟩ w retried
    have next : Session.Rests expiry w { session with
        nextRetry := u.1.instant + pendingRetry
        unacked := ids.foldl insertId session.unacked
        pending := still } := by
      refine ⟨⟨?_, rests.knows.start, rests.knows.acked, retried.stands, ?_, ?_⟩, ?_, ?_, ?_, ?_⟩
      · rw [retried.file]
        exact rests.knows.file
      · exact rests.knows.distinct.sublist (retried.sublist.map _)
      · intro id pos below
        rcases rests.knows.done id pos below with done | waits
        · exact .inl (done.later retried.later)
        · obtain ⟨p, mem, rfl⟩ := List.mem_map.1 waits
          rcases retried.done p mem with left | done
          · exact .inr (List.mem_map_of_mem left)
          · exact .inl done
      · intro id mem
        rcases (mem_foldl_insertId).1 mem with old | new
        · exact rests.unacked id old
        · exact rests.waits id (retried.shown id new)
      · intro id waits
        exact rests.waits id ((retried.sublist.map _).subset waits)
      · intro id mem
        rcases retried.held id mem with old | new
        · exact rests.held id old
        · exact rests.waits id new
      · rw [retried.received]
        exact rests.received
    refine wp_then (wp_mono (persist_spec next) ?_)
    intro _ x idle
    refine wp_pure ?_
    intro y after _
    exact ⟨next.idle (idle.trans after.idle), rfl, rfl⟩

/-! ## Acknowledgements -/

omit [PushText] in
theorem Session.Rests.acked (rests : session.Rests expiry s) {ids : List Nat}
    (among : ∀ id ∈ ids, id ≤ session.cursor) : (session.acked ids).Rests expiry s := by
  have highest : ∀ n, n ≤ session.cursor → ids.foldl max n ≤ session.cursor := by
    induction ids with
    | nil => exact fun n below => below
    | cons id ids ih =>
      intro n below
      have own := among id List.mem_cons_self
      exact ih (fun other mem => among other (List.mem_cons_of_mem _ mem)) _ (by omega)
  refine ⟨⟨rests.knows.file, rests.knows.start, highest _ rests.knows.acked, rests.knows.pending,
    rests.knows.distinct, rests.knows.done⟩, ?_, rests.waits, rests.held, rests.received⟩
  intro id mem
  exact rests.unacked id (List.mem_filter.1 mem).1

theorem flushBatches_spec {n : Nat} (rests : session.Rests expiry s) :
    wp (world expiry answered) (watch (flushBatches n session))
      (fun next t => session.Goes expiry t next) s := by
  induction n generalizing session s with
  | zero => exact wp_pure fun t moved _ => ⟨rests.idle moved.idle, rfl, rfl⟩
  | succ n ih =>
    rw [flushBatches]
    split
    next => exact wp_pure fun t moved _ => ⟨rests.idle moved.idle, rfl, rfl⟩
    next =>
      refine wp_quiet (quiet_of_still fun _ _ => rfl) ?_
      intro t sent moved _
      have rests := rests.idle moved.idle
      cases sent with
      | success =>
        have next : (session.acked (session.unacked.take ackBatch)).Rests expiry _ :=
          rests.acked fun id mem => rests.unacked id (List.mem_of_mem_take mem)
        refine wp_then (wp_mono (persist_spec next) ?_)
        intro _ u idle
        refine wp_mono (ih (next.idle idle)) ?_
        rintro session' v ⟨rests', file, cursor⟩
        exact ⟨rests', file, cursor⟩
      | unauthorized =>
        refine wp_pure ?_
        intro u later _
        exact ⟨(rests.idle later.idle).mark _ true, rfl, rfl⟩
      | failed =>
        refine wp_pure ?_
        intro u later _
        exact ⟨rests.idle later.idle, rfl, rfl⟩

/-- The server takes what is acknowledged. -/
def Taken : (c : Call) → Answer c → Disk → Prop
  | .ack _ _, sent, _ => sent = .success
  | _, _, _ => True

omit [PushText] in
/-- As many batches as ids are enough: while the server takes them, all are
acknowledged. -/
theorem flushAcks_all (session : Session) (s : Disk) :
    wp (Env.still effect Taken) (flushAcks session) (fun next _ => next.unacked = []) s := by
  have batches : ∀ n session s, session.unacked.length ≤ n →
      wp (Env.still effect Taken) (flushBatches n session) (fun next _ => next.unacked = []) s := by
    intro n
    induction n with
    | zero =>
      intro session s enough
      exact wp_still_ret (List.eq_nil_of_length_eq_zero (Nat.le_zero.1 enough))
    | succ n ih =>
      intro session s enough
      rw [flushBatches]
      split
      next none => exact wp_still_ret none
      next some =>
        refine wp_still_call ?_
        intro sent taken
        cases taken
        refine wp_still_call ?_
        intro _ _
        refine ih _ _ ?_
        obtain ⟨first, rest, split⟩ := List.exists_cons_of_ne_nil some
        have fewer : (session.unacked.filter (· ∉ session.unacked.take ackBatch)).length <
            session.unacked.length := by
          refine List.length_filter_lt_length_iff_exists.2 ⟨first, by simp [split], ?_⟩
          simp [split, ackBatch]
        exact Nat.le_of_lt_succ (Nat.lt_of_lt_of_le fewer enough)
  exact batches _ session s (Nat.le_refl _)

/-! ## Delivery -/

/-- A session amid an answer to a pull after `after`, `seen` of it done. -/
structure Session.Amid (expiry : Nat → Nat → Nat) (s : Disk × Past) (session : Session)
    (after : Nat) (seen : List PushItem) : Prop where
  knows : session.Knows expiry s after
  past : after ≤ session.cursor
  reach : session.cursor ≤ after ∨ ∃ item ∈ seen, session.cursor ≤ item.id
  unacked : ∀ id ∈ session.unacked, id ≤ session.cursor
  waits : ∀ id, session.Waits id → id ≤ session.cursor
  held : ∀ id ∈ s.2.held, id ≤ after ∨ id ∈ session.unacked
  shown : ∀ id ∈ session.unacked, id ≤ after ∨ (session.file.deviceId, id) ∈ s.2.accepted
  below : ∀ item ∈ seen, item.id ≤ session.cursor
  done : ∀ item ∈ seen, Done expiry s session.file.deviceId item.id ∨ session.Waits item.id

variable {after : Nat} {seen items : List PushItem} {item : PushItem}

omit [PushText] in
theorem Session.Amid.idle (amid : session.Amid expiry s after seen) (idle : Idle s t) :
    session.Amid expiry t after seen :=
  ⟨amid.knows.idle idle, amid.past, amid.reach, amid.unacked, amid.waits,
    by rw [idle.past]; exact amid.held, by rw [idle.past]; exact amid.shown, amid.below,
    fun item mem => (amid.done item mem).imp_left (·.later idle.later)⟩

omit [PushText] in
/-- An item that is known already is passed over. -/
theorem Session.Amid.skip (amid : session.Amid expiry s after seen) (late : after < item.id)
    (known : item.id ∈ session.unacked ∨ item.id ∈ session.pending.map (·.message.id)) :
    session.Amid expiry s after (seen ++ [item]) where
  knows := amid.knows
  past := amid.past
  reach := by
    rcases amid.reach with low | ⟨other, mem, high⟩
    · exact .inl low
    · exact .inr ⟨other, List.mem_append_left _ mem, high⟩
  unacked := amid.unacked
  waits := amid.waits
  held := amid.held
  shown := amid.shown
  below := by
    intro other mem
    rcases List.mem_append.1 mem with mem | mem
    · exact amid.below other mem
    · rw [List.mem_singleton.1 mem]
      rcases known with shown | waits
      · exact amid.unacked _ shown
      · exact amid.waits _ waits
  done := by
    intro other mem
    rcases List.mem_append.1 mem with mem | mem
    · exact amid.done other mem
    · rw [List.mem_singleton.1 mem]
      rcases known with shown | waits
      · rcases amid.shown _ shown with low | accepted
        · omega
        · exact .inl (.inl accepted)
      · exact .inr waits

omit [PushText] in
theorem Session.Amid.reach_max (amid : session.Amid expiry s after seen) :
    max session.cursor item.id ≤ after ∨
      ∃ other ∈ seen ++ [item], max session.cursor item.id ≤ other.id := by
  rcases Nat.le_total session.cursor item.id with low | high
  · exact .inr ⟨item, by simp, by simp [low]⟩
  rw [Nat.max_eq_left high]
  rcases amid.reach with low | ⟨other, mem, above⟩
  · exact .inl low
  · exact .inr ⟨other, List.mem_append_left _ mem, above⟩

omit [PushText] in
theorem Session.Amid.below_max (amid : session.Amid expiry s after seen) :
    ∀ other ∈ seen ++ [item], other.id ≤ max session.cursor item.id := by
  intro other mem
  rcases List.mem_append.1 mem with mem | mem
  · exact Nat.le_trans (amid.below other mem) (Nat.le_max_left _ _)
  · rw [List.mem_singleton.1 mem]
    exact Nat.le_max_right _ _

/-- An item that was shown. -/
theorem Session.Amid.accept (amid : session.Amid expiry s after seen)
    (new : item.id ∉ session.pending.map (·.message.id))
    (offered : Offered session.file (toPushMessage item session.file.apiBase) true s u) :
    Session.Amid expiry u { session with
      cursor := max session.cursor item.id
      unacked := insertId session.unacked item.id } after (seen ++ [item]) where
  knows := by
    refine ⟨?_, amid.knows.start, amid.knows.acked, ?_, amid.knows.distinct, ?_⟩
    · rw [offered.found]
      exact amid.knows.file
    · intro p mem
      obtain ⟨fresh, deadline, refused, due⟩ := amid.knows.pending p mem
      refine ⟨?_, deadline, offered.later.refused _ refused, due⟩
      rw [offered.held_true, List.mem_cons, not_or]
      refine ⟨?_, fresh⟩
      intro same
      have same : p.message.id = item.id := same
      exact new (same ▸ List.mem_map_of_mem mem)
    · intro id pos low
      exact (amid.knows.done id pos low).imp_left (·.later offered.later)
  past := Nat.le_trans amid.past (Nat.le_max_left _ _)
  reach := amid.reach_max
  unacked := by
    intro id mem
    rcases (mem_insertId).1 mem with rfl | old
    · exact Nat.le_max_right _ _
    · exact Nat.le_trans (amid.unacked id old) (Nat.le_max_left _ _)
  waits := fun id waits => Nat.le_trans (amid.waits id waits) (Nat.le_max_left _ _)
  held := by
    intro id mem
    rw [offered.held_true] at mem
    rcases List.mem_cons.1 mem with rfl | mem
    · exact .inr ((mem_insertId).2 (.inl rfl))
    · exact (amid.held id mem).imp_right fun old => (mem_insertId).2 (.inr old)
  shown := by
    intro id mem
    rcases (mem_insertId).1 mem with rfl | old
    · exact .inr offered.accepted
    · exact (amid.shown id old).imp_right (offered.later.accepted _)
  below := amid.below_max
  done := by
    intro other mem
    rcases List.mem_append.1 mem with mem | mem
    · exact (amid.done other mem).imp_left (·.later offered.later)
    · rw [List.mem_singleton.1 mem]
      exact .inl (.inl offered.accepted)

omit [PushText] in
theorem Session.waits_append {p : Pending} {id : Nat} :
    id ∈ (session.pending ++ [p]).map (·.message.id) ↔ session.Waits id ∨ id = p.message.id := by
  simp [Session.Waits]

theorem expiresAt_mono (createdAt : String) {now later : Nat} (time : now ≤ later) :
    expiresAt createdAt now ≤ expiresAt createdAt later := by
  rw [expiresAt, expiresAt]
  cases PushText.parseRfc3339 createdAt with
  | none => simp only [Option.getD_none]; omega
  | some at_ => exact Nat.le_refl _

/-- An item that was refused, and the clock then. -/
theorem Session.Amid.refuse (amid : session.Amid expiry s after seen) (late : after < item.id)
    (fresh : item.id ∉ session.unacked) (new : item.id ∉ session.pending.map (·.message.id))
    (offered : Offered session.file (toPushMessage item session.file.apiBase) false s u) :
    Session.Amid expiry u { session with
      cursor := max session.cursor item.id
      pending := session.pending ++
        [⟨toPushMessage item session.file.apiBase, expiresAt item.createdAt u.1.now⟩] }
      after (seen ++ [item]) where
  knows := by
    refine ⟨?_, amid.knows.start, amid.knows.acked, ?_, ?_, ?_⟩
    · rw [offered.found]
      exact amid.knows.file
    · intro p mem
      rcases List.mem_append.1 mem with mem | mem
      · obtain ⟨fresh, deadline, refused, due⟩ := amid.knows.pending p mem
        refine ⟨?_, deadline, offered.later.refused _ refused, due⟩
        rw [offered.held_false]
        exact fresh
      · rw [List.mem_singleton.1 mem]
        obtain ⟨now, time, refused⟩ := offered.refused
        refine ⟨?_, _, refused, expiresAt_mono _ time⟩
        rw [offered.held_false]
        intro held
        rcases amid.held _ held with low | shown
        · exact absurd low (Nat.not_le.2 late)
        · exact fresh shown
    · rw [List.map_append, List.nodup_append]
      refine ⟨amid.knows.distinct, List.nodup_singleton _, ?_⟩
      intro id mem other single
      rw [List.map_singleton, List.mem_singleton] at single
      intro same
      have same : id = item.id := same.trans single
      exact new (same ▸ mem)
    · intro id pos low
      rcases amid.knows.done id pos low with done | waits
      · exact .inl (done.later offered.later)
      · exact .inr ((Session.waits_append).2 (.inl waits))
  past := Nat.le_trans amid.past (Nat.le_max_left _ _)
  reach := amid.reach_max
  unacked := fun id mem => Nat.le_trans (amid.unacked id mem) (Nat.le_max_left _ _)
  waits := by
    intro id waits
    rcases (Session.waits_append).1 waits with old | rfl
    · exact Nat.le_trans (amid.waits id old) (Nat.le_max_left _ _)
    · exact Nat.le_max_right _ _
  held := by
    rw [offered.held_false]
    exact amid.held
  shown := fun id mem => (amid.shown id mem).imp_right (offered.later.accepted _)
  below := amid.below_max
  done := by
    intro other mem
    rcases List.mem_append.1 mem with mem | mem
    · rcases amid.done other mem with done | waits
      · exact .inl (done.later offered.later)
      · exact .inr ((Session.waits_append).2 (.inl waits))
    · rw [List.mem_singleton.1 mem]
      exact .inr ((Session.waits_append).2 (.inr rfl))

/-- What a delivery leaves of the session it began with. -/
structure Session.Delivers (expiry : Nat → Nat → Nat) (s t : Disk × Past) (session next : Session)
    (after : Nat) (seen : List PushItem) : Prop where
  amid : next.Amid expiry t after seen
  file : next.file = session.file
  received : t.2.received = s.2.received
  later : Later s t

theorem deliverItem_spec (amid : session.Amid expiry s after seen) (late : after < item.id) :
    wp (world expiry answered) (watch (deliverItem item session))
      (fun next t => session.Delivers expiry s t next after (seen ++ [item])) s := by
  rw [deliverItem]
  split
  next known =>
    refine wp_pure ?_
    intro t moved _
    exact ⟨(amid.skip late known).idle moved.idle, rfl, by rw [moved.1], moved.idle.later⟩
  next known =>
    rw [not_or] at known
    have fresh : (toPushMessage item session.file.apiBase).id ∉ s.2.held := by
      intro held
      rcases amid.held _ held with low | shown
      · exact absurd low (Nat.not_le.2 late)
      · exact known.1 shown
    refine wp_then (offer_spec fresh ?_)
    intro shown t offered _
    cases shown with
    | true =>
      refine wp_pure ?_
      intro u moved _
      exact ⟨(amid.accept known.2 offered).idle moved.idle, rfl,
        (by rw [moved.1]; exact offered.received), offered.later.trans moved.idle.later⟩
    | false =>
      refine wp_get (by decide) ?_
      intro u moved _
      refine wp_pure ?_
      intro v later _
      obtain ⟨w, before, then_⟩ := offered
      have offered : Offered session.file (toPushMessage item session.file.apiBase) false s u :=
        ⟨w, before, then_.trans moved⟩
      exact ⟨(amid.refuse late known.1 known.2 offered).idle later.idle, rfl,
        (by rw [later.1]; exact offered.received), offered.later.trans later.idle.later⟩

theorem deliverItems_spec (amid : session.Amid expiry s after seen)
    (late : ∀ item ∈ items, after < item.id) :
    wp (world expiry answered) (watch (deliverItems items session))
      (fun next t => session.Delivers expiry s t next after (seen ++ items)) s := by
  induction items generalizing session s seen with
  | nil =>
    refine wp_pure ?_
    intro t moved _
    rw [List.append_nil]
    exact ⟨amid.idle moved.idle, rfl, by rw [moved.1], moved.idle.later⟩
  | cons item items ih =>
    refine wp_then (wp_mono (deliverItem_spec amid (late item List.mem_cons_self)) ?_)
    intro next t first
    refine wp_mono (ih first.amid fun other mem => late other (List.mem_cons_of_mem _ mem)) ?_
    intro last u rest
    rw [List.append_assoc] at rest
    exact ⟨rest.amid, rest.file.trans first.file, rest.received.trans first.received,
      first.later.trans rest.later⟩

omit [PushText] in
/-- An answer without a gap is done when its items are. -/
theorem Session.Amid.finish {response : PullResponse} {now : Nat}
    (amid : session.Amid expiry s after response.items)
    (complete : Complete (expiry session.file.deviceId) after now response) (time : now ≤ s.1.now)
    (received : ∀ id ∈ s.2.received, id ≤ after ∨ id ∈ response.items.map (·.id)) :
    Session.Rests expiry s { session with cursor := max session.cursor response.cursor } where
  knows := by
    refine ⟨amid.knows.file, Nat.le_trans amid.knows.start ?_, Nat.le_trans amid.knows.acked ?_,
      amid.knows.pending, amid.knows.distinct, ?_⟩
    · exact Nat.le_trans amid.past (Nat.le_max_left _ _)
    · exact Nat.le_trans amid.past (Nat.le_max_left _ _)
    · intro id pos below
      by_cases low : id ≤ after
      · exact amid.knows.done id pos low
      by_cases live : now < expiry session.file.deviceId id
      · have among : id ∈ response.items.map (·.id) := by
          by_cases ahead : id ≤ response.cursor
          · exact complete.cursor id (Nat.not_le.1 low) ahead live
          · rcases amid.reach with under | ⟨item, mem, above⟩
            · simp only at below
              omega
            · refine complete.items item mem id (Nat.not_le.1 low) ?_ live
              simp only at below
              omega
        obtain ⟨item, mem, rfl⟩ := List.mem_map.1 among
        exact amid.done item mem
      · exact .inl (.inr (.inl (Nat.le_trans (Nat.not_lt.1 live) time)))
  unacked := fun id mem => Nat.le_trans (amid.unacked id mem) (Nat.le_max_left _ _)
  waits := fun id waits => Nat.le_trans (amid.waits id waits) (Nat.le_max_left _ _)
  held := by
    intro id mem
    refine Nat.le_trans ?_ (Nat.le_max_left _ _)
    rcases amid.held id mem with low | shown
    · exact Nat.le_trans low amid.past
    · exact amid.unacked id shown
  received := by
    intro id mem
    refine Nat.le_trans ?_ (Nat.le_max_left _ _)
    rcases received id mem with low | among
    · exact Nat.le_trans low amid.past
    · obtain ⟨item, own, rfl⟩ := List.mem_map.1 among
      exact amid.below item own

omit [PushText] in
/-- Before the first item. -/
theorem Session.Rests.amid (knows : session.Knows expiry s session.cursor)
    (unacked : ∀ id ∈ session.unacked, id ≤ session.cursor)
    (waits : ∀ id, session.Waits id → id ≤ session.cursor)
    (held : ∀ id ∈ s.2.held, id ≤ session.cursor) :
    session.Amid expiry s session.cursor [] :=
  ⟨knows, Nat.le_refl _, .inl (Nat.le_refl _), unacked, waits, fun id mem => .inl (held id mem),
    fun id mem => .inl (unacked id mem), by simp, by simp⟩

theorem deliver_spec {response : PullResponse} {now : Nat}
    (amid : session.Amid expiry s session.cursor [])
    (complete : Complete (expiry session.file.deviceId) session.cursor now response)
    (time : now ≤ s.1.now)
    (received : ∀ id ∈ s.2.received,
      id ≤ session.cursor ∨ id ∈ response.items.map (·.id)) :
    wp (world expiry answered) (watch (deliver response session))
      (fun next t => next.Rests expiry t) s := by
  refine wp_then (wp_mono (deliverItems_spec amid complete.later) ?_)
  intro next t delivers
  refine wp_pure ?_
  intro u moved _
  rw [List.nil_append] at delivers
  have amid := delivers.amid.idle moved.idle
  have finish := @Session.Amid.finish _ _ _ _ response now amid
  refine finish ?_ ?_ ?_
  · rw [delivers.file]
    exact complete
  · exact Nat.le_trans time (Nat.le_trans delivers.later.time moved.2.1)
  · rw [moved.1, delivers.received]
    exact received

/-! ## A tick -/

omit [PushText] in
/-- The memory of an agent: its session's, or none. -/
inductive Engine.Holds (expiry : Nat → Nat → Nat) (s : Disk × Past) (engine : Engine) : Prop
  | session (session : Session) (found : engine.session = some session)
      (rests : session.Rests expiry s)
  | none (found : engine.session = .none) (file : s.2.file = .none) (received : s.2.received = [])

variable {engine : Engine}

omit [PushText] in
theorem Engine.Holds.idle (holds : engine.Holds expiry s) (idle : Idle s t) :
    engine.Holds expiry t := by
  cases holds with
  | session session found rests => exact .session session found (rests.idle idle)
  | none found file received =>
    refine .none found ?_ ?_ <;> rw [idle.past]
    · exact file
    · exact received

omit [PushText] in
theorem Engine.Holds.of_eq {other : Engine} (holds : engine.Holds expiry s)
    (same : other.session = engine.session) : other.Holds expiry s := by
  cases holds with
  | session session found rests => exact .session session (same.trans found) rests
  | none found file received => exact .none (same.trans found) file received

theorem forceRetry_spec (holds : engine.Holds expiry s) :
    wp (world expiry answered) (watch (forceRetry engine)) (fun next t => next.Holds expiry t) s := by
  refine wp_get (by decide) ?_
  intro t moved _
  refine wp_pure ?_
  intro u later _
  have holds := holds.idle (moved.idle.trans later.idle)
  cases holds with
  | session session found rests =>
    exact .session _ (by rw [found]; rfl) (rests.mark t.1.instant session.revoked)
  | none found file received => exact .none (by rw [found]; rfl) file received

theorem wait_spec {secs : Nat} (holds : engine.Holds expiry s) :
    wp (world expiry answered) (watch (wait secs engine)) (fun r t => r.1.Holds expiry t) s := by
  refine wp_quiet (quiet_of_still fun _ _ => rfl) ?_
  intro t woken moved _
  have holds := holds.idle moved.idle
  cases woken with
  | elapsed stopped => exact wp_pure fun u later _ => holds.idle later.idle
  | stop => exact wp_pure fun u later _ => holds.idle later.idle
  | retry stopped =>
    refine wp_then (wp_mono (forceRetry_spec holds) ?_)
    intro next u holds
    exact wp_pure fun v last _ => holds.idle last.idle

theorem setState_spec {state : PushAgentState} :
    wp (world expiry answered) (watch (setState state engine))
      (fun next t => next.session = engine.session ∧ Idle s t) s := by
  rw [setState]
  split
  next => exact wp_pure fun t moved _ => ⟨rfl, moved.idle⟩
  next =>
    refine wp_quiet (quiet_of_still fun _ _ => rfl) ?_
    intro t _ moved _
    exact wp_pure fun u later _ => ⟨rfl, moved.idle.trans later.idle⟩

omit [PushText] in
/-- A session just opened, of the file that was found, from the persisted
cursor. -/
theorem Session.rests_opened {file : AgentFile} {nextRetry : Nat} (good : Good expiry s)
    (found : s.2.file = some file) (held : s.2.held = []) (received : s.2.received = []) :
    Session.Rests expiry s
      { file, cursor := loadCursor s.1.cursor file.deviceId
        startCursor := loadCursor s.1.cursor file.deviceId, nextRetry } := by
  refine ⟨⟨found, Nat.le_refl _, Nat.zero_le _, by simp, by simp, ?_⟩, by simp, ?_, ?_, ?_⟩
  · intro id pos below
    refine .inl ?_
    simp only [loadCursor] at below
    cases own : s.1.cursor.filter fun c => decide (c.deviceId = file.deviceId) with
    | none =>
      rw [own] at below
      simp at below
      omega
    | some c =>
      obtain ⟨mem, same⟩ := Option.filter_eq_some_iff.1 own
      rw [own] at below
      have done := good.whole c mem id pos below
      rwa [of_decide_eq_true same] at done
  · intro id waits
    cases waits
  · rw [held]
    simp
  · rw [received]
    simp

omit [PushText] in
theorem Good.noted (good : Good expiry s) {place : Place} :
    Good expiry (s.1, note place s.1 s.1 s.2) := by
  have kept : Later s (s.1, note place s.1 s.1 s.2) ∧
      (note place s.1 s.1 s.2).twice = s.2.twice := by
    cases place <;> try exact ⟨.refl, rfl⟩
    simp only [note]
    split
    · exact ⟨.refl, rfl⟩
    · exact ⟨⟨Nat.le_refl _, fun _ => id, fun _ => id⟩, rfl⟩
  exact good.later kept.1 (.inl rfl) (kept.2.trans good.once)

theorem wp_look {k : Disk → Task α}
    (rest : ∀ t, Moves s t → Good expiry t →
      wp (world expiry answered) (watch (k t.1)) Q (t.1, note .readAgent t.1 t.1 t.2)) :
    wp (world expiry answered) (watch ((Prog.get .readAgent).bind k)) Q s := by
  intro t moved good
  exact ⟨good.noted, rest t moved good⟩

theorem openSession_spec {file : AgentFile} (holds : engine.Holds expiry s)
    (agent : s.1.agent = some file) :
    wp (world expiry answered) (watch (openSession file engine))
      (fun r t => r.1.Rests expiry t ∧ r.2.session = some r.1)
      (s.1, note .readAgent s.1 s.1 s.2) := by
  have fresh : s.2.file ≠ some file →
      wp (world expiry answered) (watch (do
        let s ← Prog.get .loadCursor
        let start := loadCursor s.cursor file.deviceId
        let s ← Prog.get .instant
        let session : Session :=
          { file, cursor := start, startCursor := start, nextRetry := s.instant + pendingRetry }
        pure (session, { engine with session := some session, backoff := backoffMin })))
      (fun r t => r.1.Rests expiry t ∧ r.2.session = some r.1)
      (s.1, note .readAgent s.1 s.1 s.2) := by
    intro other
    have reset : note .readAgent s.1 s.1 s.2 =
        { s.2 with file := some file, held := [], received := [] } := by
      rw [note, agent, if_neg other]
    rw [reset]
    refine wp_get (by decide) ?_
    intro t moved good
    have opened (nextRetry : Nat) := @Session.rests_opened _ _ file nextRetry good
      (by rw [moved.1]) (by rw [moved.1]) (by rw [moved.1])
    refine wp_get (by decide) ?_
    intro u later _
    refine wp_pure ?_
    intro v last _
    exact ⟨(opened _).idle (later.idle.trans last.idle), rfl⟩
  rw [openSession]
  cases holds with
  | none found none_ received =>
    rw [found]
    exact fresh (by rw [none_]; exact (fun same => by cases same))
  | session session found rests =>
    rw [found]
    by_cases same : session.file = file
    · rw [Option.filter_some, if_pos (decide_eq_true same)]
      have kept : note .readAgent s.1 s.1 s.2 = s.2 := by
        rw [note, agent, rests.knows.file, same, if_pos rfl]
      rw [kept]
      exact wp_pure fun t moved _ => ⟨rests.idle moved.idle, found⟩
    · rw [Option.filter_some, if_neg (by simpa using same)]
      refine fresh ?_
      rw [rests.knows.file]
      exact fun eq => same (Option.some.inj eq)

theorem pulled_spec {answer : Pulled} {t : Disk × Past} (own : engine.session = some session)
    (rests : session.Rests expiry s)
    (given : Given expiry Complete (.pull session.file session.cursor) answer s.1)
    (heard : t = beside effect hear (.pull session.file session.cursor) answer s) :
    wp (world expiry answered) (watch (pulled session engine answer))
      (fun r t => r.1.Holds expiry t) t := by
  subst heard
  have holds : engine.Holds expiry s := .session session own rests
  cases answer with
  | stop => exact wp_pure fun u moved _ => holds.idle moved.idle
  | retry =>
    refine wp_then (wp_mono (forceRetry_spec holds) ?_)
    intro next u holds
    exact wp_pure fun v later _ => holds.idle later.idle
  | ok response =>
    have amid : session.Amid expiry
        (beside effect hear (.pull session.file session.cursor) (.ok response) s)
        session.cursor [] := by
      refine Session.Rests.amid ⟨rests.knows.file, rests.knows.start, rests.knows.acked, ?_,
        rests.knows.distinct, rests.knows.done⟩ rests.unacked rests.waits rests.held
      intro p mem
      obtain ⟨fresh, refused⟩ := rests.knows.pending p mem
      exact ⟨fresh, refused⟩
    refine wp_then (wp_mono (deliver_spec amid given (Nat.le_refl _) ?_) ?_)
    · intro id mem
      rcases List.mem_append.1 mem with new | old
      · exact .inr new
      · exact .inl (rests.received id old)
    · intro next u rests
      refine wp_then (wp_mono (flushBatches_spec rests) ?_)
      intro last v goes
      exact wp_pure fun w later _ => .session last rfl (goes.rests.idle later.idle)
  | unauthorized =>
    refine wp_then (wp_mono setState_spec ?_)
    rintro next u ⟨same, idle⟩
    refine wp_pure ?_
    intro v later _
    exact .session _ same ((rests.mark session.nextRetry true).idle (idle.trans later.idle))
  | rateLimited => exact wait_spec holds
  | unprocessable => exact wait_spec (holds.of_eq rfl)
  | other => exact wait_spec (holds.of_eq rfl)

/-- A tick skips nothing and offers nothing twice. -/
theorem tick_spec (holds : engine.Holds expiry s) :
    wp (world expiry Complete) (watch (tick engine)) (fun r t => r.1.Holds expiry t) s := by
  refine wp_look ?_
  intro t moved good
  have holds := holds.idle moved.idle
  cases agent : t.1.agent with
  | none =>
    have gone : Engine.Holds expiry (t.1, note .readAgent t.1 t.1 t.2)
        { engine with session := none } := by
      rw [note, agent]
      split
      next same =>
        cases holds with
        | session session found rests =>
          have file := rests.knows.file
          rw [same] at file
          cases file
        | none found file received => exact .none rfl file received
      next => exact .none rfl rfl rfl
    refine wp_then (wp_mono setState_spec ?_)
    rintro next u ⟨same, idle⟩
    exact wait_spec ((gone.idle idle).of_eq same)
  | some file =>
    refine wp_then (wp_mono (openSession_spec holds agent) ?_)
    rintro ⟨session, engine⟩ u ⟨rests, found⟩
    simp only
    split
    next =>
      refine wp_then (wp_mono setState_spec ?_)
      rintro next v ⟨same, idle⟩
      exact wait_spec (.session session (same.trans found) (rests.idle idle))
    next =>
      refine wp_then (wp_mono setState_spec ?_)
      rintro next v ⟨same, idle⟩
      refine wp_then (wp_mono (retryDue_spec (rests.idle idle)) ?_)
      intro retried w goes
      refine wp_then (wp_mono (flushBatches_spec goes.rests) ?_)
      intro flushed x goes
      refine wp_ask ?_
      intro y answer moved good given
      have rests := goes.rests.idle moved.idle
      refine ⟨?_, pulled_spec rfl rests given rfl⟩
      have kept : Later y (beside effect hear (.pull flushed.file flushed.cursor) answer y) := by
        cases answer <;> exact ⟨Nat.le_refl _, fun _ => id, fun _ => id⟩
      refine good.later kept ?_ ?_
      · cases answer <;> exact .inl rfl
      · cases answer <;> exact good.once

theorem run_spec {n : Nat} (holds : engine.Holds expiry s) :
    wp (world expiry Complete) (watch (run n engine)) (fun next t => next.Holds expiry t) s := by
  induction n generalizing engine s with
  | zero => exact wp_pure fun t moved _ => holds.idle moved.idle
  | succ n ih =>
    refine wp_quiet (quiet_of_still fun _ _ => rfl) ?_
    intro t stopped moved _
    have holds := holds.idle moved.idle
    cases stopped with
    | true => exact wp_pure fun u later _ => holds.idle later.idle
    | false =>
      refine wp_then (wp_mono (tick_spec holds) ?_)
      rintro ⟨next, stopped⟩ u holds
      cases stopped with
      | true => exact wp_pure fun v later _ => holds.idle later.idle
      | false => exact ih holds

/-! ## Lives -/

/-- The agent is started, dies or is stopped at some step, and is started anew. -/
inductive Lived (expiry : Nat → Nat → Nat)
    (answered : (Nat → Nat) → Nat → Nat → PullResponse → Prop) (s : Disk × Past) :
    Disk × Past → Prop
  | start : Lived expiry answered s s
  | life {t u : Disk × Past} {n : Nat} (before : Lived expiry answered s t)
      (came : Came (world expiry answered) (watch (run n {})) (t.1, t.2.restarted) u) :
      Lived expiry answered s u

omit [PushText] in
theorem Engine.holds_start : Engine.Holds expiry (s.1, s.2.restarted) {} :=
  .none rfl rfl rfl

omit [PushText] in
theorem Good.restarted (good : Good expiry s) : Good expiry (s.1, s.2.restarted) :=
  ⟨good.whole, good.once⟩

theorem world_keeps (s t : Disk × Past) (moved : (world expiry answered).moves s t)
    (good : (world expiry answered).good s) : (world expiry answered).good t :=
  Good.moved good moved

theorem Lived.good (lived : Lived expiry Complete s t) (good : Good expiry s) : Good expiry t := by
  induction lived with
  | start => exact good
  | life _ came ih =>
    exact wp_came world_keeps (run_spec Engine.holds_start) ih.restarted came

/-- Whatever happens to an agent, its persisted cursor skips nothing and nothing
it holds as accepted is offered again. Between two ticks, what it received is
accepted, expired or pending. -/
theorem pushes_kept (expiry : Nat → Nat → Nat) (disk : Disk) (t : Disk × Past)
    (lived : Lived expiry Complete ({ disk with cursor := none }, {}) t) :
    Good expiry t ∧
    ∀ n engine u, Runs (world expiry Complete) (watch (run n {})) (t.1, t.2.restarted) engine u →
      ∀ id ∈ u.2.received, 1 ≤ id → ∃ session, engine.session = some session ∧
        (Done expiry u session.file.deviceId id ∨ session.Waits id) := by
  have start : Good expiry ({ disk with cursor := none }, {}) :=
    ⟨(fun file found => by cases found), rfl⟩
  have good := lived.good start
  refine ⟨good, ?_⟩
  intro n engine u runs id mem pos
  have holds := wp_runs world_keeps (run_spec Engine.holds_start) good.restarted runs
  cases holds with
  | session session found rests =>
    exact ⟨session, found, rests.knows.done id pos (rests.received id mem)⟩
  | none found file received =>
    rw [received] at mem
    cases mem

end

/-! ## An answer with a gap -/

instance (expiry : Nat → Nat) (after now : Nat) (response : PullResponse) :
    Decidable (Covers expiry after now response) :=
  decidable_of_iff ((∀ item ∈ response.items, after < item.id) ∧
      ∀ id < response.cursor + 1, after < id → now < expiry id → id ∈ response.items.map (·.id))
    ⟨fun both => ⟨both.1, fun id late ahead => both.2 id (Nat.lt_succ_of_le ahead) late⟩,
      fun covers => ⟨covers.later, fun id ahead late => covers.cursor id late (Nat.le_of_lt_succ ahead)⟩⟩

instance (expiry : Nat → Nat) (after now : Nat) (response : PullResponse) :
    Decidable (Complete expiry after now response) :=
  decidable_of_iff (Covers expiry after now response ∧ ∀ item ∈ response.items,
      ∀ id < item.id + 1, after < id → now < expiry id → id ∈ response.items.map (·.id))
    ⟨fun both => ⟨both.1, fun item mem id late ahead =>
        both.2 item mem id (Nat.lt_succ_of_le ahead) late⟩,
      fun complete => ⟨complete.toCovers, fun item mem id ahead late =>
        complete.items item mem id late (Nat.le_of_lt_succ ahead)⟩⟩

/-- Whether an answer may be given, to be computed. -/
def givenCheck (expiry : Nat → Nat → Nat)
    (answered : (Nat → Nat) → Nat → Nat → PullResponse → Prop)
    [∀ expiry after now response, Decidable (answered expiry after now response)] :
    (c : Call) → Answer c → Disk × Past → Bool
  | .pull file after, .ok response, s =>
    decide (answered (expiry file.deviceId) after s.1.now response)
  | _, _, _ => true

theorem givenCheck_sound {answered : (Nat → Nat) → Nat → Nat → PullResponse → Prop}
    [∀ expiry after now response, Decidable (answered expiry after now response)] (c : Call)
    (r : Answer c) (s : Disk × Past) (may : givenCheck expiry answered c r s = true) :
    Given expiry answered c r s.1 := by
  cases c with
  | pull file after =>
    cases r with
    | ok response =>
      exact of_decide_eq_true (p := answered (expiry file.deviceId) after s.1.now response) may
    | _ => trivial
  | _ => trivial

@[reducible] def sampleText : PushText := ⟨fun _ _ => none, fun _ => none⟩

def sampleAgent : AgentFile := ⟨"https://api.example", 1, "ppd_1", "i"⟩

/-- Every call succeeds, and a pull is answered with `response`. -/
def obliging (response : PullResponse) : (c : Call) → Answer c
  | .stopped => false
  | .onState _ => ()
  | .onPush _ _ => true
  | .writeShown _ => true
  | .writeCursor _ => true
  | .pull _ _ => .ok response
  | .ack _ _ => .success
  | .wait _ => .elapsed true

/-- A first tick of which all goes well. -/
def firstTick (expiry : Nat → Nat → Nat)
    (answered : (Nat → Nat) → Nat → Nat → PullResponse → Prop)
    [∀ expiry after now response, Decidable (answered expiry after now response)]
    (response : PullResponse) : Option (Disk × Past) :=
  follow (@world expiry sampleText answered).effect (givenCheck expiry answered)
    (watch (@run sampleText 1 {})) (List.replicate 9 ⟨fun s => s, obliging response⟩)
    ({ agent := some sampleAgent }, {})

theorem firstTick_lived {answered : (Nat → Nat) → Nat → Nat → PullResponse → Prop}
    [∀ expiry after now response, Decidable (answered expiry after now response)]
    {response : PullResponse} (came : firstTick expiry answered response = some t) :
    @Lived sampleText expiry answered ({ agent := some sampleAgent }, {}) t := by
  let _ := sampleText
  refine Lived.life (n := 1) .start ?_
  refine Came.of_follow (E := @world expiry sampleText answered) givenCheck_sound ?_ came
  intro turn mem s
  rw [List.eq_of_mem_replicate mem]
  exact @Moves.refl s

theorem pushes_kept_first : ∃ t, @Lived sampleText (fun _ _ => 9) Complete
      ({ agent := some sampleAgent }, {}) t ∧ Good (fun _ _ => 9) t ∧
      t.1.cursor = some ⟨1, 1⟩ := by
  have came : ∃ t, firstTick (fun _ _ => 9) Complete ⟨[{ id := 1 }], 1⟩ = some t ∧
      t.1.cursor = some ⟨1, 1⟩ := ⟨_, rfl, rfl⟩
  obtain ⟨t, came, cursor⟩ := came
  have lived := firstTick_lived came
  exact ⟨t, lived, (@pushes_kept sampleText (fun _ _ => 9) { agent := some sampleAgent } t lived).1, cursor⟩

/-- An answer with id 5, cursor 0 and no id 4, which is live: 4 is skipped. -/
theorem pushes_kept_gap : ¬ ∀ t, @Lived sampleText (fun _ _ => 9) Covers
      ({ agent := some sampleAgent }, {}) t → Good (fun _ _ => 9) t := by
  intro kept
  have came : ∃ t, firstTick (fun _ _ => 9) Covers ⟨[{ id := 5 }], 0⟩ = some t ∧
      t.1.cursor = some ⟨1, 5⟩ ∧ t.1.now = 0 ∧ t.2.accepted = [(1, 5)] ∧ t.2.refused = [] :=
    ⟨_, rfl, rfl, rfl, rfl, rfl⟩
  obtain ⟨t, came, cursor, now, accepted, refused⟩ := came
  have done := (kept t (firstTick_lived came)).whole _ cursor 4 (by decide) (by decide)
  rcases done with mem | due | ⟨deadline, mem, -⟩
  · rw [accepted] at mem
    exact absurd mem (by decide)
  · rw [now] at due
    exact absurd due (by decide)
  · rw [refused] at mem
    cases mem

end PpvpnCore.Desktop.PushAgent
