import Mathlib.Algebra.Order.Group.Multiset
import PpvpnCore.Lib.Debts
import PpvpnCore.Desktop.Device
import PpvpnCore.Desktop.Pushes

/-!
# Nothing is left of who signed out

A session that has ended leaves no agent file, no cursor and no shown push, and
the agent offers nothing more for it, as long as nothing is written for it after
the removal.

* `InTime`: what is asked of each write and each removal.
* `Kept`: what holds of the files and of the removals still owed.
* `nothing_left`: whatever the schedule of the two processes.
-/

namespace PpvpnCore.Desktop.Device

open Lib
open PushAgent (AgentFile Disk)

/-- The agent file is not written for a session of which it was removed; nor are
the cursor and the shown list by a tick that began with such a session's file.
A removal succeeds. -/
def InTime : (c : Call) → Answer c → World → Prop
  | .writeAgent session _, true, s => session ∉ s.2.past.removed .agent
  | .remove _, removed, _ => removed = true
  | .agent (.writeCursor _), true, s =>
    ∀ session ∈ s.2.past.looked, session ∉ s.2.past.removed .cursor
  | .agent (.writeShown _), true, s =>
    ∀ session ∈ s.2.past.looked ++ s.2.past.read, session ∉ s.2.past.removed .shown
  | _, _, _ => True

def Timely (p : Process) : Move Answer → Prop
  | .answer i oracle => match p.task i with
    | some (.call c _) => InTime c (oracle c) p.state
    | _ => True
  | .go _ | .giveUp _ => True

/-! ## What is kept -/

/-- `owed` are the files that somebody still has to remove. -/
structure Kept (s : World) (owed : Multiset File) : Prop where
  clean : ∀ file session, session ∈ s.2.past.removed file → session ∉ s.2.past.owner file
  real : ∀ file, s.2.past.owner file = [] → Absent s.1 file
  looked : s.2.past.looked ≠ []
  fresh : s.2.past.stale = false
  onTime : s.2.past.late = false
  paid : ∀ file, (∀ session ∈ s.2.past.ended, session ∈ s.2.past.removed file) ∨ file ∈ owed

variable {s : World} {owed rest : Multiset File} {file : File}

theorem Kept.app (kept : Kept s owed) (app : SessionState) : Kept (s.1, { s.2 with app }) owed :=
  ⟨kept.clean, kept.real, kept.looked, kept.fresh, kept.onTime, kept.paid⟩

/-- A session ends, and its files are owed. -/
theorem Kept.ended (kept : Kept s owed) (signedIn : Bool) :
    Kept (s.1, s.2.over signedIn) (↑[File.agent, .cursor, .shown] + owed) := by
  refine ⟨kept.clean, kept.real, kept.looked, kept.fresh, kept.onTime, ?_⟩
  intro file
  refine .inr (Multiset.mem_add.mpr (.inl ?_))
  rw [Multiset.mem_coe]
  cases file with
  | agent => exact List.mem_cons_self
  | cursor => exact List.mem_cons_of_mem _ List.mem_cons_self
  | shown => exact List.mem_cons_of_mem _ (List.mem_cons_of_mem _ List.mem_cons_self)

theorem Kept.own (kept : Kept s owed) {owners : List Nat} {disk : Disk} (some_ : owners ≠ [])
    (may : ∀ session ∈ owners, session ∉ s.2.past.removed file)
    (others : ∀ other, other ≠ file → Absent s.1 other → Absent disk other) :
    Kept (disk, { s.2 with past := s.2.past.own file owners }) owed := by
  refine ⟨?_, ?_, kept.looked, kept.fresh, kept.onTime, kept.paid⟩
  · intro other session gone
    simp only [Past.own] at gone ⊢
    split
    next same =>
      subst same
      exact fun owns => may session owns gone
    next => exact kept.clean other session gone
  · intro other nobody
    simp only [Past.own] at nobody
    split at nobody
    next => exact absurd nobody some_
    next ne => exact others other ne (kept.real other nobody)

theorem absent_remove (disk : Disk) : Absent (remove disk file) file := by
  cases file <;> rfl

theorem Absent.remove {disk : Disk} {other : File} (absent : Absent disk other) :
    Absent (remove disk file) other := by
  cases file <;> cases other <;> first | exact absent | rfl

/-- A file is removed, and no longer owed. -/
theorem Kept.clear (kept : Kept s (file ::ₘ owed)) :
    Kept (remove s.1 file, { s.2 with past := s.2.past.clear file }) owed := by
  refine ⟨?_, ?_, kept.looked, kept.fresh, kept.onTime, ?_⟩
  · intro other session gone
    simp only [Past.clear, Past.own] at gone ⊢
    split
    next => exact List.not_mem_nil
    next ne =>
      rw [if_neg ne] at gone
      exact kept.clean other session gone
  · intro other nobody
    simp only [Past.clear, Past.own] at nobody
    split at nobody
    next same =>
      subst same
      exact absent_remove s.1
    next => exact (kept.real other nobody).remove
  · intro other
    simp only [Past.clear]
    split
    next => exact .inl fun session ended => ended
    next ne =>
      rcases kept.paid other with paid | owes
      · exact .inl paid
      · exact .inr ((Multiset.mem_cons.mp owes).resolve_left ne)

/-- The agent finds an agent file, of a session that did not end. -/
theorem Kept.found (kept : Kept s owed) (some_ : s.1.agent.isSome) :
    Kept (s.1, { s.2 with past := s.2.past.found }) owed := by
  refine ⟨kept.clean, kept.real, ?_, ?_, kept.onTime, kept.paid⟩
  · intro nobody
    have none_ : s.1.agent = none := kept.real .agent nobody
    rw [none_] at some_
    cases some_
  · simp only [Past.found, List.any_eq_false, decide_eq_true_eq]
    exact fun session owns gone => kept.clean .agent session gone owns

theorem Kept.readShown (kept : Kept s owed) :
    Kept (s.1, { s.2 with past := { s.2.past with read := s.2.past.owner .shown } }) owed :=
  ⟨kept.clean, kept.real, kept.looked, kept.fresh, kept.onTime, kept.paid⟩

theorem Kept.offered (kept : Kept s owed) :
    Kept (s.1, { s.2 with past := { s.2.past with late := s.2.past.late || s.2.past.stale } })
      owed := by
  refine ⟨kept.clean, kept.real, kept.looked, kept.fresh, ?_, kept.paid⟩
  simp only [kept.onTime, kept.fresh, Bool.or_self]

/-! ## The agent -/

/-- The agent's sections only read. -/
def Reads (_ : PushAgent.Place) (s t : Disk) : Prop := t = s

theorem within_get {place : PushAgent.Place} : Within Reads (Prog.get place : PushAgent.Task Disk) :=
  ⟨fun _ => rfl, fun _ => trivial⟩

theorem within_ask {c : PushAgent.Call} : Within Reads (PushAgent.ask c) := fun _ => trivial

section

variable {file : AgentFile} {message : PushAgent.PushMessage} {session : PushAgent.Session}
  {engine : PushAgent.Engine}

theorem within_offer : Within Reads (PushAgent.offer file message) := by
  refine within_ask.bind fun shown => ?_
  cases (shown : Bool) with
  | true => exact within_get.bind fun _ => within_ask.bind fun _ => trivial
  | false => trivial

theorem within_persistCursor : Within Reads (PushAgent.persistCursor session) :=
  within_ask.bind fun _ => trivial

theorem within_retryEach {now : Nat} {entries : List PushAgent.Pending} :
    Within Reads (PushAgent.retryEach now file entries) := by
  induction entries with
  | nil => trivial
  | cons entry rest ih =>
    rw [PushAgent.retryEach]
    split
    next => exact ih
    next => exact within_offer.bind fun _ => ih.bind fun _ => trivial

theorem within_retryDue : Within Reads (PushAgent.retryDue session) := by
  refine within_get.bind fun s => ?_
  dsimp only
  split
  next => trivial
  next =>
    refine within_get.bind fun s => within_get.bind fun s => within_retryEach.bind fun _ => ?_
    exact within_persistCursor.bind fun _ => trivial

theorem within_flushBatches {n : Nat} : Within Reads (PushAgent.flushBatches n session) := by
  induction n generalizing session with
  | zero => trivial
  | succ n ih =>
    rw [PushAgent.flushBatches]
    split
    next => trivial
    next =>
      refine within_ask.bind fun sent => ?_
      cases (sent : PushAgent.Acked) with
      | success => exact within_persistCursor.bind fun _ => ih
      | unauthorized => trivial
      | failed => trivial

theorem within_setState {state : PushAgent.PushAgentState} :
    Within Reads (PushAgent.setState state engine) := by
  rw [PushAgent.setState]
  split
  next => trivial
  next => exact within_ask.bind fun _ => trivial

theorem within_forceRetry : Within Reads (PushAgent.forceRetry engine) :=
  within_get.bind fun _ => trivial

theorem within_wait {secs : Nat} : Within Reads (PushAgent.wait secs engine) := by
  refine within_ask.bind fun woken => ?_
  cases (woken : PushAgent.Woken) with
  | elapsed stopped => trivial
  | retry stopped => exact within_forceRetry.bind fun _ => trivial
  | stop => trivial

theorem within_openSession : Within Reads (PushAgent.openSession file engine) := by
  rw [PushAgent.openSession]
  split
  next => trivial
  next => exact within_get.bind fun _ => within_get.bind fun _ => trivial

variable [PushAgent.PushText]

theorem within_deliverItem {item : PushAgent.PushItem} :
    Within Reads (PushAgent.deliverItem item session) := by
  rw [PushAgent.deliverItem]
  split
  next => trivial
  next =>
    refine within_offer.bind fun shown => ?_
    cases shown with
    | true => trivial
    | false => exact within_get.bind fun _ => trivial

theorem within_deliverItems {items : List PushAgent.PushItem} :
    Within Reads (PushAgent.deliverItems items session) := by
  induction items generalizing session with
  | nil => trivial
  | cons item items ih => exact within_deliverItem.bind fun _ => ih

theorem within_pulled {answer : PushAgent.Pulled} :
    Within Reads (PushAgent.pulled session engine answer) := by
  cases answer with
  | stop => trivial
  | retry => exact within_forceRetry.bind fun _ => trivial
  | ok response =>
    refine Within.bind (within_deliverItems.bind fun _ => trivial) fun _ => ?_
    exact within_flushBatches.bind fun _ => trivial
  | unauthorized => exact within_setState.bind fun _ => trivial
  | rateLimited => exact within_wait
  | unprocessable => exact within_wait
  | other => exact within_wait

theorem within_tick : Within Reads (PushAgent.tick engine) := by
  refine within_get.bind fun s => ?_
  cases s.agent with
  | none => exact within_setState.bind fun _ => within_wait
  | some file =>
    refine within_openSession.bind fun opened => ?_
    dsimp only
    split
    next => exact within_setState.bind fun _ => within_wait
    next =>
      refine within_setState.bind fun _ => within_retryDue.bind fun _ => ?_
      exact within_flushBatches.bind fun _ => within_ask.bind fun _ => within_pulled

theorem within_run {n : Nat} : Within Reads (PushAgent.run n engine) := by
  induction n generalizing engine with
  | zero => trivial
  | succ n ih =>
    refine within_ask.bind fun stopped => ?_
    cases (stopped : Bool) with
    | true => trivial
    | false =>
      refine within_tick.bind fun ticked => ?_
      dsimp only
      split
      next => trivial
      next => exact ih

end

/-! ## What each task owes -/

def books : Books World Answer (Multiset File) where
  effect
  answers := InTime
  inv _ := Kept

variable {α β : Type}

theorem pays_ret {a : α} {Q : α → Multiset File → Prop} (post : Q a owed) :
    Pays books (.ret a : Task α) owed Q := post

/-- What an answer to the agent leaves. -/
theorem Kept.heard (kept : Kept s owed) {c : PushAgent.Call} {r : PushAgent.Answer c}
    (timely : InTime (.agent c) r s) : Kept (effect (.agent c) r s) owed := by
  cases c with
  | onPush file message => exact kept.offered
  | writeShown entries =>
    cases (r : Bool) with
    | false => exact kept
    | true =>
      refine kept.own (List.append_ne_nil_of_left_ne_nil kept.looked _) timely ?_
      intro other ne absent
      cases other with
      | agent => exact absent
      | cursor => exact absent
      | shown => exact absurd rfl ne
  | writeCursor file =>
    cases (r : Bool) with
    | false => exact kept
    | true =>
      refine kept.own kept.looked timely ?_
      intro other ne absent
      cases other with
      | agent => exact absent
      | cursor => exact absurd rfl ne
      | shown => exact absent
  | _ => exact kept

/-- What a look of the agent leaves. -/
theorem Kept.noted (kept : Kept s owed) (place : PushAgent.Place) :
    Kept (s.1, note place s.1 s.1 s.2) owed := by
  cases place with
  | readAgent =>
    rw [note]
    split
    next some_ => exact kept.found some_
    next => exact kept
  | readShown => exact kept.readShown
  | _ => exact kept

/-- The agent owes nothing. -/
theorem pays_agent {task : PushAgent.Task α} (reads : Within Reads task) :
    Pays books ((task.noted Spot.agent note).called Call.agent fun _ r => r : Task α) 0
      fun _ owed => owed = 0 := by
  induction task with
  | ret a => rfl
  | sec place f k ih =>
    intro held s rest kept
    refine ⟨0, ?_, ih s.1 (reads.2 s.1)⟩
    have same : f s.1 = s.1 := reads.1 s.1
    have noted := kept.noted place
    change Kept (f s.1, note place s.1 (f s.1) s.2) (0 + rest)
    rw [same]
    exact noted
  | call c k ih =>
    intro held s rest r kept timely
    exact ⟨0, kept.heard timely, ih r (reads r)⟩
  | lock timed k ih =>
    refine ⟨fun s rest kept => ⟨0, kept, ih true (reads true)⟩, fun _ => ih false (reads false)⟩
  | unlock k ih => exact fun s rest kept => ⟨0, kept, ih reads⟩

theorem owes_watch {task : PushAgent.Task α} (reads : Within Reads task) :
    Owes books (watch task) 0 :=
  Pays.bind ((pays_agent reads).mono fun _ _ paid => paid)

theorem pays_withLock {p : Task α} {Q : α → Multiset File → Prop} (pays : Pays books p owed Q) :
    Pays books p.withLock owed Q := by
  refine ⟨fun s rest kept => ⟨owed, kept, ?_⟩, fun timed => by cases timed⟩
  refine Pays.bind (pays.mono fun a owed post => ?_)
  exact fun s rest kept => ⟨owed, kept, pays_ret post⟩

/-- A section that changes nothing but the app's own. -/
theorem pays_sessionState {f : World → α × World}
    (own : ∀ s, (f s).2 = s ∨ ∃ app, (f s).2 = (s.1, { s.2 with app })) :
    Pays books (sessionState f) 0 fun _ owed => owed = 0 := by
  refine pays_withLock fun held s rest kept => ⟨0, ?_, rfl⟩
  change Kept (f s).2 _
  rcases own s with same | ⟨app, same⟩
  · rw [same]
    exact kept
  · rw [same]
    exact kept.app app

/-- A call that changes nothing. -/
theorem pays_ask {c : Call} (same : ∀ r s, effect c r s = s) :
    Pays books (ask c) 0 fun _ owed => owed = 0 := by
  refine fun held s rest r kept _ => ⟨0, ?_, rfl⟩
  change Kept (effect c r s) _
  rw [same]
  exact kept

theorem pays_then {p : Task α} {k : α → Task β} (pays : Owes books p 0)
    (rest : ∀ a, Owes books (k a) 0) : Owes books (p.bind k) 0 := by
  refine Pays.bind (pays.mono ?_)
  rintro a owed rfl
  exact rest a

theorem pays_setDeviceState {session : Nat} {device : DeviceState} :
    Owes books (setDeviceState session device) 0 := by
  refine pays_sessionState fun s => ?_
  dsimp only
  split
  next => exact .inr ⟨_, rfl⟩
  next => exact .inl rfl

theorem pays_registerDevice {config : Config} {session : Nat} :
    Owes books (registerDevice config session) 0 := by
  refine pays_then (pays_ask fun _ _ => rfl) fun installation => ?_
  cases (installation : Except String String) with
  | error detail => exact pays_ret rfl
  | ok installation =>
    refine pays_then (pays_ask fun _ _ => rfl) fun answer => ?_
    cases (answer : Except ClientError Registration) with
    | error error =>
      dsimp only
      split
      next => exact pays_setDeviceState
      next => exact pays_ret rfl
    | ok registration =>
      refine pays_then (pays_sessionState fun _ => .inl rfl) fun current => ?_
      cases current with
      | false => exact pays_ret rfl
      | true =>
        refine pays_then ?_ fun written => ?_
        · intro held s rest written kept timely
          refine ⟨0, ?_, rfl⟩
          cases (written : Bool) with
          | false => exact kept
          | true =>
            refine kept.own (List.cons_ne_nil _ _) ?_ ?_
            · intro other mem
              rw [List.mem_singleton.mp mem]
              exact timely
            · intro other ne absent
              cases other with
              | agent => exact absurd rfl ne
              | cursor => exact absent
              | shown => exact absent
        · cases (written : Bool) with
          | true => exact pays_setDeviceState
          | false => exact pays_ret rfl

theorem pays_ensureDeviceRegistered {config : Config} {session : Nat} :
    Owes books (ensureDeviceRegistered config session) 0 := by
  refine pays_then (pays_sessionState fun _ => .inl rfl) fun wanted => ?_
  cases wanted with
  | true => exact pays_registerDevice
  | false => exact pays_ret rfl

theorem pays_onAccessRefreshed {config : Config} {session : Nat} :
    Owes books (onAccessRefreshed config session) 0 := by
  refine pays_then (pays_sessionState fun s => ?_) fun retry => ?_
  · dsimp only
    split
    next => exact .inr ⟨_, rfl⟩
    next => exact .inl rfl
  · cases retry with
    | true => exact pays_ensureDeviceRegistered
    | false => exact pays_ret rfl

/-- What is owed is removed, file by file. -/
theorem pays_removeAgentFiles :
    Owes books removeAgentFiles (↑[File.agent, .cursor, .shown] : Multiset File) := by
  have each : ∀ files : List File, Owes books (Prog.forEach files fun file => do
      let _ ← ask (.remove file)
      pure ()) (↑files : Multiset File) := by
    intro files
    induction files with
    | nil => rfl
    | cons file files ih =>
      intro held s rest removed kept timely
      refine ⟨↑files, ?_, ih⟩
      have removed : removed = true := timely
      subst removed
      rw [← Multiset.cons_coe, Multiset.cons_add] at kept
      exact kept.clear
  exact each _

theorem pays_unregisterDevice : Owes books unregisterDevice 0 := by
  intro held s rest kept
  refine ⟨0, kept, ?_⟩
  simp only [Prog.ret_bind]
  cases s.1.agent with
  | none => exact pays_ret rfl
  | some file =>
    refine pays_then (pays_sessionState fun _ => .inl rfl) fun session => ?_
    cases session with
    | none => exact pays_ret rfl
    | some session => exact pays_then (pays_ask fun _ _ => rfl) fun _ => pays_ret rfl

theorem pays_dropSession {only : Option Nat} : Owes books (dropSession only) 0 := by
  refine pays_withLock fun held s rest kept => ?_
  dsimp only
  split
  next => exact ⟨0, kept, pays_ret rfl⟩
  next =>
    rw [zero_add] at kept
    refine ⟨_, kept.ended false, ?_⟩
    change Pays books (removeAgentFiles.bind fun _ => pure true) _ _
    refine Pays.bind (pays_removeAgentFiles.mono ?_)
    rintro _ owed rfl
    exact pays_ret rfl

theorem pays_beginSession : Owes books beginSession 0 := by
  refine ⟨fun s rest kept => ⟨0, kept, ?_⟩, fun timed => by cases timed⟩
  intro held s rest kept
  dsimp only
  split
  next =>
    rw [zero_add] at kept
    refine ⟨_, kept.ended true, fun s rest kept => ⟨_, kept, ?_⟩⟩
    exact pays_removeAgentFiles
  next => exact ⟨0, kept.app _, fun s rest kept => ⟨0, kept, pays_ret rfl⟩⟩

theorem pays_op (config : Config) (op : Op) : Owes books (op.task config) 0 := by
  cases op with
  | signOut =>
    refine pays_then pays_unregisterDevice fun _ => pays_then pays_dropSession fun _ => ?_
    refine pays_then (pays_ask fun _ _ => rfl) fun _ => ?_
    exact pays_then (pays_ask fun _ _ => rfl) fun _ => pays_ret rfl
  | endSession session => exact pays_then pays_dropSession fun _ => pays_ret rfl
  | beginSession => exact pays_beginSession
  | ensureDeviceRegistered session => exact pays_ensureDeviceRegistered
  | onAccessRefreshed session => exact pays_onAccessRefreshed

/-! ## Every run -/

variable [PushAgent.PushText] {config : Config} {app : SessionState} {disk : Disk}
  {engine : PushAgent.Engine} {rounds : Nat} {ops : List Op} {p : Process}

theorem start_balanced : books.Balanced (fun _ owed => owed = 0)
    (start config app disk engine rounds ops) := by
  refine Books.Balanced.of_start ?_ ?_
  · refine ⟨?_, ?_, List.cons_ne_nil _ _, rfl, rfl, ?_⟩
    · exact fun _ _ gone => absurd gone List.not_mem_nil
    · exact fun _ nobody => absurd nobody (List.cons_ne_nil _ _)
    · exact fun _ => .inl fun _ ended => absurd ended List.not_mem_nil
  · intro r mem
    rcases List.mem_cons.mp mem with rfl | mem
    · exact owes_watch within_run
    · obtain ⟨op, -, rfl⟩ := List.mem_map.mp mem
      exact pays_op config op

omit [PushAgent.PushText]

instance InTime.decidable (s : World) : (c : Call) → (r : Answer c) → Decidable (InTime c r s)
  | .writeAgent _ _, true => instDecidableNot
  | .writeAgent _ _, false => isTrue trivial
  | .remove _, removed => instDecidableEqBool removed true
  | .agent (.writeCursor _), true => List.decidableBAll _ _
  | .agent (.writeCursor _), false => isTrue trivial
  | .agent (.writeShown _), true => List.decidableBAll _ _
  | .agent (.writeShown _), false => isTrue trivial
  | .agent .stopped, _ | .agent (.onState _), _ | .agent (.onPush _ _), _ | .agent (.pull _ _), _
  | .agent (.ack _ _), _ | .agent (.wait _), _ | .installationId, _ | .register _ _, _
  | .delete _ _, _ | .stopCores, _ | .logout, _ => isTrue trivial

instance Timely.decidable (p : Process) : (m : Move Answer) → Decidable (Timely p m)
  | .go _ | .giveUp _ => isTrue trivial
  | .answer i oracle => match task : p.task i with
    | some (.call c _) => decidable_of_iff (InTime c (oracle c) p.state) (by rw [Timely, task])
    | none => isTrue (by rw [Timely, task]; trivial)
    | some (.ret _) => isTrue (by rw [Timely, task]; trivial)
    | some (.sec _ _ _) => isTrue (by rw [Timely, task]; trivial)
    | some (.lock _ _) => isTrue (by rw [Timely, task]; trivial)
    | some (.unlock _) => isTrue (by rw [Timely, task]; trivial)

/-- Every call succeeds; the agent pulls one message. -/
def obliging : (c : Call) → Answer c
  | .agent c => PushAgent.obliging ⟨[{ id := 1 }], 1⟩ c
  | .installationId => .ok "i"
  | .register _ _ => .ok ⟨1, "ppd_1"⟩
  | .delete _ _ => ()
  | .writeAgent _ _ => true
  | .remove _ => true
  | .stopCores => ()
  | .logout => true

def steps (i n : Nat) : List (Move Answer) :=
  (List.replicate n [.go i, .answer i obliging]).flatten

def sampleConfig : Config := ⟨"https://api.example", "linux", "1.0", none, none⟩

/-- Session 1 is signed in, with the files of `disk`, and the agent goes one
round. -/
def signedIn (disk : Disk) (ops : List Op) : Process :=
  @start PushAgent.sampleText sampleConfig { session := 1, signedIn := true } disk {} 1 ops

/-- The agent's round, then a sign-out. -/
def inOrder : Process :=
  (signedIn { agent := some PushAgent.sampleAgent } [.signOut]).play effect Timely
    (steps 0 20 ++ steps 1 30)

end PpvpnCore.Desktop.Device
