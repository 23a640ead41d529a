import PpvpnCore.Lib.Shape
import PpvpnCore.Desktop.Operations

/-!
# Runs of enhanced mode

Any number of operations and of workers for what they spawn, in any order, from
a fresh start; and what holds of every state such a run reaches.

* `Plays`, `Plays.kept`: the runs, and that they keep to the discipline.
* `stays_off`: enhanced mode stays off once it is off.
* `kept_alive`: a connection that is on is kept alive and watched over.
* `recovery_bounded`: automatic recovery ends, in an outcome.
-/

namespace PpvpnCore.Desktop.Enhanced

open Lib
open Client (SessionRef)

/-! ## The shape of a recovery -/

def Place.attempts : Place → Bool
  | .attempt => true
  | _ => false

/-- Without attempts, and in one hold of the lock. -/
abbrev Straight {α : Type} (task : Task α) : Prop := Flat (Place.attempts · = false) task

variable {α β : Type} {by_ : Option UInt64} {g : UInt64}

theorem straight_bind {task : Task α} {k : α → Task β} (first : Straight task)
    (rest : ∀ a, Straight (k a)) : Straight (task >>= k) :=
  first.bind rest

theorem straight_ite {c : Prop} [Decidable c] {p q : Task α} (yes : Straight p)
    (no : Straight q) : Straight (if c then p else q) := by
  split
  next => exact yes
  next => exact no

theorem straight_done {a : α} : Straight (pure a : Task α) := trivial

theorem straight_step {place : Place} {f : State → α × State}
    (plain : place.attempts = false) : Straight (Prog.step place f) :=
  ⟨plain, fun _ => trivial⟩

theorem straight_update {place : Place} {f : State → State}
    (plain : place.attempts = false) : Straight (Prog.update place f) :=
  ⟨plain, fun _ => trivial⟩

theorem straight_read : Straight read := ⟨rfl, fun _ => trivial⟩

theorem straight_ask {c : Call} : Straight (ask c) := fun _ => trivial

theorem straight_emit : Straight emit := straight_bind straight_read fun _ => straight_ask

theorem straight_transition {phase : ConnectionPhase} {reason : Option ClientErrorInfo}
    {retryable : Bool} : Straight (transition by_ g phase reason retryable) := by
  refine straight_bind (straight_step rfl) fun applied => straight_ite ?_ straight_done
  exact straight_bind straight_emit fun _ => straight_done

theorem straight_persist (persisted : Persisted) : Straight (persist persisted) := by
  refine straight_bind straight_ask fun written => ?_
  cases (written : Except ClientErrorInfo Unit) with
  | ok => exact straight_done
  | error info => exact straight_ask

theorem straight_refreshInstalled : Straight refreshInstalled := by
  refine straight_bind straight_ask fun installed => ?_
  refine straight_bind (straight_step rfl) fun changed => ?_
  exact straight_ite (straight_bind straight_emit fun _ => straight_done) straight_done

theorem straight_stopLoops : Straight stopLoops :=
  straight_bind (straight_step rfl) fun _ => Flat.forEach fun _ => straight_update rfl

theorem straight_releaseSession (machine : Machine) : Straight (releaseSession machine) := by
  refine straight_ite straight_done ?_
  cases machine.session with
  | some session => exact straight_ask
  | none => exact straight_done

theorem straight_install : Straight install := by
  refine straight_bind straight_ask fun installed => ?_
  cases (installed : Except PlatformError Unit) with
  | ok =>
    refine straight_bind straight_ask fun _ => straight_bind straight_refreshInstalled fun _ => ?_
    exact straight_done
  | error e =>
    cases e with
    | cancelled => exact straight_done
    | failed message => exact straight_done

theorem straight_replaceStaleService (expected : Option String) :
    Straight (replaceStaleService expected by_ g) := by
  refine straight_bind straight_read fun s => straight_ite straight_done ?_
  refine straight_bind straight_ask fun answer => straight_ite straight_done ?_
  refine straight_bind (straight_update rfl) fun _ => straight_bind straight_transition fun _ => ?_
  refine straight_bind straight_install fun installed => ?_
  refine straight_bind straight_transition fun _ => straight_bind straight_ask fun answering => ?_
  cases installed with
  | error info =>
    cases (answering : Except ClientErrorInfo Unit) with
    | error info => exact straight_done
    | ok => exact straight_done
  | ok =>
    cases (answering : Except ClientErrorInfo Unit) with
    | error info => exact straight_done
    | ok =>
      refine straight_bind straight_ask fun version => straight_ite straight_done ?_
      exact straight_bind (straight_update rfl) fun _ => straight_done

theorem straight_installThenWait : Straight (installThenWait by_ g) := by
  refine straight_bind straight_transition fun _ => straight_bind straight_install fun installed => ?_
  cases installed with
  | error info => exact straight_done
  | ok => exact straight_bind straight_transition fun _ => straight_ask

theorem straight_ensureService (expected : Option String) (allowInstall : Bool) :
    Straight (ensureService expected by_ g allowInstall) := by
  refine straight_bind straight_refreshInstalled fun installed => straight_ite ?_ ?_
  · refine straight_bind straight_ask fun answer => ?_
    cases (answer : Option (Except ServiceError (Option String))) with
    | none => exact straight_ite straight_done straight_installThenWait
    | some answer =>
      cases answer with
      | ok build => exact straight_ite (straight_replaceStaleService expected) straight_done
      | error error =>
        cases error with
        | rejected detail => exact straight_done
        | protocol detail => exact straight_done
        | unavailable detail => exact straight_ite straight_done straight_installThenWait
        | failed detail => exact straight_ite straight_done straight_installThenWait
  · exact straight_ite straight_done straight_installThenWait

theorem straight_spawnLoop (kind : LoopKind) (session : SessionRef) :
    Straight (spawnLoop kind session) := straight_step rfl

theorem straight_startLoops : Straight (startLoops g) := by
  refine straight_bind (straight_step rfl) fun claimed => straight_ite straight_done ?_
  refine straight_bind straight_read fun s => ?_
  cases s.data.machine.session with
  | none => exact straight_done
  | some session =>
    refine straight_bind (straight_spawnLoop _ _) fun lease => ?_
    refine straight_bind (straight_spawnLoop _ _) fun health => ?_
    exact straight_bind (straight_spawnLoop _ _) fun watch => straight_update rfl

theorem straight_connectFailed {session : SessionRef} {retrying retryable : Bool}
    {info : ClientErrorInfo} : Straight (connectFailed by_ session retrying info retryable) :=
  straight_bind straight_ask fun _ => straight_bind straight_transition fun _ => straight_done

theorem straight_firstHealth (session : SessionRef) (revision : String) :
    Straight (firstHealth session revision) := by
  refine straight_bind straight_ask fun healthy => ?_
  cases (healthy : Except ClientErrorInfo Unit) with
  | ok => exact straight_done
  | error info =>
    refine straight_bind straight_read fun s => straight_ite ?_ straight_done
    exact straight_bind straight_ask fun _ => straight_bind straight_ask fun _ => straight_done

theorem straight_bringUp {profile : Profile} {session : SessionRef} {takeOver retrying : Bool} :
    Straight (bringUp by_ profile session takeOver retrying) := by
  refine straight_bind straight_transition fun _ => straight_bind straight_ask fun connected => ?_
  cases (connected : Except ServiceError Unit) with
  | error error => exact straight_connectFailed
  | ok =>
    refine straight_bind straight_ask fun answer => ?_
    cases (answer : Except ServiceError ServiceStatus) with
    | error error => exact straight_connectFailed
    | ok status =>
      refine straight_ite straight_connectFailed ?_
      refine straight_bind (straight_firstHealth _ _) fun healthy => ?_
      cases healthy with
      | error info => exact straight_connectFailed
      | ok =>
        refine straight_bind (straight_update rfl) fun _ => ?_
        refine straight_bind straight_startLoops fun _ => ?_
        exact straight_bind straight_transition fun _ => straight_done

theorem straight_attempt (expected : Option String) {profile : Profile} {session : SessionRef}
    {persisted : Persisted} {allowInstall takeOver retrying : Bool} :
    Straight (attempt expected by_ profile session persisted allowInstall takeOver retrying) := by
  refine straight_bind (straight_persist _) fun _ => straight_bind straight_emit fun _ => ?_
  refine straight_bind straight_ask fun conflict => ?_
  cases (conflict : Option (List String)) with
  | some competitors =>
    refine straight_bind (straight_step rfl) fun applied => straight_ite ?_ straight_done
    exact straight_bind straight_emit fun _ => straight_done
  | none =>
    refine straight_bind (straight_ensureService expected allowInstall) fun ensured => ?_
    cases ensured with
    | ok => exact straight_bringUp
    | error info =>
      refine straight_bind straight_transition fun _ => straight_ite ?_ straight_done
      refine straight_bind (straight_step rfl) fun persisted => ?_
      cases persisted with
      | some persisted => exact straight_bind (straight_persist _) fun _ => straight_done
      | none => exact straight_done

theorem straight_connectWith (expected : Option String) {profile : Profile}
    {allowInstall takeOver retrying : Bool} :
    Straight (connectWith expected by_ profile allowInstall takeOver retrying) := by
  refine straight_bind straight_stopLoops fun _ => straight_bind straight_ask fun sessionId => ?_
  refine straight_bind (straight_step rfl) fun begun => ?_
  cases begun with
  | error info => exact straight_done
  | ok begun => exact straight_attempt expected

/-- A recovery's generation is still its own: on when it starts, reconnecting
after a pause. -/
def stillOwn : Place → State → Prop
  | .finds g, s => s.data.machine.Is g .on
  | .resumes g, s => s.data.machine.Is g .reconnecting
  | _, _ => False

def sameData (s t : State) : Prop := t.data = s.data

/-- At most `n` attempts, and none of anything once its generation was taken
over. -/
structure Bounded (n : Nat) (task : Task α) : Prop where
  few : AtMost Place.attempts n task
  yields : GivesWay stillOwn sameData false task

variable {n : Nat}

theorem bounded_bind {task : Task α} {k : α → Task β} (first : Straight task)
    (rest : ∀ a, Bounded n (k a)) : Bounded n (task >>= k) :=
  ⟨AtMost.flat first fun a => (rest a).few, GivesWay.flat first fun a => (rest a).yields⟩

theorem bounded_ite {c : Prop} [Decidable c] {p q : Task α} (yes : Bounded n p)
    (no : Bounded n q) : Bounded n (if c then p else q) := by
  split
  next => exact yes
  next => exact no

theorem bounded_recovered : Bounded n recovered :=
  ⟨fun _ => trivial, fun _ => ⟨rfl, rfl⟩⟩

theorem bounded_over {task : Task α} (straight : Straight task) :
    Bounded n (do let _ ← task; recovered) :=
  bounded_bind straight fun _ => bounded_recovered

theorem straight_routingTakenOver : Straight (routingTakenOver g) :=
  straight_bind straight_transition fun _ => straight_done

theorem straight_claim : Straight claimRoutingReconnect :=
  straight_bind straight_ask fun _ => straight_step rfl

theorem bounded_follow {again : UInt64 → Task Unit} {attempt : Nat} {machine : Machine}
    (goes : ∀ g, Bounded n (again g)) : Bounded n (follow again attempt machine) := by
  unfold follow
  cases machine.reason with
  | none => exact bounded_recovered
  | some reason =>
    refine bounded_ite (goes _) (bounded_ite ?_ (bounded_ite ?_ bounded_recovered))
    · exact bounded_bind straight_transition fun _ => bounded_ite (goes _) bounded_recovered
    · exact bounded_over straight_transition

theorem bounded_afterAttempt {again : UInt64 → Task Unit} {attempt : Nat}
    (goes : ∀ g, Bounded n (again g)) : Bounded n (afterAttempt again attempt) := by
  refine bounded_bind straight_read fun s => ?_
  have decided : ∀ granted, Bounded n (followIf again attempt s.data.machine granted) :=
    fun granted => bounded_ite (bounded_over straight_routingTakenOver) (bounded_follow goes)
  exact bounded_ite (bounded_bind straight_claim decided) (bounded_bind straight_done decided)

theorem bounded_attempted {f : State → State} {k : State → Task α}
    (rest : ∀ s, Bounded n (k s)) : Bounded (n + 1) (Prog.sec .attempt f k) :=
  ⟨⟨n, rfl, fun s => (rest s).few⟩, fun s => (rest s).yields⟩

/-- An attempt, and what follows it. -/
theorem bounded_reconnect (expected : Option String) {again : UInt64 → Task Unit}
    (attempt : Nat) (goes : ∀ g, Bounded n (again g)) :
    Bounded (n + 1) (reconnect expected again attempt g) := by
  refine bounded_attempted fun s => ?_
  dsimp only [Prog.bind]
  cases s.data.profile with
  | none => exact bounded_afterAttempt goes
  | some profile =>
    refine bounded_bind (straight_connectWith expected) fun connected => ?_
    cases connected with
    | ok => exact bounded_recovered
    | error info => exact bounded_afterAttempt goes

theorem bounded_pauseThenReconnect (expected : Option String) (left : Nat) :
    ∀ g, Bounded left (pauseThenReconnect expected left g) := by
  induction left with
  | zero => exact fun g => bounded_bind straight_read fun _ => bounded_over straight_transition
  | succ left ih =>
    intro g
    have goes := bounded_reconnect (g := g) expected (serviceBackoffAttempts - (left + 1) + 1) ih
    refine ⟨fun _ _ s => ?_, ⟨rfl, rfl, fun _ _ => ⟨fun s other => ⟨rfl, (), ?_⟩, fun s => ?_⟩⟩⟩
    · show AtMost _ _ (if s.data.machine.Is g .reconnecting then reconnect expected
        (pauseThenReconnect expected left) _ g else .unlock (.ret ()))
      split
      next => exact goes.few
      next => exact trivial
    · exact if_neg other
    · show GivesWay _ _ _ (if s.data.machine.Is g .reconnecting then reconnect expected
        (pauseThenReconnect expected left) _ g else .unlock (.ret ()))
      split
      next => exact goes.yields
      next => exact ⟨rfl, rfl⟩

theorem bounded_giveUp {machine : Machine} {cause : ClientErrorInfo} :
    Bounded n (giveUp machine g cause) := by
  refine bounded_bind straight_stopLoops fun _ => ?_
  refine bounded_bind (straight_releaseSession machine) fun _ => ?_
  exact bounded_ite (bounded_over straight_transition) (bounded_over straight_transition)

theorem bounded_reconnects (expected : Option String) {cause : ClientErrorInfo} {found : Found}
    (granted : Bool) :
    Bounded (1 + serviceBackoffAttempts) (reconnects expected g cause found granted) := by
  have pauses := bounded_pauseThenReconnect expected serviceBackoffAttempts
  refine bounded_ite ?_ ?_
  · refine bounded_bind straight_stopLoops fun _ => ?_
    refine bounded_bind (straight_releaseSession _) fun _ => ?_
    exact bounded_over straight_routingTakenOver
  · refine bounded_bind straight_transition fun _ => ?_
    refine bounded_bind (straight_releaseSession _) fun _ => bounded_ite ?_ ?_
    · exact ⟨(pauses g).few.mono (by omega), (pauses g).yields⟩
    · rw [Nat.add_comm]
      exact bounded_reconnect expected 0 pauses

theorem bounded_recoverFound (expected : Option String) {cause : ClientErrorInfo}
    (found : Option Found) :
    Bounded (1 + serviceBackoffAttempts) (recoverFound expected g cause found) := by
  cases found with
  | none => exact ⟨trivial, rfl, rfl⟩
  | some found =>
    refine bounded_ite bounded_giveUp (bounded_ite ?_ ?_)
    · exact bounded_bind straight_claim fun granted => bounded_reconnects expected granted
    · exact bounded_bind straight_done fun granted => bounded_reconnects expected granted

/-- One recovery: the attempt it may make at once, and one after each pause. -/
theorem bounded_recover (expected : Option String) (cause : ClientErrorInfo) :
    Bounded (1 + serviceBackoffAttempts) (recover expected g cause) := by
  refine ⟨fun _ s => (bounded_recoverFound expected _).few,
    fun _ => ⟨fun s other => ?_, fun s => (bounded_recoverFound expected _).yields⟩⟩
  have off : ¬s.data.machine.Is g .on := other
  dsimp only
  rw [if_neg off]
  exact ⟨rfl, (), rfl⟩

/-! ## Runs -/

abbrev Process := Pool Scene Place Answer Unit

/-- The app starts, and is asked for `ops`. -/
def start (expected : Option String) (ops : List Op) : Process :=
  { state := ({}, {}), tasks := ops.map fun op => { prog := watch (op.task expected) } }

def Fair (p : Process) : Move Answer → Prop
  | .answer i oracle => match p.task i with
    | some (.call c _) => answers c (oracle c) p.state
    | _ => True
  | .go _ | .giveUp _ => True

/-- A process that any run reaches. -/
abbrev Reached (expected : Option String) (ops : List Op) (p : Process) : Prop :=
  Reaches (beside effect hear) Fair (start expected ops) p

theorem fair_grants : discipline.Grants Fair where
  sec _ _ _ := trivial
  answer := by
    intro p i oracle c k fair task
    rw [Fair, task] at fair
    exact fair

theorem start_kept (expected : Option String) (ops : List Op) :
    discipline.Kept (start expected ops) := by
  refine Discipline.Kept.of_free rfl ?_ ?_ ?_
  · exact ⟨fun _ _ _ => rfl, (fun _ _ off => by cases off), rfl, fun _ => rfl,
      (fun _ here => by cases here), Budget.fresh 0⟩
  · exact ⟨rfl, (fun _ here => by cases here), fun _ _ => rfl, (fun here => by cases here),
      fun _ on => by cases on⟩
  · intro i prog here
    simp only [start, Pool.task, List.getElem?_map, Option.map_map] at here
    obtain ⟨op, -, rfl⟩ := Option.map_eq_some_iff.mp here
    exact obeys_op expected op

variable {expected : Option String} {ops : List Op} {p : Process}

theorem Reached.kept (reached : Reached expected ops p) : discipline.Kept p :=
  Reaches.obeys (start_kept expected ops) fair_grants reached

/-- After a disable has returned, enhanced mode stays off as long as no aborted
loop reports a takeover and no restore finds loops running; and no background
task ever changes the machine of a later generation. -/
theorem stays_off (reached : Reached expected ops p) :
    (p.state.2.late = false → p.state.2.relaunched = false → p.state.2.off = true →
      (machineOf p.state).phase = .off) ∧
    p.state.2.trespassed = false :=
  ⟨reached.kept.good.off, reached.kept.good.kept⟩

/-- While nobody has the lock and the generation is on, its lease loop runs or a
recovery is pending, and so it is for what its watch found. -/
theorem kept_alive (reached : Reached expected ops p) (careful : p.state.2.Careful)
    (free : p.owner = none) (on : (machineOf p.state).Is g .on) :
    (Renewed g p.state.1 ∨ Pending g p.state.1) ∧
      (g ∈ p.state.2.heard → Told g p.state.1 ∨ Pending g p.state.1) := by
  obtain ⟨rfl, on⟩ := on
  obtain ⟨cared, heeded⟩ := (reached.kept.inv free).sound careful on
  exact ⟨cared, heeded⟩

/-- Automatic recovery is bounded, and ends in an outcome as long as there is a
next generation. -/
theorem recovery_bounded (reached : Reached expected ops p) :
    (∀ generation cause, Bounded (1 + serviceBackoffAttempts)
      (recover expected generation cause)) ∧
    (p.state.2.exhausted = false → p.state.2.hung = false) ∧ Spread p.state.2.grants :=
  ⟨fun _ cause => bounded_recover expected cause, reached.kept.good.ended, reached.kept.good.budget.spread⟩

/-! ## Runs that can be executed -/

instance answers.decidable (s : Scene) :
    (c : Call) → (r : Answer c) → Decidable (answers c r s)
  | .take, .loop l verdict => decEq (s.1.table l) (.asleep verdict)
  | .take, .recover generation cause =>
    List.instDecidableMemOfLawfulBEq (generation, cause) s.1.spawned
  | .renewLease l, r =>
    decEq (r : Option (Except ServiceError ServiceStatus)).isSome (s.1.alive l)
  | .watch l, r => match (r : Option WatchEnd) with
    | some _ => decEq (s.1.table l) (.busy none)
    | none => decEq (s.1.alive l) false
  | .checkHealth l _, r => decEq (r : Option (Except ClientErrorInfo Unit)).isSome (s.1.alive l)
  | .excused l _, r => decEq (r : Option Bool).isSome (s.1.alive l)
  | .newSessionId, r => @instDecidableNot _ (instDecidableEqString r "")
  | .clock, r => Nat.decLe s.2.now r
  | .onState _, _ | .onError _, _ | .persist _, _ | .loadPersisted, _ | .serviceInstalled, _
  | .getVersion, _ | .installService, _ | .uninstallService, _ | .waitForService, _ | .resetAuth, _
  | .preflight, _ | .connect _ _ _, _ | .getStatus, _ | .getStatusWithin, _ | .runHealth _ _, _
  | .healthSettle, _ | .disconnect _, _ | .release _, _ | .updateProfile _ _, _ | .confirmPolls, _
  | .pause _, _ => isTrue trivial

instance Fair.decidable (p : Process) : (m : Move Answer) → Decidable (Fair p m)
  | .go _ | .giveUp _ => isTrue trivial
  | .answer i oracle => match task : p.task i with
    | some (.call c _) => decidable_of_iff (answers c (oracle c) p.state) (by rw [Fair, task])
    | none => isTrue (by rw [Fair, task]; trivial)
    | some (.ret _) => isTrue (by rw [Fair, task]; trivial)
    | some (.sec _ _ _) => isTrue (by rw [Fair, task]; trivial)
    | some (.lock _ _) => isTrue (by rw [Fair, task]; trivial)
    | some (.unlock _) => isTrue (by rw [Fair, task]; trivial)

/-- A service that does all it is asked to. -/
def obliging (take : Job) (status : ServiceStatus) (renewed : Except ServiceError ServiceStatus)
    (watched : WatchEnd) (persisted : Option Persisted) : (c : Call) → Answer c
  | .onState _ | .onError _ | .resetAuth | .healthSettle | .release _ | .pause _ => ()
  | .persist _ | .waitForService | .runHealth _ _ => (.ok () : Except ClientErrorInfo Unit)
  | .loadPersisted => persisted
  | .serviceInstalled => true
  | .getVersion => (some (.ok none) : Option (Except ServiceError (Option String)))
  | .installService | .uninstallService => (.ok () : Except PlatformError Unit)
  | .preflight => (none : Option (List String))
  | .newSessionId => ("s" : String)
  | .connect _ _ _ | .disconnect _ | .updateProfile _ _ => (.ok () : Except ServiceError Unit)
  | .getStatus => (.ok status : Except ServiceError ServiceStatus)
  | .getStatusWithin => (some (.ok status) : Option (Except ServiceError ServiceStatus))
  | .confirmPolls | .clock => (0 : Nat)
  | .take => take
  | .renewLease _ => some renewed
  | .watch _ => some watched
  | .checkHealth _ _ => (some (.ok ()) : Option (Except ClientErrorInfo Unit))
  | .excused _ _ => some false

/-- The profile is stored first, then the operations take turns. -/
def first : Profile := ⟨.null, "r1"⟩

def sessionAt (generation : UInt64) : SessionRef := ⟨"s", generation⟩
def leaseAt (generation : UInt64) : Loop := ⟨0, .lease, sessionAt generation⟩
def watchAt (generation : UInt64) : Loop := ⟨2, .watch, sessionAt generation⟩

/-- The world of generation `generation`, whose connection another session took. -/
def world (generation : UInt64) (take : Job) : (c : Call) → Answer c :=
  obliging take ⟨true, some "s", generation, none⟩ (.error (.failed "STALE_OR_FOREIGN_SESSION"))
    (.coreStopped "exited") (some ⟨generation, true, some "s", some "r1"⟩)

/-- Task `i` takes `n` steps. -/
def steps (i n : Nat) (world : (c : Call) → Answer c) : List (Move Answer) :=
  (List.replicate n [.go i, .answer i world]).flatten

/-- The profile, the mode on, and task 2 for `job`, which takes `n` steps. -/
def onThen (job : Job) (n : Nat) : List (Move Answer) :=
  steps 0 5 (world 1 job) ++ steps 1 60 (world 1 job) ++ steps 2 n (world 1 job)

/-- The lease loop is past its check when a disable aborts it. -/
def lateRun (after : Nat) : Process :=
  (start none [.setProfile first, .enable, .worker, .disable]).play (beside effect hear) Fair
    (onThen (.loop (leaseAt 1) none) 4 ++ steps 3 30 (world 1 (.loop (leaseAt 1) none)) ++
      steps 2 after (world 1 (.loop (leaseAt 1) none)))

/-- Off, as long as the aborted loop does not get to its report. -/
theorem stays_off_disabled : (lateRun 0).state.2.off = true ∧
    (machineOf (lateRun 0).state).phase = .off ∧ (lateRun 0).state.2.trespassed = false := by
  have reached : Reached none [.setProfile first, .enable, .worker, .disable] (lateRun 0) :=
    Reaches.of_play _ _
  obtain ⟨off, kept⟩ := stays_off reached
  exact ⟨by decide +kernel, off (by decide +kernel) (by decide +kernel) (by decide +kernel), kept⟩

/-- The disable has returned, and the aborted loop's report leaves the machine
contended. -/
theorem contended_once_off :
    Reached none [.setProfile first, .enable, .worker, .disable] (lateRun 8) ∧
    (lateRun 8).owner = none ∧ (lateRun 8).state.2.off = true ∧
    (machineOf (lateRun 8).state).phase = .contended := by
  refine ⟨Reaches.of_play _ _, ?_, ?_, ?_⟩
  · decide +kernel
  · decide +kernel
  · decide +kernel

/-- The watch loop hears that its core stopped. -/
def heardRun : Process :=
  (start none [.setProfile first, .enable, .worker]).play (beside effect hear) Fair
    (onThen (.loop (watchAt 1) none) 2)

theorem kept_alive_heard : 1 ∈ heardRun.state.2.heard ∧
    (Renewed 1 heardRun.state.1 ∨ Pending 1 heardRun.state.1) ∧
    (Told 1 heardRun.state.1 ∨ Pending 1 heardRun.state.1) := by
  have reached : Reached none [.setProfile first, .enable, .worker] heardRun :=
    Reaches.of_play _ _
  have heard : 1 ∈ heardRun.state.2.heard := by decide +kernel
  obtain ⟨cared, told⟩ := kept_alive (g := 1) reached
    ⟨by decide +kernel, by decide +kernel, by decide +kernel, by decide +kernel⟩
    (by decide +kernel) ⟨by decide +kernel, by decide +kernel⟩
  exact ⟨heard, cared, told heard⟩

/-- A takeover is reported while a profile update is in flight. -/
def crossedRun : Process :=
  (start none [.setProfile first, .enable, .worker, .setProfile ⟨.null, "r2"⟩]).play
    (beside effect hear) Fair
    (onThen (.loop (leaseAt 1) none) 4 ++ steps 3 3 (world 1 (.loop (leaseAt 1) none)) ++
      [.go 3] ++ steps 2 8 (world 1 (.loop (leaseAt 1) none)) ++
      steps 3 20 (world 1 (.loop (leaseAt 1) none)))

/-- The update writes `On` over the takeover: nothing renews the lease any more,
and no recovery is pending. -/
theorem unattended :
    Reached none [.setProfile first, .enable, .worker, .setProfile ⟨.null, "r2"⟩] crossedRun ∧
    crossedRun.owner = none ∧ (machineOf crossedRun.state).Is 1 .on ∧
    ¬Renewed 1 crossedRun.state.1 ∧ ¬Pending 1 crossedRun.state.1 := by
  have reached : Reached none [.setProfile first, .enable, .worker, .setProfile ⟨.null, "r2"⟩]
    crossedRun := Reaches.of_play _ _
  have free : crossedRun.owner = none := by decide +kernel
  refine ⟨reached, free, ⟨by decide +kernel, by decide +kernel⟩, ?_, ?_⟩
  · rintro ⟨l, kind, -, alive⟩
    have listed := (reached.kept.inv free).listed l alive
    have none_ : ∀ l ∈ crossedRun.state.1.data.loops,
        ¬(l.kind = .lease ∧ crossedRun.state.1.alive l = true) := by
      decide +kernel
    exact none_ l listed ⟨kind, alive⟩
  · rintro ⟨cause, spawned | waiting⟩
    · rw [show crossedRun.state.1.spawned = [] by decide +kernel] at spawned
      cases spawned
    · rw [show crossedRun.state.1.waiting = [] by decide +kernel] at waiting
      cases waiting

/-- A launch at `generation`, whose core stops. -/
def stoppedRun (generation : UInt64) : Process :=
  let loop : Job := .loop (watchAt generation) none
  let cause : ClientErrorInfo := coreStopped "exited"
  (start none [.setProfile first, .restore, .worker, .worker]).play (beside effect hear) Fair
    (steps 0 5 (world generation loop) ++ steps 1 60 (world generation loop) ++
      steps 2 10 (world generation loop) ++
      steps 3 80 (world (generation + 1) (.recover generation cause)))

theorem recovery_bounded_once : (stoppedRun 6).owner = none ∧
    (machineOf (stoppedRun 6).state).Is 7 .on ∧ (stoppedRun 6).state.2.hung = false ∧
    Spread (stoppedRun 6).state.2.grants := by
  have reached : Reached none [.setProfile first, .restore, .worker, .worker] (stoppedRun 6) :=
    Reaches.of_play _ _
  obtain ⟨-, ended, spread⟩ := recovery_bounded reached
  exact ⟨by decide +kernel, ⟨by decide +kernel, by decide +kernel⟩, ended (by decide +kernel), spread⟩

/-- After the last generation: the recovery has returned, and the machine says
`Reconnecting`. -/
theorem hangs :
    Reached none [.setProfile first, .restore, .worker, .worker]
      (stoppedRun 18446744073709551615) ∧
    (stoppedRun 18446744073709551615).owner = none ∧
    (stoppedRun 18446744073709551615).state.2.hung = true ∧
    (machineOf (stoppedRun 18446744073709551615).state).phase = .reconnecting := by
  refine ⟨Reaches.of_play _ _, ?_, ?_, ?_⟩
  · decide +kernel
  · decide +kernel
  · decide +kernel

end PpvpnCore.Desktop.Enhanced
