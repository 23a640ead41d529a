import PpvpnCore.Service.Machine

/-!
# The tasks keep to the machine

One lemma for each function of the service: every step of it is one of `Step`,
taken when its guard holds, and it leaves the lock as it found it. What is known
while it runs is said by predicates that the other tasks leave alone.

* `Empty`: the slot is empty, and nothing is left of what was in it.
* `Fresh`: a new instance in the slot that is being brought up.
* `Flying`: an update between its two locked sections.
* `serve_keeps`: every task of the service.
-/

namespace PpvpnCore.Service

open Lib

variable {ops : Nat → Op} {i : Nat} {host : Host}

/-! ## Stopping -/

/-- The slot is empty and every instance there was is gone. -/
structure Empty (start : Option Nat) (w : World) : Prop extends Sound w where
  empty : w.state = none
  starting : w.starting = start

theorem Held.empty {s t : World} {start : Option Nat} (held : Held s t) (empty : Empty start s) :
    Empty start t :=
  { held.sound empty.toSound with
    empty := held.state.trans empty.empty
    starting := held.starting.trans empty.starting }

theorem Empty.tidy {w : World} {start : Option Nat} (empty : Empty start w) : Tidy w :=
  { empty.toSound with right := fun _ core here => by rw [empty.empty] at here; cases here }

theorem Empty.allDown {w : World} {start : Option Nat} (empty : Empty start w) : w.AllDown := by
  intro key x here made
  rcases empty.down key ⟨x, here, made⟩ with ⟨core, there, -⟩ | ⟨y, there, downs⟩
  · rw [empty.empty] at there
    cases there
  · rw [here] at there
    cases there
    exact downs

/-- The current instance was taken out and then shut down. -/
theorem Sound.shut {s w : World} {core : RunningCore} {hub : Hub} {log : List Note} (sound : Sound s)
    (here : s.state = some core) (held : Held { s with state := none, hub, log } w) :
    Empty s.starting (w.setInstance core.key fun x => { x with downs := x.downs + 1 }) where
  empty := held.state
  starting := held.starting
  down key made := by
    rw [World.At.setInstance (fun _ => by rfl)] at made
    have before : s.At key (·.made = true) := (held.at_iff (P := fun x => x.made = true)).mp made
    right
    by_cases eq : key = core.key
    · subst eq
      have fresh := (sound.current core here).2.1
      obtain ⟨x, found, -, downs, -⟩ := (held.at_iff (P := fun x =>
        x.made = true ∧ x.downs = 0 ∧ x.owner = core.ownerUser)).mpr fresh
      refine ⟨_, by rw [w.get_setInstance, found]; rfl, ?_⟩
      simp only [if_true]
      exact congrArg (· + 1) downs
    · rcases sound.down key before with ⟨core', here', same⟩ | gone
      · rw [here] at here'
        cases here'
        exact (eq same.symm).elim
      · obtain ⟨x, found, downs⟩ := (held.at_iff (P := fun x => x.downs = 1)).mpr gone
        exact ⟨x, by rw [w.get_setInstance, found]; simp [eq], downs⟩
  current core' here' := by
    have gone : w.state = some core' := here'
    rw [held.state] at gone
    cases gone
  flights flight mem := by
    obtain ⟨inside, le, -⟩ := sound.flights flight (held.flights mem)
    refine ⟨?_, held.launched.symm ▸ le, fun core' here' => ?_⟩
    · simpa [World.setInstance] using held.length inside
    · have gone : w.state = some core' := here'
      rw [held.state] at gone
      cases gone

/-- Whether the task may stop what is in the slot. -/
def MayStop (ops : Nat → Op) (i : Nat) (w : World) : Prop :=
  ∀ core, w.state = some core → (ops i).mayStop w core

theorem Held.mayStop {s t : World} (held : Held s t) (may : MayStop ops i s) : MayStop ops i t := by
  intro core here
  rcases may core (held.state ▸ here) with stops | dead | own
  · exact .inl stops
  · exact .inr (.inl (held.dead core dead))
  · exact .inr (.inr own)

/-- The slot was emptied by task `i`. -/
structure Emptied (i : Nat) (s t : World) : Prop extends Empty s.starting t where
  launched : t.launched = s.launched
  stopping : s.stopping = true → t.stopping = true
  alone : t.overlapped = false → s.overlapped = false ∧
    ∀ flight, flight.task = i → s.flights = [flight] → t.flights = [flight]

theorem Since.emptied {s t u : World} (since : (machine ops).Since i true t u)
    (emptied : Emptied i s t) : Emptied i s u := by
  have held := Since.held since
  refine { held.empty emptied.toEmpty with
    launched := held.launched.trans emptied.launched
    stopping := fun h => held.stopping (emptied.stopping h)
    alone := fun open_ => ?_ }
  obtain ⟨before, one⟩ := emptied.alone ((Since.later since).overlapped open_)
  exact ⟨before, fun flight own alone =>
    ((Since.later since).alone open_ flight own (one flight own alone)).1⟩

theorem keeps_stopBecause {reason : String} {s : World} (sound : Sound s) (may : MayStop ops i s) :
    Keeps (machine ops) i (stopBecause host reason) (fun _ m t => m = true ∧ Emptied i s t) true s := by
  refine Keeps.step fun t since => ?_
  have held := Since.held since
  have sound' := held.sound sound
  have alone : t.overlapped = false → s.overlapped = false ∧
      ∀ flight, flight.task = i → s.flights = [flight] → t.flights = [flight] := fun open_ =>
    ⟨(Since.later since).overlapped open_, fun flight own one =>
      ((Since.later since).alone open_ flight own one).1⟩
  cases here : t.state with
  | none =>
    have same : t.stopCore reason = (none, t) := by simp [World.stopCore, here]
    have emptied : Emptied i s t :=
      { sound' with
        empty := here, starting := held.starting, launched := held.launched
        stopping := held.stopping, alone }
    rw [same]
    exact ⟨.idle, fun u later => ⟨rfl, Since.emptied later emptied⟩⟩
  | some core =>
    have first : (t.stopCore reason).1 = some core := by simp [World.stopCore, here]
    refine ⟨.stopped reason core here (held.mayStop may core here), ?_⟩
    rw [first, t.stopCore_of here]
    refine Keeps.ask fun u later => ?_
    have held' := Since.held later
    obtain ⟨at_, -⟩ := (sound'.current core here).2
    have at' : u.At core.key fun x => x.made = true ∧ x.downs = 0 :=
      (held'.at_iff (P := fun x => x.made = true ∧ x.downs = 0)).mpr
        (at_.imp fun x known => ⟨known.1, known.2.1, known.2.2.1⟩)
    refine ⟨⟨held'.state, at'⟩, fun r => ⟨.shut core.key at' held'.state, ?_⟩⟩
    have empty := sound'.shut here held'
    rw [held.starting] at empty
    have emptied : Emptied i s (u.setInstance core.key fun x => { x with downs := x.downs + 1 }) := by
      refine { empty with
        launched := held'.launched.trans held.launched
        stopping := fun h => held'.stopping (held.stopping h)
        alone := fun open_ => ?_ }
      obtain ⟨before, one⟩ := alone ((Since.later later).overlapped open_)
      exact ⟨before, fun flight own only =>
        ((Since.later later).alone open_ flight own (one flight own only)).1⟩
    split
    next exits =>
      refine Keeps.update fun v after => ⟨.exit, fun x last => ⟨rfl, ?_⟩⟩
      have now := Since.emptied after emptied
      exact Since.emptied last { now with }
    next => exact fun v after => ⟨rfl, Since.emptied after emptied⟩

/-! ## Bringing an instance up -/

/-- A new instance in the slot, which its `Connect` brings up. -/
structure Fresh (i : Nat) (core : RunningCore) (w : World) : Prop extends Sound w where
  here : w.state = some core
  starting : w.starting = some i
  own : w.At core.key (·.task = i)
  apart : ∀ flight ∈ w.flights, flight.key ≠ core.key

theorem Held.fresh {s t : World} {core : RunningCore} (held : Held s t) (fresh : Fresh i core s) :
    Fresh i core t :=
  { held.sound fresh.toSound with
    here := held.state.trans fresh.here
    starting := held.starting.trans fresh.starting
    own := (held.at_iff (P := fun x => x.task = i)).mpr fresh.own
    apart := fun flight mem => fresh.apart flight (held.flights mem) }

/-- The instance of the slot is called for its owner. -/
theorem Fresh.owner {w : World} {core : RunningCore} (fresh : Fresh i core w)
    (user : core.ownerUser = (ops i).user) : w.At core.key (·.owner = (ops i).user) := by
  obtain ⟨x, found, -, -, owner⟩ := (fresh.current core fresh.here).2.1
  exact ⟨x, found, owner.trans user⟩

theorem Sound.setRuns {w : World} (sound : Sound w) (key : Nat) (applied : Applied) :
    Sound (w.setInstance key ({ · with runs := some applied })) where
  down k made := by
    rw [World.At.setInstance (fun _ => by rfl)] at made
    rcases sound.down k made with now | gone
    · exact .inl now
    · exact .inr ((World.At.setInstance (fun _ => by rfl)).mpr gone)
  current core here := by
    obtain ⟨id, at_, revised⟩ := sound.current core here
    exact ⟨id, (World.At.setInstance (fun _ => by rfl)).mpr at_, revised⟩
  flights flight mem := by
    obtain ⟨inside, rest⟩ := sound.flights flight mem
    exact ⟨by simpa [World.setInstance] using inside, rest⟩

theorem World.runs_set {w : World} {key : Nat} {P : Instance → Prop} (at_ : w.At key P)
    (applied : Applied) :
    (w.setInstance key ({ · with runs := some applied })).runs key = some applied := by
  obtain ⟨x, found, -⟩ := at_
  rw [World.runs, w.get_setInstance, found]
  simp

/-- One of the service's own calls, which change nothing here. -/
theorem keeps_callInstance {mine : Bool} {key : Nat} {path : String} {body : Value} {s : World}
    {Q : Except String Value → Bool → World → Prop} (other : path ≠ applyPath)
    (known : ∀ t, (machine ops).Since i mine s t → t.At key (·.owner = (ops i).user))
    (after : ∀ r t, (machine ops).Since i mine s t → Q r mine t) :
    Keeps (machine ops) i (callInstance key path body).run Q mine s := by
  intro t since
  refine ⟨known t since, fun r => ⟨.api path, fun u later => after r u (since.trans ?_)⟩⟩
  have same : World.perform (.api key path body) r t = t := by simp [World.perform, other]
  rwa [← same]

theorem keeps_checkSchema {mine : Bool} {key : Nat} {requested : UInt64} {s : World}
    {Q : Except String Unit → Bool → World → Prop}
    (known : ∀ t, (machine ops).Since i mine s t → t.At key (·.owner = (ops i).user))
    (after : ∀ r t, (machine ops).Since i mine s t → Q r mine t) :
    Keeps (machine ops) i (checkSchema key requested).run Q mine s := by
  refine Keeps.bindExcept (keeps_callInstance (by decide) known fun r t since => ?_)
  cases r with
  | error e => exact fun u later => after _ u (since.trans later)
  | ok version =>
    dsimp only
    split
    · exact fun u later => after _ u (since.trans later)
    · split
      · exact fun u later => after _ u (since.trans later)
      · exact fun u later => after _ u (since.trans later)

/-- An `apply-profile` takes effect or, failing, may not have. -/
theorem keeps_applyProfile {mine : Bool} {key : Nat} {request : ApplyRequest} {s : World}
    {Q : Except String Value → Bool → World → Prop}
    (known : ∀ t, (machine ops).Since i mine s t → t.At key (·.owner = (ops i).user))
    (step : ∀ t, (machine ops).Since i mine s t →
      Step ops i mine t (t.setInstance key ({ · with runs := some request.applied })))
    (failed : ∀ e t, (machine ops).Since i mine s t → Q (.error e) mine t)
    (took : ∀ r t u, (machine ops).Since i mine s t → (machine ops).Since i mine
      (t.setInstance key ({ · with runs := some request.applied })) u → Q r mine u) :
    Keeps (machine ops) i (applyProfile key request).run Q mine s := by
  refine Keeps.ask fun t since => ⟨known t since, fun answer => ?_⟩
  obtain ⟨result, committed⟩ := (answer : ApplyAnswer)
  by_cases takes : (result.isOk || committed) = true
  · have eq : (machine ops).effect (.apply key request) ⟨result, committed⟩ t =
        t.setInstance key ({ · with runs := some request.applied }) := if_pos takes
    rw [eq]
    exact ⟨step t since, fun u later => took _ t u since later⟩
  · have eq : (machine ops).effect (.apply key request) ⟨result, committed⟩ t = t := if_neg takes
    rw [eq]
    refine ⟨.idle, fun u later => ?_⟩
    cases result with
    | ok value => exact (takes rfl).elim
    | error e => exact failed e u (since.trans later)

/-- Checked, its profile applied and started; or not. -/
theorem keeps_bringUp {core : RunningCore} {schema : UInt64} {request : ApplyRequest} {s : World}
    (fresh : Fresh i core s) (user : core.ownerUser = (ops i).user) :
    Keeps (machine ops) i (bringUp core.key schema request).run (fun r m t => m = true ∧
      Fresh i core t ∧ (r = .ok () → t.runs core.key = some request.applied)) true s := by
  have stays : ∀ {s t}, Fresh i core s → (machine ops).Since i true s t → Fresh i core t :=
    fun fresh since => (Since.held since).fresh fresh
  refine Keeps.bindExcept (keeps_checkSchema (fun t since => (stays fresh since).owner user)
    fun r t since => ?_)
  have fresh := stays fresh since
  cases r with
  | error e => exact fun u later => ⟨rfl, stays fresh later, nofun⟩
  | ok _ =>
    refine Keeps.bindExcept (keeps_applyProfile (fun u later => (stays fresh later).owner user)
      (fun u later => ?_) (fun e u later => ?_) fun r u v later after => ?_)
    · have fresh := stays fresh later
      exact .brought core.key request.applied fresh.starting fresh.own fresh.apart (fresh.owner user)
    · exact fun v after => ⟨rfl, stays fresh (later.trans after), nofun⟩
    · have fresh := stays fresh later
      have set : Fresh i core (u.setInstance core.key ({ · with runs := some request.applied })) :=
        { fresh.toSound.setRuns core.key request.applied with
          here := fresh.here
          starting := fresh.starting
          own := (World.At.setInstance (fun _ => by rfl)).mpr fresh.own
          apart := fresh.apart }
      have runs : v.runs core.key = some request.applied := by
        rw [(Since.held after).runs core.key set.apart]
        exact World.runs_set fresh.own request.applied
      have fresh := stays set after
      cases r with
      | error e => exact fun x last => ⟨rfl, stays fresh last, nofun⟩
      | ok value =>
        refine Keeps.bindExcept (keeps_callInstance (by decide)
          (fun x last => (stays fresh last).owner user) fun r x last => ?_)
        have runs : x.runs core.key = some request.applied :=
          ((Since.held last).runs core.key fresh.apart).trans runs
        have fresh := stays fresh last
        cases r with
        | error e => exact fun y end_ => ⟨rfl, stays fresh end_, nofun⟩
        | ok value =>
          exact fun y end_ => ⟨rfl, stays fresh end_, fun _ =>
            ((Since.held end_).runs core.key fresh.apart).trans runs⟩

/-! ## Connect -/

/-- The instance `key` was asked for. -/
structure Asked (start : Option Nat) (i : Nat) (user : Option String) (key : Nat) (w : World) : Prop
    extends Empty start w where
  own : w.At key fun x => x.task = i ∧ x.made = false ∧ x.downs = 0 ∧ x.owner = user
  apart : ∀ flight ∈ w.flights, flight.key ≠ key

theorem Held.asked {s t : World} {start : Option Nat} {user : Option String} {key : Nat}
    (held : Held s t) (asked : Asked start i user key s) : Asked start i user key t :=
  { held.empty asked.toEmpty with
    own := (held.at_iff (P := fun x =>
      x.task = i ∧ x.made = false ∧ x.downs = 0 ∧ x.owner = user)).mpr asked.own
    apart := fun flight mem => asked.apart flight (held.flights mem) }

theorem Empty.asked {w : World} {start : Option Nat} (empty : Empty start w) (user : Option String) :
    Asked start i user w.instances.length (w.asked i user).2 where
  down key made := by
    obtain ⟨x, found, made⟩ := made
    rcases World.asked_cases found with before | ⟨-, rfl⟩
    · rcases empty.down key ⟨x, before, made⟩ with now | ⟨y, gone, downs⟩
      · exact .inl now
      · exact .inr ⟨y, w.get_asked i user gone, downs⟩
    · cases made
  current core here := by
    have gone : w.state = some core := here
    rw [empty.empty] at gone
    cases gone
  flights flight mem := by
    obtain ⟨inside, le, rest⟩ := empty.flights flight mem
    refine ⟨?_, le, rest⟩
    simp only [World.asked, List.length_append, List.length_singleton]
    omega
  empty := empty.empty
  starting := empty.starting
  own := ⟨{ task := i, owner := user }, by simp [World.asked], rfl, rfl, rfl, rfl⟩
  apart flight mem := Nat.ne_of_lt (empty.flights flight mem).1

/-- The instance `key` was created and is in no slot yet. -/
structure Made (start : Option Nat) (i : Nat) (user : Option String) (key : Nat) (w : World) :
    Prop where
  empty : w.state = none
  starting : w.starting = start
  own : w.At key fun x => x.task = i ∧ x.made = true ∧ x.downs = 0 ∧ x.owner = user
  down : ∀ k, k ≠ key → w.At k (·.made = true) → w.At k (·.downs = 1)
  flights : ∀ flight ∈ w.flights, flight.key < w.instances.length ∧ flight.id ≤ w.launched ∧
    flight.key ≠ key

theorem Held.made {s t : World} {start : Option Nat} {user : Option String} {key : Nat}
    (held : Held s t) (made : Made start i user key s) : Made start i user key t where
  empty := held.state.trans made.empty
  starting := held.starting.trans made.starting
  own := (held.at_iff (P := fun x =>
    x.task = i ∧ x.made = true ∧ x.downs = 0 ∧ x.owner = user)).mpr made.own
  down k ne at_ := (held.at_iff (P := fun x => x.downs = 1)).mpr
    (made.down k ne ((held.at_iff (P := fun x => x.made = true)).mp at_))
  flights flight mem := by
    obtain ⟨inside, le, ne⟩ := made.flights flight (held.flights mem)
    exact ⟨held.length inside, held.launched ▸ le, ne⟩

theorem Asked.made {w : World} {start : Option Nat} {user : Option String} {key : Nat}
    (asked : Asked start i user key w) : Made start i user key (w.setInstance key ({ · with made := true })) where
  empty := asked.empty
  starting := asked.starting
  own := by
    obtain ⟨x, found, task, -, downs, owner⟩ := asked.own
    refine ⟨{ x with made := true }, by rw [w.get_setInstance, found]; simp, task, rfl, downs, owner⟩
  down k ne at_ := by
    obtain ⟨x, found, made⟩ := at_
    rw [w.get_setInstance, Option.map_eq_some_iff] at found
    obtain ⟨y, found, rfl⟩ := found
    rw [if_neg ne] at made
    refine (World.At.setInstance (fun _ => by rfl)).mpr ⟨y, found, ?_⟩
    exact asked.toEmpty.allDown k y found made
  flights flight mem := by
    obtain ⟨inside, le, -⟩ := asked.toSound.flights flight mem
    exact ⟨by simpa [World.setInstance] using inside, le, asked.apart flight mem⟩

theorem Made.stored {w : World} {user : Option String} {key : Nat} {body : ConnectPayload}
    {revision : String} (made : Made (some i) i user key w) (revised : Revised body.profile revision) :
    ∃ core, Fresh i core (w.store key body revision user) ∧ core.key = key ∧ core.ownerUser = user ∧
      core.applied = ⟨body.profile, body.allowedRuleSetHosts, body.routingMode⟩ := by
  refine ⟨_, ⟨⟨fun k at_ => ?_, fun core here => ?_, fun flight mem => ?_⟩, rfl, made.starting, ?_,
    fun flight mem => ?_⟩, rfl, rfl, rfl⟩
  · by_cases eq : k = key
    · exact .inl ⟨_, rfl, eq.symm⟩
    · exact .inr (made.down k eq at_)
  · cases here
    refine ⟨rfl, ?_, revised⟩
    exact made.own.imp fun x known => ⟨known.1, known.2.2⟩
  · obtain ⟨inside, le, ne⟩ := made.flights flight mem
    refine ⟨inside, Nat.le_succ_of_le le, fun core here => ?_⟩
    cases here
    refine ⟨fun eq => (ne eq.symm).elim, fun eq => ?_⟩
    have later : w.launched + 1 = flight.id := eq
    omega
  · exact made.own.imp fun x known => ⟨known.1, known.2.1⟩
  · exact (made.flights flight mem).2.2

/-- Nothing is in the slot, or what is runs as recorded. -/
theorem keeps_startCore {body : ConnectPayload} {user : Option String} {s : World}
    (empty : Empty (some i) s) (caller : user = (ops i).user) :
    Keeps (machine ops) i (startCore host i body user).run (fun r m t => m = true ∧ Tidy t ∧
      t.starting = some i ∧ ∀ e, r = .error e → t.state = none) true s := by
  have fails : ∀ {s : World} {e : String}, Empty (some i) s → ∀ t, (machine ops).Since i true s t →
      true = true ∧ Tidy t ∧ t.starting = some i ∧
        ∀ e', (Except.error e : Except String Nat) = .error e' → t.state = none := by
    intro s e empty t since
    have empty := (Since.held since).empty empty
    exact ⟨rfl, empty.tidy, empty.starting, fun _ _ => empty.empty⟩
  refine Keeps.exceptBind (fun found checked => ?_) fun e _ => fails empty
  obtain ⟨revision, schema⟩ := found
  refine Keeps.exceptBind (fun _ _ => ?_) fun e _ => fails empty
  have nothing : MayStop ops i s := by
    intro core here
    rw [empty.empty] at here
    cases here
  refine Keeps.bindLift ((keeps_stopBecause empty.toSound nothing).mono fun _ m t emptied => ?_)
  obtain ⟨rfl, emptied⟩ := emptied
  have empty : Empty (some i) t := { emptied.toEmpty with starting := emptied.starting.trans empty.starting }
  refine Keeps.tryStep fun u since => ?_
  have empty := (Since.held since).empty empty
  subst caller
  refine ⟨.asked empty.empty empty.allDown (.inl empty.starting), ?_⟩
  have asked := empty.asked (i := i) (ops i).user
  have key : (u.asked i (ops i).user).1 = u.instances.length := rfl
  rw [key]
  refine Keeps.bindExcept fun v later => ?_
  have asked := (Since.held later).asked asked
  have own : v.At u.instances.length fun x => x.task = i ∧ x.made = false ∧ x.downs = 0 :=
    asked.own.imp fun x known => ⟨known.1, known.2.1, known.2.2.1, known.2.2.2.1⟩
  refine ⟨⟨asked.empty, asked.toEmpty.allDown, own, .inl asked.starting⟩, fun answer => ?_⟩
  cases (answer : Except String Unit) with
  | error e => exact ⟨.idle, fun w after => fails ((Since.held after).empty asked.toEmpty)⟩
  | ok _ =>
    refine ⟨.launched _ own asked.empty asked.toEmpty.allDown (.inl asked.starting), fun w after => ?_⟩
    have made := (Since.held after).made asked.made
    refine Keeps.tryUpdate fun x last => ?_
    have made := (Since.held last).made made
    have revised : Revised body.profile revision := ⟨schema, checked⟩
    obtain ⟨core, fresh, key, owner, applied⟩ := made.stored revised
    refine ⟨.stored _ body revision (made.own.imp fun x known => ⟨known.1, known.2⟩) made.empty
      made.starting (fun flight mem => (made.flights flight mem).2.2) revised, ?_⟩
    rw [← key] at fresh ⊢
    refine Keeps.bindLift (p := (bringUp core.key schema _).run) ((keeps_bringUp fresh owner).mono fun r m y ended => ?_)
    obtain ⟨rfl, fresh, runs⟩ := ended
    cases r with
    | error e =>
      have may : MayStop ops i y := by
        intro core' here
        rw [fresh.here] at here
        cases here
        exact .inr (.inr owner)
      refine Keeps.bindLift ((keeps_stopBecause fresh.toSound may).mono fun _ m z emptied => ?_)
      obtain ⟨rfl, emptied⟩ := emptied
      exact fails { emptied.toEmpty with starting := emptied.starting.trans fresh.starting }
    | ok _ =>
      have tidy : Tidy y := by
        refine { fresh.toSound with right := fun _ core' here _ => ?_ }
        rw [fresh.here] at here
        cases here
        rw [World.Matches, runs rfl, applied]
        rfl
      exact fun z since => ⟨rfl, Since.tidy since tidy,
        (Since.held since).starting.trans fresh.starting, by simp⟩

/-- No instance of task `i` is in the slot. -/
def NotOf (i : Nat) (w : World) : Prop := ∀ core, w.state = some core → ¬ w.At core.key (·.task = i)

theorem Later.notOf {s t : World} (later : Later i s t) (none_ : NotOf i s) : NotOf i t := by
  intro core here own
  obtain ⟨old, there, key, before⟩ := later.own core here own
  exact none_ old there (key ▸ before)

theorem notOf_empty {w : World} (empty : w.state = none) : NotOf i w := by
  intro core here
  rw [empty] at here
  cases here

theorem sameUser_eq {owner caller : Option String} (same : sameUser owner caller = true) :
    owner = caller := by
  cases owner <;> cases caller <;> simp_all [sameUser]

/-- What a `Connect` finds when it does not refuse or reuse the slot. -/
theorem World.decision_cases (w : World) (body : ConnectPayload) (user : Option String)
    {core : RunningCore} (here : w.state = some core) :
    (w.live core = false ∧ w.decision body user = .expired) ∨
      (w.live core = true ∧ core.ownerUser = user ∧ sameUser core.ownerUser user = true ∧
        (core.session = body.session ∧ w.decision body user = .same ∨
          core.session ≠ body.session ∧ body.takeOver = true ∧ w.decision body user = .takeOver)) ∨
      ∃ code, w.decision body user = .refused code := by
  simp only [World.decision, here, ownership]
  cases live : w.live core with
  | false => simp
  | true =>
    cases same : sameUser core.ownerUser user with
    | false => simp
    | true =>
      have eq := sameUser_eq same
      by_cases session : core.session = body.session
      · simp [session, eq]
      · cases takes : body.takeOver <;> simp [session, eq]

theorem World.setCore_from {w : World} {f : RunningCore → RunningCore} {core : RunningCore}
    (here : (w.setCore f).state = some core) : ∃ old, w.state = some old ∧ f old = core := by
  simpa [World.setCore] using here

theorem Sound.setCore {w : World} {f : RunningCore → RunningCore} (sound : Sound w)
    (same : ∀ core, SameCore core (f core))
    (revised : ∀ core, w.state = some core → Revised (f core).profile (f core).profileRevision) :
    Sound (w.setCore f) where
  down key made := by
    rcases sound.down key made with ⟨core, here, eq⟩ | gone
    · exact .inl ⟨f core, by simp [World.setCore, here], (same core).key.symm.trans eq⟩
    · exact .inr gone
  current core here := by
    obtain ⟨old, there, rfl⟩ := World.setCore_from here
    obtain ⟨id, at_, -⟩ := sound.current old there
    refine ⟨(same old).id.symm.trans id, ?_, revised old there⟩
    rw [← (same old).key, ← (same old).owner]
    exact at_
  flights flight mem := by
    obtain ⟨inside, le, match_⟩ := sound.flights flight mem
    refine ⟨inside, le, fun core here => ?_⟩
    obtain ⟨old, there, rfl⟩ := World.setCore_from here
    rw [← (same old).key, ← (same old).id]
    exact match_ old there

theorem Tidy.renew {w : World} (tidy : Tidy w) : Tidy w.renew := by
  have sound : Sound w.renew := tidy.toSound.setCore (fun _ => ⟨rfl, rfl, rfl, rfl⟩)
    fun core here => (tidy.current core here).2.2
  refine { sound with right := fun open_ core here apart => ?_ }
  obtain ⟨old, there, rfl⟩ := World.setCore_from here
  exact tidy.right open_ old there apart

theorem keeps_connectLocked {body : ConnectPayload} {user : Option String} {s : World} (tidy : Tidy s)
    (starting : s.starting = some i) (notOf : NotOf i s) (caller : user = (ops i).user) :
    Keeps (machine ops) i (connectLocked host i body user).run (fun r m t => m = true ∧ Tidy t ∧
      t.starting = some i ∧ ∀ e, r = .error e → NotOf i t) true s := by
  have fails : ∀ {s : World} {e : String}, Tidy s → s.starting = some i → NotOf i s →
      ∀ t, (machine ops).Since i true s t → true = true ∧ Tidy t ∧ t.starting = some i ∧
        ∀ e', (Except.error e : Except String Nat) = .error e' → NotOf i t := by
    intro s e tidy starting notOf t since
    exact ⟨rfl, Since.tidy since tidy, (Since.held since).starting.trans starting,
      fun _ _ => (Since.later since).notOf notOf⟩
  have starts : ∀ {s : World}, Empty (some i) s → Keeps (machine ops) i (startCore host i body user).run
      (fun r m t => m = true ∧ Tidy t ∧ t.starting = some i ∧ ∀ e, r = .error e → NotOf i t) true s := by
    intro s empty
    refine (keeps_startCore empty caller).mono fun r m t ended => ?_
    obtain ⟨rfl, tidy, starting, failed⟩ := ended
    exact ⟨rfl, tidy, starting, fun e error => notOf_empty (failed e error)⟩
  refine Keeps.exceptBind (fun _ _ => ?_) fun e _ => fails tidy starting notOf
  refine Keeps.tryGet fun t since => ?_
  have tidy := Since.tidy since tidy
  have starting := (Since.held since).starting.trans starting
  have notOf := (Since.later since).notOf notOf
  -- Whatever is in the slot and may be stopped goes before the new one comes.
  have replaces : ∀ {reason : String}, MayStop ops i t → Keeps (machine ops) i
      (liftM (stopBecause host reason) >>= fun _ => startCore host i body user : Try Nat).run
      (fun r m t => m = true ∧ Tidy t ∧ t.starting = some i ∧ ∀ e, r = .error e → NotOf i t) true t := by
    intro reason may
    refine Keeps.bindLift ((keeps_stopBecause tidy.toSound may).mono fun _ m u emptied => ?_)
    obtain ⟨rfl, emptied⟩ := emptied
    exact starts { emptied.toEmpty with starting := emptied.starting.trans starting }
  cases here : t.state with
  | none =>
    have decided : t.decision body user = .free := by simp [World.decision, here]
    rw [decided]
    exact starts { tidy.toSound with empty := here, starting := starting }
  | some core =>
    have only : ∀ core', t.state = some core' → core' = core := by
      intro core' there
      rw [here] at there
      cases there
      rfl
    rcases t.decision_cases body user here with
      ⟨dead, decided⟩ | ⟨-, owner, same, ⟨-, decided⟩ | ⟨-, -, decided⟩⟩ | ⟨code, decided⟩
    · rw [decided]
      exact replaces fun core' there => only core' there ▸ .inr (.inl dead)
    · rw [decided]
      refine Keeps.tryUpdate fun u later => ?_
      have here : u.state = some core := (Since.held later).state.trans here
      refine ⟨.renew core here (caller ▸ same), fun v last => ⟨rfl, ?_, ?_, nofun⟩⟩
      · exact Since.tidy last (Since.tidy later tidy).renew
      · exact (Since.held last).starting.trans ((Since.held later).starting.trans starting)
    · rw [decided]
      exact replaces fun core' there => only core' there ▸ .inr (.inr (owner.trans caller))
    · rw [decided]
      exact fails tidy starting notOf

/-- What a task ends with: a `Connect` that failed has no instance, and the
service that was stopped is. -/
structure Ended (ops : Nat → Op) (i : Nat) (reply : Reply) (w : World) : Prop where
  failed : ∀ user body, ops i = .connect user body → ∀ e, reply = .error e → NotOf i w
  stopped : ops i = .stopDataPlane → w.stopped = true

theorem keeps_connect {body : ConnectPayload} {user : Option String} {s : World} (notOf : NotOf i s)
    (op : ops i = .connect user body) :
    Keeps (machine ops) i (connect host i body user)
      (fun reply m t => m = false ∧ Ended ops i reply t) false s := by
  have caller : user = (ops i).user := by rw [op]; rfl
  have ended : ∀ {reply : Reply} {t : World}, (∀ e, reply = .error e → NotOf i t) →
      Ended ops i reply t := fun failed => ⟨fun _ _ _ => failed, fun other => by cases op.symm.trans other⟩
  refine Keeps.step fun t since => ?_
  have notOf := (Since.later since).notOf notOf
  cases stops : t.stopping with
  | true =>
    have shut : t.letIn i = (false, t) := by simp [World.letIn, stops]
    rw [shut]
    exact ⟨.idle, fun u later => ⟨rfl, ended fun _ _ => (Since.later later).notOf notOf⟩⟩
  | false =>
    have open_ : t.letIn i = (true, { t with waiting := t.waiting ++ [i] }) := by
      simp [World.letIn, stops]
    rw [open_]
    refine ⟨.letIn stops, Keeps.bind (Keeps.withLock
      (P := fun (r : Except String Nat) u => ∀ e, r = .error e → NotOf i u)
      (fun u later clean => ?_) fun r u v failed later => ?_)⟩
    · have waits : i ∈ u.waiting := (Since.later later).waiting (by simp)
      have notOf : NotOf i u := (Since.later later).notOf notOf
      refine Keeps.update fun v after => ?_
      have tidy := Since.tidy after clean.toTidy
      have free := (Since.held after).starting.trans clean.starting
      have entered : Tidy (v.enter i) := { tidy with right := tidy.right }
      refine ⟨.enter free ((Since.later after).waiting waits), Keeps.bind
        ((keeps_connectLocked entered rfl ((Since.later after).notOf notOf) caller).mono
          fun r m x ended => ?_)⟩
      obtain ⟨rfl, tidy, starting, failed⟩ := ended
      refine Keeps.update fun y last => ?_
      have left : Clean y.leave := { Since.tidy last tidy with right := (Since.tidy last tidy).right, starting := rfl }
      have failed : ∀ e, r = .error e → NotOf i y := fun e error =>
        (Since.later last).notOf (failed e error)
      refine ⟨.leave ((Since.held last).starting.trans starting), fun z end_ => ⟨rfl, ?_, ?_⟩⟩
      · exact { Since.tidy end_ left.toTidy with starting := (Since.held end_).starting }
      · exact fun e error => (Since.later end_).notOf (failed e error)
    · refine fun x last => ⟨rfl, ended fun e error => ?_⟩
      cases r with
      | ok pid => cases error
      | error e' => exact ((Since.later later).trans (Since.later last)).notOf (failed e' rfl)

/-! ## The other requests -/

theorem World.authorize_ok {w : World} {session : SessionRef} {user : Option String}
    {core : RunningCore} (ok : w.authorize host session user = .ok core) :
    w.state = some core ∧ sameUser core.ownerUser user = true ∧ core.session = session ∧
      w.live core = true := by
  simp only [World.authorize, bind, Except.bind] at ok
  split at ok
  · cases ok
  split at ok
  next core' here =>
    split at ok
    · cases ok
    next passed =>
    simp only [access] at passed
    split at passed
    · cases passed
    next same =>
    split at passed
    · cases passed
    next equal =>
    split at ok
    · cases ok
    next alive =>
    cases ok
    exact ⟨here, by simpa using same, by simpa using equal, by simpa using alive⟩
  next => cases ok

theorem Since.clean {s t : World} (since : (machine ops).Since i true s t) (clean : Clean s) :
    Clean t :=
  { Since.tidy since clean.toTidy with starting := (Since.held since).starting.trans clean.starting }

theorem Since.core {s t : World} {core : RunningCore} (since : (machine ops).Since i true s t)
    (here : s.state = some core) : t.state = some core :=
  (Since.held since).state.trans here

/-- A section under the lock that nobody asks anything of. -/
theorem keeps_withLock {α : Type} {p : Task α} {s : World}
    (inside : ∀ t, Clean t → Keeps (machine ops) i p (fun _ m u => m = true ∧ Clean u) true t) :
    Keeps (machine ops) i p.withLock (fun _ m _ => m = false) false s :=
  Keeps.withLock (P := fun _ _ => True)
    (fun t _ clean => (inside t clean).mono fun _ _ _ ended => ⟨ended.1, ended.2, trivial⟩)
    fun _ _ _ _ _ => rfl

/-- A section under the lock that ends where nothing is changed. -/
theorem keeps_ret {α : Type} {a : α} {s : World} (clean : Clean s) :
    Keeps (machine ops) i (.ret a : Task α) (fun _ m u => m = true ∧ Clean u) true s :=
  fun _ since => ⟨rfl, Since.clean since clean⟩

theorem Clean.renew {w : World} (clean : Clean w) : Clean w.renew :=
  { clean.toTidy.renew with starting := clean.starting }

theorem keeps_stopClean {reason : String} {s : World} (clean : Clean s) (may : MayStop ops i s) :
    Keeps (machine ops) i (stopBecause host reason) (fun _ m t => m = true ∧ Clean t) true s := by
  refine (keeps_stopBecause clean.toSound may).mono fun _ m t emptied => ?_
  obtain ⟨rfl, emptied⟩ := emptied
  exact ⟨rfl, { emptied.tidy with starting := emptied.starting.trans clean.starting }⟩

theorem mayStop_owner {w : World} {core : RunningCore} (here : w.state = some core)
    (owner : core.ownerUser = (ops i).user) : MayStop ops i w := by
  intro core' there
  rw [here] at there
  cases there
  exact .inr (.inr owner)

section

variable {session : SessionRef} {user : Option String} {s : World}

theorem keeps_renewLeaseLocked (clean : Clean s) (caller : user = (ops i).user) :
    Keeps (machine ops) i (renewLeaseLocked host session user).run
      (fun _ m t => m = true ∧ Clean t) true s := by
  refine Keeps.tryGet fun t since => ?_
  have clean := Since.clean since clean
  refine Keeps.exceptBind (fun core ok => ?_) fun e _ => keeps_ret clean
  obtain ⟨here, same, -, -⟩ := World.authorize_ok ok
  refine Keeps.tryUpdate fun u later => ?_
  refine ⟨.renew core (Since.core later here) (caller ▸ same), ?_⟩
  have clean := (Since.clean later clean).renew
  exact Keeps.tryGet fun v last => keeps_ret (Since.clean last clean)

theorem keeps_disconnectLocked (clean : Clean s) (caller : user = (ops i).user) :
    Keeps (machine ops) i (disconnectLocked host session user).run
      (fun _ m t => m = true ∧ Clean t) true s := by
  refine Keeps.tryGet fun t since => ?_
  have clean := Since.clean since clean
  refine Keeps.exceptBind (fun core ok => ?_) fun e _ => keeps_ret clean
  obtain ⟨here, same, -, -⟩ := World.authorize_ok ok
  have may : MayStop ops i t := mayStop_owner here ((sameUser_eq same).trans caller)
  refine Keeps.bind ((keeps_stopClean clean may).mono fun _ m u ended => ?_)
  obtain ⟨rfl, clean⟩ := ended
  exact keeps_ret clean

theorem Clean.register {w : World} (clean : Clean w) : Clean (w.register session).2 := by
  obtain ⟨hub, log, eq⟩ := w.register_frame session
  rw [eq]
  exact { clean with right := clean.right }

theorem keeps_watchLocked (clean : Clean s) (caller : user = (ops i).user) :
    Keeps (machine ops) i (watchLocked host session user).run
      (fun _ m t => m = true ∧ Clean t) true s := by
  refine Keeps.tryGet fun t since => ?_
  have clean := Since.clean since clean
  refine Keeps.exceptBind (fun core ok => ?_) fun e _ => keeps_ret clean
  obtain ⟨here, same, own, -⟩ := World.authorize_ok ok
  intro u later
  refine ⟨.register session core (Since.core later here) (caller ▸ same) own, ?_⟩
  exact keeps_ret (Since.clean later clean).register

theorem keeps_watch (caller : user = (ops i).user) :
    Keeps (machine ops) i (watch host session user) (fun _ m _ => m = false) false s := by
  refine Keeps.bind ((keeps_withLock fun t clean => keeps_watchLocked clean caller).mono
    fun r m t free => ?_)
  subst free
  cases r with
  | error e => exact fun _ _ => rfl
  | ok id => exact fun u _ => ⟨.drop id, fun _ _ => rfl⟩

/-- The instance a Core API call is bound to is the caller's. -/
theorem keeps_prepareCall {payload : CoreApiPayload} (clean : Clean s) (caller : user = (ops i).user) :
    Keeps (machine ops) i (prepareCall host payload user).run (fun r m t => m = true ∧ Clean t ∧
      ∀ key, r = .ok key → t.At key (·.owner = (ops i).user)) true s := by
  have fails : ∀ {s : World} {e : String}, Clean s → ∀ t, (machine ops).Since i true s t →
      true = true ∧ Clean t ∧ ∀ key, (Except.error e : Except String Nat) = .ok key →
        t.At key (·.owner = (ops i).user) :=
    fun clean t since => ⟨rfl, Since.clean since clean, nofun⟩
  rw [prepareCall]
  split
  · exact fails clean
  refine Keeps.tryGet fun t since => ?_
  have clean := Since.clean since clean
  refine Keeps.exceptBind (fun core ok => ?_) fun e _ => fails clean
  obtain ⟨here, same, -, -⟩ := World.authorize_ok ok
  refine Keeps.tryUpdate fun u later => ?_
  have clean := Since.clean later clean
  have here := Since.core later here
  refine ⟨.renew core here (caller ▸ same), fun v last => ⟨rfl, Since.clean last clean.renew, ?_⟩⟩
  rintro key eq
  cases eq
  obtain ⟨x, found, -, -, owner⟩ := (clean.current core here).2.1
  obtain ⟨y, found', -, owner'⟩ := (Since.later last).instances core.key x found
  exact ⟨y, found', owner'.trans (owner.trans ((sameUser_eq same).trans caller))⟩

theorem Later.owner {t : World} {key : Nat} {user : Option String} (later : Later i s t)
    (at_ : s.At key (·.owner = user)) : t.At key (·.owner = user) := by
  obtain ⟨x, found, owner⟩ := at_
  obtain ⟨y, found', -, owner'⟩ := later.instances key x found
  exact ⟨y, found', owner'.trans owner⟩

theorem keeps_callApi {payload : CoreApiPayload} (caller : user = (ops i).user) :
    Keeps (machine ops) i (callApi host payload user).run (fun _ m _ => m = false) false s := by
  refine Keeps.bindExcept (Keeps.withLock
    (P := fun r t => ∀ key, r = .ok key → t.At key (·.owner = (ops i).user))
    (fun t _ clean => keeps_prepareCall clean caller) fun r t u known later => ?_)
  cases r with
  | error e => exact fun _ _ => rfl
  | ok key =>
    intro v after
    have own := ((Since.later later).trans (Since.later after)).owner (known key rfl)
    exact ⟨own, fun _ => ⟨.api payload.path, fun _ _ => rfl⟩⟩

end

/-! ## UpdateProfile -/

/-- The update `⟨i, id, key⟩` may land. -/
structure Landing (i id key : Nat) (w : World) : Prop where
  le : id ≤ w.launched
  alone : w.overlapped = false → w.flights = [⟨i, id, key⟩]
  right : w.raced = false → ∀ core, w.state = some core → core.id = id →
    core.key = key ∧ w.Matches core

theorem overlapped_of_raced {w : World} (open_ : w.raced = false) : w.overlapped = false := by
  simp only [World.raced, Bool.or_eq_false_iff] at open_
  exact open_.1.1

theorem Later.landing {s t : World} {id key : Nat} (later : Later i s t)
    (landing : Landing i id key s) : Landing i id key t where
  le := Nat.le_trans landing.le later.launched
  alone open_ := (later.alone open_ _ rfl (landing.alone (later.overlapped open_))).1
  right open_ core here eq := by
    have apart := overlapped_of_raced open_
    obtain ⟨-, runs, recorded⟩ := later.alone apart _ rfl (landing.alone (later.overlapped apart))
    obtain ⟨old, there, eq', applied⟩ := recorded landing.le core here eq
    obtain ⟨old', there', same⟩ := later.core core here (eq ▸ landing.le)
    rw [there] at there'
    cases there'
    obtain ⟨key', matches_⟩ := landing.right (later.raced open_) old there eq'
    refine ⟨same.key.symm.trans key', ?_⟩
    have runs : t.runs key = s.runs key := runs
    rw [World.Matches, ← same.key, key', runs, ← applied, ← key']
    exact matches_

theorem Landing.step {w : World} {id key : Nat} (landing : Landing i id key w) {mine : Bool} :
    Step ops i mine w (w.landed i) := by
  refine .land fun open_ core here mine_ => ?_
  obtain ⟨flight, mem, -, eq⟩ := mine_
  rw [landing.alone (overlapped_of_raced open_)] at mem
  cases List.mem_singleton.mp mem
  exact (landing.right open_ core here eq.symm).2

/-- The update of `core` is in flight. -/
structure Flying (ops : Nat → Op) (i : Nat) (core : RunningCore) (w : World) : Prop where
  le : core.id ≤ w.launched
  here : ⟨i, core.id, core.key⟩ ∈ w.flights
  alone : w.overlapped = false → w.flights = [⟨i, core.id, core.key⟩]
  own : w.At core.key (·.owner = (ops i).user)
  same : ∀ core', w.state = some core' → core'.id = core.id → SameCore core core'
  recorded : w.overlapped = false → ∀ core', w.state = some core' → core'.id = core.id →
    core'.applied = core.applied

theorem Later.flying {s t : World} {core : RunningCore} (later : Later i s t)
    (flying : Flying ops i core s) : Flying ops i core t where
  le := Nat.le_trans flying.le later.launched
  here := later.flights _ flying.here rfl
  alone open_ := (later.alone open_ _ rfl (flying.alone (later.overlapped open_))).1
  own := later.owner flying.own
  same core' here eq := by
    obtain ⟨old, there, same⟩ := later.core core' here (eq ▸ flying.le)
    have first := flying.same old there (same.id.trans eq)
    exact ⟨first.id.trans same.id, first.key.trans same.key, first.session.trans same.session,
      first.owner.trans same.owner⟩
  recorded open_ core' here eq := by
    have before := later.overlapped open_
    obtain ⟨-, -, recorded⟩ := later.alone open_ _ rfl (flying.alone before)
    obtain ⟨old, there, eq', applied⟩ := recorded flying.le core' here eq
    rw [← applied]
    exact flying.recorded before old there eq'

/-- As long as no other update is in flight, the instance runs `applied`. -/
theorem Later.ran {s t : World} {core : RunningCore} {applied : Applied} (later : Later i s t)
    (flying : Flying ops i core s)
    (runs : s.overlapped = false → s.runs core.key = some applied) :
    t.overlapped = false → t.runs core.key = some applied := by
  intro open_
  have before := later.overlapped open_
  obtain ⟨-, same, -⟩ := later.alone open_ _ rfl (flying.alone before)
  exact same.trans (runs before)

theorem Flying.setRuns {w : World} {core : RunningCore} (flying : Flying ops i core w)
    (applied : Applied) : Flying ops i core (w.setInstance core.key ({ · with runs := some applied })) :=
  { flying with own := (World.At.setInstance (fun _ => by rfl)).mpr flying.own }

/-- What is recorded runs again: the update may land. -/
theorem Flying.landing {w : World} {core : RunningCore} (flying : Flying ops i core w)
    (runs : w.raced = false → w.runs core.key = some core.applied) :
    Landing i core.id core.key w where
  le := flying.le
  alone := flying.alone
  right open_ core' here eq := by
    have key := (flying.same core' here eq).key
    refine ⟨key.symm, ?_⟩
    rw [World.Matches, ← key, flying.recorded (overlapped_of_raced open_) core' here eq]
    exact runs open_

/-- The instance is the current one no more: the update may land. -/
theorem Flying.gone {w : World} {core : RunningCore} (flying : Flying ops i core w)
    (gone : ∀ core', w.state = some core' → core'.id ≠ core.id) : Landing i core.id core.key w where
  le := flying.le
  alone := flying.alone
  right _ core' here eq := (gone core' here eq).elim

theorem keeps_stopCurrent {core : RunningCore} {s : World} (flying : Flying ops i core s)
    (owner : core.ownerUser = (ops i).user) :
    Keeps (machine ops) i (stopCurrent host core.id)
      (fun _ m t => m = false ∧ Landing i core.id core.key t) false s := by
  refine Keeps.withLock (P := fun _ t => Landing i core.id core.key t) (fun t since clean => ?_)
    fun _ t u landing later => ⟨rfl, (Since.later later).landing landing⟩
  have flying := (Since.later since).flying flying
  refine Keeps.get fun u later => ?_
  have flying := (Since.later later).flying flying
  have clean := Since.clean later clean
  split
  next current =>
    have may : MayStop ops i u := by
      intro core' here
      have eq : core'.id = core.id := by simpa [here] using current
      exact .inr (.inr ((flying.same core' here eq).owner.symm.trans owner))
    refine (keeps_stopBecause clean.toSound may).mono fun _ m v emptied => ?_
    obtain ⟨rfl, emptied⟩ := emptied
    refine ⟨rfl, { emptied.tidy with starting := emptied.starting.trans clean.starting }, ?_, ?_, ?_⟩
    · exact emptied.launched ▸ flying.le
    · intro open_
      obtain ⟨before, one⟩ := emptied.alone open_
      exact one _ rfl (flying.alone before)
    · intro _ core' here
      rw [emptied.empty] at here
      cases here
  next other =>
    have gone : ∀ core', u.state = some core' → core'.id ≠ core.id := by
      intro core' here
      simpa [here] using other
    intro v last
    exact ⟨rfl, Since.clean last clean, (Since.later last).landing (flying.gone gone)⟩

theorem keeps_rollBack {core : RunningCore} {choices : ApplyChoices} {error : String} {s : World}
    (flying : Flying ops i core s) (owner : core.ownerUser = (ops i).user) :
    Keeps (machine ops) i (rollBack host core choices error).run
      (fun _ m t => m = false ∧ Landing i core.id core.key t) false s := by
  have stays : ∀ {s t}, Flying ops i core s → (machine ops).Since i false s t → Flying ops i core t :=
    fun flying since => (Since.later since).flying flying
  have stops : ∀ {t : World} {e : String}, Flying ops i core t → Keeps (machine ops) i
      (do stopCurrent host core.id; throw e : Try Status).run
      (fun _ m t => m = false ∧ Landing i core.id core.key t) false t := by
    intro t e flying
    refine Keeps.bindLift ((keeps_stopCurrent flying owner).mono fun _ m u ended => ?_)
    obtain ⟨rfl, landing⟩ := ended
    exact fun v last => ⟨rfl, (Since.later last).landing landing⟩
  refine Keeps.bindLift (keeps_applyProfile (fun t since => (stays flying since).own)
    (fun t since => ?_) (fun e t since => stops (stays flying since)) fun r t u since later => ?_)
  · have flying := stays flying since
    exact .update ⟨i, core.id, core.key⟩ _ rfl flying.here flying.alone flying.own
  · have flying := stays flying since
    have set := flying.setRuns core.applied
    have flying' := stays set later
    cases r with
    | error e => exact stops flying'
    | ok value =>
      have landing : Landing i core.id core.key u := flying'.landing fun open_ =>
        (Since.later later).ran set (fun _ => World.runs_set flying.own core.applied)
          (overlapped_of_raced open_)
      exact fun v last => ⟨rfl, (Since.later last).landing landing⟩

def UpdateProfilePayload.applied (body : UpdateProfilePayload) : Applied :=
  ⟨body.profile, body.allowedRuleSetHosts, body.routingMode⟩

theorem keeps_recordUpdate {core : RunningCore} {body : UpdateProfilePayload} {revision : String}
    {user : Option String} {s : World} (clean : Clean s) (flying : Flying ops i core s)
    (caller : user = (ops i).user) (revised : Revised body.profile revision)
    (runs : s.overlapped = false → s.runs core.key = some body.applied) :
    Keeps (machine ops) i (recordUpdate host core.id body revision user).run
      (fun _ m t => m = true ∧ Clean t ∧ Landing i core.id core.key t) true s := by
  have ends : ∀ {s : World} {r : Except String Status}, Clean s → Landing i core.id core.key s →
      Keeps (machine ops) i (.ret r : Task _)
        (fun _ m t => m = true ∧ Clean t ∧ Landing i core.id core.key t) true s :=
    fun clean landing t since => ⟨rfl, Since.clean since clean, (Since.later since).landing landing⟩
  refine Keeps.tryGet fun t since => ?_
  have clean := Since.clean since clean
  have runs := (Since.later since).ran flying runs
  have flying := (Since.later since).flying flying
  split
  next e _ =>
    refine Keeps.tryUpdate fun u later => ?_
    have clean := Since.clean later clean
    have flying := (Since.later later).flying flying
    split
    next current =>
      refine ⟨.missed, ends { clean with right := ?_ } ⟨flying.le, flying.alone, ?_⟩⟩
      · intro open_
        simp [World.raced] at open_
      · intro open_
        simp [World.raced] at open_
    next other =>
      have gone : ∀ core', u.state = some core' → core'.id ≠ core.id := by
        intro core' here
        simpa [here] using other
      exact ⟨.idle, ends clean (flying.gone gone)⟩
  next core' ok =>
    obtain ⟨here, same, -, -⟩ := World.authorize_ok ok
    split
    next ne =>
      have gone : ∀ core'', t.state = some core'' → core''.id ≠ core.id := by
        intro core'' there
        rw [here] at there
        cases there
        exact ne
      exact ends clean (flying.gone gone)
    next eq =>
      have eq : core'.id = core.id := by simpa using eq
      refine Keeps.tryUpdate fun u later => ?_
      have clean := Since.clean later clean
      have runs := (Since.later later).ran flying runs
      have flying := (Since.later later).flying flying
      have here := Since.core later here
      have key := (flying.same core' here eq).key
      have clean' : Clean (u.record body revision) := by
        have sound : Sound (u.record body revision) :=
          clean.toSound.setCore (fun _ => ⟨rfl, rfl, rfl, rfl⟩) fun _ _ => revised
        refine { sound with right := fun _ core'' there apart => ?_, starting := clean.starting }
        obtain ⟨old, before, rfl⟩ := World.setCore_from there
        rw [here] at before
        cases before
        exact (apart _ flying.here eq.symm).elim
      have landing : Landing i core.id core.key (u.record body revision) := by
        refine ⟨flying.le, flying.alone, fun open_ core'' there _ => ?_⟩
        obtain ⟨old, before, rfl⟩ := World.setCore_from there
        rw [here] at before
        cases before
        refine ⟨key.symm, ?_⟩
        have now := runs (overlapped_of_raced open_)
        rw [key] at now
        exact now
      refine ⟨.record body revision core' ⟨i, core.id, core.key⟩ here (caller ▸ same) rfl flying.here
        eq.symm flying.alone revised, ?_⟩
      exact Keeps.tryGet fun v last =>
        ends (Since.clean last clean') ((Since.later last).landing landing)

theorem keeps_updateInstance {core : RunningCore} {body : UpdateProfilePayload} {revision : String}
    {schema : UInt64} {user : Option String} {s : World} (flying : Flying ops i core s)
    (owner : core.ownerUser = (ops i).user) (caller : user = (ops i).user)
    (revised : Revised body.profile revision) (landing : Landing i core.id core.key s) :
    Keeps (machine ops) i (updateInstance host core body revision schema user).run
      (fun _ m t => m = false ∧ Landing i core.id core.key t) false s := by
  have stays : ∀ {s t}, Flying ops i core s → (machine ops).Since i false s t → Flying ops i core t :=
    fun flying since => (Since.later since).flying flying
  refine Keeps.bindExcept (keeps_checkSchema (fun t since => (stays flying since).own)
    fun r t since => ?_)
  cases r with
  | error e =>
    have landing := (Since.later since).landing landing
    exact fun u later => ⟨rfl, (Since.later later).landing landing⟩
  | ok _ =>
    have flying := stays flying since
    refine Keeps.bindLift (keeps_applyProfile (fun t since => (stays flying since).own)
      (fun u later => ?_) (fun e u later => keeps_rollBack (stays flying later) owner)
      fun r u v later after => ?_)
    · have flying := stays flying later
      exact .update ⟨i, core.id, core.key⟩ _ rfl flying.here flying.alone flying.own
    · have flying := stays flying later
      have set := flying.setRuns body.applied
      have ran := (Since.later after).ran set fun _ => World.runs_set flying.own body.applied
      have flying := stays set after
      cases r with
      | error e => exact keeps_rollBack flying owner
      | ok value =>
        refine Keeps.withLock (P := fun _ t => Landing i core.id core.key t) (fun x last clean => ?_)
          fun _ x y landing end_ => ⟨rfl, (Since.later end_).landing landing⟩
        exact keeps_recordUpdate clean (stays flying last) caller revised
          ((Since.later last).ran flying ran)

/-- An update begins: what runs is what is recorded, if nobody races. -/
theorem Clean.begins {w : World} {core : RunningCore} (clean : Clean w) (here : w.state = some core)
    (owner : core.ownerUser = (ops i).user) :
    let begun : World := { w with
      flights := w.flights ++ [⟨i, core.id, core.key⟩]
      overlapped := w.overlapped || !w.flights.isEmpty }
    Clean begun ∧ Flying ops i core begun ∧ Landing i core.id core.key begun := by
  obtain ⟨id, at_, -⟩ := clean.current core here
  have only : ∀ core', w.state = some core' → core' = core := by
    intro core' there
    rw [here] at there
    cases there
    rfl
  have first : (w.overlapped || !w.flights.isEmpty) = false → w.flights = [] := by
    intro open_
    simpa using (Bool.or_eq_false_iff.mp open_).2
  have alone : (w.overlapped || !w.flights.isEmpty) = false →
      w.flights ++ [⟨i, core.id, core.key⟩] = [⟨i, core.id, core.key⟩] := by
    intro open_
    rw [first open_, List.nil_append]
  refine ⟨?_, ?_, ?_⟩
  · refine { clean with flights := fun flight mem => ?_, right := fun _ core' there apart => ?_ }
    · rcases List.mem_append.mp mem with before | new
      · exact clean.flights flight before
      · cases List.mem_singleton.mp new
        obtain ⟨x, found, -⟩ := at_
        refine ⟨(List.getElem?_eq_some_iff.mp found).1, Nat.le_of_eq id, fun core' there => ?_⟩
        cases only core' there
        exact ⟨fun _ => rfl, fun _ => rfl⟩
    · cases only core' there
      exact (apart ⟨i, core.id, core.key⟩ (by simp) rfl).elim
  · refine ⟨Nat.le_of_eq id, by simp, alone, ?_, fun core' there _ => ?_, fun _ core' there _ => ?_⟩
    · exact at_.imp fun x known => ⟨known.1, known.2.2.2.trans owner⟩
    · cases only core' there
      exact ⟨rfl, rfl, rfl, rfl⟩
    · cases only core' there
      rfl
  · refine ⟨Nat.le_of_eq id, alone, fun open_ core' there _ => ?_⟩
    cases only core' there
    simp only [World.raced, Bool.or_eq_false_iff] at open_
    have before : w.raced = false := by simp [World.raced, open_.1.1.1, open_.1.2, open_.2]
    have none_ := first (Bool.or_eq_false_iff.mpr open_.1.1)
    exact ⟨rfl, clean.right before core here (by simp [none_])⟩

theorem keeps_updateProfile {body : UpdateProfilePayload} {user : Option String} {s : World}
    (caller : user = (ops i).user) :
    Keeps (machine ops) i (updateProfile host i body user).run (fun _ m _ => m = false) false s := by
  refine Keeps.exceptBind (fun found checked => ?_) fun e _ _ _ => rfl
  obtain ⟨revision, schema⟩ := found
  refine Keeps.exceptBind (fun _ _ => ?_) fun e _ _ _ => rfl
  refine Keeps.bindExcept (Keeps.withLock (P := fun r t => ∀ core, r = .ok core →
    Flying ops i core t ∧ core.ownerUser = (ops i).user ∧ Landing i core.id core.key t)
    (fun t since clean => ?_) fun r t u began later => ?_)
  · intro u later
    have clean := Since.clean later clean
    dsimp only
    cases ok : u.authorize host body.session user with
    | error e =>
      have refused : u.beginUpdate i host body.session user = (.error e, u) := by
        simp [World.beginUpdate, ok]
      rw [refused]
      exact ⟨.idle, fun v last => ⟨rfl, Since.clean last clean, nofun⟩⟩
    | ok core =>
      obtain ⟨here, same, -, -⟩ := World.authorize_ok ok
      have owner := (sameUser_eq same).trans caller
      have begun : u.beginUpdate i host body.session user = (.ok core, { u with
          flights := u.flights ++ [⟨i, core.id, core.key⟩]
          overlapped := u.overlapped || !u.flights.isEmpty }) := by
        simp [World.beginUpdate, ok]
      obtain ⟨clean', flying, landing⟩ := clean.begins here owner
      rw [begun]
      refine ⟨.begin core here (caller ▸ same), fun v last => ⟨rfl, Since.clean last clean', ?_⟩⟩
      rintro core' eq
      cases eq
      exact ⟨(Since.later last).flying flying, owner, (Since.later last).landing landing⟩
  · cases r with
    | error e => exact fun _ _ => rfl
    | ok core =>
      obtain ⟨flying, owner, landing⟩ := began core rfl
      refine Keeps.bindLift ((keeps_updateInstance ((Since.later later).flying flying) owner caller
        ⟨schema, checked⟩ ((Since.later later).landing landing)).mono fun r m v ended => ?_)
      obtain ⟨rfl, landing⟩ := ended
      refine Keeps.tryUpdate fun x last => ⟨((Since.later last).landing landing).step, ?_⟩
      exact fun _ _ => rfl

/-! ## The service's own tasks -/

/-- Shut down again without ever having been in the slot. -/
theorem Made.shut {w : World} {start : Option Nat} {user : Option String} {key : Nat}
    (made : Made start i user key w) :
    Empty start (w.setInstance key fun x => { x with downs := x.downs + 1 }) where
  down k at_ := by
    rw [World.At.setInstance (fun _ => by rfl)] at at_
    right
    by_cases eq : k = key
    · subst eq
      obtain ⟨x, found, -, -, downs, -⟩ := made.own
      exact ⟨{ x with downs := x.downs + 1 }, by rw [w.get_setInstance, found]; simp, by simp [downs]⟩
    · obtain ⟨x, found, downs⟩ := made.down k eq at_
      exact ⟨x, by rw [w.get_setInstance, found]; simp [eq], downs⟩
  current core here := by
    have gone : w.state = some core := here
    rw [made.empty] at gone
    cases gone
  flights flight mem := by
    obtain ⟨inside, le, -⟩ := made.flights flight mem
    refine ⟨by simpa [World.setInstance] using inside, le, fun core here => ?_⟩
    have gone : w.state = some core := here
    rw [made.empty] at gone
    cases gone
  empty := made.empty
  starting := made.starting

theorem Empty.clean {w : World} (empty : Empty none w) : Clean w :=
  { empty.tidy with starting := empty.starting }

theorem keeps_sweepLeftovers {s : World} (op : ops i = .sweep) :
    Keeps (machine ops) i (sweepLeftovers i) (fun _ m _ => m = false) false s := by
  refine keeps_withLock fun t clean => Keeps.get fun u since => ?_
  have clean := Since.clean since clean
  split
  · exact keeps_ret clean
  next nothing =>
    have empty : Empty none u :=
      { clean.toSound with empty := by simpa using nothing, starting := clean.starting }
    have nobody : (ops i).user = none := by rw [op]; rfl
    refine Keeps.step fun v later => ?_
    have empty := (Since.held later).empty empty
    rw [← nobody]
    refine ⟨.asked empty.empty empty.allDown (.inr op), ?_⟩
    have asked := empty.asked (i := i) (ops i).user
    have key : (v.asked i (ops i).user).1 = v.instances.length := rfl
    rw [key]
    refine Keeps.ask fun w after => ?_
    have asked := (Since.held after).asked asked
    have own : w.At v.instances.length fun x => x.task = i ∧ x.made = false ∧ x.downs = 0 :=
      asked.own.imp fun x known => ⟨known.1, known.2.1, known.2.2.1, known.2.2.2.1⟩
    refine ⟨⟨asked.empty, asked.toEmpty.allDown, own, .inr op⟩, fun answer => ?_⟩
    cases (answer : Except String Unit) with
    | error e => exact ⟨.idle, keeps_ret asked.toEmpty.clean⟩
    | ok _ =>
      refine ⟨.launched _ own asked.empty asked.toEmpty.allDown (.inr op), Keeps.ask fun x last => ?_⟩
      have made := (Since.held last).made asked.made
      have own : x.At v.instances.length fun y => y.made = true ∧ y.downs = 0 :=
        made.own.imp fun y known => ⟨known.1, known.2.2.1, known.2.2.2.1⟩
      refine ⟨⟨made.empty, own⟩, fun _ => ⟨.shut _ own made.empty, ?_⟩⟩
      exact keeps_ret made.shut.clean

theorem keeps_watchdog {s : World} :
    Keeps (machine ops) i (watchdog host) (fun _ m _ => m = false) false s := by
  -- What is looked for is never alive, so that anybody may stop it.
  have reaps : ∀ {s : World} {reason : String} {found : RunningCore → Bool}, Clean s →
      (∀ core, found core = true → s.live core = false) →
      s.state.any found = true →
      Keeps (machine ops) i (stopBecause host reason) (fun _ m t => m = true ∧ Clean t) true s := by
    intro s reason found clean dead finds
    refine keeps_stopClean clean fun core here => .inr (.inl (dead core ?_))
    simpa [here] using finds
  have fails : ∀ {t : World}, Clean t → Keeps (machine ops) i
      (do
        let w ← read
        if w.state.any fun core => (w.fatal core.key).isSome then stopBecause host exitedReason :
        Task Unit) (fun _ m u => m = true ∧ Clean u) true t := by
    intro t clean
    refine Keeps.get fun u since => ?_
    have clean := Since.clean since clean
    split
    next fatal =>
      refine reaps clean (fun core failed => ?_) fatal
      rw [Option.isSome_iff_exists] at failed
      obtain ⟨reason, failed⟩ := failed
      simp [World.live, failed]
    next => exact keeps_ret clean
  refine keeps_withLock fun t clean => Keeps.get fun u since => ?_
  have clean := Since.clean since clean
  dsimp only
  split
  next lapsed =>
    refine Keeps.bind ((reaps clean (fun core expired => ?_) lapsed).mono fun _ m v ended => ?_)
    · simp only [decide_eq_true_eq] at expired
      simp [World.live, Nat.not_lt.mpr expired]
    · obtain ⟨rfl, clean⟩ := ended
      exact fails clean
  next => exact fails clean

theorem keeps_stopDataPlane {s : World} (op : ops i = .stopDataPlane) :
    Keeps (machine ops) i (stopDataPlane host) (fun _ m t => m = false ∧ t.stopped = true) false s := by
  refine Keeps.update fun t _ => ⟨.stopping op, Keeps.update fun u since => ⟨.closeAll op, ?_⟩⟩
  have stops : u.closeAll.stopping = true := (Since.later since).stopping rfl
  refine Keeps.withLock (P := fun _ t => t.stopped = true) (fun v later clean => ?_)
    fun _ _ _ done after => ⟨rfl, (Since.later after).stopped done⟩
  have stops : v.stopping = true := (Since.later later).stopping stops
  refine Keeps.bind ((keeps_stopBecause clean.toSound fun _ _ => .inl op).mono
    fun _ m w emptied => ?_)
  obtain ⟨rfl, emptied⟩ := emptied
  refine Keeps.update fun x last => ?_
  have emptied := Since.emptied last emptied
  have starting := emptied.starting.trans clean.starting
  refine ⟨.stoppedForGood emptied.empty emptied.allDown starting (emptied.stopping stops), ?_⟩
  have clean : Clean x.stoppedForGood := { emptied.tidy with right := emptied.tidy.right, starting }
  exact fun y end_ => ⟨rfl, Since.clean end_ clean, (Since.later end_).stopped rfl⟩

/-! ## All of them -/

theorem keeps_unlessStopping {p : Task Reply} {s : World}
    (keeps : ∀ t, Keeps (machine ops) i p (fun _ m _ => m = false) false t) :
    Keeps (machine ops) i (unlessStopping p) (fun _ m _ => m = false) false s := by
  refine Keeps.get fun t _ => ?_
  split
  · exact fun _ _ => rfl
  · exact keeps t

theorem keeps_reply {α : Type} {p : Task α} {f : α → Reply} {s : World}
    (keeps : Keeps (machine ops) i p (fun _ m _ => m = false) false s) :
    Keeps (machine ops) i (do return f (← p)) (fun _ m _ => m = false) false s := by
  refine Keeps.bind (keeps.mono fun a m t free => ?_)
  subst free
  exact fun _ _ => rfl

/-- Every task of the service keeps to the machine. -/
theorem Op.keeps {s : World} (notOf : NotOf i s) :
    Keeps (machine ops) i ((ops i).task host i) (fun reply m t => m = false ∧ Ended ops i reply t)
      false s := by
  by_cases connects : ∃ user body, ops i = .connect user body
  · obtain ⟨user, body, op⟩ := connects
    rw [op]
    exact keeps_connect notOf op
  by_cases stops : ops i = .stopDataPlane
  · rw [stops]
    refine Keeps.bind ((keeps_stopDataPlane stops).mono fun _ m t ended => ?_)
    obtain ⟨rfl, stopped⟩ := ended
    exact fun u since => ⟨rfl, fun user body op => (connects ⟨user, body, op⟩).elim,
      fun _ => (Since.later since).stopped stopped⟩
  have others : ∀ {reply : Reply} {t : World}, Ended ops i reply t :=
    ⟨fun user body op => (connects ⟨user, body, op⟩).elim, fun op => (stops op).elim⟩
  suffices h : Keeps (machine ops) i ((ops i).task host i) (fun _ m _ => m = false) false s from
    h.mono fun _ _ _ free => ⟨free, others⟩
  cases op : ops i with
  | connect user body => exact (connects ⟨user, body, op⟩).elim
  | updateProfile user body =>
    exact keeps_unlessStopping fun _ => keeps_reply (keeps_updateProfile (by rw [op]; rfl))
  | renewLease user session =>
    exact keeps_unlessStopping fun _ => keeps_reply (keeps_withLock fun _ clean =>
      keeps_renewLeaseLocked clean (by rw [op]; rfl))
  | disconnect user session =>
    exact keeps_reply (keeps_withLock fun _ clean => keeps_disconnectLocked clean (by rw [op]; rfl))
  | coreApi user payload =>
    exact keeps_unlessStopping fun _ => keeps_reply (keeps_callApi (by rw [op]; rfl))
  | watch user session => exact keeps_unlessStopping fun _ => keeps_watch (by rw [op]; rfl)
  | getStatus user =>
    exact keeps_withLock fun _ clean => Keeps.get fun _ since => keeps_ret (Since.clean since clean)
  | watchdog => exact keeps_reply keeps_watchdog
  | sweep => exact keeps_reply (keeps_sweepLeftovers op)
  | stopDataPlane => exact (stops op).elim
  | tick now epoch => exact Keeps.update fun _ _ => ⟨.tick now epoch op, fun _ _ => rfl⟩
  | fail key reason => exact Keeps.update fun _ _ => ⟨.fail key reason op, fun _ _ => rfl⟩

/-- What task `i` of a service does. -/
def opAt (ops : List Op) (i : Nat) : Op := ops.getD i .watchdog

/-- The states of a service, whatever the order of its tasks' steps and
whatever it is answered. -/
abbrev Served (host : Host) (ops : List Op) : Pool World Unit Answer Reply → Prop :=
  Reaches World.perform (fun _ _ => True) (serve host ops)

section

variable {ops : List Op} {q : Pool World Unit Answer Reply}

theorem serve_kept : (machine (opAt ops)).Kept (Ended (opAt ops)) (serve host ops) := by
  have clean : Clean {} := by
    refine ⟨⟨⟨fun key made => ?_, nofun, nofun⟩, nofun⟩, rfl⟩
    obtain ⟨x, found, -⟩ := made
    cases found
  refine .of_free rfl clean fun i prog here => ?_
  obtain ⟨running, found, rfl⟩ := Option.map_eq_some_iff.mp here
  simp only [serve, List.getElem?_mapIdx, Option.map_eq_some_iff] at found
  obtain ⟨op, found, rfl⟩ := found
  have same : opAt ops i = op := by rw [opAt, List.getD_eq_getElem?_getD, found]; rfl
  rw [← same]
  exact Op.keeps (notOf_empty rfl)

theorem Served.kept (served : Served host ops q) : (machine (opAt ops)).Kept (Ended (opAt ops)) q :=
  Reaches.kept (R := machine (opAt ops)) serve_kept served

/-- What every step keeps holds of every state. -/
theorem Served.invariant {J : World → Prop} (first : J {})
    (step : ∀ {i mine s t}, Step (opAt ops) i mine s t → J s → J t) (served : Served host ops q) :
    J q.state :=
  Reaches.holds (R := machine (opAt ops)) (J := fun _ => J) serve_kept first
    (fun _ taken => step taken) (fun _ => id) (fun _ => id) served

end

/-! ## A service to look at -/

def sampleHost : Host where
  windows := false
  pid := 7
  uuid _ := true
  version := "1.0.0"
  buildId := "b1"

def sampleProfile (revision : String) : Value :=
  .object [("revision", .string revision), ("schema_version", .number (.posInt 1))]

/-- Everything works. -/
def sampleAnswer : (c : Call) → Answer c
  | .launch _ => (.ok () : Except String Unit)
  | .shutdown _ => ([] : List Leftover)
  | .api _ _ _ =>
    (.ok (.object [("profile_schema_version", .number (.posInt 1))]) : Except String Value)
  | .apply _ _ => (⟨.ok .null, true⟩ : ApplyAnswer)

/-- Up to `n` steps of task `i`. -/
def sampleTurn (i n : Nat) : List (Move Answer) :=
  (List.replicate n [Move.go i, .answer i sampleAnswer]).flatten

/-- The user `anna` connects. -/
def sampleConnect (session : String) (takeOver : Bool) : Op :=
  .connect (some "anna") ⟨⟨session, 1⟩, sampleProfile "r0", takeOver, [], none, {}⟩

def samplePlay (ops : List Op) (moves : List (Move Answer)) : Pool World Unit Answer Reply :=
  (serve sampleHost ops).play World.perform (fun _ _ => True) moves

theorem samplePlay_served (ops : List Op) (moves : List (Move Answer)) :
    Served sampleHost ops (samplePlay ops moves) := Reaches.of_play _ moves

end PpvpnCore.Service
