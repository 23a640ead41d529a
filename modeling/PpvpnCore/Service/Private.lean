import PpvpnCore.Lib.Blind
import PpvpnCore.Service.Instances

/-!
# Another user's connection

A live connection belongs to the OS user who started it: the requests of others
neither touch it nor learn anything of it.

* `others_touch_nothing`: no step of another user's request changes it.
* `Similar`: two worlds that differ, if at all, in what a live connection's user
  has to himself.
* `others_see_nothing`: another user's requests are answered the same in two runs
  that are similar at every moment.
-/

namespace PpvpnCore.Service

open Lib

variable {host : Host} {ops ops' : List Op} {q q' : Pool World Unit Answer Reply} {owner : String}

/-- A request of somebody else, or of somebody the system cannot name. -/
def Op.isOther (owner : String) : Op → Prop
  | .connect user _ | .updateProfile user _ | .renewLease user _ | .disconnect user _
  | .coreApi user _ | .watch user _ | .getStatus user => user ≠ some owner
  | _ => False

theorem Op.isOther_user {op : Op} (other : op.isOther owner) : op.user ≠ some owner := by
  cases op <;> first | exact other | exact other.elim

/-- The instance a call is about. -/
def Call.key : Call → Nat
  | .launch key | .shutdown key | .api key _ _ | .apply key _ => key

/-! ## Nothing is touched -/

/-- What a step leaves of the connection and its watchers. -/
structure Untouched (key : Nat) (s t : World) : Prop where
  state : t.state = s.state
  instance_ : t.instances[key]? = s.instances[key]?
  registered : t.hub.nextId = s.hub.nextId
  told : t.hub.sent = s.hub.sent

theorem Untouched.set {s : World} {key key' : Nat} {f : Instance → Instance} (ne : key' ≠ key) :
    Untouched key s (s.setInstance key' f) := by
  refine ⟨rfl, ?_, rfl, rfl⟩
  rw [s.get_setInstance]
  cases s.instances[key]? with
  | none => rfl
  | some x => simp [ne.symm]

/-- An instance of another user is not the one in the slot. -/
theorem OneUp.foreign {w : World} {core : RunningCore} {user : Option String} {key : Nat}
    (up : OneUp w) (here : w.state = some core) (owns : core.ownerUser = some owner)
    (other : user ≠ some owner) (theirs : w.At key (·.owner = user)) : key ≠ core.key := by
  intro eq
  obtain ⟨x, found, theirs⟩ := theirs
  obtain ⟨y, found', its⟩ := up.owner core here
  rw [eq, found'] at found
  cases found
  exact other (theirs.symm.trans (its.trans owns))

/-- A step of another user's request while the connection is live. -/
theorem Step.untouched {ops : Nat → Op} {i : Nat} {mine : Bool} {s t : World} {core : RunningCore}
    (step : Step ops i mine s t) (up : OneUp s) (here : s.state = some core)
    (owns : core.ownerUser = some owner) (live : s.live core = true)
    (other : (ops i).isOther owner) : Untouched core.key s t := by
  have user := Op.isOther_user other
  have notService : ∀ op, ops i = op → op.isOther owner := fun op eq => eq ▸ other
  have occupied : s.state ≠ none := by simp [here]
  have stranger : ∀ core', s.state = some core' → sameUser core'.ownerUser (ops i).user ≠ true := by
    intro core' there same
    rw [here] at there
    cases there
    exact user ((sameUser_eq same).symm.trans owns)
  have foreign : ∀ key, s.At key (·.owner = (ops i).user) → key ≠ core.key := fun key =>
    up.foreign here owns user
  cases step with
  | idle | api | land | letIn | missed | exit | enter | leave => exact ⟨rfl, rfl, rfl, rfl⟩
  | tick now epoch op => exact (notService _ op).elim
  | fail key reason op => exact (notService _ op).elim
  | stopping op => exact (notService _ op).elim
  | closeAll op => exact (notService _ op).elim
  | drop id =>
    obtain ⟨nextId, -, sent⟩ := s.hub.drop_frame id
    exact ⟨rfl, rfl, nextId, sent⟩
  | update flight applied own there alone owner => exact .set (foreign flight.key owner)
  | brought key applied starts own apart owner => exact .set (foreign key owner)
  | asked empty down starts => exact (occupied empty).elim
  | launched key own empty down starts => exact (occupied empty).elim
  | stored key body revision own empty starts apart revised => exact (occupied empty).elim
  | shut key own empty => exact (occupied empty).elim
  | stoppedForGood empty down starts stopping => exact (occupied empty).elim
  | stopped reason core' there may =>
    rw [here] at there
    cases there
    rcases may with op | dead | its
    · exact (notService _ op).elim
    · rw [live] at dead
      cases dead
    · exact (user (its.symm.trans owns)).elim
  | renew core' there own => exact (stranger core' there own).elim
  | record body revision core' flight there own mine_ flies same alone revised =>
    exact (stranger core' there own).elim
  | register session core' there own same => exact (stranger core' there own).elim
  | begin core' there own => exact (stranger core' there own).elim

/-- While the connection of `owner` is live, no request of anybody else calls its
instance, and no step of one changes it, stops it, renews its lease or registers a
watcher. -/
theorem others_touch_nothing (served : Served host ops q) {core : RunningCore}
    (here : q.state.state = some core) (owns : core.ownerUser = some owner)
    (live : q.state.live core = true) {i : Nat} {op : Op} (request : ops[i]? = some op)
    (other : op.isOther owner) :
    (∀ c k, q.task i = some (.call c k) → c.key ≠ core.key) ∧
    ∀ m q', m.task = i → q.step World.perform m = some q' → Untouched core.key q.state q'.state := by
  have at_ : opAt ops i = op := by rw [opAt, List.getD_eq_getElem?_getD, request]; rfl
  have theirs : (opAt ops i).isOther owner := at_ ▸ other
  have kept := served.kept
  refine ⟨fun c k task => ?_, fun m q' own taken => ?_⟩
  · have may := kept.allowed task
    cases c with
    | launch key => cases here.symm.trans may.1
    | shutdown key => cases here.symm.trans may.1
    | api key path body => exact served.oneUp.foreign here owns (Op.isOther_user theirs) may
    | apply key request => exact served.oneUp.foreign here owns (Op.isOther_user theirs) may
  · rcases kept.stepped taken with same | ⟨j, moves, -, step⟩
    · rw [same]
      exact ⟨rfl, rfl, rfl, rfl⟩
    · have eq : j = i := by
        rcases moves with rfl | ⟨oracle, rfl⟩ <;> exact own
      subst eq
      exact Step.untouched step served.oneUp here owns live theirs

/-! ## Nothing is seen -/

/-- The slot holds a live connection of `owner` in both worlds, the same one but
for its session, its profile and its lease. -/
def Hidden (owner : String) (s t : World) : Prop :=
  ∃ core core', s.state = some core ∧ t.state = some core' ∧ core.ownerUser = some owner ∧
    core'.ownerUser = some owner ∧ s.live core = true ∧ t.live core' = true ∧
    core.id = core'.id ∧ core.key = core'.key

/-- The slot and the clock are the same in both worlds. -/
def Shown (s t : World) : Prop :=
  s.state = t.state ∧ s.now = t.now ∧ s.epoch = t.epoch ∧ ∀ key, s.fatal key = t.fatal key

/-- Two worlds that differ, if at all, in what the user of a live connection has
to himself. -/
structure Similar (owner : String) (s t : World) : Prop where
  stopping : s.stopping = t.stopping
  instances : s.instances.length = t.instances.length
  nextId : s.hub.nextId = t.hub.nextId
  closed : s.hub.closed = t.hub.closed
  watchers : s.hub.watchers.length = t.hub.watchers.length
  slot : Hidden owner s t ∨ Shown s t

section

variable {s t : World} {user : Option String}

theorem Shown.live (shown : Shown s t) (core : RunningCore) : s.live core = t.live core := by
  obtain ⟨-, now, -, fatal⟩ := shown
  rw [World.live, World.live, now, fatal]

theorem sameUser_other {own : Option String} (owns : own = some owner) (other : user ≠ some owner) :
    sameUser own user = false := by
  cases same : sameUser own user with
  | false => rfl
  | true => exact (other ((sameUser_eq same).symm.trans owns)).elim

/-- Another user is authorized for nothing in either world, or for the same. -/
theorem Similar.authorize (similar : Similar owner s t) (other : user ≠ some owner)
    (session : SessionRef) : s.authorize host session user = t.authorize host session user := by
  unfold World.authorize
  rcases similar.slot with ⟨core, core', here, here', owns, owns', -, -, -, -⟩ | shown
  · rw [here, here']
    cases validateSession host session with
    | error e => rfl
    | ok _ =>
      simp [Bind.bind, Except.bind, access, sameUser_other owns other, sameUser_other owns' other]
  · rw [shown.1]
    simp only [shown.live]

theorem Similar.decision (similar : Similar owner s t) (other : user ≠ some owner)
    (body : ConnectPayload) : s.decision body user = t.decision body user := by
  unfold World.decision
  rcases similar.slot with ⟨core, core', here, here', owns, owns', live, live', -, -⟩ | shown
  · rw [here, here']
    simp [ownership, live, live', sameUser_other owns other, sameUser_other owns' other]
  · rw [shown.1]
    simp only [shown.live]

theorem Similar.statusFor (similar : Similar owner s t) (other : user ≠ some owner) :
    s.statusFor host user = t.statusFor host user := by
  unfold World.statusFor
  rcases similar.slot with ⟨core, core', here, here', owns, owns', live, live', -, -⟩ | shown
  · rw [here, here']
    simp [live, live', sameUser_other owns other, sameUser_other owns' other]
  · obtain ⟨state, now, epoch, -⟩ := id shown
    rw [state, now, epoch]
    simp only [shown.live]

theorem Similar.any_id (similar : Similar owner s t) (id : Nat) :
    s.state.any (·.id = id) = t.state.any (·.id = id) := by
  rcases similar.slot with ⟨core, core', here, here', -, -, -, -, same, -⟩ | shown
  · rw [here, here']
    simp [same]
  · rw [shown.1]

/-! One lemma for each function: what another user's request goes on with is the
same in similar worlds. -/

/-- Which instance is in the slot is no secret. -/
theorem Similar.stops (similar : Similar owner s t) (reason : String) :
    (s.stopCore reason).1.map (·.key) = (t.stopCore reason).1.map (·.key) := by
  have first : ∀ w : World, (w.stopCore reason).1 = w.state := by
    intro w
    cases here : w.state <;> simp [World.stopCore, here]
  rw [first, first]
  rcases similar.slot with ⟨core, core', here, here', -, -, -, -, -, key⟩ | shown
  · rw [here, here']
    exact congrArg some key
  · rw [shown.1]

/-- The rest of stopping an instance that was there. -/
def shutDown (host : Host) (reason : String) (key : Nat) : Task Unit := do
  let leftovers ← ask (.shutdown key)
  if reason ≠ serviceStoppingReason ∧ needsProcessRestart leftovers host.windows then
    modify ({ · with exited := true })

def shutDownIf (host : Host) (reason : String) : Option RunningCore → Task Unit
  | none => pure ()
  | some core => shutDown host reason core.key

theorem shutDownIf_eq (host : Host) (reason : String) (o : Option RunningCore) :
    shutDownIf host reason o = (o.map (·.key)).elim (pure ()) (shutDown host reason) := by
  cases o <;> rfl

theorem blind_shutDownIf {reason : String} (o : Option RunningCore) :
    Blind (Similar owner) (shutDownIf host reason o) := by
  cases o with
  | none => trivial
  | some core =>
    refine Blind.ask.bind fun leftovers => ?_
    split
    · exact .update
    · trivial

theorem blind_stopBecause {reason : String} : Blind (Similar owner) (stopBecause host reason) := by
  refine ⟨fun s t similar => ?_, fun s => blind_shutDownIf (s.stopCore reason).1⟩
  refine (shutDownIf_eq host reason (s.stopCore reason).1).trans
    (Eq.trans ?_ (shutDownIf_eq host reason (t.stopCore reason).1).symm)
  rw [similar.stops]

theorem blind_callInstance {key : Nat} {path : String} {body : Value} :
    Blind (Similar owner) (callInstance key path body).run := fun _ => trivial

theorem blind_applyProfile {key : Nat} {request : ApplyRequest} :
    Blind (Similar owner) (applyProfile key request).run := fun _ => trivial

theorem blind_checkSchema {key : Nat} {requested : UInt64} :
    Blind (Similar owner) (checkSchema key requested).run := by
  refine Blind.bindExcept blind_callInstance fun version => ?_
  split
  · trivial
  · split <;> trivial

theorem blind_startCore {i : Nat} {body : ConnectPayload} :
    Blind (Similar owner) (startCore host i body user).run := by
  refine Blind.exceptBind fun found => ?_
  obtain ⟨revision, schema⟩ := found
  refine Blind.exceptBind fun _ => Blind.bindLift blind_stopBecause fun _ => ?_
  refine Blind.bindLift (Blind.step fun s t similar => similar.instances) fun key => ?_
  refine Blind.bindExcept (fun _ => trivial) fun _ => Blind.bindLift .update fun _ => ?_
  refine Blind.bindLift ?_ fun up => ?_
  · exact Blind.bindExcept blind_checkSchema fun _ => Blind.bindExcept blind_applyProfile fun _ =>
      Blind.bindExcept blind_callInstance fun _ => trivial
  · cases up with
    | error e => exact Blind.bindLift blind_stopBecause fun _ => trivial
    | ok _ => trivial

theorem blind_connectLocked {i : Nat} {body : ConnectPayload} (other : user ≠ some owner) :
    Blind (Similar owner) (connectLocked host i body user).run := by
  refine Blind.exceptBind fun _ => Blind.tryGet (fun s t similar => ?_) fun s => ?_
  · rw [similar.decision other]
  · split
    · exact blind_startCore
    · exact Blind.bindLift blind_stopBecause fun _ => blind_startCore
    · exact Blind.bindLift .update fun _ => trivial
    · exact Blind.bindLift blind_stopBecause fun _ => blind_startCore
    · trivial

/-- A request that begins with its authorization. -/
theorem blind_authorized {α : Type} {session : SessionRef} {f : RunningCore → Try α}
    (other : user ≠ some owner) (rest : ∀ core, Blind (Similar owner) (f core).run) :
    Blind (Similar owner) (do
      let w ← read
      let core ← liftExcept (w.authorize host session user)
      f core : Try α).run := by
  refine Blind.tryGet (fun s t similar => ?_) fun s => Blind.exceptBind rest
  rw [similar.authorize other]

theorem blind_status {α : Type} {f : Status → Try α} (other : user ≠ some owner)
    (rest : ∀ status, Blind (Similar owner) (f status).run) :
    Blind (Similar owner) (do
      let w ← read
      f (w.statusFor host user) : Try α).run := by
  refine Blind.tryGet (fun s t similar => ?_) fun s => rest _
  rw [similar.statusFor other]

theorem Similar.register (similar : Similar owner s t) (session : SessionRef) :
    (s.register session).1 = (t.register session).1 := by
  unfold World.register Hub.register
  rw [similar.closed, similar.watchers, similar.nextId]
  cases t.hub.closed with
  | true => rfl
  | false =>
    by_cases full : maxWatchers ≤ t.hub.watchers.length
    · simp [full]
    · simp [full]

theorem Similar.begins (similar : Similar owner s t) (other : user ≠ some owner) (i : Nat)
    (session : SessionRef) :
    (s.beginUpdate i host session user).1 = (t.beginUpdate i host session user).1 := by
  unfold World.beginUpdate
  rw [similar.authorize other]
  cases t.authorize host session user <;> rfl

theorem blind_stopCurrent {id : Nat} : Blind (Similar owner) (stopCurrent host id) := by
  refine Blind.withLock (Blind.get (fun s t similar => ?_) fun s => ?_)
  · rw [similar.any_id]
  · split
    · exact blind_stopBecause
    · trivial

theorem blind_updateInstance {core : RunningCore} {body : UpdateProfilePayload} {revision : String}
    {schema : UInt64} (other : user ≠ some owner) :
    Blind (Similar owner) (updateInstance host core body revision schema user).run := by
  refine Blind.bindExcept blind_checkSchema fun _ => Blind.bindLift blind_applyProfile fun r => ?_
  cases r with
  | error e =>
    refine Blind.bindLift blind_applyProfile fun r => ?_
    cases r with
    | error e => exact Blind.bindLift blind_stopCurrent fun _ => trivial
    | ok _ => trivial
  | ok _ =>
    refine Blind.withLock (Blind.tryGet (fun s t similar => ?_) fun s => ?_)
    · rw [similar.authorize other]
    · split
      · exact Blind.bindLift .update fun _ => trivial
      · split
        · trivial
        · exact Blind.bindLift .update fun _ => blind_status other fun _ => trivial

theorem blind_unlessStopping {p : Task Reply} (blind : Blind (Similar owner) p) :
    Blind (Similar owner) (unlessStopping p) := by
  refine Blind.get (fun s t similar => ?_) fun s => ?_
  · rw [similar.stopping]
  · split
    · trivial
    · exact blind

theorem Similar.letIn (similar : Similar owner s t) (i : Nat) : (s.letIn i).1 = (t.letIn i).1 := by
  unfold World.letIn
  rw [similar.stopping]
  split <;> rfl

/-- Another user's request. -/
theorem Op.blind {op : Op} {i : Nat} (other : op.isOther owner) :
    Blind (Similar owner) (op.task host i) := by
  have reply : ∀ {α : Type} {p : Task α} {f : α → Reply}, Blind (Similar owner) p →
      Blind (Similar owner) (do return f (← p)) := fun blind => blind.bind fun _ => trivial
  cases op with
  | connect user body =>
    refine Blind.bind (Blind.step fun s t similar => similar.letIn i) fun entered => ?_
    cases entered with
    | false => trivial
    | true =>
      refine Blind.bind (Blind.withLock ?_) fun _ => trivial
      refine Blind.bind .update fun _ => Blind.bind (blind_connectLocked other) fun _ => ?_
      exact Blind.bind .update fun _ => trivial
  | updateProfile user body =>
    refine blind_unlessStopping (reply ?_)
    refine Blind.exceptBind fun found => ?_
    obtain ⟨revision, schema⟩ := found
    refine Blind.exceptBind fun _ => Blind.bindExcept (Blind.withLock
      (Blind.step fun s t similar => similar.begins other i body.session)) fun core => ?_
    exact Blind.bindLift (blind_updateInstance other) fun _ => Blind.bindLift .update fun _ => trivial
  | renewLease user session =>
    exact blind_unlessStopping (reply (Blind.withLock (blind_authorized other fun _ =>
      Blind.bindLift .update fun _ => blind_status other fun _ => trivial)))
  | disconnect user session =>
    exact reply (Blind.withLock (blind_authorized other fun _ => blind_stopBecause.bind fun _ => trivial))
  | coreApi user payload =>
    refine blind_unlessStopping (reply (Blind.bindExcept (Blind.withLock ?_)
      fun _ => blind_callInstance))
    unfold prepareCall
    split
    · trivial
    · exact blind_authorized other fun _ => Blind.bindLift .update fun _ => trivial
  | watch user session =>
    refine blind_unlessStopping (Blind.bind (Blind.withLock (blind_authorized other fun _ =>
      Blind.step fun s t similar => similar.register session)) fun r => ?_)
    cases r with
    | error e => trivial
    | ok id => exact Blind.bind .update fun _ => trivial
  | getStatus user =>
    refine Blind.withLock (Blind.get (fun s t similar => ?_) fun s => trivial)
    rw [similar.statusFor other]
  | watchdog | sweep | stopDataPlane | tick | fail => exact other.elim

end

/-- Only the requests of `owner` differ. -/
def SameOthers (owner : String) (ops ops' : List Op) : Prop :=
  ∀ (i : Nat) (op : Op), op.isOther owner → (ops[i]? = some op ↔ ops'[i]? = some op)

/-- Two runs that are similar at every moment, in which the others do the same. -/
def SeenAlike (host : Host) (owner : String) (ops ops' : List Op) :
    Pool World Unit Answer Reply → Pool World Unit Answer Reply → Prop :=
  Beside World.perform (Similar owner) (fun i => ∃ op, ops[i]? = some op ∧ op.isOther owner)
    (serve host ops) (serve host ops')

theorem serve_task {i : Nat} {op : Op} (request : ops[i]? = some op) :
    (serve host ops).task i = some (op.task host i) := by
  simp [serve, Pool.task, List.getElem?_mapIdx, request]

/-- Another user's request is at the same point in both, and so is what it is
answered. -/
theorem others_see_nothing (same : SameOthers owner ops ops')
    (alike : SeenAlike host owner ops ops' q q') {i : Nat} {op : Op} (request : ops[i]? = some op)
    (other : op.isOther owner) : q.task i = q'.task i := by
  refine (alike.same (fun j theirs => ?_) (fun j prog theirs here => ?_) i ⟨op, request, other⟩).1
  · obtain ⟨op, request, other⟩ := theirs
    rw [serve_task request, serve_task ((same j op other).mp request)]
  · obtain ⟨op, request, other⟩ := theirs
    rw [serve_task request] at here
    cases here
    exact Op.blind other

/-- Another user can neither touch a live connection nor see anything of it. -/
theorem connection_private (host : Host) (owner : String) (ops : List Op) (i : Nat) (op : Op)
    (request : ops[i]? = some op) (other : op.isOther owner) :
    (∀ q core, Served host ops q → q.state.state = some core → core.ownerUser = some owner →
      q.state.live core = true →
      (∀ c k, q.task i = some (.call c k) → c.key ≠ core.key) ∧
      ∀ m q', m.task = i → q.step World.perform m = some q' → Untouched core.key q.state q'.state) ∧
    ∀ ops' q q', SameOthers owner ops ops' → SeenAlike host owner ops ops' q q' →
      ∀ reply, q.task i = some (.ret reply) ↔ q'.task i = some (.ret reply) := by
  refine ⟨fun q core served here owns live => ?_, fun ops' q q' same alike reply => ?_⟩
  · exact others_touch_nothing served here owns live request other
  · rw [others_see_nothing same alike request other]

/-- A check for `Similar`, for worlds whose slots are empty or hold a connection
of `owner`. -/
def similarCheck (owner : String) (s t : World) : Bool :=
  s.stopping = t.stopping && s.instances.length = t.instances.length &&
  s.hub.nextId = t.hub.nextId && s.hub.closed = t.hub.closed &&
  s.hub.watchers.length = t.hub.watchers.length &&
  match s.state, t.state with
  | none, none => s.now = t.now && s.epoch = t.epoch &&
      s.instances.map (·.fatal) = t.instances.map (·.fatal)
  | some core, some core' => core.ownerUser = some owner && core'.ownerUser = some owner &&
      s.live core && t.live core' && core.id = core'.id && core.key = core'.key
  | _, _ => false

theorem similarCheck_sound (owner : String) (s t : World) (passes : similarCheck owner s t = true) :
    Similar owner s t := by
  simp only [similarCheck, Bool.and_eq_true, decide_eq_true_eq] at passes
  obtain ⟨⟨⟨⟨⟨stopping, instances⟩, nextId⟩, closed⟩, watchers⟩, slot⟩ := passes
  refine ⟨stopping, instances, nextId, closed, watchers, ?_⟩
  split at slot
  next empty empty' =>
    simp only [Bool.and_eq_true, decide_eq_true_eq] at slot
    refine .inr ⟨empty.trans empty'.symm, slot.1.1, slot.1.2, fun key => ?_⟩
    have same := congrArg (·[key]?) slot.2
    simp only [List.getElem?_map] at same
    rw [World.fatal, World.fatal]
    cases one : s.instances[key]? <;> cases two : t.instances[key]? <;> simp_all
  next core core' here here' =>
    simp only [Bool.and_eq_true, decide_eq_true_eq] at slot
    obtain ⟨⟨⟨⟨⟨owns, owns'⟩, live⟩, live'⟩, id⟩, key⟩ := slot
    exact .inl ⟨core, core', here, here', owns, owns', live, live', id, key⟩
  next => cases slot

/-- `anna` connects one session or another, and `ben` asks how things are. -/
def sampleAsked (session revision : String) : List Op :=
  [.connect (some "anna") ⟨⟨session, 1⟩, sampleProfile revision, false, [], none, {}⟩,
    .getStatus (some "ben")]

def Reply.toStatus : Reply → Option Status
  | .status told => some told
  | _ => none

/-- `ben` is told the same, and nothing of either session. -/
theorem connection_private_status :
    ∃ q q' reply, SeenAlike sampleHost "anna" (sampleAsked "a" "r1") (sampleAsked "b" "r2") q q' ∧
      q.task 1 = some (.ret reply) ∧ q'.task 1 = some (.ret reply) ∧ reply.toStatus =
        some { World.idle sampleHost with running := true, mode := "transparent" } := by
  let played := playBoth World.perform (similarCheck "anna") (sampleTurn 0 20 ++ sampleTurn 1 20)
    (serve sampleHost (sampleAsked "a" "r1")) (serve sampleHost (sampleAsked "b" "r2"))
  have told : played.bind (fun pair => (pair.1.answered 1).bind Reply.toStatus) =
      some { World.idle sampleHost with running := true, mode := "transparent" } := by decide +kernel
  obtain ⟨⟨q, q'⟩, plays, told⟩ := Option.bind_eq_some_iff.mp told
  obtain ⟨reply, ended, told⟩ := Option.bind_eq_some_iff.mp told
  have alike : SeenAlike sampleHost "anna" (sampleAsked "a" "r1") (sampleAsked "b" "r2") q q' :=
    Beside.of_play (similarCheck_sound "anna") _ (.start (similarCheck_sound _ _ _ rfl)) plays
  have others : SameOthers "anna" (sampleAsked "a" "r1") (sampleAsked "b" "r2") := by
    intro i op other
    match i with
    | 0 =>
      simp only [sampleAsked, List.getElem?_cons_zero, Option.some.injEq]
      constructor <;> · rintro rfl; exact (other rfl).elim
    | i + 1 => simp [sampleAsked]
  have answered := Pool.task_of_answered ended
  have private_ := connection_private sampleHost "anna" (sampleAsked "a" "r1") 1 (.getStatus (some "ben"))
    rfl (by simp [Op.isOther])
  exact ⟨q, q', reply, alike, answered, (private_.2 _ q q' others alike reply).mp answered, told⟩

end PpvpnCore.Service
