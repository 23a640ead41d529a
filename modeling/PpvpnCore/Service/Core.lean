import Mathlib.Algebra.GroupWithZero.Nat
import PpvpnCore.Lib.Rules
import PpvpnCore.Service.Watch

/-!
# The privileged TUN instance

`CoreManager` (`service/src/core.rs`) and the requests that reach it through
the IPC server, as tasks over one lock: one instance at a time, owned by one
client session, for as long as its lease is renewed.

`World` is the manager, the hub of watchers and the stopping flag, with the
clock, what became of every instance ever asked for, and the history the
results speak of. Taking the instance out of the slot is seen by nobody
without the lock, so that it and the hub's word to its watchers are one
section.
-/

namespace PpvpnCore.Service

open Lib

/-! ## The world -/

/-- The platform, the process and what the uuid crate accepts. -/
structure Host where
  windows : Bool
  pid : UInt32
  uuid : String → Bool
  version : String
  buildId : String

/-- Nanoseconds. -/
def leaseDuration : Nat := 45 * 10 ^ 9

/-- What a shutdown could not undo. -/
structure Leftover where
  kind : String
  name : String
  detail : String
  deriving DecidableEq, Repr

/-- What an `apply-profile` carries (`apply_body`). -/
structure ApplyRequest where
  profile : Value
  hosts : List String
  mode : Option String
  choices : ApplyChoices

/-- What an instance runs, as far as it is recorded. -/
structure Applied where
  profile : Value
  hosts : List String
  mode : Option String

def ApplyRequest.applied (request : ApplyRequest) : Applied :=
  ⟨request.profile, request.hosts, request.mode⟩

/-- An instance that was asked for. -/
structure Instance where
  /-- The task that asked for it, -/
  task : Nat
  /-- and for which OS user. -/
  owner : Option String
  /-- It was created. -/
  made : Bool := false
  /-- The reason once it is `Fatal`. -/
  fatal : Option String := none
  /-- How often its shutdown returned. -/
  downs : Nat := 0
  runs : Option Applied := none

structure RunningCore where
  id : Nat
  /-- Its instance. -/
  key : Nat
  session : SessionRef
  /-- OS user of the client that started this instance; `none` when it could
  not be resolved. -/
  ownerUser : Option String
  profileRevision : String
  profile : Value
  /-- The hosts `profile` was applied with, reused for a rollback. -/
  ruleSetHosts : List String
  routingMode : Option String
  leaseDeadline : Nat

def RunningCore.applied (core : RunningCore) : Applied :=
  ⟨core.profile, core.ruleSetHosts, core.routingMode⟩

/-- What happened to the sessions and their watchers, in order. -/
inductive Note where
  | started (id key : Nat) (session : SessionRef)
  | stopped (key : Nat) (session : SessionRef) (reason : String)
  | registered (id : Nat) (session : SessionRef) (key : Nat)
  | dropped (id : Nat)
  | closed
  deriving DecidableEq, Repr

/-- An update in flight: its task and the instance it updates. -/
structure Flight where
  task : Nat
  id : Nat
  key : Nat
  deriving DecidableEq, Repr

structure World where
  state : Option RunningCore := none
  /-- Numbers instances. -/
  launched : Nat := 0
  hub : Hub := {}
  /-- The service shuts down. -/
  stopping : Bool := false
  now : Nat := 0
  /-- Seconds of the wall clock. -/
  epoch : Nat := 0
  /-- Every instance asked for; its key is its index. -/
  instances : List Instance := []
  /-- The process ended for a restart. -/
  exited : Bool := false
  log : List Note := []
  /-- The `Connect`s let in that wait for the lock. -/
  waiting : List Nat := []
  /-- The `Connect` that has the lock. -/
  starting : Option Nat := none
  /-- `stop_data_plane` stopped the instance. -/
  stopped : Bool := false
  /-- A `Connect` still waited then. -/
  late : Bool := false
  /-- The updates in flight. -/
  flights : List Flight := []
  /-- An update began while another was in flight. -/
  overlapped : Bool := false
  /-- An update that took effect on the current instance found its lease
  lapsed or the instance failed. -/
  missed : Bool := false
  /-- A client applied a profile through the Core API. -/
  bypassed : Bool := false

namespace World

/-- The instance failed on its own. -/
def fatal (w : World) (key : Nat) : Option String := (w.instances[key]?).bind (·.fatal)

def setInstance (w : World) (key : Nat) (f : Instance → Instance) : World :=
  { w with instances := w.instances.modify key f }

def setCore (w : World) (f : RunningCore → RunningCore) : World :=
  { w with state := w.state.map f }

end World

/-! ## Calls -/

inductive Call where
  | launch (key : Nat)
  | shutdown (key : Nat)
  | api (key : Nat) (path : String) (body : Value)
  | apply (key : Nat) (request : ApplyRequest)

/-- An `apply-profile` that timed out may have been committed. -/
structure ApplyAnswer where
  result : Except String Value
  committed : Bool

def Answer : Call → Type
  | .launch _ => Except String Unit
  | .shutdown _ => List Leftover
  | .api _ _ _ => Except String Value
  | .apply _ _ => ApplyAnswer

def applyPath : String := "/v1/apply-profile"

def World.perform : (c : Call) → Answer c → World → World
  | .launch key, (.ok () : Except String Unit), w => w.setInstance key ({ · with made := true })
  | .launch _, .error _, w => w
  | .shutdown key, _, w => w.setInstance key fun i => { i with downs := i.downs + 1 }
  | .api _ path _, _, w => { w with bypassed := w.bypassed || path = applyPath }
  | .apply key request, (answer : ApplyAnswer), w =>
    if answer.result.isOk || answer.committed then
      w.setInstance key ({ · with runs := some request.applied })
    else w

abbrev Task := Prog World Unit Answer

/-- A call that may fail, with its text. -/
abbrev Try := ExceptT String Task

def read : Task World := Prog.get ()

def modify (f : World → World) : Task Unit := Prog.update () f

def inSection {α : Type} (f : World → α × World) : Task α := Prog.step () f

def ask (c : Call) : Task (Answer c) := Prog.ask c

def liftExcept {α : Type} (x : Except String α) : Try α := ExceptT.mk (pure x)

/-! ## Who may do what -/

/-- Both identities known and equal. An unresolvable user matches nobody. -/
def sameUser (owner caller : Option String) : Bool :=
  match owner, caller with
  | some owner, some caller => owner = caller
  | _, _ => false

/-- Access to an existing session: same OS user first, then same session. -/
def access (ownerSession : SessionRef) (ownerUser : Option String) (session : SessionRef)
    (callerUser : Option String) : Except String Unit :=
  if !sameUser ownerUser callerUser then .error "CONNECTION_OWNED_BY_ANOTHER_USER"
  else if ownerSession ≠ session then .error "STALE_OR_FOREIGN_SESSION"
  else .ok ()

inductive Ownership where
  /-- No core yet. -/
  | free
  /-- The previous owner's lease lapsed or its instance failed: replace it. -/
  | expired
  /-- The caller already owns the core: renew and reuse it. -/
  | same
  /-- Same OS user asked to take over: stop the other session's instance. -/
  | takeOver
  | refused (code : String)
  deriving DecidableEq, Repr

def ownership (session : SessionRef) (user : Option String) (live : Bool) (requested : SessionRef)
    (takeOver : Bool) (callerUser : Option String) : Ownership :=
  if !live then .expired
  else if !sameUser user callerUser then .refused "CONNECTION_OWNED_BY_ANOTHER_USER"
  else if session = requested then .same
  else if takeOver then .takeOver
  else .refused "CONNECTION_OWNED_BY_ANOTHER_SESSION"

def validateSession (host : Host) (session : SessionRef) : Except String Unit :=
  if session.sessionId = "" ∨ host.uuid session.sessionId = false then .error "INVALID_SESSION_ID"
  else if session.generation = 0 then .error "INVALID_GENERATION"
  else .ok ()

/-- Rejects a `routing_mode` other than `rules` / `global` before anything
starts. -/
def checkRoutingMode : Option String → Except String Unit
  | none => .ok ()
  | some mode =>
    if mode = "rules" ∨ mode = "global" then .ok () else .error "ROUTING_MODE_INVALID"

/-- What a profile must say: its revision and its schema. -/
def checkProfile (profile : Value) : Except String (String × UInt64) :=
  match ((profile.get "revision").bind Value.asStr).filter (· ≠ "") with
  | none => .error "PROFILE_REVISION_REQUIRED"
  | some revision =>
    match (profile.get "schema_version").bind Value.asU64 with
    | none => .error "PROFILE_SCHEMA_REQUIRED"
    | some schema => .ok (revision, schema)

namespace World

/-- Lease valid and instance not failed. -/
def live (w : World) (core : RunningCore) : Bool :=
  w.now < core.leaseDeadline && (w.fatal core.key).isNone

/-- The caller must run as the owner's OS user and present the owner's
session. -/
def authorize (w : World) (host : Host) (session : SessionRef) (callerUser : Option String) :
    Except String RunningCore := do
  validateSession host session
  let core ← match w.state with
    | some core => .ok core
    | none => .error "CONNECTION_NOT_ACTIVE"
  access core.session core.ownerUser session callerUser
  if !w.live core then .error "CONNECTION_LEASE_EXPIRED" else .ok core

/-- A new `Connect` and the core's current owner. -/
def decision (w : World) (body : ConnectPayload) (callerUser : Option String) : Ownership :=
  match w.state with
  | none => .free
  | some core =>
    ownership core.session core.ownerUser (w.live core) body.session body.takeOver callerUser

def idle (host : Host) : Status where
  running := false
  pid := -1
  binPath := ""
  mode := ""
  serviceVersion := host.version
  serviceBuildId := host.buildId
  sessionId := none
  generation := 0
  profileRevision := none
  leaseExpiresAtMs := none

/-- `GetStatus` for `callerUser`: session details only for the owner's user. -/
def statusFor (w : World) (host : Host) (callerUser : Option String) : Status :=
  match w.state with
  | none => idle host
  | some core =>
    if !w.live core then idle host
    -- In use by someone else: no session, no pid, nothing to replay.
    else if !sameUser core.ownerUser callerUser then
      { idle host with running := true, mode := "transparent" }
    else
      { idle host with
        running := true
        pid := host.pid.toUInt64.toInt64
        mode := "transparent"
        sessionId := some core.session.sessionId
        generation := core.session.generation
        profileRevision := some core.profileRevision
        leaseExpiresAtMs :=
          some (UInt64.ofNat (min (2 ^ 64 - 1)
            (w.epoch * 1000 + (core.leaseDeadline - w.now) / 10 ^ 6))) }

/-- The lease runs anew. -/
def renew (w : World) : World := w.setCore ({ · with leaseDeadline := w.now + leaseDuration })

/-- The current instance leaves its slot, and its session's watchers hear
why. -/
def stopCore (w : World) (reason : String) : Option RunningCore × World :=
  match w.state with
  | none => (none, w)
  | some core =>
    (some core, { w with
      state := none
      hub := w.hub.coreStopped core.session reason
      log := w.log ++ [.stopped core.key core.session reason] })

/-- A new instance is asked for; its key. -/
def asked (w : World) (task : Nat) (owner : Option String) : Nat × World :=
  (w.instances.length, { w with instances := w.instances ++ [{ task, owner }] })

/-- The instance `key` is the session's. -/
def store (w : World) (key : Nat) (body : ConnectPayload) (revision : String)
    (callerUser : Option String) : World :=
  { w with
    launched := w.launched + 1
    state := some {
      id := w.launched + 1
      key
      session := body.session
      ownerUser := callerUser
      profileRevision := revision
      profile := body.profile
      ruleSetHosts := body.allowedRuleSetHosts
      routingMode := body.routingMode
      leaseDeadline := w.now + leaseDuration }
    log := w.log ++ [.started (w.launched + 1) key body.session] }

/-- The profile of an update is the session's. -/
def record (w : World) (body : UpdateProfilePayload) (revision : String) : World :=
  w.setCore fun core =>
    { core with
      profile := body.profile
      ruleSetHosts := body.allowedRuleSetHosts
      routingMode := body.routingMode
      profileRevision := revision
      leaseDeadline := w.now + leaseDuration }

/-- A watcher for the current instance's session. -/
def register (w : World) (session : SessionRef) : Except String Nat × World :=
  match w.hub.register session with
  | (.ok id, hub) => (.ok id, { w with
      hub
      log := w.log ++ [.registered id session ((w.state.map (·.key)).getD 0)] })
  | (.error e, hub) => (.error e, { w with hub })

end World

/-! ## Stopping -/

def disconnected : String := "disconnected"
def leaseExpired : String := "lease_expired"
def takenOver : String := "taken_over"
def replaced : String := "replaced"
def startFailed : String := "start_failed"
def profileFailed : String := "profile_failed"
def exitedReason : String := "exited"
def serviceStoppingReason : String := "service_stopping"

/-- The leftovers after which only ending the process cleans up. -/
def needsProcessRestart (leftovers : List Leftover) (windows : Bool) : Bool :=
  windows && leftovers.any fun leftover => leftover.kind = "wfp" || leftover.kind = "runtime"

/-- Stops the current instance and returns once its shutdown did. -/
def stopBecause (host : Host) (reason : String) : Task Unit := do
  match ← inSection (·.stopCore reason) with
  | none => return
  | some core => do
    let leftovers ← ask (.shutdown core.key)
    if reason ≠ serviceStoppingReason ∧ needsProcessRestart leftovers host.windows then
      modify ({ · with exited := true })

/-! ## Connect -/

def launch (key : Nat) : Try Unit := ExceptT.mk (ask (.launch key))

/-- One Core API call of an instance. -/
def callInstance (key : Nat) (path : String) (body : Value) : Try Value :=
  ExceptT.mk (ask (.api key path body))

/-- One `apply-profile` of an instance. -/
def applyProfile (key : Nat) (request : ApplyRequest) : Try Value :=
  ExceptT.mk (do
    let answer ← ask (.apply key request)
    return (answer : ApplyAnswer).result)

/-- The schema of an instance's profiles, from its version. -/
def checkSchema (key : Nat) (requested : UInt64) : Try Unit := do
  let version ← callInstance key "/v1/get-version" (.object [])
  match (version.get "profile_schema_version").bind Value.asU64 with
  | none => throw "CORE_SCHEMA_CAPABILITY_MISSING"
  | some supported => if requested ≠ supported then throw "PROFILE_SCHEMA_UNSUPPORTED"

/-- Checks the schema, applies the profile and starts the data plane. -/
def bringUp (key : Nat) (schema : UInt64) (request : ApplyRequest) : Try Unit := do
  checkSchema key schema
  let _ ← applyProfile key request
  let _ ← callInstance key "/v1/start" (.object [])

/-- Creates a new instance and brings it up. Any failure after the creation
stops the instance again. -/
def startCore (host : Host) (i : Nat) (body : ConnectPayload) (callerUser : Option String) :
    Try Nat := do
  let (revision, schema) ← liftExcept (checkProfile body.profile)
  liftExcept (checkRoutingMode body.routingMode)
  -- Whatever ran before must be gone: it shares our state directory.
  stopBecause host replaced
  let key ← (inSection (·.asked i callerUser) : Task Nat)
  launch key
  modify (·.store key body revision callerUser)
  let up ← ExceptT.lift (bringUp key schema
    ⟨body.profile, body.allowedRuleSetHosts, body.routingMode, body.choices⟩).run
  match up with
  | .error e => do
    stopBecause host startFailed
    throw e
  | .ok () => return host.pid.toNat

/-- Start (or keep) the TUN instance for `body.session`. -/
def connectLocked (host : Host) (i : Nat) (body : ConnectPayload) (callerUser : Option String) :
    Try Nat := do
  liftExcept (validateSession host body.session)
  let w ← read
  match w.decision body callerUser with
  | .free => startCore host i body callerUser
  | .expired => do
    stopBecause host leaseExpired
    startCore host i body callerUser
  | .same => do
    modify (·.renew)
    return host.pid.toNat
  | .takeOver => do
    stopBecause host takenOver
    startCore host i body callerUser
  | .refused code => throw code

/-! ## The other requests -/

def renewLeaseLocked (host : Host) (session : SessionRef) (callerUser : Option String) :
    Try Status := do
  let w ← read
  let _ ← liftExcept (w.authorize host session callerUser)
  modify (·.renew)
  let w ← read
  return w.statusFor host callerUser

def disconnectLocked (host : Host) (session : SessionRef) (callerUser : Option String) :
    Try Unit := do
  let w ← read
  let _ ← liftExcept (w.authorize host session callerUser)
  stopBecause host disconnected

def watchLocked (host : Host) (session : SessionRef) (callerUser : Option String) : Try Nat := do
  let w ← read
  let _ ← liftExcept (w.authorize host session callerUser)
  ExceptT.mk (inSection (·.register session))

/-- Core API paths a client may call. -/
def allowedPaths : List String :=
  ["/v1/get-version", "/v1/validate-profile", applyPath, "/v1/start", "/v1/stop",
    "/v1/get-status", "/v1/list-nodes", "/v1/select-node", "/v1/get-selected-node",
    "/v1/pin-ingress", "/v1/probe-entrances", "/v1/probe-availability",
    "/v1/get-local-proxy-metadata", "/v1/get-local-proxy-credential", "/v1/get-traffic",
    "/v1/get-connections"]

/-- Authorizes a Core API call (renewing the lease); the instance it is bound
to. -/
def prepareCall (host : Host) (payload : CoreApiPayload) (callerUser : Option String) :
    Try Nat := do
  if payload.path ∉ allowedPaths then throw "Core API path is not allowed"
  let w ← read
  let core ← liftExcept (w.authorize host payload.session callerUser)
  modify (·.renew)
  return core.key

/-- `CoreApi`: the instance is called without the lock. -/
def callApi (host : Host) (payload : CoreApiPayload) (callerUser : Option String) : Try Value := do
  let key ← ExceptT.mk (Prog.withLock (prepareCall host payload callerUser).run)
  callInstance key payload.path payload.body

/-! ## UpdateProfile -/

/-- What an update begins with: the instance and what it runs. -/
def World.beginUpdate (w : World) (i : Nat) (host : Host) (session : SessionRef)
    (callerUser : Option String) : Except String RunningCore × World :=
  match w.authorize host session callerUser with
  | .error e => (.error e, w)
  | .ok core =>
    (.ok core, { w with
      flights := w.flights ++ [⟨i, core.id, core.key⟩]
      overlapped := w.overlapped || !w.flights.isEmpty })

def World.landed (w : World) (i : Nat) : World := { w with flights := w.flights.filter (·.task ≠ i) }

/-- The new profile took effect: it is recorded if the same instance is still
the session's. -/
def recordUpdate (host : Host) (id : Nat) (body : UpdateProfilePayload) (revision : String)
    (callerUser : Option String) : Try Status := do
  let w ← read
  match w.authorize host body.session callerUser with
  | .error e => do
    modify fun w => if w.state.any (·.id = id) then { w with missed := true } else w
    throw e
  | .ok core =>
    if core.id ≠ id then throw "CONNECTION_NOT_ACTIVE"
    else do
      modify (·.record body revision)
      let w ← read
      return w.statusFor host callerUser

/-- The instance `id` is stopped if it is the current one. -/
def stopCurrent (host : Host) (id : Nat) : Task Unit :=
  Prog.withLock do
    let w ← read
    if w.state.any (·.id = id) then stopBecause host profileFailed

/-- The previous profile is applied again, in case the candidate was committed
after all. -/
def rollBack (host : Host) (core : RunningCore) (choices : ApplyChoices) (error : String) :
    Try Status := do
  match ← ExceptT.lift (applyProfile core.key
    ⟨core.profile, core.ruleSetHosts, core.routingMode, choices⟩).run with
  | .ok _ => throw ("PROFILE_UPDATE_ROLLED_BACK: " ++ error)
  | .error e => do
    stopCurrent host core.id
    throw ("PROFILE_UPDATE_AND_ROLLBACK_FAILED: " ++ error ++ "; " ++ e)

/-- The part of an update that calls the instance. -/
def updateInstance (host : Host) (core : RunningCore) (body : UpdateProfilePayload)
    (revision : String) (schema : UInt64) (callerUser : Option String) : Try Status := do
  checkSchema core.key schema
  match ← ExceptT.lift (applyProfile core.key
    ⟨body.profile, body.allowedRuleSetHosts, body.routingMode, body.choices⟩).run with
  | .error e => rollBack host core body.choices e
  | .ok _ => ExceptT.mk (Prog.withLock (recordUpdate host core.id body revision callerUser).run)

/-- `UpdateProfile` by task `i`: checks the schema and applies the new profile
(rolling back on failure) without the lock, then records it. -/
def updateProfile (host : Host) (i : Nat) (body : UpdateProfilePayload)
    (callerUser : Option String) : Try Status := do
  let (revision, schema) ← liftExcept (checkProfile body.profile)
  liftExcept (checkRoutingMode body.routingMode)
  let core ← ExceptT.mk (Prog.withLock
    (inSection (·.beginUpdate i host body.session callerUser)))
  let result ← ExceptT.lift (updateInstance host core body revision schema callerUser).run
  modify (·.landed i)
  liftExcept result

/-! ## The watchdog, the sweep and the end -/

/-- One tick: an instance whose lease lapsed, then one that failed on its
own. -/
def watchdog (host : Host) : Task Unit :=
  Prog.withLock do
    let w ← read
    if w.state.any fun core => core.leaseDeadline ≤ w.now then stopBecause host leaseExpired
    let w ← read
    if w.state.any fun core => (w.fatal core.key).isSome then stopBecause host exitedReason

/-- At service start: an instance is created and shut down again, which sweeps
what a killed service left. -/
def sweepLeftovers (i : Nat) : Task Unit :=
  Prog.withLock do
    let w ← read
    if w.state.isSome then return
    let key ← (inSection (·.asked i none) : Task Nat)
    match ← (launch key).run with
    | .error _ => return
    | .ok () => do
      let _ ← ask (.shutdown key)

/-- Every watcher is told `stopping`. -/
def World.closeAll (w : World) : World :=
  { w with hub := w.hub.closeAll, log := w.log ++ [.closed] }

/-- The instance was stopped for good. -/
def World.stoppedForGood (w : World) : World :=
  { w with stopped := true, late := w.late || !w.waiting.isEmpty }

/-- Stops taking work, tells the watchers and stops the core. -/
def stopDataPlane (host : Host) : Task Unit := do
  modify ({ · with stopping := true })
  modify (·.closeAll)
  Prog.withLock do
    stopBecause host serviceStoppingReason
    modify (·.stoppedForGood)

/-! ## Requests -/

/-- What a request is answered. -/
inductive Reply where
  | error (code : String)
  | pid (pid : Nat)
  | status (status : Status)
  | data (value : Value)
  | done
  | watching

def Reply.of {α : Type} (ok : α → Reply) : Except String α → Reply
  | .ok a => ok a
  | .error e => .error e

/-- A request refused while the service shuts down; the flag is read once. -/
def unlessStopping (p : Task Reply) : Task Reply := do
  let w ← read
  if w.stopping then return .error serviceStopping else p

/-- A `Connect` is let in, unless the service shuts down. -/
def World.letIn (w : World) (i : Nat) : Bool × World :=
  if w.stopping then (false, w) else (true, { w with waiting := w.waiting ++ [i] })

def World.enter (w : World) (i : Nat) : World :=
  { w with waiting := w.waiting.filter (· ≠ i), starting := some i }

def World.leave (w : World) : World := { w with starting := none }

def connect (host : Host) (i : Nat) (body : ConnectPayload) (callerUser : Option String) :
    Task Reply := do
  if ← inSection (·.letIn i) then
    let result ← Prog.withLock do
      modify (·.enter i)
      let result ← (connectLocked host i body callerUser).run
      modify (·.leave)
      return result
    return .of .pid result
  else return .error serviceStopping

/-- A watch connection, until its writer is done. -/
def watch (host : Host) (session : SessionRef) (callerUser : Option String) : Task Reply := do
  match ← Prog.withLock (watchLocked host session callerUser).run with
  | .error e => return .error e
  | .ok id => do
    modify fun w => { w with hub := w.hub.drop id, log := w.log ++ [.dropped id] }
    return .watching

/-- The clock goes on, never back. -/
def World.tick (w : World) (now epoch : Nat) : World := { w with now := max w.now now, epoch }

/-- An instance fails on its own. -/
def World.fail (w : World) (key : Nat) (reason : String) : World :=
  w.setInstance key fun i => { i with fatal := i.fatal.or (some reason) }

/-- Everything the service is asked, does by itself, or has happen to it. A
user is the caller's as the operating system tells it, once a request. -/
inductive Op where
  | connect (user : Option String) (body : ConnectPayload)
  | updateProfile (user : Option String) (body : UpdateProfilePayload)
  | renewLease (user : Option String) (session : SessionRef)
  | disconnect (user : Option String) (session : SessionRef)
  | coreApi (user : Option String) (payload : CoreApiPayload)
  | watch (user : Option String) (session : SessionRef)
  | getStatus (user : Option String)
  | watchdog
  | sweep
  | stopDataPlane
  | tick (now epoch : Nat)
  | fail (key : Nat) (reason : String)

def Op.task (host : Host) (i : Nat) : Op → Task Reply
  | .connect user body => Service.connect host i body user
  | .updateProfile user body => unlessStopping do
    return .of .status (← (Service.updateProfile host i body user).run)
  | .renewLease user session => unlessStopping do
    return .of .status (← Prog.withLock (renewLeaseLocked host session user).run)
  | .disconnect user session => do
    return .of (fun _ => .done) (← Prog.withLock (disconnectLocked host session user).run)
  | .coreApi user payload => unlessStopping do
    return .of .data (← (callApi host payload user).run)
  | .watch user session => unlessStopping (Service.watch host session user)
  | .getStatus user => Prog.withLock do
    let w ← read
    return .status (w.statusFor host user)
  | .watchdog => do Service.watchdog host; return .done
  | .sweep => do sweepLeftovers i; return .done
  | .stopDataPlane => do Service.stopDataPlane host; return .done
  | .tick now epoch => do modify (·.tick now epoch); return .done
  | .fail key reason => do modify (·.fail key reason); return .done

/-- A service just started and everything it is going to be asked and to do, in
any order. -/
def serve (host : Host) (ops : List Op) : Pool World Unit Answer Reply :=
  { state := {}, tasks := ops.mapIdx fun i op => { prog := op.task host i } }

end PpvpnCore.Service
