import PpvpnCore.Lib.Lock
import PpvpnCore.Desktop.Machine

/-!
# Enhanced mode

The controller of `desktop/src/enhanced.rs` as tasks over its data and one
operation lock: connect, disconnect and what the user asks for. Its background
tasks are in `Desktop.Recover`.

The service, the platform and the file system answer as they like. A spawned
task is a `Job` that some worker takes up; a loop that was aborted is dropped at
its next await. A health check is one call, with the failure it found; so is
waiting for a service to answer. Log lines, the routing mode and the choices a
request carries, and the panics of blocking tasks are left out.
-/

namespace PpvpnCore.Desktop.Enhanced

open Lib
open Client (SessionRef)

/-! ## State -/

structure Profile where
  value : Service.Value
  revision : String

/-- What the state file holds. -/
structure Persisted where
  generation : UInt64
  /-- `Desired::Connected`. -/
  desired : Bool
  sessionId : Option String
  profileRevision : Option String
  deriving DecidableEq, Repr

def Persisted.of (machine : Machine) : Persisted :=
  ⟨machine.generation, machine.desiredOn, machine.sessionId, machine.revision⟩

/-- How a watch of the session's core ended. -/
inductive WatchEnd where
  | unsupported
  | refused (error : ServiceError)
  | stopping
  | coreStopped (reason : String)
  | lost (detail : String)
  | abandoned (detail : String)
  | cancelled

/-- What a watch event means for the connection. -/
inductive WatchVerdict where
  /-- Nothing proven: lease renewal keeps deciding. -/
  | fallback
  | recover (cause : ClientErrorInfo)
  | takenOver (info : ClientErrorInfo)
  deriving DecidableEq, Repr

def serviceStopping : ClientErrorInfo := ⟨.serviceUnavailable, "SERVICE_STOPPING"⟩

def coreStopped (reason : String) : ClientErrorInfo := ⟨.connectFailed, "CORE_STOPPED: " ++ reason⟩

def watchVerdict : WatchEnd → WatchVerdict
  | .unsupported | .abandoned _ | .cancelled => .fallback
  | .stopping => .recover serviceStopping
  | .lost detail => .recover ⟨.serviceUnavailable, "SERVICE_WATCH_LOST: " ++ detail⟩
  | .coreStopped reason =>
    if reason = "taken_over" then .takenOver ⟨.serviceBusy, "CONNECTION_TAKEN_OVER"⟩
    else if reason = "service_stopping" then .recover serviceStopping
    else .recover (coreStopped reason)
  | .refused error =>
    match ownershipLost error with
    | some (info, _) => .takenOver info
    | none =>
      if error.reasonCode = some "SERVICE_STOPPING" then .recover serviceStopping
      else if error.reasonCode ∈ [some "CONNECTION_LEASE_EXPIRED", some "CONNECTION_NOT_ACTIVE"] then
        .recover (coreStopped error.detail)
      else .fallback

inductive LoopKind where
  | lease | health | watch
  deriving DecidableEq, Repr

/-- The handle of a loop task. -/
structure Loop where
  id : Nat
  kind : LoopKind
  session : SessionRef
  deriving DecidableEq, Repr

/-- Where a loop is. A watch loop may have the verdict on how its watch ended. -/
inductive LoopStatus where
  /-- Not spawned, at its end or dropped. -/
  | gone
  | asleep (verdict : Option WatchVerdict)
  | busy (verdict : Option WatchVerdict)
  /-- Runs on to its next await. -/
  | aborted
  deriving DecidableEq, Repr

/-- Neither aborted nor at its end. -/
def LoopStatus.alive : LoopStatus → Bool
  | .asleep _ | .busy _ => true
  | .gone | .aborted => false

/-- A loop that sleeps is dropped at once, another at its next await. -/
def LoopStatus.abort : LoopStatus → LoopStatus
  | .gone | .asleep _ => .gone
  | .busy _ | .aborted => .aborted

structure Data where
  machine : Machine := {}
  profile : Option Profile := none
  serviceInstalled : Bool := false
  staleServiceReinstallTried : Bool := false
  staleServiceNoted : Bool := false
  recovery : RecoveryEpisode := {}
  routingReconnects : RoutingReconnects := {}
  loopsGeneration : Option UInt64 := none
  /-- Handles of the loop tasks. -/
  loops : List Loop := []

structure State where
  data : Data := {}
  uninstalling : Bool := false
  /-- The loop tasks of the runtime, -/
  table : Loop → LoopStatus := fun _ => .gone
  nextTask : Nat := 0
  /-- recoveries that were spawned, and those that wait for the lock. -/
  spawned : List (UInt64 × ClientErrorInfo) := []
  waiting : List (UInt64 × ClientErrorInfo) := []

namespace State

def put (s : State) (l : Loop) (status : LoopStatus) : State :=
  { s with table := fun l' => if l' = l then status else s.table l' }

def abort (s : State) (l : Loop) : State := s.put l (s.table l).abort

def alive (s : State) (l : Loop) : Bool := (s.table l).alive

def ended (s : State) (l : Loop) : State := s.put l .gone

/-- A loop waits, unless it was aborted. -/
def sleeps (s : State) (l : Loop) (verdict : Option WatchVerdict) : State :=
  s.put l (if s.alive l then .asleep verdict else .gone)

def spawnRecover (s : State) (generation : UInt64) (cause : ClientErrorInfo) : State :=
  { s with spawned := s.spawned ++ [(generation, cause)] }

end State

/-- What a worker takes up. -/
inductive Job where
  | loop (l : Loop) (verdict : Option WatchVerdict)
  | recover (generation : UInt64) (cause : ClientErrorInfo)

def State.taken (s : State) : Job → State
  | .loop l verdict => s.put l (.busy verdict)
  | .recover generation cause =>
    { s with
      spawned := s.spawned.erase (generation, cause)
      waiting := (generation, cause) :: s.waiting }

/-- A watch ended: its loop has a verdict, or nothing to do. -/
def State.watched (s : State) (l : Loop) : Option WatchEnd → State
  | none => s.ended l
  | some end_ =>
    if s.table l = .busy none then
      if watchVerdict end_ = .fallback then s.ended l
      else s.put l (.busy (some (watchVerdict end_)))
    else s

/-- A loop that hears nothing was aborted, and ends where it waits. -/
def State.awaited (s : State) (l : Loop) (heard : Bool) : State := if heard then s else s.ended l

structure EnhancedState where
  phase : ConnectionPhase
  reason : Option ClientErrorInfo
  retryable : Bool
  serviceInstalled : Bool
  canTakeOver : Bool
  competitors : List String
  deriving DecidableEq, Repr

def stateOf (data : Data) : EnhancedState :=
  ⟨data.machine.phase, data.machine.reason, data.machine.retryable, data.serviceInstalled,
    canTakeOver data.machine, data.machine.competitors⟩

/-! ## Calls -/

structure ServiceStatus where
  running : Bool
  sessionId : Option String
  generation : UInt64
  serviceBuildId : Option String

/-- A failure of a platform hook. -/
inductive PlatformError where
  | cancelled
  | failed (message : String)

inductive Call where
  /-- The sinks of the client. -/
  | onState (state : EnhancedState)
  | onError (info : ClientErrorInfo)
  | persist (state : Persisted)
  | loadPersisted
  | serviceInstalled
  /-- Within five seconds. -/
  | getVersion
  | installService
  | uninstallService
  | waitForService
  | resetAuth
  /-- The pre-connect check: who owns the network, if anyone. -/
  | preflight
  | newSessionId
  | connect (session : SessionRef) (profile : Service.Value) (takeOver : Bool)
  | getStatus
  /-- Within five seconds. -/
  | getStatusWithin
  | runHealth (session : SessionRef) (revision : String)
  | healthSettle
  | disconnect (session : SessionRef)
  /-- The same, with `RELEASE_BUDGET` for the answer. -/
  | release (session : SessionRef)
  | updateProfile (session : SessionRef) (profile : Service.Value)
  /-- How many status polls fit before `DISCONNECT_CONFIRM_TIMEOUT`. -/
  | confirmPolls
  /-- A worker takes up a task. -/
  | take
  /-- A loop waits for an answer; none comes once it was aborted. -/
  | renewLease (l : Loop)
  | watch (l : Loop)
  | checkHealth (l : Loop) (revision : String)
  /-- Whether a failure is put down to a change of the network, or to a pinned
  line that is down. -/
  | excused (l : Loop) (error : ClientErrorInfo)
  /-- The pause before an automatic reconnect. -/
  | pause (seconds : Nat)
  /-- The clock of the reconnect budget. -/
  | clock

def Answer : Call → Type
  | .onState _ | .onError _ | .resetAuth | .healthSettle | .release _ | .pause _ => Unit
  | .persist _ | .waitForService | .runHealth _ _ => Except ClientErrorInfo Unit
  | .loadPersisted => Option Persisted
  | .serviceInstalled => Bool
  | .getVersion => Option (Except ServiceError (Option String))
  | .installService | .uninstallService => Except PlatformError Unit
  | .preflight => Option (List String)
  | .newSessionId => String
  | .connect _ _ _ | .disconnect _ | .updateProfile _ _ => Except ServiceError Unit
  | .getStatus => Except ServiceError ServiceStatus
  | .getStatusWithin => Option (Except ServiceError ServiceStatus)
  | .confirmPolls | .clock => Nat
  | .take => Job
  | .renewLease _ => Option (Except ServiceError ServiceStatus)
  | .watch _ => Option WatchEnd
  | .checkHealth _ _ => Option (Except ClientErrorInfo Unit)
  | .excused _ _ => Option Bool

def effect : (c : Call) → Answer c → State → State
  | .take, job, s => s.taken job
  | .renewLease l, r, s => s.awaited l (r : Option (Except ServiceError ServiceStatus)).isSome
  | .watch l, r, s => s.watched l r
  | .checkHealth l _, r, s => s.awaited l (r : Option (Except ClientErrorInfo Unit)).isSome
  | .excused l _, r, s => s.awaited l (r : Option Bool).isSome
  | _, _, s => s

/-! ## Tasks -/

/-- What a section is. -/
inductive Place where
  | plain
  /-- The first section of enable, retry or take_over, which resets the
  budgets, and of restore. -/
  | begins (user : Bool)
  /-- The machine may change; in a background task, that of `generation`. -/
  | machine (generation : Option UInt64)
  /-- A connect attempt begins. -/
  | attempt
  /-- A loop looks whether its generation is on. -/
  | looks (generation : UInt64)
  /-- A loop reports the connection taken over. -/
  | lost (l : Loop)
  /-- A disable looks whether an uninstall has turned the mode off, or has
  returned. -/
  | idle
  | disabled
  /-- A recovery has the lock and looks whether its generation is on; has it
  again and looks whether it is still reconnecting; has returned. -/
  | finds (generation : UInt64)
  | resumes (generation : UInt64)
  | recovered
  /-- A reconnect is asked of the budget. -/
  | claims (now : Nat)

abbrev Task (α : Type) := Prog State Place Answer α

def ask (c : Call) : Task (Answer c) := Prog.ask c

def read : Task State := Prog.get .plain

def withData (place : Place) (change : Data → Data) : Task Unit :=
  Prog.update place fun s => { s with data := change s.data }

def emit : Task Unit := do
  let s ← read
  ask (.onState (stateOf s.data))

/-- Told to the sink if `generation` was current. -/
def transition (by_ : Option UInt64) (generation : UInt64) (phase : ConnectionPhase)
    (reason : Option ClientErrorInfo) (retryable : Bool) : Task Bool := do
  let applied ← Prog.step (.machine by_) fun s =>
    (decide (s.data.machine.generation = generation),
      { s with
        data := { s.data with
          machine := s.data.machine.transition generation phase reason retryable } })
  if applied then do
    emit
    pure true
  else pure false

def persist (persisted : Persisted) : Task Unit := do
  let written : Except ClientErrorInfo Unit ← ask (.persist persisted)
  match written with
  | .ok () => pure ()
  | .error info => ask (.onError info)

def refreshInstalled : Task Bool := do
  let installed : Bool ← ask .serviceInstalled
  let changed ← Prog.step .plain fun s =>
    (decide (s.data.serviceInstalled ≠ installed),
      { s with data := { s.data with serviceInstalled := installed } })
  if changed then do
    emit
    pure installed
  else pure installed

/-! ### Loops -/

def stopLoops : Task Unit := do
  let loops ← Prog.step .plain fun s =>
    (s.data.loops, { s with data := { s.data with loopsGeneration := none, loops := [] } })
  Prog.forEach loops fun l => Prog.update .plain fun s => s.abort l

def spawnLoop (kind : LoopKind) (session : SessionRef) : Task Loop :=
  Prog.step .plain fun s =>
    let l : Loop := ⟨s.nextTask, kind, session⟩
    (l, { s.put l (.asleep none) with nextTask := s.nextTask + 1 })

def startLoops (generation : UInt64) : Task Unit := do
  let claimed ← Prog.step .plain fun s =>
    if s.data.loopsGeneration = some generation then (false, s)
    else
      (true, { s with data := { s.data with
        loopsGeneration := some generation
        loops := s.data.loops.filter fun l => s.table l ≠ .gone } })
  if !claimed then pure ()
  else do
    let s ← read
    match s.data.machine.session with
    | none => pure ()
    | some session => do
      let lease ← spawnLoop .lease session
      let health ← spawnLoop .health session
      let watch ← spawnLoop .watch session
      withData .plain fun data => { data with loops := data.loops ++ [lease, health, watch] }

/-! ### Disconnecting -/

/-- Best effort. -/
def releaseSession (machine : Machine) : Task Unit :=
  if machine.phase = .off then pure ()
  else
    match machine.session with
    | some session => ask (.release session)
    | none => pure ()

/-- The status is polled until it no longer runs a core for `session` or
nothing listens. -/
def confirmStopped (session : SessionRef) (error : ServiceError) :
    Nat → Task (Except ClientErrorInfo Unit)
  | 0 => pure (.error ⟨.serviceUnavailable, disconnectUnconfirmed ++ ": " ++ error.detail⟩)
  | polls + 1 => do
    let answer : Option (Except ServiceError ServiceStatus) ← ask .getStatusWithin
    match answer with
    | some (.ok status) =>
      if !(status.running && status.sessionId = some session.sessionId) then pure (.ok ())
      else confirmStopped session error polls
    | some (.error failure) =>
      if failure.notListening then pure (.ok ()) else confirmStopped session error polls
    | none => confirmStopped session error polls

def confirm (session : SessionRef) (error : ServiceError) : Task (Except ClientErrorInfo Unit) :=
  if error.notListening then pure (.ok ())
  else do
    let polls : Nat ← ask .confirmPolls
    confirmStopped session error (polls + 1)

/-- A definite answer settles it; after a broken call the status is polled. -/
def stopSession (session : SessionRef) : Task (Except ClientErrorInfo Unit) := do
  let stopped : Except ServiceError Unit ← ask (.disconnect session)
  match stopped with
  | .ok () => pure (.ok ())
  | .error (.failed _) => pure (.ok ())
  | .error error => confirm session error

def finish (generation : UInt64) : Task Unit := do
  let persisted ← Prog.step (.machine none) fun s =>
    let machine := s.data.machine.finishDisconnect generation
    (if s.data.machine.generation = generation then some (Persisted.of machine) else none,
      { s with data := { s.data with machine } })
  match persisted with
  | some persisted => do
    persist persisted
    emit
  | none => pure ()

/-- The session stays: a retry disconnects it again. -/
def unconfirmed (generation : UInt64) (info : ClientErrorInfo) :
    Task (Except ClientErrorInfo Unit) := do
  let persisted ← Prog.step (.machine none) fun s =>
    let machine := { s.data.machine with desiredOn := false }.transition generation .error
      (some info) true
    (if s.data.machine.generation = generation then some (Persisted.of machine) else none,
      { s with data := { s.data with machine } })
  match persisted with
  | some persisted => do
    persist persisted
    emit
    pure (.error info)
  | none => do
    emit
    pure (.error info)

/-- Ends the current session; `confirm`: not before the service confirmed that
its core stopped. -/
def disconnectCurrent (confirm : Bool) : Task (Except ClientErrorInfo Unit) := do
  stopLoops
  let s ← read
  let machine := s.data.machine
  if machine.phase = .off then do
    finish machine.generation
    pure (.ok ())
  else do
    let _ ← transition none machine.generation .disconnecting none false
    match machine.session, confirm with
    | some session, true => do
      let stopped ← stopSession session
      match stopped with
      | .error info => unconfirmed machine.generation info
      | .ok () => do
        finish machine.generation
        pure (.ok ())
    | _, _ => do
      releaseSession machine
      finish machine.generation
      pure (.ok ())

/-! ### The service -/

/-- Runs the platform install hook. -/
def install : Task (Except ClientErrorInfo Unit) := do
  let installed : Except PlatformError Unit ← ask .installService
  match installed with
  | .error .cancelled => pure (.error ⟨.serviceInstallCancelled, "SERVICE_INSTALL_CANCELLED"⟩)
  | .error (.failed message) => pure (.error ⟨.serviceInstallFailed, message⟩)
  | .ok () => do
    let _ ← ask .resetAuth
    let _ ← refreshInstalled
    pure (.ok ())

def waitForService : Task (Except ClientErrorInfo Unit) := ask .waitForService

/-- Another build than the one this client ships with. -/
def serviceIsStale (expected reported : Option String) : Bool :=
  expected.isSome && reported ≠ expected

/-- Reinstalls an answering but outdated service, once. -/
def replaceStaleService (expected : Option String) (by_ : Option UInt64) (generation : UInt64) :
    Task (Except ClientErrorInfo Unit) := do
  let s ← read
  if s.data.staleServiceReinstallTried then pure (.ok ())
  else do
    let answer : Option (Except ServiceError ServiceStatus) ← ask .getStatusWithin
    if (answer.bind (·.toOption)).any (·.running) then pure (.ok ())
    else do
      withData .plain fun data => { data with staleServiceReinstallTried := true }
      let _ ← transition by_ generation .waitingPermission none false
      let installed ← install
      let _ ← transition by_ generation .preparing none false
      let answering ← waitForService
      match installed, answering with
      | .ok (), .error info | .error info, .error _ => pure (.error info)
      | .error _, .ok () => pure (.ok ())
      | .ok (), .ok () => do
        let version : Option (Except ServiceError (Option String)) ← ask .getVersion
        if (version.bind (·.toOption)).any fun build => serviceIsStale expected build then
          pure (.ok ())
        else do
          withData .plain fun data => { data with staleServiceNoted := false }
          pure (.ok ())

/-- Installs the service, then waits until it answers. -/
def installThenWait (by_ : Option UInt64) (generation : UInt64) :
    Task (Except ClientErrorInfo Unit) := do
  let _ ← transition by_ generation .waitingPermission none false
  let installed ← install
  match installed with
  | .error info => pure (.error info)
  | .ok () => do
    let _ ← transition by_ generation .preparing none false
    waitForService

/-- Makes sure a compatible service answers. -/
def ensureService (expected : Option String) (by_ : Option UInt64) (generation : UInt64)
    (allowInstall : Bool) : Task (Except ClientErrorInfo Unit) := do
  let installed ← refreshInstalled
  if installed then do
    let answer : Option (Except ServiceError (Option String)) ← ask .getVersion
    match answer with
    | some (.ok build) =>
      if allowInstall && serviceIsStale expected build then
        replaceStaleService expected by_ generation
      else pure (.ok ())
    | some (.error (.rejected detail)) => pure (.error (ServiceError.rejected detail).info)
    | some (.error (.protocol detail)) => pure (.error (ServiceError.protocol detail).info)
    | some (.error error) =>
      if !allowInstall then pure (.error error.info) else installThenWait by_ generation
    | none =>
      if !allowInstall then pure (.error ⟨.serviceUnavailable, "SERVICE_VERSION_TIMEOUT"⟩)
      else installThenWait by_ generation
  else if !allowInstall then pure (.error ⟨.serviceUnavailable, "SERVICE_NOT_INSTALLED"⟩)
  else installThenWait by_ generation

/-! ### Connecting -/

/-- The attempt failed: the phase says what follows. -/
def connectFailed (by_ : Option UInt64) (session : SessionRef) (retrying : Bool)
    (info : ClientErrorInfo) (retryable : Bool) : Task (Except ClientErrorInfo Unit) := do
  let _ ← ask (.disconnect session)
  let phase :=
    if info.code = .serviceBusy ∨ info.code = .serviceOwnedByAnotherUser then .contended
    else if retrying && (isServiceDown info || isPathCause info) then .reconnecting
    else .error
  let _ ← transition by_ session.generation phase (some info) retryable
  pure (.error info)

/-- The first health check, repeated once after a pause if the path failed. -/
def firstHealth (session : SessionRef) (revision : String) : Task (Except ClientErrorInfo Unit) := do
  let healthy : Except ClientErrorInfo Unit ← ask (.runHealth session revision)
  match healthy with
  | .ok () => pure (.ok ())
  | .error info => do
    let s ← read
    if (isPathCause info || isTrafficStale info) &&
        decide (s.data.machine.Is session.generation .connecting) then do
      let _ ← ask .healthSettle
      let again : Except ClientErrorInfo Unit ← ask (.runHealth session revision)
      pure again
    else pure (.error info)

/-- The service runs our core of this generation. -/
def ServiceStatus.runs (status : ServiceStatus) (session : SessionRef) : Bool :=
  status.running && status.sessionId = some session.sessionId &&
    status.generation = session.generation

/-- The core is up: on, once it is healthy. -/
def verify (by_ : Option UInt64) (profile : Profile) (session : SessionRef) (retrying : Bool) :
    Task (Except ClientErrorInfo Unit) := do
  let answer : Except ServiceError ServiceStatus ← ask .getStatus
  match answer with
  | .ok status =>
    if !status.runs session then
      connectFailed by_ session retrying ⟨.connectFailed, "CORE_NOT_RUNNING"⟩ true
    else do
      let healthy ← firstHealth session profile.revision
      match healthy with
      | .error info => connectFailed by_ session retrying info true
      | .ok () => do
        withData .plain fun data => { data with recovery := data.recovery.noteHealthSuccess }
        startLoops session.generation
        let _ ← transition by_ session.generation .on none false
        pure (.ok ())
  | .error error =>
    connectFailed by_ session retrying
      ⟨.serviceUnavailable, "SERVICE_STATUS_UNAVAILABLE: " ++ error.detail⟩ true

/-- The service starts our core. -/
def bringUp (by_ : Option UInt64) (profile : Profile) (session : SessionRef)
    (takeOver retrying : Bool) : Task (Except ClientErrorInfo Unit) := do
  let _ ← transition by_ session.generation .connecting none false
  let connected : Except ServiceError Unit ← ask (.connect session profile.value takeOver)
  match connected with
  | .error error =>
    connectFailed by_ session retrying (connectFailure error).1 (connectFailure error).2
  | .ok () => verify by_ profile session retrying

/-- Another tunnel owns the network: nothing is asked of the service. -/
def preflightConflict (by_ : Option UInt64) (generation : UInt64) (competitors : List String) :
    Task (Except ClientErrorInfo Unit) := do
  let info : ClientErrorInfo :=
    ⟨.networkPathContended, "PREFLIGHT_CONFLICT: " ++ ", ".intercalate competitors⟩
  let applied ← Prog.step (.machine by_) fun s =>
    let machine := s.data.machine.transition generation .error (some info) true
    (decide (s.data.machine.generation = generation),
      { s with data := { s.data with
        machine := if s.data.machine.generation = generation then { machine with competitors }
          else machine } })
  if applied then do
    emit
    pure (.error info)
  else pure (.error info)

/-- No service: `Error`, or `Reconnecting` while it is expected back. -/
def serviceMissing (by_ : Option UInt64) (generation : UInt64) (retrying : Bool)
    (info : ClientErrorInfo) : Task (Except ClientErrorInfo Unit) := do
  let phase := if retrying && isServiceDown info then .reconnecting else .error
  let _ ← transition by_ generation phase (some info) true
  if info.code = .serviceInstallCancelled then do
    let persisted ← Prog.step (.machine by_) fun s =>
      if s.data.machine.generation = generation then
        let machine := { s.data.machine with desiredOn := false }
        (some (Persisted.of machine), { s with data := { s.data with machine } })
      else (none, s)
    match persisted with
    | some persisted => do
      persist persisted
      pure (.error info)
    | none => pure (.error info)
  else pure (.error info)

/-- The machine's next generation; as it was if there is none. -/
def beginConnect (by_ : Option UInt64) (profile : Profile) (sessionId : String) :
    Task (Except ClientErrorInfo (SessionRef × Persisted)) :=
  Prog.step (.machine by_) fun s =>
    match s.data.machine.beginConnect profile.revision sessionId with
    | .error info => (.error info, s)
    | .ok (session, machine) =>
      (.ok (session, Persisted.of machine), { s with data := { s.data with machine } })

/-- The attempt of `session`, once the machine is at its generation. -/
def attempt (expected : Option String) (by_ : Option UInt64) (profile : Profile)
    (session : SessionRef) (persisted : Persisted) (allowInstall takeOver retrying : Bool) :
    Task (Except ClientErrorInfo Unit) := do
  persist persisted
  emit
  let conflict : Option (List String) ← ask .preflight
  match conflict with
  | some competitors => preflightConflict by_ session.generation competitors
  | none => do
    let ensured ← ensureService expected by_ session.generation allowInstall
    match ensured with
    | .error info => serviceMissing by_ session.generation retrying info
    | .ok () => bringUp by_ profile session takeOver retrying

def connectAs (expected : Option String) (by_ : Option UInt64) (profile : Profile)
    (sessionId : String) (allowInstall takeOver retrying : Bool) :
    Task (Except ClientErrorInfo Unit) := do
  let begun ← beginConnect by_ profile sessionId
  match begun with
  | .error info => pure (.error info)
  | .ok (session, persisted) =>
    attempt expected (by_.map fun _ => session.generation) profile session persisted allowInstall
      takeOver retrying

def connectWith (expected : Option String) (by_ : Option UInt64) (profile : Profile)
    (allowInstall takeOver retrying : Bool) : Task (Except ClientErrorInfo Unit) := do
  stopLoops
  let sessionId : String ← ask .newSessionId
  connectAs expected by_ profile sessionId allowInstall takeOver retrying

/-- One connection attempt with a fresh session. `retrying`: an automatic
reconnect with attempts left; a background task names its generation. -/
def connect (expected : Option String) (by_ : Option UInt64) (allowInstall takeOver retrying : Bool) :
    Task (Except ClientErrorInfo Unit) := do
  let profile ← Prog.step .attempt fun s => (s.data.profile, s)
  match profile with
  | none => pure (.error ⟨.internal, "PROFILE_REQUIRED"⟩)
  | some profile => connectWith expected by_ profile allowInstall takeOver retrying

/-! ### What the user asks for -/

/-- A user action starts the budgets afresh. -/
def Data.reset (data : Data) : Data := { data with recovery := {}, routingReconnects := {} }

/-- The machine as a user action finds it. -/
def begins : Task Machine :=
  Prog.step (.begins true) fun s => (s.data.machine, { s with data := s.data.reset })

def enable (expected : Option String) : Task (Except ClientErrorInfo Unit) := do
  let machine ← begins
  if machine.phase = .on then pure (.ok ())
  else do
    releaseSession machine
    connect expected none true false false

def takeOver (expected : Option String) : Task (Except ClientErrorInfo Unit) := do
  let machine ← begins
  if !canTakeOver machine then pure (.error ⟨.serviceBusy, "TAKE_OVER_NOT_AVAILABLE"⟩)
  else connect expected none true true false

/-- After an unconfirmed disconnect, retries the disconnect instead. -/
def retry (expected : Option String) : Task (Except ClientErrorInfo Unit) := do
  let machine ← begins
  let _ ← ask .resetAuth
  if machine.unconfirmed then disconnectCurrent true
  else do
    releaseSession machine
    connect expected none true false false

/-- The mark of a disable that returned `Ok`. -/
def disabled (result : Except ClientErrorInfo Unit) : Task (Except ClientErrorInfo Unit) := do
  match result with
  | .ok () => do
    Prog.update .disabled id
    pure (.ok ())
  | .error info => pure (.error info)

def disable : Task (Except ClientErrorInfo Unit) := do
  let result ← disconnectCurrent true
  disabled result

/-- Releases the service session and stops background loops. -/
def shutdown : Task Unit := do
  let _ ← disconnectCurrent false
  stopLoops

/-- Off at once, then the platform hook. -/
def uninstallService : Task (Except ClientErrorInfo Unit) := do
  Prog.update .plain fun s => { s with uninstalling := true }
  let _ ← disconnectCurrent false
  let removed : Except PlatformError Unit ← ask .uninstallService
  let _ ← ask .resetAuth
  let _ ← refreshInstalled
  Prog.update .plain fun s => { s with uninstalling := false }
  match removed with
  | .ok () => pure (.ok ())
  | .error .cancelled => pure (.error ⟨.serviceUninstallCancelled, "SERVICE_UNINSTALL_CANCELLED"⟩)
  | .error (.failed message) => pure (.error ⟨.serviceInstallFailed, message⟩)

def installMissing : Task (Except ClientErrorInfo Unit) := do
  let installed ← install
  match installed with
  | .error info => pure (.error info)
  | .ok () => waitForService

/-- Installs the service without turning enhanced mode on. -/
def installService : Task (Except ClientErrorInfo Unit) := do
  let installed ← refreshInstalled
  if installed then do
    let answer : Option (Except ServiceError (Option String)) ← ask .getVersion
    match answer with
    | some (.ok _) => pure (.ok ())
    | _ => installMissing
  else installMissing

/-- UpdateProfile for the connected `machine`. -/
def pushProfile (machine : Machine) (profile : Profile) : Task (Except ClientErrorInfo Unit) := do
  match machine.session with
  | none => pure (.ok ())
  | some session => do
    withData .plain fun data => { data with recovery := {} }
    let updated : Except ServiceError Unit ← ask (.updateProfile session profile.value)
    match updated with
    | .ok () => do
      let persisted ← Prog.step (.machine none) fun s =>
        if s.data.machine.generation = machine.generation then
          let machine := { s.data.machine with revision := some profile.revision }
          (some (Persisted.of machine), { s with data := { s.data with machine } })
        else (none, s)
      match persisted with
      | some persisted => persist persisted
      | none => pure ()
      let _ ← transition none machine.generation .on none false
      pure (.ok ())
    | .error error =>
      if "PROFILE_UPDATE_ROLLED_BACK".toList <:+: error.detail.toList then do
        let info : ClientErrorInfo := ⟨.profileInvalid, error.detail⟩
        let _ ← transition none machine.generation .on (some info) true
        pure (.error info)
      else do
        let info : ClientErrorInfo :=
          { (connectFailure error).1 with
            detail := "PROFILE_UPDATE_FAILED: " ++ (connectFailure error).1.detail }
        let _ ← transition none machine.generation .error (some info) true
        pure (.error info)

/-- Stores the profile; while on, a new revision is applied live. -/
def setProfile (profile : Profile) : Task (Except ClientErrorInfo Unit) := do
  let machine ← Prog.step .plain fun s =>
    (s.data.machine, { s with data := { s.data with profile := some profile } })
  if machine.phase ≠ .on ∨ machine.revision = some profile.revision then pure (.ok ())
  else pushProfile machine profile

/-- Applies the current profile again while on. -/
def reapply : Task (Except ClientErrorInfo Unit) := do
  let s ← read
  match s.data.profile with
  | none => pure (.ok ())
  | some profile =>
    if s.data.machine.phase ≠ .on then pure (.ok ()) else pushProfile s.data.machine profile

/-- What the service's status says of the session of the last launch. -/
def resumed (generation : UInt64) (session : Option SessionRef) : Task Unit := do
  let answer : Except ServiceError ServiceStatus ← ask .getStatus
  match answer with
  | .ok status =>
    if session.any fun session => status.runs session then do
      let _ ← transition none generation .on none false
      startLoops generation
    else if status.running && status.sessionId.isNone then do
      let _ ← transition none generation .contended
        (some ⟨.serviceOwnedByAnotherUser, "CONNECTION_OWNED_BY_ANOTHER_USER"⟩) false
      pure ()
    else if status.running then do
      let _ ← transition none generation .contended
        (some ⟨.serviceBusy, "CONNECTION_OWNED_BY_ANOTHER_SESSION"⟩) true
      pure ()
    else do
      let persisted ← Prog.step (.machine none) fun s =>
        let machine := { s.data.machine with desiredOn := false, sessionId := none }
        (Persisted.of machine, { s with data := { s.data with machine } })
      let _ ← transition none generation .off none false
      persist persisted
  | .error error => do
    let _ ← transition none generation .error (some error.info) true
    pure ()

/-- Restores the persisted generation and, if the app was killed while
connected, attaches to the service session again. -/
def restore : Task Unit := do
  let _ ← refreshInstalled
  let persisted : Option Persisted ← ask .loadPersisted
  match persisted with
  | none => emit
  | some persisted => do
    let session ← Prog.step (.begins false) fun s =>
      let machine : Machine :=
        { phase := if persisted.desired then .preparing else .off
          sessionId := persisted.sessionId, generation := persisted.generation
          revision := persisted.profileRevision, desiredOn := persisted.desired }
      (machine.session, { s with data := { s.data with machine } })
    if !persisted.desired then emit else resumed persisted.generation session

end PpvpnCore.Desktop.Enhanced
