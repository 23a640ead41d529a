import PpvpnCore.Desktop.Enhanced

/-!
# What enhanced mode does on its own

The loops of a connection and automatic recovery (`desktop/src/enhanced.rs`),
and a process: any number of operations and of workers that take up what was
spawned. A loop goes round once for every time it is taken up.
-/

namespace PpvpnCore.Desktop.Enhanced

open Lib
open Client (SessionRef)

/-! ## Recovery -/

/-- Takes one automatic reconnect for broken TUN routing from the budget. -/
def claimRoutingReconnect : Task Bool := do
  let now : Nat ← ask .clock
  Prog.step (.claims now) fun s =>
    let (granted, routingReconnects) := s.data.routingReconnects.claim now
    (granted, { s with data := { s.data with routingReconnects } })

/-- Out of automatic reconnects for TUN routing another program keeps changing. -/
def routingTakenOver (generation : UInt64) : Task Unit := do
  let _ ← transition (some generation) generation .contended tunRoutingTakenOver true
  pure ()

/-- The recovery ends, and with it its hold of the operation lock. -/
def recovered : Task Unit := do
  Prog.update .recovered id
  .unlock (.ret ())

/-- Ends in `Contended` for a path, else with what failed. -/
def giveUp (machine : Machine) (generation : UInt64) (cause : ClientErrorInfo) : Task Unit := do
  stopLoops
  releaseSession machine
  if isPathCause cause then do
    let _ ← transition (some generation) generation .contended (contended "NETWORK_PATH_CONTENDED")
      true
    recovered
  else do
    let _ ← transition (some generation) generation .error (some cause) true
    recovered

/-- Another attempt after one that left `machine`, if the service or the path was
why it failed. -/
def follow (again : UInt64 → Task Unit) (attempt : Nat) (machine : Machine) : Task Unit :=
  match machine.reason with
  | some reason =>
    if machine.phase = .reconnecting && isServiceDown reason then again machine.generation
    else if isPathCause reason && machine.competitors.isEmpty &&
        (serviceBackoff attempt).isSome then do
      let applied ← transition (some machine.generation) machine.generation .reconnecting
        (some reason) true
      if applied then again machine.generation else recovered
    else if isPathCause reason && !machine.competitors.isEmpty then do
      let reason := if reason.code = .networkPathContended then some reason
        else contended "NETWORK_PATH_CONTENDED"
      let _ ← transition (some machine.generation) machine.generation .contended reason true
      recovered
    else recovered
  | none => recovered

/-- Unless the budget refused it. -/
def followIf (again : UInt64 → Task Unit) (attempt : Nat) (machine : Machine) (granted : Bool) :
    Task Unit :=
  if !granted then do
    routingTakenOver machine.generation
    recovered
  else follow again attempt machine

/-- After a failed attempt: the machine's reason and phase say whether another
follows, as `again`. -/
def afterAttempt (again : UInt64 → Task Unit) (attempt : Nat) : Task Unit := do
  let s ← read
  let machine := s.data.machine
  let routingBroken := machine.phase = .reconnecting && machine.reason.any isTunRoutingBroken
  let granted ← if routingBroken then claimRoutingReconnect else pure true
  followIf again attempt machine granted

/-- The attempt itself. -/
def reconnect (expected : Option String) (again : UInt64 → Task Unit) (attempt : Nat)
    (generation : UInt64) : Task Unit := do
  let connected ← connect expected (some generation) false false (serviceBackoff attempt).isSome
  match connected with
  | .ok () => recovered
  | .error _ => afterAttempt again attempt

/-- A pause without the lock, then another attempt; `left` of them are left.
Whoever took over in between keeps the machine. -/
def pauseThenReconnect (expected : Option String) : Nat → UInt64 → Task Unit
  | 0, generation => do
    let s ← read
    let _ ← transition (some generation) generation .error s.data.machine.reason true
    recovered
  | left + 1, generation => do
    let attempt := serviceBackoffAttempts - (left + 1)
    .unlock <| .call (.pause ((serviceBackoff attempt).getD 0)) fun _ => .lock false fun _ => do
      let s ← Prog.get (.resumes generation)
      if s.data.machine.Is generation .reconnecting then
        reconnect expected (pauseThenReconnect expected left) (attempt + 1) generation
      else .unlock (.ret ())

/-- What a recovery finds when it has the lock. -/
structure Found where
  machine : Machine
  claimed : Bool
  hasProfile : Bool

/-- The recovery is under way once it looked whether its generation is on. -/
def findOn (generation : UInt64) (cause : ClientErrorInfo) : Task (Option Found) :=
  Prog.step (.finds generation) fun s =>
    let s := { s with waiting := s.waiting.erase (generation, cause) }
    if s.data.machine.Is generation .on then
      let (claimed, recovery) := s.data.recovery.claim
      (some ⟨s.data.machine, claimed, s.data.profile.isSome⟩,
        { s with data := { s.data with recovery } })
    else (none, s)

/-- The reconnect, if one was `granted`. -/
def reconnects (expected : Option String) (generation : UInt64) (cause : ClientErrorInfo)
    (found : Found) (granted : Bool) : Task Unit :=
  if !granted then do
    stopLoops
    releaseSession found.machine
    routingTakenOver generation
    recovered
  else do
    let _ ← transition (some generation) generation .reconnecting
      (if isPathCause cause then contended "NETWORK_PATH_RECOVERY" else some cause) true
    releaseSession found.machine
    if isServiceDown cause || (!found.claimed && !isTunRoutingBroken cause) then
      pauseThenReconnect expected serviceBackoffAttempts generation
    else reconnect expected (pauseThenReconnect expected serviceBackoffAttempts) 0 generation

def recoverFound (expected : Option String) (generation : UInt64) (cause : ClientErrorInfo) :
    Option Found → Task Unit
  | none => .unlock (.ret ())
  | some found =>
    if !found.hasProfile then giveUp found.machine generation cause
    else do
      let granted ← if isTunRoutingBroken cause then claimRoutingReconnect else pure true
      reconnects expected generation cause found granted

/-- Automatic recovery of `generation`, which failed for `cause`. -/
def recover (expected : Option String) (generation : UInt64) (cause : ClientErrorInfo) : Task Unit :=
  .lock false fun _ => do
    let found ← findOn generation cause
    recoverFound expected generation cause found

/-! ## Loops -/

/-- A section at which a loop may end. -/
def endsUnless (place : Place) (l : Loop) (goesOn : State → Bool) : Task Bool :=
  Prog.step place fun s => if goesOn s then (true, s) else (false, s.ended l)

/-- The loop ends; a recovery has a task of its own. -/
def spawnRecover (l : Loop) (cause : ClientErrorInfo) : Task Unit :=
  Prog.update .plain fun s => (s.ended l).spawnRecover l.session.generation cause

/-- The loop ends, the connection being someone else's. -/
def connectionLost (l : Loop) (info : ClientErrorInfo) (retryable : Bool) : Task Unit := do
  let applied ← Prog.step (.lost l) fun s =>
    (decide (s.data.machine.generation = l.session.generation),
      { s.ended l with
        data := { s.data with
          machine := s.data.machine.transition l.session.generation .contended (some info)
            retryable } })
  if applied then emit else pure ()

def goesOn (l : Loop) : Task Unit := Prog.update .plain fun s => s.sleeps l none

/-- One round of the lease loop, after its sleep. -/
def leaseLoop (expected : Option String) (l : Loop) : Task Unit := do
  let on ← endsUnless (.looks l.session.generation) l fun s =>
    decide (s.data.machine.Is l.session.generation .on)
  if !on then pure ()
  else do
    let renewed : Option (Except ServiceError ServiceStatus) ← ask (.renewLease l)
    match renewed with
    | none => pure ()
    | some renewed => do
      let current ← endsUnless .plain l fun s =>
        decide (s.data.machine.generation = l.session.generation)
      if !current then pure ()
      else
        match renewed with
        | .ok status =>
          if serviceIsStale expected status.serviceBuildId then do
            withData .plain fun data => { data with staleServiceNoted := true }
            goesOn l
          else goesOn l
        | .error error =>
          match ownershipLost error with
          | some (info, retryable) => connectionLost l info retryable
          | none => spawnRecover l error.info

/-- What the watch loop does once its generation is on. -/
def actOn (l : Loop) : WatchVerdict → Task Unit
  | .fallback => Prog.update .plain fun s => s.ended l
  | .takenOver info => connectionLost l info true
  | .recover cause => spawnRecover l cause

/-- The watch ended with a verdict. While the generation is reconnecting the
loop sleeps and looks again; it acts once it is on. -/
def act (l : Loop) (verdict : WatchVerdict) : Task Unit := do
  let on ← Prog.step (.looks l.session.generation) fun s =>
    if s.data.machine.Is l.session.generation .on then (true, s)
    else if s.data.machine.Is l.session.generation .reconnecting then
      (false, s.sleeps l (some verdict))
    else (false, s.ended l)
  if on then actOn l verdict else pure ()

def watchLoop (l : Loop) : Option WatchVerdict → Task Unit
  | some verdict => act l verdict
  | none => do
    let ended : Option WatchEnd ← ask (.watch l)
    match ended with
    | none => pure ()
    | some end_ => if watchVerdict end_ = .fallback then pure () else act l (watchVerdict end_)

/-- A finished health check: whether the loop goes on. -/
def onHealthResult (l : Loop) (result : Except ClientErrorInfo Unit) : Task Unit := do
  let (current, on) ← Prog.step .plain fun s =>
    let current := decide (s.data.machine.generation = l.session.generation)
    let on := current && s.data.machine.phase = .on
    ((current, on),
      if on && result.toBool then
        { s with data := { s.data with recovery := s.data.recovery.noteHealthSuccess } }
      else s)
  if !on then
    if current then goesOn l else Prog.update .plain fun s => s.ended l
  else
    match result with
    | .ok () => goesOn l
    | .error error => spawnRecover l error

/-- A failed check: the network settling, or a pinned line that is down, is
excused. -/
def judge (l : Loop) (error : ClientErrorInfo) : Task Unit :=
  if isPathCause error then do
    let excused : Option Bool ← ask (.excused l error)
    match excused with
    | none => pure ()
    | some true => goesOn l
    | some false => onHealthResult l (.error error)
  else onHealthResult l (.error error)

/-- The check itself. -/
def checkHealth (l : Loop) : Task Unit := do
  let revision ← Prog.step .plain fun s =>
    (s.data.machine.revision, if s.data.machine.revision.isSome then s else s.ended l)
  match revision with
  | none => pure ()
  | some revision => do
    let result : Option (Except ClientErrorInfo Unit) ← ask (.checkHealth l revision)
    match result with
    | none => pure ()
    | some (.ok ()) => onHealthResult l (.ok ())
    | some (.error error) => judge l error

/-- One round of the health loop, after its pause. It is skipped while an
operation is in progress. -/
def healthLoop (l : Loop) : Task Unit := do
  let on ← endsUnless .plain l fun s => decide (s.data.machine.Is l.session.generation .on)
  if !on then pure ()
  else
    .lock true fun
      | false => goesOn l
      | true => .unlock (checkHealth l)

/-! ## A process -/

def runLoop (expected : Option String) (l : Loop) (verdict : Option WatchVerdict) : Task Unit :=
  match l.kind with
  | .lease => leaseLoop expected l
  | .health => healthLoop l
  | .watch => watchLoop l verdict

def Job.run (expected : Option String) : Job → Task Unit
  | .loop l verdict => runLoop expected l verdict
  | .recover generation cause => Enhanced.recover expected generation cause

inductive Op where
  | restore | enable | disable | retry | takeOver | reapply | shutdown
  | setProfile (profile : Profile)
  | installService | uninstallService | refreshServiceInstalled
  /-- Takes up a spawned task. -/
  | worker

def quietly {α : Type} (task : Task α) : Task Unit := task.bind fun _ => .ret ()

/-- A disable does not wait for an uninstall that has turned the mode off. -/
def disableOp : Task Unit := do
  let s ← read
  if s.uninstalling then do
    let s ← Prog.get .idle
    if s.data.machine.phase = .off then pure () else Prog.withLock (quietly disable)
  else Prog.withLock (quietly disable)

def Op.task (expected : Option String) : Op → Task Unit
  | .restore => Prog.withLock Enhanced.restore
  | .enable => Prog.withLock (quietly (Enhanced.enable expected))
  | .disable => disableOp
  | .retry => Prog.withLock (quietly (Enhanced.retry expected))
  | .takeOver => Prog.withLock (quietly (Enhanced.takeOver expected))
  | .reapply => Prog.withLock (quietly Enhanced.reapply)
  | .shutdown => Prog.withLock Enhanced.shutdown
  | .setProfile profile => Prog.withLock (quietly (Enhanced.setProfile profile))
  | .installService => Prog.withLock (quietly Enhanced.installService)
  | .uninstallService => Prog.withLock (quietly Enhanced.uninstallService)
  | .refreshServiceInstalled => quietly refreshInstalled
  | .worker => do
    let job : Job ← ask .take
    job.run expected

end PpvpnCore.Desktop.Enhanced
