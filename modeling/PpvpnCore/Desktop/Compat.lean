import PpvpnCore.Lib.Lock
import PpvpnCore.Desktop.SystemProxy

/-!
Compatible mode: the OS system proxy points at the standard core's loopback
endpoint (`desktop/src/compat.rs`).

The settings, the backup file and the memory of the controller are the state;
the standard core, the file system and the OS answer as they like, and a call
that succeeds has its effect. A failed write of the temporary file leaves
something unreadable in it. Log lines and the panics of blocking tasks are left
out; the connection phases that compatible mode never takes, too.
-/

namespace PpvpnCore.Desktop

open Lib

/-! ## Errors and answers -/

inductive ErrorCode where
  | systemProxyFailed | systemProxyUnavailable | networkPathContended
  deriving DecidableEq, Repr

structure ClientErrorInfo where
  code : ErrorCode
  detail : String
  deriving DecidableEq, Repr

inductive CoreCallError where
  | transport (detail : String)
  | api (code message : String) (retryable : Bool)

namespace CoreCallError

def code : CoreCallError → Option String
  | .api code _ _ => some code
  | .transport _ => none

def detail : CoreCallError → String
  | .transport detail => detail
  | .api code message _ => if message.isEmpty then code else code ++ ": " ++ message

end CoreCallError

def failed (detail : String) (retryable : Bool) : ClientErrorInfo × Bool :=
  (⟨.systemProxyFailed, detail⟩, retryable)

/-- A failure of the OS proxy writer. -/
def osFailure (detail : String) : ClientErrorInfo :=
  if detail.startsWith "NO_DESKTOP_PROXY_SETTINGS" then ⟨.systemProxyUnavailable, detail⟩
  else ⟨.systemProxyFailed, detail⟩

def endpointFailure (error : CoreCallError) : ClientErrorInfo × Bool :=
  if error.code = some "SYSTEM_PROXY_UNAVAILABLE" then failed error.detail false
  else failed error.detail true

structure SystemProxyStatus where
  available : Bool
  enabled : Bool
  listening : Bool
  listen : Option String
  port : Option UInt16

/-- What is written into the OS settings, once listening. -/
def SystemProxyStatus.endpoint (status : SystemProxyStatus) : Option Endpoint :=
  if status.enabled && status.listening then
    status.port.map fun port => (status.listen.getD "127.0.0.1", port)
  else none

/-! ## The state -/

inductive Phase where
  | off | connecting | on | disconnecting | error
  deriving DecidableEq, Repr

/-- Another app's proxy. -/
structure ForeignProxy where
  owner : Option String
  deriving DecidableEq, Repr

/-- Compatible mode as the snapshot shows it. -/
structure CompatState where
  phase : Phase := .off
  reason : Option ClientErrorInfo := none
  retryable : Bool := false
  proxyWasForeign : Bool := false
  proxyOwner : Option String := none
  deriving DecidableEq, Repr

structure Data where
  state : CompatState := {}
  /-- Endpoint the OS settings currently point at. -/
  endpoint : Option Endpoint := none
  /-- Found when connecting. -/
  foreign : Option ForeignProxy := none
  /-- Found while on. -/
  takenOverBy : Option ForeignProxy := none

structure Backup (V : Type) where
  version : UInt32 := 1
  saved : V
  /-- The endpoint the OS settings were last pointed at; absent in earlier
  backups. -/
  endpoint : Option Endpoint

/-- What a file holds. -/
inductive File (V : Type) where
  | unreadable
  | backup (backup : Backup V)

structure State (V : Type) where
  os : V
  /-- `system-proxy-backup.json`. -/
  file : Option (File V) := none
  tmp : Option (File V) := none
  data : Data := {}
  /-- What the state sink was given. -/
  shown : List CompatState := []

inductive Call (V : Type) where
  /-- Whether the standard core is ready, now or before the wait is over. -/
  | transport
  | readyTransport
  | setSystemProxy (enabled : Bool)
  | getStatus
  | snapshot
  | currentProxies
  /-- One write of the OS settings. -/
  | write (f : V → V)
  | createDir
  | writeTmp (backup : Backup V)
  | rename
  | removeFile
  | lookupListener (port : UInt16)

def Answer {V : Type} : Call V → Type
  | .transport | .readyTransport => Bool
  | .setSystemProxy _ => Except CoreCallError SystemProxyStatus
  | .getStatus => Except CoreCallError (Option SystemProxyStatus)
  | .snapshot | .currentProxies | .write _ | .createDir | .writeTmp _ | .rename | .removeFile =>
    Except String Unit
  | .lookupListener _ => Option String

section

variable {V : Type}

def effect : (c : Call V) → Answer c → State V → State V
  | .write f, r, s => match (r : Except String Unit) with
    | .ok () => { s with os := f s.os }
    | .error _ => s
  | .writeTmp backup, r, s => match (r : Except String Unit) with
    | .ok () => { s with tmp := some (.backup backup) }
    | .error _ => { s with tmp := some .unreadable }
  | .rename, r, s => match (r : Except String Unit), s.tmp with
    | .ok (), some file => { s with file := some file, tmp := none }
    | _, _ => s
  | .removeFile, r, s => match (r : Except String Unit) with
    | .ok () => { s with file := none }
    | .error _ => s
  | _, _, s => s

abbrev Task (V : Type) := Prog (State V) Unit (Answer (V := V))

def ask (c : Call V) : Task V (Answer c) := Prog.ask c

def read : Task V (State V) := Prog.get ()

def withData (change : Data → Data) : Task V Unit :=
  Prog.update () fun s => { s with data := change s.data }

/-- The state shown for a phase. -/
def Data.shows (data : Data) (phase : Phase) (reason : Option ClientErrorInfo) (retryable : Bool) :
    CompatState :=
  let foreign := if phase = .on then data.foreign else none
  let takenOverBy := if phase = .error then data.takenOverBy else none
  { phase, reason, retryable, proxyWasForeign := foreign.isSome,
    proxyOwner := (foreign.or takenOverBy).bind (·.owner) }

/-- The sink hears of a change only. -/
def setState (phase : Phase) (reason : Option ClientErrorInfo) (retryable : Bool) : Task V Unit :=
  Prog.update () fun s =>
    let state := s.data.shows phase reason retryable
    { s with
      data := { s.data with state }
      shown := if s.data.state ≠ state then s.shown ++ [state] else s.shown }

/-! ## The OS settings and their backup -/

/-- A writer at work. -/
def Os.task : Os V → Task V (Except String Unit)
  | .done result => .ret result
  | .write f k => .call (.write f) fun r => (k r).task

/-- Written aside, then renamed. -/
def saveBackup (backup : Backup V) : Task V (Except String Unit) := do
  let dir : Except String Unit ← ask .createDir
  match dir with
  | .error e => pure (.error e)
  | .ok () => do
    let written : Except String Unit ← ask (.writeTmp backup)
    match written with
    | .error e => pure (.error ("save backup: " ++ e))
    | .ok () => do
      let renamed : Except String Unit ← ask .rename
      match renamed with
      | .error e => pure (.error ("save backup: " ++ e))
      | .ok () => pure (.ok ())

/-- Points the settings at `endpoint` and returns `previous`. -/
def applyWriter (W : Writer V) (endpoint : Endpoint) (previous : Option Endpoint) :
    Task V (Except String (Option Endpoint)) := do
  let applied ← (W.apply endpoint).task
  match applied with
  | .error e => pure (.error e)
  | .ok () => pure (.ok previous)

def saveThenApply (W : Writer V) (endpoint : Endpoint) (backup : Backup V)
    (previous : Option Endpoint) : Task V (Except String (Option Endpoint)) := do
  let saved ← saveBackup backup
  match saved with
  | .error e => pure (.error e)
  | .ok () => applyWriter W endpoint previous

/-- Saves the current settings, unless a backup already exists: those are the
user's own, and only the endpoint is noted in it. Then points the settings at
`endpoint`. Returns the proxy that was active in the settings saved now. -/
def applyBlocking (W : Writer V) (endpoint : Endpoint) :
    Task V (Except String (Option Endpoint)) := do
  let s ← read
  match s.file with
  | some (.backup backup) =>
    saveThenApply W endpoint { backup with endpoint := some endpoint } none
  | some .unreadable => applyWriter W endpoint none
  | none => do
    let taken : Except String Unit ← ask .snapshot
    match taken with
    | .error e => pure (.error e)
    | .ok () => do
      let s ← read
      saveThenApply W endpoint { saved := s.os, endpoint := some endpoint }
        (W.activeProxies s.os).head?

def applyOs (W : Writer V) (endpoint : Endpoint) :
    Task V (Except ClientErrorInfo (Option Endpoint)) := do
  let result ← applyBlocking W endpoint
  pure (result.mapError osFailure)

def removeBackup : Task V (Except String Unit) := do
  let removed : Except String Unit ← ask .removeFile
  pure (removed.mapError ("remove backup: " ++ ·))

/-- Whether another app is taken to have pointed the OS proxy elsewhere. -/
def replaced (W : Writer V) (backup : Backup V) : Task V Bool :=
  match backup.endpoint with
  | none => pure false
  | some endpoint => do
    let told : Except String Unit ← ask .currentProxies
    match told with
    | .error _ => pure false
    | .ok () => do
      let s ← read
      pure (!W.owns s.os endpoint)

/-- Puts the backup's settings back unless another app pointed the OS proxy
elsewhere since, then deletes the backup. -/
def restoreBackup (W : Writer V) : Task V (Except String Unit) := do
  let s ← read
  match s.file with
  | none => pure (.ok ())
  | some .unreadable => removeBackup
  | some (.backup backup) => do
    let gone ← replaced W backup
    if gone then removeBackup
    else do
      let restored ← (W.restore backup.saved).task
      match restored with
      | .error e => pure (.error e)
      | .ok () => removeBackup

def restoreOs (W : Writer V) : Task V (Except ClientErrorInfo Unit) := do
  let result ← restoreBackup W
  pure (result.mapError osFailure)

def hasBackup : Task V Bool := do
  let s ← read
  pure s.file.isSome

/-! ## The controller -/

/-- The endpoint is disabled, best effort. -/
def disableEndpoint : Task V Unit := do
  let ready : Bool ← ask .transport
  if ready then do
    let _ ← ask (.setSystemProxy false)
    pure ()
  else pure ()

def tearDown (W : Writer V) : Task V (Except ClientErrorInfo Unit) := do
  let restored ← restoreOs W
  disableEndpoint
  pure restored

/-- The app listening on a loopback proxy port. -/
def lookupListener (port : UInt16) : Task V (Option String) := ask (.lookupListener port)

/-- The owner of a loopback proxy. -/
def ownerOf : Option Endpoint → Task V (Option String)
  | some (host, port) =>
    if isLoopbackHost host then lookupListener port else pure none
  | none => pure none

/-- The other app's proxy that was active before. -/
def foreignBefore (endpoint : Endpoint) : Option Endpoint → Task V (Option ForeignProxy)
  | some (host, port) =>
    if isLoopbackHost host && port == endpoint.2 then pure none
    else do
      let owner ← ownerOf (some (host, port))
      pure (some ⟨owner⟩)
  | none => pure none

def bringUp (W : Writer V) :
    Task V (Except (ClientErrorInfo × Bool) (Endpoint × Option ForeignProxy)) := do
  let ready : Bool ← ask .readyTransport
  if !ready then pure (.error (failed "STANDARD_CORE_NOT_READY" true))
  else do
    let status : Except CoreCallError SystemProxyStatus ← ask (.setSystemProxy true)
    match status with
    | .error e => pure (.error (endpointFailure e))
    | .ok status =>
      if !status.available then pure (.error (failed "SYSTEM_PROXY_UNAVAILABLE" false))
      else
        match status.endpoint with
        | none => pure (.error (failed "SYSTEM_PROXY_NOT_LISTENING" true))
        | some endpoint => do
          let previous ← applyOs W endpoint
          match previous with
          | .error info => pure (.error (info, info.code ≠ .systemProxyUnavailable))
          | .ok previous => do
            let foreign ← foreignBefore endpoint previous
            pure (.ok (endpoint, foreign))

/-- Enables the loopback endpoint and points the OS proxy at it. -/
def connect (W : Writer V) : Task V (Except ClientErrorInfo Unit) := do
  let s ← read
  if s.data.state.phase = .on then pure (.ok ())
  else do
    withData fun data => { data with takenOverBy := none }
    setState .connecting none false
    let up ← bringUp W
    match up with
    | .ok (endpoint, foreign) => do
      withData fun data => { data with endpoint := some endpoint, foreign := foreign.or data.foreign }
      setState .on none false
      pure (.ok ())
    | .error (info, retryable) => do
      let _ ← tearDown W
      setState .error (some info) retryable
      pure (.error info)

/-- Always ends off. -/
def switchOff (W : Writer V) : Task V (Except ClientErrorInfo Unit) := do
  let result ← tearDown W
  withData fun data => { data with endpoint := none, foreign := none, takenOverBy := none }
  setState .off none false
  pure result

/-- Restores the previous OS settings and disables the endpoint. -/
def disconnect (W : Writer V) : Task V (Except ClientErrorInfo Unit) := do
  let s ← read
  let phase := s.data.state.phase
  let kept ← hasBackup
  if phase = .off && !kept then pure (.ok ())
  else if phase ≠ .off then do
    setState .disconnecting none false
    switchOff W
  else switchOff W

/-- Launch-time cleanup after a crash. -/
def restoreLeftovers (W : Writer V) : Task V Unit := do
  let kept ← hasBackup
  if kept then do
    let _ ← restoreOs W
    pure ()
  else pure ()

/-- While on: settings that no longer point at `endpoint` are another app's. -/
def checkOwnership (W : Writer V) (endpoint : Endpoint) : Task V Unit := do
  let told : Except String Unit ← ask .currentProxies
  match told with
  | .error _ => pure ()
  | .ok () => do
    let s ← read
    if W.owns s.os endpoint then pure ()
    else do
      let owner ← ownerOf (W.activeProxies s.os).head?
      let _ ← ask .removeFile
      disableEndpoint
      withData fun data =>
        { data with endpoint := none, foreign := none, takenOverBy := some ⟨owner⟩ }
      setState .error (some ⟨.networkPathContended, "SYSTEM_PROXY_TAKEN_OVER"⟩) true

/-- The standard core's endpoint, enabled again if it is not. -/
def currentEndpoint : Task V (Option Endpoint) := do
  let status : Except CoreCallError (Option SystemProxyStatus) ← ask .getStatus
  match status.toOption.join.bind (·.endpoint) with
  | some endpoint => pure (some endpoint)
  | none => do
    let status : Except CoreCallError SystemProxyStatus ← ask (.setSystemProxy true)
    pure (status.toOption.bind (·.endpoint))

/-- While connected: after a restart of the standard core the OS settings are
rewritten when the port moved. -/
def reconcile (W : Writer V) : Task V Unit := do
  let s ← read
  if s.data.state.phase ≠ .on then pure ()
  else do
    let ready : Bool ← ask .transport
    if !ready then pure ()
    else do
      let current ← currentEndpoint
      match current with
      | none => pure ()
      | some current => do
        let s ← read
        if s.data.endpoint = some current then checkOwnership W current
        else do
          let applied ← applyOs W current
          match applied with
          | .ok _ => withData fun data => { data with endpoint := some current }
          | .error info => setState .error (some info) true

/-! ## Launches -/

inductive Op where
  | connect | disconnect | restoreLeftovers | reconcile
  deriving DecidableEq, Repr

/-- Under the operation lock; `reconcile` does not wait for it. -/
def Op.task (W : Writer V) : Op → Task V Unit
  | .connect => Prog.withLock ((Desktop.connect W).bind fun _ => pure ())
  | .disconnect => Prog.withLock ((Desktop.disconnect W).bind fun _ => pure ())
  | .restoreLeftovers => Prog.withLock (Desktop.restoreLeftovers W)
  | .reconcile => Prog.tryLock (Desktop.reconcile W)

/-- A launch: of the last one only the settings and the files are left. -/
def State.relaunched (s : State V) : State V := { os := s.os, file := s.file, tmp := s.tmp }

abbrev Process (V : Type) := Pool (State V) Unit (Answer (V := V)) Unit

/-- A process and what it is asked. -/
def launch (W : Writer V) (s : State V) (ops : List Op) : Process V :=
  { state := s.relaunched, tasks := ops.map fun op => { prog := op.task W } }

end

end PpvpnCore.Desktop
