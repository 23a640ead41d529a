import Mathlib.Data.List.Infix
import PpvpnCore.Lib.Focus
import PpvpnCore.Lib.Pool
import PpvpnCore.Desktop.PushAgent

/-!
# Push registration and sign-out

`desktop/src/device.rs`, and of `session.rs` the ways a session begins and ends:
the app writes the agent file when it has registered the device, and removes the
push agent's files when a session ends. The push agent is another process over
the same files. Whose account a file is of is noted beside them.
-/

namespace PpvpnCore.Desktop.Device

open Lib
open PushAgent (AgentFile Disk)

/-- Registration progress of the signed-in session. -/
inductive DeviceState where
  | pending | registered | awaitingRefresh
  deriving DecidableEq, Repr

/-- What a registration or a sign-out reads of the session. -/
structure SessionState where
  session : Nat := 0
  signedIn : Bool := false
  device : DeviceState := .pending
  deriving DecidableEq, Repr

def SessionState.isSession (state : SessionState) (session : Nat) : Bool :=
  state.signedIn && state.session = session

def SessionState.reset (state : SessionState) (signedIn : Bool) : SessionState :=
  { state with session := state.session + 1, signedIn, device := .pending }

/-- The files of the push agent. -/
inductive File where
  | agent | cursor | shown
  deriving DecidableEq, Repr

/-- Missing or empty. -/
def Absent (disk : Disk) : File → Prop
  | .agent => disk.agent = none
  | .cursor => disk.cursor = none
  | .shown => disk.shown = []

/-- `remove_file`. -/
def remove (disk : Disk) : File → Disk
  | .agent => { disk with agent := none }
  | .cursor => { disk with cursor := none }
  | .shown => { disk with shown := [] }

/-! ## What happened -/

structure Past where
  /-- The sessions a file may hold something of. -/
  owner : File → List Nat
  /-- The sessions signed out or replaced. -/
  ended : List Nat := []
  /-- The sessions of which the file was removed after they had ended. -/
  removed : File → List Nat := fun _ => []
  /-- Of whom the agent file was when the agent last found one. -/
  looked : List Nat
  /-- Of whom the shown list was when the agent last read it. -/
  read : List Nat := []
  /-- The agent file found had been removed before. -/
  stale : Bool := false
  /-- A message was offered for an agent file removed before it was found. -/
  late : Bool := false

structure Held where
  app : SessionState
  past : Past

abbrev World := Disk × Held

def Past.own (past : Past) (file : File) (owners : List Nat) : Past :=
  { past with owner := fun f => if f = file then owners else past.owner f }

def Past.clear (past : Past) (file : File) : Past :=
  { past.own file [] with removed := fun f => if f = file then past.ended else past.removed f }

/-- The agent file of somebody is found. -/
def Past.found (past : Past) : Past :=
  { past with
    looked := past.owner .agent
    stale := (past.owner .agent).any (· ∈ past.removed .agent) }

/-! ## Steps -/

/-- The texts the app is configured with and the system gives. -/
structure Config where
  apiBase : String
  platform : String
  appVersion : String
  sysLocale : Option String
  ianaTimezone : Option String
  deriving DecidableEq, Repr

def pushPlatform (platform : String) : String := "desktop-" ++ platform

def locale (config : Config) : String :=
  ((config.sysLocale.map fun locale => locale.map fun c => if c = '_' then '-' else c).filter
    (· ≠ "")).getD "en-US"

def timezone (config : Config) : String := (config.ianaTimezone.filter (· ≠ "")).getD "UTC"

structure Body where
  platform : String
  installationId : String
  appVersion : String
  locale : String
  timezone : String
  deriving DecidableEq, Repr

def body (config : Config) (installation : String) : Body where
  platform := pushPlatform config.platform
  installationId := installation
  appVersion := config.appVersion
  locale := locale config
  timezone := timezone config

structure Registration where
  id : Nat
  pushToken : String
  deriving DecidableEq, Repr

inductive ClientError where
  | failed (detail : String)
  | other
  deriving DecidableEq, Repr

/-- 403: the scope is missing, or it is no desktop session. -/
def needsNewToken : ClientError → Bool
  | .failed detail => decide ("-> HTTP 403".toList <:+: detail.toList)
  | .other => false

inductive Spot where
  | agent (place : PushAgent.Place)
  | session | agentFile
  deriving DecidableEq, Repr

inductive Call where
  /-- What the push agent calls. -/
  | agent (c : PushAgent.Call)
  | installationId
  | register (session : Nat) (body : Body)
  | delete (session id : Nat)
  /-- The registration of a session writes it. -/
  | writeAgent (session : Nat) (file : AgentFile)
  | remove (file : File)
  | stopCores
  | logout

def Answer : Call → Type
  | .agent c => PushAgent.Answer c
  | .installationId => Except String String
  | .register _ _ => Except ClientError Registration
  | .delete _ _ => Unit
  | .writeAgent _ _ => Bool
  | .remove _ => Bool
  | .stopCores => Unit
  | .logout => Bool

abbrev Task := Prog World Spot Answer

/-- What is noted of the agent's answers. -/
def hear : (c : PushAgent.Call) → PushAgent.Answer c → Past → Past
  | .onPush _ _, _, past => { past with late := past.late || past.stale }
  | .writeShown _, true, past => past.own .shown (past.looked ++ past.read)
  | .writeCursor _, true, past => past.own .cursor past.looked
  | _, _, past => past

def effect : (c : Call) → Answer c → World → World
  | .agent c, r, s => (PushAgent.effect c r s.1, { s.2 with past := hear c r s.2.past })
  | .writeAgent session file, true, s =>
    ({ s.1 with agent := some file }, { s.2 with past := s.2.past.own .agent [session] })
  | .remove file, true, s => (remove s.1 file, { s.2 with past := s.2.past.clear file })
  | _, _, s => s

def ask (c : Call) : Task (Answer c) := .call c .ret

/-- A section under the lock of the session. -/
def sessionState {α : Type} (f : World → α × World) : Task α :=
  Prog.withLock (Prog.step .session f)

/-! ## Registration -/

def sessionIs (session : Nat) : Task Bool :=
  sessionState fun s => (s.2.app.isSession session, s)

def currentSession : Task (Option Nat) :=
  sessionState fun s => (if s.2.app.signedIn then some s.2.app.session else none, s)

def setDeviceState (session : Nat) (device : DeviceState) : Task Unit :=
  sessionState fun s =>
    ((), if s.2.app.isSession session then (s.1, { s.2 with app := { s.2.app with device } }) else s)

def registerDevice (config : Config) (session : Nat) : Task Unit := do
  let installation : Except String String ← ask .installationId
  match installation with
  | .error _ => pure ()
  | .ok installation => do
    let answer : Except ClientError Registration ← ask (.register session (body config installation))
    match answer with
    | .error error =>
      if needsNewToken error then setDeviceState session .awaitingRefresh else pure ()
    | .ok registration => do
      let current ← sessionIs session
      if current then do
        let file : AgentFile :=
          ⟨config.apiBase, registration.id, registration.pushToken, installation⟩
        let written : Bool ← ask (.writeAgent session file)
        if written then setDeviceState session .registered else pure ()
      else pure ()

def ensureDeviceRegistered (config : Config) (session : Nat) : Task Unit := do
  let wanted ← sessionState fun s =>
    (s.2.app.isSession session && s.2.app.device = .pending, s)
  if wanted then registerDevice config session else pure ()

/-- It spawns the registration. -/
def onAccessRefreshed (config : Config) (session : Nat) : Task Unit := do
  let retry ← sessionState fun s =>
    if s.2.app.isSession session && s.2.app.device = .awaitingRefresh then
      (true, (s.1, { s.2 with app := { s.2.app with device := .pending } }))
    else (false, s)
  if retry then ensureDeviceRegistered config session else pure ()

/-! ## The end of a session -/

def removeAgentFiles : Task Unit :=
  Prog.forEach [.agent, .cursor, .shown] fun file => do
    let _ ← ask (.remove file)
    pure ()

/-- Best effort. -/
def unregisterDevice : Task Unit := do
  let s ← Prog.get .agentFile
  match s.1.agent with
  | none => pure ()
  | some file => do
    let session ← currentSession
    match session with
    | none => pure ()
    | some session => do
      let _ ← ask (.delete session file.deviceId)
      pure ()

/-- The session is reset, and has ended. -/
def Held.over (held : Held) (signedIn : Bool) : Held where
  app := held.app.reset signedIn
  past := { held.past with ended := held.app.session :: held.past.ended }

/-- With `only`, only while that session is current. -/
def dropSession (only : Option Nat) : Task Bool :=
  Prog.withLock do
    let dropped ← Prog.step .session fun s =>
      if (only.any fun session => session ≠ s.2.app.session) then (false, s)
      else (true, (s.1, s.2.over false))
    if dropped then do
      removeAgentFiles
      pure true
    else pure false

def signOut : Task Unit := do
  unregisterDevice
  let _ ← dropSession none
  let _ ← ask .stopCores
  let _ ← ask .logout
  pure ()

/-- What it spawns registers the device of the new session. -/
def beginSession : Task Unit := do
  let replaced ← sessionState fun s =>
    if s.2.app.signedIn then (true, (s.1, s.2.over true))
    else (false, (s.1, { s.2 with app := s.2.app.reset true }))
  if replaced then removeAgentFiles else pure ()

/-! ## Two processes -/

/-- What the app is asked, by the user, by its loops and by the backend. -/
inductive Op where
  | signOut
  | endSession (session : Nat)
  | beginSession
  | ensureDeviceRegistered (session : Nat)
  | onAccessRefreshed (session : Nat)
  deriving DecidableEq, Repr

def Op.task (config : Config) : Op → Task Unit
  | .signOut => Device.signOut
  | .endSession session => do
    let _ ← dropSession (some session)
    pure ()
  | .beginSession => Device.beginSession
  | .ensureDeviceRegistered session => Device.ensureDeviceRegistered config session
  | .onAccessRefreshed session => Device.onAccessRefreshed config session

/-- What is noted of the agent's looks. -/
def note : PushAgent.Place → Disk → Disk → Held → Held
  | .readAgent, _, disk, held =>
    if disk.agent.isSome then { held with past := held.past.found } else held
  | .readShown, _, _, held => { held with past := { held.past with read := held.past.owner .shown } }
  | _, _, _, held => held

/-- A task of the agent, among those of the app. -/
def watch {α : Type} (task : PushAgent.Task α) : Task Unit :=
  ((task.noted Spot.agent note).called Call.agent fun _ r => r).bind fun _ => pure ()

abbrev Process := Pool World Spot Answer Unit

variable [PushAgent.PushText]

/-- The app has a session and the agent a memory; the files are of the session.
The agent goes `rounds` rounds. -/
def start (config : Config) (app : SessionState) (disk : Disk) (engine : PushAgent.Engine)
    (rounds : Nat) (ops : List Op) : Process where
  state := (disk, ⟨app, { owner := fun _ => [app.session], looked := [app.session] }⟩)
  tasks := { prog := watch (PushAgent.run rounds engine) } ::
    ops.map fun op => { prog := op.task config }

end PpvpnCore.Desktop.Device
