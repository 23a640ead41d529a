import Mathlib.Logic.Function.Basic
import PpvpnCore.Lib.Pool

/-!
# Commands and their daemons

`ppvpn start`, `restart` and `stop` (`cli/src/client.rs`, `commands.rs`,
`daemon.rs`) as processes over one runtime directory. Command `k` launches the
daemon `k`, or is its process when it runs in the foreground; the files of the
directory hold a daemon's number for what it wrote there, as every secret is
new. Directories, logs, the profile and what the engine does are left out.
-/

namespace PpvpnCore.Cli

open Lib

/-- What the daemon of a process has done last. -/
inductive Stage where
  | idle
  /-- `DaemonLock::acquire`. -/
  | locked
  /-- `listen`: the leftover socket is removed, the secret and the socket are
  there, the record is. -/
  | swept | keyed | bound | recorded
  | serving
  /-- The accept loop is left; `cleanup` removes socket, secret and record. -/
  | leaving | closed | keyless | unrecorded
  /-- The lock is released. -/
  | stopped
  deriving DecidableEq, Repr

/-- Why a command stops a daemon. -/
inductive Why where
  /-- `stop`, or the first part of `restart`. -/
  | asked
  /-- A start failed. -/
  | failed
  deriving DecidableEq, Repr

/-- A command stopped a daemon, when it meant to stop the daemon `meant`. -/
structure Told where
  command : Nat
  why : Why
  meant : Nat
  daemon : Nat
  deriving DecidableEq, Repr

structure World where
  /-- Who has locked `daemon.lock`. -/
  lock : Option Nat := none
  socket : Option Nat := none
  secret : Option Nat := none
  record : Option Nat := none
  launched : Nat → Bool := fun _ => false
  /-- The process of the daemon has ended. -/
  ended : Nat → Bool := fun _ => false
  stage : Nat → Stage := fun _ => .idle
  /-- `Daemon::bind` has returned. -/
  ready : Nat → Bool := fun _ => false
  /-- The daemon's process is the command's. -/
  foreground : Nat → Bool := fun _ => false
  /-- Who stopped whom. -/
  told : List Told := []
  /-- The commands that returned, and whether without an error. -/
  returned : List (Nat × Bool) := []

namespace World

def moveTo (w : World) (d : Nat) (stage : Stage) : World :=
  { w with stage := Function.update w.stage d stage }

/-- The process ends; the kernel releases its lock. -/
def exit (w : World) (d : Nat) : World :=
  { w with
    ended := Function.update w.ended d true
    lock := w.lock.filter (· ≠ d) }

/-- Launched and not ended. -/
def alive (w : World) (d : Nat) : Bool := w.launched d && !w.ended d

def serves (w : World) (d : Nat) : Prop := w.stage d = .serving ∧ w.ended d = false

/-- A control call with the secret of `d` is answered. -/
def reaches (w : World) (d : Nat) : Prop := w.socket = some d ∧ w.serves d

/-- The command's own process has ended. -/
def halted (w : World) (k : Nat) : Bool := w.foreground k && w.ended k

def note (w : World) (told : Told) : World := { w with told := w.told ++ [told] }

end World

inductive Request where
  | ping | apply | start | status

/-- What becomes of a shutdown request. -/
inductive Delivery where
  | lost | unanswered | answered
  deriving DecidableEq, Repr

inductive Call where
  /-- The daemon process is executed. -/
  | exec (daemon : Nat)
  /-- `Engine::new`. -/
  | engine (daemon : Nat)
  /-- What ends the accept loop: a shutdown request or a signal. -/
  | leave (daemon : Nat)
  /-- The process ends, wherever it is. -/
  | fate (daemon : Nat)
  /-- The profile and the settings for the request. -/
  | profile (command : Nat)
  | readRecord (command : Nat) (why : Option Why)
  | control (command : Nat) (request : Request) (secret : Nat)
  | shutdown (command : Nat) (why : Why) (meant secret : Nat)
  /-- `wait_for_exit`: whether the process has ended within the limit. -/
  | exited (command : Nat) (why : Why) (daemon : Nat)
  | launch (command : Nat)
  /-- The daemon in the command's own process is bound, or failed. -/
  | bound (command : Nat)
  /-- `serve` has returned. -/
  | served (command : Nat)
  /-- The settings are loaded or saved. -/
  | settings (command : Nat)
  | print (command : Nat) (foreground : Bool)

def Answer : Call → Type
  | .exec _ | .leave _ | .fate _ => Unit
  | .readRecord _ _ => Option Nat
  | .shutdown _ _ _ _ => Delivery
  | _ => Bool

def effect : (c : Call) → Answer c → World → World
  | .fate d, _, w => w.exit d
  | .launch k, launched, w => match (launched : Bool) with
    | true => { w with launched := Function.update w.launched k true }
    | false => w
  | .shutdown k why meant secret, delivery, w => match (delivery : Delivery) with
    | .lost => w
    | .unanswered | .answered =>
      if w.halted k then w else w.note ⟨k, why, meant, secret⟩
  | _, _, w => w

/-- Whose code a section is. -/
inductive Place where
  | daemon | command

abbrev Task := Prog World Place Answer

/-! ## A daemon -/

/-- A step of the daemon, unless its process has ended. -/
def act (d : Nat) (stage : Stage) (f : World → World) : Task Unit :=
  Prog.update .daemon fun w => if w.ended d then w else (f w).moveTo d stage

/-- Whether the step could be made. -/
def tryAct (d : Nat) (stage : Stage) (can : World → Bool) (f : World → World) : Task Bool :=
  Prog.step .daemon fun w => if !w.ended d && can w then (true, (f w).moveTo d stage) else (false, w)

/-- Prepares directories, takes the lock, creates the engine, binds the socket
and writes the secret and process record. -/
def bind (d : Nat) : Task Bool := do
  let locked ← tryAct d .locked (fun w => w.lock.isNone) fun w => { w with lock := some d }
  if !locked then pure false
  else do
    let engine : Bool ← Prog.ask (Call.engine d)
    if !engine then pure false
    else do
      act d .swept fun w => { w with socket := none }
      act d .keyed fun w => { w with secret := some d }
      let bound ← tryAct d .bound (fun w => w.socket.isNone) fun w => { w with socket := some d }
      if !bound then pure false
      else do
        act d .recorded fun w =>
          { w with record := some d, ready := Function.update w.ready d true }
        pure true

/-- Only removes the record if it is still its own. -/
def cleanup (d : Nat) : Task Unit := do
  act d .closed fun w => { w with socket := none }
  act d .keyless fun w => { w with secret := none }
  let w ← Prog.get .daemon
  act d .unrecorded fun w' => if w.record = some d then { w' with record := none } else w'

/-- Serves until a `Shutdown` request, SIGTERM or SIGINT, then shuts the engine
down and removes the socket, secret and record. -/
def serve (d : Nat) : Task Unit := do
  act d .serving id
  Prog.ask (Call.leave d)
  act d .leaving id
  cleanup d

def daemon (d : Nat) : Task Unit := do
  Prog.ask (Call.exec d)
  let bound ← bind d
  if bound then serve d
  act d .stopped fun w => { w with lock := w.lock.filter (· ≠ d) }
  Prog.update .daemon fun w => if w.foreground d then w else w.exit d

/-! ## The commands -/

/-- The record is read, then its process looked at. -/
def runningDaemon (k : Nat) (why : Option Why) : Task (Option Nat) := do
  let record : Option Nat ← Prog.ask (Call.readRecord k why)
  let w ← Prog.get .command
  pure (record.filter fun d => w.alive d)

/-- `Client::new`. -/
def readSecret : Task (Option Nat) := do
  let w ← Prog.get .command
  pure w.secret

def control (k : Nat) (request : Request) (secret : Nat) : Task Bool :=
  Prog.ask (Call.control k request secret)

/-- SIGTERM: the handler is there once the daemon serves. -/
def World.terminate (w : World) (d : Nat) : World :=
  match w.stage d with
  | .idle | .locked | .swept | .keyed | .bound | .recorded => w.exit d
  | _ => w

/-- `kill`, if there is still such a process. -/
def signal (k : Nat) (why : Why) (d : Nat) : Task Unit :=
  Prog.update .command fun w =>
    if w.ended d || w.halted k then w else (w.terminate d).note ⟨k, why, d, d⟩

/-- The daemon was asked to shut down, or is signalled; it has to exit in time. -/
def awaitExit (k : Nat) (why : Why) (record : Nat) (asked : Bool) : Task (Option Bool) := do
  if !asked then signal k why record
  let exited : Bool ← Prog.ask (Call.exited k why record)
  pure (if exited then some true else none)

def stopRecorded (k : Nat) (why : Why) (record : Nat) : Task (Option Bool) := do
  let client ← readSecret
  match client with
  | some secret => do
    let delivery : Delivery ← Prog.ask (Call.shutdown k why record secret)
    awaitExit k why record (delivery = .answered)
  | none => awaitExit k why record false

/-- Stops the recorded daemon; returns whether one was running, or `none` if it
did not exit in time. -/
def stopDaemon (k : Nat) (why : Why) : Task (Option Bool) := do
  let running ← runningDaemon k (some why)
  match running with
  | none => pure (some false)
  | some record => stopRecorded k why record

/-- Waits for the launched daemon to answer, with so many looks before the
deadline; `none` if it ended or was killed. -/
def awaitPing (k : Nat) : (rounds : Nat) → Task (Option Nat)
  | 0 => do
    Prog.update .command fun w =>
      if w.ended k then w else (w.exit k).note ⟨k, .failed, k, k⟩
    pure none
  | rounds + 1 => do
    let client ← readSecret
    let pinged ← (match client with
      | some secret => do
        let ok ← control k .ping secret
        pure (if ok then some secret else none)
      | none => pure none : Task (Option Nat))
    match pinged with
    | some secret => pure (some secret)
    | none => do
      let w ← Prog.get .command
      if w.ended k then pure none else awaitPing k rounds

/-- Connects to the running daemon, or starts one in the background and waits for
it to answer. Returns the client and whether it launched one. -/
def connectOrLaunch (k rounds : Nat) : Task (Option (Nat × Bool)) := do
  let running ← runningDaemon k none
  match running with
  | some _ => do
    let client ← readSecret
    match client with
    | none => pure none
    | some secret => do
      let ok ← control k .ping secret
      pure (if ok then some (secret, false) else none)
  | none => do
    let launched : Bool ← Prog.ask (Call.launch k)
    if !launched then pure none
    else do
      -- the deadline is looked at after the first round
      let client ← awaitPing k (rounds + 1)
      pure (client.map (·, true))

/-- The calls of a start, each as long as the one before succeeded. -/
def applyAndStart (k secret : Nat) : Task Bool := do
  let applied ← control k .apply secret
  if !applied then pure false
  else do
    let recorded : Bool ← Prog.ask (Call.settings k)
    if !recorded then pure false
    else do
      let started ← control k .start secret
      if !started then pure false
      else control k .status secret

/-- The command returns; in the foreground its process ends. -/
def finish (k : Nat) (ok : Bool) : Task Unit :=
  Prog.update .command fun w =>
    if w.halted k then w
    else
      let w := if w.foreground k then w.exit k else w
      { w with returned := w.returned ++ [(k, ok)] }

def startForeground (k : Nat) : Task Bool := do
  Prog.update .command fun w =>
    { w with
      launched := Function.update w.launched k true
      foreground := Function.update w.foreground k true }
  let bound : Bool ← Prog.ask (Call.bound k)
  if !bound then pure false
  else do
    let client ← readSecret
    match client with
    | none => pure false
    | some secret => do
      let applied ← applyAndStart k secret
      if applied then do
        let printed : Bool ← Prog.ask (Call.print k true)
        if printed then Prog.ask (Call.served k) else pure false
      else do
        let _ ← Prog.ask (Call.shutdown k .failed k secret)
        let _ ← Prog.ask (Call.served k)
        pure false

def startBackground (k rounds : Nat) : Task Bool := do
  let client ← connectOrLaunch k rounds
  match client with
  | none => pure false
  | some (secret, launched) => do
    let applied ← applyAndStart k secret
    if applied then Prog.ask (Call.print k false)
    else do
      -- Do not leave a daemon behind that this call started.
      if launched then do
        let _ ← stopDaemon k .failed
        pure false
      else pure false

/-- `start` and `restart`. -/
def start (k : Nat) (foreground restart : Bool) (rounds : Nat) : Task Bool := do
  let profile : Bool ← Prog.ask (Call.profile k)
  if !profile then pure false
  else do
    let stopped ← (if restart then do
      let stopped ← stopDaemon k .asked
      pure stopped.isSome
      else pure true : Task Bool)
    if !stopped then pure false
    else if foreground then startForeground k
    else startBackground k rounds

inductive Command where
  | start (foreground restart : Bool) (rounds : Nat)
  | stop
  deriving DecidableEq, Repr

def Command.task (k : Nat) : Command → Task Unit
  | .start foreground restart rounds => do
    let ok ← Cli.start k foreground restart rounds
    finish k ok
  | .stop => do
    let stopped ← stopDaemon k .asked
    finish k stopped.isSome

/-- Every command, the daemon it may launch, and the end this may meet. -/
def run (commands : List Command) : Pool World Place Answer Unit where
  state := {}
  tasks :=
    commands.zipIdx.map (fun x => { prog := x.1.task x.2 }) ++
    commands.zipIdx.map (fun x => { prog := daemon x.2 }) ++
    commands.zipIdx.map (fun x => { prog := Prog.ask (Call.fate x.2) })

/-! ## What is asked of a run -/

/-- The answers that can be given. -/
def Lawful : (c : Call) → Answer c → World → Prop
  | .exec d, _, w | .fate d, _, w => w.launched d = true
  | .readRecord _ _, record, w => record = w.record
  | .control _ _ secret, ok, w => (ok : Bool) = true → w.reaches secret
  | .shutdown _ _ _ secret, delivery, w => (delivery : Delivery) ≠ .lost → w.reaches secret
  | .exited _ _ d, ok, w => (ok : Bool) = true → w.ended d = true
  | .bound k, ok, w => ((ok : Bool) = true → w.ready k = true) ∧
      ((ok : Bool) = false → w.ready k = false ∧ (w.stage k = .stopped ∨ w.ended k = true))
  | .served k, _, w => w.stage k = .stopped
  | _, _, _ => True

end PpvpnCore.Cli
