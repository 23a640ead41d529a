import PpvpnCore.Lib.Prog
import PpvpnCore.Engine.State

/-!
# The calls of an instance as tasks

A task of the engine goes from one critical section to the next; between them
it calls the runtime, the machine and the network. `Call` lists what it asks
for, `Answer` what it may be told, `perform` what the answer did to the runtime
(the `Runtime` trait's contract: an error of `start` leaves it not running, a
failed `reload` or `stop` changes nothing, selections are kept over a reload by
tag).
-/

namespace PpvpnCore

open Lib

/-- Which of the starts of the source issues it: the first with a
configuration, the one without the shared listener after that failed, or the
one that puts the running configuration back. -/
inductive Attempt where
  | first | withoutListener | back
  deriving DecidableEq, Repr

inductive Call where
  | start (attempt : Attempt) (json : Config)
  | reload (json : Config)
  | stop
  | select (group member : String)
  | groups
  | traffic
  | connections
  | closeConnection (id : Nat)
  | replacedRoutes
  /-- sail's own check of a configuration (`translate::check`). -/
  | check (json : Config)
  /-- `Manager::prepare` for the sets of a profile. -/
  | prepare (sets : List RuleSet) (allowedHosts : List String) (download : Bool)
  /-- Which of two ready branches `select!` takes. -/
  | race
  | hostIpv6
  | ports
  | now

def Answer : Call → Type
  /- `ok` with the network its first detection found. -/
  | .start _ _ => Except RuntimeError (Option NetworkSnapshot)
  | .reload _ => Except RuntimeError ReloadReport
  | .stop => Except RuntimeError Unit
  | .select _ _ => Except RuntimeError Unit
  | .groups => Except RuntimeError (List GroupInfo)
  | .traffic => Except RuntimeError RuntimeTraffic
  | .connections => Except RuntimeError (List RuntimeConnection)
  | .closeConnection _ => Except RuntimeError Bool
  | .replacedRoutes => List String
  /- The outer error is the blocking task's own. -/
  | .check _ => Except String (Except Error Unit)
  | .prepare _ _ _ => List SetCopy
  | .race => Bool
  | .hostIpv6 => HostIpv6
  | .ports => PortAnswers
  | .now => Int

/-! ## What an answer did -/

/-- Every selector with the member it starts on. -/
def Config.defaults (json : Config) : BTreeMap String String :=
  json.outbounds.foldl (fun selected out =>
    match out with
    | .selector tag _ default => selected.insert tag default
    | _ => selected) ∅

/-- The selectors after a reload: on the member they were on if it is still
theirs. -/
def Config.kept (json : Config) (before : BTreeMap String String) : BTreeMap String String :=
  json.outbounds.foldl (fun selected out =>
    match out with
    | .selector tag members default =>
      selected.insert tag <| match before[tag]? with
        | some member => if member ∈ members then member else default
        | none => default
    | _ => selected) ∅

namespace Runtime

def started (r : Runtime) (json : Config) (network : Option NetworkSnapshot) : Runtime :=
  { r with
    config := some json
    selected := json.defaults
    connections := []
    network
    run := r.run + 1
    listed := []
    offlineFacts := (network.map (·.offline)).toList }

def halted (r : Runtime) : Runtime :=
  { r with config := none, connections := [] }

def reloaded (r : Runtime) (json : Config) (report : ReloadReport) : Runtime :=
  { r with
    config := some json
    selected := json.kept r.selected
    connections := r.connections.filter fun c =>
      c.id ∉ report.recheckClosed.map (·.1) ∧ c.id ∉ report.dropped }

def closing (r : Runtime) (id : Nat) : Runtime :=
  { r with
    connections := r.connections.filter (·.id ≠ id)
    closed := r.closed ++ r.connections.filter (·.id = id) }

/-- sail's watch tells a change: from the network it had, and `offline` only
from a network. -/
def reported (r : Runtime) (change : NetworkChange) : Option Runtime :=
  if r.config.isSome ∧ r.network = some change.old ∧
      (change.change = .offline → change.old.offline = false) then
    some { r with
      network := some change.new
      offlineFacts := r.offlineFacts ++ [change.new.offline, change.change = .offline] }
  else none

end Runtime

def Runtime.perform (r : Runtime) : (c : Call) → Answer c → Runtime
  | .start _ json, (.ok network : Except RuntimeError (Option NetworkSnapshot)) =>
    r.started json network
  | .start _ _, .error _ => r.halted
  | .reload json, (.ok report : Except RuntimeError ReloadReport) => r.reloaded json report
  | .reload _, .error _ => r
  | .stop, (.ok () : Except RuntimeError Unit) => r.halted
  | .stop, .error _ => r
  | .select group member, (.ok () : Except RuntimeError Unit) =>
    { r with selected := r.selected.insert group member }
  | .select _ _, .error _ => r
  | .connections, (.ok list : Except RuntimeError (List RuntimeConnection)) =>
    { r with listed := list }
  | .connections, .error _ => { r with listed := [] }
  | .closeConnection id, (.ok _ : Except RuntimeError Bool) => r.closing id
  | .closeConnection _, .error _ => r
  | .groups, _ | .traffic, _ | .replacedRoutes, _ | .check _, _ | .prepare _ _ _, _
  | .race, _ | .hostIpv6, _ | .ports, _ | .now, _ => r

def World.perform (c : Call) (a : Answer c) (w : World) : World :=
  { w with runtime := w.runtime.perform c a }

/-! ## Places

A critical section is at `plain` unless something is said about when it runs:
the watcher's writes on a network change with the run of sail the change
belongs to, the section that ends `shutdown`, what sail does on its own. -/

inductive Place where
  | plain
  | watched (run : Nat)
  | shutDown
  | sail
  deriving DecidableEq, Repr

abbrev Task := Prog World Place Answer

/-- A call that may fail (Rust's `Result`, its `?` the bind). -/
abbrev Try := ExceptT Error Task

/-- One critical section. -/
def inSection {α : Type} (f : World → α × World) : Task α := Prog.step .plain f

def modify (f : World → World) : Task Unit := Prog.update .plain f

/-- A section that only reads. -/
def read : Task World := Prog.get .plain

def publish (event : Event) : Task Unit := modify (·.publish event)

/-- A change of the live facts without a report. -/
def World.setLive (w : World) (f : Live → Live) : World := { w with live := f w.live }

/-- A change of the live facts, then the report of the state they make. -/
def World.settleLive (w : World) (f : Live → Live) : World := (w.setLive f).settle

section

variable (w : World) (f : Live → Live)

@[simp] theorem World.settleLive_applied : (w.settleLive f).live.applied = (f w.live).applied := by
  rw [World.settleLive, World.settle_live]
  rfl

@[simp] theorem World.settleLive_running : (w.settleLive f).live.running = (f w.live).running := by
  rw [World.settleLive, World.settle_live]
  rfl

@[simp] theorem World.settleLive_fatal : (w.settleLive f).live.fatal = (f w.live).fatal := by
  rw [World.settleLive, World.settle_live]
  rfl

@[simp] theorem World.settleLive_shutDown : (w.settleLive f).live.shutDown = (f w.live).shutDown := by
  rw [World.settleLive, World.settle_live]
  rfl

@[simp] theorem World.settleLive_offline : (w.settleLive f).live.offline = (f w.live).offline := by
  rw [World.settleLive, World.settle_live]
  rfl

@[simp] theorem World.settleLive_proxies : (w.settleLive f).proxies = w.proxies :=
  World.settle_proxies _

@[simp] theorem World.settleLive_runtime : (w.settleLive f).runtime = w.runtime :=
  World.settle_runtime _

@[simp] theorem World.settleLive_track : (w.settleLive f).track = w.track :=
  World.settle_track _

end

/-! ## The runtime's methods and what the machine tells -/

def Call.ask (c : Call) : Task (Answer c) := Prog.ask c

namespace Runtime

def start (attempt : Attempt) (json : Config) :
    Task (Except RuntimeError (Option NetworkSnapshot)) := Call.ask (.start attempt json)

def reload (json : Config) : Task (Except RuntimeError ReloadReport) := Call.ask (.reload json)

def stop : Task (Except RuntimeError Unit) := Call.ask .stop

def select (group member : String) : Task (Except RuntimeError Unit) :=
  Call.ask (.select group member)

def readGroups : Task (Except RuntimeError (List GroupInfo)) := Call.ask .groups

def readTraffic : Task (Except RuntimeError RuntimeTraffic) := Call.ask .traffic

def readConnections : Task (Except RuntimeError (List RuntimeConnection)) := Call.ask .connections

def closeConnection (id : Nat) : Task (Except RuntimeError Bool) := Call.ask (.closeConnection id)

def replacedRoutes : Task (List String) := Call.ask .replacedRoutes

end Runtime

def checkConfig (json : Config) : Task (Except String (Except Error Unit)) := Call.ask (.check json)

def prepareSets (sets : List RuleSet) (allowedHosts : List String) (download : Bool) :
    Task (List SetCopy) := Call.ask (.prepare sets allowedHosts download)

def selectRace : Task Bool := Call.ask .race

def probeIpv6 : Task HostIpv6 := Call.ask .hostIpv6

def probePorts : Task PortAnswers := Call.ask .ports

def utcNow : Task Int := Call.ask .now

/-! ## Errors -/

def shutDownError : Error := .new .engineShutDown false "the instance was shut down"

def notApplied : Error := .new .profileNotApplied false "no profile has been applied"

def engineFatal : Error :=
  .new .engineFatal false "the instance is fatal: drop it and create another"

/-- Whether a lifecycle call may run. -/
def admitCall : Try Unit := do
  let w ← read
  if w.live.shutDown then throw shutDownError
  if w.live.fatal.isSome then throw engineFatal

/-- The live facts once the runtime panicked. -/
def Live.panicked (live : Live) : Live :=
  { ({ live with running := false, run := live.run + 1 } : Live).clearRuntime with
    fatal := some .panic }

/-- The Engine's error for a runtime's; a panic in sail makes the instance
Fatal. -/
def runtimeError (config : EngineConfig) (error : RuntimeError) : Task Error := do
  if error.panicked then modify (·.settleLive Live.panicked)
  return error.toErrorOn config.platform

/-- Rust's `Option` and `Result` of a call that has its value already. -/
def liftExcept {α : Type} (x : Except Error α) : Try α := ExceptT.mk (pure x)

/-- Under the operation lock, to the end of the call. -/
def locked {α : Type} (p : Try α) : Try α := ExceptT.mk (Prog.withLock p.run)

end PpvpnCore
