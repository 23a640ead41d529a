import PpvpnCore.Lib.Pool

/-!
# The choices of a user

The routing mode, the selected node and the ingress pins are in the engine, in
the request a daemon holds (`cli/src/daemon.rs`) and in the settings file, that
every command reads, changes and writes back (`cli/src/commands.rs`,
`queries.rs`, `settings.rs`). Of the engine only what it is told to use is
modelled. Finding, launching and stopping the daemon is one step each.
-/

namespace PpvpnCore.Cli.Choices

open Lib

inductive RoutingMode where
  | rules | global
  deriving DecidableEq, Repr

/-! ## Pins -/

/-- Node ID to pinned endpoint key. -/
abbrev Pins := List (String × String)

namespace Pins

def get (p : Pins) (node : String) : Option String := p.lookup node

def without (p : Pins) (nodes : List String) : Pins := p.filter fun pin => pin.1 ∉ nodes

def set (p : Pins) (node : String) (key : Option String) : Pins :=
  match key with
  | some key => (node, key) :: p.without [node]
  | none => p.without [node]

end Pins

/-! ## The records -/

/-- A choice, with what it is about. -/
inductive Choice where
  | mode (mode : RoutingMode)
  | select (node : String)
  /-- `none` is back to automatic failover. -/
  | pin (node : String) (key : Option String)
  deriving DecidableEq, Repr

structure Settings where
  mode : RoutingMode := .rules
  selected : Option String := none
  pins : Pins := []
  deriving DecidableEq, Repr

def Settings.choose (s : Settings) : Choice → Settings
  | .mode mode => { s with mode }
  | .select node => { s with selected := some node }
  | .pin node key => { s with pins := s.pins.set node key }

def Settings.chooseAll (s : Settings) (cs : List Choice) : Settings := cs.foldl Settings.choose s

structure Profile where
  /-- The nodes, with the endpoint keys of their ingresses. -/
  nodes : List (String × List String)
  default : String
  default_mem : default ∈ nodes.map Prod.fst
  deriving DecidableEq, Repr

namespace Profile

def hasNode (p : Profile) (node : String) : Bool := node ∈ p.nodes.map Prod.fst

def hasIngress (p : Profile) (node key : String) : Bool :=
  p.nodes.any fun x => x.1 = node ∧ key ∈ x.2

end Profile

/-- What an apply carries, what a daemon holds and what an engine uses. -/
structure Request extends Settings where
  profile : Profile
  deriving DecidableEq

def Request.choose (r : Request) (c : Choice) : Request :=
  { r with toSettings := r.toSettings.choose c }

structure ApplyResult where
  selected : String
  selectionReset : Bool
  clearedPins : List String
  deriving DecidableEq

namespace Request

/-- The nodes whose pin is not an ingress in the profile. -/
def cleared (r : Request) : List String :=
  (r.pins.map Prod.fst).filter fun node => match r.pins.get node with
    | some key => !r.profile.hasIngress node key
    | none => false

/-- What the engine uses once it has taken the request. -/
def live (r : Request) : Request :=
  { r with
    selected := match r.selected with
      | some node => some (if r.profile.hasNode node then node else r.profile.default)
      | none => some r.profile.default
    pins := r.pins.without r.cleared }

def result (r : Request) : ApplyResult where
  selected := match r.selected with
    | some node => if r.profile.hasNode node then node else r.profile.default
    | none => r.profile.default
  selectionReset := match r.selected with
    | some node => !r.profile.hasNode node
    | none => false
  clearedPins := r.cleared

/-- What is live, not what was asked for: core may have reset the selection and
cleared pins. -/
def held (r : Request) : Request :=
  { r with
    selected := some r.result.selected
    pins := r.pins.without r.result.clearedPins }

/-- What the command that applied it records. -/
def changes (r : Request) : List Choice :=
  r.result.clearedPins.map (fun node => .pin node none) ++
    if r.result.selectionReset then [.select r.result.selected] else []

/-- Whether the record changes the settings. -/
def alters (r : Request) (s : Settings) : Bool :=
  r.result.selectionReset || r.result.clearedPins.any fun node => (s.pins.get node).isSome

/-- Whether the engine has the node or the ingress. -/
def accepts (r : Request) : Choice → Bool
  | .mode _ => false
  | .select node | .pin node none => r.profile.hasNode node
  | .pin node (some key) => r.profile.hasIngress node key

end Request

structure Daemon where
  number : Nat
  /-- What its engine uses. -/
  live : Option Request := none
  /-- What is applied, as the next apply would pass it. -/
  held : Option Request := none
  deriving DecidableEq

structure World where
  settings : Settings
  daemon : Option Daemon := none
  /-- How many daemons were launched. -/
  launched : Nat := 0
  /-- What was chosen last, in an engine or in the settings: what a profile does
  not have is dropped, and so is, with its engine, what was not saved. -/
  chosen : Settings
  /-- What was saved, in order. -/
  log : List Choice := []

namespace World

/-- The daemon with this number, if it runs. -/
def daemonAt (w : World) (d : Nat) : Option Daemon := w.daemon.filter (·.number = d)

def live (w : World) : Option Request := w.daemon.bind (·.live)

def change (w : World) (d : Nat) (f : Daemon → Daemon) : World :=
  { w with daemon := w.daemon.map fun daemon => if daemon.number = d then f daemon else daemon }

def stop (w : World) : World := { w with daemon := none, chosen := w.settings }

end World

/-! ## The steps -/

/-- Why a request is applied. -/
inductive Why where
  | start
  /-- The held request, with another mode. -/
  | again (mode : RoutingMode)
  /-- A new profile, with another mode. -/
  | anew (mode : RoutingMode)
  deriving DecidableEq, Repr

def Why.choices : Why → List Choice
  | .start => []
  | .again mode | .anew mode => [.mode mode]

inductive Outcome where
  | applied | expired | failed
  deriving DecidableEq, Repr

inductive Call where
  /-- `load_profile`. -/
  | profile
  /-- Whether a daemon can be launched and answers. -/
  | launch
  /-- `select_node`, `pin_ingress`. -/
  | choose (daemon : Nat) (choice : Choice)
  | apply (daemon : Nat) (request : Request) (why : Why)
  /-- The lock of what is applied: a new request, or a change of it. -/
  | store (daemon : Nat) (request : Request)
  | remember (daemon : Nat) (choice : Choice)
  /-- Whether the daemon's answer arrives. -/
  | response (daemon : Nat)
  /-- The settings, read before, are saved with these choices. -/
  | save (read : Settings) (choices : List Choice)
  /-- `start` or `status` after an apply. -/
  | start (daemon : Nat) (why : Why)

def Answer : Call → Type
  | .profile => Option Profile
  | .apply _ _ _ => Outcome
  | .store _ _ | .remember _ _ | .save _ _ => Unit
  | _ => Bool

def effect : (c : Call) → Answer c → World → World
  | .choose d c, ok, w => match (ok : Bool) with
    | true => { w.change d fun daemon => { daemon with live := daemon.live.map (·.choose c) } with
        chosen := w.chosen.choose c }
    | false => w
  | .apply d r why, outcome, w => match (outcome : Outcome) with
    | .applied => { w.change d fun daemon => { daemon with live := some r.live } with
        chosen := w.chosen.chooseAll (why.choices ++ r.changes) }
    | .expired | .failed => w
  | .store d r, _, w => w.change d fun daemon => { daemon with held := some r.held }
  | .remember d c, _, w =>
    w.change d fun daemon => { daemon with held := daemon.held.map (·.choose c) }
  | .save read cs, _, w =>
    { w with
      settings := read.chooseAll cs
      chosen := w.chosen.chooseAll cs
      log := w.log ++ cs }
  | _, _, w => w

/-- Whose code a section is. -/
inductive Place where
  | daemon | command

abbrev Task := Prog World Place Answer

/-- `Daemon::apply`, and its answer. -/
def daemonApply (d : Nat) (request : Request) (why : Why) : Task Outcome := do
  let outcome : Outcome ← Prog.ask (Call.apply d request why)
  match outcome with
  | .applied => do
    Prog.ask (Call.store d request)
    let answered : Bool ← Prog.ask (Call.response d)
    pure (if answered then .applied else .failed)
  | other => pure other

/-! ## The commands -/

def running : Task (Option Nat) := do
  let w ← Prog.get .command
  pure (w.daemon.map (·.number))

def load : Task Settings := do
  let w ← Prog.get .command
  pure w.settings

/-- `use`, `ingress pin` and `ingress auto`. -/
def choose (c : Choice) : Task Bool := do
  let daemon ← running
  match daemon with
  | none => pure false
  | some d => do
    let ok : Bool ← Prog.ask (Call.choose d c)
    if !ok then pure false
    else do
      Prog.ask (Call.remember d c)
      let answered : Bool ← Prog.ask (Call.response d)
      if !answered then pure false
      else do
        -- Core does not persist it: the next apply passes it.
        let settings ← load
        Prog.ask (Call.save settings [c])
        pure true

/-- Applies and starts, then records what core cleared or reset. -/
def applyAndStart (d : Nat) (request : Request) (why : Why) : Task Bool := do
  let outcome ← daemonApply d request why
  if outcome ≠ .applied then pure false
  else do
    let settings ← load
    if request.alters settings then Prog.ask (Call.save settings request.changes)
    let started : Bool ← Prog.ask (Call.start d why)
    if !started then pure false
    else Prog.ask (Call.start d why)

def saveMode (mode : RoutingMode) : Task Bool := do
  let settings ← load
  Prog.ask (Call.save settings [.mode mode])
  pure true

/-- Fetches a new profile and applies that with the new mode. -/
def applyAnew (settings : Settings) (mode : RoutingMode) : Task Bool := do
  let profile : Option Profile ← Prog.ask Call.profile
  match profile with
  | none => pure false
  | some profile => do
    let daemon ← running
    match daemon with
    | none => pure false
    | some d => do
      let applied ← applyAndStart d { settings with mode, profile } (.anew mode)
      if applied then saveMode mode else pure false

/-- What the daemon holds, if it still runs. -/
def heldBy (d : Nat) : Task (Option (Option Request)) := do
  let w ← Prog.get .daemon
  pure ((w.daemonAt d).map Daemon.held)

/-- A running instance takes the mode first; when it refuses, the saved mode stays
what is live. -/
def modeCommand (mode : RoutingMode) : Task Bool := do
  let settings ← load
  let daemon ← running
  match daemon with
  | none => saveMode mode
  | some d => do
    let held ← heldBy d
    match held with
    | none => pure false
    -- nothing is applied: the mode only takes effect with the next start
    | some none => saveMode mode
    | some (some held) => do
      let outcome ← daemonApply d { held with mode } (.again mode)
      match outcome with
      | .applied => saveMode mode
      | .failed => pure false
      | .expired => applyAnew settings mode

/-- Stops the daemon that runs, if any. -/
def stopDaemon : Task Unit := Prog.update .command World.stop

/-- Connects to the running daemon, or launches one. -/
def connectOrLaunch : Task (Nat × Bool) :=
  Prog.step .command fun w => match w.daemon with
    | some daemon => ((daemon.number, false), w)
    | none => ((w.launched + 1, true),
        { w with daemon := some { number := w.launched + 1 }, launched := w.launched + 1 })

/-- `start` and `restart`. -/
def start (restart : Bool) : Task Bool := do
  let profile : Option Profile ← Prog.ask Call.profile
  match profile with
  | none => pure false
  | some profile => do
    let settings ← load
    if restart then stopDaemon
    let ready : Bool ← Prog.ask Call.launch
    if !ready then pure false
    else do
      let daemon ← connectOrLaunch
      let applied ← applyAndStart daemon.1 { settings with profile } .start
      if !applied && daemon.2 then stopDaemon
      pure applied

inductive Command where
  | useNode (node : String)
  | pin (node : String) (key : Option String)
  | mode (mode : RoutingMode)
  | start (restart : Bool)
  deriving DecidableEq, Repr

def Command.task : Command → Task Bool
  | .useNode node => Choices.choose (.select node)
  | .pin node key => Choices.choose (.pin node key)
  | .mode routing => modeCommand routing
  | .start restart => Choices.start restart

/-- Commands over the settings that are on file. -/
def run (settings : Settings) (commands : List Command) : Pool World Place Answer Bool where
  state := { settings, chosen := settings }
  tasks := commands.map fun command => { prog := command.task }

end PpvpnCore.Cli.Choices
