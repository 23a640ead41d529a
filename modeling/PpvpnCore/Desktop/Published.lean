import PpvpnCore.Lib.Beside
import PpvpnCore.Lib.Debts
import PpvpnCore.Lib.Relay
import PpvpnCore.Desktop.Snapshot
import Mathlib.Data.Multiset.AddSub

/-!
# What the app shows settles

How a change of state gets to the listener: the sinks of `connection.rs` and
`cores.rs`, `publish_connection`, and `update` and `emit` of `lib.rs`. Each lock
section is one step, and any number of changes may be on their way.

* `Op`: the changes of the controllers, the monitor, the session and the
  standard core, each with what it hands on.
* `Past`: what has arrived where, and whether a hand-over was overtaken.
* `settles`: once nothing is in progress and no hand-over was overtaken, what
  the listener has is the truth.

What is handed on carries a stamp that the code does not have: how often the
value was changed before. No step depends on one.
-/

namespace PpvpnCore.Desktop.App.Published

open Lib

/-! ## State -/

structure State where
  /-- The controllers' own states. -/
  enhanced : Stamped EnhancedState := ⟨Enhanced.stateOf {}, 0⟩
  compat : Stamped CompatState := ⟨{}, 0⟩
  parts : Stamped ConnectionParts := ⟨{}, 0⟩
  snapshot : Stamped ClientSnapshot
  lastSent : Stamped (Option ClientSnapshot) := ⟨none, 0⟩
  /-- What the listener was handed last. -/
  heard : Option ClientSnapshot := none

/-- The listener is handed a snapshot; its stamp is that of `last_sent`. -/
inductive Call where
  | onSnapshot (snapshot : ClientSnapshot) (stamp : Nat)

def Answer : Call → Type
  | .onSnapshot _ _ => Unit

def effect : (c : Call) → Answer c → State → State
  | .onSnapshot snapshot _, _, s => { s with heard := some snapshot }

/-- What a section is, with what it hands over. -/
inductive Place where
  | plain
  | enhancedLands (x : Stamped EnhancedState)
  | compatLands (x : Stamped CompatState)
  | partsLand (x : Stamped ConnectionParts)
  | sends (x : Stamped ClientSnapshot)

abbrev Task (α : Type) := Prog State Place Answer α

/-! ## Handing on -/

/-- Hands `snapshot` to the listener unless it equals the last one sent. The
listener runs after the lock is released. -/
def emit (snapshot : Stamped ClientSnapshot) : Task Unit := do
  let sent : Option Nat ← Prog.step (.sends snapshot) fun s =>
    if s.lastSent.value = some snapshot.value then (none, s)
    else
      let lastSent := s.lastSent.change (some snapshot.value)
      (some lastSent.stamp, { s with lastSent })
  match sent with
  | none => pure ()
  | some stamp => Prog.ask (.onSnapshot snapshot.value stamp)

/-- A section on the snapshot; what it became is handed to `emit`. -/
def change (place : Place) (f : ClientSnapshot → ClientSnapshot) : Task (Stamped ClientSnapshot) :=
  Prog.step place fun s =>
    let snapshot := s.snapshot.change (f s.snapshot.value)
    (snapshot, { s with snapshot })

def update (place : Place) (f : ClientSnapshot → ClientSnapshot) : Task Unit := do
  let snapshot ← change place f
  emit snapshot

/-- Recomputes the connection, with `f` applied in the same update. The parts
are copied out first. -/
def publishConnection (f : ClientSnapshot → ClientSnapshot) : Task Unit := do
  let parts ← Prog.step .plain fun s => (s.parts, s)
  update (.partsLand parts) fun snapshot => (f snapshot).connected parts.value

def State.setParts (s : State) (parts : ConnectionParts) : State :=
  { s with parts := s.parts.change parts }

def onEnhancedState (state : Stamped EnhancedState) : Task Unit := do
  Prog.update (.enhancedLands state) fun s => s.setParts (s.parts.value.heardEnhanced state.value)
  publishConnection (·.noteEnhanced state.value)

def onCompatState (state : Stamped CompatState) : Task Unit := do
  Prog.update (.compatLands state) fun s =>
    s.setParts { s.parts.value with compat := state.value }
  publishConnection (·.noteCompat state.value)

/-! ## Changes -/

/-- `emit` of enhanced mode: its state is read again. -/
def emitEnhanced : Task Unit := do
  let state ← Prog.step .plain fun s => (s.enhanced, s)
  onEnhancedState state

/-- A transition of enhanced mode, unless it is refused. -/
def changeEnhanced (f : EnhancedState → Option EnhancedState) : Task Unit := do
  let applied ← Prog.step .plain fun s => match f s.enhanced.value with
    | none => (false, s)
    | some state => (true, { s with enhanced := s.enhanced.change state })
  if applied then emitEnhanced else pure ()

/-- `set_state` of compatible mode: the sink hears of a change only. -/
def setCompat (state : CompatState) : Task Unit := do
  let changed : Option (Stamped CompatState) ← Prog.step .plain fun s =>
    if s.compat.value = state then (none, s)
    else (some (s.compat.change state), { s with compat := s.compat.change state })
  match changed with
  | none => pure ()
  | some state => onCompatState state

/-- A section on the parts, published if it changed them. -/
def changeParts (f : ConnectionParts → ConnectionParts) : Task Unit := do
  let changed ← Prog.step .plain fun s =>
    if f s.parts.value = s.parts.value then (false, s) else (true, s.setParts (f s.parts.value))
  if changed then publishConnection id else pure ()

/-- The monitor's latest replica and latency for the current node. -/
def setConnectionDetail (detail : ConnectionDetail) : Task Unit :=
  changeParts fun parts => { parts with detail }

/-- Conflict detection names the app competing for the path, unless the failure
is over or the pre-connect check named one. -/
def namesCompetitor (competitor : Option String) : Task Unit :=
  changeParts fun parts =>
    if isFailure parts.enhanced && parts.enhanced.competitors.isEmpty then
      { parts with enhancedCompetitor := competitor }
    else parts

/-- A change of the snapshot that is not about the connection. -/
structure Change where
  apply : ClientSnapshot → Option ClientSnapshot
  connection : ∀ s t, apply s = some t → t.connection = s.connection
  mode : ∀ s t, apply s = some t → t.connectionMode = s.connectionMode
  installed : ∀ s t, apply s = some t → t.serviceInstalled = s.serviceInstalled

/-- `update_session`, and `update` by anyone else: a change that is refused
publishes nothing. -/
def updateSession (f : Change) : Task Unit := do
  let changed : Option (Stamped ClientSnapshot) ← Prog.step .plain fun s =>
    match f.apply s.snapshot.value with
    | none => (none, s)
    | some snapshot =>
      (some (s.snapshot.change snapshot), { s with snapshot := s.snapshot.change snapshot })
  match changed with
  | none => pure ()
  | some snapshot => emit snapshot

def isStandardError (info : ClientErrorInfo) : Bool :=
  info.code ∈ [.standardCoreFailed, .profileExpired]

/-- What `on_standard_state` makes of the snapshot. -/
def noteStandard (state : StandardState) (snapshot : ClientSnapshot) : ClientSnapshot :=
  match state with
  | .failed error => { snapshot with lastError := some error, standard := state }
  | .ready _ =>
    { snapshot with
      lastError := if snapshot.lastError.any isStandardError then none else snapshot.lastError
      standard := state }
  | .stopped | .starting => { snapshot with standard := state }

inductive Op where
  /-- A transition of enhanced mode, and an emission without one. -/
  | enhanced (f : EnhancedState → Option EnhancedState)
  | emitEnhanced
  | compat (state : CompatState)
  | monitor (detail : ConnectionDetail)
  | detection (competitor : Option String)
  | session (f : Change)
  | standard (state : StandardState)
  | selectMode (mode : ConnectionMode)
  | selectRouting (mode : RoutingMode)

def Op.task : Op → Task Unit
  | .enhanced f => changeEnhanced f
  | .emitEnhanced => Published.emitEnhanced
  | .compat state => setCompat state
  | .monitor detail => setConnectionDetail detail
  | .detection competitor => namesCompetitor competitor
  | .session f => updateSession f
  | .standard state => update .plain (noteStandard state)
  | .selectMode mode => publishConnection fun snapshot => { snapshot with connectionMode := mode }
  | .selectRouting mode => publishConnection fun snapshot => { snapshot with routingMode := mode }

end PpvpnCore.Desktop.App.Published
