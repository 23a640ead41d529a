import PpvpnCore.Engine.Network

/-!
# Taking a new translation while running

sail's reload takes it in place; what only a stop and a start can take, a TUN's
change, is a full restart, as is a reload sail refuses with `needs_restart` or
ends with `inbound_lost`. A restart that fails puts the running configuration
back; if that fails too, the instance is stopped.
-/

namespace PpvpnCore

open Lib

/-! ## Reload or restart -/

def Config.inboundsByTag (json : Config) : BTreeMap String Inbound :=
  json.inbounds.foldl (fun m inbound => m.insert inbound.tag inbound) ∅

def Inbound.withoutUsers : Inbound → Inbound
  | .mixed tag listen port _ => .mixed tag listen port []
  | .tun options => .tun options

/-- What a tag of either configuration says against a reload. -/
def restartReason (before after : Option Inbound) (tag : String) : Option String :=
  if tag = systemProxyInboundTag then none
  else match before, after with
    | some old, some new =>
      if tag = tunInboundTag then
        if old ≠ new then some "tun options changed" else none
      else if tag = localProxyInboundTag then
        if old.withoutUsers ≠ new.withoutUsers then some "local proxy listener changed" else none
      else if old ≠ new then some ("inbound " ++ tag ++ " changed")
      else none
    | _, _ => some ("inbound " ++ tag ++ " added or removed")

/-- Why `next` cannot be taken by a reload of `running` as Go did it. The system
proxy listener is left out: it is toggled in place. -/
def fullRestartReasons (running next : Config) : List String :=
  let before := running.inboundsByTag
  let after := next.inboundsByTag
  let tags := (after.foldl (fun m tag _ => m.insert tag ()) (before.map fun _ _ => ())).keys
  tags.filterMap (fun tag => restartReason before[tag]? after[tag]? tag) ++
    if running.route.autoDetectInterface ≠ next.route.autoDetectInterface then
      ["interface options changed"]
    else []

/-- What only a stop and a start can take: the TUN's changes. -/
def restartReasons (running next : Config) : List String :=
  (fullRestartReasons running next).filter fun r =>
    r = "tun options changed" ∨ r = "inbound tun added or removed"

inductive ListenerChangeKind where
  | added | removed | replaced
  deriving DecidableEq, Repr

structure ListenerChange where
  tag : String
  change : ListenerChangeKind
  deriving DecidableEq, Repr

/-- The listeners a reload changed, from its report. -/
def listenerChanges (report : ReloadReport) : List ListenerChange :=
  report.inbounds.filterMap fun (tag, change) =>
    if change = "added" then some ⟨tag, .added⟩
    else if change = "removed" then some ⟨tag, .removed⟩
    else if change = "replaced" then some ⟨tag, .replaced⟩
    else none

inductive SwitchKind where
  | kernelSwitch
  | fullRestart (reasons : List String)
  deriving DecidableEq, Repr

/-- How the running configuration was replaced, and with what. -/
structure Switched where
  kind : SwitchKind
  /-- The configuration now running. -/
  translation : Translation
  listeners : List ListenerChange
  closed : Nat
  kept : Nat
  deriving DecidableEq

/-- The node a chain goes through: the first of its tags that is a node's. -/
def chainNode (running next : Translation) (chain : List String) : Option String :=
  chain.findSome? fun tag => next.tags.outboundNodes[tag]?.or running.tags.outboundNodes[tag]?

/-- The connections a switch from `running` to `next` closes: those through a
node `next` no longer has. -/
def closeOnSwitch (running next : Translation) (connections : List RuntimeConnection) : List Nat :=
  let remaining := next.tags.outboundNodes.values
  (connections.filter fun c =>
    (chainNode running next c.chain).any fun node => node ∉ remaining).map (·.id)

/-- Builds the configuration again from the current inputs. -/
abbrev Build := World → Except Error Translation

/-- Whether the translation carries the shared local proxy listener. -/
def hasLocalProxy (t : Translation) : Bool :=
  t.json.inboundsByTag.contains localProxyInboundTag

def maxU32 : Nat := 2 ^ 32 - 1

/-- After sail's reload took `next`: the connections of removed nodes go. -/
def hotSwitched (running next : Translation) (connections : List RuntimeConnection)
    (report : ReloadReport) : Task Switched := do
  let replacedRoutes ← Runtime.replacedRoutes
  modify (·.setLive ({ · with replacedRoutes }))
  let doomed := closeOnSwitch running next connections
  Prog.forEach doomed fun id => do
    let _ ← Runtime.closeConnection id
    pure ()
  -- One that is both doomed and rejected by the recheck counts once.
  let closed := (doomed ++ report.recheckClosed.map (·.1)).dedup
  let open_ ← Runtime.readConnections
  let left := match open_ with
    | .ok list => list
    | .error _ => []
  let kept := left.filter fun c => c.id ∉ closed
  return {
    kind := .kernelSwitch
    translation := next
    listeners := listenerChanges report
    closed := min closed.length maxU32
    kept := min kept.length maxU32 }

/-! ## Restart -/

/-- A start that fails with the shared local proxy listener goes on without
it; `first` is the configuration it was tried with. -/
def startOrLeaveOut (config : EngineConfig) (build : Build) (first : Translation) :
    Try (Translation × Except RuntimeError (Option NetworkSnapshot)) := do
  let started ← Runtime.start .first first.json
  match started with
  | .ok _ => return (first, started)
  | .error e =>
    if e.panicked then return (first, started)
    if ← leaveOutLocalProxy config then
      let translation ← liftExcept (build (← read))
      let again ← Runtime.start .withoutListener translation.json
      return (translation, again)
    else return (first, started)

/-- The start half of a restart: the listeners' ports are checked again now
that the old ones are closed. -/
def startNext (config : EngineConfig) (build : Build) : Try Translation := do
  prepareListeners config
  let translation ← liftExcept (build (← read))
  let (translation, started) ← startOrLeaveOut config build translation
  match started with
  | .ok _ => return translation
  | .error e => throw (← runtimeError config e)

/-- Neither configuration starts again: the instance is stopped. -/
def World.restartFailed (w : World) : World :=
  if !w.live.running then w
  else (w.settleLive fun live =>
    ({ live with running := false, run := live.run + 1 } : Live).clearRuntime).publish .coreStopped

/-- A new run of sail: what was read of the old one goes. -/
def World.restarted (w : World) (config : EngineConfig) (replacedRoutes : List String) : World :=
  w.settleLive fun live =>
    { ({ live with run := live.run + 1 } : Live).clearRuntime with
      replacedRoutes
      localProxyUnavailable := w.localProxyLeftOut config }

/-- What a restart does once a configuration runs again. -/
def restarted (config : EngineConfig) (reprobe : Bool) : Task Unit := do
  let replacedRoutes ← Runtime.replacedRoutes
  modify (·.restarted config replacedRoutes)
  networkStarted
  if reprobe then armReprobe config

/-- The running configuration is put back after `error`; it ends with `error`
either way. -/
def putBack (config : EngineConfig) (running : Translation) (reprobe : Bool) (error : Error) :
    Try Translation := do
  setLocalProxyLeftOut config (!hasLocalProxy running)
  match ← Runtime.start .back running.json with
  | .ok _ => do
    restarted config reprobe
    throw error
  | .error e => do
    let _ ← runtimeError config e
    modify World.restartFailed
    throw error

def restart (config : EngineConfig) (running : Translation) (build : Build) : Try Translation := do
  match ← Runtime.stop with
  | .error e => throw (← runtimeError config e)
  | .ok () => do
    let reprobe ← networkStopped
    localProxyStopped
    match ← ExceptT.lift (startNext config build).run with
    | .ok translation => do
      restarted config reprobe
      return translation
    | .error error => do
      let w ← read
      -- Panicked: Fatal, nothing to put back.
      if !w.live.running then throw error
      putBack config running reprobe error

/-- A stop and a start, sail's states in between kept from the instance. -/
def fullRestart (config : EngineConfig) (running : Translation) (build : Build)
    (reasons : List String) : Try Switched := do
  modify (·.setLive ({ · with restarting := true }))
  let result ← ExceptT.lift (restart config running build).run
  modify (·.setLive ({ · with restarting := false }))
  let translation ← liftExcept result
  return {
    kind := .fullRestart reasons
    translation
    listeners := []
    closed := 0
    kept := 0 }

/-- Switches the running runtime from `running` to `next`. Called under the
operation lock. -/
def switchTo (config : EngineConfig) (running next : Translation) (build : Build) :
    Try Switched := do
  let reasons := restartReasons running.json next.json
  if reasons ≠ [] then fullRestart config running build reasons
  else do
    -- Before the reload: sail closes a removed user's connections itself.
    let listed ← Runtime.readConnections
    let connections := match listed with
      | .ok list => list
      | .error _ => []
    match ← Runtime.reload next.json with
    | .ok report => hotSwitched running next connections report
    | .error e =>
      -- sail has the final word.
      if e.code = "needs_restart" ∨ e.code = "inbound_lost" then
        fullRestart config running build [e.code]
      else throw (← runtimeError config e)

/-- A reload switched kernels. -/
def kernelSwitched (revision : String) (switched : Switched) : Task Unit :=
  publish (.kernelSwitched revision switched.closed switched.kept 0)

end PpvpnCore
