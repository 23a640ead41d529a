import PpvpnCore.Lib.Pool
import PpvpnCore.Profile.Valid
import PpvpnCore.Engine.Lifecycle

/-!
# The other calls of an instance

The selection and the pins, the listener toggle and the retries of the shared
listener, the rebuilds the engine starts itself, and the end of the instance.
`Op` gathers everything an instance may be asked or told; `Op.task` is the task
each of them is.
-/

namespace PpvpnCore

open Lib

/-! ## Selection and pins -/

def nodeNotFound : Error :=
  .invalid .nodeNotFound "node_id" "the profile has no node with this id"

def ingressNotFound : Error :=
  .invalid .ingressNotFound "endpoint_key" "the node has no ingress with this endpoint_key"

/-- What is applied changes, with its event. -/
def World.updateApplied (w : World) (f : Applied → Applied × Event) : Except Error Unit × World :=
  match w.live.applied with
  | none => (.error notApplied, w)
  | some a =>
    (.ok (), (w.setLive ({ · with applied := some (f a).1 })).publish (f a).2)

def selectNode (config : EngineConfig) (nodeId : String) : Try Unit := do
  admitCall
  locked do
    admitCall
    let w ← read
    let applied ← liftExcept (w.live.applied.elim (.error notApplied) .ok)
    if (applied.node nodeId).isNone then throw nodeNotFound
    if w.live.running then
      if let some tag := applied.translation.tags.nodeTags[nodeId]? then
        if let .error e ← Runtime.select selectedTag tag then throw (← runtimeError config e)
    ExceptT.mk <| inSection fun w => w.updateApplied fun a =>
      ({ a with selected := nodeId }, .nodeSelected a.profile.revision nodeId)
    refresh

/-- A multi-ingress node's selector and the member a pin selects: the ingress,
or the fallback group. None for a single-ingress node. -/
def groupMember (applied : Applied) (nodeId : String) (endpointKey : Option String) :
    Option (String × String) := do
  let t := applied.translation.tags
  let selector ← t.nodeTags[nodeId]?
  let auto ← t.groups[selector]?
  let member ← match endpointKey with
    | none => some auto
    | some key => do
      let members ← t.members[selector]?
      members.find? fun m => t.ingressKeys[m]? = some key
  return (selector, member)

def setPin (pins : BTreeMap String String) (nodeId : String) : Option String → BTreeMap String String
  | some key => pins.insert nodeId key
  | none => pins.erase nodeId

def pinIngress (config : EngineConfig) (nodeId : String) (endpointKey : Option String) :
    Try Unit := do
  admitCall
  locked do
    admitCall
    let w ← read
    let applied ← liftExcept (w.live.applied.elim (.error notApplied) .ok)
    let node ← liftExcept ((applied.node nodeId).elim (.error nodeNotFound) .ok)
    if endpointKey.any fun key => !node.ingresses.any (·.endpointKey = key) then
      throw ingressNotFound
    -- A single-ingress node has no group: the pin is only kept.
    if w.live.running then
      if let some (selector, member) := groupMember applied nodeId endpointKey then
        if let .error e ← Runtime.select selector member then throw (← runtimeError config e)
    ExceptT.mk <| inSection fun w => w.updateApplied fun a =>
      ({ a with pins := setPin a.pins nodeId endpointKey },
        .nodeIngressPinned nodeId (endpointKey.getD ""))
    refresh

/-! ## Listeners -/

/-- What follows a translation that took effect without an apply. -/
def World.translated (w : World) (translation : Translation) : World :=
  w.setLive fun live => { live with applied := live.applied.map ({ · with translation }) }

/-- While running: the system proxy listener alone is added or removed. -/
def toggleListener [Crates] (config : EngineConfig) (a : Applied) : Try Unit := do
  let translation ← liftExcept (buildApplied config a (← read))
  if let .error e ← Runtime.reload translation.json then throw (← runtimeError config e)
  modify (·.translated translation)

/-- The toggle itself: `none` when it is as asked already. -/
def Proxies.toggle (p : Proxies) (enabled : Bool) (answers : PortAnswers) :
    Except Error Bool × Proxies :=
  if p.systemProxy = enabled then (.ok false, p)
  else if enabled then
    match p.state.systemProxyPort true answers with
    | (.ok port, state) =>
      (.ok true, { p with state, systemPort := port, systemProxy := true })
    | (.error e, state) => (.error (startFailed e), { p with state })
  else (.ok true, { p with systemProxy := false })

def setSystemProxyListenerLocked [Crates] (config : EngineConfig) (enabled : Bool) :
    Try SystemProxyStatus := do
  admitCall
  let w ← read
  let running := w.live.running
  let answers ← probePorts
  let toggled ← ExceptT.mk <| inSection fun w =>
    match w.proxies with
    | none => (.error systemProxyUnavailable, w)
    | some p =>
      let (toggled, p) := p.toggle enabled answers
      (toggled, { w with proxies := some p })
  if !toggled then
    return (← read).systemProxyStatus config running
  if let (true, some a) := (running, w.live.applied) then
    if let .error e ← ExceptT.lift (toggleListener config a).run then
      modify fun w => { w with proxies := w.proxies.map ({ · with systemProxy := !enabled }) }
      throw (if enabled && e.code ≠ .corePanicked then startFailed e else e)
  publish (.systemProxyChanged (w.live.applied.elim "" (·.profile.revision))
    (if enabled then "enabled" else "disabled"))
  return (← read).systemProxyStatus config running

/-- Turns the system proxy listener on or off. -/
def setSystemProxyListener [Crates] (config : EngineConfig) (enabled : Bool) :
    Try SystemProxyStatus := do
  admitCall
  if config.role ≠ .standard || !config.systemProxy then throw systemProxyUnavailable
  locked (setSystemProxyListenerLocked config enabled)

/-- One retry of the shared listener: the ports first. -/
def World.retryPort (w : World) (answers : PortAnswers) : Option Moved × World :=
  match w.proxies with
  | none => (none, w)
  | some p =>
    match p.reconcile answers with
    | (.ok moved, p) => (some moved, { w with proxies := some { p with unavailable := false } })
    | (.error _, p) => (none, { w with proxies := some p })

/-- The configuration with the listener back; whether it took effect. -/
def reopen [Crates] (config : EngineConfig) (a : Applied) : Task Unit := do
  let opened ← (do
    let translation ← liftExcept (buildApplied config a (← read))
    if let .error e ← Runtime.reload translation.json then throw (← runtimeError config e)
    return translation : Try Translation).run
  match opened with
  | .error _ =>
    modify fun w => { w with proxies := w.proxies.map ({ · with unavailable := true }) }
  | .ok translation =>
    modify fun w => w.settleLive fun live =>
      { live with
        localProxyUnavailable := false
        applied := live.applied.map ({ · with translation }) }

/-- One retry of the shared listener in run `run`. -/
def openLocalProxy [Crates] (config : EngineConfig) (run : Nat) : Task Unit :=
  Prog.withLock do
    let w ← read
    if let some a := w.live.applied then
      if w.live.running && !w.live.shutDown && w.live.run = run then
        let answers ← probePorts
        if let some moved ← inSection (·.retryPort answers) then
          publishMoved moved
          reopen config a

/-! ## Rebuilds -/

/-- An expired profile is not built again. -/
def expired (profile : Profile) (now : Int) : Option Error :=
  profile.expiresAt.bind fun expires =>
    if now ≥ expires then
      some (.new .profileExpired false "the applied profile has expired")
    else none

def rebuildFailed (error : Error) (message : String) : Task Unit :=
  publish (.reloadFailed error.code message)

/-- A rebuild's own switch. -/
def rebuildSwitch (config : EngineConfig) (a : Applied) (running : Bool) (build : Build) :
    Try Translation := do
  let translation ← liftExcept (build (← read))
  if running then
    let switched ← switchTo config a.translation translation build
    if switched.kind = .kernelSwitch then kernelSwitched a.profile.revision switched
    return switched.translation
  else return translation

/-- The applied profile built again from the cached copies of its sets. -/
def rebuildCached [Crates] (config : EngineConfig) (a : Applied) (running : Bool) : Task Unit := do
  let allowedHosts := (← read).inputs.allowedHosts
  let snapshot ← prepareSets (effectiveRouting a.profile a.mode).ruleSets allowedHosts false
  let build := buildWith config a.profile a.mode a.selected a.pins (filesOf snapshot)
  match ← (rebuildSwitch config a running build).run with
  | .error error => rebuildFailed error "rule set rebuild failed"
  | .ok translation =>
    modify (·.translated translation)
    activateRuleSets snapshot allowedHosts
    if running then refresh

/-- The refresh task changed which sets can be used. -/
def rebuildRuleSets [Crates] (config : EngineConfig) : Task Unit :=
  Prog.withLock do
    let w ← read
    if w.live.shutDown then return
    match w.live.applied with
    | none => return
    | some a =>
      if let some error := expired a.profile (← utcNow) then
        rebuildFailed error "rule set rebuild failed"
      else rebuildCached config a w.live.running

/-- After a re-probe's switch. -/
def reprobeSwitched (switched : Switched) : Task Unit := do
  let revision ← inSection fun w =>
    (w.live.applied.map (·.profile.revision), w.translated switched.translation)
  if let some revision := revision then
    if switched.kind = .kernelSwitch then kernelSwitched revision switched
    refresh

/-- The running profile built again for the host's IPv6 as just probed. -/
def reprobed [Crates] (config : EngineConfig) (a : Applied) (state : Ipv6State) : Task Unit := do
  modify ({ · with host := state })
  let build := buildApplied config a
  let .ok translation := build (← read) | return
  let w ← read
  match w.live.applied with
  | none => return
  | some now =>
    match ← (switchTo config now.translation translation build).run with
    | .error _ => return
    | .ok switched => reprobeSwitched switched

/-- A re-probe under the operation lock. -/
def reprobeLocked [Crates] (config : EngineConfig) : Task Unit := do
  let w ← read
  if w.live.offline || !w.live.running || w.live.shutDown || w.live.fatal.isSome then return
  match w.live.applied with
  | none => return
  | some a =>
    let state ← readHostIpv6 config
    if !state.ipv6 || state.noHostIpv6Route = a.translation.tags.directIpv6HandOff then return
    if let some error := expired a.profile (← utcNow) then
      rebuildFailed error "host ipv6 rebuild failed"
    else reprobed config a state

/-- The default interface changed: the host's IPv6 path is probed again and,
when it differs from the running build's, the configuration is built again. -/
def reprobeHostIpv6 [Crates] (config : EngineConfig) : Task Unit := do
  if config.role ≠ .tun || !config.platform.desktop then return
  match ← admitCall.run with
  | .error _ => return
  | .ok () => Prog.withLock (reprobeLocked config)

/-! ## The end of the instance -/

/-- A runtime that failed or panicked is stopped at once. -/
def fatalCleanup : Task Unit := do
  let _ ← Runtime.stop
  modify (·.setLive ({ · with needsStop := false }))

/-- The live facts once the instance is shut down. -/
def World.shutDown (w : World) : World :=
  if w.live.shutDown then w
  else w.settleLive fun live =>
    ({ live with shutDown := true, running := false } : Live).clearRuntime

/-- `shutdown` once it holds the operation lock or its limit passed. -/
def shutdownBody : Task Unit := do
  let w ← read
  let _ ← networkStopped
  localProxyStopped
  if w.live.running || w.live.needsStop then
    let _ ← Runtime.stop
    pure ()
  Prog.update .shutDown World.shutDown

/-- Stops the whole instance. A call in flight finishes first, within the
limit. -/
def shutdown : Task Unit := do
  modify ({ · with closing := true })
  .lock true fun
    | true => do
      shutdownBody
      .unlock (.ret ())
    | false => shutdownBody

/-! ## Everything an instance does -/

/-- The listeners of an instance that may have one, with the state on disk. -/
def Proxies.opened (config : EngineConfig) (state : LocalProxyState) : Option Proxies :=
  if config.role = .standard && (config.localProxy.isSome || config.systemProxy) then
    some { state, systemProxy := false, systemPort := 0, unavailable := false }
  else none

/-- An instance as it was created. -/
def World.new (config : EngineConfig) (state : LocalProxyState) : World :=
  { proxies := Proxies.opened config state }

inductive Op where
  | apply (request : ApplyRequest)
  | start
  | stop
  | selectNode (nodeId : String)
  | pinIngress (nodeId : String) (endpointKey : Option String)
  | setSystemProxyListener (enabled : Bool)
  | openLocalProxy (run : Nat)
  | rebuildRuleSets
  | reprobeHostIpv6
  /-- sail reports a change; the watch keeps the latest only, so that it may go
  unseen. -/
  | onNetworkChange (change : NetworkChange) (seen : Bool)
  | onSwitch (switch : GroupSwitch)
  | onRuntimeState (state : RuntimeState)
  | onTunRouting (signal : TunRoutingSignal)
  /-- The refresh task put its result into the current snapshot. -/
  | onRuleSet (snapshot : List SetCopy) (copy : SetCopy)
  | fatalCleanup
  | shutdown

/-- Whether the call ended with an error, for those that may. -/
def Try.failed {α : Type} (p : Try α) : Task Bool := do
  match ← p.run with
  | .ok _ => return false
  | .error _ => return true

def Op.task [Crates] (config : EngineConfig) : Op → Task Bool
  | .apply request => (PpvpnCore.apply config request).failed
  | .start => (PpvpnCore.start config).failed
  | .stop => (PpvpnCore.stop config).failed
  | .selectNode nodeId => (PpvpnCore.selectNode config nodeId).failed
  | .pinIngress nodeId key => (PpvpnCore.pinIngress config nodeId key).failed
  | .setSystemProxyListener enabled => (PpvpnCore.setSystemProxyListener config enabled).failed
  | .openLocalProxy run => do
    -- The retries of a run without the shared listener, which end once it is open.
    let w ← read
    if w.localProxyLeftOut config then PpvpnCore.openLocalProxy config run
    return false
  | .rebuildRuleSets => do PpvpnCore.rebuildRuleSets config; return false
  | .reprobeHostIpv6 => do PpvpnCore.reprobeHostIpv6 config; return false
  | .onNetworkChange change seen => do
    let run ← networkReported change
    match run, seen with
    | some run, true => do PpvpnCore.onNetworkChange config run change; return false
    | _, _ => return false
  | .onSwitch switch => do PpvpnCore.onSwitch switch; return false
  | .onRuntimeState state => do PpvpnCore.onRuntimeState state; return false
  | .onTunRouting signal => do PpvpnCore.onTunRouting signal; return false
  | .onRuleSet snapshot copy => do
    modify fun w => if w.snapshot.isSome then { w with snapshot := some snapshot } else w
    PpvpnCore.onRuleSet copy
    return false
  | .fatalCleanup => do
    -- Spawned where the instance became Fatal and no longer runs.
    let w ← read
    if w.live.fatal.isSome && !w.live.running then PpvpnCore.fatalCleanup
    return false
  | .shutdown => do PpvpnCore.shutdown; return false

/-- A new instance and everything it is going to be asked or told, in any
order. -/
def serve [Crates] (config : EngineConfig) (state : LocalProxyState) (ops : List Op) :
    Pool World Place Answer Bool :=
  { state := .new config state, tasks := ops.map ({ prog := ·.task config }) }

/-! ## A small instance

with the small profile, on a machine where everything goes well. -/

def sampleConfig : EngineConfig where
  role := .standard
  platform := .linux
  localProxy := some {}
  systemProxy := true
  logLevel := .info
  localDns := .servers []

def sampleState : LocalProxyState where
  listen := loopback
  preferredPort := 7890
  systemPreferredPort := 7891
  state := ⟨2, "user", "password", 7890, 0⟩
  file := ⟨2, "user", "password", 7890, 0⟩

/-- The second node selected on its backup ingress. -/
def sampleRequest : ApplyRequest where
  profile := .ok sampleProfile
  routingMode := .rules
  selectedNodeId := some "b"
  pins := [⟨"b", "b-2"⟩]
  allowedRuleSetHosts := []

def calm : (c : Call) → Answer c
  | .start _ _ =>
    (.ok (some ⟨some "eth0", some 2, false⟩) : Except RuntimeError (Option NetworkSnapshot))
  | .reload _ => (.ok ⟨[], [], []⟩ : Except RuntimeError ReloadReport)
  | .stop => (.ok () : Except RuntimeError Unit)
  | .select _ _ => (.ok () : Except RuntimeError Unit)
  | .groups => (.ok [] : Except RuntimeError (List GroupInfo))
  | .traffic => (.ok {} : Except RuntimeError RuntimeTraffic)
  | .connections => (.ok [] : Except RuntimeError (List RuntimeConnection))
  | .closeConnection _ => (.ok true : Except RuntimeError Bool)
  | .replacedRoutes => ([] : List String)
  | .check _ => (.ok (.ok ()) : Except String (Except Error Unit))
  | .prepare _ _ _ => ([] : List SetCopy)
  | .race => true
  | .hostIpv6 => ({ available := true, route := .ok true } : HostIpv6)
  | .ports =>
    ({ first := ⟨fun _ _ => true, .ok 4000⟩
       second := ⟨fun _ _ => true, .ok 4000⟩
       write := .ok () } : PortAnswers)
  | .now => (0 : Int)

/-- Up to `n` steps of task `i`, its calls answered by `oracle`. -/
def stepsOf (i n : Nat) (oracle : (c : Call) → Answer c) : List (Move Answer) :=
  (List.replicate n [.go i, .answer i oracle]).flatten

end PpvpnCore
