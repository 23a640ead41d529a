import PpvpnCore.Engine.Switch

/-!
# apply, start and stop

and what the watcher does with the runtime's reports between calls.
-/

namespace PpvpnCore

open Lib

/-! ## The apply request -/

structure Pin where
  nodeId : String
  endpointKey : String
  deriving DecidableEq, Repr

/-- What `apply` takes; `profile` is what parsing its bytes gave. -/
structure ApplyRequest where
  profile : Except Error Profile
  routingMode : RoutingMode
  selectedNodeId : Option String
  pins : List Pin
  allowedRuleSetHosts : List String

structure ClearedPin where
  nodeId : String
  endpointKey : String
  reason : PinClearReason
  deriving DecidableEq, Repr

structure ApplyResult where
  /-- False: everything equals the live values, nothing was done. -/
  applied : Bool
  revision : String
  selectedNodeId : String
  selectionReset : Bool
  clearedPins : List ClearedPin
  switch : Option SwitchKind
  listeners : List ListenerChange
  deriving DecidableEq, Repr

def validatePins : (i : Nat) → List Pin → (pinned : List String) → Except Error Unit
  | _, [], _ => .ok ()
  | i, pin :: pins, pinned => do
    check (pin.nodeId ∉ pinned) (.invalid .pinsInvalid s!"pins[{i}].node_id"
      "a node may be pinned at most once")
    validatePins (i + 1) pins (pin.nodeId :: pinned)

/-- Decodes and validates a request, as `apply` does before it changes
anything. -/
def validateRequest [Crates] (request : ApplyRequest) (now : Int) : Except Error Profile := do
  let profile ← request.profile
  validate profile now
  if request.allowedRuleSetHosts ≠ [] then
    validateRuleSetHosts profile request.allowedRuleSetHosts
  validatePins 0 request.pins []
  return profile

/-- The host's selection if the profile has it, else the default; whether it
was reset. -/
def resolveSelection (request : ApplyRequest) (profile : Profile) : String × Bool :=
  match request.selectedNodeId with
  | some id =>
    if profile.nodes.any (·.id = id) then (id, false)
    else (profile.selection.defaultNodeId, true)
  | none => (profile.selection.defaultNodeId, false)

/-- Why the profile no longer has a pin. -/
def pinCleared (profile : Profile) (pin : Pin) : Option PinClearReason :=
  match profile.nodes.find? (·.id = pin.nodeId) with
  | none => some .nodeRemoved
  | some node =>
    if node.ingresses.any (·.endpointKey = pin.endpointKey) then none else some .ingressRemoved

/-- Pins the profile still has, and the others. -/
def resolvePins (profile : Profile) (pins : List Pin) :
    BTreeMap String String × List ClearedPin :=
  (pins.foldl (fun kept pin =>
    match pinCleared profile pin with
    | some _ => kept
    | none => kept.insert pin.nodeId pin.endpointKey) ∅,
   pins.filterMap fun pin =>
    (pinCleared profile pin).map (⟨pin.nodeId, pin.endpointKey, ·⟩))

/-! ## Parts of a call -/

def candidateFailed : String := "candidate validation or build failed"
def reloadRefused : String := "the runtime refused the new configuration"

/-- Sends `ReloadFailed` for an error and passes it on. -/
def orReloadFailed {α : Type} (message : String) (p : Try α) : Try α := do
  match ← ExceptT.lift p.run with
  | .ok a => return a
  | .error e => do
    publish (.reloadFailed e.code message)
    throw e

/-- The host's IPv6 now. A route that cannot be read keeps IPv6 as before. -/
def readHostIpv6 (config : EngineConfig) : Task Ipv6State := do
  if !config.platform.desktop then return {}
  let host ← probeIpv6
  let route := match host.route with
    | .ok route => route
    | .error _ => true
  return { ipv6 := host.available, noHostIpv6Route := host.available && !route }

/-- Probes the host's IPv6 for the next translation. -/
def probeHostIpv6 (config : EngineConfig) : Task Unit := do
  if config.role ≠ .tun then return
  let state ← readHostIpv6 config
  modify ({ · with host := state })

/-- The member a pin stands for, else the fallback group. -/
def reassertMember (t : Translation) (pins : BTreeMap String String) (nodeTag auto : String) :
    String :=
  let pinned := do
    let node ← t.tags.outboundNodes[nodeTag]?
    let key ← pins[node]?
    let members ← t.tags.members[nodeTag]?
    members.find? fun m => t.tags.ingressKeys[m]? = some key
  pinned.getD auto

/-- After a reload: the selection and the pins are set again from what was
applied. -/
def reassert (t : Translation) (selected : String) (pins : BTreeMap String String) :
    Task Unit := do
  if let some tag := t.tags.nodeTags[selected]? then
    let _ ← Runtime.select selectedTag tag
  Prog.forEach t.tags.groups.toList fun (nodeTag, auto) => do
    let _ ← Runtime.select nodeTag (reassertMember t pins nodeTag auto)
    pure ()

/-- What a read of the runtime puts into the snapshot. -/
def Live.refreshed (live : Live) (groups : Except RuntimeError (List GroupInfo))
    (traffic : Except RuntimeError RuntimeTraffic)
    (connections : Except RuntimeError (List RuntimeConnection)) : Live :=
  { live with
    groups := match groups with
      | .ok list => list.foldl (fun m g => m.insert g.tag g) ∅
      | .error _ => live.groups
    traffic := match traffic with
      | .ok traffic => traffic
      | .error _ => live.traffic
    connections := match connections with
      | .ok list => list
      | .error _ => live.connections }

/-- Reads the runtime's groups, traffic and connections into the snapshot,
unless the run it read them from is over. -/
def refresh : Task Unit := do
  let w ← read
  if !w.live.running then return
  let run := w.live.run
  let groups ← Runtime.readGroups
  let traffic ← Runtime.readTraffic
  let connections ← Runtime.readConnections
  modify fun w =>
    if !w.live.running || w.live.run ≠ run then w
    else w.setLive (·.refreshed groups traffic connections)

/-! ## Rule sets -/

/-- `Degraded` for each set without a copy. -/
def World.settleRuleSets (w : World) : World :=
  let unavailable := ((w.snapshot.getD []).filter (·.state = .unavailable)).map (·.id)
  if w.live.ruleSetsUnavailable ≠ unavailable then
    w.settleLive ({ · with ruleSetsUnavailable := unavailable })
  else w

/-- One set's state changed. -/
def onRuleSet (copy : SetCopy) : Task Unit := do
  publish (.ruleSetChanged copy.id copy.state.text copy.error)
  modify World.settleRuleSets

/-- The sets whose state is not the one of the snapshot before. -/
def changedSets (before after : List SetCopy) : List SetCopy :=
  after.filter fun copy => (before.find? (·.id = copy.id)).map (·.state) ≠ some copy.state

/-- After the translation made from `snapshot` took effect: it is what the next
ones use. -/
def activateRuleSets (snapshot : List SetCopy) (allowedHosts : List String) : Task Unit := do
  modify ({ · with inputs := { files := filesOf snapshot, allowedHosts } })
  let before ← inSection fun w => (w.snapshot.getD [], { w with snapshot := some snapshot })
  Prog.forEach (changedSets before snapshot) onRuleSet
  modify World.settleRuleSets

/-- The snapshot an apply translates with; `none` when `shutdown` began
meanwhile. -/
def prepareRuleSets (profile : Profile) (mode : RoutingMode) (allowedHosts : List String) :
    Task (Option (List SetCopy)) := do
  let w ← read
  if w.closing then return none
  let snapshot ← prepareSets (effectiveRouting profile mode).ruleSets allowedHosts true
  let w ← read
  if !w.closing then return some snapshot
  if ← selectRace then return none
  return some snapshot

/-! ## apply -/

/-- What the live facts say once a profile is applied. -/
def World.applied (w : World) (applied : Applied) (cleared : List ClearedPin) : World :=
  let w := w.settleLive ({ · with applied := some applied })
  let revision := applied.profile.revision
  cleared.foldl (fun w pin => w.publish
      (.nodeIngressPinCleared revision pin.nodeId pin.endpointKey pin.reason))
    (w.publish (.profileApplied revision))

/-- The configuration a candidate builds from the current inputs and the rule
sets prepared for it. -/
def buildWith [Crates] (config : EngineConfig) (profile : Profile) (mode : RoutingMode)
    (selected : String) (pins : BTreeMap String String) (files : BTreeMap String RuleSetFile) :
    Build :=
  fun w => translate profile { w.options config mode selected pins with ruleSets := files }

/-- A running instance takes the candidate. -/
def applyRunning (config : EngineConfig) (running translation : Translation) (build : Build)
    (revision selected : String) (pins : BTreeMap String String) : Try Switched := do
  let switched ← orReloadFailed reloadRefused (switchTo config running translation build)
  if switched.kind = .kernelSwitch then
    kernelSwitched revision switched
    reassert switched.translation selected pins
  return switched

/-- Not running: kept for start, so it must load. -/
def applyStopped (translation : Translation) : Try Unit := do
  match ← checkConfig translation.json with
  | .error e => throw (.new .coreOperationFailed false ("check: " ++ e))
  | .ok checked => orReloadFailed candidateFailed (liftExcept checked)

/-- The candidate is taken by what runs, or kept for a start. -/
def applyBuilt (config : EngineConfig) (running : Option Translation) (translation : Translation)
    (build : Build) (revision selected : String) (pins : BTreeMap String String) :
    Try (Option Switched) :=
  match running with
  | some running => do
    let switched ← applyRunning config running translation build revision selected pins
    return some switched
  | none => do
    applyStopped translation
    return none

/-- The translation a running instance runs. -/
def World.runningTranslation (w : World) : Option Translation :=
  if w.live.running then w.live.applied.map (·.translation) else none

/-- What a request asks to be applied, its selection and pins resolved. -/
def candidate (request : ApplyRequest) (profile : Profile) (translation : Translation) : Applied where
  profile
  mode := request.routingMode
  selected := (resolveSelection request profile).1
  pins := (resolvePins profile request.pins).1
  translation

def applyResult (request : ApplyRequest) (profile : Profile) (applied : Bool)
    (switched : Option Switched) : ApplyResult where
  applied
  revision := profile.revision
  selectedNodeId := (resolveSelection request profile).1
  selectionReset := (resolveSelection request profile).2
  clearedPins := (resolvePins profile request.pins).2
  switch := switched.map (·.kind)
  listeners := (switched.map (·.listeners)).getD []

/-- The configuration a request's candidate builds from the current inputs and
the rule sets prepared for it. -/
def buildCandidate [Crates] (config : EngineConfig) (request : ApplyRequest) (profile : Profile)
    (snapshot : List SetCopy) : Build :=
  buildWith config profile request.routingMode (resolveSelection request profile).1
    (resolvePins profile request.pins).1 (filesOf snapshot)

/-- What follows once a request's translation took effect. -/
def applyTaken (request : ApplyRequest) (profile : Profile) (snapshot : List SetCopy)
    (running : Bool) (translation : Translation) : Task Unit := do
  modify (·.applied (candidate request profile translation) (resolvePins profile request.pins).2)
  activateRuleSets snapshot request.allowedRuleSetHosts
  if running then refresh

/-- `apply` under the operation lock, its rule sets prepared. -/
def applyLocked [Crates] (config : EngineConfig) (request : ApplyRequest) (profile : Profile)
    (snapshot : List SetCopy) : Try ApplyResult := do
  admitCall
  let running := (← read).runningTranslation
  probeHostIpv6 config
  let build := buildCandidate config request profile snapshot
  let translation ← orReloadFailed candidateFailed (liftExcept (build (← read)))
  let switched ← applyBuilt config running translation build profile.revision
    (resolveSelection request profile).1 (resolvePins profile request.pins).1
  applyTaken request profile snapshot running.isSome
    ((switched.map (·.translation)).getD translation)
  return applyResult request profile true switched

/-- The dedupe against the live values, select and pin included. -/
def World.unchanged (w : World) (request : ApplyRequest) (profile : Profile) : Bool :=
  w.live.applied.any fun a =>
    a.profile.revision = profile.revision && a.mode = request.routingMode &&
      a.selected = (resolveSelection request profile).1 &&
      a.pins = (resolvePins profile request.pins).1

/-- Applies a profile with the host's routing mode, selection and pins. -/
def apply [Crates] (config : EngineConfig) (request : ApplyRequest) : Try ApplyResult := do
  admitCall
  let now ← utcNow
  let profile ← orReloadFailed candidateFailed (liftExcept (validateRequest request now))
  let hosts ← read
  let w ← read
  if hosts.inputs.allowedHosts = request.allowedRuleSetHosts && w.unchanged request profile then
    return applyResult request profile false none
  -- Downloads run before the operation lock.
  match ← prepareRuleSets profile request.routingMode request.allowedRuleSetHosts with
  | none => throw shutDownError
  | some snapshot => locked (applyLocked config request profile snapshot)

/-! ## start and stop -/

/-- The configuration the applied profile builds from the current inputs. -/
def buildApplied [Crates] (config : EngineConfig) (a : Applied) : Build :=
  fun w => translate a.profile (w.options config a.mode a.selected a.pins)

/-- What the live facts say once the runtime started. -/
def World.started (w : World) (config : EngineConfig) (replacedRoutes : List String)
    (translation : Translation) : World :=
  (w.settleLive fun live =>
    { live with
      running := true
      run := live.run + 1
      replacedRoutes
      localProxyUnavailable := w.localProxyLeftOut config
      applied := live.applied.map ({ · with translation }) }).publish .coreStarted

/-- `start` under the operation lock, not running. -/
def startPhases [Crates] (config : EngineConfig) : Try Unit := do
  let w ← read
  match w.live.applied with
  | none => throw notApplied
  | some a => do
    -- The listeners' ports may have been taken while stopped.
    prepareListeners config
    probeHostIpv6 config
    -- Translated again: select and pin may have moved since the apply.
    let build := buildApplied config a
    let translation ← liftExcept (build (← read))
    modify (·.setLive ({ · with needsStop := true }))
    let (translation, started) ← startOrLeaveOut config build translation
    match started with
    | .error e => throw (← runtimeError config e)
    | .ok _ => do
      let replacedRoutes ← Runtime.replacedRoutes
      modify (·.started config replacedRoutes translation)
      networkStarted
      refresh

def start [Crates] (config : EngineConfig) : Try Unit := do
  admitCall
  locked do
    admitCall
    let w ← read
    if w.live.running then return
    startPhases config

/-- What the live facts say once the runtime stopped. -/
def World.stopped (w : World) : World :=
  (w.settleLive fun live =>
    ({ live with running := false, needsStop := false, run := live.run + 1 } : Live).clearRuntime
  ).publish .coreStopped

def stopLocked (config : EngineConfig) : Try Unit := do
  admitCall
  let w ← read
  if !w.live.running then return
  match ← Runtime.stop with
  | .error e => throw (← runtimeError config e)
  | .ok () => do
    let _ ← networkStopped
    localProxyStopped
    modify World.stopped

def stop (config : EngineConfig) : Try Unit := do
  admitCall
  locked (stopLocked config)

/-! ## The watcher -/

/-- A node's fallback group failing over, unless pinned. -/
def World.onSwitch (w : World) (switch : GroupSwitch) : World :=
  if !w.live.running then w
  else match w.live.applied with
    | none => w
    | some a =>
      let t := a.translation.tags
      let node := (t.groups.toList.find? fun (_, auto) => auto = switch.group).bind
        fun (nodeTag, _) => t.outboundNodes[nodeTag]?
      match node, t.ingressKeys[switch.before]?, t.ingressKeys[switch.after]? with
      | some nodeId, some before, some after =>
        if a.pins.contains nodeId then w
        else (w.setLive fun live =>
            { live with switched := live.switched.insert nodeId before }).publish
          (.nodeIngressSwitched nodeId after before)
      | _, _, _ => w

def onSwitch (switch : GroupSwitch) : Task Unit := do
  refresh
  modify (·.onSwitch switch)

/-- The runtime ended on its own while running: Fatal. -/
def World.onRuntimeState (w : World) (state : RuntimeState) : World :=
  match state with
  | .failed code _ =>
    if !w.live.running || w.live.fatal.isSome || (w.live.restarting && code ≠ "panicked") then w
    else w.settleLive fun live =>
      { ({ live with running := false, run := live.run + 1 } : Live).clearRuntime with
        fatal := some (if code = "panicked" then .panic else .kernelUnrecoverable) }
  | _ => w

def onRuntimeState (state : RuntimeState) : Task Unit := modify (·.onRuntimeState state)

inductive TunRoutingSignal where
  | restoring
  | unguarded
  | restored (missing : List String)
  | broken (missing : List String) (error : String)
  | changed (missing : List String) (error : String)
  deriving DecidableEq, Repr

/-- The TUN routing guard's report, or sail's word that another program changed
the routing. -/
def World.onTunRouting (w : World) (signal : TunRoutingSignal) : World :=
  match signal with
  | .restoring => w.settleLive ({ · with tunRouting := some .restoring })
  | .unguarded => w.settleLive ({ · with tunRouting := some .unguarded })
  | .restored missing =>
    (w.publish (.tunRoutingRestored missing)).settleLive ({ · with tunRouting := none })
  | .changed missing error =>
    (w.publish (.tunRoutingBroken missing error)).settleLive fun live =>
      { live with
        tunRouting := some .broken
        tunRoutingMissing := missing.foldl
          (fun known r => if r ∈ known then known else known ++ [r]) live.tunRoutingMissing }
  | .broken missing error =>
    (w.publish (.tunRoutingBroken missing error)).settleLive fun live =>
      { live with fatal := live.fatal.or (some (.tunRoutingBroken missing)) }

/-- The guard's follower: nothing once the instance no longer runs. -/
def onTunRouting (signal : TunRoutingSignal) : Task Unit := do
  let w ← read
  if w.live.running then modify (·.onTunRouting signal)

end PpvpnCore
