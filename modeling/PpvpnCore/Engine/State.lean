import PpvpnCore.Engine.LocalProxy

/-!
# What an instance holds between calls

The state machine of an instance and everything its calls share: the facts
under the live lock (`Live`), the listeners, the network's track, the rule set
inputs, the events sent so far and the runtime beneath. `Live.stateNow` is the
state the facts make, `World.settle` reports it.

Times of day are left out: nothing here depends on them.
-/

namespace PpvpnCore

/-! ## Status -/

inductive TunRouting where
  | ok | restoring | unguarded | broken
  deriving DecidableEq, Repr

inductive FatalReason where
  | tunRoutingBroken (missing : List String)
  | panic
  | kernelUnrecoverable
  deriving DecidableEq, Repr

inductive DegradedReason where
  | noDefaultInterface
  | tunRoutingRestoring
  | tunRoutingUnguarded
  | tunRoutingBroken (missing : List String)
  | localProxyUnavailable
  | ruleSetUnavailable (ruleSetId : String)
  deriving DecidableEq, Repr

inductive EngineState where
  | stopped
  | configured
  | running
  | degraded (reasons : List DegradedReason)
  | fatal (reason : FatalReason)
  deriving DecidableEq, Repr

structure SystemProxyStatus where
  available : Bool
  enabled : Bool
  listening : Bool
  listen : String
  port : UInt16
  protocols : List String
  deriving DecidableEq, Repr

inductive PinClearReason where
  | nodeRemoved | ingressRemoved
  deriving DecidableEq, Repr

inductive Event where
  | stateChanged (state previous : EngineState)
  | profileApplied (revision : String)
  | reloadFailed (code : Code) (message : String)
  | coreStarted
  | coreStopped
  | nodeSelected (revision nodeId : String)
  | nodeIngressSwitched (nodeId endpointKey previousEndpointKey : String)
  | nodeIngressPinned (nodeId endpointKey : String)
  | nodeIngressPinCleared (revision nodeId endpointKey : String) (reason : PinClearReason)
  | ruleSetChanged (ruleSetId message code : String)
  | systemProxyChanged (revision message : String)
  | localProxyEndpointChanged (listen : String) (port : UInt16)
  | kernelSwitched (revision : String) (closedConnections keptConnections drainingKernels : Nat)
  | networkChanged (hasDefaultInterface : Bool) (interfaceName : String) (interfaceIndex : Nat)
  | tunRoutingBroken (missing : List String) (error : String)
  | tunRoutingRestored (missing : List String)
  deriving DecidableEq, Repr

/-! ## The configuration of an instance -/

inductive Role where
  | standard | tun
  deriving DecidableEq, Repr

inductive Platform where
  | linux | macos | windows | ios | android
  deriving DecidableEq, Repr

structure LocalProxyConfig where
  listen : String := loopback
  preferredPort : UInt16 := 7890
  deriving DecidableEq, Repr

inductive LogLevel where
  | info | debug
  deriving DecidableEq, Repr

structure EngineConfig where
  role : Role
  platform : Platform
  /-- Standard only: the shared local proxy. -/
  localProxy : Option LocalProxyConfig
  /-- Standard only: whether the system proxy listener may be turned on. -/
  systemProxy : Bool
  logLevel : LogLevel
  /-- Where dns-local asks: the core's own listener since `new`, else sail's
  servers. -/
  localDns : LocalDns
  deriving DecidableEq, Repr

/-- Desktop TUNs own the default route; mobile hosts build the tunnel. -/
def Platform.desktop : Platform → Bool
  | .linux | .macos | .windows => true
  | .ios | .android => false

def interfaceName : Platform → String
  | .linux => "ppvpn0"
  | .windows => "PPVPN"
  | _ => ""

/-! ## The runtime -/

/-- sail's error: its stable code and message. -/
structure RuntimeError where
  code : String
  message : String
  deriving DecidableEq, Repr

def RuntimeError.panicked (e : RuntimeError) : Bool := e.code = "panicked"

/-- The Engine's error for a lifecycle or query call. -/
def RuntimeError.toError (e : RuntimeError) : Error :=
  let text := "sail " ++ e.code ++ ": " ++ e.message
  if e.code = "panicked" then .new .corePanicked false text
  else if e.code = "not_running" then .new .coreNotRunning false text
  else if e.code = "timeout" ∨ e.code = "io" then .new .coreOperationFailed true text
  else if e.code = "tun_name_taken" then .new .tunNameTaken false text
  else .new .coreOperationFailed false text

/-- A TUN name taken is retryable where sail chose it. -/
def RuntimeError.toErrorOn (e : RuntimeError) (platform : Platform) : Error :=
  let error := e.toError
  if error.code = .tunNameTaken then { error with retryable := interfaceName platform = "" }
  else error

inductive RuntimeState where
  | idle | starting | running | stopping | stopped
  | failed (code message : String)
  deriving DecidableEq, Repr

structure GroupInfo where
  tag : String
  /-- The member in use now. -/
  now : String
  deriving DecidableEq, Repr

/-- A group moved from one member to another. -/
structure GroupSwitch where
  group : String
  before : String
  after : String
  deriving DecidableEq, Repr

structure RuntimeTraffic where
  uploadBytes : Nat := 0
  downloadBytes : Nat := 0
  deriving DecidableEq, Repr

/-- An open connection and the outbounds it was routed through, outermost
first. -/
structure RuntimeConnection where
  id : Nat
  chain : List String
  deriving DecidableEq, Repr

/-- The network as sail sees it. -/
structure NetworkSnapshot where
  interface : Option String
  index : Option Nat
  offline : Bool
  deriving DecidableEq, Repr

inductive ChangeKind where
  | interfaceChanged | moved | offline | restored
  deriving DecidableEq, Repr

/-- A change of network sail acts on; generations count from 1 at each start. -/
structure NetworkChange where
  generation : Nat
  change : ChangeKind
  old : NetworkSnapshot
  new : NetworkSnapshot
  deriving DecidableEq, Repr

structure ReloadReport where
  /-- By tag: `untouched`, `reloaded`, `added`, `removed` or `replaced`. -/
  inbounds : List (String × String)
  /-- The connections the new rules reject, with the rule's index. -/
  recheckClosed : List (Nat × Option Nat)
  /-- The connections sail closed with a listener or user it removed. -/
  dropped : List Nat
  deriving DecidableEq, Repr

/-- What sail runs. `run` counts its starts; the last three are history: what
the last listing told, what the engine closed, and what sail said of the
network in this run. -/
structure Runtime where
  config : Option Config := none
  /-- Selector → the member it is on. -/
  selected : BTreeMap String String := ∅
  connections : List RuntimeConnection := []
  network : Option NetworkSnapshot := none
  run : Nat := 0
  listed : List RuntimeConnection := []
  closed : List RuntimeConnection := []
  offlineFacts : List Bool := []

/-! ## The facts under the live lock -/

/-- The applied profile and the host's choices on top of it. -/
structure Applied where
  profile : Profile
  mode : RoutingMode
  selected : String
  pins : BTreeMap String String
  translation : Translation
  deriving DecidableEq

def Applied.node (a : Applied) (id : String) : Option Node :=
  a.profile.nodes.find? (·.id = id)

structure Live where
  shutDown : Bool := false
  fatal : Option FatalReason := none
  applied : Option Applied := none
  running : Bool := false
  /-- Bumped on every start and stop. -/
  run : Nat := 0
  offline : Bool := false
  ruleSetsUnavailable : List String := []
  /-- A full restart is under way. -/
  restarting : Bool := false
  /-- The runtime was started and not stopped since. -/
  needsStop : Bool := false
  tunRouting : Option TunRouting := none
  tunRoutingMissing : List String := []
  localProxyUnavailable : Bool := false
  /-- The state last reported. -/
  state : EngineState := .stopped
  groups : BTreeMap String GroupInfo := ∅
  /-- node id → the ingress its group left last. -/
  switched : BTreeMap String String := ∅
  traffic : RuntimeTraffic := {}
  connections : List RuntimeConnection := []
  replacedRoutes : List String := []

namespace Live

/-- Why a running instance is degraded, in the order of the report. -/
def reasons (live : Live) : List DegradedReason :=
  (if live.offline then [.noDefaultInterface] else []) ++
  (match live.tunRouting with
    | some .restoring => [.tunRoutingRestoring]
    | some .unguarded => [.tunRoutingUnguarded]
    | some .broken => [.tunRoutingBroken live.tunRoutingMissing]
    | some .ok | none => []) ++
  (if live.localProxyUnavailable then [.localProxyUnavailable] else []) ++
  live.ruleSetsUnavailable.map .ruleSetUnavailable

/-- The state these facts make. -/
def stateNow (live : Live) : EngineState :=
  if live.shutDown then .stopped
  else match live.fatal with
    | some reason => .fatal reason
    | none =>
      if live.applied.isNone then .stopped
      else if !live.running then .configured
      else if live.reasons = [] then .running
      else .degraded live.reasons

/-- Forgets what only a running runtime knows. -/
def clearRuntime (live : Live) : Live :=
  { live with
    groups := ∅
    connections := []
    replacedRoutes := []
    tunRouting := none
    tunRoutingMissing := []
    localProxyUnavailable := false
    switched := ∅ }

end Live

/-! ## Rule sets -/

/-- The digest's state of a set's copy. -/
inductive State where
  /-- The copy matches the profile's digest and is in use. -/
  | ready
  /-- An earlier verified copy is in use. -/
  | stale
  | unavailable
  deriving DecidableEq, Repr

/-- What a snapshot of the rule sets tells the engine about one set. -/
structure SetCopy where
  id : String
  state : State
  /-- The error code, empty when ready. -/
  error : String
  file : Option RuleSetFile
  deriving DecidableEq, Repr

def State.text : State → String
  | .ready => "ready"
  | .stale => "stale"
  | .unavailable => "unavailable"

/-- The verified copy of every set that has one. -/
def filesOf (snapshot : List SetCopy) : BTreeMap String RuleSetFile :=
  snapshot.foldl (fun files copy =>
    match copy.state, copy.file with
    | .unavailable, _ | _, none => files
    | _, some file => files.insert copy.id file) ∅

/-- What the configuration uses of the rule sets: the copies of the last
snapshot made current, and the hosts their URLs are pinned to. -/
structure RuleSetInputs where
  files : BTreeMap String RuleSetFile := ∅
  allowedHosts : List String := []
  deriving DecidableEq

/-! ## The host's IPv6 -/

structure HostIpv6 where
  available : Bool
  route : Except String Bool

/-- The host's IPv6 as a TUN build uses it. -/
structure Ipv6State where
  ipv6 : Bool := false
  noHostIpv6Route : Bool := false
  deriving DecidableEq, Repr

/-! ## The network's track -/

/-- What the engine follows of sail's network in this run. -/
structure Track where
  /-- The last change's generation; 0 before the first. -/
  generation : Nat := 0
  last : Option NetworkSnapshot := none
  /-- A re-probe timer sleeps. -/
  timer : Bool := false
  armed : Nat := 0
  deriving DecidableEq, Repr

/-! ## The whole -/

/-- Everything the calls and tasks of one instance share. -/
structure World where
  live : Live := {}
  proxies : Option Proxies := none
  track : Track := {}
  /-- The last probe of the host's IPv6. -/
  host : Ipv6State := {}
  inputs : RuleSetInputs := {}
  /-- The manager's current snapshot. -/
  snapshot : Option (List SetCopy) := none
  /-- `shutdown` began. -/
  closing : Bool := false
  /-- Every event sent, in order. -/
  events : List Event := []
  runtime : Runtime := {}

namespace World

def publish (w : World) (event : Event) : World :=
  { w with events := w.events ++ [event] }

/-- Reports the state the facts now make, if it changed. -/
def settle (w : World) : World :=
  let state := w.live.stateNow
  if state ≠ w.live.state then
    { w with
      live := { w.live with state }
      events := w.events ++ [.stateChanged state w.live.state] }
  else w

/-! A report changes the state on record and the events alone. -/

theorem settle_live (w : World) : w.settle.live = { w.live with state := w.live.stateNow } := by
  unfold settle
  dsimp only
  split
  next => rfl
  next same => rw [not_not.mp same]

@[simp] theorem settle_proxies (w : World) : w.settle.proxies = w.proxies := by
  unfold settle
  dsimp only
  split <;> rfl

@[simp] theorem settle_track (w : World) : w.settle.track = w.track := by
  unfold settle
  dsimp only
  split <;> rfl

@[simp] theorem settle_inputs (w : World) : w.settle.inputs = w.inputs := by
  unfold settle
  dsimp only
  split <;> rfl

@[simp] theorem settle_snapshot (w : World) : w.settle.snapshot = w.snapshot := by
  unfold settle
  dsimp only
  split <;> rfl

@[simp] theorem settle_runtime (w : World) : w.settle.runtime = w.runtime := by
  unfold settle
  dsimp only
  split <;> rfl

theorem settle_events (w : World) : w.events <+: w.settle.events := by
  unfold settle
  dsimp only
  split
  · exact List.prefix_append _ _
  · exact List.prefix_rfl

end World

end PpvpnCore
