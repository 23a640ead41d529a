import PpvpnCore.Engine.Task

/-!
# The listeners

The shared local proxy and the system proxy listener: what the translation gets
of them, the ports chosen again before a start, the listener left out of a run
that cannot open it. `World.options` gathers every input of a translation.
-/

namespace PpvpnCore

open Lib

def localProxyDisabled : Error :=
  .new .localProxyDisabled false "this instance has no local proxy"

def systemProxyUnavailable : Error :=
  .new .systemProxyUnavailable false "this instance cannot host the system proxy listener"

/-- The listener cannot be opened: no port, or the runtime refused it. -/
def startFailed (error : Error) : Error :=
  .new .systemProxyStartFailed true ("system proxy listener: " ++ error.message)

/-! ## Translation inputs -/

namespace World

/-- The local proxy's state, on an instance that has one. -/
def localProxy (w : World) (config : EngineConfig) : Option Proxies :=
  if config.localProxy.isSome then w.proxies else none

def localProxyLeftOut (w : World) (config : EngineConfig) : Bool :=
  (w.localProxy config).any (·.unavailable)

/-- The listener while turned on. -/
def systemProxyOptions (w : World) : Option UInt16 :=
  w.proxies.bind fun p => if p.systemProxy && p.systemPort ≠ 0 then some p.systemPort else none

/-- The TUN of a TUN instance, with the host's IPv6 as last probed. -/
def tunOptions (w : World) (config : EngineConfig) : Option Tun :=
  if config.role ≠ .tun then none
  else some
    { desktop := config.platform.desktop
      ipv6 := w.host.ipv6
      noHostIpv6Route := w.host.noHostIpv6Route
      interfaceName := interfaceName config.platform
      localDns := config.localDns }

/-- The translation inputs of this instance. -/
def options (w : World) (config : EngineConfig) (mode : RoutingMode) (selected : String)
    (pins : BTreeMap String String) : Options where
  mode
  selectedNodeId := some selected
  pins
  localProxy := (w.localProxy config).map (·.state.translateOptions)
  localProxyLeftOut := w.localProxyLeftOut config
  systemProxyPort := w.systemProxyOptions
  ruleSets := w.inputs.files
  healthCheck := {}
  tun := w.tunOptions config
  logLevel := match config.logLevel with
    | .info => "warn"
    | .debug => "debug"

/-- `status.system_proxy`: listening while running and turned on. -/
def systemProxyStatus (w : World) (config : EngineConfig) (running : Bool) : SystemProxyStatus :=
  let status : SystemProxyStatus :=
    ⟨config.role = .standard && config.systemProxy, false, false, "", 0, []⟩
  match w.proxies with
  | none => status
  | some p =>
    let status := { status with enabled := p.systemProxy }
    if p.systemProxy && p.systemPort ≠ 0 then
      { status with
        listen := loopback
        port := p.systemPort
        protocols := ["http", "socks5"]
        listening := running }
    else status

/-- The port `local_proxy_metadata` and the credentials report, on an instance
with a local proxy. -/
def localProxyPort (w : World) (config : EngineConfig) : Option UInt16 :=
  if config.role = .standard then (w.localProxy config).map (·.state.state.port) else none

end World

/-! ## Ports -/

/-- Where the shared listener moved to, if it did. -/
abbrev Moved := Option (String × UInt16)

def publishMoved : Moved → Task Unit
  | some (listen, port) => publish (.localProxyEndpointChanged listen port)
  | none => pure ()

/-- Before the shared listener opens: its port, moved when taken. -/
def Proxies.reconcile (p : Proxies) (answers : PortAnswers) : Except Error Moved × Proxies :=
  match p.state.reconcilePort answers with
  | (.ok moved, state) => (.ok (moved.map (state.listen, ·)), { p with state })
  | (.error e, state) => (.error e, { p with state })

/-- The shared port of a start: one that cannot be had leaves the listener
out. -/
def Proxies.prepareShared (p : Proxies) (shared : Bool) (answers : PortAnswers) :
    Moved × Proxies :=
  let p := { p with unavailable := false }
  if shared then
    match p.reconcile answers with
    | (.ok moved, p) => (moved, p)
    | (.error _, p) => (none, { p with unavailable := true })
  else (none, p)

/-- The system proxy listener's port of a start. -/
def Proxies.prepareSystem (p : Proxies) (answers : PortAnswers) : Except Error Unit × Proxies :=
  if p.systemProxy then
    match p.state.systemProxyPort true answers with
    | (.ok port, state) => (.ok (), { p with state, systemPort := port })
    | (.error e, state) => (.error (startFailed e), { p with state })
  else (.ok (), p)

/-- Both, in one section of the listeners' lock. -/
def Proxies.prepare (p : Proxies) (shared : Bool) (first second : PortAnswers) :
    Except Error Moved × Proxies :=
  let (moved, p) := p.prepareShared shared first
  let (ready, p) := p.prepareSystem second
  (ready.map fun () => moved, p)

def World.prepareListeners (w : World) (config : EngineConfig) (first second : PortAnswers) :
    Except Error Moved × World :=
  match w.proxies with
  | none => (.ok none, w)
  | some p =>
    let (moved, p) := p.prepare config.localProxy.isSome first second
    (moved, { w with proxies := some p })

/-- Before `start` opens the listeners (never while they are open). -/
def prepareListeners (config : EngineConfig) : Try Unit := do
  let first ← probePorts
  let second ← probePorts
  let moved ← ExceptT.mk <| inSection (·.prepareListeners config first second)
  publishMoved moved

/-- A change of the listeners of an instance with a local proxy. -/
def World.setLeftOut (w : World) (config : EngineConfig) (leftOut : Bool) : World :=
  { w with proxies := w.proxies.map fun p =>
      if config.localProxy.isSome then { p with unavailable := leftOut } else p }

@[simp] theorem World.setLeftOut_isSome (w : World) (config : EngineConfig) (leftOut : Bool) :
    (w.setLeftOut config leftOut).proxies.isSome = w.proxies.isSome :=
  Option.isSome_map

/-- After a start that failed with the shared listener in it: whether the start
is worth trying again without it (it was in it). -/
def leaveOutLocalProxy (config : EngineConfig) : Task Bool :=
  inSection fun w =>
    match w.localProxy config with
    | some p => if p.unavailable then (false, w) else (true, w.setLeftOut config true)
    | none => (false, w)

/-- After a restart put the old configuration back: the shared listener is left
out exactly when it was. -/
def setLocalProxyLeftOut (config : EngineConfig) (leftOut : Bool) : Task Unit :=
  modify (·.setLeftOut config leftOut)

/-- At stop or shutdown: a pending retry goes with the run. -/
def localProxyStopped : Task Unit :=
  modify fun w => { w with proxies := w.proxies.map ({ · with unavailable := false }) }

end PpvpnCore
