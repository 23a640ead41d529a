import PpvpnCore.Desktop.Compat
import PpvpnCore.Desktop.Enhanced

/-!
# What the app shows

The snapshot of `desktop/src/lib.rs` with the error codes of `errors.rs`, and
how `connection.rs` composes the one connection of it from the states of both
modes.

* `ClientSnapshot`: all the app is told.
* `ConnectionParts`, `compose`: the connection in the selected mode.
-/

namespace PpvpnCore.Desktop.App

/-! ## Errors -/

/-- What the apps localise. -/
inductive ErrorCode where
  | networkUnreachable | serverUnavailable | rateLimited
  | authExpired | authDenied | authSessionInvalid | authBrowserOpenFailed | credentialStoreFailed
  | noSubscription | subscriptionExpired | profileFetchFailed | profileInvalid | nodeNotFound
  | standardCoreFailed
  | timeout | unreachable | icmpNotPermitted | probeFailed
  | serviceInstallCancelled | serviceInstallFailed | serviceUnavailable | serviceIncompatible
  | serviceBusy | connectFailed | networkPathContended
  | internal
  | requestRejected | localStorageFailed | authUntrustedResponse | profileExpired
  | serviceUninstallCancelled | serviceClientRejected | teamDisabled | serviceOwnedByAnotherUser
  | systemProxyFailed | connectHealthCheckFailed | credentialStoreLocked | systemProxyUnavailable
  deriving DecidableEq, Repr

structure ClientErrorInfo where
  code : ErrorCode
  detail : String
  deriving DecidableEq, Repr

/-- Failures of enhanced mode, under the codes of the app. -/
def ErrorCode.ofEnhanced : Enhanced.ErrorCode → ErrorCode
  | .profileInvalid => .profileInvalid
  | .profileExpired => .profileExpired
  | .nodeNotFound => .nodeNotFound
  | .serviceInstallCancelled => .serviceInstallCancelled
  | .serviceInstallFailed => .serviceInstallFailed
  | .serviceUnavailable => .serviceUnavailable
  | .serviceIncompatible => .serviceIncompatible
  | .serviceBusy => .serviceBusy
  | .serviceClientRejected => .serviceClientRejected
  | .serviceOwnedByAnotherUser => .serviceOwnedByAnotherUser
  | .serviceUninstallCancelled => .serviceUninstallCancelled
  | .connectFailed => .connectFailed
  | .connectHealthCheckFailed => .connectHealthCheckFailed
  | .networkPathContended => .networkPathContended
  | .localStorageFailed => .localStorageFailed
  | .internal => .internal

def ErrorCode.ofCompat : Desktop.ErrorCode → ErrorCode
  | .systemProxyFailed => .systemProxyFailed
  | .systemProxyUnavailable => .systemProxyUnavailable
  | .networkPathContended => .networkPathContended

def ClientErrorInfo.ofEnhanced (info : Enhanced.ClientErrorInfo) : ClientErrorInfo :=
  ⟨.ofEnhanced info.code, info.detail⟩

def ClientErrorInfo.ofCompat (info : Desktop.ClientErrorInfo) : ClientErrorInfo :=
  ⟨.ofCompat info.code, info.detail⟩

/-- What a method of the client returns. -/
inductive ClientError where
  | notSignedIn
  | standardNotReady
  | failed (info : ClientErrorInfo)
  | cancelled
  deriving DecidableEq, Repr

/-- What of it is worth showing. -/
def ClientError.info : ClientError → Option ClientErrorInfo
  | .failed info => some info
  | .notSignedIn | .standardNotReady | .cancelled => none

/-- Enhanced-mode failures a later successful connection clears. -/
def isEnhancedError (info : ClientErrorInfo) : Bool :=
  info.code ∈ [.serviceInstallCancelled, .serviceInstallFailed, .serviceUnavailable,
    .serviceIncompatible, .serviceBusy, .serviceOwnedByAnotherUser, .serviceClientRejected,
    .connectFailed, .connectHealthCheckFailed, .networkPathContended]

def isCompatError (info : ClientErrorInfo) : Bool :=
  info.code ∈ [.systemProxyFailed, .systemProxyUnavailable]

/-! ## The snapshot -/

/-- How the client connects. Mutually exclusive; the choice is persisted. -/
inductive ConnectionMode where
  | enhanced | compatible
  deriving DecidableEq, Repr

inductive RoutingMode where
  | rules | global
  deriving DecidableEq, Repr

abbrev ConnectionPhase := Enhanced.ConnectionPhase

/-- The path to the current node. -/
structure ConnectionDetail where
  endpointKey : Option String := none
  endpointLabel : Option String := none
  previousEndpointKey : Option String := none
  latencyMs : Option UInt32 := none
  deriving DecidableEq, Repr

/-- The connection in the selected mode. -/
structure ConnectionState where
  phase : ConnectionPhase := .off
  reason : Option ClientErrorInfo := none
  retryable : Bool := false
  canTakeOver : Bool := false
  suggestCompatible : Bool := false
  competitor : Option String := none
  proxyWasForeign : Bool := false
  detail : ConnectionDetail := {}
  deriving DecidableEq, Repr

structure DeviceCode where
  userCode : String
  verificationUrl : String
  expiresInSecs : UInt32
  browserOpened : Bool
  deriving DecidableEq, Repr

inductive AuthState where
  | restoring
  | signedOut
  | awaitingBrowser (code : DeviceCode)
  | signedIn
  deriving DecidableEq, Repr

structure Account where
  id : String
  name : String
  avatarUrl : Option String
  email : Option String
  deriving DecidableEq, Repr

structure Team where
  id : String
  name : String
  personal : Bool
  active : Bool
  deriving DecidableEq, Repr

structure ProfileSummary where
  revision : String
  expiresAt : String
  nodeCount : UInt32
  deriving DecidableEq, Repr

/-- State of the current team's profile. -/
inductive ProfileStatus where
  | loading
  | ready
  | noSubscription
  | subscriptionExpired (expiredAt : Option String)
  | teamDisabled
  /-- The backend sent a profile this client or its core rejects; the previously
  valid profile, if any, stays in use. -/
  | invalid (error : ClientErrorInfo)
  deriving DecidableEq, Repr

inductive StandardState where
  | stopped
  | starting
  | ready (revision : String)
  | failed (error : ClientErrorInfo)
  deriving DecidableEq, Repr

structure IngressPin where
  nodeId : String
  endpointKey : String
  deriving DecidableEq, Repr

structure IngressHealth where
  endpointKey : String
  role : String
  label : Option String
  healthy : Option Bool
  active : Bool
  deriving DecidableEq, Repr

structure NodeIngresses where
  nodeId : String
  pinnedEndpointKey : Option String
  ingresses : List IngressHealth
  deriving DecidableEq, Repr

structure ClientSnapshot where
  auth : AuthState := .restoring
  account : Option Account := none
  team : Option Team := none
  profile : Option ProfileSummary := none
  profileStatus : ProfileStatus := .loading
  standard : StandardState := .stopped
  connectionMode : ConnectionMode := .enhanced
  routingMode : RoutingMode := .rules
  /-- The one "Connect" switch, in whichever mode is selected. -/
  connection : ConnectionState := {}
  serviceInstalled : Bool := false
  selectedNodeId : Option String := none
  /-- Latest user-facing failure. -/
  lastError : Option ClientErrorInfo := none
  unreadNotifications : UInt32 := 0
  ruleSetsUnavailable : List String := []
  ingressPins : List IngressPin := []
  nodeIngresses : List NodeIngresses := []
  clearedIngressPins : List IngressPin := []
  localProxyCredentialsReset : Bool := false
  replacedRoutes : List String := []
  deriving DecidableEq, Repr

/-! ## The connection -/

abbrev EnhancedState := Enhanced.EnhancedState

/-- Both modes' latest states, and the path detail from the monitor. -/
structure ConnectionParts where
  enhanced : EnhancedState := Enhanced.stateOf {}
  compat : CompatState := {}
  detail : ConnectionDetail := {}
  /-- Competitor named for the current failure of enhanced mode. -/
  enhancedCompetitor : Option String := none
  deriving DecidableEq, Repr

/-- Compatible mode takes only these phases. -/
def ConnectionPhase.ofCompat : Phase → ConnectionPhase
  | .off => .off
  | .connecting => .connecting
  | .on => .on
  | .disconnecting => .disconnecting
  | .error => .error

/-- Enhanced mode is contended or failed. -/
def broken (state : EnhancedState) : Bool :=
  state.phase ∈ [.error, .contended]

/-- Because of the network path: worth naming a competitor. -/
def isPathProblem (state : EnhancedState) : Bool :=
  broken state && state.reason.any fun reason =>
    match reason.code with
    | .networkPathContended | .connectHealthCheckFailed => true
    | .connectFailed =>
      reason.detail.startsWith "HEALTH_" ||
        decide ("HEALTH_ENTRANCE_FAILED".toList <:+: reason.detail.toList)
    | _ => false

/-- For any reason but another session or user owning the connection. -/
def isFailure (state : EnhancedState) : Bool :=
  broken state && !state.reason.any fun reason =>
    reason.code ∈ [.serviceBusy, .serviceOwnedByAnotherUser]

/-- In a way that compatible mode would avoid. -/
def suggestsCompatible (state : EnhancedState) : Bool :=
  broken state && state.reason.any fun reason =>
    reason.code ∈ [.serviceInstallCancelled, .serviceInstallFailed, .networkPathContended,
      .connectHealthCheckFailed]

/-- The connection as the apps see it, for the selected mode. -/
def compose (mode : ConnectionMode) (parts : ConnectionParts) : ConnectionState :=
  match mode with
  | .enhanced =>
    { phase := parts.enhanced.phase
      reason := parts.enhanced.reason.map .ofEnhanced
      retryable := parts.enhanced.retryable
      canTakeOver := parts.enhanced.canTakeOver
      suggestCompatible := suggestsCompatible parts.enhanced ||
        (isFailure parts.enhanced && parts.enhancedCompetitor.isSome)
      competitor := if isPathProblem parts.enhanced then parts.enhancedCompetitor else none
      detail := parts.detail }
  | .compatible =>
    { phase := .ofCompat parts.compat.phase
      reason := parts.compat.reason.map .ofCompat
      retryable := parts.compat.retryable
      competitor := parts.compat.proxyOwner
      proxyWasForeign := parts.compat.proxyWasForeign
      detail := parts.detail }

/-- A mode's phase, as its controller has it. -/
def ConnectionParts.phase (parts : ConnectionParts) : ConnectionMode → ConnectionPhase
  | .enhanced => parts.enhanced.phase
  | .compatible => .ofCompat parts.compat.phase

/-! ### The sinks -/

/-- What `on_enhanced_state` makes of the parts. A pre-connect check that named
a competitor already looked. -/
def ConnectionParts.heardEnhanced (parts : ConnectionParts) (state : EnhancedState) :
    ConnectionParts :=
  { parts with
    enhanced := state
    enhancedCompetitor :=
      if state.competitors.head?.isSome then state.competitors.head?
      else if isFailure state then parts.enhancedCompetitor
      else none }

/-- The latest failure, as a state of enhanced mode leaves it. -/
def ClientSnapshot.noteEnhanced (state : EnhancedState) (snapshot : ClientSnapshot) :
    ClientSnapshot :=
  match state.phase, state.reason with
  | .error, some reason | .contended, some reason =>
    { snapshot with lastError := some (.ofEnhanced reason) }
  | .on, none =>
    if snapshot.lastError.any isEnhancedError then { snapshot with lastError := none } else snapshot
  | _, _ => snapshot

def ClientSnapshot.noteCompat (state : CompatState) (snapshot : ClientSnapshot) : ClientSnapshot :=
  match state.phase, state.reason with
  | .error, some reason => { snapshot with lastError := some (.ofCompat reason) }
  | .on, _ =>
    if snapshot.lastError.any isCompatError then { snapshot with lastError := none } else snapshot
  | _, _ => snapshot

/-- What `publish_connection` recomputes. -/
def ClientSnapshot.connected (parts : ConnectionParts) (snapshot : ClientSnapshot) :
    ClientSnapshot :=
  { snapshot with
    connection := compose snapshot.connectionMode parts
    serviceInstalled := parts.enhanced.serviceInstalled }

/-! ### What the sinks leave alone -/

theorem compose_phase (mode : ConnectionMode) (parts : ConnectionParts) :
    (compose mode parts).phase = parts.phase mode := by
  cases mode with
  | enhanced => rfl
  | compatible => rfl

@[simp] theorem noteEnhanced_mode (state : EnhancedState) (snapshot : ClientSnapshot) :
    (snapshot.noteEnhanced state).connectionMode = snapshot.connectionMode := by
  unfold ClientSnapshot.noteEnhanced
  split <;> first | rfl | (split <;> rfl)

@[simp] theorem noteCompat_mode (state : CompatState) (snapshot : ClientSnapshot) :
    (snapshot.noteCompat state).connectionMode = snapshot.connectionMode := by
  unfold ClientSnapshot.noteCompat
  split <;> first | rfl | (split <;> rfl)

@[simp] theorem connected_mode (parts : ConnectionParts) (snapshot : ClientSnapshot) :
    (snapshot.connected parts).connectionMode = snapshot.connectionMode := rfl

@[simp] theorem connected_phase (parts : ConnectionParts) (snapshot : ClientSnapshot) :
    (snapshot.connected parts).connection.phase = parts.phase snapshot.connectionMode :=
  compose_phase _ _

end PpvpnCore.Desktop.App
