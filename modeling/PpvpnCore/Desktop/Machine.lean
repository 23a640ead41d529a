import PpvpnCore.Lib.Text
import PpvpnCore.Desktop.ServiceClient

/-!
# Enhanced mode's state machine

The connection bookkeeping of `desktop/src/enhanced.rs`, without its tasks: what
a transition does to the machine, which automatic reconnects are granted, how a
failure is classified and when the next attempt is made.

* `Machine`: the phase of one generation and its session.
* `RecoveryEpisode`, `RoutingReconnects`: what automatic recovery may do.
* `connectFailure`, `isServiceDown`, `isPathCause`: what a failure means.
-/

namespace PpvpnCore.Desktop.Enhanced

open Lib
open Client (SessionRef)

inductive ConnectionPhase where
  | off | preparing | waitingPermission | connecting | on | reconnecting | contended
  | disconnecting | error
  deriving DecidableEq, Repr

/-! ## Errors -/

/-- The codes of enhanced mode's failures. -/
inductive ErrorCode where
  | profileInvalid | profileExpired | nodeNotFound
  | serviceInstallCancelled | serviceInstallFailed | serviceUnavailable | serviceIncompatible
  | serviceBusy | serviceClientRejected | serviceOwnedByAnotherUser | serviceUninstallCancelled
  | connectFailed | connectHealthCheckFailed | networkPathContended | localStorageFailed | internal
  deriving DecidableEq, Repr

structure ClientErrorInfo where
  code : ErrorCode
  detail : String
  deriving DecidableEq, Repr

/-- Failure of one service call. -/
inductive ServiceError where
  /-- Nothing listening, or the call broke off. -/
  | unavailable (detail : String)
  | rejected (detail : String)
  | protocol (detail : String)
  /-- The service answered with an error. -/
  | failed (detail : String)
  deriving DecidableEq, Repr

/-- `core::codes::PROFILE_VALIDATION`. -/
def profileValidation : List String :=
  ["PROFILE_REQUIRED", "PROFILE_MALFORMED", "SCHEMA_UNSUPPORTED", "FIELD_REQUIRED",
    "TIME_RANGE_INVALID", "PROFILE_EXPIRED", "NODE_ID_INVALID", "NODE_ID_DUPLICATE",
    "ENTRY_KEY_INVALID", "EXIT_IP_INVALID", "CAPABILITIES_INVALID", "DEFAULT_NODE_NOT_FOUND",
    "SELECTION_MODE_UNSUPPORTED", "INGRESS_COUNT_INVALID", "INGRESS_ROLE_INVALID",
    "ENDPOINT_KEY_INVALID", "ENDPOINT_KEY_DUPLICATE", "INGRESS_LABEL_INVALID",
    "REPLICA_ORDINAL_INVALID", "PORT_INVALID", "ENTRY_IP_NOT_PUBLIC", "TRANSPORT_UNSUPPORTED",
    "CREDENTIALS_INVALID", "SHADOWSOCKS_METHOD_UNSUPPORTED", "SHADOWSOCKS_KEY_INVALID",
    "SHADOWSOCKS_SERVER_KEY_REMOVED", "REALITY_REQUIRED", "TLS_SERVER_NAME_INVALID",
    "REALITY_PUBLIC_KEY_INVALID", "REALITY_SHORT_ID_INVALID", "TLS_REQUIRED",
    "TLS_SERVER_NAME_MISMATCH", "PROTOCOL_UNSUPPORTED", "RULE_ID_INVALID", "RULE_ID_DUPLICATE",
    "RULE_MATCH_EMPTY", "DOMAIN_WILDCARD_UNSUPPORTED", "DOMAIN_INVALID", "DOMAIN_DUPLICATE",
    "CIDR_INVALID", "CIDR_DUPLICATE", "NETWORK_UNSUPPORTED", "NETWORK_DUPLICATE",
    "PORT_DUPLICATE", "PORT_RANGE_INVALID", "PORT_RANGE_DUPLICATE", "ROUTING_ACTION_INVALID",
    "ROUTING_NODE_NOT_FOUND", "ROUTING_TARGET_UNSUPPORTED", "ROUTING_ACTION_UNSUPPORTED",
    "RULE_SET_COUNT_INVALID", "RULE_SET_ID_INVALID", "RULE_SET_ID_DUPLICATE",
    "RULE_SET_URL_INVALID", "RULE_SET_SHA256_INVALID", "RULE_SET_INTERVAL_INVALID",
    "RULE_SET_NOT_FOUND", "RULE_SET_REF_DUPLICATE", "RULE_SET_HOSTS_INVALID",
    "RULE_SET_HOST_NOT_ALLOWED", "ROUTING_MODE_INVALID", "PINS_INVALID"]

/-- Maps a reason code of the service or the core to a user code. -/
def serviceReasonErrorCode (code : String) : ErrorCode :=
  if code ∈ ["CONNECTION_OWNED_BY_ANOTHER_SESSION", "STALE_OR_FOREIGN_SESSION"] then .serviceBusy
  else if code = "CONNECTION_OWNED_BY_ANOTHER_USER" then .serviceOwnedByAnotherUser
  else if code ∈ ["PROFILE_SCHEMA_UNSUPPORTED", "CORE_SCHEMA_CAPABILITY_MISSING",
      "CORE_API_UNSUPPORTED"] then .serviceIncompatible
  else if code ∈ ["PROFILE_REVISION_REQUIRED", "PROFILE_SCHEMA_REQUIRED"] then .profileInvalid
  else if code = "SERVICE_STOPPING" then .serviceUnavailable
  else if code = "NODE_NOT_FOUND" then .nodeNotFound
  else if code = "PROFILE_EXPIRED" then .profileExpired
  else if code ∈ profileValidation then .profileInvalid
  else .connectFailed

namespace ServiceError

def detail : ServiceError → String
  | .unavailable detail | .rejected detail | .protocol detail | .failed detail => detail

/-- Nothing accepted the connection: the service process is not running. -/
def notListening : ServiceError → Bool
  | .unavailable detail => detail.startsWith "connect" || detail.startsWith "open pipe"
  | _ => false

/-- `CODE` or `CODE: …`. -/
def reasonCode : ServiceError → Option String
  | .failed detail =>
    let code := trim (detail.toList.takeWhile (· ≠ ':'))
    if code ≠ [] && code.all fun c => c.isUpper || c.isDigit || c = '_' then
      some (String.ofList code)
    else none
  | _ => none

def info (error : ServiceError) : ClientErrorInfo :=
  let code := match error with
    | .unavailable _ => .serviceUnavailable
    | .rejected _ => .serviceClientRejected
    | .protocol _ => .serviceIncompatible
    | .failed _ => serviceReasonErrorCode (error.reasonCode.getD "")
  ⟨code, error.detail⟩

end ServiceError

/-- A connect-path failure, and whether it may be retried. -/
def connectFailure (error : ServiceError) : ClientErrorInfo × Bool :=
  let info := error.info
  (info, info.code ∉ [.serviceIncompatible, .serviceClientRejected, .serviceOwnedByAnotherUser,
    .profileInvalid])

/-- The connection is no longer ours: another session took it over, or another
user owns it. -/
def ownershipLost (error : ServiceError) : Option (ClientErrorInfo × Bool) :=
  error.reasonCode.bind fun code =>
    if code ∈ ["STALE_OR_FOREIGN_SESSION", "CONNECTION_OWNED_BY_ANOTHER_SESSION"] then
      some (⟨.serviceBusy, error.detail⟩, true)
    else if code = "CONNECTION_OWNED_BY_ANOTHER_USER" then
      some (⟨.serviceOwnedByAnotherUser, error.detail⟩, false)
    else none

def contended (detail : String) : Option ClientErrorInfo := some ⟨.networkPathContended, detail⟩

def tunRoutingBroken : String := "HEALTH_TUN_ROUTING_BROKEN"

def isTunRoutingBroken (info : ClientErrorInfo) : Bool :=
  info.code = .connectHealthCheckFailed && info.detail.startsWith tunRoutingBroken

def tunRoutingTakenOver : Option ClientErrorInfo := contended "TUN_ROUTING_TAKEN_OVER"

/-- The counters were not read late enough to judge the capture check. -/
def isTrafficStale (info : ClientErrorInfo) : Bool :=
  info.code = .connectFailed && info.detail.startsWith "HEALTH_TRAFFIC_STALE"

/-- Stopping, restarting or not running, as opposed to missing. -/
def isServiceDown (info : ClientErrorInfo) : Bool :=
  info.code = .serviceUnavailable &&
    !decide ("SERVICE_NOT_INSTALLED".toList <:+: info.detail.toList)

/-- A failure caused by the network path, not by the service or the core. -/
def isPathCause (info : ClientErrorInfo) : Bool :=
  match info.code with
  | .networkPathContended | .connectHealthCheckFailed => true
  | .connectFailed =>
    info.detail.startsWith "HEALTH_ENTRANCE_FAILED" ||
      info.detail.startsWith "HEALTH_PROXY_PATH_FAILED"
  | _ => false

/-! ## The machine -/

structure Machine where
  phase : ConnectionPhase := .off
  sessionId : Option String := none
  generation : UInt64 := 0
  revision : Option String := none
  reason : Option ClientErrorInfo := none
  retryable : Bool := false
  /-- The user wants enhanced mode on (persisted across launches). -/
  desiredOn : Bool := false
  /-- Apps the pre-connect check found owning the network. -/
  competitors : List String := []
  deriving DecidableEq, Repr

namespace Machine

/-- `checked_add(1)`. -/
def nextGeneration (generation : UInt64) : Option UInt64 :=
  if generation.toNat + 1 < 2 ^ 64 then some (generation + 1) else none

def generationExhausted : ClientErrorInfo := ⟨.internal, "CONNECTION_GENERATION_EXHAUSTED"⟩

/-- A new attempt: fresh session, next generation. -/
def beginConnect (machine : Machine) (revision sessionId : String) :
    Except ClientErrorInfo (SessionRef × Machine) :=
  match nextGeneration machine.generation with
  | none => .error generationExhausted
  | some generation =>
    .ok (⟨sessionId, generation⟩,
      { phase := .preparing, sessionId := some sessionId, generation, revision := some revision,
        desiredOn := true })

/-- Only if `generation` is still current. -/
def transition (machine : Machine) (generation : UInt64) (phase : ConnectionPhase)
    (reason : Option ClientErrorInfo) (retryable : Bool) : Machine :=
  if machine.generation ≠ generation then machine
  else
    { machine with
      phase, reason, retryable
      competitors := if phase = .error ∨ phase = .contended then machine.competitors else [] }

/-- Ends `generation`: not desired; the counter is kept. -/
def finishDisconnect (machine : Machine) (generation : UInt64) : Machine :=
  if machine.generation ≠ generation then machine else { generation }

def session (machine : Machine) : Option SessionRef :=
  match machine.sessionId with
  | some sessionId =>
    if sessionId ≠ "" ∧ 0 < machine.generation then some ⟨sessionId, machine.generation⟩ else none
  | none => none

def Is (machine : Machine) (generation : UInt64) (phase : ConnectionPhase) : Prop :=
  machine.generation = generation ∧ machine.phase = phase

instance (machine : Machine) (generation : UInt64) (phase : ConnectionPhase) :
    Decidable (machine.Is generation phase) :=
  inferInstanceAs (Decidable (_ ∧ _))

end Machine

def disconnectUnconfirmed : String := "DISCONNECT_UNCONFIRMED"

/-- The last disconnect was never confirmed: "retry" means disconnecting again. -/
def Machine.unconfirmed (machine : Machine) : Bool :=
  machine.phase = .error && machine.reason.any fun reason =>
    reason.detail.startsWith disconnectUnconfirmed

/-- "Use on this device" applies. -/
def canTakeOver (machine : Machine) : Bool :=
  machine.phase = .contended && machine.reason.any fun reason => reason.code = .serviceBusy

/-! ## Automatic reconnects -/

/-- One automatic reconnect per episode; two healthy checks in a row or a user
action end it. -/
structure RecoveryEpisode where
  used : Bool := false
  stableChecks : Nat := 0
  deriving DecidableEq, Repr

namespace RecoveryEpisode

def noteHealthSuccess (episode : RecoveryEpisode) : RecoveryEpisode :=
  let stableChecks := min 255 (episode.stableChecks + 1)
  { used := episode.used && stableChecks < 2, stableChecks }

/-- Whether it was free. -/
def claim (episode : RecoveryEpisode) : Bool × RecoveryEpisode :=
  (!episode.used, { used := true, stableChecks := 0 })

end RecoveryEpisode

def tunRoutingReconnects : Nat := 3

/-- In milliseconds. -/
def tunRoutingWindow : Nat := 10 * 60 * 1000

/-- When automatic reconnects for broken TUN routing were granted. -/
structure RoutingReconnects where
  at_ : List Nat := []
  deriving DecidableEq, Repr

/-- Takes one reconnect at `now`, unless the window's are used up. -/
def RoutingReconnects.claim (reconnects : RoutingReconnects) (now : Nat) : Bool × RoutingReconnects :=
  let left := reconnects.at_.dropWhile fun at_ => tunRoutingWindow ≤ now - at_
  if tunRoutingReconnects ≤ left.length then (false, ⟨left⟩) else (true, ⟨left ++ [now]⟩)

def serviceBackoffAttempts : Nat := 7

/-- The pause before automatic reconnect `attempt`, in seconds. -/
def serviceBackoff (attempt : Nat) : Option Nat :=
  if attempt < serviceBackoffAttempts then some (min 30 (2 * 2 ^ min attempt 16)) else none

end PpvpnCore.Desktop.Enhanced
