import PpvpnCore.Lib.Text

/-!
# The profile

The proxy profile (schema 1) as the backend sends it, the error every public
call returns and the crates the core calls for their results alone.

Text fields stay texts: `validate` decides which of them mean anything.
-/

namespace PpvpnCore

/-- The map the core keeps its tags and pins in. -/
abbrev BTreeMap (κ ν : Type) [Ord κ] := Std.ExtTreeMap κ ν

/-! ## Errors -/

/-- The stable codes; the strings of the contract are these names in upper
case with underscores. -/
inductive Code where
  | schemaUnsupported | fieldRequired | timeRangeInvalid | profileExpired
  | profileMalformed | profileRequired
  | nodeIdInvalid | nodeIdDuplicate | entryKeyInvalid | exitIpInvalid | capabilitiesInvalid
  | defaultNodeNotFound | selectionModeUnsupported | ingressCountInvalid | ingressRoleInvalid
  | endpointKeyInvalid | endpointKeyDuplicate | ingressLabelInvalid | replicaOrdinalInvalid
  | portInvalid | entryIpNotPublic | transportUnsupported | credentialsInvalid
  | shadowsocksMethodUnsupported | shadowsocksKeyInvalid | shadowsocksServerKeyRemoved
  | realityRequired | tlsServerNameInvalid | realityPublicKeyInvalid | realityShortIdInvalid
  | tlsRequired | tlsServerNameMismatch | protocolUnsupported
  | ruleIdInvalid | ruleIdDuplicate | ruleMatchEmpty | domainWildcardUnsupported | domainInvalid
  | domainDuplicate | cidrInvalid | cidrDuplicate | networkUnsupported | networkDuplicate
  | portDuplicate | portRangeInvalid | portRangeDuplicate | routingActionInvalid
  | routingNodeNotFound | routingTargetUnsupported | routingActionUnsupported
  | ruleSetCountInvalid | ruleSetIdInvalid | ruleSetIdDuplicate | ruleSetUrlInvalid
  | ruleSetSha256Invalid | ruleSetIntervalInvalid | ruleSetNotFound | ruleSetRefDuplicate
  | ruleSetHostsInvalid | ruleSetHostNotAllowed | pinsInvalid
  | profileNotApplied | coreNotRunning | nodeNotFound | ingressNotFound | localProxyDisabled
  | systemProxyUnavailable | systemProxyStartFailed | coreOperationFailed | corePanicked
  | tunNameTaken | engineShutDown | engineFatal | permissionDenied
  deriving DecidableEq, Repr

structure Error where
  code : Code
  /-- The field it is about; empty for a call's own failure. -/
  field : String
  retryable : Bool
  message : String
  deriving DecidableEq, Repr

def Error.new (code : Code) (retryable : Bool) (message : String) : Error :=
  ⟨code, "", retryable, message⟩

def Error.invalid (code : Code) (field message : String) : Error :=
  ⟨code, field, false, message⟩

/-! ## Crates -/

inductive Alphabet where
  | standard | urlSafe
  deriving DecidableEq, Repr

inductive Padding where
  | requireCanonical | requireNone
  deriving DecidableEq, Repr

/-- What the core calls outside this repository for a value: SHA-256 (`sha2`),
IDNA (`idna`) and base64 with trailing bits allowed (`base64`). -/
class Crates where
  sha256 : String → Vector UInt8 32
  domainToAscii : String → Option String
  decode : Alphabet → Padding → String → Option (List UInt8)

/-! ## The profile as sent -/

structure Capabilities where
  tcp : Bool
  udp : Bool
  deriving DecidableEq, Repr

structure Endpoint where
  domain : String
  ip : String
  port : UInt16
  deriving DecidableEq, Repr

structure ShadowsocksCredentials where
  method : String
  identityKeys : List String
  userKey : String
  deriving DecidableEq, Repr

structure VlessCredentials where
  uuid : String
  flow : String
  deriving DecidableEq, Repr

structure AnyTlsCredentials where
  password : String
  deriving DecidableEq, Repr

/-- A tagged union: exactly one member, matching the ingress protocol. -/
structure Credentials where
  shadowsocks : Option ShadowsocksCredentials
  vless : Option VlessCredentials
  anytls : Option AnyTlsCredentials
  deriving DecidableEq, Repr

structure Reality where
  publicKey : String
  shortId : String
  deriving DecidableEq, Repr

structure Tls where
  serverName : String
  alpn : List String
  insecure : Bool
  reality : Option Reality
  deriving DecidableEq, Repr

structure Transport where
  kind : String
  deriving DecidableEq, Repr

/-- One way to reach a node's exit. List order is failover order. -/
structure Ingress where
  role : String
  endpointKey : String
  label : Option String
  replicaOrdinal : Int
  protocol : String
  endpoint : Endpoint
  credentials : Credentials
  tls : Option Tls
  transport : Option Transport
  capabilities : Capabilities
  deriving DecidableEq, Repr

structure Exit where
  ip : String
  deriving DecidableEq, Repr

/-- A logical node: one exit identity reachable through its ingresses. -/
structure Node where
  id : String
  entryKey : String
  exit : Exit
  capabilities : Capabilities
  ingresses : List Ingress
  deriving DecidableEq, Repr

structure Selection where
  mode : String
  defaultNodeId : String
  deriving DecidableEq, Repr

/-- A downloadable binary rule set. -/
structure RuleSet where
  id : String
  url : String
  sha256 : String
  updateIntervalSeconds : Int
  deriving DecidableEq, Repr

structure RoutingMatch where
  domains : List String
  domainSuffixes : List String
  ipCidrs : List String
  ipIsPrivate : Bool
  protocols : List String
  ports : List UInt16
  portRanges : List String
  ruleSetIds : List String
  deriving DecidableEq, Repr

structure RoutingAction where
  kind : String
  target : String
  nodeId : String
  deriving DecidableEq, Repr

structure RoutingRule where
  id : String
  matcher : RoutingMatch
  action : RoutingAction
  /-- Also applies in the global routing mode. -/
  baseline : Bool
  deriving DecidableEq, Repr

structure Routing where
  ruleSets : List RuleSet
  rules : List RoutingRule
  finalAction : RoutingAction
  deriving DecidableEq, Repr

/-- The times are instants on one clock. -/
structure Profile where
  schemaVersion : Int
  revision : String
  generatedAt : Option Int
  expiresAt : Option Int
  nodes : List Node
  selection : Selection
  routing : Routing
  deriving DecidableEq, Repr

def currentSchemaVersion : Int := 1
def maxIngressesPerNode : Nat := 64
def maxIngressLabelLength : Nat := 32
def maxRuleSets : Nat := 32

/-- Which profile rules apply. -/
inductive RoutingMode where
  | rules | global
  deriving DecidableEq, Repr

end PpvpnCore
