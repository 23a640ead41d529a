import Mathlib.Data.List.Basic

/-!
# What the service's clients ask

The payloads of the requests (`service/src/protocol.rs`) and the JSON values
they carry.
-/

namespace PpvpnCore.Service

/-! ## JSON -/

inductive Number where
  | posInt (n : UInt64)
  /-- Less than zero. -/
  | negInt (n : Int)
  /-- The bits of a finite double. -/
  | float (bits : UInt64)
  deriving DecidableEq, Repr

inductive Value where
  | null
  | bool (b : Bool)
  | number (n : Number)
  | string (s : String)
  | array (items : List Value)
  | object (fields : List (String × Value))

namespace Value

def get (v : Value) (key : String) : Option Value :=
  match v with
  | .object fields => (fields.find? (·.1 = key)).map (·.2)
  | _ => none

def asStr : Value → Option String
  | .string s => some s
  | _ => none

def asU64 : Value → Option UInt64
  | .number (.posInt n) => some n
  | _ => none

end Value

/-! ## Envelopes -/

/-- Commands accepted by the service. -/
inductive Command where
  | handshake
  | getVersion
  | getStatus
  | connect
  | updateProfile
  | renewLease
  | disconnect
  | coreApi
  | watch
  deriving DecidableEq, Repr

structure Request where
  id : String
  /-- Seconds. -/
  timestamp : UInt64
  command : Command
  payload : Value
  authToken : Option String := none
  signature : String

/-- Messages older than this are rejected as replay attempts. -/
def messageExpirySeconds : UInt64 := 30

/-! ## Payloads -/

structure SessionRef where
  sessionId : String
  generation : UInt64
  deriving DecidableEq, Repr

/-- A node fixed to one of its ingresses. -/
structure IngressPin where
  nodeId : String
  endpointKey : String
  deriving DecidableEq, Repr

/-- The client's node selection and ingress pins, forwarded with every
`apply-profile` of the session's core. -/
structure ApplyChoices where
  selectedNodeId : Option String := none
  pins : List IngressPin := []
  deriving DecidableEq, Repr

structure ConnectPayload where
  session : SessionRef
  profile : Value
  /-- Replace a core owned by another session of the same OS user. -/
  takeOver : Bool
  allowedRuleSetHosts : List String := []
  routingMode : Option String := none
  choices : ApplyChoices := {}

structure UpdateProfilePayload where
  session : SessionRef
  profile : Value
  allowedRuleSetHosts : List String := []
  routingMode : Option String := none
  /-- Also used for a rollback. -/
  choices : ApplyChoices := {}

structure CoreApiPayload where
  session : SessionRef
  path : String
  body : Value

structure Status where
  running : Bool
  pid : Int64
  binPath : String
  mode : String
  serviceVersion : String
  serviceBuildId : String
  sessionId : Option String
  generation : UInt64
  profileRevision : Option String
  leaseExpiresAtMs : Option UInt64
  deriving DecidableEq, Repr

end PpvpnCore.Service
