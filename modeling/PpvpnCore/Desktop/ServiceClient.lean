import PpvpnCore.Lib.Bytes
import PpvpnCore.Service.Json

/-!
# The client's side of the wire

The client's own copy of the service protocol (`desktop/src/service.rs`): its
envelopes, the payloads of its calls, the framing and the checks of a response.

* `Call`: what the client asks of the service, `Call.payload` as it is sent.
* `Request.signed`, `frame`: a request, from the call to the stream.
* `readFrame`, `Response.verifyWith`, `verifyResponse`: the way back.
-/

namespace PpvpnCore.Desktop.Client

open Lib
open Service (Value Fields Json)

/-- The code of a message under a key. -/
abbrev Mac := List UInt8 → List UInt8 → List UInt8

def signWith (mac : Mac) (key message : List UInt8) : String := hexEncode (mac key message)

def verifyWith (mac : Mac) (key message : List UInt8) (signature : String) : Bool :=
  match hexDecode signature with
  | none => false
  | some signature => signature = mac key message

/-! ## Requests -/

inductive Command where
  | handshake
  | getVersion
  | getStatus
  | connect
  | updateProfile
  | renewLease
  | disconnect
  | coreApi
  | watch
  deriving DecidableEq, Repr

def Command.name : Command → String
  | .handshake => "Handshake"
  | .getVersion => "GetVersion"
  | .getStatus => "GetStatus"
  | .connect => "Connect"
  | .updateProfile => "UpdateProfile"
  | .renewLease => "RenewLease"
  | .disconnect => "Disconnect"
  | .coreApi => "CoreApi"
  | .watch => "Watch"

structure Request where
  id : String
  timestamp : UInt64
  command : Command
  payload : Value
  authToken : Option String
  signature : String

namespace Request

def document (request : Request) : Value :=
  .object
    [("id", .string request.id), ("timestamp", .ofU64 request.timestamp),
      ("command", .string request.command.name), ("payload", request.payload),
      ("auth_token", .ofOption .string request.authToken), ("signature", .string request.signature)]

/-- Without the signature. -/
def canonical (json : Json) (request : Request) : List UInt8 :=
  json.toVec { request with signature := "" }.document

/-- A request with a fresh `id`, made at `now`. -/
def signed (json : Json) (mac : Mac) (id : String) (now : UInt64) (command : Command)
    (payload : Value) (authToken : String) (key : List UInt8) : Request :=
  let request : Request :=
    { id, timestamp := now, command, payload, authToken := some authToken, signature := "" }
  { request with signature := signWith mac key (request.canonical json) }

end Request

/-! ## Payloads -/

/-- Identifies one enhanced-mode connection attempt. -/
structure SessionRef where
  sessionId : String
  generation : UInt64
  deriving DecidableEq, Repr

/-- A node fixed to one of its ingresses. -/
structure IngressPin where
  nodeId : String
  endpointKey : String
  deriving DecidableEq, Repr

structure ApplyChoices where
  /-- `none`: the profile's `default_node_id`. -/
  selectedNodeId : Option String
  pins : List IngressPin
  deriving DecidableEq, Repr

inductive RoutingMode where
  | rules
  | global
  deriving DecidableEq, Repr

/-- `routing_mode` in the core's `apply-profile`. -/
def wireName : RoutingMode → String
  | .rules => "rules"
  | .global => "global"

def SessionRef.fields (session : SessionRef) : Fields :=
  [("session_id", .string session.sessionId), ("generation", .ofU64 session.generation)]

def SessionRef.toValue (session : SessionRef) : Value := .ofStruct session.fields

def IngressPin.toValue (pin : IngressPin) : Value :=
  .ofStruct [("node_id", .string pin.nodeId), ("endpoint_key", .string pin.endpointKey)]

/-- A field that is left out when there is nothing to say. -/
def skipped {α : Type} (key : String) (of : List α → Value) (items : List α) : Fields :=
  if items.isEmpty then [] else [(key, of items)]

def ApplyChoices.fields (choices : ApplyChoices) : Fields :=
  (match choices.selectedNodeId with
    | none => []
    | some id => [("selected_node_id", .string id)])
  ++ skipped "pins" (.ofList IngressPin.toValue) choices.pins

structure ProfilePayload where
  session : SessionRef
  profile : Value
  takeOver : Bool
  allowedRuleSetHosts : List String
  routingMode : String
  choices : ApplyChoices

def ProfilePayload.toValue (payload : ProfilePayload) : Value :=
  .ofStruct
    (payload.session.fields
      ++ [("profile", payload.profile), ("take_over", .bool payload.takeOver)]
      ++ skipped "allowed_rule_set_hosts" (.ofList .string) payload.allowedRuleSetHosts
      ++ [("routing_mode", .string payload.routingMode)]
      ++ payload.choices.fields)

structure CoreApiPayload where
  session : SessionRef
  path : String
  body : Value

def CoreApiPayload.toValue (payload : CoreApiPayload) : Value :=
  .ofStruct (payload.session.fields ++ [("path", .string payload.path), ("body", payload.body)])

/-- What the client asks of the service (`ServiceApi`). -/
inductive Call where
  | getVersion
  | getStatus
  | connect (session : SessionRef) (profile : Value) (takeOver : Bool) (routingMode : RoutingMode)
      (choices : ApplyChoices)
  | updateProfile (session : SessionRef) (profile : Value) (routingMode : RoutingMode)
      (choices : ApplyChoices)
  | renewLease (session : SessionRef)
  | disconnect (session : SessionRef)
  | coreApi (session : SessionRef) (path : String) (body : Value)
  | watch (session : SessionRef)

namespace Call

def command : Call → Command
  | .getVersion => .getVersion
  | .getStatus => .getStatus
  | .connect .. => .connect
  | .updateProfile .. => .updateProfile
  | .renewLease _ => .renewLease
  | .disconnect _ => .disconnect
  | .coreApi .. => .coreApi
  | .watch _ => .watch

/-- `hosts` are the client's `rule_set_hosts`. -/
def payload (hosts : List String) : Call → Value
  | .getVersion | .getStatus => .ofStruct []
  | .connect session profile takeOver routingMode choices =>
    ProfilePayload.toValue
      { session, profile, takeOver, allowedRuleSetHosts := hosts,
        routingMode := wireName routingMode, choices }
  | .updateProfile session profile routingMode choices =>
    ProfilePayload.toValue
      { session, profile, takeOver := false, allowedRuleSetHosts := hosts,
        routingMode := wireName routingMode, choices }
  | .renewLease session | .disconnect session | .watch session => session.toValue
  | .coreApi session path body => CoreApiPayload.toValue { session, path, body }

end Call

/-! ## Responses -/

structure Response where
  id : String
  success : Bool
  data : Option Value
  error : Option String
  signature : String

/-- Failure of one service call. -/
inductive ServiceError where
  /-- Nothing listening (not installed, not started, wrong endpoint). -/
  | unavailable (detail : String)
  /-- The service closed the connection before answering the handshake. -/
  | rejected (detail : String)
  /-- Malformed or unverifiable envelope, lifetime or key. -/
  | protocol (detail : String)
  /-- The service answered `success:false`. -/
  | failed (detail : String)
  deriving DecidableEq, Repr

namespace Response

def document (response : Response) : Value :=
  .object
    [("id", .string response.id), ("success", .bool response.success),
      ("data", response.data.getD .null), ("error", .ofOption .string response.error),
      ("signature", .string response.signature)]

def ofDocument (v : Value) : Option Response := do
  let fields ← v.struct ["id", "success", "data", "error", "signature"] 0
  return {
    id := ← fields.required "id" Value.asStr
    success := ← fields.required "success" Value.asBool
    data := ← fields.optional "data" fun v => some v.read
    error := ← fields.optional "error" Value.asStr
    signature := ← fields.required "signature" Value.asStr }

def verifyWith (json : Json) (mac : Mac) (response : Response) (key : List UInt8) : Bool :=
  Client.verifyWith mac key (json.toVec { response with signature := "" }.document)
    response.signature

end Response

/-- The data of a response to the request `requestId`. -/
def verifyResponse (json : Json) (mac : Mac) (response : Response) (requestId : String)
    (key : List UInt8) : Except ServiceError Value :=
  if response.id ≠ requestId then .error (.protocol "service response request id mismatch")
  -- Pre-authentication rejections are unsigned by design.
  else if !response.success && response.signature.isEmpty then
    .error (.failed (response.error.getD ""))
  else if !response.verifyWith json mac key then
    .error (.protocol "service response signature invalid")
  else if !response.success then .error (.failed (response.error.getD ""))
  else .ok (response.data.getD (.object []))

structure ServiceStatus where
  running : Bool
  pid : Int64
  binPath : String
  mode : String
  serviceVersion : String
  /-- `none` from older services. -/
  serviceBuildId : Option String
  sessionId : Option String
  generation : UInt64
  profileRevision : Option String
  leaseExpiresAtMs : Option UInt64
  deriving DecidableEq, Repr

def ServiceStatus.ofValue (v : Value) : Option ServiceStatus := do
  let fields ← v.struct ["running", "pid", "bin_path", "mode", "service_version", "service_build_id",
    "session_id", "generation", "profile_revision", "lease_expires_at_ms"] 0
  return {
    running := ← fields.required "running" Value.asBool
    pid := ← fields.required "pid" Value.asI64
    binPath := ← fields.required "bin_path" Value.asStr
    mode := ← fields.required "mode" Value.asStr
    serviceVersion := ← fields.required "service_version" Value.asStr
    serviceBuildId := ← fields.optional "service_build_id" Value.asStr
    sessionId := ← fields.optional "session_id" Value.asStr
    generation := ← fields.required "generation" Value.asU64
    profileRevision := ← fields.optional "profile_revision" Value.asStr
    leaseExpiresAtMs := ← fields.optional "lease_expires_at_ms" Value.asU64 }

structure VersionInfo where
  service : String
  version : String
  /-- `none` from older services. -/
  buildId : Option String
  deriving DecidableEq, Repr

def VersionInfo.ofValue (v : Value) : Option VersionInfo := do
  let fields ← v.struct ["service", "version", "build_id"] 1
  return {
    service := ← fields.required "service" Value.asStr
    version := ← fields.required "version" Value.asStr
    buildId := ← fields.optional "build_id" Value.asStr }

/-! ## Frames -/

def maxFrameBytes : Nat := 4 * 1024 * 1024

/-- What `exchange` writes. -/
def frame (body : List UInt8) : List UInt8 := bytesOfU32 body.length ++ body

/-- One `[u32 BE length][body]` response. A close before any byte of the handshake's
answer is how the service turns an app away; `location` is where it expects the app. -/
def readFrame (location : String) (handshake : Bool) (reader : Reader) :
    Except ServiceError (List UInt8) :=
  match fill 4 reader with
  | (lengthBytes, reader) =>
    let filled := lengthBytes.length
    if filled = 0 ∧ handshake then
      .error (.rejected ("SERVICE_CLIENT_REJECTED: the service closed the connection without "
        ++ "answering; it only accepts the app installed at its expected location "
        ++ s!"({location})"))
    else if filled < 4 then
      .error (.protocol s!"SERVICE_PROTOCOL: connection closed after {filled} of 4 length bytes")
    else
      let length := u32OfBytes lengthBytes
      if maxFrameBytes < length then
        .error (.protocol s!"SERVICE_PROTOCOL: response too large: {length}")
      else
        match fill length reader with
        | (body, _) =>
          if body.length < length then
            .error (.protocol s!"SERVICE_PROTOCOL: response body truncated ({length} bytes expected)")
          else .ok body

/-- The response `transact` reads. -/
def readResponse (json : Json) (location : String) (handshake : Bool) (reader : Reader) :
    Except ServiceError Response :=
  match readFrame location handshake reader with
  | .error error => .error error
  | .ok bytes =>
    match (json.fromSlice bytes).bind Response.ofDocument with
    | none => .error (.protocol "parse response")
    | some response => .ok response

end PpvpnCore.Desktop.Client
