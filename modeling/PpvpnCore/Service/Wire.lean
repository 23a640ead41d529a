import PpvpnCore.Lib.Bytes
import PpvpnCore.Service.Json

/-!
# The service's side of the wire

The envelopes of the IPC protocol as the service writes and reads them
(`service/src/protocol.rs`), the framing (`serve_connection`, `write_frame` of
`service/src/ipc.rs`) and the payloads it decodes. `json` is `serde_json`'s text, `mac`
is HMAC-SHA256 of a key and a message.

* `readRequest`, `Request.verifyWith`, `Request.order`: a request, from the stream to
  its payload.
* `Response.signedWith`, `writeFrame`: the way back.
-/

namespace PpvpnCore.Service

open Lib

/-- The code of a message under a key. -/
abbrev Mac := List UInt8 → List UInt8 → List UInt8

def signWith (mac : Mac) (key message : List UInt8) : String := hexEncode (mac key message)

def verifyWith (mac : Mac) (key message : List UInt8) (signature : String) : Bool :=
  match hexDecode signature with
  | none => false
  | some signature => signature = mac key message

/-! ## Requests -/

def Command.name : Command → String
  | .handshake => "Handshake"
  | .getVersion => "GetVersion"
  | .getStatus => "GetStatus"
  | .connect => "Connect"
  | .updateProfile => "UpdateProfile"
  | .renewLease => "RenewLease"
  | .disconnect => "Disconnect"
  | .coreApi => "CoreApi"
  | .watch => "Watch"

def Command.named : String → Option Command
  | "Handshake" => some .handshake
  | "GetVersion" => some .getVersion
  | "GetStatus" => some .getStatus
  | "Connect" => some .connect
  | "UpdateProfile" => some .updateProfile
  | "RenewLease" => some .renewLease
  | "Disconnect" => some .disconnect
  | "CoreApi" => some .coreApi
  | "Watch" => some .watch
  | _ => none

/-- A variant without data: its name, or an object with that key. -/
def Command.ofValue : Value → Option Command
  | .string name => named name
  | .object [(name, .null)] => named name
  | _ => none

namespace Request

def document (req : Request) : Value :=
  .object
    [("id", .string req.id), ("timestamp", .ofU64 req.timestamp),
      ("command", .string req.command.name), ("payload", req.payload),
      ("auth_token", .ofOption .string req.authToken), ("signature", .string req.signature)]

def ofDocument (v : Value) : Option Request := do
  let fields ← v.struct ["id", "timestamp", "command", "payload", "auth_token", "signature"] 0
  return {
    id := ← fields.required "id" Value.asStr
    timestamp := ← fields.required "timestamp" Value.asU64
    command := ← fields.required "command" Command.ofValue
    payload := ← fields.required "payload" fun v => some v.read
    authToken := ← fields.optional "auth_token" Value.asStr
    signature := ← fields.required "signature" Value.asStr }

/-- Without the signature. -/
def canonical (json : Json) (req : Request) : List UInt8 :=
  json.toVec { req with signature := "" }.document

def verifyWith (json : Json) (mac : Mac) (req : Request) (key : List UInt8) : Bool :=
  Service.verifyWith mac key (req.canonical json) req.signature

end Request

/-! ## Responses -/

structure Response where
  id : String
  success : Bool
  data : Option Value
  error : Option String
  signature : String

namespace Response

def document (resp : Response) : Value :=
  .object
    [("id", .string resp.id), ("success", .bool resp.success), ("data", resp.data.getD .null),
      ("error", .ofOption .string resp.error), ("signature", .string resp.signature)]

def canonical (json : Json) (resp : Response) : List UInt8 :=
  json.toVec { resp with signature := "" }.document

def signedWith (json : Json) (mac : Mac) (id : String) (success : Bool) (data : Option Value)
    (error : Option String) (key : List UInt8) : Response :=
  let resp : Response := { id, success, data, error, signature := "" }
  { resp with signature := signWith mac key (resp.canonical json) }

end Response

def Status.toValue (status : Status) : Value :=
  .ofStruct
    [("running", .bool status.running), ("pid", .ofI64 status.pid),
      ("bin_path", .string status.binPath), ("mode", .string status.mode),
      ("service_version", .string status.serviceVersion),
      ("service_build_id", .string status.serviceBuildId),
      ("session_id", .ofOption .string status.sessionId), ("generation", .ofU64 status.generation),
      ("profile_revision", .ofOption .string status.profileRevision),
      ("lease_expires_at_ms", .ofOption .ofU64 status.leaseExpiresAtMs)]

structure VersionInfo where
  service : String
  version : String
  buildId : String
  deriving DecidableEq, Repr

def VersionInfo.toValue (info : VersionInfo) : Value :=
  .ofStruct
    [("service", .string info.service), ("version", .string info.version),
      ("build_id", .string info.buildId)]

/-! ## Frames -/

def maxFrameBytes : Nat := 4 * 1024 * 1024

/-- What `serve_connection` reads of a connection. -/
def readRequest (json : Json) (stream : Reader) : Except String Request :=
  match fill 4 stream with
  | (lenBuf, stream) =>
    if lenBuf.length < 4 then .error "read request length"
    else
      let len := u32OfBytes lenBuf
      if maxFrameBytes < len then .error s!"request too large: {len}"
      else
        match fill len stream with
        | (buf, _) =>
          if buf.length < len then .error s!"read request body ({len} bytes)"
          else
            match (json.fromSlice buf).bind Request.ofDocument with
            | none => .error "parse request"
            | some req => .ok req

def writeFrame (json : Json) (response : Response) : List UInt8 :=
  let body := json.toVec response.document
  bytesOfU32 body.length ++ body

/-! ## Payloads -/

def SessionRef.ofFields (fields : Fields) : Option SessionRef := do
  return {
    sessionId := ← fields.required "session_id" Value.asStr
    generation := ← fields.required "generation" Value.asU64 }

def SessionRef.ofValue (v : Value) : Option SessionRef :=
  (v.struct ["session_id", "generation"] 0).bind ofFields

def IngressPin.ofValue (v : Value) : Option IngressPin := do
  let fields ← v.struct ["node_id", "endpoint_key"] 0
  return {
    nodeId := ← fields.required "node_id" Value.asStr
    endpointKey := ← fields.required "endpoint_key" Value.asStr }

def ApplyChoices.ofFields (fields : Fields) : Option ApplyChoices := do
  return {
    selectedNodeId := ← fields.optional "selected_node_id" Value.asStr
    pins := ← fields.defaulted "pins" (Value.asList IngressPin.ofValue) }

def ConnectPayload.ofValue (v : Value) : Option ConnectPayload := do
  let fields ← v.flat ["session_id", "generation", "profile", "take_over", "allowed_rule_set_hosts",
    "routing_mode", "selected_node_id", "pins"]
  return {
    session := ← SessionRef.ofFields fields
    profile := ← fields.required "profile" fun v => some v.read
    takeOver := ← fields.required "take_over" Value.asBool
    allowedRuleSetHosts := ← fields.defaulted "allowed_rule_set_hosts" (Value.asList Value.asStr)
    routingMode := ← fields.optional "routing_mode" Value.asStr
    choices := ← ApplyChoices.ofFields fields }

def UpdateProfilePayload.ofValue (v : Value) : Option UpdateProfilePayload := do
  let fields ← v.flat ["session_id", "generation", "profile", "allowed_rule_set_hosts",
    "routing_mode", "selected_node_id", "pins"]
  return {
    session := ← SessionRef.ofFields fields
    profile := ← fields.required "profile" fun v => some v.read
    allowedRuleSetHosts := ← fields.defaulted "allowed_rule_set_hosts" (Value.asList Value.asStr)
    routingMode := ← fields.optional "routing_mode" Value.asStr
    choices := ← ApplyChoices.ofFields fields }

def CoreApiPayload.ofValue (v : Value) : Option CoreApiPayload := do
  let fields ← v.flat ["session_id", "generation", "path", "body"]
  return {
    session := ← SessionRef.ofFields fields
    path := ← fields.required "path" Value.asStr
    body := ← fields.required "body" fun v => some v.read }

/-- A request that passed the envelope checks, with what its payload says. -/
inductive Order where
  | getVersion
  | getStatus
  | connect (payload : ConnectPayload)
  | updateProfile (payload : UpdateProfilePayload)
  | renewLease (session : SessionRef)
  | disconnect (session : SessionRef)
  | coreApi (payload : CoreApiPayload)
  | watch (session : SessionRef)

/-- The payload of a command other than the handshake; `none` is answered `bad
payload`. -/
def Request.order (req : Request) : Option Order :=
  match req.command with
  | .handshake => none
  | .getVersion => some .getVersion
  | .getStatus => some .getStatus
  | .connect => (ConnectPayload.ofValue req.payload).map .connect
  | .updateProfile => (UpdateProfilePayload.ofValue req.payload).map .updateProfile
  | .renewLease => (SessionRef.ofValue req.payload).map .renewLease
  | .disconnect => (SessionRef.ofValue req.payload).map .disconnect
  | .coreApi => (CoreApiPayload.ofValue req.payload).map .coreApi
  | .watch => (SessionRef.ofValue req.payload).map .watch

end PpvpnCore.Service
