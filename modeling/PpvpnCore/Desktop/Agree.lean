import PpvpnCore.Service.Text
import PpvpnCore.Service.Wire
import PpvpnCore.Desktop.ServiceClient

/-!
# The two copies of the protocol agree

What the client sends is what the service reads, and the other way round: envelopes,
signatures and payloads.
-/

namespace PpvpnCore.Desktop.Client

open Lib
open Service (Value Fields Json)

/-! ## The service's copies -/

def SessionRef.there (session : SessionRef) : Service.SessionRef :=
  { sessionId := session.sessionId, generation := session.generation }

def IngressPin.there (pin : IngressPin) : Service.IngressPin :=
  { nodeId := pin.nodeId, endpointKey := pin.endpointKey }

def ApplyChoices.there (choices : ApplyChoices) : Service.ApplyChoices :=
  { selectedNodeId := choices.selectedNodeId, pins := choices.pins.map IngressPin.there }

def Command.there : Command → Service.Command
  | .handshake => .handshake
  | .getVersion => .getVersion
  | .getStatus => .getStatus
  | .connect => .connect
  | .updateProfile => .updateProfile
  | .renewLease => .renewLease
  | .disconnect => .disconnect
  | .coreApi => .coreApi
  | .watch => .watch

def Request.there (request : Request) : Service.Request :=
  { id := request.id, timestamp := request.timestamp, command := request.command.there,
    payload := request.payload, authToken := request.authToken, signature := request.signature }

/-- What a call asks, in the service's words. -/
def Call.order (hosts : List String) : Call → Service.Order
  | .getVersion => .getVersion
  | .getStatus => .getStatus
  | .connect session profile takeOver routingMode choices =>
    .connect
      { session := session.there, profile, takeOver, allowedRuleSetHosts := hosts,
        routingMode := some (wireName routingMode), choices := choices.there }
  | .updateProfile session profile routingMode choices =>
    .updateProfile
      { session := session.there, profile, allowedRuleSetHosts := hosts,
        routingMode := some (wireName routingMode), choices := choices.there }
  | .renewLease session => .renewLease session.there
  | .disconnect session => .disconnect session.there
  | .coreApi session path body => .coreApi { session := session.there, path, body }
  | .watch session => .watch session.there

/-- The values of a call are the program's, without floats. -/
def Call.Exact : Call → Prop
  | .connect _ profile _ _ _ | .updateProfile _ profile _ _ => profile.Exact
  | .coreApi _ _ body => body.Exact
  | _ => True

/-! ## Envelopes -/

theorem Command.there_name (command : Command) : command.there.name = command.name := by
  cases command <;> rfl

theorem Request.there_document (request : Request) : request.there.document = request.document := by
  rw [Service.Request.document, Request.document]
  simp [Request.there, Command.there_name]

theorem Request.there_canonical (json : Json) (request : Request) :
    request.there.canonical json = request.canonical json :=
  congrArg json.toVec (Request.there_document { request with signature := "" })

end PpvpnCore.Desktop.Client

namespace PpvpnCore.Service

open Lib

theorem Command.named_name (command : Command) : Command.named command.name = some command := by
  cases command <;> rfl

theorem Request.ofDocument_document {req : Request} (normal : req.payload.Normal) :
    Request.ofDocument req.document = some req := by
  have once : (([("id", .string req.id), ("timestamp", .ofU64 req.timestamp),
      ("command", .string req.command.name), ("payload", req.payload),
      ("auth_token", .ofOption .string req.authToken), ("signature", .string req.signature)]
      : Fields).map (·.1)).Nodup := by simp
  rw [Request.ofDocument, Request.document, Value.struct, Value.flat_eq once]
  simp [Fields.required, Fields.optional, Fields.get, Value.asStr, Command.ofValue,
    Command.named_name, normal.read]

/-- Everything in a document but its payload is plain. -/
theorem Request.every_document {p : Value → Prop} {req : Request} (object : ∀ fields, p (.object fields))
    (plain : ∀ v : Value, v.Exact → v.parts = [] → p v) (payload : Value.Every p req.payload) :
    Value.Every p req.document := by
  have leaf : ∀ v : Value, v.Exact → v.parts = [] → Value.Every p v :=
    fun v exact none => .leaf (plain v exact none) none
  refine .mk (object _) ?_
  intro v inside
  simp only [Request.document, Value.parts, List.map_cons, List.map_nil, List.mem_cons,
    List.not_mem_nil, or_false] at inside
  rcases inside with rfl | rfl | rfl | rfl | rfl | rfl
  · exact leaf _ (Value.exact_string _) rfl
  · exact leaf _ (Value.exact_ofU64 _) rfl
  · exact leaf _ (Value.exact_string _) rfl
  · exact payload
  · cases req.authToken with
    | none => exact leaf _ Value.exact_null rfl
    | some token => exact leaf _ (Value.exact_string _) rfl
  · exact leaf _ (Value.exact_string _) rfl

theorem Request.document_fits {req : Request} (fits : req.payload.Fits) : req.document.Fits :=
  every_document (fun _ => trivial) (fun _ exact _ => exact.fits.here) fits

theorem Request.document_whole {req : Request} (whole : req.payload.Whole) : req.document.Whole :=
  every_document (fun _ => rfl) (fun _ exact _ => exact.whole.here) whole

theorem ofOption_string_inj {a b : Option String}
    (same : Value.ofOption .string a = Value.ofOption .string b) : a = b := by
  cases a <;> cases b <;> simp_all [Value.ofOption]

theorem Command.name_inj {a b : Command} (same : a.name = b.name) : a = b := by
  have named := congrArg Command.named same
  rw [Command.named_name, Command.named_name] at named
  exact Option.some.inj named

/-- The canonical text says everything but the signature. -/
theorem Request.canonical_inj {json : Json} (faithful : json.Faithful) {a b : Request}
    (fits : a.payload.Fits) (fits' : b.payload.Fits) (same : a.canonical json = b.canonical json) :
    { a with signature := b.signature } = b := by
  have written : ({ a with signature := "" } : Request).document.Fits := Request.document_fits fits
  have written' : ({ b with signature := "" } : Request).document.Fits := Request.document_fits fits'
  have document := faithful.apart _ _ written written' same
  simp only [Request.document, Value.object.injEq, List.cons.injEq, Prod.mk.injEq,
    Value.string.injEq, Value.ofU64, Value.number.injEq, Number.posInt.injEq, true_and, and_true]
    at document
  obtain ⟨id, timestamp, command, payload, token⟩ := document
  have command := Command.name_inj command
  have token := ofOption_string_inj token
  cases a
  cases b
  simp_all

theorem verifyWith_signWith (mac : Mac) (key message : List UInt8) :
    verifyWith mac key message (signWith mac key message) = true := by
  rw [verifyWith, signWith, hexDecode_hexEncode]
  simp

/-- A frame that is not too large is read, however it arrives. -/
theorem readRequest_frame {json : Json} {stream : Reader} {v : Value} {req : Request}
    (arrives : stream.flatten = bytesOfU32 (json.toVec v).length ++ json.toVec v)
    (small : (json.toVec v).length ≤ maxFrameBytes) (again : json.fromSlice (json.toVec v) = some v)
    (reads : Request.ofDocument v = some req) : readRequest json stream = .ok req := by
  obtain ⟨head, length, body⟩ := fill_frame (lt_of_le_of_lt small (by decide)) arrives
  simp [readRequest, head, length, body, again, reads, not_lt.mpr small]

end PpvpnCore.Service

namespace PpvpnCore.Desktop.Client

open Lib
open Service (Value Fields Json)

/-! ## Payloads -/

theorem SessionRef.exact_fields (session : SessionRef) : ∀ field ∈ session.fields, field.2.Exact := by
  simp [SessionRef.fields]

theorem exact_skipped {α : Type} {key : String} {of : List α → Value} {items : List α}
    (exact : (of items).Exact) : ∀ field ∈ skipped key of items, field.2.Exact := by
  rw [skipped]
  split
  · simp
  · simpa using exact

theorem IngressPin.exact_toValue (pin : IngressPin) : pin.toValue.Exact :=
  Value.exact_ofStruct (by simp)

theorem ApplyChoices.exact_fields (choices : ApplyChoices) :
    ∀ field ∈ choices.fields, field.2.Exact := by
  intro field inside
  rcases List.mem_append.mp inside with node | pins
  · cases chosen : choices.selectedNodeId with
    | none => simp [chosen] at node
    | some id =>
      rw [chosen, List.mem_singleton] at node
      exact node ▸ Value.exact_string id
  · exact exact_skipped (Value.exact_ofList IngressPin.exact_toValue) field pins

theorem ProfilePayload.exact_toValue {payload : ProfilePayload} (exact : payload.profile.Exact) :
    payload.toValue.Exact := by
  refine Value.exact_ofStruct ?_
  intro field inside
  simp only [List.mem_append, or_assoc] at inside
  rcases inside with session | profile | hosts | mode | choices
  · exact payload.session.exact_fields field session
  · simp only [List.mem_cons, List.not_mem_nil, or_false] at profile
    rcases profile with rfl | rfl
    · exact exact
    · exact Value.exact_bool _
  · exact exact_skipped (Value.exact_ofList Value.exact_string) field hosts
  · rw [List.mem_singleton] at mode
    exact mode ▸ Value.exact_string _
  · exact payload.choices.exact_fields field choices

theorem CoreApiPayload.exact_toValue {payload : CoreApiPayload} (exact : payload.body.Exact) :
    payload.toValue.Exact := by
  refine Value.exact_ofStruct ?_
  intro field inside
  rcases List.mem_append.mp inside with session | rest
  · exact payload.session.exact_fields field session
  · simp only [List.mem_cons, List.not_mem_nil, or_false] at rest
    rcases rest with rfl | rfl
    · exact Value.exact_string _
    · exact exact

theorem Call.exact_payload {call : Call} (hosts : List String) (exact : call.Exact) :
    (call.payload hosts).Exact := by
  cases call with
  | getVersion => exact Value.exact_ofStruct (by simp)
  | getStatus => exact Value.exact_ofStruct (by simp)
  | connect session profile takeOver routingMode choices => exact ProfilePayload.exact_toValue exact
  | updateProfile session profile routingMode choices => exact ProfilePayload.exact_toValue exact
  | renewLease session => exact Value.exact_ofStruct session.exact_fields
  | disconnect session => exact Value.exact_ofStruct session.exact_fields
  | coreApi session path body => exact CoreApiPayload.exact_toValue exact
  | watch session => exact Value.exact_ofStruct session.exact_fields

theorem SessionRef.ofValue_toValue (session : SessionRef) :
    Service.SessionRef.ofValue session.toValue = some session.there := by
  rw [Service.SessionRef.ofValue, SessionRef.toValue, Value.struct_ofStruct]
  simp [Service.SessionRef.ofFields, Fields.required, SessionRef.fields, Value.toMap, Value.asStr,
    SessionRef.there]

theorem IngressPin.ofValue_toValue (pin : IngressPin) :
    Service.IngressPin.ofValue pin.toValue = some pin.there := by
  rw [Service.IngressPin.ofValue, IngressPin.toValue, Value.struct_ofStruct]
  simp [Fields.required, Value.toMap, Value.asStr, IngressPin.there]

theorem asList_pins (pins : List IngressPin) :
    (Value.ofList IngressPin.toValue pins).asList Service.IngressPin.ofValue
      = some (pins.map IngressPin.there) :=
  Value.asList_ofList IngressPin.ofValue_toValue pins

theorem asList_hosts (hosts : List String) :
    (Value.ofList .string hosts).asList Value.asStr = some hosts := by
  have again : ∀ host, Value.asStr (.string host) = some (id host) := fun _ => rfl
  rw [Value.asList_ofList again, List.map_id]

theorem ProfilePayload.connect_toValue {payload : ProfilePayload} (normal : payload.profile.Normal) :
    Service.ConnectPayload.ofValue payload.toValue
      = some
        { session := payload.session.there, profile := payload.profile, takeOver := payload.takeOver,
          allowedRuleSetHosts := payload.allowedRuleSetHosts, routingMode := some payload.routingMode,
          choices := payload.choices.there } := by
  rw [Service.ConnectPayload.ofValue, ProfilePayload.toValue, Value.flat_ofStruct]
  obtain ⟨session, profile, takeOver, hosts, mode, ⟨node, pins⟩⟩ := payload
  cases hosts <;> cases node <;> cases pins <;>
    simp [Service.SessionRef.ofFields, Service.ApplyChoices.ofFields, Fields.required,
      Fields.optional, Fields.defaulted, Value.toMap, SessionRef.fields, ApplyChoices.fields, skipped,
      SessionRef.there, ApplyChoices.there, normal.read, asList_pins, asList_hosts]

theorem ProfilePayload.update_toValue {payload : ProfilePayload} (normal : payload.profile.Normal) :
    Service.UpdateProfilePayload.ofValue payload.toValue
      = some
        { session := payload.session.there, profile := payload.profile,
          allowedRuleSetHosts := payload.allowedRuleSetHosts, routingMode := some payload.routingMode,
          choices := payload.choices.there } := by
  rw [Service.UpdateProfilePayload.ofValue, ProfilePayload.toValue, Value.flat_ofStruct]
  obtain ⟨session, profile, takeOver, hosts, mode, ⟨node, pins⟩⟩ := payload
  cases hosts <;> cases node <;> cases pins <;>
    simp [Service.SessionRef.ofFields, Service.ApplyChoices.ofFields, Fields.required,
      Fields.optional, Fields.defaulted, Value.toMap, SessionRef.fields, ApplyChoices.fields, skipped,
      SessionRef.there, ApplyChoices.there, normal.read, asList_pins, asList_hosts]

theorem CoreApiPayload.ofValue_toValue {payload : CoreApiPayload} (normal : payload.body.Normal) :
    Service.CoreApiPayload.ofValue payload.toValue
      = some { session := payload.session.there, path := payload.path, body := payload.body } := by
  rw [Service.CoreApiPayload.ofValue, CoreApiPayload.toValue, Value.flat_ofStruct]
  simp [Service.SessionRef.ofFields, Fields.required, Value.toMap, SessionRef.fields,
    SessionRef.there, normal.read]

/-- The service decodes of every call what the client said. -/
theorem Call.order_payload {call : Call} {hosts : List String} {request : Request}
    (exact : call.Exact) (command : request.command = call.command)
    (payload : request.payload = call.payload hosts) :
    request.there.order = some (call.order hosts) := by
  rw [Service.Request.order, Request.there, command, payload]
  cases call with
  | getVersion => rfl
  | getStatus => rfl
  | connect session profile takeOver routingMode choices =>
    exact congrArg (Option.map Service.Order.connect) (ProfilePayload.connect_toValue exact.toNormal)
  | updateProfile session profile routingMode choices =>
    exact congrArg (Option.map Service.Order.updateProfile)
      (ProfilePayload.update_toValue exact.toNormal)
  | renewLease session =>
    exact congrArg (Option.map Service.Order.renewLease) session.ofValue_toValue
  | disconnect session =>
    exact congrArg (Option.map Service.Order.disconnect) session.ofValue_toValue
  | coreApi session path body =>
    exact congrArg (Option.map Service.Order.coreApi) (CoreApiPayload.ofValue_toValue exact.toNormal)
  | watch session => exact congrArg (Option.map Service.Order.watch) session.ofValue_toValue

/-! ## The way back -/

/-- Data that is `null` is no data. -/
def carried (data : Option Value) : Option Value :=
  match data.getD .null with
  | .null => none
  | v => some v

/-- The client's copy of a response. -/
def Response.here (resp : Service.Response) : Response :=
  { id := resp.id, success := resp.success, data := carried resp.data, error := resp.error,
    signature := resp.signature }

def ServiceStatus.here (status : Service.Status) : ServiceStatus :=
  { running := status.running, pid := status.pid, binPath := status.binPath, mode := status.mode,
    serviceVersion := status.serviceVersion, serviceBuildId := some status.serviceBuildId,
    sessionId := status.sessionId, generation := status.generation,
    profileRevision := status.profileRevision, leaseExpiresAtMs := status.leaseExpiresAtMs }

def VersionInfo.here (info : Service.VersionInfo) : VersionInfo :=
  { service := info.service, version := info.version, buildId := some info.buildId }

theorem ServiceStatus.ofValue_toValue (status : Service.Status) :
    ServiceStatus.ofValue status.toValue = some (here status) := by
  rw [ServiceStatus.ofValue, Service.Status.toValue, Value.struct_ofStruct]
  simp [Fields.required, Fields.optional, Value.toMap, here]

theorem VersionInfo.ofValue_toValue (info : Service.VersionInfo) :
    VersionInfo.ofValue info.toValue = some (here info) := by
  rw [VersionInfo.ofValue, Service.VersionInfo.toValue, Value.struct_ofStruct]
  simp [Fields.required, Fields.optional, Value.toMap, here]

theorem Response.here_document (resp : Service.Response) : (here resp).document = resp.document := by
  have same : (carried resp.data).getD .null = resp.data.getD .null := by
    rw [carried]
    cases resp.data.getD .null <;> rfl
  rw [Response.document, Service.Response.document]
  simp [here, same]

theorem optional_data {data : Option Value} (normal : ∀ v ∈ data, v.Normal) :
    (data.getD .null).asOption (fun v => some v.read) = some (carried data) := by
  have same : (data.getD .null).read = data.getD .null := by
    cases data with
    | none => exact Value.exact_null.read
    | some v => exact (normal v rfl).read
  rw [carried]
  generalize data.getD .null = v at same
  cases v <;> simp [Value.asOption, same]

theorem Response.ofDocument_document {resp : Service.Response} (normal : ∀ v ∈ resp.data, v.Normal) :
    ofDocument resp.document = some (here resp) := by
  have once : (([("id", .string resp.id), ("success", .bool resp.success),
      ("data", resp.data.getD .null), ("error", .ofOption .string resp.error),
      ("signature", .string resp.signature)] : Fields).map (·.1)).Nodup := by simp
  rw [Response.ofDocument, Service.Response.document, Value.struct, Value.flat_eq once]
  simp [Fields.required, Fields.optional, Fields.get, optional_data normal, here]

theorem every_data {p : Value → Prop} {resp : Service.Response} (object : ∀ fields, p (.object fields))
    (plain : ∀ v : Value, v.Exact → v.parts = [] → p v) (data : ∀ v ∈ resp.data, Value.Every p v) :
    Value.Every p resp.document := by
  have leaf : ∀ v : Value, v.Exact → v.parts = [] → Value.Every p v :=
    fun v exact none => .leaf (plain v exact none) none
  refine .mk (object _) ?_
  intro v inside
  simp only [Service.Response.document, Value.parts, List.map_cons, List.map_nil, List.mem_cons,
    List.not_mem_nil, or_false] at inside
  rcases inside with rfl | rfl | rfl | rfl | rfl
  · exact leaf _ (Value.exact_string _) rfl
  · exact leaf _ (Value.exact_bool _) rfl
  · cases carried : resp.data with
    | none => exact leaf _ Value.exact_null rfl
    | some v => exact data v carried
  · cases resp.error with
    | none => exact leaf _ Value.exact_null rfl
    | some token => exact leaf _ (Value.exact_string _) rfl
  · exact leaf _ (Value.exact_string _) rfl

theorem response_fits {resp : Service.Response} (fits : ∀ v ∈ resp.data, v.Fits) :
    resp.document.Fits :=
  every_data (fun _ => trivial) (fun _ exact _ => exact.fits.here) fits

theorem response_whole {resp : Service.Response} (whole : ∀ v ∈ resp.data, v.Whole) :
    resp.document.Whole :=
  every_data (fun _ => rfl) (fun _ exact _ => exact.whole.here) whole

/-- A frame that is not too large is read, however it arrives. -/
theorem readResponse_frame {json : Json} {location : String} {handshake : Bool} {reader : Reader}
    {v : Value} {response : Response}
    (arrives : reader.flatten = bytesOfU32 (json.toVec v).length ++ json.toVec v)
    (small : (json.toVec v).length ≤ maxFrameBytes) (again : json.fromSlice (json.toVec v) = some v)
    (reads : Response.ofDocument v = some response) :
    readResponse json location handshake reader = .ok response := by
  obtain ⟨head, length, body⟩ := fill_frame (lt_of_le_of_lt small (by decide)) arrives
  simp [readResponse, readFrame, head, length, body, again, reads, not_lt.mpr small]

/-- The canonical text of a response says everything but the signature, and whether
there was no data or `null`. -/
theorem response_canonical_inj {json : Json} (faithful : json.Faithful) {a b : Service.Response}
    (fits : ∀ v ∈ a.data, v.Fits) (fits' : ∀ v ∈ b.data, v.Fits)
    (same : a.canonical json = b.canonical json) :
    carried a.data = carried b.data ∧ { a with data := b.data, signature := b.signature } = b := by
  have written : ({ a with signature := "" } : Service.Response).document.Fits := response_fits fits
  have written' : ({ b with signature := "" } : Service.Response).document.Fits := response_fits fits'
  have document := faithful.apart _ _ written written' same
  simp only [Service.Response.document, Value.object.injEq, List.cons.injEq, Prod.mk.injEq,
    Value.string.injEq, Value.bool.injEq, true_and, and_true] at document
  obtain ⟨id, success, data, error⟩ := document
  have error := Service.ofOption_string_inj error
  have kept : carried a.data = carried b.data := by rw [carried, carried, data]
  refine ⟨kept, ?_⟩
  cases b
  simp_all

/-! ## Agreement -/

/-- The client and the service understand each other. -/
structure Agree (json : Json) (mac : Mac) : Prop where
  /-- Every request the client signs is read as it is, however it arrives, and its
  signature holds. -/
  requests : ∀ (id : String) (now : UInt64) (command : Command) (payload : Value) (token : String)
      (key : List UInt8) (stream : Reader) (request : Request),
    request = .signed json mac id now command payload token key → payload.Exact →
    (json.toVec request.document).length ≤ Service.maxFrameBytes →
    stream.flatten = frame (json.toVec request.document) →
    Service.readRequest json stream = .ok request.there ∧
      request.there.verifyWith json mac key = true
  /-- The payload of every call says what the client said. -/
  payloads : ∀ (call : Call) (hosts : List String) (request : Request), call.Exact →
    request.command = call.command → request.payload = call.payload hosts →
    request.payload.Exact ∧ request.there.order = some (call.order hosts)
  /-- Every response is read as it is, but for data that is `null`. -/
  responses : ∀ (resp : Service.Response) (location : String) (handshake : Bool) (stream : Reader),
    (∀ v ∈ resp.data, v.Exact) → (json.toVec resp.document).length ≤ maxFrameBytes →
    stream.flatten = Service.writeFrame json resp →
    readResponse json location handshake stream = .ok (.here resp)
  /-- The signature of a response holds. -/
  signatures : ∀ (id : String) (success : Bool) (data : Option Value) (error : Option String)
      (key : List UInt8),
    (Response.here (.signedWith json mac id success data error key)).verifyWith json mac key = true
  /-- The client takes from a response the data the service signed. -/
  answers : ∀ (id : String) (data : Option Value) (error : Option String) (key : List UInt8),
    verifyResponse json mac (.here (.signedWith json mac id true data error key)) id key
      = .ok ((carried data).getD (.object []))
  status : ∀ status : Service.Status,
    status.toValue.Exact ∧ carried (some status.toValue) = some status.toValue ∧
      ServiceStatus.ofValue status.toValue = some (.here status)
  version : ∀ info : Service.VersionInfo,
    info.toValue.Exact ∧ carried (some info.toValue) = some info.toValue ∧
      VersionInfo.ofValue info.toValue = some (.here info)
  /-- Two requests with the same canonical text differ in their signature only. -/
  requestTexts : ∀ a b : Service.Request, a.payload.Normal → b.payload.Normal →
    a.canonical json = b.canonical json → { a with signature := b.signature } = b
  /-- Two responses with the same canonical text differ in their signature only, and in
  that one may have no data where the other has `null`. -/
  responseTexts : ∀ a b : Service.Response, (∀ v ∈ a.data, v.Normal) → (∀ v ∈ b.data, v.Normal) →
    a.canonical json = b.canonical json →
    carried a.data = carried b.data ∧ { a with data := b.data, signature := b.signature } = b

theorem Request.signed_read {json : Json} {mac : Mac} {id token : String} {now : UInt64}
    {command : Command} {payload : Value} {key : List UInt8} {request : Request} {stream : Reader}
    (faithful : json.Faithful)
    (signed : request = .signed json mac id now command payload token key) (exact : payload.Exact)
    (small : (json.toVec request.document).length ≤ Service.maxFrameBytes)
    (arrives : stream.flatten = frame (json.toVec request.document)) :
    Service.readRequest json stream = .ok request.there ∧
      request.there.verifyWith json mac key = true := by
  have same : request.payload = payload := by rw [signed]; rfl
  have there : request.there.payload.Exact := by
    change request.payload.Exact
    rw [same]
    exact exact
  have fits := Service.Request.document_fits there.fits
  have whole := Service.Request.document_whole there.whole
  rw [← Request.there_document] at small arrives
  refine ⟨Service.readRequest_frame arrives small (faithful.again _ fits whole)
    (Service.Request.ofDocument_document there.toNormal), ?_⟩
  rw [Service.Request.verifyWith, Request.there_canonical, signed]
  exact Service.verifyWith_signWith mac key _

theorem Status.exact_toValue (status : Service.Status) : status.toValue.Exact :=
  Value.exact_ofStruct (by simp)

theorem VersionInfo.exact_toValue (info : Service.VersionInfo) : info.toValue.Exact :=
  Value.exact_ofStruct (by simp)

theorem Response.here_verifies (json : Json) (mac : Mac) (id : String) (success : Bool)
    (data : Option Value) (error : Option String) (key : List UInt8) :
    (here (.signedWith json mac id success data error key)).verifyWith json mac key = true := by
  have text := here_document { id, success, data, error, signature := "" }
  have same : { here (.signedWith json mac id success data error key) with signature := "" }
      = here { id, success, data, error, signature := "" } := rfl
  rw [verifyWith, same, text]
  exact Service.verifyWith_signWith mac key _

/-- The two copies of the protocol agree. -/
theorem copies_agree {json : Json} (faithful : json.Faithful) (mac : Mac) : Agree json mac where
  requests id now command payload token key stream request signed exact small arrives :=
    Request.signed_read faithful signed exact small arrives
  payloads call hosts request exact command payload :=
    ⟨payload ▸ Call.exact_payload hosts exact, Call.order_payload exact command payload⟩
  responses resp location handshake stream exact small arrives := by
    have fits := response_fits fun v inside => (exact v inside).fits
    have whole := response_whole fun v inside => (exact v inside).whole
    exact readResponse_frame arrives small (faithful.again _ fits whole)
      (Response.ofDocument_document fun v inside => (exact v inside).toNormal)
  signatures id success data error key := Response.here_verifies json mac id success data error key
  answers id data error key := by
    have verified := Response.here_verifies json mac id true data error key
    rw [verifyResponse, verified]
    simp [Response.here, Service.Response.signedWith]
  status status := ⟨Status.exact_toValue status, rfl, ServiceStatus.ofValue_toValue status⟩
  version info := ⟨VersionInfo.exact_toValue info, rfl, VersionInfo.ofValue_toValue info⟩
  requestTexts a b normal normal' same :=
    Service.Request.canonical_inj faithful normal.fits normal'.fits same
  responseTexts a b normal normal' same :=
    response_canonical_inj faithful (fun v inside => (normal v inside).fits)
      (fun v inside => (normal' v inside).fits) same

/-! A call, its frame in two pieces. -/

def sampleKey : List UInt8 := (List.range 32).map fun n => UInt8.ofNat (n + 1)

/-- HMAC-SHA256 of the sample's canonical text under its key. -/
def sampleMac : Mac := fun _ _ =>
  [12, 243, 141, 61, 136, 130, 189, 50, 26, 80, 160, 91, 222, 240, 145, 75, 5, 218, 208, 148, 176,
    228, 46, 225, 49, 86, 118, 19, 125, 14, 190, 71]

def sampleProfile : Value :=
  .ofStruct [("revision", .string "r1"), ("schema_version", .ofU64 1)]

def sampleCall : Call :=
  .connect { sessionId := "s-1", generation := 7 } sampleProfile true .global
    { selectedNodeId := some "n1", pins := [{ nodeId := "n1", endpointKey := "e1" }] }

noncomputable def sampleRequest : Request :=
  .signed Service.compact sampleMac "r-1" 1700000000 .connect (sampleCall.payload ["api.example"])
    "t-1" sampleKey

theorem sampleProfile_exact : sampleProfile.Exact := Value.exact_ofStruct (by simp)

theorem sampleRequest_small :
    (Service.compact.toVec sampleRequest.document).length ≤ Service.maxFrameBytes := by
  decide +kernel

theorem copies_agree_sample :
    Service.readRequest Service.compact
        [(frame (Service.compact.toVec sampleRequest.document)).take 4,
          (frame (Service.compact.toVec sampleRequest.document)).drop 4]
      = .ok sampleRequest.there ∧
    sampleRequest.there.verifyWith Service.compact sampleMac sampleKey = true ∧
    sampleRequest.there.order = some (sampleCall.order ["api.example"]) := by
  have agree := copies_agree Service.compact_faithful sampleMac
  obtain ⟨exact, order⟩ := agree.payloads sampleCall ["api.example"] sampleRequest sampleProfile_exact
    rfl rfl
  have pieces : ∀ bytes : List UInt8, [bytes.take 4, bytes.drop 4].flatten = bytes := by simp
  obtain ⟨reads, verifies⟩ := agree.requests _ _ _ _ _ _ _ sampleRequest rfl exact sampleRequest_small
    (pieces _)
  exact ⟨reads, verifies, order⟩

/-- A response without data, and the same with `null`. -/
def emptyResponse : Service.Response :=
  { id := "r-1", success := true, data := none, error := none, signature := "" }

def nullResponse : Service.Response := { emptyResponse with data := some .null }

/-- The two have the same text, and the client reads both without data. -/
theorem null_data_lost :
    Service.compact.Faithful ∧
    nullResponse.canonical Service.compact = emptyResponse.canonical Service.compact ∧
    { nullResponse with signature := emptyResponse.signature } ≠ emptyResponse ∧
    readResponse Service.compact "" false [Service.writeFrame Service.compact nullResponse]
      = .ok { id := "r-1", success := true, data := none, error := none, signature := "" } := by
  have small : (Service.compact.toVec nullResponse.document).length ≤ maxFrameBytes := by
    decide +kernel
  have fits : nullResponse.document.Fits := response_fits fun v inside => by
    cases inside
    exact Value.exact_null.fits
  have whole : nullResponse.document.Whole := response_whole fun v inside => by
    cases inside
    exact Value.exact_null.whole
  refine ⟨Service.compact_faithful, rfl, ?_, ?_⟩
  · intro same
    have data := congrArg Service.Response.data same
    cases data
  · exact readResponse_frame (by rw [List.flatten_singleton]; rfl) small
      (Service.compact_faithful.again _ fits whole)
      (Response.ofDocument_document fun v inside => by cases inside; exact Value.exact_null.toNormal)

end PpvpnCore.Desktop.Client
