import PpvpnCore.Desktop.Agree
import PpvpnCore.Engine.Lifecycle
import PpvpnCore.Service.Core

/-!
The two ways of a profile to the engine: the request of the app to the engine in
its own process (`profile_request` of `desktop/src/core_ipc.rs`), and the one the
service makes (`apply_body` of `service/src/core.rs`) of the payload the app sends
it; `apply_request` of `engine-host/src/lib.rs` reads either.
-/

namespace PpvpnCore.EngineHost

open PpvpnCore.Service (Value Fields Json)

inductive ApiError where
  | requestInvalid (message : String)
  | routingModeInvalid
  deriving DecidableEq

/-- What the engine's `apply` takes; `profile` is its text. -/
structure ApplyRequest where
  profile : List UInt8
  routingMode : RoutingMode
  selectedNodeId : Option String
  pins : List Pin
  allowedRuleSetHosts : List String
  deriving DecidableEq

/-- Empty means rules. -/
def parseRoutingMode (value : String) : Except ApiError RoutingMode :=
  if value = "" ∨ value = "rules" then .ok .rules
  else if value = "global" then .ok .global
  else .error .routingModeInvalid

def pinOfValue (v : Value) : Option Pin := do
  let fields ← v.struct ["node_id", "endpoint_key"] 0
  return {
    nodeId := ← fields.required "node_id" Value.asStr
    endpointKey := ← fields.required "endpoint_key" Value.asStr }

/-- The items of an array, none of anything else. -/
def items : Value → List Value
  | .array items => items
  | _ => []

def selected (body : Value) : Except ApiError (Option String) :=
  match body.get "selected_node_id" with
  | none | some .null => .ok none
  | some (.string nodeId) => .ok (some nodeId)
  | some _ => .error (.requestInvalid "selected_node_id must be a string")

def pins (body : Value) : Except ApiError (List Pin) :=
  match body.get "pins" with
  | none | some .null => .ok []
  | some pins =>
    match pins.asList pinOfValue with
    | some pins => .ok pins
    | none => .error (.requestInvalid "pins")

/-- The body of an `apply-profile`. -/
def applyRequest (json : Json) (body : Value) : Except ApiError ApplyRequest := do
  -- a missing profile stays empty: the engine reports it
  let profile :=
    match body.get "profile" with
    | none | some .null => []
    | some profile => json.toVec profile
  let routingMode ← parseRoutingMode (((body.get "routing_mode").bind Value.asStr).getD "")
  let allowedRuleSetHosts :=
    (((body.get "allowed_rule_set_hosts").map items).getD []).filterMap Value.asStr
  let selectedNodeId ← selected body
  let pins ← pins body
  return { profile, routingMode, selectedNodeId, pins, allowedRuleSetHosts }

end PpvpnCore.EngineHost

namespace PpvpnCore.Service

def IngressPin.toValue (pin : IngressPin) : Value :=
  .ofStruct [("node_id", .string pin.nodeId), ("endpoint_key", .string pin.endpointKey)]

/-- `body[key] = value` of an object. -/
def Value.insert (body : Value) (key : String) (value : Value) : Value :=
  match body with
  | .object fields => .object (put key value fields)
  | other => other

/-- The body of the service's `apply-profile`. -/
def applyBody (profile : Value) (allowedRuleSetHosts : List String) (routingMode : Option String)
    (choices : ApplyChoices) : Value :=
  let body : Value := .ofStruct [("profile", profile)]
  let body :=
    if allowedRuleSetHosts.isEmpty then body
    else body.insert "allowed_rule_set_hosts" (.ofList .string allowedRuleSetHosts)
  let body :=
    match routingMode with
    | some mode => body.insert "routing_mode" (.string mode)
    | none => body
  let body :=
    match choices.selectedNodeId with
    | some nodeId => body.insert "selected_node_id" (.string nodeId)
    | none => body
  if choices.pins.isEmpty then body
  else body.insert "pins" (.ofList IngressPin.toValue choices.pins)

/-- The order of a request as it arrives. -/
def orderOf (json : Json) (text : List UInt8) : Option Order := do
  (← Request.ofDocument (← json.fromSlice text)).order

/-- What the service applies for an order, once it has accepted the profile. -/
def Order.applyBody : Order → Except String Value
  | .connect body => do
    let _ ← checkProfile body.profile
    checkRoutingMode body.routingMode
    return Service.applyBody body.profile body.allowedRuleSetHosts body.routingMode body.choices
  | .updateProfile body => do
    let _ ← checkProfile body.profile
    checkRoutingMode body.routingMode
    return Service.applyBody body.profile body.allowedRuleSetHosts body.routingMode body.choices
  | _ => .error "PROFILE_REQUIRED"

end PpvpnCore.Service

namespace PpvpnCore.Desktop.Client

open PpvpnCore.Service (Value Json)

/-- The body of the app's `ApplyProfile`. -/
def profileRequest (profile : Value) (allowedRuleSetHosts : Option (List String))
    (routingMode : Option RoutingMode) (choices : ApplyChoices) : Value :=
  let body : Value := .ofStruct [("profile", profile)]
  let body :=
    match allowedRuleSetHosts.filter (!·.isEmpty) with
    | some hosts => body.insert "allowed_rule_set_hosts" (.ofList .string hosts)
    | none => body
  let body :=
    match routingMode with
    | some mode => body.insert "routing_mode" (.string (wireName mode))
    | none => body
  let body :=
    match choices.selectedNodeId with
    | some nodeId => body.insert "selected_node_id" (.string nodeId)
    | none => body
  if choices.pins.isEmpty then body
  else body.insert "pins" (.ofList IngressPin.toValue choices.pins)

end PpvpnCore.Desktop.Client

namespace PpvpnCore.Service

theorem Value.get_object (fields : Fields) (key : String) :
    (Value.object fields).get key = fields.get key := rfl

theorem Value.insert_object (fields : Fields) (key : String) (value : Value) :
    (Value.object fields).insert key value = .object (put key value fields) := rfl

end PpvpnCore.Service

namespace PpvpnCore.Desktop.Client

open PpvpnCore.Service (Value Fields Json)

theorem toValue_there (pin : IngressPin) : Service.IngressPin.toValue pin.there = pin.toValue := rfl

theorem profileRequest_eq (profile : Value) (hosts : List String) (mode : RoutingMode)
    (choices : ApplyChoices) :
    profileRequest profile (some hosts) (some mode) choices =
      Service.applyBody profile hosts (some (wireName mode)) choices.there := by
  obtain ⟨node, pins⟩ := choices
  have same : Value.ofList Service.IngressPin.toValue (pins.map IngressPin.there) =
      Value.ofList IngressPin.toValue pins := by
    unfold Value.ofList
    rw [List.map_map]
    rfl
  unfold profileRequest Service.applyBody ApplyChoices.there
  rw [same, List.isEmpty_map]
  cases hosts with
  | nil => rfl
  | cons host hosts => rfl

end PpvpnCore.Desktop.Client

namespace PpvpnCore.EngineHost

open PpvpnCore.Service (Value Fields Json)

def pinThere (pin : Service.IngressPin) : Pin := ⟨pin.nodeId, pin.endpointKey⟩

theorem pinOfValue_toValue (pin : Service.IngressPin) :
    pinOfValue pin.toValue = some (pinThere pin) := by
  rw [pinOfValue, Service.IngressPin.toValue, Value.struct_ofStruct]
  simp [Fields.required, Value.toMap, Value.asStr, pinThere]

/-- What the service's body holds. -/
theorem get_applyBody (profile : Value) (hosts : List String) (mode : String)
    (choices : Service.ApplyChoices) :
    let body := Service.applyBody profile hosts (some mode) choices
    body.get "profile" = some profile ∧ body.get "routing_mode" = some (.string mode) ∧
      body.get "allowed_rule_set_hosts" =
        (if hosts.isEmpty then none else some (.ofList .string hosts)) ∧
      body.get "selected_node_id" = choices.selectedNodeId.map .string ∧
      body.get "pins" =
        (if choices.pins.isEmpty then none
          else some (.ofList Service.IngressPin.toValue choices.pins)) := by
  obtain ⟨node, pins⟩ := choices
  cases hosts <;> cases node <;> cases pins <;>
    simp [Service.applyBody, Value.ofStruct, Value.toMap, Value.insert_object, Value.get_object]

theorem applyRequest_applyBody {json : Json} {profile : Value} (given : profile ≠ .null)
    {hosts : List String} {mode : String} {routingMode : RoutingMode}
    (known : parseRoutingMode mode = .ok routingMode) (choices : Service.ApplyChoices) :
    applyRequest json (Service.applyBody profile hosts (some mode) choices) =
      .ok
        { profile := json.toVec profile, routingMode, selectedNodeId := choices.selectedNodeId,
          pins := choices.pins.map pinThere, allowedRuleSetHosts := hosts } := by
  obtain ⟨aProfile, aMode, someHosts, node, somePins⟩ := get_applyBody profile hosts mode choices
  have hostsRead : (((Service.applyBody profile hosts (some mode) choices).get
      "allowed_rule_set_hosts").map items).getD [] = hosts.map .string := by
    rw [someHosts]
    cases hosts <;> rfl
  have pinsRead : pins (Service.applyBody profile hosts (some mode) choices) =
      .ok (choices.pins.map pinThere) := by
    unfold pins
    rw [somePins]
    cases none : choices.pins with
    | nil => rfl
    | cons pin rest =>
      have list := Value.asList_ofList pinOfValue_toValue (pin :: rest)
      rw [Value.ofList] at list ⊢
      dsimp only [List.isEmpty_cons]
      rw [if_neg Bool.false_ne_true]
      dsimp only
      rw [list]
  have selectedRead : selected (Service.applyBody profile hosts (some mode) choices) =
      .ok choices.selectedNodeId := by
    unfold selected
    rw [node]
    cases choices.selectedNodeId <;> rfl
  unfold applyRequest
  rw [aMode, hostsRead, pinsRead, selectedRead, aProfile]
  have strings : (hosts.map Value.string).filterMap Value.asStr = hosts := by
    rw [List.filterMap_map]
    exact List.filterMap_some
  have text : (match some profile with
      | none | some .null => []
      | some profile => json.toVec profile) = json.toVec profile := by
    split
    next => contradiction
    next same => exact absurd (Option.some.inj same) given
    next other _ same => rw [Option.some.inj same]
  rw [text, strings]
  dsimp only [Option.bind_some, Value.asStr, Option.getD_some]
  rw [known]
  rfl

end PpvpnCore.EngineHost

namespace PpvpnCore.Desktop.Client

open PpvpnCore.Service (Value Json)

/-- The engine's mode. -/
def RoutingMode.applied : RoutingMode → PpvpnCore.RoutingMode
  | .rules => .rules
  | .global => .global

theorem parseRoutingMode_wireName (mode : RoutingMode) :
    EngineHost.parseRoutingMode (wireName mode) = .ok mode.applied := by
  cases mode <;> rfl

theorem checkRoutingMode_wireName (mode : RoutingMode) :
    Service.checkRoutingMode (some (wireName mode)) = .ok () := by
  cases mode <;> rfl

/-- What the engine is asked for, either way. -/
def wanted (json : Json) (profile : Value) (hosts : List String) (mode : RoutingMode)
    (choices : ApplyChoices) : EngineHost.ApplyRequest where
  profile := json.toVec profile
  routingMode := mode.applied
  selectedNodeId := choices.selectedNodeId
  pins := choices.pins.map fun pin => ⟨pin.nodeId, pin.endpointKey⟩
  allowedRuleSetHosts := hosts

/-- An accepted profile is not null. -/
theorem ne_null_of_accepted {profile : Value} {known : String × UInt64}
    (accepted : Service.checkProfile profile = .ok known) : profile ≠ .null := by
  rintro rfl
  cases accepted

theorem applyRequest_there (json : Json) {profile : Value} (given : profile ≠ .null)
    (hosts : List String) (mode : RoutingMode) (choices : ApplyChoices) :
    EngineHost.applyRequest json
        (Service.applyBody profile hosts (some (wireName mode)) choices.there) =
      .ok (wanted json profile hosts mode choices) := by
  rw [EngineHost.applyRequest_applyBody given (parseRoutingMode_wireName mode)]
  unfold wanted ApplyChoices.there
  rw [List.map_map]
  rfl

/-- A profile the service accepts reaches the engine as the same request from the
app itself and through the service, by a Connect or an UpdateProfile. -/
theorem same_request {json : Json} (faithful : json.Faithful) {profile : Value}
    {known : String × UInt64} (accepted : Service.checkProfile profile = .ok known)
    (exact : profile.Exact) (hosts : List String) (mode : RoutingMode) (choices : ApplyChoices)
    (session : SessionRef) (takeOver : Bool) {request : Request} {call : Call}
    (made : call = .connect session profile takeOver mode choices ∨
      call = .updateProfile session profile mode choices)
    (command : request.command = call.command) (payload : request.payload = call.payload hosts) :
    EngineHost.applyRequest json (profileRequest profile (some hosts) (some mode) choices) =
        .ok (wanted json profile hosts mode choices) ∧
      ∃ order body, Service.orderOf json (json.toVec request.document) = some order ∧
        order.applyBody = .ok body ∧
        EngineHost.applyRequest json body = .ok (wanted json profile hosts mode choices) := by
  have given := ne_null_of_accepted accepted
  have callExact : call.Exact := by
    rcases made with rfl | rfl
    · exact exact
    · exact exact
  have sent : request.there.payload.Exact := by
    have whole := Call.exact_payload hosts callExact
    rw [← payload] at whole
    exact whole
  have heard : Service.orderOf json (json.toVec request.document) = some (call.order hosts) := by
    unfold Service.orderOf
    rw [← Request.there_document, faithful.again _ (Service.Request.document_fits sent.fits)
      (Service.Request.document_whole sent.whole)]
    show (Service.Request.ofDocument request.there.document >>= Service.Request.order) = _
    rw [Service.Request.ofDocument_document sent.toNormal]
    exact Call.order_payload callExact command payload
  have asked := applyRequest_there json given hosts mode choices
  refine ⟨by rw [profileRequest_eq]; exact asked, call.order hosts, _, heard, ?_, asked⟩
  rcases made with rfl | rfl
  · show (Service.checkProfile profile >>= _) = _
    rw [accepted]
    show (Service.checkRoutingMode (some (wireName mode)) >>= _) = _
    rw [checkRoutingMode_wireName]
    rfl
  · show (Service.checkProfile profile >>= _) = _
    rw [accepted]
    show (Service.checkRoutingMode (some (wireName mode)) >>= _) = _
    rw [checkRoutingMode_wireName]
    rfl

def sampleChoices : ApplyChoices where
  selectedNodeId := some "n1"
  pins := [{ nodeId := "n1", endpointKey := "e1" }]

/-- The sample call's profile, and the sample request. -/
theorem same_request_sample :
    EngineHost.applyRequest Service.compact
        (profileRequest sampleProfile (some ["api.example"]) (some .global) sampleChoices) =
        .ok (wanted Service.compact sampleProfile ["api.example"] .global sampleChoices) ∧
      ∃ order body, Service.orderOf Service.compact (Service.compact.toVec sampleRequest.document) =
          some order ∧ order.applyBody = .ok body ∧
        EngineHost.applyRequest Service.compact body =
          .ok (wanted Service.compact sampleProfile ["api.example"] .global sampleChoices) := by
  have accepted : Service.checkProfile sampleProfile = .ok ("r1", 1) := rfl
  have command : sampleRequest.command = sampleCall.command := rfl
  exact same_request Service.compact_faithful accepted sampleProfile_exact ["api.example"] .global
    sampleChoices { sessionId := "s-1", generation := 7 } true (.inl rfl) command rfl

end PpvpnCore.Desktop.Client
