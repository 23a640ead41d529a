import PpvpnCore.Profile.RuleSet

/-!
# Semantic validation

`validate`: the checks of a decoded profile in their order, so that the first
error (code and field) is the one the contract names. The recursive parts
carry the ids seen so far, as the source's sets do.
-/

namespace PpvpnCore

open Lib

/-! ## Texts -/

/-- Labels of letters, digits and inner hyphens, at most 63 long; 253 in all,
no trailing dot. -/
def validDomain (value : List Char) : Bool :=
  value ≠ [] && value.length ≤ 253 && value.getLast? ≠ some '.' &&
    (splitAll '.' value).all fun label =>
      label ≠ [] && label.length ≤ 63 && label.head? ≠ some '-' && label.getLast? ≠ some '-' &&
        label.all fun c => c.isAlphanum || c = '-'

/-- 1 to 32 characters, trimmed, no control characters. -/
def validLabel (label : List Char) : Bool :=
  label ≠ [] && label = trim label && label.length ≤ maxIngressLabelLength &&
    !label.any isControl

/-- The profile's domain comparison: one trailing dot removed, IDNA to an
A-label, lowercase; an IP literal is no domain. -/
def normalizeDomain [Crates] (value : String) : Option String :=
  let value := stripSuffix '.' value.toList
  if value = [] ∨ value.getLast? = some '.' then none
  else
    match Crates.domainToAscii (String.ofList value) with
    | none => none
    | some ascii =>
      let ascii := toAsciiLowercase ascii.toList
      if !validDomain ascii ∨ (IpAddr.parse ascii).isSome then none else some (String.ofList ascii)

def parsePort (value : List Char) : Option UInt16 :=
  (parseDecimal 65536 value).bind fun n => if n ≠ 0 then some (UInt16.ofNat n) else none

/-- The inclusive `start-end` port range. -/
def parsePortRange (value : List Char) : Except String (UInt16 × UInt16) :=
  if trim value ≠ value ∨ value.count '-' ≠ 1 then .error "port range must use start-end"
  else
    match splitOnce '-' value with
    | none => .error "port range must use start-end"
    | some (start, stop) =>
      match parsePort start, parsePort stop with
      | none, _ => .error "port range start must be between 1 and 65535"
      | some _, none => .error "port range end must be between 1 and 65535"
      | some start, some stop =>
        if stop < start then .error "port range start must not exceed end" else .ok (start, stop)

/-- A base64 key of `want` bytes, padded or not. -/
def validKey [Crates] (value : String) (want : Nat) : Bool :=
  let value := String.ofList (value.toList.filter fun c => c ≠ '\r' && c ≠ '\n')
  match (Crates.decode .standard .requireCanonical value).or
      (Crates.decode .standard .requireNone value) with
  | some bytes => bytes.length = want
  | none => false

def validRealityPublicKey [Crates] (value : String) : Bool :=
  let value := String.ofList (value.toList.filter fun c => c ≠ '\r' && c ≠ '\n')
  (Crates.decode .urlSafe .requireNone value).any fun bytes => bytes.length = 32

def validUuid (value : List Char) : Bool :=
  match splitAll '-' value with
  | [a, b, c, d, e] =>
    [(a, 8), (b, 4), (c, 4), (d, 4), (e, 12)].all
      (fun (g, n) => g.length = n && g.all isHexDigit) &&
    c.head?.any (fun c => '1' ≤ c && c ≤ '5') &&
    d.head?.any (fun c => c ∈ ['8', '9', 'a', 'b', 'A', 'B'])
  | _ => false

/-! ## Ingresses -/

def keyLength (method : String) : Option Nat :=
  if method = "2022-blake3-aes-128-gcm" then some 16
  else if method = "2022-blake3-aes-256-gcm" ∨ method = "2022-blake3-chacha20-poly1305" then some 32
  else none

def validateIdentityKeys [Crates] (base : String) (length : Nat) :
    (i : Nat) → List String → Except Error Unit
  | _, [] => .ok ()
  | i, key :: keys => do
    check (validKey key length = true)
      (.invalid .credentialsInvalid s!"{base}.credentials.shadowsocks.identity_keys[{i}]"
        "identity key cannot be empty")
    validateIdentityKeys base length (i + 1) keys

def validateShadowsocks [Crates] (c : Credentials) (base : String) : Except Error Unit :=
  match c.shadowsocks.filter fun ss => ss.method ≠ "" && ss.userKey ≠ "" with
  | none => .error (.invalid .credentialsInvalid s!"{base}.credentials.shadowsocks"
      "shadowsocks credentials are incomplete")
  | some ss =>
    match keyLength ss.method with
    | none => .error (.invalid .shadowsocksMethodUnsupported
        s!"{base}.credentials.shadowsocks.method" "only Shadowsocks 2022 methods are supported")
    | some length => do
      check (validKey ss.userKey length = true)
        (.invalid .shadowsocksKeyInvalid s!"{base}.credentials.shadowsocks.user_key"
          "user key has invalid encoding or length")
      validateIdentityKeys base length 0 ss.identityKeys

/-- The REALITY settings with the server name they borrow. -/
def realityOf (tls : Option Tls) : Option (Tls × Reality) := do
  let tls ← tls
  let reality ← tls.reality
  if tls.serverName ≠ "" ∧ reality.publicKey ≠ "" then some (tls, reality) else none

def validateVless [Crates] (ingress : Ingress) (base : String) : Except Error Unit := do
  check (ingress.credentials.vless.any (fun v => validUuid v.uuid.toList) = true)
    (.invalid .credentialsInvalid s!"{base}.credentials.vless" "VLESS credentials are incomplete")
  match realityOf ingress.tls with
  | none => .error (.invalid .realityRequired s!"{base}.tls.reality"
      "VLESS REALITY settings are required")
  | some (tls, reality) => do
    check (validDomain tls.serverName.toList = true)
      (.invalid .tlsServerNameInvalid s!"{base}.tls.server_name"
        "REALITY server name must be a valid domain")
    check (validRealityPublicKey reality.publicKey = true)
      (.invalid .realityPublicKeyInvalid s!"{base}.tls.reality.public_key"
        "REALITY public key must be a base64url X25519 key")
    let shortId := reality.shortId.toList
    check (shortId.all isHexDigit = true ∧ shortId.length % 2 = 0 ∧ shortId.length ≤ 16)
      (.invalid .realityShortIdInvalid s!"{base}.tls.reality.short_id"
        "REALITY short ID must be even-length hexadecimal up to 16 characters")

def validateAnyTls (ingress : Ingress) (base : String) : Except Error Unit := do
  check (ingress.credentials.anytls.any (fun a => a.password ≠ "") = true)
    (.invalid .credentialsInvalid s!"{base}.credentials.anytls" "AnyTLS credentials are incomplete")
  match ingress.tls.filter fun tls => tls.serverName ≠ "" with
  | none => .error (.invalid .tlsRequired s!"{base}.tls" "AnyTLS TLS settings are required")
  | some tls =>
    check (tls.serverName = ingress.endpoint.domain)
      (.invalid .tlsServerNameMismatch s!"{base}.tls.server_name"
        "TLS server name must equal endpoint domain")

def validateCredentials [Crates] (ingress : Ingress) (base : String) : Except Error Unit := do
  let c := ingress.credentials
  check (c.shadowsocks.isSome.toNat + c.vless.isSome.toNat + c.anytls.isSome.toNat = 1)
    (.invalid .credentialsInvalid s!"{base}.credentials"
      "exactly one protocol credential object is required")
  if ingress.protocol = "shadowsocks" then validateShadowsocks c base
  else if ingress.protocol = "vless" then validateVless ingress base
  else if ingress.protocol = "anytls" then validateAnyTls ingress base
  else .error (.invalid .protocolUnsupported s!"{base}.protocol" "protocol is not supported")

def validateIngress [Crates] (ingress : Ingress) (base : String) : Except Error Unit := do
  check (validDomain ingress.endpoint.domain.toList = true)
    (.invalid .fieldRequired s!"{base}.endpoint.domain" "connection domain is required")
  check (ingress.endpoint.port ≠ 0)
    (.invalid .portInvalid s!"{base}.endpoint.port" "port must be non-zero")
  check (ingress.endpoint.ip = "" ∨
      (parseAddr ingress.endpoint.ip.toList).any isPublicUnicast = true)
    (.invalid .entryIpNotPublic s!"{base}.endpoint.ip"
      "entry IP must be a public unicast address")
  validateCredentials ingress base
  check (ingress.transport.any (fun t => t.kind ≠ "") = false)
    (.invalid .transportUnsupported s!"{base}.transport.type" "transport is not supported")
  check (ingress.capabilities.tcp = true ∨ ingress.capabilities.udp = true)
    (.invalid .capabilitiesInvalid s!"{base}.capabilities"
      "at least one network capability is required")

/-- The primary first and only there, the others backups. -/
def validateRole (i : Nat) (role field : String) : Except Error Unit :=
  if role = "primary" then
    check (i = 0) (.invalid .ingressRoleInvalid s!"{field}.role"
      "exactly one primary ingress is required and it must be listed first")
  else if role = "backup" then
    check (i ≠ 0) (.invalid .ingressRoleInvalid s!"{field}.role"
      "the first ingress must be the primary")
  else .error (.invalid .ingressRoleInvalid s!"{field}.role"
      "ingress role must be primary or backup")

/-- The ingresses from the `i`th on, after one of ordinal `before`; returns
every endpoint key seen. -/
def validateIngressesFrom [Crates] (base : String) : (i : Nat) → (before : Option Int) →
    List Ingress → (keys : List String) → Except Error (List String)
  | _, _, [], keys => .ok keys
  | i, before, ingress :: rest, keys => do
    let field := s!"{base}.ingresses[{i}]"
    validateRole i ingress.role field
    check (stableId ingress.endpointKey 128 true = true)
      (.invalid .endpointKeyInvalid s!"{field}.endpoint_key"
        "endpoint key is required and must be a stable identifier of at most 128 characters")
    check (ingress.endpointKey ∉ keys)
      (.invalid .endpointKeyDuplicate s!"{field}.endpoint_key"
        "endpoint key must be unique within the profile")
    check (ingress.label.all (fun label => validLabel label.toList) = true)
      (.invalid .ingressLabelInvalid s!"{field}.label"
        "ingress label must be 1-32 characters, trimmed, without control characters")
    check (0 ≤ ingress.replicaOrdinal)
      (.invalid .replicaOrdinalInvalid s!"{field}.replica_ordinal"
        "replica ordinal must be non-negative")
    check (before.all (fun before => before < ingress.replicaOrdinal) = true)
      (.invalid .replicaOrdinalInvalid s!"{field}.replica_ordinal"
        "replica ordinals must be unique and strictly increasing in failover order")
    validateIngress ingress field
    validateIngressesFrom base (i + 1) (some ingress.replicaOrdinal) rest
      (ingress.endpointKey :: keys)

def validateIngresses [Crates] (n : Node) (base : String) (keys : List String) :
    Except Error (List String) := do
  check (n.ingresses ≠ [])
    (.invalid .fieldRequired s!"{base}.ingresses" "at least one ingress is required")
  check (n.ingresses.length ≤ maxIngressesPerNode)
    (.invalid .ingressCountInvalid s!"{base}.ingresses" "at most 64 ingresses are supported")
  let keys ← validateIngressesFrom base 0 none n.ingresses keys
  check (n.ingresses.head?.all (fun primary =>
      (!n.capabilities.tcp || primary.capabilities.tcp) &&
        (!n.capabilities.udp || primary.capabilities.udp)) = true)
    (.invalid .capabilitiesInvalid s!"{base}.capabilities"
      "node capabilities must be supported by the primary (first) ingress")
  return keys

/-! ## Nodes -/

def validateNode [Crates] (i : Nat) (n : Node) (ids keys : List String) :
    Except Error (List String) := do
  let base := s!"nodes[{i}]"
  check (stableId n.id 128 false = true)
    (.invalid .nodeIdInvalid s!"{base}.id" "node id is not stable or valid")
  check (n.id ∉ ids) (.invalid .nodeIdDuplicate s!"{base}.id" "node id must be unique")
  check (stableId n.entryKey 64 false = true)
    (.invalid .entryKeyInvalid s!"{base}.entry_key"
      "entry key is required and must be a stable identifier of at most 64 characters")
  check (n.exit.ip = "" ∨ (parseAddr n.exit.ip.toList).isSome = true)
    (.invalid .exitIpInvalid s!"{base}.exit.ip" "exit IP must be a valid IP address")
  check (n.capabilities.tcp = true ∨ n.capabilities.udp = true)
    (.invalid .capabilitiesInvalid s!"{base}.capabilities"
      "at least one network capability is required")
  validateIngresses n base keys

/-- Every node id and endpoint key seen, the nodes from the `i`th on done. -/
def validateNodes [Crates] : (i : Nat) → List Node → (ids keys : List String) →
    Except Error (List String × List String)
  | _, [], ids, keys => .ok (ids, keys)
  | i, n :: nodes, ids, keys => do
    let keys ← validateNode i n ids keys
    validateNodes (i + 1) nodes (n.id :: ids) keys

/-! ## Routing -/

def validateDomains [Crates] (field : String) : (i : Nat) → List String → (seen : List String) →
    Except Error Unit
  | _, [], _ => .ok ()
  | i, value :: values, seen => do
    check ('*' ∉ value.toList ∧ '?' ∉ value.toList)
      (.invalid .domainWildcardUnsupported s!"{field}[{i}]" "wildcards are not supported")
    match normalizeDomain value with
    | none => .error (.invalid .domainInvalid s!"{field}[{i}]" "domain must be a valid IDNA name")
    | some normalized => do
      check (normalized ∉ seen)
        (.invalid .domainDuplicate s!"{field}[{i}]" "domain must be unique within a rule")
      validateDomains field (i + 1) values (normalized :: seen)

def validateCidrs (field : String) : (i : Nat) → List String → (seen : List Prefix) →
    Except Error Unit
  | _, [], _ => .ok ()
  | i, value :: values, seen =>
    match parsePrefix value.toList with
    | none => .error (.invalid .cidrInvalid s!"{field}.ip_cidrs[{i}]"
        "CIDR must be valid IPv4 or IPv6")
    | some p => do
      check (p.masked ∉ seen)
        (.invalid .cidrDuplicate s!"{field}.ip_cidrs[{i}]" "CIDR must be unique within a rule")
      validateCidrs field (i + 1) values (p.masked :: seen)

def validateProtocols (field : String) : (i : Nat) → List String → (seen : List String) →
    Except Error Unit
  | _, [], _ => .ok ()
  | i, protocol :: protocols, seen => do
    check (protocol = "tcp" ∨ protocol = "udp")
      (.invalid .networkUnsupported s!"{field}.protocols[{i}]" "protocol must be tcp or udp")
    check (protocol ∉ seen)
      (.invalid .networkDuplicate s!"{field}.protocols[{i}]"
        "protocol must be unique within a rule")
    validateProtocols field (i + 1) protocols (protocol :: seen)

def validatePorts (field : String) : (i : Nat) → List UInt16 → (seen : List UInt16) →
    Except Error Unit
  | _, [], _ => .ok ()
  | i, port :: ports, seen => do
    check (port ≠ 0) (.invalid .portInvalid s!"{field}.ports[{i}]" "port must be non-zero")
    check (port ∉ seen)
      (.invalid .portDuplicate s!"{field}.ports[{i}]" "port must be unique within a rule")
    validatePorts field (i + 1) ports (port :: seen)

def validatePortRanges (field : String) : (i : Nat) → List String →
    (seen : List (UInt16 × UInt16)) → Except Error Unit
  | _, [], _ => .ok ()
  | i, value :: values, seen => do
    let range ← orInvalid .portRangeInvalid s!"{field}.port_ranges[{i}]"
      (parsePortRange value.toList)
    check (range ∉ seen)
      (.invalid .portRangeDuplicate s!"{field}.port_ranges[{i}]"
        "port range must be unique within a rule")
    validatePortRanges field (i + 1) values (range :: seen)

/-- Whether a rule has no condition at all. -/
def RoutingMatch.isEmpty (m : RoutingMatch) : Bool :=
  m.domains.isEmpty && m.domainSuffixes.isEmpty && m.ipCidrs.isEmpty && !m.ipIsPrivate &&
    m.protocols.isEmpty && m.ports.isEmpty && m.portRanges.isEmpty && m.ruleSetIds.isEmpty

def validateMatch [Crates] (m : RoutingMatch) (field : String) : Except Error Unit := do
  check (m.isEmpty = false)
    (.invalid .ruleMatchEmpty field "at least one match condition is required")
  validateDomains s!"{field}.domains" 0 m.domains []
  validateDomains s!"{field}.domain_suffixes" 0 m.domainSuffixes []
  validateCidrs field 0 m.ipCidrs []
  validateProtocols field 0 m.protocols []
  validatePorts field 0 m.ports []
  validatePortRanges field 0 m.portRanges []

def validateAction (action : RoutingAction) (nodeIds : List String) (field : String) :
    Except Error Unit :=
  if action.kind = "direct" ∨ action.kind = "reject" then
    check (action.target = "" ∧ action.nodeId = "")
      (.invalid .routingActionInvalid field
        "direct and reject actions cannot specify a target or node_id")
  else if action.kind = "proxy" then
    if action.target = "selected" then
      check (action.nodeId = "")
        (.invalid .routingActionInvalid s!"{field}.node_id"
          "selected proxy action cannot specify node_id")
    else if action.target = "node" then
      check (action.nodeId ∈ nodeIds)
        (.invalid .routingNodeNotFound s!"{field}.node_id" "proxy action node does not exist")
    else .error (.invalid .routingTargetUnsupported s!"{field}.target"
        "proxy target must be selected or node")
  else .error (.invalid .routingActionUnsupported s!"{field}.type"
      "action must be direct, reject, or proxy")

def validateRules [Crates] (nodeIds ruleSetIds : List String) : (i : Nat) → List RoutingRule →
    (seen : List String) → Except Error Unit
  | _, [], _ => .ok ()
  | i, rule :: rules, seen => do
    let base := s!"routing.rules[{i}]"
    check (stableId rule.id 128 false = true)
      (.invalid .ruleIdInvalid s!"{base}.id" "rule id is not stable or valid")
    check (rule.id ∉ seen) (.invalid .ruleIdDuplicate s!"{base}.id" "rule id must be unique")
    validateMatch rule.matcher s!"{base}.match"
    validateRuleSetRefs ruleSetIds s!"{base}.match.rule_set_ids" 0 rule.matcher.ruleSetIds []
    validateAction rule.action nodeIds s!"{base}.action"
    validateRules nodeIds ruleSetIds (i + 1) rules (rule.id :: seen)

def validateRouting [Crates] (r : Routing) (nodeIds : List String) : Except Error Unit := do
  let ruleSetIds ← validateRuleSets r.ruleSets
  validateRules nodeIds ruleSetIds 0 r.rules []
  validateAction r.finalAction nodeIds "routing.final"

/-- Validates a decoded profile at `now`. -/
def validate [Crates] (p : Profile) (now : Int) : Except Error Unit := do
  check (p.schemaVersion = currentSchemaVersion)
    (.invalid .schemaUnsupported "schema_version" "only profile schema_version 1 is supported")
  check (trim p.revision.toList ≠ [])
    (.invalid .fieldRequired "revision" "revision is required")
  check (∀ generated ∈ p.generatedAt, ∀ expires ∈ p.expiresAt, generated < expires)
    (.invalid .timeRangeInvalid "expires_at" "expiration must be after generation")
  check (∀ expires ∈ p.expiresAt, now < expires)
    (.invalid .profileExpired "expires_at" "profile has expired")
  check (p.nodes ≠ []) (.invalid .fieldRequired "nodes" "at least one node is required")
  let (nodeIds, _) ← validateNodes 0 p.nodes [] []
  check (p.selection.defaultNodeId ∈ nodeIds)
    (.invalid .defaultNodeNotFound "selection.default_node_id" "default node does not exist")
  check (p.selection.mode = "manual")
    (.invalid .selectionModeUnsupported "selection.mode" "only manual selection is supported")
  validateRouting p.routing nodeIds

end PpvpnCore
