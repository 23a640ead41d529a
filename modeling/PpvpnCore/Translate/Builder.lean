import PpvpnCore.Translate.Config

/-!
# Building a configuration

The parts of a translation that every instance has: the nodes and their
failover groups, the local proxy's users, the profile's rules and its final
action. `Builder` is what they fill in turn.

A node whose capabilities say no UDP gets its UDP rejected, never routed
elsewhere: before every rule routing to it the same match on UDP is rejected
(`Builder.rejectUdpBefore`).
-/

namespace PpvpnCore

open Lib

def selectedTag : String := "selected"
def directTag : String := "direct"
def localProxyInboundTag : String := "local-proxy"
def systemProxyInboundTag : String := "system-proxy"
def autoSuffix : String := "-auto"
def loopback : String := "127.0.0.1"

/-- The destinations `ip_is_private` matches. -/
def privatePrefixes : List Prefix :=
  ["10.0.0.0/8", "172.16.0.0/12", "192.168.0.0/16", "100.64.0.0/10", "0.0.0.0/8", "127.0.0.0/8",
   "169.254.0.0/16", "224.0.0.0/4", "240.0.0.0/4", "255.255.255.255/32", "fc00::/7", "fe80::/10",
   "ff00::/8", "::1/128"].map builtin

/-! ## Tags -/

def hexDigits : List Char := "0123456789abcdef".toList

def hexByte (b : UInt8) : List Char :=
  [hexDigits.getD (b.toNat / 16) '0', hexDigits.getD (b.toNat % 16) '0']

/-- The first `bytes` bytes of the value's SHA-256, in hexadecimal. -/
def hexPrefix [Crates] (value : String) (bytes : Nat) : String :=
  String.ofList (((Crates.sha256 value).toList.take bytes).flatMap hexByte)

def nodeTag [Crates] (id : String) : String := "node-" ++ hexPrefix id 8

/-- A failover member's tag from the node id and the ingress's endpoint key. -/
def ingressTag [Crates] (nodeId endpointKey : String) : String :=
  nodeTag nodeId ++ "-" ++ hexPrefix endpointKey 4

def autoTag [Crates] (nodeId : String) : String := nodeTag nodeId ++ autoSuffix

def ruleSetTag (id : String) : String := "rule-set-" ++ id

/-! ## Options -/

/-- The shared local proxy: one port, one password, a username per node and
the bare prefix for the routed user. -/
structure LocalProxy where
  listen : String
  port : UInt16
  userPrefix : String
  password : String
  deriving DecidableEq, Repr

def LocalProxy.username (proxy : LocalProxy) (nodeId : String) : String :=
  if nodeId = "" then proxy.userPrefix else proxy.userPrefix ++ "-" ++ nodeId

/-- A verified local copy of a profile rule set. -/
structure RuleSetFile where
  path : String
  /-- It matches domains and no destination prefixes. -/
  mirrorDns : Bool
  deriving DecidableEq, Repr

inductive LocalDns where
  | system
  | servers (list : List SocketAddr)
  | listener (addr : SocketAddr)
  deriving DecidableEq, Repr

structure Tun where
  desktop : Bool
  ipv6 : Bool
  noHostIpv6Route : Bool
  interfaceName : String
  localDns : LocalDns
  deriving DecidableEq, Repr

/-- The device-local inputs of a translation. -/
structure Options where
  mode : RoutingMode
  selectedNodeId : Option String
  pins : BTreeMap String String
  localProxy : Option LocalProxy
  localProxyLeftOut : Bool
  systemProxyPort : Option UInt16
  ruleSets : BTreeMap String RuleSetFile
  healthCheck : HealthCheck
  tun : Option Tun
  logLevel : String

/-! ## The builder -/

/-- The resolver behind a member of a sequential server, as it is printed. -/
inductive Resolver where
  | socket (addr : SocketAddr)
  | name (server : String)
  deriving DecidableEq, Repr

/-- What a translation says about its tags: of nodes, ingresses, failover
groups and their members, rules and DNS servers. -/
structure Tags where
  /-- node id → the outbound that is the node. -/
  nodeTags : BTreeMap String String := ∅
  /-- Every node and ingress outbound → its node id. -/
  outboundNodes : BTreeMap String String := ∅
  /-- Every outbound that is one ingress → its endpoint key. -/
  ingressKeys : BTreeMap String String := ∅
  /-- Multi-ingress node tag → its fallback group. -/
  groups : BTreeMap String String := ∅
  /-- Multi-ingress node tag → its ingress tags, in failover order. -/
  members : BTreeMap String (List String) := ∅
  directIpv6HandOff : Bool := false
  /-- What made each of the route's rules, by index. -/
  ruleIds : List String := []
  /-- A sequential server's member → the server and the resolver it asks. -/
  dnsMembers : BTreeMap String (String × Resolver) := ∅
  dnsLocalListener : Bool := false
  deriving DecidableEq

structure Builder where
  tags : Tags := {}
  outbounds : List Outbound := []
  inbounds : List Inbound := []
  rules : List RouteRule := []
  ruleSets : List LocalRuleSet := []
  hasDirect : Bool := false
  directResolver : Option DomainResolver := none
  autoDetectInterface : Bool := false
  /-- Rules made to reject UDP, by index: never mirrored into DNS. -/
  noDnsMirror : List Nat := []
  /-- Node tags whose node carries no UDP. -/
  udpOff : List String := []

def quoted (value : String) : String := "\"" ++ value ++ "\""

def failed (message : String) : Error :=
  .new .coreOperationFailed false ("translate: " ++ message)

/-- The error of an `Except` text as the translation's. -/
def orFailed {α : Type} (what : String) : Except String α → Except Error α
  | .ok a => .ok a
  | .error e => .error (failed (what ++ e))

@[simp] theorem orFailed_eq_ok {α : Type} {what : String} {x : Except String α} {a : α} :
    orFailed what x = .ok a ↔ x = .ok a := by
  cases x <;> simp [orFailed]

namespace Builder

/-- The rules made since the last label are `label`'s. -/
def labelRules (b : Builder) (label : String) : Builder :=
  { b with tags.ruleIds := b.tags.ruleIds ++
      List.replicate (b.rules.length - b.tags.ruleIds.length) label }

def extend (b : Builder) (rules : List RouteRule) : Builder := { b with rules := b.rules ++ rules }

def push (b : Builder) (rule : RouteRule) : Builder := b.extend [rule]

def ensureDirect (b : Builder) : Builder :=
  if b.hasDirect then b
  else { b with hasDirect := true, outbounds := b.outbounds ++ [.direct directTag none] }

/-- Before a rule with `matcher` routing to `target`: the same match on UDP is
rejected when the target node carries no UDP. -/
def rejectUdpBefore (b : Builder) (matcher : Matcher) (target : String) : Builder :=
  if target ∉ b.udpOff then b
  else if matcher.network ≠ [] ∧ "udp" ∉ matcher.network then b
  else
    { b with
      noDnsMirror := b.noDnsMirror ++ [b.rules.length]
      rules := b.rules ++ [.plain { matcher with network := ["udp"] } .reject] }

end Builder

/-! ## Nodes -/

/-- The ingress's IP when the profile gives one, else its domain. -/
def dialAddress (ingress : Ingress) : Server :=
  match IpAddr.parse ingress.endpoint.ip.toList with
  | some ip => .ip ip.unmap
  | none => .domain ingress.endpoint.domain

def tlsOptions (t : Tls) : TlsOptions where
  serverName := if t.serverName = "" then none else some t.serverName
  insecure := t.insecure
  alpn := t.alpn
  reality := t.reality

def credentialsOf (ingress : Ingress) : Except String Proxy :=
  if ingress.protocol = "shadowsocks" then
    match ingress.credentials.shadowsocks with
    | none => .error "missing shadowsocks credentials"
    | some ss => .ok (.shadowsocks ss.method
        (String.intercalate ":" (ss.identityKeys ++ [ss.userKey])))
  else if ingress.protocol = "vless" then
    match ingress.credentials.vless with
    | none => .error "missing vless credentials"
    | some vless => .ok (.vless vless.uuid (if vless.flow = "" then none else some vless.flow))
  else if ingress.protocol = "anytls" then
    match ingress.credentials.anytls with
    | none => .error "missing anytls credentials"
    | some anytls => .ok (.anytls anytls.password)
  else .error ("unsupported protocol " ++ quoted ingress.protocol)

def outbound (ingress : Ingress) (tag : String) : Except String Outbound := do
  let proxy ← credentialsOf ingress
  return .proxy tag (dialAddress ingress) ingress.endpoint.port proxy
    (ingress.tls.map tlsOptions)

/-- What the ingresses of a multi-ingress node make: the builder with their
tags, the tags in failover order, the outbounds and the selector's default. -/
structure Members where
  tags : Tags
  members : List String
  outbounds : List Outbound
  default : String

/-- The ingresses from the `i`th on. -/
def nodeMembers [Crates] (nodeId : String) (pin : Option String) :
    (i : Nat) → Members → List Ingress → Except String Members
  | _, m, [] => .ok m
  | i, m, ingress :: rest => do
    let member := ingressTag nodeId ingress.endpointKey
    if m.tags.outboundNodes.contains member then .error s!"ingress {i}: outbound tag collision"
    else
      match outbound ingress member with
      | .error e => .error s!"ingress {i}: {e}"
      | .ok out =>
        nodeMembers nodeId pin (i + 1)
          { tags := { m.tags with
              outboundNodes := m.tags.outboundNodes.insert member nodeId
              ingressKeys := m.tags.ingressKeys.insert member ingress.endpointKey }
            members := m.members ++ [member]
            outbounds := m.outbounds ++ [out]
            default := if pin = some ingress.endpointKey then member else m.default }
          rest

/-- One node: a single ingress is the node's outbound; several are a selector
over a fallback group and the ingresses. -/
def Builder.node [Crates] (tags : Tags) (node : Node) (pin : Option String) (check : HealthCheck) :
    Except String (Tags × List Outbound) := do
  let tag := nodeTag node.id
  let tags := { tags with
    nodeTags := tags.nodeTags.insert node.id tag
    outboundNodes := tags.outboundNodes.insert tag node.id }
  match node.ingresses with
  | [ingress] =>
    let out ← outbound ingress tag
    return ({ tags with ingressKeys := tags.ingressKeys.insert tag ingress.endpointKey }, [out])
  | ingresses =>
    let auto := autoTag node.id
    let m ← nodeMembers node.id pin 0 ⟨tags, [], [], auto⟩ ingresses
    return ({ m.tags with
        groups := m.tags.groups.insert tag auto
        members := m.tags.members.insert tag m.members },
      .selector tag (auto :: m.members) m.default :: .fallback auto m.members check ::
        m.outbounds)

/-- Every node in profile order, with the pin it has. -/
def Builder.nodes [Crates] (pins : BTreeMap String String) (check : HealthCheck) :
    Tags → List Node → Except Error (Tags × List Outbound)
  | tags, [] => .ok (tags, [])
  | tags, node :: rest => do
    let (tags, outs) ← orFailed s!"node {quoted node.id}: "
      (Builder.node tags node pins[node.id]? check)
    let (tags, more) ← Builder.nodes pins check tags rest
    return (tags, outs ++ more)

/-! ## The local proxy -/

/-- The rules that send each node's user to its node. -/
def Builder.userRules (proxy : LocalProxy) : Builder → List Node → Builder
  | b, [] => b
  | b, node :: rest =>
    let matcher : Matcher :=
      { inbound := [localProxyInboundTag], authUser := [proxy.username node.id] }
    let target := b.tags.nodeTags.getD node.id ""
    let b := (b.rejectUdpBefore matcher target).push (.plain matcher (.route target))
    Builder.userRules proxy b rest

def Builder.localProxy (b : Builder) (profile : Profile) (proxy : LocalProxy) (leftOut : Bool) :
    Except Error Builder :=
  if (IpAddr.parse proxy.listen.toList).isNone ∨ proxy.port = 0 ∨ proxy.userPrefix = "" ∨
      proxy.password = "" then
    .error (failed "invalid local proxy")
  else
    let b := Builder.userRules proxy b profile.nodes
    let routed := proxy.username ""
    let users := profile.nodes.map (fun n => User.mk (proxy.username n.id) proxy.password) ++
      [⟨routed, proxy.password⟩]
    -- Any other user of the inbound: never on to the profile's rules.
    let b := b.push (.all [{ inbound := [localProxyInboundTag] },
      { authUser := [routed], invert := true }] .reject)
    .ok (if leftOut then b
      else { b with inbounds := b.inbounds ++
        [.mixed localProxyInboundTag proxy.listen proxy.port users] })

/-! ## The profile's rules -/

def hasAddressMatch (m : RoutingMatch) : Bool :=
  !m.domains.isEmpty || !m.domainSuffixes.isEmpty || !m.ipCidrs.isEmpty || m.ipIsPrivate

def maskedPrefix (value : List Char) : Option Prefix := do
  let (address, bits) ← splitOnce '/' value
  let addr ← IpAddr.parse address
  if !bitsText bits then none
  let bits ← parseDecimal (2 ^ 32) bits
  if bits ≤ (if addr.isIpv4 then 32 else 128) then some (Prefix.masked ⟨addr, bits⟩) else none

def orElseError {α : Type} (message : String) : Option α → Except String α
  | some a => .ok a
  | none => .error message

@[simp] theorem orElseError_eq_ok {α : Type} {message : String} {x : Option α} {a : α} :
    orElseError message x = .ok a ↔ x = some a := by
  cases x <;> simp [orElseError]

/-- The matchers of a profile rule. A suffix matches the domain itself too. -/
def ruleMatch [Crates] (m : RoutingMatch) : Except String Matcher := do
  let domains ← m.domains.mapM fun v => orElseError "invalid exact domain" (normalizeDomain v)
  let suffixes ← m.domainSuffixes.mapM fun v =>
    orElseError "invalid domain suffix" (normalizeDomain v)
  let cidrs ← m.ipCidrs.mapM fun v => orElseError "invalid CIDR" (maskedPrefix v.toList)
  let portRanges ← m.portRanges.mapM fun v => parsePortRange v.toList
  return {
    network := m.protocols
    domain := domains ++ suffixes
    domainSuffix := suffixes.map ("." ++ ·)
    ipCidr := cidrs ++ if m.ipIsPrivate then privatePrefixes else []
    port := m.ports
    portRange := portRanges }

def Builder.proxyTarget (b : Builder) (action : RoutingAction) : Except String String :=
  if action.target = "selected" then .ok selectedTag
  else if action.target = "node" then
    orElseError "fixed proxy node does not exist" b.tags.nodeTags[action.nodeId]?
  else .error ("unsupported proxy target " ++ quoted action.target)

def Builder.action (b : Builder) (action : RoutingAction) : Except String (Builder × RuleAction) :=
  if action.kind = "direct" then .ok (b.ensureDirect, .route directTag)
  else if action.kind = "proxy" then do
    let target ← b.proxyTarget action
    return (b, .route target)
  else if action.kind = "reject" then .ok (b, .reject)
  else .error ("unsupported action " ++ quoted action.kind)

/-- One profile rule. A rule set without a local copy is left out of it; a
rule that loses all its address conditions that way is dropped. -/
def Builder.routingRule [Crates] (files : BTreeMap String RuleSetFile) (b : Builder)
    (rule : RoutingRule) : Except Error Builder := do
  let sets := (rule.matcher.ruleSetIds.filter fun id => files.contains id).map ruleSetTag
  if rule.matcher.ruleSetIds ≠ [] ∧ sets = [] ∧ !hasAddressMatch rule.matcher then return b
  else
    let out ← orFailed s!"rule {quoted rule.id}: " (ruleMatch rule.matcher)
    let matcher := { out with ruleSet := sets }
    let (b, action) ← orFailed s!"rule {quoted rule.id}: " (b.action rule.action)
    let b := match action.outbound? with
      | some target => b.rejectUdpBefore matcher target
      | none => b
    return (b.push (.plain matcher action)).labelRules rule.id

/-- The rule sets with a local copy that some rule names. -/
def usedRuleSets (routing : Routing) (files : BTreeMap String RuleSetFile) : List RuleSet :=
  routing.ruleSets.filter fun set =>
    files.contains set.id && routing.rules.any fun rule => rule.matcher.ruleSetIds.contains set.id

/-- The profile's rules, its rule sets and the final action; returns
`route.final`. -/
def Builder.routing [Crates] (b : Builder) (routing : Routing)
    (files : BTreeMap String RuleSetFile) : Except Error (Builder × Option String) := do
  let b ← routing.rules.foldlM (Builder.routingRule files) b
  let copies := (usedRuleSets routing files).map fun set =>
    LocalRuleSet.mk (ruleSetTag set.id) (files.getD set.id ⟨"", false⟩).path
  let b := { b with ruleSets := b.ruleSets ++ copies }
  let action := routing.finalAction
  if action.kind = "direct" then return (b.ensureDirect, some directTag)
  else if action.kind = "proxy" then
    let target ← orFailed "final: " (b.proxyTarget action)
    return (b.rejectUdpBefore {} target, some target)
  else if action.kind = "reject" then
    -- sail refuses a rule without conditions; both networks match all.
    return ((b.push (.plain { network := ["tcp", "udp"] } .reject)).labelRules "final", none)
  else .error (failed ("unsupported final action " ++ quoted action.kind))

/-- In the global mode only the baseline rules (and their rule sets), then the
selected node. -/
def effectiveRouting (profile : Profile) (mode : RoutingMode) : Routing :=
  match mode with
  | .rules => profile.routing
  | .global =>
    let rules := profile.routing.rules.filter (·.baseline)
    { rules
      ruleSets := profile.routing.ruleSets.filter fun set =>
        rules.any fun rule => rule.matcher.ruleSetIds.contains set.id
      finalAction := ⟨"proxy", "selected", ""⟩ }

end PpvpnCore
