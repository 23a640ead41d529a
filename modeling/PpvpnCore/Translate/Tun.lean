import PpvpnCore.Translate.Builder

/-!
# The TUN

What a TUN instance adds to a configuration: the rules before every other
(sniffing, DNS hijacking, the tunnel's own networks, the private floor, the
ingress bypass), the inbound, and the DNS section whose rules mirror the
route's.
-/

namespace PpvpnCore

open Lib

def tunInboundTag : String := "tun"
def dnsLocalTag : String := "dns-local"
def dnsRemoteTag : String := "dns-remote"
def remoteDnsServers : List String := ["1.1.1.1", "8.8.8.8", "9.9.9.9"]
def remoteAttempt : String := "3s"
def localAttempt : String := "2s"
def globalIpv6 : Prefix := builtin "2000::/3"
def fakeIpRange : Prefix := builtin "198.18.0.0/15"
/-- A domain name but not an IP literal. -/
def knownDomainRegex : String := "^[^:]*[^0-9.:][^:]*$"
def tunInet4Address : String := "10.60.159.89/30"
def tunInet6Address : String := "fde2:ec40:9312:c7fd::1/126"
def tunPrefixes : List Prefix := ["10.60.159.88/30", "fde2:ec40:9312:c7fd::/126"].map builtin
def tunRouteExcluded : List Prefix :=
  ["224.0.0.0/4", "255.255.255.255/32", "169.254.0.0/16", "fe80::/10", "ff00::/8"].map builtin
def tunRouteExcludedPrivate : List Prefix :=
  ["10.0.0.0/8", "172.16.0.0/12", "192.168.0.0/16", "100.64.0.0/10", "fc00::/7"].map builtin
def iproute2TableIndex : Nat := 2091
def iproute2RuleIndex : Nat := 9091

/-! ## Prefixes less their holes -/

/-- A prefix with its network widened to 128 bits, its family and length. -/
structure Part where
  net : BitVec 128
  v6 : Bool
  bits : Nat
  deriving DecidableEq, Repr

def Part.width (p : Part) : Nat := if p.v6 then 128 else 32

def Part.mask (p : Part) (b : Nat) : BitVec 128 :=
  if b = 0 then 0 else (BitVec.allOnes 128 <<< (128 - b)) >>> (128 - p.width)

def Part.ofPrefix (p : Prefix) : Part :=
  match p.addr with
  | .v4 net => ⟨net.zeroExtend 128, false, p.bits⟩
  | .v6 net => ⟨net, true, p.bits⟩

def Part.toPrefix (p : Part) : Prefix :=
  if p.v6 then ⟨.v6 p.net, p.bits⟩ else ⟨.v4 (p.net.truncate 32), p.bits⟩

/-- From length `b` on toward the hole, the halves without it. -/
def halvesToward (part : Part) (hole : BitVec 128) : (b n : Nat) → BitVec 128 → List Part
  | _, 0, _ => []
  | b, n + 1, current =>
    let bit : BitVec 128 := 1#128 <<< (part.width - b - 1)
    let toward := hole &&& bit
    ⟨current ||| (bit ^^^ toward), part.v6, b + 1⟩ ::
      halvesToward part hole (b + 1) n (current ||| toward)

/-- `part` less `hole`: `part` itself when they do not overlap. -/
def splitAround (hole part : Part) : List Part :=
  if part.v6 ≠ hole.v6 ∨ hole.bits < part.bits ∨ hole.net &&& part.mask part.bits ≠ part.net then
    [part]
  else halvesToward part hole.net part.bits (hole.bits - part.bits) part.net

/-- The prefix less every hole inside it, as the fewest prefixes. -/
def without (p : Prefix) (holes : List Prefix) : List Prefix :=
  (holes.foldl (fun parts hole => parts.flatMap (splitAround (.ofPrefix hole)))
    [Part.ofPrefix p]).map Part.toPrefix

/-! ## Rules and inbound -/

def ingressIp (value : String) : Option IpAddr :=
  (IpAddr.parse value.toList).map IpAddr.unmap

/-- The hand-off needs the TUN's own IPv6. -/
def handsOffDirectIpv6 (tun : Tun) : Bool := tun.desktop && tun.ipv6 && tun.noHostIpv6Route

/-- The rules that keep each ingress out of the tunnel, by domain and by
address, each once. -/
def bypassRules [Crates] : List Ingress → (domains : List String) → (ips : List IpAddr) →
    List RouteRule
  | [], _, _ => []
  | ingress :: rest, domains, ips =>
    let (byDomain, domains) := match normalizeDomain ingress.endpoint.domain with
      | some domain =>
        if domain ∈ domains then ([], domains)
        else ([RouteRule.plain { domain := [domain] } (.route directTag)], domain :: domains)
      | none => ([], domains)
    let (byIp, ips) := match ingressIp ingress.endpoint.ip with
      | some ip =>
        if ip ∈ ips then ([], ips)
        else ([RouteRule.plain { ipCidr := [.host ip] } (.route directTag)], ip :: ips)
      | none => ([], ips)
    byDomain ++ byIp ++ bypassRules rest domains ips

/-- Every connection is sniffed, and a proxy dials it by its domain. -/
def tunSniffRules : List RouteRule :=
  [.plain { inbound := [tunInboundTag] } .sniff,
   .plain { inbound := [tunInboundTag] } (.routeOptions .proxy)]

/-- A later rule's value goes before: proxies keep theirs. -/
def tunHandOffRule : RouteRule :=
  .plain { inbound := [tunInboundTag], ipCidr := [globalIpv6] } (.routeOptions .proxyAndDirect)

/-- DNS is hijacked; the tunnel's own networks, and a fake-ip answer without a
known domain, are rejected. -/
def tunHijackRules : List RouteRule :=
  [.plain { inbound := [tunInboundTag], protocol := ["dns"] } .hijackDns,
   .plain { inbound := [tunInboundTag], port := [53] } .hijackDns,
   .plain { inbound := [tunInboundTag], ipCidr := tunPrefixes } .reject,
   .all [{ inbound := [tunInboundTag], ipCidr := [fakeIpRange] },
     { domainRegex := [knownDomainRegex], invert := true }] .reject]

def tunPrivateRule : RouteRule :=
  .plain { inbound := [tunInboundTag], ipCidr := privatePrefixes } (.route directTag)

/-- On a host without an IPv6 path `direct` gets the domain of a global IPv6
destination and resolves it to IPv4. -/
def Builder.tunHandOff (b : Builder) (tun : Tun) : Builder :=
  if handsOffDirectIpv6 tun then
    { b.push tunHandOffRule with
      directResolver := some ⟨dnsLocalTag, "ipv4_only"⟩
      tags.directIpv6HandOff := true }
  else b

/-- The rules that precede every other, then the ingress bypass. -/
def Builder.tunRules [Crates] (b : Builder) (profile : Profile) (tun : Tun) : Builder :=
  let b := (b.extend tunSniffRules).tunHandOff tun
  let b := (b.extend tunHijackRules).ensureDirect.push tunPrivateRule
  b.extend (bypassRules (profile.nodes.flatMap Node.ingresses) [] [])

/-- The addresses of `ingresses`, each once. -/
def distinctIps : List Ingress → (seen : List IpAddr) → List IpAddr
  | [], _ => []
  | ingress :: rest, seen =>
    match ingressIp ingress.endpoint.ip with
    | some ip => if ip ∈ seen then distinctIps rest seen else ip :: distinctIps rest (ip :: seen)
    | none => distinctIps rest seen

/-- Kept out of the desktop tunnel's routes: the ingresses, what stays on the
LAN and the private networks less the tunnel's own. -/
def routeExcludeAddress (profile : Profile) (tun : Tun) : List Prefix :=
  let wanted (p : Prefix) : Bool := tun.ipv6 || p.addr.isIpv4
  let ips := distinctIps (profile.nodes.flatMap Node.ingresses) []
  ((ips.map Prefix.host).filter wanted) ++ tunRouteExcluded.filter wanted ++
    (tunRouteExcludedPrivate.filter wanted).flatMap fun p => without p tunPrefixes

def tunInboundOptions (profile : Profile) (tun : Tun) : TunInbound where
  tag := tunInboundTag
  address :=
    if tun.desktop && tun.ipv6 then [tunInet4Address, tunInet6Address] else [tunInet4Address]
  interfaceName := if tun.interfaceName = "" then none else some tun.interfaceName
  autoRoute := tun.desktop
  routeExcludeAddress := if tun.desktop then routeExcludeAddress profile tun else []
  iproute2 := if tun.desktop then some (iproute2TableIndex, iproute2RuleIndex) else none

def Builder.tunInbound (b : Builder) (profile : Profile) (tun : Tun) : Builder :=
  { b with
    autoDetectInterface := b.autoDetectInterface || tun.desktop
    inbounds := b.inbounds ++ [.tun (tunInboundOptions profile tun)] }

/-! ## DNS -/

/-- The DNS rule of the `i`th route rule: the same domain conditions, when the
rule is independent of the inbound and names domains. -/
def mirrorDnsRule (noDnsMirror : List Nat) (dnsRuleSets : List String) (i : Nat) :
    RouteRule → Option DnsRule
  | .all _ _ => none
  | .plain m action =>
    let ruleSet := m.ruleSet.filter (· ∈ dnsRuleSets)
    if i ∈ noDnsMirror ∨ m.inbound ≠ [] ∨
        (m.domain = [] ∧ m.domainSuffix = [] ∧ ruleSet = []) then none
    else match action with
      | .route outbound => some ⟨m.domain, m.domainSuffix, ruleSet,
          .route (if outbound = directTag then dnsLocalTag else dnsRemoteTag)⟩
      | .reject => some ⟨m.domain, m.domainSuffix, ruleSet, .reject⟩
      | _ => none

def Builder.mirrorDnsRules (b : Builder) (dnsRuleSets : List String) : List DnsRule :=
  b.rules.zipIdx.filterMap fun (rule, i) => mirrorDnsRule b.noDnsMirror dnsRuleSets i rule

def localMemberTag (i : Nat) : String := dnsLocalTag ++ "-" ++ toString i

def remoteMemberTag (server : String) : String := dnsRemoteTag ++ "-" ++ server

/-- dns-local's servers; `dns-local` itself is the last of them. -/
def localDnsServers : LocalDns → Except Error (List DnsServer)
  | .system => .ok [.system dnsLocalTag]
  | .listener addr => .ok [.tcp dnsLocalTag addr]
  | .servers [] => .error (failed "no local DNS server outside the tunnel")
  | .servers [server] => .ok [.udp dnsLocalTag server]
  | .servers list => .ok
      (list.zipIdx.map (fun (server, i) => .udp (localMemberTag i) server) ++
        [.sequential dnsLocalTag (list.zipIdx.map fun (_, i) => localMemberTag i) localAttempt])

/-- The members of dns-local's sequential server, where it is one. -/
def localDnsMembers (list : List SocketAddr) (members : BTreeMap String (String × Resolver)) :
    BTreeMap String (String × Resolver) :=
  if list.length < 2 then members
  else list.zipIdx.foldl (fun m (server, i) => m.insert (localMemberTag i)
    (dnsLocalTag, .socket server)) members

def remoteDnsMembers (members : BTreeMap String (String × Resolver)) :
    BTreeMap String (String × Resolver) :=
  remoteDnsServers.foldl
    (fun m server => m.insert (remoteMemberTag server) (dnsRemoteTag, .name server)) members

/-- What the DNS section adds to the tag maps. -/
def tunDnsTags (localDns : LocalDns) (tags : Tags) : Tags :=
  match localDns with
  | .system => { tags with dnsMembers := remoteDnsMembers tags.dnsMembers }
  | .listener _ =>
    { tags with dnsLocalListener := true, dnsMembers := remoteDnsMembers tags.dnsMembers }
  | .servers list =>
    { tags with dnsMembers := remoteDnsMembers (localDnsMembers list tags.dnsMembers) }

/-- The DNS section, from the route rules as they stand. -/
def Builder.tunDns (b : Builder) (tun : Tun) (finalDirect : Bool) (dnsRuleSets : List String) :
    Except Error (Builder × Dns) := do
  let locals ← localDnsServers tun.localDns
  let remotes := remoteDnsServers.map fun server =>
    DnsServer.tls (remoteMemberTag server) server selectedTag
  return ({ b with tags := tunDnsTags tun.localDns b.tags },
    { servers := locals ++ remotes ++
        [.sequential dnsRemoteTag (remoteDnsServers.map remoteMemberTag) remoteAttempt]
      rules := b.mirrorDnsRules dnsRuleSets
      final := if finalDirect then dnsLocalTag else dnsRemoteTag })

end PpvpnCore
