import PpvpnCore.Profile.Validate

/-!
# The configuration

The sing-box document a translation writes, as the values its text carries: a
key that may be absent is an `Option` or a list that is left out when empty,
an address or prefix that is printed stays the address or prefix. The tag
queries at the end (`defined`, `referenced`) are those of the whole document.
-/

namespace PpvpnCore

/-! ## Routing rules -/

/-- The conditions of one rule. An empty list is a condition left out. -/
structure Matcher where
  inbound : List String := []
  authUser : List String := []
  network : List String := []
  domain : List String := []
  domainSuffix : List String := []
  domainRegex : List String := []
  ipCidr : List Prefix := []
  port : List UInt16 := []
  portRange : List (UInt16 × UInt16) := []
  protocol : List String := []
  ruleSet : List String := []
  invert : Bool := false
  deriving DecidableEq, Repr

inductive OverrideDestination where
  | proxy | proxyAndDirect
  deriving DecidableEq, Repr

inductive RuleAction where
  | route (outbound : String)
  /-- With the method `default`. -/
  | reject
  | sniff
  | routeOptions (overrideDestination : OverrideDestination)
  | hijackDns
  deriving DecidableEq, Repr

inductive RouteRule where
  | plain (matcher : Matcher) (action : RuleAction)
  /-- A logical rule of mode `and`. -/
  | all (rules : List Matcher) (action : RuleAction)
  deriving DecidableEq, Repr

def RouteRule.action : RouteRule → RuleAction
  | .plain _ action => action
  | .all _ action => action

def RouteRule.matchers : RouteRule → List Matcher
  | .plain matcher _ => [matcher]
  | .all rules _ => rules

/-- A verified rule set copy the configuration loads. -/
structure LocalRuleSet where
  tag : String
  path : String
  deriving DecidableEq, Repr

structure Route where
  rules : List RouteRule
  ruleSet : List LocalRuleSet
  final : Option String
  autoDetectInterface : Bool
  defaultDomainResolver : Option String
  deriving DecidableEq, Repr

/-! ## Outbounds and inbounds -/

/-- Where an outbound dials. -/
inductive Server where
  | ip (addr : IpAddr)
  | domain (name : String)
  deriving DecidableEq, Repr

inductive Proxy where
  | shadowsocks (method password : String)
  | vless (uuid : String) (flow : Option String)
  | anytls (password : String)
  deriving DecidableEq, Repr

/-- An enabled `tls` section; `reality` brings its uTLS fingerprint. -/
structure TlsOptions where
  serverName : Option String
  insecure : Bool
  alpn : List String
  reality : Option Reality
  deriving DecidableEq, Repr

/-- How a fallback group tests its members and moves between them. -/
structure HealthCheck where
  urls : List String :=
    ["http://www.gstatic.com/generate_204", "http://cp.cloudflare.com/generate_204"]
  /-- In seconds. -/
  interval : Nat := 15
  timeout : String := "5s"
  dialTimeout : String := "2s"
  expectedStatus : String := "200-399"
  failAfter : Nat := 2
  recoverAfter : Nat := 3
  minDwell : String := "60s"
  deriving DecidableEq, Repr

/-- The resolver of an outbound's domain, answering with IPv4 alone. -/
structure DomainResolver where
  server : String
  strategy : String
  deriving DecidableEq, Repr

inductive Outbound where
  | selector (tag : String) (outbounds : List String) (default : String)
  | fallback (tag : String) (outbounds : List String) (check : HealthCheck)
  | direct (tag : String) (domainResolver : Option DomainResolver)
  | proxy (tag : String) (server : Server) (port : UInt16) (proxy : Proxy)
      (tls : Option TlsOptions)
  deriving DecidableEq, Repr

def Outbound.tag : Outbound → String
  | .selector tag _ _ => tag
  | .fallback tag _ _ => tag
  | .direct tag _ => tag
  | .proxy tag _ _ _ _ => tag

structure User where
  username : String
  password : String
  deriving DecidableEq, Repr

structure TunInbound where
  tag : String
  address : List String
  interfaceName : Option String
  /-- The desktop's own routing (auto and strict route). -/
  autoRoute : Bool
  routeExcludeAddress : List Prefix
  iproute2 : Option (Nat × Nat)
  deriving DecidableEq, Repr

inductive Inbound where
  | mixed (tag : String) (listen : String) (port : UInt16) (users : List User)
  | tun (options : TunInbound)
  deriving DecidableEq, Repr

def Inbound.tag : Inbound → String
  | .mixed tag _ _ _ => tag
  | .tun options => options.tag

/-- The port of a listener on a socket. -/
def Inbound.port? : Inbound → Option UInt16
  | .mixed _ _ port _ => some port
  | .tun _ => none

/-! ## DNS -/

structure SocketAddr where
  ip : IpAddr
  port : UInt16
  deriving DecidableEq, Repr

inductive DnsServer where
  | system (tag : String)
  | tcp (tag : String) (addr : SocketAddr)
  | udp (tag : String) (addr : SocketAddr)
  | tls (tag : String) (server : String) (detour : String)
  | sequential (tag : String) (servers : List String) (attemptTimeout : String)
  deriving DecidableEq, Repr

def DnsServer.tag : DnsServer → String
  | .system tag => tag
  | .tcp tag _ => tag
  | .udp tag _ => tag
  | .tls tag _ _ => tag
  | .sequential tag _ _ => tag

inductive DnsAction where
  | route (server : String)
  | reject
  deriving DecidableEq, Repr

structure DnsRule where
  domain : List String
  domainSuffix : List String
  ruleSet : List String
  action : DnsAction
  deriving DecidableEq, Repr

structure Dns where
  servers : List DnsServer
  rules : List DnsRule
  final : String
  deriving DecidableEq, Repr

/-! ## The document -/

structure Config where
  /-- sail's log level; no log section when empty. -/
  logLevel : String
  dns : Option Dns
  inbounds : List Inbound
  outbounds : List Outbound
  route : Route
  deriving DecidableEq, Repr

namespace Outbound

/-- The outbounds an outbound names. -/
def refs : Outbound → List String
  | .selector _ outbounds default => default :: outbounds
  | .fallback _ outbounds _ => outbounds
  | .direct _ _ => []
  | .proxy _ _ _ _ _ => []

/-- The DNS servers an outbound names. -/
def dnsRefs : Outbound → List String
  | .direct _ (some resolver) => [resolver.server]
  | _ => []

end Outbound

/-- The outbound an action names. -/
def RuleAction.outbound? : RuleAction → Option String
  | .route outbound => some outbound
  | _ => none

namespace DnsServer

def detour? : DnsServer → Option String
  | .tls _ _ detour => some detour
  | _ => none

def members : DnsServer → List String
  | .sequential _ servers _ => servers
  | _ => []

end DnsServer

def DnsRule.server? (rule : DnsRule) : Option String :=
  match rule.action with
  | .route server => some server
  | .reject => none

/-- The four kinds of tags a configuration defines. -/
inductive TagKind where
  | outbound | inbound | dnsServer | ruleSet
  deriving DecidableEq, Repr

namespace Config

def dnsServers (c : Config) : List DnsServer := c.dns.elim [] (·.servers)

def dnsRules (c : Config) : List DnsRule := c.dns.elim [] (·.rules)

/-- The tags of a kind, as often as the configuration defines them. -/
def defined (c : Config) : TagKind → List String
  | .outbound => c.outbounds.map Outbound.tag
  | .inbound => c.inbounds.map Inbound.tag
  | .dnsServer => c.dnsServers.map DnsServer.tag
  | .ruleSet => c.route.ruleSet.map (·.tag)

/-- The tags of a kind that anything in the configuration names: selector and
fallback members, selector defaults, rule outbounds, `route.final` and detours;
sequential members, DNS rule servers, `dns.final` and domain resolvers; the
rule sets of route and DNS rules. -/
def referenced (c : Config) : TagKind → List String
  | .outbound =>
    c.outbounds.flatMap Outbound.refs ++ c.route.rules.filterMap (·.action.outbound?) ++
      c.route.final.toList ++ c.dnsServers.filterMap DnsServer.detour?
  | .inbound => []
  | .dnsServer =>
    c.dnsServers.flatMap DnsServer.members ++ c.dnsRules.filterMap DnsRule.server? ++
      (c.dns.map (·.final)).toList ++ c.route.defaultDomainResolver.toList ++
      c.outbounds.flatMap Outbound.dnsRefs
  | .ruleSet =>
    (c.route.rules.flatMap RouteRule.matchers).flatMap (·.ruleSet) ++
      c.dnsRules.flatMap (·.ruleSet)

/-- Every tag defined once, and every tag named defined. -/
def Closed (c : Config) : Prop :=
  ∀ kind, (c.defined kind).Nodup ∧ ∀ tag ∈ c.referenced kind, tag ∈ c.defined kind

end Config

end PpvpnCore
