import PpvpnCore.Translate.Routing
import PpvpnCore.LocalProxy.Username

/-!
# The local proxy's users

A node's user goes to the node, the routed user goes by the profile's rules,
and nobody else gets through (`translate_users`). In a TUN instance the
ingresses' own destinations bypass every node before any user is looked at
(`Ingress.hit`).
-/

namespace PpvpnCore

open Lib

section

variable [Crates]

/-! ## The ingress bypass -/

/-- The flow's destination is the ingress. -/
def Ingress.hit (flow : Flow) (ingress : Ingress) : Bool :=
  (normalizeDomain ingress.endpoint.domain).any (fun domain => flow.domain = some domain) ||
    (ingressIp ingress.endpoint.ip).any fun ip => flow.address.any (Prefix.host ip).contains

/-- The flow's destination is an ingress of a node. -/
def Profile.bypassed (p : Profile) (flow : Flow) : Bool :=
  (p.nodes.flatMap Node.ingresses).any (Ingress.hit flow)

variable {sail : Sail} {sets : List LocalRuleSet} {flow : Flow}

omit [Crates] in
theorem domain_decision (domain : String) :
    RouteRule.decision sail sets flow (.plain { domain := [domain] } (.route directTag)) =
      if decide (flow.domain = some domain) then some (.route directTag) else none := by
  have holds : RouteRule.holds sail sets (.plain { domain := [domain] } (.route directTag)) flow =
      decide (flow.domain = some domain) := by
    simp only [RouteRule.holds, RouteRule.matchers, Matcher.holds, Matcher.exceptNetwork,
      Matcher.address, Matcher.ports, oneOf]
    cases flow.domain <;> simp
  rw [RouteRule.decision, holds]
  simp [RouteRule.action, RuleAction.decision]

omit [Crates] in
theorem host_decision (ip : IpAddr) :
    RouteRule.decision sail sets flow (.plain { ipCidr := [.host ip] } (.route directTag)) =
      if flow.address.any (Prefix.host ip).contains then some (.route directTag) else none := by
  have holds : RouteRule.holds sail sets (.plain { ipCidr := [.host ip] } (.route directTag)) flow =
      flow.address.any (Prefix.host ip).contains := by
    simp only [RouteRule.holds, RouteRule.matchers, Matcher.holds, Matcher.exceptNetwork,
      Matcher.address, Matcher.ports, oneOf]
    cases flow.address <;> simp
  rw [RouteRule.decision, holds]
  simp [RouteRule.action, RuleAction.decision]

/-- What the rules of one ingress decide, and that what has been seen by then is
not the flow's unless they decide. -/
structure Skips {α : Type} (part : List RouteRule × List α) (sail : Sail) (sets : List LocalRuleSet)
    (flow : Flow) (hit : Bool) (mine : α → Bool) : Prop where
  decides : part.1.findSome? (RouteRule.decision sail sets flow) =
    if hit then some (.route directTag) else none
  off : hit = false → ∀ a ∈ part.2, mine a = false

omit [Crates] in
/-- The rule of a value that was not seen before. -/
theorem Skips.of_value {α : Type} [DecidableEq α] {seen : List α} {mine : α → Bool}
    {rule : α → RouteRule} {value : Option α} {part : List RouteRule × List α}
    (off : ∀ a ∈ seen, mine a = false)
    (decides : ∀ a, RouteRule.decision sail sets flow (rule a) =
      if mine a then some (.route directTag) else none)
    (absent : value = none → part = ([], seen))
    (present : ∀ a, value = some a →
      part = if a ∈ seen then ([], seen) else ([rule a], a :: seen)) :
    Skips part sail sets flow (value.any mine) mine := by
  cases value with
  | none =>
    rw [absent rfl]
    exact ⟨rfl, fun _ => off⟩
  | some a =>
    rw [present a rfl]
    split
    next known =>
      refine ⟨?_, fun _ => off⟩
      rw [Option.any_some, off a known]
      rfl
    next =>
      refine ⟨?_, fun miss => ?_⟩
      · rw [List.findSome?_singleton, decides a]
        rfl
      · rw [List.forall_mem_cons]
        exact ⟨miss, off⟩

/-- The bypass rules send the ingresses' destinations direct, and decide nothing
else. -/
theorem bypassRules_decision {ingresses : List Ingress} {domains : List String} {ips : List IpAddr}
    (domainsOff : ∀ domain ∈ domains, decide (flow.domain = some domain) = false)
    (ipsOff : ∀ ip ∈ ips, flow.address.any (Prefix.host ip).contains = false) :
    (bypassRules ingresses domains ips).findSome? (RouteRule.decision sail sets flow) =
      if ingresses.any (Ingress.hit flow) then some (.route directTag) else none := by
  induction ingresses generalizing domains ips with
  | nil => rfl
  | cons ingress rest ih =>
    have step {byDomain : List RouteRule × List String} {byIp : List RouteRule × List IpAddr}
        (domain : Skips byDomain sail sets flow ((normalizeDomain ingress.endpoint.domain).any
          fun domain => flow.domain = some domain) fun domain => flow.domain = some domain)
        (ip : Skips byIp sail sets flow ((ingressIp ingress.endpoint.ip).any
          fun ip => flow.address.any (Prefix.host ip).contains)
          fun ip => flow.address.any (Prefix.host ip).contains) :
        (byDomain.1 ++ byIp.1 ++ bypassRules rest byDomain.2 byIp.2).findSome?
            (RouteRule.decision sail sets flow) =
          if (ingress :: rest).any (Ingress.hit flow) then some (.route directTag) else none := by
      rw [List.findSome?_append, List.findSome?_append, domain.decides, ip.decides, List.any_cons,
        Ingress.hit]
      by_cases byDomain : (normalizeDomain ingress.endpoint.domain).any
          (fun domain => flow.domain = some domain) = true
      · simp [byDomain]
      · rw [Bool.not_eq_true] at byDomain
        by_cases byIp : (ingressIp ingress.endpoint.ip).any
            (fun ip => flow.address.any (Prefix.host ip).contains) = true
        · simp [byDomain, byIp]
        · rw [Bool.not_eq_true] at byIp
          rw [ih (domain.off byDomain) (ip.off byIp), byDomain, byIp]
          simp
    refine step (Skips.of_value domainsOff domain_decision ?_ ?_)
      (Skips.of_value ipsOff host_decision ?_ ?_)
    · intro none_
      rw [none_]
    · intro domain some_
      rw [some_]
    · intro none_
      rw [none_]
    · intro ip some_
      rw [some_]

/-- The TUN's own rules see its own inbound alone, the ingress bypass apart. -/
theorem tunMade_decision {p : Profile} {tun : Tun} (other : flow.inbound ≠ tunInboundTag) :
    (tunMade p tun).findSome? (RouteRule.decision sail sets flow) =
      if p.bypassed flow then some (.route directTag) else none := by
  have own {rules : List RouteRule}
      (named : ∀ rule ∈ rules, ∃ m ∈ rule.matchers, m.inbound = [tunInboundTag] ∧ m.invert = false) :
      rules.findSome? (RouteRule.decision sail sets flow) = none := by
    rw [List.findSome?_eq_none_iff]
    intro rule mem
    obtain ⟨m, inRule, inbound, plain⟩ := named rule mem
    exact RouteRule.decision_of_inbound inRule inbound plain other
  have sniff : tunSniffRules.findSome? (RouteRule.decision sail sets flow) = none := by
    apply own
    simp [tunSniffRules, RouteRule.matchers]
  have handOff : (if handsOffDirectIpv6 tun then [tunHandOffRule] else []).findSome?
      (RouteRule.decision sail sets flow) = none := by
    apply own
    split <;> simp [tunHandOffRule, RouteRule.matchers]
  have hijack : (tunHijackRules ++ [tunPrivateRule]).findSome?
      (RouteRule.decision sail sets flow) = none := by
    apply own
    simp [tunHijackRules, tunPrivateRule, RouteRule.matchers]
  rw [tunMade, List.findSome?_append, List.findSome?_append, sniff, handOff, List.findSome?_append,
    hijack, bypassRules_decision (by simp) (by simp)]
  rfl

/-! ## Users -/

variable {proxy : LocalProxy} {user : String}

omit [Crates] in
/-- A user for each node, then the routed user. -/
def LocalProxy.users (proxy : LocalProxy) (p : Profile) : List User :=
  (p.nodeIds ++ [""]).map fun id => ⟨proxy.username id, proxy.password⟩

/-- Every destination that is an ingress goes direct in a TUN instance, whoever
the user is. -/
theorem Translated.bypassed {p : Profile} {o : Options} {t : Translation} (made : Translated p o t)
    (inbound : flow.inbound = localProxyInboundTag) (tun : o.tun.isSome = true)
    (hit : p.bypassed flow = true) :
    t.json.route.decision sail t.json.outbounds flow = some (.route directTag) := by
  have other : flow.inbound ≠ tunInboundTag := by
    rw [inbound]
    decide
  obtain ⟨parts, last, rules, _⟩ := made.rules
  obtain ⟨tun', some_⟩ := Option.isSome_iff_exists.mp tun
  rw [Route.decision, rules, listenersMade, some_, List.findSome?_append, List.findSome?_append,
    tunMade_decision other, hit]
  rfl

end

end PpvpnCore
