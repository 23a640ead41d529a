import PpvpnCore.Translate.Users

/-!
# DNS follows routing

The DNS rules of a TUN instance are the route rules that name domains, as far
as a name alone tells. What a name is asked for (`Dns.decision`) against where
a connection to it goes (`Route.decision`): `translate_dns_follows`.

The proof goes entry by entry: each route rule decides about the connection
what its DNS rule, where it has one, decides about the name (`Follows`). Every
pass adds rules of which that holds (`Builder.Followed`), so the first rule
that decides is the same in both lists.
-/

namespace PpvpnCore

open Lib

/-! ## What a name is asked -/

inductive DnsDecision where
  | server (tag : String)
  | refused
  deriving DecidableEq, Repr

def DnsAction.decision : DnsAction → DnsDecision
  | .route server => .server server
  | .reject => .refused

def DnsRule.holds (sail : Sail) (sets : List LocalRuleSet) (query : Flow) (rule : DnsRule) : Bool :=
  query.domain.any (fun d => rule.domain.contains d ||
      rule.domainSuffix.any (fun s => s.toList.isSuffixOf d.toList)) ||
    rule.ruleSet.any (sail.ruleSetHolds sets query)

def DnsRule.decision (sail : Sail) (sets : List LocalRuleSet) (query : Flow) (rule : DnsRule) :
    Option DnsDecision :=
  if rule.holds sail sets query then some rule.action.decision else none

def Dns.decision (sail : Sail) (sets : List LocalRuleSet) (dns : Dns) (query : Flow) : DnsDecision :=
  (dns.rules.findSome? (DnsRule.decision sail sets query)).getD (.server dns.final)

/-- The conditions of a rule that a name alone can meet. -/
def Matcher.names (sail : Sail) (sets : List LocalRuleSet) (m : Matcher) (query : Flow) : Bool :=
  query.domain.any (fun d => m.domain.contains d ||
      m.domainSuffix.any (fun s => s.toList.isSuffixOf d.toList)) ||
    m.ruleSet.any (sail.ruleSetHolds sets query)

/-- A rule that names the query's domain rejects the flow. -/
def Route.RejectsName (sail : Sail) (route : Route) (flow query : Flow) : Prop :=
  ∃ before rule after, route.rules = before ++ rule :: after ∧
    (∀ r ∈ before, r.decision sail route.ruleSet flow = none) ∧
    rule.decision sail route.ruleSet flow = some .reject ∧
    ∃ m ∈ rule.matchers, m.names sail route.ruleSet query = true

section

variable [Crates]

/-- The conditions of a profile rule that a name alone can meet: its domains,
its suffixes and its rule sets. -/
def RoutingMatch.names (sail : Sail) (files : BTreeMap String RuleSetFile) (m : RoutingMatch)
    (query : Flow) : Bool :=
  query.domain.any (fun name =>
      m.domains.any (fun v => normalizeDomain v = some name) ||
      m.domainSuffixes.any fun v => (normalizeDomain v).any fun domain =>
        withinDomain domain name) ||
    m.ruleSetIds.any (availableSetHolds sail files query)

end

/-- A mirrored set matches by the domain alone. -/
def Sail.ByDomain (sail : Sail) (files : BTreeMap String RuleSetFile) : Prop :=
  ∀ (id : String) (file : RuleSetFile), files[id]? = some file → file.mirrorDns = true →
    ∀ f g : Flow, f.domain = g.domain → sail.ruleSet file.path f = sail.ruleSet file.path g

/-! ## One rule -/

/-- Where a name is asked whose connection is decided so. -/
def Decision.asked : Decision → Option DnsDecision
  | .route tag => some (.server (if tag = directTag then dnsLocalTag else dnsRemoteTag))
  | .reject => some .refused
  | .hijackDns => none

/-- What a rule decides about the flow its DNS rule decides about the query; it
has none when it is marked. -/
structure Follows (sail : Sail) (sets : List LocalRuleSet) (dnsSets : List String)
    (flow query : Flow) (rule : RouteRule) (marked : Bool) : Prop where
  decides : (if marked then none else mirrorDnsRule [] dnsSets 0 rule).bind
    (DnsRule.decision sail sets query) = (rule.decision sail sets flow).bind Decision.asked
  asked : rule.decision sail sets flow ≠ some .hijackDns
  named : rule.decision sail sets flow = some .reject →
    ∃ m ∈ rule.matchers, m.names sail sets query = true

theorem mirrorDnsRule_eq (off : List Nat) (dnsSets : List String) (i : Nat) (rule : RouteRule) :
    mirrorDnsRule off dnsSets i rule =
      if decide (i ∈ off) then none else mirrorDnsRule [] dnsSets 0 rule := by
  cases rule with
  | all rules action => simp [mirrorDnsRule]
  | plain m action =>
    by_cases marked : i ∈ off
    · simp [mirrorDnsRule, marked]
    · simp [mirrorDnsRule, marked]

variable {sail : Sail} {sets : List LocalRuleSet} {dnsSets : List String} {flow query : Flow}

/-- A rule that decides nothing and has no DNS rule. -/
theorem Follows.of_none {rule : RouteRule} {marked : Bool}
    (silent : rule.decision sail sets flow = none)
    (noRule : (if marked then none else mirrorDnsRule [] dnsSets 0 rule) = none) :
    Follows sail sets dnsSets flow query rule marked where
  decides := by rw [silent, noRule]; rfl
  asked := by rw [silent]; nofun
  named rejects := by rw [silent] at rejects; cases rejects

/-- A rule whose conditions hold exactly when a name alone meets them. -/
theorem Follows.of_names {m : Matcher} {action : RuleAction} {d : Decision}
    (holds : m.holds sail sets flow = m.names sail sets query)
    (noInbound : m.inbound = []) (kept : m.ruleSet.filter (· ∈ dnsSets) = m.ruleSet)
    (acts : action = .reject ∧ d = .reject ∨ ∃ tag, action = .route tag ∧ d = .route tag) :
    Follows sail sets dnsSets flow query (.plain m action) false := by
  have decision : action.decision = some d := by
    rcases acts with ⟨rfl, rfl⟩ | ⟨tag, rfl, rfl⟩ <;> rfl
  have decides : RouteRule.decision sail sets flow (.plain m action) =
      if m.names sail sets query then some d else none := by
    simp [RouteRule.decision, RouteRule.holds, RouteRule.matchers, RouteRule.action, holds, decision]
  refine ⟨?_, ?_, fun rejects => ⟨m, List.mem_cons_self, ?_⟩⟩
  · rw [decides, if_neg Bool.false_ne_true]
    simp only [mirrorDnsRule, List.not_mem_nil, noInbound, ne_eq, not_true_eq_false, false_or, kept]
    split
    next bare =>
      obtain ⟨domain, suffix, sets'⟩ := bare
      have unnamed : m.names sail sets query = false := by
        rw [Matcher.names, domain, suffix, sets']
        cases query.domain <;> rfl
      rw [unnamed]
      rfl
    next =>
      have same (action : DnsAction) : DnsRule.holds sail sets query
          ⟨m.domain, m.domainSuffix, m.ruleSet, action⟩ = m.names sail sets query := rfl
      rcases acts with ⟨rfl, rfl⟩ | ⟨tag, rfl, rfl⟩
      · simp only [Option.bind_some, DnsRule.decision, same]
        cases m.names sail sets query <;> rfl
      · simp only [Option.bind_some, DnsRule.decision, same]
        cases m.names sail sets query <;> rfl
  · rw [decides]
    rcases acts with ⟨-, rfl⟩ | ⟨tag, -, rfl⟩ <;> split <;> simp
  · rw [decides] at rejects
    split at rejects
    next named => exact named
    next => cases rejects

/-! ## What the passes add -/

/-- Of every rule of the builder, marked or not, `E` holds. -/
structure Builder.Followed (E : RouteRule → Bool → Prop) (b : Builder) : Prop where
  marked : ∀ i ∈ b.noDnsMirror, i < b.rules.length
  each : ∀ i rule, b.rules[i]? = some rule → E rule (decide (i ∈ b.noDnsMirror))

namespace Builder.Followed

variable {E : RouteRule → Bool → Prop} {b b' : Builder}

theorem same (followed : b.Followed E) (rules : b'.rules = b.rules)
    (off : b'.noDnsMirror = b.noDnsMirror) : b'.Followed E where
  marked := by rw [rules, off]; exact followed.marked
  each := by rw [rules, off]; exact followed.each

theorem append {rules : List RouteRule} (mark : Bool) (followed : b.Followed E)
    (grown : b'.rules = b.rules ++ rules)
    (off : ∀ i, i ∈ b'.noDnsMirror ↔
      i ∈ b.noDnsMirror ∨ mark = true ∧ b.rules.length ≤ i ∧ i < b.rules.length + rules.length)
    (added : ∀ rule ∈ rules, E rule mark) : b'.Followed E := by
  constructor
  · intro i mem
    rw [grown, List.length_append]
    rcases (off i).mp mem with old | ⟨-, -, new⟩
    · have := followed.marked i old
      omega
    · exact new
  · intro i rule here
    rw [grown] at here
    by_cases old : i < b.rules.length
    · rw [List.getElem?_append_left old] at here
      have unmoved : i ∈ b'.noDnsMirror ↔ i ∈ b.noDnsMirror := by
        rw [off]
        constructor
        · rintro (mem | ⟨-, later, -⟩)
          · exact mem
          · omega
        · exact .inl
      simpa only [unmoved] using followed.each i rule here
    · rw [List.getElem?_append_right (by omega)] at here
      obtain ⟨inside, -⟩ := List.getElem?_eq_some_iff.mp here
      have mine : decide (i ∈ b'.noDnsMirror) = mark := by
        rw [Bool.eq_iff_iff, decide_eq_true_eq, off]
        constructor
        · rintro (mem | ⟨mark, -⟩)
          · exact absurd (followed.marked i mem) old
          · exact mark
        · intro mark
          exact .inr ⟨mark, by omega, by omega⟩
      rw [mine]
      exact added rule (List.mem_of_getElem? here)

theorem extend {rules : List RouteRule} (followed : b.Followed E)
    (added : ∀ rule ∈ rules, E rule false) : (b.extend rules).Followed E := by
  refine followed.append false rfl (fun i => ?_) added
  simp [Builder.extend]

theorem rejectUdpBefore {matcher : Matcher} {target : String} (followed : b.Followed E)
    (added : E (.plain { matcher with network := ["udp"] } .reject) true) :
    (b.rejectUdpBefore matcher target).Followed E := by
  unfold Builder.rejectUdpBefore
  split
  · exact followed
  · split
    · exact followed
    · refine followed.append true rfl (fun i => ?_) fun rule mem => ?_
      · simp only [List.mem_append, List.mem_singleton, List.length_singleton, true_and]
        have only : i = b.rules.length ↔ b.rules.length ≤ i ∧ i < b.rules.length + 1 := by omega
        rw [only]
      · rw [List.mem_singleton.mp mem]
        exact added

theorem ensureDirect (followed : b.Followed E) : b.ensureDirect.Followed E := by
  unfold Builder.ensureDirect
  split
  · exact followed
  · exact followed.same rfl rfl

theorem labelRules (followed : b.Followed E) (label : String) : (b.labelRules label).Followed E :=
  followed.same rfl rfl

end Builder.Followed

/-! ## The rules before the profile's -/

/-- A TCP connection over the TUN that is no DNS, and the query for its name. -/
structure OverTun (flow query : Flow) : Prop where
  inbound : flow.inbound = tunInboundTag
  network : flow.network = .tcp
  port : flow.port ≠ 53
  protocol : flow.protocol ≠ some "dns"
  domain : flow.domain = query.domain

/-- The flow's address meets no address condition of the rule. -/
def RouteRule.Elsewhere (flow : Flow) (rule : RouteRule) : Prop :=
  ∀ m ∈ rule.matchers, ∀ cidr ∈ m.ipCidr, flow.address.any cidr.contains = false

/-- What is asked of every rule before the final one. -/
def FollowsElsewhere (sail : Sail) (sets : List LocalRuleSet) (dnsSets : List String)
    (flow query : Flow) (rule : RouteRule) (marked : Bool) : Prop :=
  rule.Elsewhere flow → Follows sail sets dnsSets flow query rule marked

/-- A rule that needs an address decides nothing. -/
theorem RouteRule.Elsewhere.silent {rule : RouteRule} (elsewhere : rule.Elsewhere flow) {m : Matcher}
    (mem : m ∈ rule.matchers) (plain : m.invert = false) (some_ : m.ipCidr ≠ [])
    (only : m.domain = [] ∧ m.domainSuffix = [] ∧ m.domainRegex = [] ∧ m.ruleSet = []) :
    rule.decision sail sets flow = none := by
  have address : m.address sail sets flow = false := by
    have cidr : flow.address.any (fun ip => m.ipCidr.any (·.contains ip)) = false := by
      cases address : flow.address with
      | none => rfl
      | some ip =>
        rw [Option.any_some, List.any_eq_false]
        intro c inM
        have off := elsewhere m mem c inM
        rw [address, Option.any_some] at off
        rw [off]
        exact Bool.false_ne_true
    have given : m.ipCidr.isEmpty = false := by simpa using some_
    rw [Matcher.address, cidr, given, only.1, only.2.1, only.2.2.1, only.2.2.2]
    cases flow.domain <;> simp
  have misses : m.holds sail sets flow = false := by
    rw [Matcher.holds, Matcher.exceptNetwork, address, plain]
    simp
  have fails : rule.holds sail sets flow = false := by
    rw [RouteRule.holds, List.all_eq_false]
    exact ⟨m, mem, by rw [misses]; exact Bool.false_ne_true⟩
  rw [RouteRule.decision, fails]
  rfl

theorem tunRules_follow (over_ : OverTun flow query) {rule : RouteRule}
    (mem : rule ∈ tunSniffRules ++ [tunHandOffRule] ++ tunHijackRules ++ [tunPrivateRule]) :
    FollowsElsewhere sail sets dnsSets flow query rule false := by
  intro elsewhere
  simp only [tunSniffRules, tunHandOffRule, tunHijackRules, tunPrivateRule, List.cons_append,
    List.nil_append, List.mem_cons, List.not_mem_nil, or_false] at mem
  rcases mem with rfl | rfl | rfl | rfl | rfl | rfl | rfl | rfl
  · refine Follows.of_none ?_ rfl
    simp [RouteRule.decision, RouteRule.action, RuleAction.decision]
  · refine Follows.of_none ?_ rfl
    simp [RouteRule.decision, RouteRule.action, RuleAction.decision]
  · refine Follows.of_none ?_ rfl
    simp [RouteRule.decision, RouteRule.action, RuleAction.decision]
  · refine Follows.of_none ?_ rfl
    have protocol : oneOf ["dns"] flow.protocol = false := by
      have off := over_.protocol
      cases given : flow.protocol with
      | none => rfl
      | some value =>
        rw [given] at off
        simpa [oneOf] using fun eq => off (congrArg some eq)
    simp [RouteRule.decision, RouteRule.holds, RouteRule.matchers, Matcher.holds,
      Matcher.exceptNetwork, protocol]
  · refine Follows.of_none ?_ rfl
    have ports : Matcher.ports { inbound := [tunInboundTag], port := [53] } flow = false := by
      simpa [Matcher.ports] using over_.port
    simp [RouteRule.decision, RouteRule.holds, RouteRule.matchers, Matcher.holds,
      Matcher.exceptNetwork, ports]
  · refine Follows.of_none (elsewhere.silent List.mem_cons_self rfl ?_ ⟨rfl, rfl, rfl, rfl⟩) rfl
    decide
  · refine Follows.of_none (elsewhere.silent List.mem_cons_self rfl ?_ ⟨rfl, rfl, rfl, rfl⟩) rfl
    decide
  · refine Follows.of_none (elsewhere.silent List.mem_cons_self rfl ?_ ⟨rfl, rfl, rfl, rfl⟩) rfl
    decide

section

variable [Crates]

theorem bypassRule_follows (over_ : OverTun flow query) {ingresses : List Ingress}
    {domains : List String} {ips : List IpAddr} {rule : RouteRule}
    (mem : rule ∈ bypassRules ingresses domains ips) :
    FollowsElsewhere sail sets dnsSets flow query rule false := by
  intro elsewhere
  rcases bypassRules_cases mem with ⟨domain, rfl⟩ | ⟨ip, rfl⟩
  · refine Follows.of_names ?_ rfl rfl (.inr ⟨_, rfl, rfl⟩)
    simp only [Matcher.holds, Matcher.exceptNetwork, Matcher.address, Matcher.ports, oneOf,
      Matcher.names, over_.domain]
    cases query.domain <;> simp
  · exact Follows.of_none (elsewhere.silent List.mem_cons_self rfl (by simp) ⟨rfl, rfl, rfl, rfl⟩) rfl

omit [Crates] in
/-- The rules of the local proxy are of another inbound. -/
theorem localRule_follows (over_ : OverTun flow query) {rule : RouteRule} {marked : Bool}
    {m : Matcher} (mem : m ∈ rule.matchers) (named : m.inbound = [localProxyInboundTag])
    (plain : m.invert = false)
    (noRule : (if marked then none else mirrorDnsRule [] dnsSets 0 rule) = none) :
    FollowsElsewhere sail sets dnsSets flow query rule marked := by
  intro _
  refine Follows.of_none (RouteRule.decision_of_inbound mem named plain ?_) noRule
  rw [over_.inbound]
  decide

variable {b b' : Builder} {p : Profile} {o : Options}

theorem Builder.addTunRules_followed (over_ : OverTun flow query)
    (followed : b.Followed (FollowsElsewhere sail sets dnsSets flow query)) :
    (b.addTunRules p o).Followed (FollowsElsewhere sail sets dnsSets flow query) := by
  unfold Builder.addTunRules
  split
  next tun _ =>
    have tunRule {rule : RouteRule}
        (mem : rule ∈ tunSniffRules ++ [tunHandOffRule] ++ tunHijackRules ++ [tunPrivateRule]) :
        FollowsElsewhere sail sets dnsSets flow query rule false := tunRules_follow over_ mem
    have sniffed : (b.extend tunSniffRules).Followed _ :=
      followed.extend fun rule mem => tunRule (by simp [mem])
    have handed : ((b.extend tunSniffRules).tunHandOff tun).Followed
        (FollowsElsewhere sail sets dnsSets flow query) := by
      unfold Builder.tunHandOff
      split
      · have pushed : ((b.extend tunSniffRules).push tunHandOffRule).Followed _ :=
          sniffed.extend fun rule mem => tunRule (by simp [List.mem_singleton.mp mem])
        exact pushed.same rfl rfl
      · exact sniffed
    have hijacked : (((b.extend tunSniffRules).tunHandOff tun).extend tunHijackRules).Followed _ :=
      handed.extend fun rule mem => tunRule (by simp [mem])
    have pushed : ((((b.extend tunSniffRules).tunHandOff tun).extend
        tunHijackRules).ensureDirect.push tunPrivateRule).Followed _ :=
      hijacked.ensureDirect.extend fun rule mem => tunRule (by simp [List.mem_singleton.mp mem])
    exact (pushed.extend fun rule mem => bypassRule_follows over_ mem).labelRules "tun"
  next => exact followed

omit [Crates] in
theorem Builder.userRules_followed {proxy : LocalProxy} {nodes : List Node}
    (over_ : OverTun flow query)
    (followed : b.Followed (FollowsElsewhere sail sets dnsSets flow query)) :
    (Builder.userRules proxy b nodes).Followed (FollowsElsewhere sail sets dnsSets flow query) := by
  induction nodes generalizing b with
  | nil => exact followed
  | cons node nodes ih =>
    apply ih
    refine (followed.rejectUdpBefore ?_).extend fun rule mem => ?_
    · exact localRule_follows over_ List.mem_cons_self rfl rfl rfl
    · rw [List.mem_singleton.mp mem]
      exact localRule_follows over_ List.mem_cons_self rfl rfl rfl

theorem Builder.listeners_followed (over_ : OverTun flow query)
    (followed : b.Followed (FollowsElsewhere sail sets dnsSets flow query))
    (ok : b.listeners p o = .ok b') :
    b'.Followed (FollowsElsewhere sail sets dnsSets flow query) := by
  simp only [Builder.listeners, bind_eq_ok] at ok
  obtain ⟨b₁, local_, ok⟩ := ok
  cases ok
  have tun : (b.addTunRules p o).Followed _ := Builder.addTunRules_followed over_ followed
  have users : b₁.Followed (FollowsElsewhere sail sets dnsSets flow query) := by
    unfold Builder.addLocalProxy at local_
    split at local_
    next proxy _ =>
      unfold Builder.localProxy at local_
      split at local_
      next => cases local_
      next =>
        cases local_
        have users : (Builder.userRules proxy (b.addTunRules p o) p.nodes).Followed _ :=
          Builder.userRules_followed over_ tun
        have pushed : ((Builder.userRules proxy (b.addTunRules p o) p.nodes).push
            (.all [{ inbound := [localProxyInboundTag] },
              { authUser := [proxy.username ""], invert := true }] .reject)).Followed
            (FollowsElsewhere sail sets dnsSets flow query) := by
          refine users.extend fun rule mem => ?_
          rw [List.mem_singleton.mp mem]
          exact localRule_follows over_ List.mem_cons_self rfl rfl rfl
        split
        · exact pushed.labelRules _
        · exact pushed.same rfl rfl
    next =>
      cases local_
      exact tun
  have system : (b₁.addSystemProxy o).Followed
      (FollowsElsewhere sail sets dnsSets flow query) := by
    unfold Builder.addSystemProxy
    split
    · exact users.same rfl rfl
    · exact users
  unfold Builder.addTunInbound
  split
  · exact system.same rfl rfl
  · exact system

/-! ## The profile's rules -/

/-- What the profile's rules are asked about a name and a connection to it: the
rules that name it have no condition on the port or the protocol, and one
without any condition on the destination does not match the connection. -/
structure Routing.Plain (sail : Sail) (files : BTreeMap String RuleSetFile) (flow query : Flow)
    (rules : List RoutingRule) : Prop where
  named : ∀ rule ∈ rules, rule.matcher.names sail files query = true →
    rule.matcher.ports = [] ∧ rule.matcher.portRanges = [] ∧ rule.matcher.protocols = []
  bare : ∀ rule ∈ rules, hasAddressMatch rule.matcher = false → rule.matcher.ruleSetIds = [] →
    rule.matcher.holds sail files flow = false

variable {files : BTreeMap String RuleSetFile} {rule : RoutingRule}

omit [Crates] in
theorem availableSetHolds_of_domain (byDomain : sail.ByDomain files)
    (mirrored : ∀ (id : String) (file : RuleSetFile), files[id]? = some file →
      file.mirrorDns = true) (domain : flow.domain = query.domain) (id : String) :
    availableSetHolds sail files flow id = availableSetHolds sail files query id := by
  unfold availableSetHolds
  cases available : files[id]? with
  | none => rfl
  | some file => exact byDomain id file available (mirrored id file available) flow query domain

/-- Such a rule matches the connection when it names the name. -/
theorem RoutingMatch.holds_eq_names {rules : List RoutingRule} (byDomain : sail.ByDomain files)
    (mirrored : ∀ (id : String) (file : RuleSetFile), files[id]? = some file →
      file.mirrorDns = true) (domain : flow.domain = query.domain)
    (plain : Routing.Plain sail files flow query rules) (mem : rule ∈ rules)
    (elsewhere : flow.address.any (fun ip =>
      rule.matcher.ipCidrs.any (fun v => (parsePrefix v.toList).any (·.contains ip)) ||
      (rule.matcher.ipIsPrivate && privatePrefixes.any (·.contains ip))) = false) :
    rule.matcher.holds sail files flow = rule.matcher.names sail files query := by
  have sets : rule.matcher.ruleSetIds.any (availableSetHolds sail files flow) =
      rule.matcher.ruleSetIds.any (availableSetHolds sail files query) := by
    congr 1
    funext id
    exact availableSetHolds_of_domain byDomain mirrored domain id
  have address : rule.matcher.address sail files flow =
      ((!hasAddressMatch rule.matcher && rule.matcher.ruleSetIds.isEmpty) ||
        rule.matcher.names sail files query) := by
    rw [RoutingMatch.address, RoutingMatch.names, elsewhere, sets, domain, Bool.or_false,
      Bool.or_assoc]
  cases named : rule.matcher.names sail files query with
  | true =>
    obtain ⟨ports, ranges, protocols⟩ := plain.named rule mem named
    simp [RoutingMatch.holds, address, named, RoutingMatch.onPort, ports, ranges, protocols]
  | false =>
    rw [named, Bool.or_false] at address
    cases none_ : !hasAddressMatch rule.matcher && rule.matcher.ruleSetIds.isEmpty with
    | true =>
      rw [Bool.and_eq_true, Bool.not_eq_true', List.isEmpty_iff] at none_
      exact plain.bare rule mem none_.1 none_.2
    | false =>
      rw [none_] at address
      simp [RoutingMatch.holds, address]

omit [Crates] in
/-- Every available set is mirrored. -/
theorem sets_mirrored (mirrored : ∀ (id : String) (file : RuleSetFile), files[id]? = some file →
      file.mirrorDns = true) (rule : RoutingRule) :
    (rule.sets files).filter (· ∈ mirroredRuleSets files) = rule.sets files := by
  rw [List.filter_eq_self]
  intro tag mem
  obtain ⟨id, listed, rfl⟩ := List.mem_map.mp mem
  obtain ⟨-, present⟩ := List.mem_filter.mp listed
  rw [Std.ExtTreeMap.contains_eq_isSome_getElem?] at present
  obtain ⟨file, available⟩ := Option.isSome_iff_exists.mp present
  rw [decide_eq_true_eq, mirroredRuleSets]
  refine List.mem_map.mpr ⟨(id, file), List.mem_filter.mpr ⟨?_, mirrored id file available⟩, rfl⟩
  exact Std.ExtTreeMap.mem_toList_iff_getElem?_eq_some.mpr available

theorem MatcherOf.names_eq {mode : RoutingMode} {m : Matcher} (valid : p.Valid)
    (mem : rule ∈ (effectiveRouting p mode).rules) (of : MatcherOf rule.matcher m) :
    ({ m with ruleSet := rule.sets files } : Matcher).names sail
        (ruleSetCopies (effectiveRouting p mode) files) query =
      rule.matcher.names sail files query := by
  have domain (name : String) : (m.domain.contains name ||
      m.domainSuffix.any (fun s => s.toList.isSuffixOf name.toList)) =
      (rule.matcher.domains.any (fun v => normalizeDomain v = some name) ||
        rule.matcher.domainSuffixes.any fun v => (normalizeDomain v).any fun domain =>
          withinDomain domain name) := by
    have whole : (_ || m.domainRegex.any (fun pattern => sail.regex pattern name)) = _ :=
      of.domain_any name
    rw [of.others.2.2.1, List.any_nil, Bool.or_false] at whole
    exact whole
  simp only [Matcher.names, RoutingMatch.names, domain, sets_any valid mem]

omit [Crates] in
/-- UDP that is rejected is no TCP. -/
theorem udpReject_follows (over_ : OverTun flow query) {m : Matcher} (plain : m.invert = false) :
    FollowsElsewhere sail sets dnsSets flow query
      (.plain { m with network := ["udp"] } .reject) true := by
  intro _
  refine Follows.of_none ?_ rfl
  have off : oneOf ["udp"] (some flow.network.text) = false := by
    rw [over_.network]
    decide
  simp [RouteRule.decision, RouteRule.holds, RouteRule.matchers, Matcher.holds, off, plain]

/-- What the profile's side is asked. -/
structure Mirrored (p : Profile) (o : Options) (sail : Sail) (flow query : Flow) : Prop where
  sets : ∀ (id : String) (file : RuleSetFile), o.ruleSets[id]? = some file → file.mirrorDns = true
  byDomain : sail.ByDomain o.ruleSets
  plain : Routing.Plain sail o.ruleSets flow query (p.rulesIn o.mode)

/-- What is asked of the rules of a translation. -/
abbrev FollowsIn (p : Profile) (o : Options) (sail : Sail) (flow query : Flow) :
    RouteRule → Bool → Prop :=
  FollowsElsewhere sail (ruleSetCopies (effectiveRouting p o.mode) o.ruleSets)
    (mirroredRuleSets o.ruleSets) flow query

theorem profileRule_follows (over_ : OverTun flow query) (mirrored : Mirrored p o sail flow query)
    (valid : p.Valid) (mem : rule ∈ (effectiveRouting p o.mode).rules)
    (kept : ¬rule.Dropped o.ruleSets) {m : Matcher} (of : MatcherOf rule.matcher m)
    {action : RuleAction} (acts : action = .reject ∨ ∃ tag, action = .route tag) :
    FollowsIn p o sail flow query
      (.plain { m with ruleSet := rule.sets o.ruleSets } action) false := by
  intro elsewhere
  have listed : rule ∈ p.rulesIn o.mode := (rulesIn_eq p o.mode).1 ▸ mem
  have off : flow.address.any (fun ip =>
      rule.matcher.ipCidrs.any (fun v => (parsePrefix v.toList).any (·.contains ip)) ||
      (rule.matcher.ipIsPrivate && privatePrefixes.any (·.contains ip))) = false := by
    cases address : flow.address with
    | none => rfl
    | some ip =>
      rw [Option.any_some, ← of.cidr_any, List.any_eq_false]
      intro cidr inM
      have away := elsewhere _ List.mem_cons_self cidr inM
      rw [address, Option.any_some] at away
      rw [away]
      exact Bool.false_ne_true
  have holds : ({ m with ruleSet := rule.sets o.ruleSets } : Matcher).holds sail
      (ruleSetCopies (effectiveRouting p o.mode) o.ruleSets) flow =
      ({ m with ruleSet := rule.sets o.ruleSets } : Matcher).names sail
        (ruleSetCopies (effectiveRouting p o.mode) o.ruleSets) query := by
    rw [of.holds_eq sail flow valid mem kept, of.names_eq valid mem]
    exact RoutingMatch.holds_eq_names mirrored.byDomain mirrored.sets over_.domain mirrored.plain
      listed off
  rcases acts with rfl | ⟨tag, rfl⟩
  · exact Follows.of_names holds of.others.1 (sets_mirrored mirrored.sets rule) (.inl ⟨rfl, rfl⟩)
  · exact Follows.of_names holds of.others.1 (sets_mirrored mirrored.sets rule)
      (.inr ⟨tag, rfl, rfl⟩)

omit [Crates] in
theorem Builder.action_cases {action : RoutingAction} {out : RuleAction}
    (ok : b.action action = .ok (b', out)) :
    (b' = b ∨ b' = b.ensureDirect) ∧ (out = .reject ∨ ∃ tag, out = .route tag) := by
  unfold Builder.action at ok
  split at ok
  next =>
    cases ok
    exact ⟨.inr rfl, .inr ⟨_, rfl⟩⟩
  next =>
    split at ok
    next =>
      simp only [bind_eq_ok] at ok
      obtain ⟨target, _, made⟩ := ok
      cases made
      exact ⟨.inl rfl, .inr ⟨_, rfl⟩⟩
    next =>
      split at ok
      · cases ok
        exact ⟨.inl rfl, .inl rfl⟩
      · cases ok

/-- The rejection before a rule that goes out somewhere. -/
def Builder.rejectUdpFor (b : Builder) (m : Matcher) : Option String → Builder
  | some target => b.rejectUdpBefore m target
  | none => b

theorem Builder.routingRule_followed (over_ : OverTun flow query)
    (mirrored : Mirrored p o sail flow query) (valid : p.Valid)
    (mem : rule ∈ (effectiveRouting p o.mode).rules)
    (followed : b.Followed (FollowsIn p o sail flow query))
    (ok : b.routingRule o.ruleSets rule = .ok b') :
    b'.Followed (FollowsIn p o sail flow query) := by
  unfold Builder.routingRule at ok
  simp only at ok
  split at ok
  next =>
    cases ok
    exact followed
  next kept =>
    have notDropped : ¬rule.Dropped o.ruleSets := by
      rintro ⟨named, none_, noAddress⟩
      exact kept ⟨named, none_, by simp [noAddress]⟩
    simp only [bind_eq_ok, orFailed_eq_ok] at ok
    obtain ⟨m, matched, ⟨b₁, action⟩, acted, made⟩ := ok
    obtain ⟨m', matched', of⟩ := ruleMatch_made
      (valid.rules rule (effectiveRouting_rules p o.mode rule mem)).matcher
    have same : m = m' := Except.ok.inj (matched.symm.trans matched')
    subst same
    obtain ⟨built, acts⟩ := Builder.action_cases acted
    have first : b₁.Followed (FollowsIn p o sail flow query) := by
      rcases built with rfl | rfl
      · exact followed
      · exact followed.ensureDirect
    cases made
    have before : (b₁.rejectUdpFor { m with ruleSet := rule.sets o.ruleSets } action.outbound?).Followed
        (FollowsIn p o sail flow query) := by
      cases action.outbound? with
      | some target => exact first.rejectUdpBefore (udpReject_follows over_ of.others.2.2.2.2.2)
      | none => exact first
    refine Builder.Followed.labelRules (before.extend fun added mem' => ?_) _
    rw [List.mem_singleton.mp mem']
    exact profileRule_follows over_ mirrored valid mem notDropped of acts

theorem Builder.rules_followed (over_ : OverTun flow query)
    (mirrored : Mirrored p o sail flow query) (valid : p.Valid) {rules : List RoutingRule}
    (sub : ∀ rule ∈ rules, rule ∈ (effectiveRouting p o.mode).rules)
    (followed : b.Followed (FollowsIn p o sail flow query))
    (ok : rules.foldlM (Builder.routingRule o.ruleSets) b = .ok b') :
    b'.Followed (FollowsIn p o sail flow query) := by
  induction rules generalizing b with
  | nil =>
    cases ok
    exact followed
  | cons rule rules ih =>
    rw [List.forall_mem_cons] at sub
    rw [List.foldlM_cons] at ok
    simp only [bind_eq_ok] at ok
    obtain ⟨b₁, first, rest⟩ := ok
    exact ih sub.2 (Builder.routingRule_followed over_ mirrored valid sub.1 followed first) rest

/-! ## The final action -/

/-- What follows the profile's rules: nothing that has a DNS rule, and for a
TCP connection the final outbound, or a rejection without a name. -/
structure Finally (b b' : Builder) (last : List RouteRule) (final : Option String) : Prop where
  rules : b'.rules = b.rules ++ last
  marked : ∀ i < b.rules.length, (i ∈ b'.noDnsMirror ↔ i ∈ b.noDnsMirror)
  noRule : ∀ rule ∈ last, ∀ dnsSets, mirrorDnsRule [] dnsSets 0 rule = none
  tcp : (∃ tag, final = some tag ∧ (last = [] ∨ last = [.plain { network := ["udp"] } .reject])) ∨
    final = none ∧ last = [.plain { network := ["tcp", "udp"] } .reject]

omit [Crates] in
theorem Builder.final_followed {action : RoutingAction} {final : Option String}
    (ok : (if action.kind = "direct" then .ok (b.ensureDirect, some directTag)
      else if action.kind = "proxy" then do
        let target ← orFailed "final: " (b.proxyTarget action)
        return (b.rejectUdpBefore {} target, some target)
      else if action.kind = "reject" then
        .ok ((b.push (.plain { network := ["tcp", "udp"] } .reject)).labelRules "final", none)
      else .error (failed ("unsupported final action " ++ quoted action.kind)) :
      Except Error (Builder × Option String)) = .ok (b', final)) :
    ∃ last, Finally b b' last final := by
  split at ok
  next =>
    cases ok
    refine ⟨[], ?_, ?_, nofun, .inl ⟨_, rfl, .inl rfl⟩⟩
    · rw [List.append_nil, Builder.ensureDirect]
      split <;> rfl
    · intro i _
      rw [Builder.ensureDirect]
      split <;> exact Iff.rfl
  next =>
    split at ok
    next =>
      simp only [bind_eq_ok] at ok
      obtain ⟨target, _, made⟩ := ok
      cases made
      unfold Builder.rejectUdpBefore
      split
      · exact ⟨[], (List.append_nil _).symm, fun _ _ => Iff.rfl, nofun, .inl ⟨_, rfl, .inl rfl⟩⟩
      · refine ⟨_, rfl, fun i inside => ?_, fun rule mem dnsSets => ?_, .inl ⟨_, rfl, .inr rfl⟩⟩
        · have before : i ≠ b.rules.length := by omega
          simp [before]
        · rw [List.mem_singleton.mp mem]
          rfl
    next =>
      split at ok
      · cases ok
        refine ⟨_, rfl, fun _ _ => Iff.rfl, fun rule mem dnsSets => ?_, .inr ⟨rfl, rfl⟩⟩
        rw [List.mem_singleton.mp mem]
        rfl
      · cases ok

/-! ## The whole translation -/

omit [Crates] in
/-- The rules after the profile's add no DNS rule. -/
theorem Finally.mirrorDnsRules {last : List RouteRule} {final : Option String}
    (finally_ : Finally b b' last final) (dnsSets : List String) :
    b'.mirrorDnsRules dnsSets = b.mirrorDnsRules dnsSets := by
  unfold Builder.mirrorDnsRules
  rw [finally_.rules, List.zipIdx_append, List.filterMap_append, Nat.zero_add]
  refine (congrArg₂ (· ++ ·) (List.filterMap_congr ?_) (List.filterMap_eq_nil_iff.mpr ?_)).trans
    (List.append_nil _)
  · rintro ⟨rule, i⟩ mem
    have inside : i < b.rules.length := by
      have := List.mem_zipIdx mem
      omega
    dsimp only
    rw [mirrorDnsRule_eq, mirrorDnsRule_eq b.noDnsMirror]
    simp only [finally_.marked i inside]
  · rintro ⟨rule, i⟩ mem
    dsimp only
    rw [mirrorDnsRule_eq, finally_.noRule rule (List.mem_zipIdx mem |>.2.2 ▸ List.getElem_mem _)]
    exact ite_self none

omit [Crates] in
/-- The first rule that decides about the connection decides about the name. -/
theorem mirrored_findSome {rules : List RouteRule} {off : List Nat} {k : Nat}
    (each : ∀ i rule, rules[i]? = some rule →
      Follows sail sets dnsSets flow query rule (decide (k + i ∈ off))) :
    ((rules.zipIdx k).filterMap fun (rule, i) => mirrorDnsRule off dnsSets i rule).findSome?
        (DnsRule.decision sail sets query) =
      (rules.findSome? (RouteRule.decision sail sets flow)).bind Decision.asked := by
  induction rules generalizing k with
  | nil => rfl
  | cons rule rules ih =>
    have first := each 0 rule rfl
    have rest := ih (k := k + 1) fun i r here => by
      have later := each (i + 1) r here
      rwa [show k + (i + 1) = k + 1 + i by omega] at later
    have decides := first.decides
    rw [Nat.add_zero, ← mirrorDnsRule_eq] at decides
    rw [List.zipIdx_cons, List.filterMap_cons, List.findSome?_cons]
    dsimp only
    cases decided : rule.decision sail sets flow with
    | none =>
      rw [decided, Option.bind_none] at decides
      cases made : mirrorDnsRule off dnsSets k rule with
      | none =>
        simp only
        exact rest
      | some dnsRule =>
        rw [made, Option.bind_some] at decides
        simp only
        rw [List.findSome?_cons, decides]
        exact rest
    | some d =>
      have asked : ∃ x, d.asked = some x := by
        cases d with
        | route tag => exact ⟨_, rfl⟩
        | reject => exact ⟨_, rfl⟩
        | hijackDns => exact absurd decided first.asked
      obtain ⟨x, asked⟩ := asked
      rw [decided, Option.bind_some, asked] at decides
      cases made : mirrorDnsRule off dnsSets k rule with
      | none =>
        rw [made] at decides
        cases decides
      | some dnsRule =>
        rw [made, Option.bind_some] at decides
        simp only
        rw [List.findSome?_cons, decides, Option.bind_some, asked]

/-- A translation for a TUN, its rules and its DNS section. -/
structure DnsMade (p : Profile) (o : Options) (t : Translation) (front : Builder)
    (last : List RouteRule) (dns : Dns) : Prop where
  given : t.json.dns = some dns
  rules : t.json.route.rules = front.rules ++ last
  dnsRules : dns.rules = front.mirrorDnsRules (mirroredRuleSets o.ruleSets)
  dnsFinal : dns.final = if t.json.route.final = some directTag then dnsLocalTag else dnsRemoteTag
  last : (∃ tag, t.json.route.final = some tag ∧
      (last = [] ∨ last = [.plain { network := ["udp"] } .reject])) ∨
    t.json.route.final = none ∧ last = [.plain { network := ["tcp", "udp"] } .reject]
  followed : ∀ {sail : Sail} {flow query : Flow}, OverTun flow query →
    Mirrored p o sail flow query → front.Followed (FollowsIn p o sail flow query)

theorem translate_dnsMade {tun : Tun} {t : Translation} (valid : p.Valid)
    (ok : translate p o = .ok t) (given : o.tun = some tun) :
    ∃ front last dns, DnsMade p o t front last dns := by
  simp only [translate, bind_eq_ok] at ok
  obtain ⟨b, based, b₁, listened, ⟨b₂, final⟩, routed, rest⟩ := ok
  simp only [Builder.routing, bind_eq_ok] at routed
  obtain ⟨front, compiled, routed⟩ := routed
  obtain ⟨last, finally_⟩ := Builder.final_followed routed
  rw [given] at rest
  simp only [bind_eq_ok, Builder.tunDns] at rest
  obtain ⟨_, ⟨_, _, dns⟩, made⟩ := rest
  cases dns
  cases made
  refine ⟨front, last, _, rfl, finally_.rules, finally_.mirrorDnsRules _, ?_, finally_.tcp, ?_⟩
  · simp [Builder.finish]
  · intro sail flow query over_ mirrored
    have start : b.Followed (FollowsIn p o sail flow query) := by
      simp only [Builder.outboundsOf, bind_eq_ok] at based
      obtain ⟨_, _, made⟩ := based
      split at made <;> cases made
      exact ⟨by simp, by simp⟩
    exact Builder.rules_followed over_ mirrored valid (fun _ => id)
      (Builder.listeners_followed over_ start listened) compiled

omit [Crates] in
/-- What becomes of a TCP connection that no rule before the last decided. -/
theorem last_decision {last : List RouteRule} {final : Option String} (sail : Sail)
    (sets : List LocalRuleSet) (query : Flow) (other : Option String) (tcp : flow.network = .tcp)
    (cases_ : (∃ tag, final = some tag ∧
        (last = [] ∨ last = [.plain { network := ["udp"] } .reject])) ∨
      final = none ∧ last = [.plain { network := ["tcp", "udp"] } .reject]) :
    (∃ tag, final = some tag ∧
      last.findSome? (RouteRule.decision sail sets flow) = none ∧
      (last.findSome? (RouteRule.decision sail sets flow)).or ((final.or other).map .route) =
        some (.route tag)) ∨
    final = none ∧ last.findSome? (RouteRule.decision sail sets flow) = some .reject ∧
      ∀ rule ∈ last, ∀ m ∈ rule.matchers, m.names sail sets query = false := by
  rcases cases_ with ⟨tag, rfl, rfl | rfl⟩ | ⟨rfl, rfl⟩
  · exact .inl ⟨tag, rfl, rfl, rfl⟩
  · have off : RouteRule.decision sail sets flow (.plain { network := ["udp"] } .reject) = none := by
      simp [RouteRule.decision, RouteRule.holds, RouteRule.matchers, Matcher.holds, oneOf, tcp,
        Network.text]
    refine .inl ⟨tag, rfl, ?_, ?_⟩ <;> rw [List.findSome?_singleton, off]
    rfl
  · refine .inr ⟨rfl, ?_, ?_⟩
    · simp [RouteRule.decision, RouteRule.holds, RouteRule.matchers, RouteRule.action,
        RuleAction.decision, Matcher.holds, Matcher.exceptNetwork, Matcher.address, Matcher.ports,
        oneOf, tcp, Network.text]
    · intro rule mem m inRule
      cases List.mem_singleton.mp mem
      cases List.mem_singleton.mp inRule
      rw [Matcher.names]
      cases query.domain <;> rfl

omit [Crates] in
/-- Rejections before the last rules name the query. -/
theorem rejectsName_iff {route : Route} {front last : List RouteRule}
    (rules : route.rules = front ++ last)
    (named : ∀ rule ∈ front, rule.decision sail route.ruleSet flow = some .reject →
      ∃ m ∈ rule.matchers, m.names sail route.ruleSet query = true)
    (unnamed : ∀ rule ∈ last, ∀ m ∈ rule.matchers, rule.decision sail route.ruleSet flow =
      some .reject → m.names sail route.ruleSet query = false) :
    route.RejectsName sail flow query ↔
      front.findSome? (RouteRule.decision sail route.ruleSet flow) = some .reject := by
  constructor
  · rintro ⟨before, rule, after, whole, silent, rejects, m, mem, names⟩
    rw [rules] at whole
    have found : (front ++ last).findSome? (RouteRule.decision sail route.ruleSet flow) =
        some .reject := by
      rw [whole, List.findSome?_append, List.findSome?_cons, rejects,
        List.findSome?_eq_none_iff.mpr silent]
      rfl
    cases first : front.findSome? (RouteRule.decision sail route.ruleSet flow) with
    | some d =>
      rw [List.findSome?_append, first] at found
      exact found
    | none =>
      -- The rule is none of the front's, so it is one of the last.
      have inLast : rule ∈ last := by
        have member : rule ∈ front ++ last := by
          rw [whole]
          exact List.mem_append_right _ List.mem_cons_self
        rcases List.mem_append.mp member with inFront | inLast
        · have quiet := List.findSome?_eq_none_iff.mp first rule inFront
          rw [rejects] at quiet
          cases quiet
        · exact inLast
      rw [unnamed rule inLast m mem rejects] at names
      cases names
  · intro found
    obtain ⟨before, rule, after, split_, rejects, silent⟩ := List.findSome?_eq_some_iff.mp found
    refine ⟨before, rule, after ++ last, ?_, silent, rejects, ?_⟩
    · rw [rules, split_, List.append_assoc]
      rfl
    · refine named rule ?_ rejects
      rw [split_]
      exact List.mem_append_right _ List.mem_cons_self

omit [Crates] in
/-- The three ways a name is asked exclude each other. -/
theorem three_ways {x : DnsDecision} {direct rejected : Prop}
    (way : x = .server dnsLocalTag ∧ direct ∧ ¬rejected ∨ x = .refused ∧ ¬direct ∧ rejected ∨
      x = .server dnsRemoteTag ∧ ¬direct ∧ ¬rejected) :
    (x = .server dnsLocalTag ↔ direct) ∧ (x = .refused ↔ rejected) ∧
      (x = .server dnsRemoteTag ↔ ¬direct ∧ ¬rejected) := by
  have apart : dnsLocalTag ≠ dnsRemoteTag := by decide
  rcases way with ⟨rfl, direct, off⟩ | ⟨rfl, off, rejected⟩ | ⟨rfl, off, off'⟩
  · simp [direct, off, apart]
  · simp [rejected, off]
  · simp [off, off', apart.symm]

/-- A name is asked where a connection to it goes: of the local server when it
goes direct; it is refused when a rule that names it rejects the connection;
else it is asked of the remote one. -/
theorem translate_dns_follows {now : Int} {tun : Tun} (accepted : validate p now = .ok ())
    (inj : TagsInjective p) (admissible : o.Admissible p) (given : o.tun = some tun) :
    ∃ t dns, translate p o = .ok t ∧ t.json.dns = some dns ∧
      ∀ (sail : Sail) (flow query : Flow), OverTun flow query → Mirrored p o sail flow query →
        (∀ rule ∈ t.json.route.rules, rule.Elsewhere flow) →
        (dns.decision sail t.json.route.ruleSet query = .server dnsLocalTag ↔
          t.json.route.decision sail t.json.outbounds flow = some (.route directTag)) ∧
        (dns.decision sail t.json.route.ruleSet query = .refused ↔
          t.json.route.RejectsName sail flow query) ∧
        (dns.decision sail t.json.route.ruleSet query = .server dnsRemoteTag ↔
          t.json.route.decision sail t.json.outbounds flow ≠ some (.route directTag) ∧
          ¬t.json.route.RejectsName sail flow query) := by
  have valid := validate_ok accepted
  obtain ⟨t, ok, made⟩ := translate_made valid inj admissible
  obtain ⟨front, last, dns, dnsMade⟩ := translate_dnsMade valid ok given
  refine ⟨t, dns, ok, dnsMade.given, fun sail flow query over_ mirrored elsewhere => ?_⟩
  have follows (i : Nat) (rule : RouteRule) (here : front.rules[i]? = some rule) :
      Follows sail t.json.route.ruleSet (mirroredRuleSets o.ruleSets) flow query rule
        (decide (i ∈ front.noDnsMirror)) := by
    have each := (dnsMade.followed over_ mirrored).each i rule here
    rw [made.ruleSet]
    refine each (elsewhere rule ?_)
    rw [dnsMade.rules]
    exact List.mem_append_left _ (List.mem_of_getElem? here)
  have asked : dns.rules.findSome? (DnsRule.decision sail t.json.route.ruleSet query) =
      (front.rules.findSome? (RouteRule.decision sail t.json.route.ruleSet flow)).bind
        Decision.asked := by
    rw [dnsMade.dnsRules, Builder.mirrorDnsRules]
    exact mirrored_findSome (by simpa using follows)
  have lastCases := last_decision sail t.json.route.ruleSet query
    (t.json.outbounds.head?.map Outbound.tag) over_.network dnsMade.last
  have rejects : t.json.route.RejectsName sail flow query ↔
      front.rules.findSome? (RouteRule.decision sail t.json.route.ruleSet flow) =
        some .reject := by
    refine rejectsName_iff dnsMade.rules ?_ ?_
    · intro rule mem rejected
      obtain ⟨i, here⟩ := List.mem_iff_getElem?.mp mem
      exact (follows i rule here).named rejected
    · intro rule mem m inRule rejected
      rcases lastCases with ⟨_, _, quiet, _⟩ | ⟨_, _, unnamed⟩
      · rw [List.findSome?_eq_none_iff.mp quiet rule mem] at rejected
        cases rejected
      · exact unnamed rule mem m inRule
  apply three_ways
  rw [rejects, Dns.decision, asked, Route.decision, dnsMade.rules, List.findSome?_append]
  cases first : front.rules.findSome? (RouteRule.decision sail t.json.route.ruleSet flow) with
  | some d =>
    cases d with
    | route tag =>
      by_cases direct : tag = directTag
      · exact .inl ⟨by simp [Decision.asked, direct], by simp [direct], by simp⟩
      · exact .inr (.inr ⟨by simp [Decision.asked, direct], by simp [direct], by simp⟩)
    | reject => exact .inr (.inl ⟨rfl, by simp, rfl⟩)
    | hijackDns =>
      obtain ⟨rule, mem, decided⟩ := List.exists_of_findSome?_eq_some first
      obtain ⟨i, here⟩ := List.mem_iff_getElem?.mp mem
      exact absurd decided (follows i rule here).asked
  | none =>
    rcases lastCases with ⟨tag, final, _, decided⟩ | ⟨final, decided, _⟩
    · rw [Option.none_or, decided, Option.bind_none, Option.getD_none, dnsMade.dnsFinal, final]
      by_cases direct : tag = directTag
      · exact .inl ⟨by simp [direct], by simp [direct], by simp⟩
      · exact .inr (.inr ⟨by simp [direct], by simp [direct], by simp⟩)
    · rw [Option.none_or, decided, Option.bind_none, Option.getD_none, dnsMade.dnsFinal, final]
      exact .inr (.inr ⟨by simp, by simp, by simp⟩)

end

/-- A web connection over the TUN. -/
def sampleFlow : Flow :=
  { inbound := tunInboundTag, authUser := none, network := .tcp, domain := some "example.net"
    address := some (.v4 0xcb007107), port := 443, protocol := some "tls" }

theorem sampleFlow_overTun : OverTun sampleFlow sampleFlow :=
  ⟨rfl, rfl, by decide, by decide, rfl⟩

def sampleSail : Sail := ⟨fun _ _ => false, fun _ _ => true⟩

/-- The sample's connection meets no address condition. -/
def Translation.sampleElsewhere (t : Translation) : Bool :=
  t.json.route.rules.all fun rule => rule.matchers.all fun m => m.ipCidr.all fun cidr =>
    !sampleFlow.address.any cidr.contains

theorem Translation.elsewhere_of_sample {t : Translation} (off : t.sampleElsewhere = true) :
    ∀ rule ∈ t.json.route.rules, rule.Elsewhere sampleFlow := by
  intro rule mem m inRule cidr inM
  have off' := List.all_eq_true.mp (List.all_eq_true.mp (List.all_eq_true.mp off rule mem) m inRule)
    cidr inM
  simpa using off'

theorem sampleOptions_mirrored (p : Profile) (none_ : ∀ rule ∈ p.rulesIn .rules,
      @RoutingMatch.names sampleCrates sampleSail ∅ rule.matcher sampleFlow = false ∧
      @hasAddressMatch rule.matcher = true) :
    @Mirrored sampleCrates p sampleOptions sampleSail sampleFlow sampleFlow := by
  let _ := sampleCrates
  have absent (id : String) (file : RuleSetFile) (here : sampleOptions.ruleSets[id]? = some file) :
      False := by
    simp [sampleOptions] at here
  refine ⟨fun id file here => (absent id file here).elim,
    fun id file here => (absent id file here).elim, fun rule mem named => ?_, fun rule mem bare => ?_⟩
  · have off := (none_ rule mem).1
    rw [show RoutingMatch.names sampleSail ∅ rule.matcher sampleFlow = true from named] at off
    cases off
  · rw [(none_ rule mem).2] at bare
    cases bare

def translatedAnd {ε : Type} (p : Translation → Bool) : Except ε Translation → Bool
  | .ok t => p t
  | .error _ => false

theorem translate_dns_follows_sample :
    ∃ t dns, @translate sampleCrates sampleProfile sampleOptions = .ok t ∧ t.json.dns = some dns ∧
      (dns.decision sampleSail t.json.route.ruleSet sampleFlow = .server dnsLocalTag ↔
        t.json.route.decision sampleSail t.json.outbounds sampleFlow = some (.route directTag)) := by
  let _ := sampleCrates
  obtain ⟨t, dns, ok, given, follows⟩ := translate_dns_follows sampleProfile_accepted
    ⟨by decide, by decide⟩ (sampleOptions_admissible true none) rfl
  have off : translatedAnd Translation.sampleElsewhere (translate sampleProfile sampleOptions) = true := by
    decide +kernel
  have ok' : translate sampleProfile sampleOptions = .ok t := ok
  rw [ok'] at off
  have mirrored := sampleOptions_mirrored sampleProfile (by decide)
  exact ⟨t, dns, ok, given, (follows sampleSail sampleFlow sampleFlow sampleFlow_overTun mirrored
    (Translation.elsewhere_of_sample off)).1⟩

/-- All TCP goes direct, all else to the selected node. -/
def sampleTcpProfile : Profile :=
  { sampleProfile with
    routing :=
      { ruleSets := []
        rules := [⟨"tcp", ⟨[], [], [], false, ["tcp"], [], [], []⟩, ⟨"direct", "", ""⟩, true⟩]
        finalAction := ⟨"proxy", "selected", ""⟩ } }

/-- No rule names the connection's domain and no rule set is used; the
connection goes direct and its name is asked of the remote server. -/
theorem dns_astray : @validate sampleCrates sampleTcpProfile 0 = .ok () ∧
    (∀ rule ∈ sampleTcpProfile.routing.rules,
      @RoutingMatch.names sampleCrates sampleSail ∅ rule.matcher sampleFlow = false ∧
      rule.matcher.ruleSetIds = []) ∧
    OverTun sampleFlow sampleFlow ∧
    ∃ t dns, @translate sampleCrates sampleTcpProfile sampleOptions = .ok t ∧
      t.json.dns = some dns ∧ (∀ rule ∈ t.json.route.rules, rule.Elsewhere sampleFlow) ∧
      t.json.route.decision sampleSail t.json.outbounds sampleFlow = some (.route directTag) ∧
      dns.decision sampleSail t.json.route.ruleSet sampleFlow = .server dnsRemoteTag := by
  let _ := sampleCrates
  refine ⟨rfl, by decide, sampleFlow_overTun, ?_⟩
  have evaluated : translatedAnd (fun t => t.sampleElsewhere &&
      decide (t.json.route.decision sampleSail t.json.outbounds sampleFlow = some (.route directTag)) &&
      decide (t.json.dns.map (fun dns => dns.decision sampleSail t.json.route.ruleSet sampleFlow) =
        some (.server dnsRemoteTag))) (translate sampleTcpProfile sampleOptions) = true := by
    decide +kernel
  cases ok : translate sampleTcpProfile sampleOptions with
  | error e =>
    rw [ok] at evaluated
    cases evaluated
  | ok t =>
    rw [ok] at evaluated
    simp only [translatedAnd, Bool.and_eq_true, decide_eq_true_eq, Option.map_eq_some_iff] at evaluated
    obtain ⟨⟨elsewhere, direct⟩, dns, given, remote⟩ := evaluated
    exact ⟨t, dns, rfl, given, Translation.elsewhere_of_sample elsewhere, direct, remote⟩

end PpvpnCore
