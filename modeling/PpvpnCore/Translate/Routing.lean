import PpvpnCore.Translate.Made

/-!
# Routing is preserved

What a configuration does with a flow, as sing-box's rules are read: tried in
order, the first that matches decides; the domain, suffix, regex, prefix and
rule set conditions of a rule are alternatives of one condition, ports and
port ranges of another, and all conditions present must hold. Against it, what
the profile says about the same flow (`Profile.verdict`).

`translate_verdict`: on the system proxy's inbound the two agree.
-/

namespace PpvpnCore

open Lib

/-! ## Flows -/

inductive Network where
  | tcp | udp
  deriving DecidableEq, Repr

def Network.text : Network → String
  | .tcp => "tcp"
  | .udp => "udp"

/-- A connection or UDP session as the rules see it. -/
structure Flow where
  inbound : String
  authUser : Option String
  network : Network
  domain : Option String
  address : Option IpAddr
  port : UInt16
  /-- What sniffing told. -/
  protocol : Option String
  deriving DecidableEq, Repr

/-- What the rules are evaluated with: the contents of the rule set files and
the regular expressions. -/
structure Sail where
  ruleSet : (path : String) → Flow → Bool
  regex : (pattern text : String) → Bool

/-! ## The configuration's side -/

/-- A condition given as a list, absent when the list is empty. -/
def oneOf (values : List String) (value : Option String) : Bool :=
  values.isEmpty || value.any fun v => values.contains v

def Sail.ruleSetHolds (sail : Sail) (sets : List LocalRuleSet) (flow : Flow) (tag : String) :
    Bool :=
  (sets.find? fun set => set.tag = tag).any fun set => sail.ruleSet set.path flow

/-- The alternatives over the destination. -/
def Matcher.address (sail : Sail) (sets : List LocalRuleSet) (m : Matcher) (flow : Flow) : Bool :=
  (m.domain.isEmpty && m.domainSuffix.isEmpty && m.domainRegex.isEmpty && m.ipCidr.isEmpty &&
      m.ruleSet.isEmpty) ||
    flow.domain.any (fun d => m.domain.contains d ||
      m.domainSuffix.any (fun s => s.toList.isSuffixOf d.toList) ||
      m.domainRegex.any (fun pattern => sail.regex pattern d)) ||
    flow.address.any (fun ip => m.ipCidr.any (·.contains ip)) ||
    m.ruleSet.any (sail.ruleSetHolds sets flow)

def Matcher.ports (m : Matcher) (flow : Flow) : Bool :=
  (m.port.isEmpty && m.portRange.isEmpty) || m.port.contains flow.port ||
    m.portRange.any fun (start, stop) => start ≤ flow.port && flow.port ≤ stop

/-- Whether a flow meets the conditions, the one on the network apart. -/
def Matcher.exceptNetwork (sail : Sail) (sets : List LocalRuleSet) (m : Matcher) (flow : Flow) :
    Bool :=
  oneOf m.inbound (some flow.inbound) && oneOf m.authUser flow.authUser &&
    oneOf m.protocol flow.protocol && m.address sail sets flow && m.ports flow

def Matcher.holds (sail : Sail) (sets : List LocalRuleSet) (m : Matcher) (flow : Flow) : Bool :=
  (oneOf m.network (some flow.network.text) && m.exceptNetwork sail sets flow) != m.invert

def RouteRule.holds (sail : Sail) (sets : List LocalRuleSet) (rule : RouteRule) (flow : Flow) :
    Bool :=
  rule.matchers.all fun m => m.holds sail sets flow

/-- Where a flow goes. -/
inductive Decision where
  | route (outbound : String)
  | reject
  | hijackDns
  deriving DecidableEq, Repr

/-- What a matching rule decides; sniffing and options let the flow go on. -/
def RuleAction.decision : RuleAction → Option Decision
  | .route outbound => some (.route outbound)
  | .reject => some .reject
  | .hijackDns => some .hijackDns
  | .sniff => none
  | .routeOptions _ => none

def RouteRule.decision (sail : Sail) (sets : List LocalRuleSet) (flow : Flow) (rule : RouteRule) :
    Option Decision :=
  if rule.holds sail sets flow then rule.action.decision else none

/-- Without `final` the first outbound takes what no rule decided. -/
def Route.decision (sail : Sail) (outbounds : List Outbound) (route : Route) (flow : Flow) :
    Option Decision :=
  (route.rules.findSome? (RouteRule.decision sail route.ruleSet flow)).or
    ((route.final.or (outbounds.head?.map Outbound.tag)).map .route)

inductive Verdict where
  | direct
  | reject
  | selected
  | node (id : String)
  deriving DecidableEq, Repr

/-- A decision in the profile's terms. -/
def Translation.verdictOf (t : Translation) : Decision → Option Verdict
  | .reject => some .reject
  | .hijackDns => none
  | .route tag =>
    if tag = selectedTag then some .selected
    else if tag = directTag then some .direct
    else t.tags.outboundNodes[tag]?.map .node

def Translation.verdict (t : Translation) (sail : Sail) (flow : Flow) : Option Verdict :=
  (t.json.route.decision sail t.json.outbounds flow).bind t.verdictOf

/-! ## The profile's side -/

section

variable [Crates]

/-- `name` is `domain` or a subdomain of it: its labels end in `domain`'s. -/
def withinDomain (domain name : String) : Bool :=
  (splitAll '.' domain.toList).isSuffixOf (splitAll '.' name.toList)

/-- A rule set without a copy matches nothing. -/
def availableSetHolds (sail : Sail) (files : BTreeMap String RuleSetFile) (flow : Flow)
    (id : String) : Bool :=
  files[id]?.any fun file => sail.ruleSet file.path flow

def RoutingMatch.address (sail : Sail) (files : BTreeMap String RuleSetFile) (m : RoutingMatch)
    (flow : Flow) : Bool :=
  (!hasAddressMatch m && m.ruleSetIds.isEmpty) ||
    flow.domain.any (fun name =>
      m.domains.any (fun v => normalizeDomain v = some name) ||
      m.domainSuffixes.any fun v => (normalizeDomain v).any fun domain =>
        withinDomain domain name) ||
    flow.address.any (fun ip =>
      m.ipCidrs.any (fun v => (parsePrefix v.toList).any (·.contains ip)) ||
      (m.ipIsPrivate && privatePrefixes.any (·.contains ip))) ||
    m.ruleSetIds.any (availableSetHolds sail files flow)

def RoutingMatch.onPort (m : RoutingMatch) (flow : Flow) : Bool :=
  (m.ports.isEmpty && m.portRanges.isEmpty) || m.ports.contains flow.port ||
    m.portRanges.any fun v =>
      match parsePortRange v.toList with
      | .ok (start, stop) => start ≤ flow.port && flow.port ≤ stop
      | .error _ => false

def RoutingMatch.holds (sail : Sail) (files : BTreeMap String RuleSetFile) (m : RoutingMatch)
    (flow : Flow) : Bool :=
  (m.protocols.isEmpty || m.protocols.contains flow.network.text) && m.address sail files flow &&
    m.onPort flow

omit [Crates] in
/-- What an action says, whatever the node can carry. -/
def RoutingAction.verdict (action : RoutingAction) : Verdict :=
  if action.kind = "direct" then .direct
  else if action.kind = "reject" then .reject
  else if action.target = "selected" then .selected
  else .node action.nodeId

/-- The node is fixed and carries no UDP. -/
def Profile.withoutUdp (p : Profile) (id : String) : Bool :=
  p.nodes.any fun n => n.id = id && !n.capabilities.udp

/-- UDP to a fixed node that carries none is rejected. -/
def Profile.carried (p : Profile) (flow : Flow) : Verdict → Verdict
  | .node id => if flow.network = .udp ∧ p.withoutUdp id then .reject else .node id
  | verdict => verdict

/-- The rules that apply in a mode, and what follows them. -/
def Profile.rulesIn (p : Profile) : RoutingMode → List RoutingRule
  | .rules => p.routing.rules
  | .global => p.routing.rules.filter (·.baseline)

def Profile.finalIn (p : Profile) : RoutingMode → Verdict
  | .rules => p.routing.finalAction.verdict
  | .global => .selected

/-- What the profile says about a flow: the first matching rule of the mode,
else its final action. -/
def Profile.verdict (p : Profile) (sail : Sail) (mode : RoutingMode)
    (files : BTreeMap String RuleSetFile) (flow : Flow) : Verdict :=
  p.carried flow
    (match (p.rulesIn mode).find? fun rule => rule.matcher.holds sail files flow with
      | some rule => rule.action.verdict
      | none => p.finalIn mode)

/-! ## Conditions -/

omit [Crates] in
theorem withinDomain_iff {domain name : String} :
    withinDomain domain name = true ↔
      name = domain ∨ ("." ++ domain).toList.isSuffixOf name.toList = true := by
  rw [withinDomain, List.isSuffixOf_iff_suffix, List.isSuffixOf_iff_suffix, splitAll_suffix,
    String.toList_inj, String.toList_append]
  rfl

omit [Crates] in
/-- The copy a rule's set is loaded from is the one the profile's side reads. -/
theorem ruleSetHolds_copies {routing : Routing} {files : BTreeMap String RuleSetFile} {sail : Sail}
    {flow : Flow} {rule : RoutingRule} {id : String} (mem : rule ∈ routing.rules)
    (named : id ∈ rule.matcher.ruleSetIds) (declared : ∃ set ∈ routing.ruleSets, set.id = id)
    {file : RuleSetFile} (available : files[id]? = some file) :
    sail.ruleSetHolds (ruleSetCopies routing files) flow (ruleSetTag id) =
      sail.ruleSet file.path flow := by
  have path : (files.getD id ⟨"", false⟩).path = file.path := by
    rw [Std.ExtTreeMap.getD_eq_getD_getElem?, available]
    rfl
  obtain ⟨set, inSets, rfl⟩ := declared
  have present : files.contains set.id = true := by
    rw [Std.ExtTreeMap.contains_eq_isSome_getElem?, available]
    rfl
  have used : set ∈ usedRuleSets routing files := by
    refine List.mem_filter.mpr ⟨inSets, ?_⟩
    rw [present, Bool.true_and]
    exact List.any_eq_true.mpr ⟨rule, mem, by simpa using named⟩
  unfold Sail.ruleSetHolds
  cases found : (ruleSetCopies routing files).find? fun copy => copy.tag = ruleSetTag set.id with
  | none =>
    have absent := List.find?_eq_none.mp found _ (List.mem_map_of_mem used)
    simp at absent
  | some copy =>
    have tag := List.find?_some found
    obtain ⟨other, _, rfl⟩ := List.mem_map.mp (List.mem_of_find?_eq_some found)
    have same : other.id = set.id := ruleSetTag_injective (by simpa using tag)
    rw [Option.any_some, same, path]

section

variable {files : BTreeMap String RuleSetFile} {sail : Sail} {flow : Flow} {rule : RoutingRule}
  {m : Matcher}

theorem MatcherOf.domain_any (of : MatcherOf rule.matcher m) (name : String) :
    (m.domain.contains name || m.domainSuffix.any (fun s => s.toList.isSuffixOf name.toList) ||
      m.domainRegex.any (fun pattern => sail.regex pattern name)) =
    (rule.matcher.domains.any (fun v => normalizeDomain v = some name) ||
      rule.matcher.domainSuffixes.any fun v => (normalizeDomain v).any fun domain =>
        withinDomain domain name) := by
  rw [of.others.2.2.1, List.any_nil, Bool.or_false, Bool.eq_iff_iff]
  simp only [Bool.or_eq_true, List.contains_iff_mem, of.domain, List.any_eq_true, of.domainSuffix,
    decide_eq_true_eq, Option.any_eq_true, withinDomain_iff]
  constructor
  · rintro ((exact_ | ⟨v, mem, eq⟩) | ⟨_, ⟨v, mem, domain, eq, rfl⟩, suffix⟩)
    · exact .inl exact_
    · exact .inr ⟨v, mem, name, eq, .inl rfl⟩
    · exact .inr ⟨v, mem, domain, eq, .inr suffix⟩
  · rintro (exact_ | ⟨v, mem, domain, eq, rfl | suffix⟩)
    · exact .inl (.inl exact_)
    · exact .inl (.inr ⟨v, mem, eq⟩)
    · exact .inr ⟨_, ⟨v, mem, domain, eq, rfl⟩, suffix⟩

theorem MatcherOf.cidr_any (of : MatcherOf rule.matcher m) (ip : IpAddr) :
    m.ipCidr.any (·.contains ip) =
      (rule.matcher.ipCidrs.any (fun v => (parsePrefix v.toList).any (·.contains ip)) ||
        (rule.matcher.ipIsPrivate && privatePrefixes.any (·.contains ip))) := by
  rw [Bool.eq_iff_iff]
  simp only [List.any_eq_true, of.ipCidr, Bool.or_eq_true, Option.any_eq_true, Bool.and_eq_true]
  constructor
  · rintro ⟨p, ⟨v, mem, q, parsed, rfl⟩ | ⟨isPrivate, mem⟩, contains⟩
    · rw [Prefix.contains_masked] at contains
      exact .inl ⟨v, mem, q, parsed, contains⟩
    · exact .inr ⟨isPrivate, p, mem, contains⟩
  · rintro (⟨v, mem, q, parsed, contains⟩ | ⟨isPrivate, p, mem, contains⟩)
    · exact ⟨q.masked, .inl ⟨v, mem, q, parsed, rfl⟩, by rw [Prefix.contains_masked, contains]⟩
    · exact ⟨p, .inr ⟨isPrivate, mem⟩, contains⟩

theorem sets_any {p : Profile} {mode : RoutingMode} (valid : p.Valid)
    (mem : rule ∈ (effectiveRouting p mode).rules) :
    (rule.sets files).any
        (sail.ruleSetHolds (ruleSetCopies (effectiveRouting p mode) files) flow) =
      rule.matcher.ruleSetIds.any (availableSetHolds sail files flow) := by
  rw [Bool.eq_iff_iff, RoutingRule.sets]
  simp only [List.any_eq_true, List.mem_map, List.mem_filter]
  constructor
  · rintro ⟨_, ⟨id, ⟨named, present⟩, rfl⟩, holds⟩
    rw [Std.ExtTreeMap.contains_eq_isSome_getElem?] at present
    obtain ⟨file, available⟩ := Option.isSome_iff_exists.mp present
    rw [ruleSetHolds_copies mem named (effectiveRouting_names valid mem named) available] at holds
    exact ⟨id, named, by simp [availableSetHolds, available, holds]⟩
  · rintro ⟨id, named, holds⟩
    obtain ⟨file, available, holds⟩ := (Option.any_eq_true _ _).mp holds
    refine ⟨ruleSetTag id, ⟨id, ⟨named, ?_⟩, rfl⟩, ?_⟩
    · rw [Std.ExtTreeMap.contains_eq_isSome_getElem?, available]
      rfl
    · rw [ruleSetHolds_copies mem named (effectiveRouting_names valid mem named) available]
      exact holds

theorem MatcherOf.address_eq {p : Profile} {mode : RoutingMode} (valid : p.Valid)
    (mem : rule ∈ (effectiveRouting p mode).rules) (kept : ¬rule.Dropped files)
    (of : MatcherOf rule.matcher m) :
    ({ m with ruleSet := rule.sets files } : Matcher).address sail
        (ruleSetCopies (effectiveRouting p mode) files) flow =
      rule.matcher.address sail files flow := by
  unfold Matcher.address RoutingMatch.address
  simp only [of.domain_any, of.cidr_any, sets_any valid mem]
  -- A rule that lost all its sets has another address condition, or was dropped.
  have absent : (m.domain.isEmpty && m.domainSuffix.isEmpty && m.domainRegex.isEmpty &&
      m.ipCidr.isEmpty && (rule.sets files).isEmpty) =
      (!hasAddressMatch rule.matcher && rule.matcher.ruleSetIds.isEmpty) := by
    rw [of.others.2.2.1, Bool.eq_iff_iff]
    simp only [List.isEmpty_nil, Bool.and_true, Bool.and_eq_true, List.isEmpty_iff,
      Bool.not_eq_true']
    constructor
    · rintro ⟨⟨⟨domain, suffix⟩, cidr⟩, sets⟩
      have noAddress := of.address.mp ⟨domain, suffix, cidr⟩
      refine ⟨noAddress, ?_⟩
      by_contra named
      exact kept ⟨named, sets, noAddress⟩
    · rintro ⟨noAddress, none_⟩
      obtain ⟨domain, suffix, cidr⟩ := of.address.mpr noAddress
      exact ⟨⟨⟨domain, suffix⟩, cidr⟩, by simp [RoutingRule.sets, none_]⟩
  rw [absent]

theorem MatcherOf.ports_eq (of : MatcherOf rule.matcher m) (sets : List String) :
    ({ m with ruleSet := sets } : Matcher).ports flow = rule.matcher.onPort flow := by
  unfold Matcher.ports RoutingMatch.onPort
  have ranges : m.portRange.isEmpty = rule.matcher.portRanges.isEmpty := by
    rw [Bool.eq_iff_iff, List.isEmpty_iff, List.isEmpty_iff]
    exact of.ranges
  have any : (m.portRange.any fun (start, stop) => start ≤ flow.port && flow.port ≤ stop) =
      rule.matcher.portRanges.any fun v => match parsePortRange v.toList with
        | .ok (start, stop) => start ≤ flow.port && flow.port ≤ stop
        | .error _ => false := by
    rw [Bool.eq_iff_iff]
    simp only [List.any_eq_true, of.portRange]
    constructor
    · rintro ⟨range, ⟨v, mem, parsed⟩, within⟩
      exact ⟨v, mem, by rw [parsed]; exact within⟩
    · rintro ⟨v, mem, within⟩
      split at within
      next start stop parsed => exact ⟨(start, stop), ⟨v, mem, parsed⟩, within⟩
      next => cases within
  rw [of.port, ranges, any]

/-- The conditions of a compiled rule, the network apart, are the profile's. -/
theorem MatcherOf.exceptNetwork_eq {p : Profile} {mode : RoutingMode} (sail : Sail) (flow : Flow)
    (valid : p.Valid)
    (mem : rule ∈ (effectiveRouting p mode).rules) (kept : ¬rule.Dropped files)
    (of : MatcherOf rule.matcher m) (network : List String) :
    ({ m with ruleSet := rule.sets files, network } : Matcher).exceptNetwork sail
        (ruleSetCopies (effectiveRouting p mode) files) flow =
      (rule.matcher.address sail files flow && rule.matcher.onPort flow) := by
  obtain ⟨inbound, user, _, protocol, _, _⟩ := of.others
  have address : ({ m with ruleSet := rule.sets files, network } : Matcher).address sail
      (ruleSetCopies (effectiveRouting p mode) files) flow = rule.matcher.address sail files flow :=
    of.address_eq valid mem kept
  have ports : ({ m with ruleSet := rule.sets files, network } : Matcher).ports flow =
      rule.matcher.onPort flow := of.ports_eq (rule.sets files)
  unfold Matcher.exceptNetwork
  rw [address, ports]
  simp only [inbound, user, protocol, oneOf, List.isEmpty_nil, Bool.true_or, Bool.true_and]

/-- A dropped rule matches nothing. -/
theorem RoutingRule.Dropped.not_holds (dropped : rule.Dropped files) :
    rule.matcher.holds sail files flow = false := by
  obtain ⟨named, none_, noAddress⟩ := dropped
  have address : rule.matcher.address sail files flow = false := by
    unfold RoutingMatch.address
    have parts := noAddress
    simp only [hasAddressMatch, Bool.or_eq_false_iff, Bool.not_eq_false', List.isEmpty_iff] at parts
    obtain ⟨⟨⟨domains, suffixes⟩, cidrs⟩, isPrivate⟩ := parts
    have noSet : rule.matcher.ruleSetIds.any (availableSetHolds sail files flow) = false := by
      rw [List.any_eq_false]
      intro id inIds holds
      obtain ⟨file, available, _⟩ := (Option.any_eq_true _ _).mp holds
      have present : files.contains id = true := by
        rw [Std.ExtTreeMap.contains_eq_isSome_getElem?, available]
        rfl
      have inSets : ruleSetTag id ∈ rule.sets files :=
        List.mem_map_of_mem (List.mem_filter.mpr ⟨inIds, present⟩)
      rw [none_] at inSets
      cases inSets
    rw [domains, suffixes, cidrs, isPrivate, noSet]
    cases flow.domain <;> cases flow.address <;> simp [named]
  simp [RoutingMatch.holds, address]

/-! ## Decisions -/

omit [Crates] in
/-- A rule with its UDP rejection: UDP to a target without it is rejected, all
else goes to the target. -/
theorem routed_decision {sets : List LocalRuleSet} {udpOff : List String} {target : String}
    (plain : m.invert = false) :
    (udpRejection udpOff m target ++ [RouteRule.plain m (.route target)]).findSome?
        (RouteRule.decision sail sets flow) =
      if m.holds sail sets flow then
        some (if flow.network = .udp ∧ target ∈ udpOff then .reject else .route target)
      else none := by
  have last : RouteRule.decision sail sets flow (.plain m (.route target)) =
      if m.holds sail sets flow then some (.route target) else none := by
    simp [RouteRule.decision, RouteRule.holds, RouteRule.matchers, RouteRule.action,
      RuleAction.decision]
  have firstHolds : ({ m with network := ["udp"] } : Matcher).holds sail sets flow =
      (decide (flow.network = .udp) && m.exceptNetwork sail sets flow) := by
    have same : ({ m with network := ["udp"] } : Matcher).exceptNetwork sail sets flow =
      m.exceptNetwork sail sets flow := rfl
    rw [Matcher.holds, same]
    show ((oneOf ["udp"] (some flow.network.text) && _) != m.invert) = _
    rw [plain, Bool.bne_false]
    cases flow.network <;> simp [oneOf, Network.text]
  have first : RouteRule.decision sail sets flow (.plain { m with network := ["udp"] } .reject) =
      if flow.network = .udp ∧ m.exceptNetwork sail sets flow = true then some .reject else none := by
    simp [RouteRule.decision, RouteRule.holds, RouteRule.matchers, RouteRule.action,
      RuleAction.decision, firstHolds]
  have holds : m.holds sail sets flow =
      (oneOf m.network (some flow.network.text) && m.exceptNetwork sail sets flow) := by
    rw [Matcher.holds, plain, Bool.bne_false]
  by_cases off : target ∈ udpOff ∧ (m.network = [] ∨ "udp" ∈ m.network)
  · rw [udpRejection, if_pos off, List.singleton_append, List.findSome?_cons, first,
      List.findSome?_cons, last, List.findSome?_nil, holds]
    cases net : flow.network with
    | tcp =>
      simp only [reduceCtorEq, false_and, if_false]
      cases oneOf m.network (some Network.tcp.text) && m.exceptNetwork sail sets flow <;> rfl
    | udp =>
      have admits : oneOf m.network (some "udp") = true := by
        rcases off.2 with none_ | some_
        · simp [oneOf, none_]
        · simp [oneOf, some_]
      simp only [Network.text, admits, Bool.true_and, true_and, off.1]
      cases m.exceptNetwork sail sets flow <;> rfl
  · rw [udpRejection, if_neg off, List.nil_append, List.findSome?_cons, last, List.findSome?_nil]
    by_cases both : flow.network = .udp ∧ target ∈ udpOff
    · -- The rule does not admit UDP at all.
      obtain ⟨net, inOff⟩ := both
      have refuses : oneOf m.network (some "udp") = false := by
        rw [oneOf, Option.any_some, Bool.or_eq_false_iff]
        constructor
        · rw [← Bool.not_eq_true, List.isEmpty_iff]
          exact fun none_ => off ⟨inOff, .inl none_⟩
        · rw [← Bool.not_eq_true, List.contains_iff_mem]
          exact fun some_ => off ⟨inOff, .inr some_⟩
      simp [holds, net, Network.text, refuses]
    · rw [if_neg both]
      cases m.holds sail sets flow <;> rfl

/-- What the rule's action decides, before the profile's terms. -/
inductive Decides (p : Profile) (flow : Flow) (action : RoutingAction) : Decision → Prop
  | reject (eq : action = ⟨"reject", "", ""⟩) : Decides p flow action .reject
  | route (target : String) (leads : action.LeadsTo target) :
      Decides p flow action
        (if flow.network = .udp ∧ target ∈ p.udpOff then .reject else .route target)

theorem MatcherOf.holds_eq {p : Profile} {mode : RoutingMode} (sail : Sail) (flow : Flow)
    (valid : p.Valid) (mem : rule ∈ (effectiveRouting p mode).rules) (kept : ¬rule.Dropped files)
    (of : MatcherOf rule.matcher m) :
    ({ m with ruleSet := rule.sets files } : Matcher).holds sail
        (ruleSetCopies (effectiveRouting p mode) files) flow =
      rule.matcher.holds sail files flow := by
  have rest := of.exceptNetwork_eq sail flow valid mem kept m.network
  rw [Matcher.holds, rest, RoutingMatch.holds]
  simp [of.others.2.2.2.2.2, of.network, oneOf, Bool.and_assoc]

theorem Compiled.decision {p : Profile} {mode : RoutingMode} {made : List RouteRule} (sail : Sail)
    (flow : Flow)
    (valid : p.Valid) (mem : rule ∈ (effectiveRouting p mode).rules)
    (compiled : Compiled files p.udpOff rule made) :
    ∃ d, Decides p flow rule.action d ∧
      made.findSome? (RouteRule.decision sail (ruleSetCopies (effectiveRouting p mode) files) flow) =
        if rule.matcher.holds sail files flow then some d else none := by
  cases compiled with
  | dropped dropped =>
    obtain eq | ⟨target, leads⟩ : rule.action = ⟨"reject", "", ""⟩ ∨
        ∃ target, rule.action.LeadsTo target := by
      have action := (valid.rules rule (effectiveRouting_rules p mode rule mem)).action
      rcases action.eq with eq | eq | eq | ⟨id, _, eq⟩
      · exact .inr ⟨directTag, by rw [eq]; exact .direct⟩
      · exact .inl eq
      · exact .inr ⟨selectedTag, by rw [eq]; exact .selected⟩
      · exact .inr ⟨nodeTag id, by rw [eq]; exact .node id⟩
    · exact ⟨_, .reject eq, by simp [dropped.not_holds]⟩
    · exact ⟨_, .route target leads, by simp [dropped.not_holds]⟩
  | reject kept eq m of =>
    refine ⟨_, .reject eq, ?_⟩
    rw [← of.holds_eq sail flow valid mem kept]
    simp [RouteRule.decision, RouteRule.holds, RouteRule.matchers, RouteRule.action,
      RuleAction.decision]
  | route kept target leads m of =>
    refine ⟨_, .route target leads, ?_⟩
    rw [routed_decision (m := { m with ruleSet := rule.sets files }) of.others.2.2.2.2.2,
      of.holds_eq sail flow valid mem kept]

theorem FinalMade.decision {p : Profile} {action : RoutingAction} {made : List RouteRule}
    {final : Option String} (sail : Sail) (flow : Flow) (sets : List LocalRuleSet)
    (other : Option String) (finalMade : FinalMade p.udpOff action made final) :
    ∃ d, Decides p flow action d ∧
      (made.findSome? (RouteRule.decision sail sets flow)).or ((final.or other).map .route) =
        some d := by
  cases finalMade with
  | reject eq =>
    refine ⟨_, .reject eq, ?_⟩
    cases net : flow.network <;> simp [RouteRule.decision, RouteRule.holds, RouteRule.matchers,
      RouteRule.action, RuleAction.decision, Matcher.holds, Matcher.exceptNetwork, Matcher.address,
      Matcher.ports, oneOf, net, Network.text]
  | route target leads carries =>
    refine ⟨_, .route target leads, ?_⟩
    simp [carries]
  | rejectUdp target leads off =>
    refine ⟨_, .route target leads, ?_⟩
    cases net : flow.network <;> simp [RouteRule.decision, RouteRule.holds, RouteRule.matchers,
      RouteRule.action, RuleAction.decision, Matcher.holds, Matcher.exceptNetwork, Matcher.address,
      Matcher.ports, oneOf, net, Network.text, off]

/-! ## Verdicts -/

theorem nodeTag_mem_udpOff {p : Profile} (inj : TagsInjective p) {id : String}
    (exists_ : id ∈ p.nodeIds) : nodeTag id ∈ p.udpOff ↔ p.withoutUdp id = true := by
  simp only [Profile.udpOff, Profile.withoutUdp, List.mem_map, List.mem_filter, List.any_eq_true,
    Bool.and_eq_true, decide_eq_true_eq]
  constructor
  · rintro ⟨n, ⟨mem, off⟩, eq⟩
    exact ⟨n, mem, nodeTag_injective inj (List.mem_map_of_mem mem) exists_ eq, off⟩
  · rintro ⟨n, mem, rfl, off⟩
    exact ⟨n, ⟨mem, off⟩, rfl⟩

theorem selectedTag_notMem_udpOff (p : Profile) : selectedTag ∉ p.udpOff := by
  intro mem
  obtain ⟨n, _, eq⟩ := List.mem_map.mp mem
  exact nodeTag_ne_selectedTag n.id eq

/-- A decision for an action is, in the profile's terms, what the action says. -/
theorem Decides.verdict {p : Profile} {t : Translation} {action : RoutingAction} {d : Decision}
    (inj : TagsInjective p) (known : ∀ id ∈ p.nodeIds, t.tags.outboundNodes[nodeTag id]? = some id)
    (valid : action.Valid p.nodeIds) (decides : Decides p flow action d) :
    t.verdictOf d = some (p.carried flow action.verdict) := by
  cases decides with
  | reject eq =>
    rw [eq]
    rfl
  | route target leads =>
    cases leads with
    | direct =>
      rw [if_neg (fun both => directTag_notMem_udpOff p both.2)]
      rfl
    | selected =>
      rw [if_neg (fun both => selectedTag_notMem_udpOff p both.2)]
      rfl
    | node id =>
      have exists_ : id ∈ p.nodeIds := by
        rcases valid.eq with eq | eq | eq | ⟨other, exists_, eq⟩
        · simp at eq
        · simp at eq
        · simp at eq
        · cases eq
          exact exists_
      have said : RoutingAction.verdict ⟨"proxy", "node", id⟩ = .node id := by
        simp [RoutingAction.verdict]
      rw [said, Profile.carried]
      by_cases rejected : flow.network = .udp ∧ nodeTag id ∈ p.udpOff
      · rw [if_pos rejected, if_pos ⟨rejected.1, (nodeTag_mem_udpOff inj exists_).mp rejected.2⟩]
        rfl
      · rw [if_neg rejected, if_neg
          (fun both => rejected ⟨both.1, (nodeTag_mem_udpOff inj exists_).mpr both.2⟩)]
        rw [Translation.verdictOf, if_neg (nodeTag_ne_selectedTag id),
          if_neg (nodeTag_ne_directTag id), known id exists_]
        rfl

omit [Crates] in
/-- A rule of another inbound decides nothing. -/
theorem RouteRule.decision_of_inbound {sets : List LocalRuleSet} {rule : RouteRule} {m : Matcher}
    {inbound : String} (mem : m ∈ rule.matchers) (named : m.inbound = [inbound])
    (plain : m.invert = false) (other : flow.inbound ≠ inbound) :
    rule.decision sail sets flow = none := by
  have apart : oneOf m.inbound (some flow.inbound) = false := by
    simpa [named, oneOf] using other
  have misses : m.holds sail sets flow = false := by
    rw [Matcher.holds, Matcher.exceptNetwork, apart, plain]
    simp
  have fails : rule.holds sail sets flow = false := by
    rw [RouteRule.holds, List.all_eq_false]
    exact ⟨m, mem, by rw [misses]; exact Bool.false_ne_true⟩
  rw [RouteRule.decision, fails]
  rfl

/-- The rules of the local proxy see its own inbound alone. -/
theorem localProxyMade_decision {proxy : LocalProxy} {udpOff : List String} {nodes : List Node}
    {sets : List LocalRuleSet} (other : flow.inbound ≠ localProxyInboundTag) :
    (localProxyMade proxy udpOff nodes).findSome? (RouteRule.decision sail sets flow) = none := by
  rw [List.findSome?_eq_none_iff]
  intro rule mem
  rw [localProxyMade, List.mem_append] at mem
  rcases mem with mem | mem
  · obtain ⟨node, _, mem⟩ := List.mem_flatMap.mp mem
    rcases List.mem_append.mp mem with mem | mem
    · rw [udpRejection_action mem]
      exact RouteRule.decision_of_inbound List.mem_cons_self rfl rfl other
    · cases List.mem_singleton.mp mem
      exact RouteRule.decision_of_inbound List.mem_cons_self rfl rfl other
  · cases List.mem_singleton.mp mem
    exact RouteRule.decision_of_inbound List.mem_cons_self rfl rfl other

omit [Crates] in
theorem rulesIn_eq (p : Profile) (mode : RoutingMode) :
    (effectiveRouting p mode).rules = p.rulesIn mode ∧
      (effectiveRouting p mode).finalAction.verdict = p.finalIn mode := by
  cases mode <;> exact ⟨rfl, rfl⟩

/-- The first compiled rule that decides belongs to the first profile rule
that matches. -/
theorem parts_decision {p : Profile} {mode : RoutingMode} {rules : List RoutingRule}
    {parts : List (List RouteRule)} (sail : Sail) (flow : Flow) (valid : p.Valid)
    (sub : ∀ rule ∈ rules, rule ∈ (effectiveRouting p mode).rules)
    (compiled : List.Forall₂ (Compiled files p.udpOff) rules parts) :
    match rules.find? fun rule => rule.matcher.holds sail files flow with
    | some rule => ∃ d, Decides p flow rule.action d ∧ rule.action.Valid p.nodeIds ∧
        parts.flatten.findSome?
          (RouteRule.decision sail (ruleSetCopies (effectiveRouting p mode) files) flow) = some d
    | none => parts.flatten.findSome?
        (RouteRule.decision sail (ruleSetCopies (effectiveRouting p mode) files) flow) = none := by
  induction compiled with
  | nil => rfl
  | @cons rule made rules parts first _ ih =>
    rw [List.forall_mem_cons] at sub
    obtain ⟨d, decides, eq⟩ := first.decision sail flow valid sub.1
    rw [List.find?_cons, List.flatten_cons, List.findSome?_append, eq]
    cases rule.matcher.holds sail files flow with
    | true =>
      refine ⟨d, decides, ?_, by simp⟩
      exact (valid.rules rule (effectiveRouting_rules p mode rule sub.1)).action
    | false => simpa using ih sub.2

end

/-- A flow that the listeners' rules leave alone gets the verdict the profile
gives it. -/
theorem Translated.verdict_of_listeners {p : Profile} {o : Options} {t : Translation} {sail : Sail}
    {flow : Flow} (made : Translated p o t) (valid : p.Valid) (inj : TagsInjective p)
    (listeners : (listenersMade p o).findSome?
      (RouteRule.decision sail t.json.route.ruleSet flow) = none) :
    t.verdict sail flow = some (p.verdict sail o.mode o.ruleSets flow) := by
  obtain ⟨tags, outs, direct, resolver, nodes, same, _⟩ := made.outbounds
  have known : ∀ id ∈ p.nodeIds, t.tags.outboundNodes[nodeTag id]? = some id := by
    intro id mem
    obtain ⟨n, inP, rfl⟩ := List.mem_map.mp mem
    rw [same.outboundNodes]
    exact nodes.own n inP (.node n.id) n.node_mem_outTags (by simp)
  obtain ⟨parts, last, rules, compiled, finalMade⟩ := made.rules
  obtain ⟨rulesEq, finalEq⟩ := rulesIn_eq p o.mode
  have found := parts_decision sail flow valid
    (fun rule mem => mem) compiled
  rw [rulesEq] at found
  rw [Translation.verdict, Route.decision, rules, List.findSome?_append, listeners, Option.none_or,
    List.findSome?_append, Profile.verdict, made.ruleSet]
  cases first : (p.rulesIn o.mode).find? fun rule => rule.matcher.holds sail o.ruleSets flow with
  | some rule =>
    rw [first] at found
    obtain ⟨d, decides, action, eq⟩ := found
    rw [eq]
    exact decides.verdict inj known action
  | none =>
    rw [first] at found
    obtain ⟨d, decides, eq⟩ := finalMade.decision sail flow
      (ruleSetCopies (effectiveRouting p o.mode) o.ruleSets)
      (t.json.outbounds.head?.map Outbound.tag)
    rw [found, Option.none_or, eq, ← finalEq]
    exact decides.verdict inj known (effectiveRouting_valid valid o.mode).final

/-- The rules and `route.final` of a translation without a TUN give a flow of
the system proxy the verdict the profile gives it. -/
theorem translate_verdict {p : Profile} {now : Int} {o : Options}
    (accepted : validate p now = .ok ()) (inj : TagsInjective p) (admissible : o.Admissible p)
    (standard : o.tun = none) :
    ∃ t, translate p o = .ok t ∧ ∀ (sail : Sail) (flow : Flow),
      flow.inbound = systemProxyInboundTag →
        t.verdict sail flow = some (p.verdict sail o.mode o.ruleSets flow) := by
  have valid := validate_ok accepted
  obtain ⟨t, ok, made⟩ := translate_made valid inj admissible
  refine ⟨t, ok, fun sail flow system => made.verdict_of_listeners valid inj ?_⟩
  rw [listenersMade, standard, List.nil_append]
  split
  · refine localProxyMade_decision ?_
    rw [system]
    decide
  · rfl

end

theorem translate_verdict_sample :
    ∃ t, @translate sampleCrates sampleProfile
        { sampleOptions with tun := none, systemProxyPort := some 7891 } = .ok t ∧
      ∀ (sail : Sail) (flow : Flow), flow.inbound = systemProxyInboundTag →
        t.verdict sail flow = some (@Profile.verdict sampleCrates sampleProfile sail .rules ∅ flow) := by
  let _ := sampleCrates
  exact translate_verdict sampleProfile_accepted ⟨by decide, by decide⟩
    (sampleOptions_admissible false (some 7891)) rfl

end PpvpnCore
