import PpvpnCore.Translate.Nodes

/-!
# What each pass adds

`Builder.Grows` is what a pass that makes rules does to the builder: the
rules are appended, the outbounds gain at most `direct`, the maps of the nodes
stay. `Builder.Extends` is a pass that does no more. Every pass is given by
the rules it makes, so later proofs never unfold one.

* `Compiled`: the rules one profile rule becomes.
* `Builder.routing_made`: the profile's rules, rule sets and final action.
-/

namespace PpvpnCore

/-! ## Extension -/

/-- `b'` is `b` with the rules `made`, and `direct` if they need it; whatever
happens to the inbounds. -/
structure Builder.Grows (b b' : Builder) (made : List RouteRule) : Prop where
  rules : b'.rules = b.rules ++ made
  nodeTags : b'.tags.nodeTags = b.tags.nodeTags
  outboundNodes : b'.tags.outboundNodes = b.tags.outboundNodes
  groups : b'.tags.groups = b.tags.groups
  members : b'.tags.members = b.tags.members
  ingressKeys : b'.tags.ingressKeys = b.tags.ingressKeys
  ruleSets : b'.ruleSets = b.ruleSets
  udpOff : b'.udpOff = b.udpOff
  direct : b'.outbounds = b.outbounds ∧ b'.hasDirect = b.hasDirect ∨
    b.hasDirect = false ∧ b'.hasDirect = true ∧
      b'.outbounds = b.outbounds ++ [.direct directTag none]

namespace Builder.Grows

variable {b b' b'' : Builder} {made made' : List RouteRule}

theorem refl (b : Builder) : b.Grows b [] := by
  constructor <;> simp

theorem trans (first : b.Grows b' made) (second : b'.Grows b'' made') :
    b.Grows b'' (made ++ made') := by
  refine
    { rules := by rw [second.rules, first.rules, List.append_assoc]
      nodeTags := second.nodeTags.trans first.nodeTags
      outboundNodes := second.outboundNodes.trans first.outboundNodes
      groups := second.groups.trans first.groups
      members := second.members.trans first.members
      ingressKeys := second.ingressKeys.trans first.ingressKeys
      ruleSets := second.ruleSets.trans first.ruleSets
      udpOff := second.udpOff.trans first.udpOff
      direct := ?_ }
  rcases first.direct with ⟨outs, has⟩ | ⟨had, has, outs⟩
  · rw [← outs, ← has]
    exact second.direct
  · rcases second.direct with ⟨outs', has'⟩ | ⟨had', _, _⟩
    · exact .inr ⟨had, has'.trans has, outs'.trans outs⟩
    · rw [has] at had'
      cases had'

theorem keepsDirect (grows : b.Grows b' made) (has : b.hasDirect = true) :
    b'.hasDirect = true := by
  rcases grows.direct with ⟨_, eq⟩ | ⟨had, _, _⟩
  · rw [eq, has]
  · rw [has] at had
    cases had

end Builder.Grows

/-- A pass that adds rules alone. -/
structure Builder.Extends (b b' : Builder) (made : List RouteRule) : Prop
    extends b.Grows b' made where
  inbounds : b'.inbounds = b.inbounds
  directResolver : b'.directResolver = b.directResolver

namespace Builder.Extends

variable {b b' b'' : Builder} {made made' : List RouteRule}

theorem refl (b : Builder) : b.Extends b [] := ⟨.refl b, rfl, rfl⟩

theorem trans (first : b.Extends b' made) (second : b'.Extends b'' made') :
    b.Extends b'' (made ++ made') :=
  ⟨first.toGrows.trans second.toGrows, second.inbounds.trans first.inbounds,
    second.directResolver.trans first.directResolver⟩

end Builder.Extends

namespace Builder

theorem labelRules_extends (b : Builder) (label : String) :
    b.Extends (b.labelRules label) [] := by
  refine ⟨?_, rfl, rfl⟩
  constructor <;> simp [labelRules]

theorem extend_extends (b : Builder) (rules : List RouteRule) :
    b.Extends (b.extend rules) rules := by
  refine ⟨?_, rfl, rfl⟩
  constructor <;> simp [extend]

theorem push_extends (b : Builder) (rule : RouteRule) : b.Extends (b.push rule) [rule] :=
  b.extend_extends [rule]

theorem ensureDirect_extends (b : Builder) :
    b.Extends b.ensureDirect [] ∧ b.ensureDirect.hasDirect = true := by
  unfold ensureDirect
  cases has : b.hasDirect with
  | true => exact ⟨.refl b, has⟩
  | false =>
    refine ⟨⟨?_, rfl, rfl⟩, rfl⟩
    constructor <;> simp [has]

end Builder

/-- What rejecting UDP before a rule to `target` adds. -/
def udpRejection (udpOff : List String) (matcher : Matcher) (target : String) : List RouteRule :=
  if target ∈ udpOff ∧ (matcher.network = [] ∨ "udp" ∈ matcher.network) then
    [.plain { matcher with network := ["udp"] } .reject]
  else []

theorem Builder.rejectUdpBefore_extends (b : Builder) (matcher : Matcher) (target : String) :
    b.Extends (b.rejectUdpBefore matcher target) (udpRejection b.udpOff matcher target) := by
  unfold rejectUdpBefore udpRejection
  by_cases off : target ∈ b.udpOff
  · by_cases some_ : matcher.network ≠ [] ∧ "udp" ∉ matcher.network
    · rw [if_neg (not_not.mpr off), if_pos some_, if_neg (by tauto)]
      exact .refl b
    · rw [if_neg (not_not.mpr off), if_neg some_, if_pos (by tauto)]
      refine ⟨?_, rfl, rfl⟩
      constructor <;> simp
  · rw [if_pos off, if_neg (by tauto)]
    exact .refl b

/-! The rule sets are added between the rules and the final action: neither
step looks at them. -/

theorem Builder.ensureDirect_ruleSets (b : Builder) (sets : List LocalRuleSet) :
    { b with ruleSets := sets }.ensureDirect = { b.ensureDirect with ruleSets := sets } := by
  unfold ensureDirect
  split <;> rfl

theorem Builder.rejectUdpBefore_ruleSets (b : Builder) (sets : List LocalRuleSet)
    (matcher : Matcher) (target : String) :
    { b with ruleSets := sets }.rejectUdpBefore matcher target =
      { b.rejectUdpBefore matcher target with ruleSets := sets } := by
  unfold rejectUdpBefore
  split
  · rfl
  · split <;> rfl

/-! ## Where rules lead -/

section

variable [Crates]

/-- The builder knows the tag of every node of `p`. -/
def Builder.Knows (b : Builder) (p : Profile) : Prop :=
  ∀ id ∈ p.nodeIds, b.tags.nodeTags[id]? = some (nodeTag id)

theorem Builder.Grows.knows {b b' : Builder} {made : List RouteRule} {p : Profile}
    (grows : b.Grows b' made) (knows : b.Knows p) : b'.Knows p := by
  intro id mem
  rw [grows.nodeTags]
  exact knows id mem

/-- An outbound the finished configuration has. -/
def Builder.Target (b : Builder) (p : Profile) (tag : String) : Prop :=
  tag = selectedTag ∨ (tag = directTag ∧ b.hasDirect = true) ∨ ∃ id ∈ p.nodeIds, tag = nodeTag id

/-- The rules route to outbounds the builder has. -/
def Builder.Routed (b : Builder) (p : Profile) (rules : List RouteRule) : Prop :=
  ∀ rule ∈ rules, ∀ tag, rule.action.outbound? = some tag → b.Target p tag

theorem Builder.Grows.target {b b' : Builder} {made : List RouteRule} {p : Profile}
    {tag : String} (grows : b.Grows b' made) (target : b.Target p tag) : b'.Target p tag := by
  rcases target with eq | ⟨eq, has⟩ | node
  · exact .inl eq
  · exact .inr (.inl ⟨eq, grows.keepsDirect has⟩)
  · exact .inr (.inr node)

theorem Builder.Grows.routed {b b' : Builder} {made rules : List RouteRule} {p : Profile}
    (grows : b.Grows b' made) (routed : b.Routed p rules) : b'.Routed p rules :=
  fun rule mem tag out => grows.target (routed rule mem tag out)

theorem Builder.Routed.append {b : Builder} {p : Profile} {rules rules' : List RouteRule}
    (first : b.Routed p rules) (second : b.Routed p rules') : b.Routed p (rules ++ rules') := by
  intro rule mem
  rcases List.mem_append.mp mem with mem | mem
  · exact first rule mem
  · exact second rule mem

omit [Crates] in
theorem udpRejection_action {udpOff : List String} {matcher : Matcher} {target : String}
    {rule : RouteRule} (mem : rule ∈ udpRejection udpOff matcher target) :
    rule = .plain { matcher with network := ["udp"] } .reject := by
  unfold udpRejection at mem
  split at mem
  · exact List.mem_singleton.mp mem
  · cases mem

/-- A rule to `target` with the UDP rejection before it. -/
theorem Builder.routed_to {b : Builder} {p : Profile} {udpOff : List String} {matcher : Matcher}
    {target : String} (has : b.Target p target) :
    b.Routed p (udpRejection udpOff matcher target ++ [.plain matcher (.route target)]) := by
  intro rule mem tag out
  rcases List.mem_append.mp mem with mem | mem
  · rw [udpRejection_action mem] at out
    cases out
  · cases List.mem_singleton.mp mem
    cases out
    exact has

/-! ## The local proxy -/

/-- The rules of the users of `nodes`. -/
def userRulesMade (proxy : LocalProxy) (udpOff : List String) (nodes : List Node) :
    List RouteRule :=
  nodes.flatMap fun node =>
    let matcher : Matcher :=
      { inbound := [localProxyInboundTag], authUser := [proxy.username node.id] }
    udpRejection udpOff matcher (nodeTag node.id) ++ [.plain matcher (.route (nodeTag node.id))]

theorem Builder.userRules_extends {b : Builder} {p : Profile} (proxy : LocalProxy)
    {nodes : List Node} (knows : b.Knows p) (sub : ∀ n ∈ nodes, n.id ∈ p.nodeIds) :
    b.Extends (Builder.userRules proxy b nodes) (userRulesMade proxy b.udpOff nodes) ∧
      (Builder.userRules proxy b nodes).Routed p (userRulesMade proxy b.udpOff nodes) := by
  induction nodes generalizing b with
  | nil => exact ⟨.refl b, by simp [userRulesMade, Builder.Routed]⟩
  | cons node nodes ih =>
    simp only [List.forall_mem_cons] at sub
    have tag : b.tags.nodeTags.getD node.id "" = nodeTag node.id := by
      rw [Std.ExtTreeMap.getD_eq_getD_getElem?, knows _ sub.1]
      rfl
    have step := (b.rejectUdpBefore_extends
      { inbound := [localProxyInboundTag], authUser := [proxy.username node.id] }
      (nodeTag node.id)).trans (Builder.push_extends _ (.plain
        { inbound := [localProxyInboundTag], authUser := [proxy.username node.id] }
        (.route (nodeTag node.id))))
    obtain ⟨later, routed⟩ := ih (step.knows knows) sub.2
    rw [step.udpOff] at later routed
    rw [Builder.userRules, tag]
    refine ⟨step.trans later, Builder.Routed.append ?_ routed⟩
    exact later.routed (Builder.routed_to (.inr (.inr ⟨node.id, sub.1, rfl⟩)))

/-- The rules of the shared local proxy. -/
def localProxyMade (proxy : LocalProxy) (udpOff : List String) (nodes : List Node) :
    List RouteRule :=
  userRulesMade proxy udpOff nodes ++
    [.all [{ inbound := [localProxyInboundTag] },
      { authUser := [proxy.username ""], invert := true }] .reject]

/-- A local proxy the translation takes. -/
structure LocalProxy.Usable (proxy : LocalProxy) : Prop where
  listen : (IpAddr.parse proxy.listen.toList).isSome
  port : proxy.port ≠ 0
  userPrefix : proxy.userPrefix ≠ ""
  password : proxy.password ≠ ""

theorem Builder.localProxy_made {b : Builder} {p : Profile} {proxy : LocalProxy} (leftOut : Bool)
    (knows : b.Knows p) (usable : proxy.Usable) :
    ∃ b' users, b.localProxy p proxy leftOut = .ok { b' with inbounds := b'.inbounds ++
        if leftOut then [] else [.mixed localProxyInboundTag proxy.listen proxy.port users] } ∧
      b.Extends b' (localProxyMade proxy b.udpOff p.nodes) ∧
      b'.Routed p (localProxyMade proxy b.udpOff p.nodes) := by
  obtain ⟨users, routed⟩ := Builder.userRules_extends proxy knows
    (fun n (mem : n ∈ p.nodes) => List.mem_map_of_mem mem)
  have last := Builder.push_extends (Builder.userRules proxy b p.nodes)
    (.all [{ inbound := [localProxyInboundTag] },
      { authUser := [proxy.username ""], invert := true }] .reject)
  have accepted : ¬((IpAddr.parse proxy.listen.toList).isNone = true ∨ proxy.port = 0 ∨
      proxy.userPrefix = "" ∨ proxy.password = "") := by
    have listen := usable.listen
    rintro (bad | bad | bad | bad)
    · rw [Option.isNone_iff_eq_none] at bad
      simp [bad] at listen
    · exact usable.port bad
    · exact usable.userPrefix bad
    · exact usable.password bad
  refine ⟨(Builder.userRules proxy b p.nodes).push _,
    p.nodes.map (fun n => User.mk (proxy.username n.id) proxy.password) ++
      [⟨proxy.username "", proxy.password⟩], ?_, users.trans last, ?_⟩
  · rw [Builder.localProxy, if_neg accepted]
    cases leftOut with
    | true => simp
    | false => rfl
  · refine Builder.Routed.append (last.routed routed) ?_
    intro rule mem tag out
    cases List.mem_singleton.mp mem
    cases out

/-! ## Matchers -/

omit [Crates] in
/-- A list whose every element is accepted is accepted, and the results are
those of its elements. -/
theorem mapM_ok {ε α β : Type} {f : α → Except ε β} {l : List α}
    (accepted : ∀ a ∈ l, ∃ b, f a = .ok b) :
    ∃ l', l.mapM f = .ok l' ∧ l'.length = l.length ∧ ∀ b, b ∈ l' ↔ ∃ a ∈ l, f a = .ok b := by
  induction l with
  | nil => exact ⟨[], rfl, rfl, by simp⟩
  | cons a l ih =>
    rw [List.forall_mem_cons] at accepted
    obtain ⟨⟨b, first⟩, accepted⟩ := accepted
    obtain ⟨l', rest, length, mem⟩ := ih accepted
    refine ⟨b :: l', ?_, by simp [length], fun c => ?_⟩
    · rw [List.mapM_cons, first, rest]
      rfl
    · simp [mem, first, eq_comm]

omit [Crates] in
theorem parseDecimal_mono {bound n : Nat} (bound' : Nat) {cs : List Char} (le : bound ≤ bound')
    (parsed : Lib.parseDecimal bound cs = some n) : Lib.parseDecimal bound' cs = some n := by
  unfold Lib.parseDecimal at parsed ⊢
  split at parsed
  next digits =>
    split at parsed
    next lt =>
      rw [if_pos digits, if_pos (by omega)]
      exact parsed
    next => cases parsed
  next => cases parsed

omit [Crates] in
/-- A prefix validation accepts is one the translation can mask. -/
theorem maskedPrefix_of_parsePrefix {value : List Char} {p : Prefix}
    (parsed : parsePrefix value = some p) : maskedPrefix value = some p.masked := by
  simp only [parsePrefix, Option.bind_eq_bind, Option.bind_eq_some_iff, Prod.exists] at parsed
  obtain ⟨address, bits, split_, parsed⟩ := parsed
  by_cases refused : '%' ∈ address ∨ (!bitsText bits) = true
  · rw [if_pos refused] at parsed
    simp at parsed
  rw [if_neg refused] at parsed
  simp only [Option.bind_eq_some_iff] at parsed
  obtain ⟨addr, read, n, number, bound⟩ := parsed
  have plain : IpAddr.parse address = some addr := by
    rw [← read, parseAddr, Lib.splitOnce_none (fun zone => refused (.inl zone))]
    rfl
  have text : (!bitsText bits) ≠ true := fun bad => refused (.inr bad)
  have number := parseDecimal_mono (2 ^ 32) (by decide) number
  simp only [maskedPrefix, split_, Option.bind_eq_bind, Option.bind_some, plain, if_neg text,
    number]
  by_cases le : n ≤ if addr.isIpv4 then 32 else 128
  · rw [if_pos le] at bound ⊢
    cases bound
    rfl
  · rw [if_neg le] at bound
    cases bound

/-- The conditions `out` carries are those of `m`, its rule sets apart. -/
structure MatcherOf (m : RoutingMatch) (out : Matcher) : Prop where
  network : out.network = m.protocols
  domain : ∀ d, d ∈ out.domain ↔ (∃ v ∈ m.domains, normalizeDomain v = some d) ∨
    ∃ v ∈ m.domainSuffixes, normalizeDomain v = some d
  domainSuffix : ∀ s, s ∈ out.domainSuffix ↔
    ∃ v ∈ m.domainSuffixes, ∃ d, normalizeDomain v = some d ∧ "." ++ d = s
  ipCidr : ∀ p, p ∈ out.ipCidr ↔ (∃ v ∈ m.ipCidrs, ∃ q, parsePrefix v.toList = some q ∧
    q.masked = p) ∨ m.ipIsPrivate = true ∧ p ∈ privatePrefixes
  port : out.port = m.ports
  portRange : ∀ r, r ∈ out.portRange ↔ ∃ v ∈ m.portRanges, parsePortRange v.toList = .ok r
  address : out.domain = [] ∧ out.domainSuffix = [] ∧ out.ipCidr = [] ↔
    hasAddressMatch m = false
  ranges : out.portRange = [] ↔ m.portRanges = []
  others : out.inbound = [] ∧ out.authUser = [] ∧ out.domainRegex = [] ∧ out.protocol = [] ∧
    out.ruleSet = [] ∧ out.invert = false

theorem ruleMatch_made {m : RoutingMatch} (valid : m.Valid) :
    ∃ out, ruleMatch m = .ok out ∧ MatcherOf m out := by
  obtain ⟨domains, domainsOk, domainsLength, domainsMem⟩ := mapM_ok
    (f := fun v => orElseError "invalid exact domain" (normalizeDomain v)) (l := m.domains)
    (by simpa using valid.domains)
  obtain ⟨suffixes, suffixesOk, suffixesLength, suffixesMem⟩ := mapM_ok
    (f := fun v => orElseError "invalid domain suffix" (normalizeDomain v)) (l := m.domainSuffixes)
    (by simpa using valid.suffixes)
  obtain ⟨cidrs, cidrsOk, cidrsLength, cidrsMem⟩ := mapM_ok
    (f := fun v : String => orElseError "invalid CIDR" (maskedPrefix v.toList)) (l := m.ipCidrs)
    (by
      intro value mem
      obtain ⟨p, parsed⟩ := valid.cidrs value mem
      exact ⟨p.masked, by rw [maskedPrefix_of_parsePrefix parsed]; rfl⟩)
  obtain ⟨ranges, rangesOk, rangesLength, rangesMem⟩ := mapM_ok
    (f := fun v : String => parsePortRange v.toList) (l := m.portRanges) valid.portRanges
  simp only [orElseError_eq_ok] at domainsMem suffixesMem cidrsMem
  refine ⟨_, by rw [ruleMatch, domainsOk, suffixesOk, cidrsOk, rangesOk]; rfl, ?_⟩
  refine
    { network := rfl
      domain := fun d => by simp [domainsMem, suffixesMem]
      domainSuffix := fun s => ?_
      ipCidr := fun p => ?_
      port := rfl
      portRange := rangesMem
      address := ?_
      ranges := ?_
      others := by simp }
  · simp only [List.mem_map, suffixesMem]
    constructor
    · rintro ⟨d, ⟨v, mem, eq⟩, rfl⟩
      exact ⟨v, mem, d, eq, rfl⟩
    · rintro ⟨v, mem, d, eq, rfl⟩
      exact ⟨d, ⟨v, mem, eq⟩, rfl⟩
  · have masked : (∃ v ∈ m.ipCidrs, maskedPrefix v.toList = some p) ↔
        ∃ v ∈ m.ipCidrs, ∃ q, parsePrefix v.toList = some q ∧ q.masked = p := by
      constructor
      · rintro ⟨v, mem, eq⟩
        obtain ⟨q, parsed⟩ := valid.cidrs v mem
        rw [maskedPrefix_of_parsePrefix parsed] at eq
        exact ⟨v, mem, q, parsed, Option.some.inj eq⟩
      · rintro ⟨v, mem, q, parsed, rfl⟩
        exact ⟨v, mem, maskedPrefix_of_parsePrefix parsed⟩
    rw [List.mem_append, cidrsMem, masked]
    cases m.ipIsPrivate <;> simp
  · have none_ : ∀ {α β : Type} {l : List α} {l' : List β}, l'.length = l.length →
        (l' = [] ↔ l = []) := by
      intro α β l l' eq
      rw [← List.length_eq_zero_iff, eq, List.length_eq_zero_iff]
    have private_ : privatePrefixes ≠ [] := by decide
    simp only [List.append_eq_nil_iff, List.map_eq_nil_iff, none_ domainsLength,
      none_ suffixesLength, none_ cidrsLength, hasAddressMatch, Bool.or_eq_false_iff,
      Bool.not_eq_false', List.isEmpty_iff]
    cases m.ipIsPrivate <;> simp [private_]
    tauto
  · rw [← List.length_eq_zero_iff, rangesLength, List.length_eq_zero_iff]

/-! ## The profile's rules -/

/-- The outbound a routing action sends to. -/
inductive RoutingAction.LeadsTo : RoutingAction → String → Prop
  | direct : LeadsTo ⟨"direct", "", ""⟩ directTag
  | selected : LeadsTo ⟨"proxy", "selected", ""⟩ selectedTag
  | node (id : String) : LeadsTo ⟨"proxy", "node", id⟩ (nodeTag id)

/-- The tags of the rule's sets with a local copy. -/
def RoutingRule.sets (files : BTreeMap String RuleSetFile) (rule : RoutingRule) : List String :=
  (rule.matcher.ruleSetIds.filter fun id => files.contains id).map ruleSetTag

/-- The rule names rule sets alone and none of them has a copy. -/
def RoutingRule.Dropped (files : BTreeMap String RuleSetFile) (rule : RoutingRule) : Prop :=
  rule.matcher.ruleSetIds ≠ [] ∧ rule.sets files = [] ∧ hasAddressMatch rule.matcher = false

/-- The rules one profile rule becomes. -/
inductive Compiled (files : BTreeMap String RuleSetFile) (udpOff : List String)
    (rule : RoutingRule) : List RouteRule → Prop
  | dropped (dropped : rule.Dropped files) : Compiled files udpOff rule []
  | reject (kept : ¬rule.Dropped files) (action : rule.action = ⟨"reject", "", ""⟩) (m : Matcher)
      (of : MatcherOf rule.matcher m) :
      Compiled files udpOff rule [.plain { m with ruleSet := rule.sets files } .reject]
  | route (kept : ¬rule.Dropped files) (target : String) (leads : rule.action.LeadsTo target)
      (m : Matcher) (of : MatcherOf rule.matcher m) :
      Compiled files udpOff rule
        (udpRejection udpOff { m with ruleSet := rule.sets files } target ++
          [.plain { m with ruleSet := rule.sets files } (.route target)])

/-- A valid action of a builder that knows the nodes: where it leads, and the
builder that can go there. -/
theorem Builder.action_made {b : Builder} {p : Profile} {action : RoutingAction}
    (knows : b.Knows p) (valid : action.Valid p.nodeIds) :
    (b.action action = .ok (b, .reject) ∧ action = ⟨"reject", "", ""⟩) ∨
      ∃ b' target, b.action action = .ok (b', .route target) ∧ action.LeadsTo target ∧
        b.Extends b' [] ∧ b'.Target p target := by
  cases valid with
  | direct =>
    obtain ⟨ext, has⟩ := b.ensureDirect_extends
    exact .inr ⟨_, _, rfl, .direct, ext, .inr (.inl ⟨rfl, has⟩)⟩
  | reject => exact .inl ⟨rfl, rfl⟩
  | selected => exact .inr ⟨_, _, rfl, .selected, .refl b, .inl rfl⟩
  | node id exists_ =>
    refine .inr ⟨b, nodeTag id, ?_, .node id, .refl b, .inr (.inr ⟨id, exists_, rfl⟩)⟩
    have found : b.proxyTarget ⟨"proxy", "node", id⟩ = .ok (nodeTag id) := by
      rw [Builder.proxyTarget, if_neg (by simp), if_pos rfl, knows id exists_]
      rfl
    rw [Builder.action, if_neg (by simp), if_pos rfl, found]
    rfl

theorem Builder.routingRule_made {b : Builder} {p : Profile} {rule : RoutingRule}
    (files : BTreeMap String RuleSetFile) {setIds : List String} (knows : b.Knows p)
    (valid : rule.Valid p.nodeIds setIds) :
    ∃ b' made, Builder.routingRule files b rule = .ok b' ∧ b.Extends b' made ∧
      Compiled files b.udpOff rule made ∧ b'.Routed p made := by
  by_cases dropped : rule.Dropped files
  · refine ⟨b, [], ?_, .refl b, .dropped dropped, by simp [Builder.Routed]⟩
    obtain ⟨named, none_, noAddress⟩ := dropped
    rw [RoutingRule.sets] at none_
    simp only [Builder.routingRule]
    rw [if_pos ⟨named, none_, by simp [noAddress]⟩]
    rfl
  have notDropped : ¬(rule.matcher.ruleSetIds ≠ [] ∧
      (rule.matcher.ruleSetIds.filter fun id => files.contains id).map ruleSetTag = [] ∧
      (!hasAddressMatch rule.matcher) = true) := by
    rintro ⟨named, none_, noAddress⟩
    exact dropped ⟨named, none_, by simpa using noAddress⟩
  obtain ⟨out, matched, of⟩ := ruleMatch_made valid.matcher
  rcases Builder.action_made knows valid.action with
    ⟨act, isReject⟩ | ⟨between, target, act, leads, step, has⟩
  · have ext := (b.push_extends
      (.plain { out with ruleSet := rule.sets files } .reject)).trans
      (Builder.labelRules_extends _ rule.id)
    refine ⟨_, _, ?_, ext, .reject dropped isReject out of, ?_⟩
    · simp only [Builder.routingRule]
      rw [if_neg notDropped]
      simp only [bind_eq_ok, orFailed_eq_ok]
      exact ⟨out, matched, _, act, rfl⟩
    · intro made mem tag routes
      cases List.mem_singleton.mp mem
      cases routes
  · have ext := ((step.trans (between.rejectUdpBefore_extends
      { out with ruleSet := rule.sets files } target)).trans (Builder.push_extends _
        (.plain { out with ruleSet := rule.sets files } (.route target)))).trans
      (Builder.labelRules_extends _ rule.id)
    rw [List.nil_append, List.append_nil, step.udpOff] at ext
    refine ⟨_, _, ?_, ext, .route dropped target leads out of, ?_⟩
    · simp only [Builder.routingRule]
      rw [if_neg notDropped]
      simp only [bind_eq_ok, orFailed_eq_ok]
      exact ⟨out, matched, _, act, rfl⟩
    · refine Builder.routed_to ?_
      rcases has with eq | ⟨eq, direct⟩ | node
      · exact .inl eq
      · refine .inr (.inl ⟨eq, ?_⟩)
        have after := ((between.rejectUdpBefore_extends
          { out with ruleSet := rule.sets files } target).trans (Builder.push_extends _
            (.plain { out with ruleSet := rule.sets files } (.route target)))).trans
          (Builder.labelRules_extends _ rule.id)
        exact after.keepsDirect direct
      · exact .inr (.inr node)

theorem Builder.rules_made {b : Builder} {p : Profile} {rules : List RoutingRule}
    (files : BTreeMap String RuleSetFile) {setIds : List String} (knows : b.Knows p)
    (valid : ∀ rule ∈ rules, rule.Valid p.nodeIds setIds) :
    ∃ b' parts, rules.foldlM (Builder.routingRule files) b = .ok b' ∧
      b.Extends b' parts.flatten ∧ List.Forall₂ (Compiled files b.udpOff) rules parts ∧
      b'.Routed p parts.flatten := by
  induction rules generalizing b with
  | nil => exact ⟨b, [], rfl, .refl b, .nil, by simp [Builder.Routed]⟩
  | cons rule rules ih =>
    rw [List.forall_mem_cons] at valid
    obtain ⟨between, made, first, step, compiled, routed⟩ :=
      Builder.routingRule_made files knows valid.1
    obtain ⟨b', parts, rest, ext, later, routed'⟩ := ih (step.knows knows) valid.2
    rw [step.udpOff] at later
    refine ⟨b', made :: parts, ?_, step.trans ext, .cons compiled later, ?_⟩
    · rw [List.foldlM_cons, first]
      exact rest
    · exact Builder.Routed.append (ext.routed routed) routed'

/-- The rule sets with a copy, of those the rules name. -/
def ruleSetCopies (routing : Routing) (files : BTreeMap String RuleSetFile) :
    List LocalRuleSet :=
  (usedRuleSets routing files).map fun set =>
    ⟨ruleSetTag set.id, (files.getD set.id ⟨"", false⟩).path⟩

/-- What the final action adds, and where `route.final` leads. -/
inductive FinalMade (udpOff : List String) (action : RoutingAction) :
    List RouteRule → Option String → Prop
  | reject (eq : action = ⟨"reject", "", ""⟩) :
      FinalMade udpOff action [.plain { network := ["tcp", "udp"] } .reject] none
  | route (target : String) (leads : action.LeadsTo target) (carries : target ∉ udpOff) :
      FinalMade udpOff action [] (some target)
  | rejectUdp (target : String) (leads : action.LeadsTo target) (off : target ∈ udpOff) :
      FinalMade udpOff action [.plain { network := ["udp"] } .reject] (some target)

structure Routing.Valid (routing : Routing) (p : Profile) : Prop where
  rules : ∀ rule ∈ routing.rules, rule.Valid p.nodeIds p.routing.ruleSetIds
  final : routing.finalAction.Valid p.nodeIds

theorem Builder.routing_made {b : Builder} {p : Profile} {routing : Routing}
    (files : BTreeMap String RuleSetFile) (knows : b.Knows p) (valid : routing.Valid p)
    (directCarries : directTag ∉ b.udpOff) :
    ∃ b' parts last final, b.routing routing files =
        .ok ({ b' with ruleSets := b.ruleSets ++ ruleSetCopies routing files }, final) ∧
      b.Extends b' (parts.flatten ++ last) ∧
      List.Forall₂ (Compiled files b.udpOff) routing.rules parts ∧
      FinalMade b.udpOff routing.finalAction last final ∧
      b'.Routed p (parts.flatten ++ last) ∧ ∀ tag ∈ final, b'.Target p tag := by
  obtain ⟨between, parts, rules, step, compiled, routed⟩ :=
    Builder.rules_made files knows valid.rules
  have knows' := step.knows knows
  have sets := step.ruleSets
  -- The proxy targets share one path: the UDP of a target without it is rejected.
  have proxied (target : String) (leads : routing.finalAction.LeadsTo target)
      (kind : routing.finalAction.kind = "proxy")
      (found : between.proxyTarget routing.finalAction = .ok target)
      (has : between.Target p target) :
      ∃ b' parts last final, b.routing routing files =
        .ok ({ b' with ruleSets := b.ruleSets ++ ruleSetCopies routing files }, final) ∧
      b.Extends b' (parts.flatten ++ last) ∧
      List.Forall₂ (Compiled files b.udpOff) routing.rules parts ∧
      FinalMade b.udpOff routing.finalAction last final ∧
      b'.Routed p (parts.flatten ++ last) ∧ ∀ tag ∈ final, b'.Target p tag := by
    have ext := between.rejectUdpBefore_extends {} target
    have last : FinalMade b.udpOff routing.finalAction
        (udpRejection between.udpOff {} target) (some target) := by
      rw [step.udpOff, udpRejection]
      by_cases off : target ∈ b.udpOff
      · rw [if_pos ⟨off, .inl rfl⟩]
        exact .rejectUdp target leads off
      · rw [if_neg (fun both => off both.1)]
        exact .route target leads off
    refine ⟨between.rejectUdpBefore {} target, parts, _, some target, ?_, step.trans ext, compiled,
      last, (ext.routed routed).append ?_, ?_⟩
    · simp only [Builder.routing, bind_eq_ok]
      refine ⟨between, rules, ?_⟩
      rw [if_neg (by rw [kind]; decide), if_pos kind]
      simp only [bind_eq_ok, orFailed_eq_ok]
      refine ⟨target, found, ?_⟩
      rw [← sets, Builder.rejectUdpBefore_ruleSets]
      rfl
    · intro rule mem tag out
      rw [udpRejection_action mem] at out
      cases out
    · intro tag mem
      cases mem
      exact ext.target has
  rcases valid.final.eq with eq | eq | eq | ⟨id, exists_, eq⟩
  · obtain ⟨ext, has⟩ := between.ensureDirect_extends
    have ext := step.trans ext
    refine ⟨between.ensureDirect, parts, [], some directTag, ?_, ext, compiled, ?_, ?_, ?_⟩
    · simp only [Builder.routing, bind_eq_ok]
      refine ⟨between, rules, ?_⟩
      rw [if_pos (by rw [eq]), ← sets, Builder.ensureDirect_ruleSets]
      rfl
    · rw [eq]
      exact .route directTag .direct directCarries
    · rw [List.append_nil]
      exact (between.ensureDirect_extends).1.routed routed
    · intro tag mem
      cases mem
      exact .inr (.inl ⟨rfl, has⟩)
  · have ext := (between.push_extends (.plain { network := ["tcp", "udp"] } .reject)).trans
      (Builder.labelRules_extends _ "final")
    refine ⟨_, parts, [.plain { network := ["tcp", "udp"] } .reject], none, ?_, step.trans ext,
      compiled, ?_, (ext.routed routed).append ?_, by simp⟩
    · simp only [Builder.routing, bind_eq_ok]
      refine ⟨between, rules, ?_⟩
      rw [if_neg (by rw [eq]; decide), if_neg (by rw [eq]; decide), if_pos (by rw [eq]), ← sets]
      rfl
    · exact .reject eq
    · intro rule mem tag out
      cases List.mem_singleton.mp mem
      cases out
  · refine proxied selectedTag (by rw [eq]; exact .selected) (by rw [eq]) ?_ (.inl rfl)
    rw [eq]
    rfl
  · refine proxied (nodeTag id) (by rw [eq]; exact .node id) (by rw [eq]) ?_
      (.inr (.inr ⟨id, exists_, rfl⟩))
    rw [eq, Builder.proxyTarget, if_neg (by simp), if_pos rfl, knows' id exists_]
    rfl

end

end PpvpnCore
