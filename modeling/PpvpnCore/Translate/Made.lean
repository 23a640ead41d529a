import PpvpnCore.Translate.Rules

/-!
# What a translation is made of

For a valid profile and admissible options `translate` succeeds, and its parts
are those of its passes in order.

* `Options.Admissible`: what the callers promise of the device's inputs.
* `Listening`: the listeners, their rules and their ports.
* `Translated`, `translate_made`: the whole document.
-/

namespace PpvpnCore

open Lib

/-- The device's inputs as the engine gives them: a selection and pins of the
profile, a usable local proxy, a local DNS server if a list is given. -/
structure Options.Admissible (o : Options) (p : Profile) : Prop where
  selected : ∀ id ∈ o.selectedNodeId, id ∈ p.nodeIds
  pins : ∀ id key, o.pins[id]? = some key →
    ∃ n ∈ p.nodes, n.id = id ∧ ∃ ingress ∈ n.ingresses, ingress.endpointKey = key
  localProxy : ∀ proxy ∈ o.localProxy, proxy.Usable
  localDns : ∀ tun ∈ o.tun, tun.localDns ≠ .servers []

section

variable [Crates]

/-! ## The outbounds before any rule -/

def Options.selected (o : Options) (p : Profile) : String :=
  o.selectedNodeId.getD p.selection.defaultNodeId

theorem Options.Admissible.selected_mem {o : Options} {p : Profile} (admissible : o.Admissible p)
    (valid : p.Valid) : o.selected p ∈ p.nodeIds := by
  unfold Options.selected
  cases given : o.selectedNodeId with
  | none => exact valid.default
  | some id => exact admissible.selected id given

/-- The selector over the nodes, then the nodes' own outbounds. -/
def baseOutbounds (p : Profile) (o : Options) (outs : List Outbound) : List Outbound :=
  .selector selectedTag (p.nodes.map fun n => nodeTag n.id) (nodeTag (o.selected p)) :: outs

def Profile.udpOff (p : Profile) : List String :=
  (p.nodes.filter fun n => !n.capabilities.udp).map fun n => nodeTag n.id

theorem Profile.Valid.texts_nodup {p : Profile} (valid : p.Valid) (inj : TagsInjective p) :
    ((p.nodes.flatMap Node.outTags).map NodeTag.text).Nodup := by
  refine valid.outTags_nodup.map_on fun a memA b memB eq => ?_
  exact NodeTag.text_injective inj (Profile.outTags_of memA) (Profile.outTags_of memB) eq

theorem Builder.outboundsOf_made {p : Profile} {o : Options} (valid : p.Valid)
    (inj : TagsInjective p) (selected : o.selected p ∈ p.nodeIds) :
    ∃ tags outs, Builder.outboundsOf p o =
        .ok { tags, outbounds := baseOutbounds p o outs, udpOff := p.udpOff } ∧
      NodesMade o.pins o.healthCheck p.nodes {} tags outs := by
  obtain ⟨tags, outs, made, spec⟩ := Builder.nodes_made o.pins o.healthCheck
    {} valid.credentials (by simp) (valid.texts_nodup inj)
  refine ⟨tags, outs, ?_, spec⟩
  have known : ∀ id ∈ p.nodeIds, tags.nodeTags[id]? = some (nodeTag id) := by
    intro id mem
    rw [spec.nodeTags]
    exact if_pos mem
  have members : (p.nodes.map fun n => tags.nodeTags.getD n.id "") =
      p.nodes.map fun n => nodeTag n.id := by
    refine List.map_congr_left fun n mem => ?_
    rw [Std.ExtTreeMap.getD_eq_getD_getElem?, known n.id (List.mem_map_of_mem mem)]
    rfl
  have default := known _ selected
  rw [Options.selected] at default
  simp only [Builder.outboundsOf, bind_eq_ok]
  refine ⟨_, made, ?_⟩
  rw [default, members]
  rfl

theorem NodesMade.tags {pins : BTreeMap String String} {check : HealthCheck} {nodes : List Node}
    {tags tags' : Tags} {outs : List Outbound} (made : NodesMade pins check nodes tags tags' outs) :
    outs.map Outbound.tag = (nodes.flatMap Node.outTags).map NodeTag.text := by
  obtain ⟨parts, rfl, each⟩ := made.outbounds
  clear made
  induction each with
  | nil => rfl
  | cons first _ ih => simp [first.tags, ih]

theorem NodesMade.refs {pins : BTreeMap String String} {check : HealthCheck} {nodes : List Node}
    {tags tags' : Tags} {outs : List Outbound} (made : NodesMade pins check nodes tags tags' outs)
    {out : Outbound} (mem : out ∈ outs) :
    (∀ t ∈ out.refs, t ∈ outs.map Outbound.tag) ∧ ∀ tag resolver, out ≠ .direct tag resolver := by
  obtain ⟨parts, rfl, each⟩ := made.outbounds
  clear made
  induction each with
  | nil => simp at mem
  | cons first _ ih =>
    rw [List.flatten_cons, List.mem_append] at mem
    rw [List.flatten_cons, List.map_append]
    rcases mem with mem | mem
    · obtain ⟨refs, notDirect⟩ := first.refs mem
      exact ⟨fun t named => List.mem_append_left _ (refs t named), notDirect⟩
    · obtain ⟨refs, notDirect⟩ := ih mem
      exact ⟨fun t named => List.mem_append_right _ (refs t named), notDirect⟩

/-- The outbounds before any rule: tags once, `direct` not among them, every
reference to one of them. -/
structure BaseClosed (p : Profile) (base : List Outbound) : Prop where
  nodup : (base.map Outbound.tag).Nodup
  noDirect : directTag ∉ base.map Outbound.tag
  refs : ∀ out ∈ base, ∀ t ∈ out.refs, t ∈ base.map Outbound.tag
  kinds : ∀ out ∈ base, ∀ tag resolver, out ≠ .direct tag resolver
  selected : selectedTag ∈ base.map Outbound.tag
  nodes : ∀ id ∈ p.nodeIds, nodeTag id ∈ base.map Outbound.tag

theorem NodeTag.text_ne_of_length {tag : NodeTag} {other : String} (short : other.length < 21) :
    tag.text ≠ other := by
  refine ne_of_length ?_
  cases tag <;> simp [NodeTag.text] <;> omega

theorem baseOutbounds_closed {p : Profile} {o : Options} {tags : Tags} {outs : List Outbound}
    (valid : p.Valid) (inj : TagsInjective p) (selected : o.selected p ∈ p.nodeIds)
    (made : NodesMade o.pins o.healthCheck p.nodes {} tags outs) :
    BaseClosed p (baseOutbounds p o outs) := by
  have apart : ∀ other : String, other.length < 21 → other ∉ outs.map Outbound.tag := by
    intro other short mem
    rw [made.tags] at mem
    obtain ⟨tag, _, eq⟩ := List.mem_map.mp mem
    exact NodeTag.text_ne_of_length short eq
  have nodes : ∀ id ∈ p.nodeIds, nodeTag id ∈ outs.map Outbound.tag := by
    intro id mem
    obtain ⟨n, inP, rfl⟩ := List.mem_map.mp mem
    rw [made.tags]
    exact List.mem_map.mpr ⟨.node n.id, List.mem_flatMap.mpr ⟨n, inP, n.node_mem_outTags⟩, rfl⟩
  refine
    { nodup := ?_
      noDirect := ?_
      refs := ?_
      kinds := ?_
      selected := List.mem_cons_self
      nodes := fun id mem => List.mem_cons_of_mem _ (nodes id mem) }
  · rw [baseOutbounds, List.map_cons, List.nodup_cons]
    refine ⟨apart selectedTag (by decide), ?_⟩
    rw [made.tags]
    exact valid.texts_nodup inj
  · rw [baseOutbounds, List.map_cons, List.mem_cons, not_or]
    have ne : directTag ≠ selectedTag := by decide
    exact ⟨ne, apart directTag (by decide)⟩
  · intro out mem t named
    rw [baseOutbounds, List.mem_cons] at mem
    rw [baseOutbounds, List.map_cons]
    rcases mem with rfl | mem
    · refine List.mem_cons_of_mem _ ?_
      rw [Outbound.refs, List.mem_cons] at named
      rcases named with rfl | named
      · exact nodes _ selected
      · obtain ⟨n, inP, rfl⟩ := List.mem_map.mp named
        exact nodes _ (List.mem_map_of_mem inP)
    · exact List.mem_cons_of_mem _ ((made.refs mem).1 t named)
  · intro out mem
    rw [baseOutbounds, List.mem_cons] at mem
    rcases mem with rfl | mem
    · simp
    · exact (made.refs mem).2

/-! ## The TUN's rules -/

/-- The rules of a TUN instance before every other. -/
def tunMade (p : Profile) (tun : Tun) : List RouteRule :=
  tunSniffRules ++ (if handsOffDirectIpv6 tun then [tunHandOffRule] else []) ++
    (tunHijackRules ++ [tunPrivateRule] ++ bypassRules (p.nodes.flatMap Node.ingresses) [] [])

/-- A rule that names no rule set and routes to `direct` if anywhere. -/
def RouteRule.Own (rule : RouteRule) : Prop :=
  (∀ m ∈ rule.matchers, m.ruleSet = []) ∧ ∀ tag, rule.action.outbound? = some tag → tag = directTag

/-- A bypass rule is by a domain or by an address. -/
theorem bypassRules_cases {ingresses : List Ingress} {domains : List String} {ips : List IpAddr}
    {rule : RouteRule} (mem : rule ∈ bypassRules ingresses domains ips) :
    (∃ domain, rule = .plain { domain := [domain] } (.route directTag)) ∨
      ∃ ip, rule = .plain { ipCidr := [.host ip] } (.route directTag) := by
  induction ingresses generalizing domains ips with
  | nil => cases mem
  | cons ingress rest ih =>
    simp only [bypassRules, List.mem_append] at mem
    rcases mem with (mem | mem) | mem
    · split at mem
      · split at mem
        · cases mem
        · exact .inl ⟨_, List.mem_singleton.mp mem⟩
      · cases mem
    · split at mem
      · split at mem
        · cases mem
        · exact .inr ⟨_, List.mem_singleton.mp mem⟩
      · cases mem
    · exact ih mem

theorem bypassRules_own (ingresses : List Ingress) (domains : List String) (ips : List IpAddr) :
    ∀ rule ∈ bypassRules ingresses domains ips, rule.Own := by
  intro rule mem
  have bypass : ∀ m : Matcher, m.ruleSet = [] → RouteRule.Own (.plain m (.route directTag)) := by
    intro m none_
    refine ⟨by simpa [RouteRule.matchers] using none_, fun tag eq => ?_⟩
    cases eq
    rfl
  rcases bypassRules_cases mem with ⟨domain, rfl⟩ | ⟨ip, rfl⟩
  · exact bypass _ rfl
  · exact bypass _ rfl

theorem tunMade_own (p : Profile) (tun : Tun) : ∀ rule ∈ tunMade p tun, rule.Own := by
  have leading : ∀ rule ∈ tunSniffRules ++ [tunHandOffRule] ++ tunHijackRules ++ [tunPrivateRule],
      rule.Own := by
    simp [RouteRule.Own, RouteRule.matchers, RouteRule.action, RuleAction.outbound?, tunSniffRules,
      tunHandOffRule, tunHijackRules, tunPrivateRule, eq_comm]
  intro rule mem
  simp only [tunMade, List.mem_append] at mem leading
  rcases mem with (mem | mem) | (mem | mem) | mem
  · exact leading rule (.inl (.inl (.inl mem)))
  · refine leading rule (.inl (.inl (.inr ?_)))
    split at mem
    · exact mem
    · cases mem
  · exact leading rule (.inl (.inr mem))
  · exact leading rule (.inr mem)
  · exact bypassRules_own _ _ _ rule mem

omit [Crates] in
theorem Builder.tunHandOff_grows (b : Builder) (tun : Tun) :
    b.Grows (b.tunHandOff tun) (if handsOffDirectIpv6 tun then [tunHandOffRule] else []) ∧
      (b.tunHandOff tun).inbounds = b.inbounds ∧
      ∀ r ∈ (b.tunHandOff tun).directResolver, r ∈ b.directResolver ∨ r.server = dnsLocalTag := by
  unfold Builder.tunHandOff
  split
  next =>
    have push := (b.push_extends tunHandOffRule).toGrows
    refine ⟨{ push with }, rfl, ?_⟩
    rintro r ⟨⟩
    exact .inr rfl
  next => exact ⟨.refl b, rfl, fun r mem => .inl mem⟩

theorem Builder.tunRules_made (b : Builder) (p : Profile) (tun : Tun) :
    b.Grows (b.tunRules p tun) (tunMade p tun) ∧ (b.tunRules p tun).hasDirect = true ∧
      (b.tunRules p tun).inbounds = b.inbounds ∧
      ∀ r ∈ (b.tunRules p tun).directResolver, r ∈ b.directResolver ∨ r.server = dnsLocalTag := by
  have first := b.extend_extends tunSniffRules
  obtain ⟨handOff, inbounds, resolver⟩ := (b.extend tunSniffRules).tunHandOff_grows tun
  have hijack := ((b.extend tunSniffRules).tunHandOff tun).extend_extends tunHijackRules
  obtain ⟨direct, has⟩ := Builder.ensureDirect_extends
    (((b.extend tunSniffRules).tunHandOff tun).extend tunHijackRules)
  have push := Builder.push_extends
    (((b.extend tunSniffRules).tunHandOff tun).extend tunHijackRules).ensureDirect tunPrivateRule
  have bypass := Builder.extend_extends
    ((((b.extend tunSniffRules).tunHandOff tun).extend tunHijackRules).ensureDirect.push
      tunPrivateRule) (bypassRules (p.nodes.flatMap Node.ingresses) [] [])
  have later := ((hijack.trans direct).trans push).trans bypass
  rw [List.append_nil] at later
  refine ⟨(first.toGrows.trans handOff).trans later.toGrows,
    (push.trans bypass).keepsDirect has, ?_, fun r mem => ?_⟩
  · exact later.inbounds.trans (inbounds.trans first.inbounds)
  · rw [← first.directResolver]
    exact resolver r (later.directResolver ▸ mem)

/-! ## The listeners -/

omit [Crates] in
/-- The tag and port of every inbound the options ask for, in order. -/
def Options.listenPorts (o : Options) : List (String × Option UInt16) :=
  (match o.localProxy, o.localProxyLeftOut with
    | some proxy, false => [(localProxyInboundTag, some proxy.port)]
    | _, _ => []) ++
  (match o.systemProxyPort with
    | some port => [(systemProxyInboundTag, some port)]
    | none => []) ++
  if o.tun.isSome then [(tunInboundTag, none)] else []

/-- The rules of the listeners, before the profile's own. -/
def listenersMade (p : Profile) (o : Options) : List RouteRule :=
  (match o.tun with
    | some tun => tunMade p tun
    | none => []) ++
  match o.localProxy with
    | some proxy => localProxyMade proxy p.udpOff p.nodes
    | none => []

omit [Crates] in
theorem Builder.tunInbound_grows (b : Builder) (p : Profile) (tun : Tun) :
    b.Grows (b.tunInbound p tun) [] ∧
      (b.tunInbound p tun).inbounds.map (fun i => (i.tag, i.port?)) =
        b.inbounds.map (fun i => (i.tag, i.port?)) ++ [(tunInboundTag, none)] ∧
      (b.tunInbound p tun).directResolver = b.directResolver :=
  ⟨{ Builder.Grows.refl b with },
    by simp [Builder.tunInbound, Inbound.tag, Inbound.port?, tunInboundOptions], rfl⟩

/-- What the listeners' pass leaves. -/
structure Listening (p : Profile) (o : Options) (b b' : Builder) : Prop where
  grows : b.Grows b' (listenersMade p o)
  routed : b'.Routed p (listenersMade p o)
  inbounds : b'.inbounds.map (fun i => (i.tag, i.port?)) = o.listenPorts
  resolver : ∀ r ∈ b'.directResolver, o.tun.isSome = true ∧ r.server = dnsLocalTag

/-- The rules of the TUN, where there is one. -/
theorem Builder.addTunRules_made {b : Builder} (p : Profile) (o : Options)
    (noResolver : b.directResolver = none) :
    b.Grows (b.addTunRules p o) (match o.tun with
      | some tun => tunMade p tun
      | none => []) ∧
    (b.addTunRules p o).Routed p (match o.tun with
      | some tun => tunMade p tun
      | none => []) ∧
    (b.addTunRules p o).inbounds = b.inbounds ∧
    ∀ r ∈ (b.addTunRules p o).directResolver, o.tun.isSome = true ∧ r.server = dnsLocalTag := by
  unfold Builder.addTunRules
  cases o.tun with
  | none => exact ⟨.refl b, by simp [Builder.Routed], rfl, by simp [noResolver]⟩
  | some tun =>
    obtain ⟨grows, has, inbounds, resolver⟩ := b.tunRules_made p tun
    have label := Builder.labelRules_extends (b.tunRules p tun) "tun"
    refine ⟨by simpa using grows.trans label.toGrows, ?_, ?_, fun r mem => ?_⟩
    · intro rule mem tag out
      have direct := (tunMade_own p tun rule mem).2 tag out
      exact .inr (.inl ⟨direct, label.keepsDirect has⟩)
    · rw [label.inbounds, inbounds]
    · rw [label.directResolver] at mem
      rcases resolver r mem with mem | server
      · rw [noResolver] at mem
        cases mem
      · exact ⟨rfl, server⟩

theorem Builder.addLocalProxy_made {b : Builder} {p : Profile} {o : Options} (knows : b.Knows p)
    (udpOff : b.udpOff = p.udpOff) (noInbounds : b.inbounds = [])
    (usable : ∀ proxy ∈ o.localProxy, proxy.Usable) :
    ∃ b', b.addLocalProxy p o = .ok b' ∧
      b.Grows b' (match o.localProxy with
        | some proxy => localProxyMade proxy p.udpOff p.nodes
        | none => []) ∧
      b'.Routed p (match o.localProxy with
        | some proxy => localProxyMade proxy p.udpOff p.nodes
        | none => []) ∧
      b'.inbounds.map (fun i => (i.tag, i.port?)) = (match o.localProxy, o.localProxyLeftOut with
        | some proxy, false => [(localProxyInboundTag, some proxy.port)]
        | _, _ => []) ∧
      b'.directResolver = b.directResolver := by
  unfold Builder.addLocalProxy
  cases given : o.localProxy with
  | none => exact ⟨b, rfl, .refl b, by simp [Builder.Routed], by simp [noInbounds], rfl⟩
  | some proxy =>
    obtain ⟨b', users, made, ext, routed⟩ := Builder.localProxy_made
      o.localProxyLeftOut knows (usable proxy given)
    rw [udpOff] at ext routed
    simp only [made, Except.map]
    refine ⟨_, rfl, { ext.toGrows with }, routed, ?_, ext.directResolver⟩
    have empty : b'.inbounds = [] := ext.inbounds.trans noInbounds
    cases o.localProxyLeftOut <;> simp [Builder.labelRules, empty, Inbound.tag, Inbound.port?]

omit [Crates] in
theorem Builder.addSystemProxy_grows (b : Builder) (o : Options) :
    b.Grows (b.addSystemProxy o) [] ∧
      (b.addSystemProxy o).inbounds.map (fun i => (i.tag, i.port?)) =
        b.inbounds.map (fun i => (i.tag, i.port?)) ++ (match o.systemProxyPort with
          | some port => [(systemProxyInboundTag, some port)]
          | none => []) ∧
      (b.addSystemProxy o).directResolver = b.directResolver := by
  unfold Builder.addSystemProxy
  cases o.systemProxyPort with
  | none => exact ⟨.refl b, by simp, rfl⟩
  | some port => exact ⟨{ Builder.Grows.refl b with }, by simp [Inbound.tag, Inbound.port?], rfl⟩

omit [Crates] in
theorem Builder.addTunInbound_grows (b : Builder) (p : Profile) (o : Options) :
    b.Grows (b.addTunInbound p o) [] ∧
      (b.addTunInbound p o).inbounds.map (fun i => (i.tag, i.port?)) =
        b.inbounds.map (fun i => (i.tag, i.port?)) ++
          (if o.tun.isSome then [(tunInboundTag, none)] else []) ∧
      (b.addTunInbound p o).directResolver = b.directResolver := by
  unfold Builder.addTunInbound
  cases o.tun with
  | none => exact ⟨.refl b, by simp, rfl⟩
  | some tun =>
    obtain ⟨grows, inbounds, resolver⟩ := b.tunInbound_grows p tun
    have label := Builder.labelRules_extends (b.tunInbound p tun) "tun"
    exact ⟨grows.trans label.toGrows, by rw [label.inbounds, inbounds]; rfl,
      label.directResolver.trans resolver⟩

theorem Builder.listeners_made {b : Builder} {p : Profile} {o : Options} (knows : b.Knows p)
    (udpOff : b.udpOff = p.udpOff) (noInbounds : b.inbounds = [])
    (noResolver : b.directResolver = none) (usable : ∀ proxy ∈ o.localProxy, proxy.Usable) :
    ∃ b', b.listeners p o = .ok b' ∧ Listening p o b b' := by
  obtain ⟨tunRules, tunRouted, tunInbounds, tunResolver⟩ := b.addTunRules_made p o noResolver
  obtain ⟨b', made, proxy, proxyRouted, proxyInbounds, proxyResolver⟩ :=
    Builder.addLocalProxy_made (tunRules.knows knows) (tunRules.udpOff.trans udpOff)
      (tunInbounds.trans noInbounds) usable
  obtain ⟨system, systemInbounds, systemResolver⟩ := b'.addSystemProxy_grows o
  obtain ⟨tun, inbounds, resolver⟩ := (b'.addSystemProxy o).addTunInbound_grows p o
  refine ⟨(b'.addSystemProxy o).addTunInbound p o, ?_, ?_⟩
  · simp only [Builder.listeners, bind_eq_ok]
    exact ⟨b', made, rfl⟩
  · have grows := tunRules.trans (proxy.trans (system.trans tun))
    rw [List.append_nil, List.append_nil] at grows
    refine ⟨grows, ?_, ?_, ?_⟩
    · exact (system.trans tun).routed ((proxy.routed tunRouted).append proxyRouted)
    · rw [inbounds, systemInbounds, proxyInbounds]
      rfl
    · rw [resolver, systemResolver, proxyResolver]
      exact tunResolver

/-! ## The whole translation -/

/-- The tag maps of the nodes, as the nodes' pass left them. -/
structure SameNodes (tags tags' : Tags) : Prop where
  nodeTags : tags'.nodeTags = tags.nodeTags
  outboundNodes : tags'.outboundNodes = tags.outboundNodes
  groups : tags'.groups = tags.groups
  members : tags'.members = tags.members
  ingressKeys : tags'.ingressKeys = tags.ingressKeys

/-- What `t` is made of, as a translation of `p` for `o`. -/
structure Translated (p : Profile) (o : Options) (t : Translation) : Prop where
  outbounds : ∃ tags outs direct resolver, NodesMade o.pins o.healthCheck p.nodes {} tags outs ∧
    SameNodes tags t.tags ∧
    t.json.outbounds = (baseOutbounds p o outs ++
      if direct then [.direct directTag none] else []).map (withResolver resolver) ∧
    (∀ r ∈ resolver, o.tun.isSome = true ∧ r.server = dnsLocalTag) ∧
    (∀ rule ∈ t.json.route.rules, ∀ tag, rule.action.outbound? = some tag →
      tag = selectedTag ∨ (tag = directTag ∧ direct = true) ∨
        ∃ id ∈ p.nodeIds, tag = nodeTag id) ∧
    ∀ tag ∈ t.json.route.final, tag = selectedTag ∨ (tag = directTag ∧ direct = true) ∨
      ∃ id ∈ p.nodeIds, tag = nodeTag id
  rules : ∃ parts last, t.json.route.rules = listenersMade p o ++ (parts.flatten ++ last) ∧
    List.Forall₂ (Compiled o.ruleSets p.udpOff) (effectiveRouting p o.mode).rules parts ∧
    FinalMade p.udpOff (effectiveRouting p o.mode).finalAction last t.json.route.final
  inbounds : t.json.inbounds.map (fun i => (i.tag, i.port?)) = o.listenPorts
  ruleSet : t.json.route.ruleSet = ruleSetCopies (effectiveRouting p o.mode) o.ruleSets
  resolver : t.json.route.defaultDomainResolver = if o.tun.isSome then some dnsLocalTag else none
  dns : match o.tun with
    | none => t.json.dns = none
    | some tun => ∃ (b : Builder) (b' : Builder) (dns : Dns) (direct : Bool),
      b.tunDns tun direct (mirroredRuleSets o.ruleSets) = .ok (b', dns) ∧ t.json.dns = some dns ∧
        b.rules = t.json.route.rules

omit [Crates] in
theorem effectiveRouting_rules (p : Profile) (mode : RoutingMode) :
    ∀ rule ∈ (effectiveRouting p mode).rules, rule ∈ p.routing.rules := by
  intro rule mem
  cases mode with
  | rules => exact mem
  | global => exact List.mem_of_mem_filter mem

omit [Crates] in
theorem ruleSetTag_injective {a b : String} (eq : ruleSetTag a = ruleSetTag b) : a = b :=
  (String.append_right_inj _).mp eq

/-- The sets a rule names are among the effective ones. -/
theorem effectiveRouting_names {p : Profile} (valid : p.Valid) {mode : RoutingMode}
    {rule : RoutingRule} (mem : rule ∈ (effectiveRouting p mode).rules) {id : String}
    (named : id ∈ rule.matcher.ruleSetIds) :
    ∃ set ∈ (effectiveRouting p mode).ruleSets, set.id = id := by
  have known := (valid.rules rule (effectiveRouting_rules p mode rule mem)).ruleSets id named
  obtain ⟨set, inSets, eq⟩ := List.mem_map.mp known
  cases mode with
  | rules => exact ⟨set, inSets, eq⟩
  | global =>
    refine ⟨set, List.mem_filter.mpr ⟨inSets, ?_⟩, eq⟩
    refine List.any_eq_true.mpr ⟨rule, mem, ?_⟩
    rw [eq]
    simpa using named

theorem effectiveRouting_valid {p : Profile} (valid : p.Valid) (mode : RoutingMode) :
    (effectiveRouting p mode).Valid p := by
  refine ⟨fun rule mem => valid.rules rule (effectiveRouting_rules p mode rule mem), ?_⟩
  cases mode with
  | rules => exact valid.final
  | global => exact .selected

theorem directTag_notMem_udpOff (p : Profile) : directTag ∉ p.udpOff := by
  intro mem
  obtain ⟨n, _, eq⟩ := List.mem_map.mp mem
  exact nodeTag_ne_directTag n.id eq

omit [Crates] in
/-- The DNS section reads the builder and adds to its tag maps alone. -/
theorem Builder.tunDns_ok {b : Builder} {tun : Tun} (servers : tun.localDns ≠ .servers [])
    (direct : Bool) (mirrored : List String) :
    ∃ tags dns, b.tunDns tun direct mirrored = .ok ({ b with tags }, dns) ∧
      SameNodes b.tags tags := by
  have ok : ∃ locals, localDnsServers tun.localDns = .ok locals := by
    unfold localDnsServers
    split
    · exact ⟨_, rfl⟩
    · exact ⟨_, rfl⟩
    next empty => exact absurd empty servers
    · exact ⟨_, rfl⟩
    · exact ⟨_, rfl⟩
  obtain ⟨locals, eq⟩ := ok
  refine ⟨tunDnsTags tun.localDns b.tags, _, by rw [Builder.tunDns, eq]; rfl, ?_⟩
  cases tun.localDns <;> exact ⟨rfl, rfl, rfl, rfl, rfl⟩

theorem translate_made {p : Profile} {o : Options} (valid : p.Valid) (inj : TagsInjective p)
    (admissible : o.Admissible p) : ∃ t, translate p o = .ok t ∧ Translated p o t := by
  have selected := admissible.selected_mem valid
  obtain ⟨tags, outs, based, nodes⟩ := Builder.outboundsOf_made valid inj selected
  have knows : ({ tags, outbounds := baseOutbounds p o outs, udpOff := p.udpOff } :
      Builder).Knows p := by
    intro id mem
    rw [nodes.nodeTags]
    exact if_pos mem
  obtain ⟨b₁, listened, listening⟩ := Builder.listeners_made (o := o) knows rfl rfl rfl
    admissible.localProxy
  have udpOff : b₁.udpOff = p.udpOff := listening.grows.udpOff
  obtain ⟨b₂, parts, last, final, routed, ext, compiled, finalMade, routes, finalRoutes⟩ :=
    Builder.routing_made o.ruleSets (listening.grows.knows knows)
      (effectiveRouting_valid valid o.mode) (udpOff ▸ directTag_notMem_udpOff p)
  rw [udpOff] at compiled finalMade
  have grows := listening.grows.trans ext.toGrows
  have sets : b₁.ruleSets = [] := listening.grows.ruleSets
  rw [sets, List.nil_append] at routed
  have outbounds : b₂.outbounds = baseOutbounds p o outs ++
      if b₂.hasDirect then [.direct directTag none] else [] := by
    rcases grows.direct with ⟨eq, has⟩ | ⟨_, has, eq⟩
    · simp [eq, has]
    · simp [eq, has]
  have allRoutes := (ext.toGrows.routed listening.routed).append routes
  -- The same document whatever the DNS section is.
  have finished (extra : Tags) (same : SameNodes b₂.tags extra) (dns : Option Dns)
      (dnsMade : match o.tun with
        | none => dns = none
        | some tun => ∃ (b b' : Builder) (d : Dns) (direct : Bool),
          b.tunDns tun direct (mirroredRuleSets o.ruleSets) = .ok (b', d) ∧ dns = some d ∧
            b.rules = b₂.rules) :
      Translated p o (Builder.finish { b₂ with
        tags := extra
        ruleSets := ruleSetCopies (effectiveRouting p o.mode) o.ruleSets } o final dns) := by
    refine
      { outbounds := ⟨tags, outs, b₂.hasDirect, b₂.directResolver, nodes, ?_, ?_, ?_, ?_, ?_⟩
        rules := ⟨parts, last, ?_, compiled, finalMade⟩
        inbounds := ?_
        ruleSet := rfl
        resolver := rfl
        dns := ?_ }
    · exact ⟨same.nodeTags.trans grows.nodeTags, same.outboundNodes.trans grows.outboundNodes,
        same.groups.trans grows.groups, same.members.trans grows.members,
        same.ingressKeys.trans grows.ingressKeys⟩
    · rw [← outbounds]
      rfl
    · intro r mem
      rw [ext.directResolver] at mem
      exact listening.resolver r mem
    · intro rule mem
      refine allRoutes rule ?_
      have whole : b₂.rules = _ := grows.rules
      rw [List.nil_append] at whole
      rw [← whole]
      exact mem
    · exact finalRoutes
    · exact grows.rules.trans (List.nil_append _)
    · have same : b₂.inbounds = b₁.inbounds := ext.inbounds
      rw [← listening.inbounds, ← same]
      rfl
    · exact dnsMade
  have refl : SameNodes b₂.tags b₂.tags := ⟨rfl, rfl, rfl, rfl, rfl⟩
  cases given : o.tun with
  | none =>
    refine ⟨_, ?_, finished b₂.tags refl none (by simp [given])⟩
    simp only [translate, bind_eq_ok, given]
    exact ⟨_, based, _, listened, _, routed, rfl⟩
  | some tun =>
    obtain ⟨extra, dns, made, same⟩ := Builder.tunDns_ok
      (b := { b₂ with ruleSets := ruleSetCopies (effectiveRouting p o.mode) o.ruleSets })
      (admissible.localDns tun given) (decide (final = some directTag))
      (mirroredRuleSets o.ruleSets)
    refine ⟨_, ?_, finished extra same (some dns) ?_⟩
    · simp only [translate, bind_eq_ok, given]
      exact ⟨_, based, _, listened, _, routed, _, made, rfl⟩
    · rw [given]
      exact ⟨_, _, dns, _, made, rfl, rfl⟩

end

/-! ## Options for the small profile -/

/-- The second node selected on its backup ingress. -/
def sampleOptions : Options where
  mode := .rules
  selectedNodeId := some "b"
  pins := (∅ : BTreeMap String String).insert "b" "b-2"
  localProxy := some ⟨"127.0.0.1", 7890, "user", "password"⟩
  localProxyLeftOut := false
  systemProxyPort := none
  ruleSets := ∅
  healthCheck := {}
  tun := some ⟨true, true, true, "ppvpn0", .servers [⟨.v4 0x0a000001, 53⟩, ⟨.v4 0x0a000002, 53⟩]⟩
  logLevel := ""

/-- Also with the system proxy in the TUN's place. -/
theorem sampleOptions_admissible (tun : Bool) (port : Option UInt16) :
    { sampleOptions with
      tun := if tun then sampleOptions.tun else none
      systemProxyPort := port : Options }.Admissible sampleProfile := by
  refine { selected := ?_, pins := ?_, localProxy := ?_, localDns := ?_ }
  · rintro id ⟨⟩
    decide
  · intro id key pinned
    rw [sampleOptions, Std.ExtTreeMap.getElem?_insert] at pinned
    split at pinned
    next eq =>
      cases pinned
      cases Std.LawfulEqCmp.compare_eq_iff_eq.mp eq
      exact ⟨sampleNodeB, by decide, rfl, by decide⟩
    next => simp at pinned
  · rintro proxy ⟨⟩
    exact ⟨by decide, by decide, by decide, by decide⟩
  · cases tun with
    | true =>
      rintro _ ⟨⟩
      decide
    | false =>
      rintro _ ⟨⟩

end PpvpnCore
