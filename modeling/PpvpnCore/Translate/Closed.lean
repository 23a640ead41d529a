import PpvpnCore.Translate.Made

/-!
# The translation is closed

Every tag of a translation is defined once, and every tag anything names is
defined: for the DNS section first, then kind by kind.
-/

namespace PpvpnCore

section

variable [Crates]

/-! ## DNS -/

omit [Crates] in
theorem localMemberTag_toList (i : Nat) :
    (localMemberTag i).toList = "dns-local-".toList ++ (toString i).toList := by
  rw [localMemberTag, String.toList_append, String.toList_append]
  rfl

omit [Crates] in
theorem localMemberTag_injective {i j : Nat} (eq : localMemberTag i = localMemberTag j) : i = j := by
  have lists := congrArg String.toList eq
  rw [localMemberTag_toList, localMemberTag_toList] at lists
  exact Nat.repr_inj.mp (String.toList_inj.mp (List.append_cancel_left lists))

omit [Crates] in
theorem localMemberTag_ne {i : Nat} {other : String}
    (start : other.toList.take 10 ≠ "dns-local-".toList) : localMemberTag i ≠ other := by
  rintro rfl
  refine start ?_
  rw [localMemberTag_toList]
  rfl

omit [Crates] in
/-- The local servers: their tags, and that they name each other alone. -/
theorem localDnsServers_tags {localDns : LocalDns} {locals : List DnsServer}
    (ok : localDnsServers localDns = .ok locals) :
    ∃ n, locals.map DnsServer.tag = (List.range n).map localMemberTag ++ [dnsLocalTag] ∧
      ∀ server ∈ locals, server.detour? = none ∧
        ∀ tag ∈ server.members, tag ∈ locals.map DnsServer.tag := by
  unfold localDnsServers at ok
  split at ok
  · cases ok
    exact ⟨0, rfl, by simp [DnsServer.detour?, DnsServer.members]⟩
  · cases ok
    exact ⟨0, rfl, by simp [DnsServer.detour?, DnsServer.members]⟩
  · cases ok
  · cases ok
    exact ⟨0, rfl, by simp [DnsServer.detour?, DnsServer.members]⟩
  next list _ _ =>
    cases ok
    have tags : (list.zipIdx.map fun entry => localMemberTag entry.2) =
        (List.range list.length).map localMemberTag := by
      rw [List.range_eq_range', ← List.zipIdx_map_snd, List.map_map]
      rfl
    refine ⟨list.length, ?_, ?_⟩
    · rw [← tags, List.map_append, List.map_map]
      rfl
    · intro server mem
      rw [List.mem_append, List.mem_singleton] at mem
      rcases mem with mem | rfl
      · obtain ⟨⟨_, i⟩, _, rfl⟩ := List.mem_map.mp mem
        simp [DnsServer.detour?, DnsServer.members]
      · refine ⟨rfl, fun tag named => ?_⟩
        rw [List.map_append, List.map_map]
        exact List.mem_append_left _ named

/-- The DNS section names its own servers and the route's rule sets alone. -/
structure DnsClosed (route : List RouteRule) (dns : Dns) : Prop where
  nodup : (dns.servers.map DnsServer.tag).Nodup
  members : ∀ server ∈ dns.servers, ∀ tag ∈ server.members, tag ∈ dns.servers.map DnsServer.tag
  detours : ∀ server ∈ dns.servers, ∀ tag, server.detour? = some tag → tag = selectedTag
  dnsLocal : dnsLocalTag ∈ dns.servers.map DnsServer.tag
  dnsRemote : dnsRemoteTag ∈ dns.servers.map DnsServer.tag
  rules : ∀ rule ∈ dns.rules, ∀ tag, rule.server? = some tag → tag = dnsLocalTag ∨ tag = dnsRemoteTag
  ruleSets : ∀ rule ∈ dns.rules, ∀ tag ∈ rule.ruleSet,
    tag ∈ (route.flatMap RouteRule.matchers).flatMap (·.ruleSet)
  final : dns.final = dnsLocalTag ∨ dns.final = dnsRemoteTag

omit [Crates] in
theorem mirrorDnsRule_names {noDnsMirror : List Nat} {dnsRuleSets : List String} {i : Nat}
    {rule : RouteRule} {dns : DnsRule} (made : mirrorDnsRule noDnsMirror dnsRuleSets i rule = some dns) :
    (∀ tag, dns.server? = some tag → tag = dnsLocalTag ∨ tag = dnsRemoteTag) ∧
      ∀ tag ∈ dns.ruleSet, ∃ m ∈ rule.matchers, tag ∈ m.ruleSet := by
  cases rule with
  | all rules action => cases made
  | plain m action =>
    simp only [mirrorDnsRule] at made
    split at made
    · cases made
    · have sets : ∀ tag ∈ m.ruleSet.filter (· ∈ dnsRuleSets),
          ∃ m' ∈ (RouteRule.plain m action).matchers, tag ∈ m'.ruleSet :=
        fun tag mem => ⟨m, List.mem_singleton.mpr rfl, List.mem_of_mem_filter mem⟩
      cases action with
      | route outbound =>
        cases made
        refine ⟨fun tag eq => ?_, sets⟩
        cases eq
        split
        · exact .inl rfl
        · exact .inr rfl
      | reject =>
        cases made
        refine ⟨fun tag eq => ?_, sets⟩
        cases eq
      | sniff => cases made
      | routeOptions _ => cases made
      | hijackDns => cases made

omit [Crates] in
theorem Builder.tunDns_closed {b b' : Builder} {tun : Tun} {direct : Bool} {mirrored : List String}
    {dns : Dns} (made : b.tunDns tun direct mirrored = .ok (b', dns)) :
    DnsClosed b.rules dns := by
  simp only [Builder.tunDns, bind_eq_ok] at made
  obtain ⟨locals, ok, made⟩ := made
  obtain ⟨n, tags, names⟩ := localDnsServers_tags ok
  cases made
  have allTags : (locals ++ (remoteDnsServers.map fun server =>
      DnsServer.tls (remoteMemberTag server) server selectedTag) ++
      [DnsServer.sequential dnsRemoteTag (remoteDnsServers.map remoteMemberTag)
        remoteAttempt]).map DnsServer.tag = ((List.range n).map localMemberTag) ++
      ["dns-local", "dns-remote-1.1.1.1", "dns-remote-8.8.8.8", "dns-remote-9.9.9.9",
        "dns-remote"] := by
    rw [List.map_append, List.map_append, tags]
    simp only [List.append_assoc]
    rfl
  have mirror : ∀ rule ∈ b.mirrorDnsRules mirrored, ∃ i route, route ∈ b.rules ∧
      mirrorDnsRule b.noDnsMirror mirrored i route = some rule := by
    intro rule mem
    rw [Builder.mirrorDnsRules] at mem
    obtain ⟨⟨route, i⟩, here, eq⟩ := List.mem_filterMap.mp mem
    exact ⟨i, route, List.fst_mem_of_mem_zipIdx here, eq⟩
  refine
    { nodup := ?_
      members := ?_
      detours := ?_
      dnsLocal := by rw [allTags]; simp [dnsLocalTag]
      dnsRemote := by rw [allTags]; simp [dnsRemoteTag]
      rules := ?_
      ruleSets := ?_
      final := ?_ }
  · rw [allTags, List.nodup_append]
    refine ⟨?_, by decide, ?_⟩
    · exact List.nodup_range.map fun i j eq => localMemberTag_injective eq
    · intro tag mem other mem'
      obtain ⟨i, _, rfl⟩ := List.mem_map.mp mem
      refine localMemberTag_ne ?_
      revert other
      decide
  · intro server mem tag named
    rw [List.mem_append, List.mem_append, List.mem_singleton] at mem
    rw [List.map_append, List.map_append]
    rcases mem with (mem | mem) | rfl
    · exact List.mem_append_left _ (List.mem_append_left _ ((names server mem).2 tag named))
    · obtain ⟨_, _, rfl⟩ := List.mem_map.mp mem
      cases named
    · refine List.mem_append_left _ (List.mem_append_right _ ?_)
      rw [List.map_map]
      exact named
  · intro server mem tag eq
    rw [List.mem_append, List.mem_append, List.mem_singleton] at mem
    rcases mem with (mem | mem) | rfl
    · rw [(names server mem).1] at eq
      cases eq
    · obtain ⟨_, _, rfl⟩ := List.mem_map.mp mem
      cases eq
      rfl
    · cases eq
  · intro rule mem
    obtain ⟨i, route, _, eq⟩ := mirror rule mem
    exact (mirrorDnsRule_names eq).1
  · intro rule mem tag named
    obtain ⟨i, route, here, eq⟩ := mirror rule mem
    obtain ⟨m, inRoute, inSet⟩ := (mirrorDnsRule_names eq).2 tag named
    exact List.mem_flatMap.mpr ⟨m, List.mem_flatMap.mpr ⟨route, here, inRoute⟩, inSet⟩
  · cases direct with
    | true => exact .inl rfl
    | false => exact .inr rfl

/-- Without a TUN there is no DNS section; with one it is closed. -/
theorem Translated.dns_closed {p : Profile} {o : Options} {t : Translation}
    (made : Translated p o t) :
    (o.tun.isSome = false ∧ t.json.dns = none) ∨
      ∃ dns, o.tun.isSome = true ∧ t.json.dns = some dns ∧ DnsClosed t.json.route.rules dns := by
  have dns := made.dns
  cases given : o.tun with
  | none =>
    rw [given] at dns
    exact .inl ⟨rfl, dns⟩
  | some tun =>
    rw [given] at dns
    obtain ⟨b, b', dns, direct, ok, eq, rules⟩ := dns
    refine .inr ⟨dns, rfl, eq, ?_⟩
    rw [← rules]
    exact Builder.tunDns_closed ok

/-! ## Outbounds -/

omit [Crates] in
@[simp] theorem withResolver_tag (resolver : Option DomainResolver) (out : Outbound) :
    (withResolver resolver out).tag = out.tag := by
  cases resolver <;> cases out <;> rfl

omit [Crates] in
@[simp] theorem withResolver_refs (resolver : Option DomainResolver) (out : Outbound) :
    (withResolver resolver out).refs = out.refs := by
  cases resolver <;> cases out <;> rfl

theorem Translated.closed_outbound {p : Profile} {o : Options} {t : Translation} (valid : p.Valid)
    (inj : TagsInjective p) (selected : o.selected p ∈ p.nodeIds) (made : Translated p o t) :
    (t.json.defined .outbound).Nodup ∧
      ∀ tag ∈ t.json.referenced .outbound, tag ∈ t.json.defined .outbound := by
  obtain ⟨tags, outs, direct, resolver, nodes, _, outbounds, _, routed, final⟩ := made.outbounds
  have base := baseOutbounds_closed valid inj selected nodes
  have defined : t.json.defined .outbound = (baseOutbounds p o outs).map Outbound.tag ++
      if direct then [directTag] else [] := by
    rw [Config.defined, outbounds, List.map_map]
    have same : Outbound.tag ∘ withResolver resolver = Outbound.tag := by
      funext out
      exact withResolver_tag resolver out
    rw [same, List.map_append]
    cases direct <;> rfl
  have target : ∀ tag, (tag = selectedTag ∨ (tag = directTag ∧ direct = true) ∨
      ∃ id ∈ p.nodeIds, tag = nodeTag id) → tag ∈ t.json.defined .outbound := by
    rw [defined]
    rintro tag (rfl | ⟨rfl, rfl⟩ | ⟨id, mem, rfl⟩)
    · exact List.mem_append_left _ base.selected
    · exact List.mem_append_right _ (List.mem_singleton.mpr rfl)
    · exact List.mem_append_left _ (base.nodes id mem)
  refine ⟨?_, fun tag mem => ?_⟩
  · rw [defined, List.nodup_append]
    refine ⟨base.nodup, by cases direct <;> simp, ?_⟩
    rintro tag inBase other inDirect rfl
    cases direct with
    | true =>
      cases List.mem_singleton.mp inDirect
      exact base.noDirect inBase
    | false => cases inDirect
  · simp only [Config.referenced, List.mem_append] at mem
    rcases mem with ((mem | mem) | mem) | mem
    · obtain ⟨out, here, named⟩ := List.mem_flatMap.mp mem
      rw [outbounds] at here
      obtain ⟨before, made, rfl⟩ := List.mem_map.mp here
      rw [withResolver_refs] at named
      rcases List.mem_append.mp made with here | here
      · rw [defined]
        exact List.mem_append_left _ (base.refs before here tag named)
      · cases direct with
        | true =>
          cases List.mem_singleton.mp here
          cases named
        | false => cases here
    · obtain ⟨rule, here, eq⟩ := List.mem_filterMap.mp mem
      exact target tag (routed rule here tag eq)
    · exact target tag (final tag (Option.mem_toList.mp mem))
    · obtain ⟨server, here, eq⟩ := List.mem_filterMap.mp mem
      rcases made.dns_closed with ⟨_, none_⟩ | ⟨dns, _, some_, closed⟩
      · rw [Config.dnsServers, none_] at here
        cases here
      · rw [Config.dnsServers, some_] at here
        exact target tag (.inl (closed.detours server here tag eq))

/-! ## Inbounds and DNS servers -/

theorem Translated.closed_inbound {p : Profile} {o : Options} {t : Translation}
    (made : Translated p o t) : (t.json.defined .inbound).Nodup := by
  have defined : t.json.defined .inbound = o.listenPorts.map Prod.fst := by
    rw [← made.inbounds, List.map_map]
    rfl
  rw [defined]
  have sub : (o.listenPorts.map Prod.fst).Sublist
      (([localProxyInboundTag] ++ [systemProxyInboundTag]) ++ [tunInboundTag]) := by
    unfold Options.listenPorts
    rw [List.map_append, List.map_append]
    refine .append (.append ?_ ?_) ?_
    · split <;> simp
    · split <;> simp
    · split <;> simp
  exact List.Nodup.sublist sub (by decide)

theorem Translated.closed_dnsServer {p : Profile} {o : Options} {t : Translation}
    (made : Translated p o t) :
    (t.json.defined .dnsServer).Nodup ∧
      ∀ tag ∈ t.json.referenced .dnsServer, tag ∈ t.json.defined .dnsServer := by
  obtain ⟨_, outs, direct, resolver, nodes, _, outbounds, resolvers, _⟩ := made.outbounds
  -- An outbound's own resolver is dns-local, and only a TUN has one.
  have own : ∀ out ∈ t.json.outbounds, ∀ tag ∈ out.dnsRefs,
      o.tun.isSome = true ∧ tag = dnsLocalTag := by
    intro out here tag named
    rw [outbounds] at here
    obtain ⟨before, made, rfl⟩ := List.mem_map.mp here
    have none_ : before.dnsRefs = [] := by
      rcases List.mem_append.mp made with here | here
      · rw [baseOutbounds, List.mem_cons] at here
        rcases here with rfl | here
        · rfl
        · have notDirect := (nodes.refs here).2
          cases before with
          | direct tag resolver => exact absurd rfl (notDirect tag resolver)
          | _ => rfl
      · cases direct with
        | true =>
          cases List.mem_singleton.mp here
          rfl
        | false => cases here
    cases resolver with
    | none =>
      have same : withResolver none before = before := by cases before <;> rfl
      rw [same, none_] at named
      cases named
    | some r =>
      obtain ⟨isTun, server⟩ := resolvers r rfl
      cases before with
      | direct other resolver =>
        cases List.mem_singleton.mp named
        exact ⟨isTun, server⟩
      | selector _ _ _ => cases named
      | fallback _ _ _ => cases named
      | proxy _ _ _ _ _ => cases named
  rcases made.dns_closed with ⟨standard, none_⟩ | ⟨dns, isTun, some_, closed⟩
  · refine ⟨by simp [Config.defined, Config.dnsServers, none_], fun tag mem => ?_⟩
    simp only [Config.referenced, Config.dnsServers, Config.dnsRules, none_, made.resolver, standard,
      List.mem_append] at mem
    rcases mem with (((mem | mem) | mem) | mem) | mem
    · cases mem
    · cases mem
    · cases mem
    · cases mem
    · obtain ⟨out, here, named⟩ := List.mem_flatMap.mp mem
      obtain ⟨isTun, _⟩ := own out here tag named
      rw [standard] at isTun
      cases isTun
  · have defined : t.json.defined .dnsServer = dns.servers.map DnsServer.tag := by
      simp [Config.defined, Config.dnsServers, some_]
    rw [defined]
    refine ⟨closed.nodup, fun tag mem => ?_⟩
    have either : tag = dnsLocalTag ∨ tag = dnsRemoteTag → tag ∈ dns.servers.map DnsServer.tag := by
      rintro (rfl | rfl)
      · exact closed.dnsLocal
      · exact closed.dnsRemote
    simp only [Config.referenced, Config.dnsServers, Config.dnsRules, some_, made.resolver, isTun,
      List.mem_append] at mem
    rcases mem with (((mem | mem) | mem) | mem) | mem
    · obtain ⟨server, here, named⟩ := List.mem_flatMap.mp mem
      exact closed.members server here tag named
    · obtain ⟨rule, here, eq⟩ := List.mem_filterMap.mp mem
      exact either (closed.rules rule here tag eq)
    · cases List.mem_singleton.mp mem
      exact either closed.final
    · cases List.mem_singleton.mp mem
      exact closed.dnsLocal
    · obtain ⟨out, here, named⟩ := List.mem_flatMap.mp mem
      rw [(own out here tag named).2]
      exact closed.dnsLocal

/-! ## Rule sets -/

omit [Crates] in
theorem effectiveRouting_ruleSets (p : Profile) (mode : RoutingMode) :
    ((effectiveRouting p mode).ruleSets.map (·.id)).Sublist p.routing.ruleSetIds := by
  cases mode with
  | rules => exact List.Sublist.refl _
  | global => exact List.filter_sublist.map _

theorem localProxyMade_noSets (proxy : LocalProxy) (udpOff : List String) (nodes : List Node) :
    ∀ rule ∈ localProxyMade proxy udpOff nodes, ∀ m ∈ rule.matchers, m.ruleSet = [] := by
  intro rule mem
  rw [localProxyMade, List.mem_append] at mem
  rcases mem with mem | mem
  · obtain ⟨node, _, mem⟩ := List.mem_flatMap.mp mem
    rcases List.mem_append.mp mem with mem | mem
    · rw [udpRejection_action mem]
      simp [RouteRule.matchers]
    · cases List.mem_singleton.mp mem
      simp [RouteRule.matchers]
  · cases List.mem_singleton.mp mem
    simp [RouteRule.matchers]

theorem listenersMade_noSets (p : Profile) (o : Options) :
    ∀ rule ∈ listenersMade p o, ∀ m ∈ rule.matchers, m.ruleSet = [] := by
  intro rule mem
  rw [listenersMade, List.mem_append] at mem
  rcases mem with mem | mem
  · split at mem
    next tun _ => exact (tunMade_own p tun rule mem).1
    next => cases mem
  · split at mem
    next proxy _ => exact localProxyMade_noSets proxy _ _ rule mem
    next => cases mem

/-- A compiled rule names the sets of its profile rule with a copy. -/
theorem Compiled.sets {files : BTreeMap String RuleSetFile} {udpOff : List String}
    {rule : RoutingRule} {made : List RouteRule} (compiled : Compiled files udpOff rule made) :
    ∀ route ∈ made, ∀ m ∈ route.matchers, m.ruleSet = rule.sets files := by
  cases compiled with
  | dropped _ => simp
  | reject _ _ m _ => simp [RouteRule.matchers]
  | route _ target _ m _ =>
    intro route mem
    rcases List.mem_append.mp mem with mem | mem
    · rw [udpRejection_action mem]
      simp [RouteRule.matchers]
    · cases List.mem_singleton.mp mem
      simp [RouteRule.matchers]

theorem FinalMade.noSets {udpOff : List String} {action : RoutingAction} {made : List RouteRule}
    {final : Option String} (finalMade : FinalMade udpOff action made final) :
    ∀ route ∈ made, ∀ m ∈ route.matchers, m.ruleSet = [] := by
  cases finalMade <;> simp [RouteRule.matchers]

omit [Crates] in
theorem exists_of_forall₂ {α β : Type} {R : α → β → Prop} {as : List α} {bs : List β}
    (related : List.Forall₂ R as bs) {b : β} (mem : b ∈ bs) : ∃ a ∈ as, R a b := by
  induction related with
  | nil => cases mem
  | cons first _ ih =>
    rcases List.mem_cons.mp mem with rfl | mem
    · exact ⟨_, List.mem_cons_self, first⟩
    · obtain ⟨a, inAs, found⟩ := ih mem
      exact ⟨a, List.mem_cons_of_mem _ inAs, found⟩

theorem Translated.closed_ruleSet {p : Profile} {o : Options} {t : Translation} (valid : p.Valid)
    (made : Translated p o t) :
    (t.json.defined .ruleSet).Nodup ∧
      ∀ tag ∈ t.json.referenced .ruleSet, tag ∈ t.json.defined .ruleSet := by
  have defined : t.json.defined .ruleSet =
      (usedRuleSets (effectiveRouting p o.mode) o.ruleSets).map fun set => ruleSetTag set.id := by
    rw [Config.defined, made.ruleSet, ruleSetCopies, List.map_map]
    rfl
  obtain ⟨parts, last, rules, compiled, finalMade⟩ := made.rules
  have routed : ∀ tag ∈ (t.json.route.rules.flatMap RouteRule.matchers).flatMap (·.ruleSet),
      tag ∈ t.json.defined .ruleSet := by
    intro tag mem
    obtain ⟨m, inRules, named⟩ := List.mem_flatMap.mp mem
    obtain ⟨route, here, inRoute⟩ := List.mem_flatMap.mp inRules
    rw [rules, List.mem_append, List.mem_append] at here
    rcases here with here | here | here
    · rw [listenersMade_noSets p o route here m inRoute] at named
      cases named
    · obtain ⟨part, inParts, here⟩ := List.mem_flatten.mp here
      obtain ⟨rule, inRules, compiled⟩ := exists_of_forall₂ compiled inParts
      rw [compiled.sets route here m inRoute] at named
      obtain ⟨id, inIds, rfl⟩ := List.mem_map.mp named
      obtain ⟨inRule, available⟩ := List.mem_filter.mp inIds
      obtain ⟨set, inSets, rfl⟩ := effectiveRouting_names valid inRules inRule
      rw [defined]
      refine List.mem_map.mpr ⟨set, List.mem_filter.mpr ⟨inSets, ?_⟩, rfl⟩
      rw [available, Bool.true_and]
      exact List.any_eq_true.mpr ⟨rule, inRules, by simpa using inRule⟩
    · rw [finalMade.noSets route here m inRoute] at named
      cases named
  refine ⟨?_, fun tag mem => ?_⟩
  · rw [defined, show (fun set : RuleSet => ruleSetTag set.id) = ruleSetTag ∘ (·.id) from rfl,
      ← List.map_map]
    have ids : ((usedRuleSets (effectiveRouting p o.mode) o.ruleSets).map (·.id)).Nodup :=
      valid.ruleSets.sublist
        ((List.filter_sublist.map _).trans (effectiveRouting_ruleSets p o.mode))
    exact ids.map fun a b eq => ruleSetTag_injective eq
  · rw [Config.referenced, List.mem_append] at mem
    rcases mem with mem | mem
    · exact routed tag mem
    · obtain ⟨rule, here, named⟩ := List.mem_flatMap.mp mem
      rcases made.dns_closed with ⟨_, none_⟩ | ⟨dns, _, some_, closed⟩
      · rw [Config.dnsRules, none_] at here
        cases here
      · rw [Config.dnsRules, some_] at here
        exact routed tag (closed.ruleSets rule here tag named)

/-! ## The result -/

/-- `translate` is total on accepted profiles and its output is closed. -/
theorem translate_closed {p : Profile} {now : Int} {o : Options} (accepted : validate p now = .ok ())
    (inj : TagsInjective p) (admissible : o.Admissible p) :
    ∃ t, translate p o = .ok t ∧ t.json.Closed := by
  have valid := validate_ok accepted
  obtain ⟨t, ok, made⟩ := translate_made valid inj admissible
  refine ⟨t, ok, fun kind => ?_⟩
  cases kind with
  | outbound => exact made.closed_outbound valid inj (admissible.selected_mem valid)
  | inbound => exact ⟨made.closed_inbound, by simp [Config.referenced]⟩
  | dnsServer => exact made.closed_dnsServer
  | ruleSet => exact made.closed_ruleSet valid

end

theorem translate_closed_sample :
    ∃ t, @translate sampleCrates sampleProfile sampleOptions = .ok t ∧ t.json.Closed := by
  let _ := sampleCrates
  exact translate_closed sampleProfile_accepted ⟨by decide, by decide⟩
    (sampleOptions_admissible true none)

end PpvpnCore
