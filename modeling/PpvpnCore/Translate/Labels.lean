import PpvpnCore.Translate.Routing

/-!
# What made each routing rule

The labels of a translation beside what really made its rules: the passes are
run again, and each rule goes to the pass that adds it (`origins`).

* `Builder.Pushes`: a pass that labels nothing; `Builder.Labelled`: all rules
  so far have the labels of what made them.
* `translate_labels`: every rule has its label, up to the last one when it
  rejects the UDP of the final action's node.
-/

namespace PpvpnCore

/-- What makes a routing rule. -/
inductive Origin where
  | tun
  | localProxy
  | rule (id : String)
  | final
  deriving DecidableEq, Repr

def Origin.label : Origin → String
  | .tun => "tun"
  | .localProxy => "local-proxy"
  | .rule id => id
  | .final => "final"

/-- The rules that a pass from `b` to `b'` added. -/
def madeBy (origin : Origin) (b b' : Builder) : List (Origin × RouteRule) :=
  (b'.rules.drop b.rules.length).map fun rule => (origin, rule)

/-- The profile's rules one by one, with the routing rules of each. -/
def ruleOrigins [Crates] (files : BTreeMap String RuleSetFile) :
    Builder → List RoutingRule → Except Error (Builder × List (Origin × RouteRule))
  | b, [] => .ok (b, [])
  | b, rule :: rules => do
    let b' ← Builder.routingRule files b rule
    let (last, later) ← ruleOrigins files b' rules
    return (last, madeBy (.rule rule.id) b b' ++ later)

/-- The routing rules of a translation, each with what made it. -/
def origins [Crates] (p : Profile) (o : Options) : Except Error (List (Origin × RouteRule)) := do
  let routing := effectiveRouting p o.mode
  let based ← Builder.outboundsOf p o
  let tun := based.addTunRules p o
  let proxy ← tun.addLocalProxy p o
  let listening := (proxy.addSystemProxy o).addTunInbound p o
  let (ruled, made) ← ruleOrigins o.ruleSets listening routing.rules
  let (finished, _) ← listening.routing routing o.ruleSets
  return madeBy .tun based tun ++ madeBy .localProxy tun proxy ++ madeBy .tun proxy listening ++
    made ++ madeBy .final ruled finished

/-- The final action sends to a fixed node that carries no UDP. -/
def FinalRejectsUdp [Crates] (p : Profile) (o : Options) : Prop :=
  o.mode = .rules ∧ p.routing.finalAction.kind = "proxy" ∧ p.routing.finalAction.target = "node" ∧
    nodeTag p.routing.finalAction.nodeId ∈ p.udpOff

/-! ## Passes -/

/-- A pass that adds rules. -/
structure Builder.Adds (b b' : Builder) : Prop where
  rules : b.rules <+: b'.rules
  nodeTags : b'.tags.nodeTags = b.tags.nodeTags
  udpOff : b'.udpOff = b.udpOff

theorem Builder.Adds.trans {b b' b'' : Builder} (first : b.Adds b') (second : b'.Adds b'') :
    b.Adds b'' :=
  ⟨first.rules.trans second.rules, second.nodeTags.trans first.nodeTags,
    second.udpOff.trans first.udpOff⟩

/-- A pass that adds rules and labels none. -/
structure Builder.Pushes (b b' : Builder) : Prop extends b.Adds b' where
  ruleIds : b'.tags.ruleIds = b.tags.ruleIds

namespace Builder.Pushes

variable {b b' b'' : Builder} {made : List RouteRule}

theorem refl (b : Builder) : b.Pushes b := ⟨⟨List.prefix_refl _, rfl, rfl⟩, rfl⟩

theorem trans (first : b.Pushes b') (second : b'.Pushes b'') : b.Pushes b'' :=
  ⟨first.toAdds.trans second.toAdds, second.ruleIds.trans first.ruleIds⟩

theorem of_grows (grows : b.Grows b' made) (ruleIds : b'.tags.ruleIds = b.tags.ruleIds) :
    b.Pushes b' :=
  ⟨⟨⟨made, grows.rules.symm⟩, grows.nodeTags, grows.udpOff⟩, ruleIds⟩

end Builder.Pushes

/-- All rules so far have the labels of what made them. -/
structure Builder.Labelled (b : Builder) (made : List (Origin × RouteRule)) : Prop where
  rules : b.rules = made.map Prod.snd
  ruleIds : b.tags.ruleIds = made.map fun m => m.1.label

section

variable {b b' : Builder} {made : List (Origin × RouteRule)} {origin : Origin}

theorem madeBy_rules (pushes : b.rules <+: b'.rules) :
    b'.rules = b.rules ++ (madeBy origin b b').map Prod.snd := by
  obtain ⟨added, same⟩ := pushes
  rw [madeBy, ← same, List.drop_left, List.map_map]
  exact congrArg (b.rules ++ ·) (List.map_id' added).symm

theorem madeBy_labels :
    (madeBy origin b b').map (fun m => m.1.label) =
      List.replicate (b'.rules.length - b.rules.length) origin.label := by
  rw [madeBy, List.map_map, ← List.length_drop]
  change (b'.rules.drop b.rules.length).map (fun _ => origin.label) = _
  exact List.map_const'

theorem madeBy_self (same : b'.rules = b.rules) : madeBy origin b b' = [] := by
  rw [madeBy, same, List.drop_length]
  rfl

theorem Builder.Labelled.count (labelled : b.Labelled made) :
    b.tags.ruleIds.length = b.rules.length := by
  rw [labelled.ruleIds, labelled.rules, List.length_map, List.length_map]

/-- The rules of a pass, labelled after it. -/
theorem Builder.Labelled.label (labelled : b.Labelled made) (origin : Origin)
    (pushes : b.Pushes b') :
    (b'.labelRules origin.label).Labelled (made ++ madeBy origin b b') := by
  constructor
  · rw [List.map_append, ← labelled.rules]
    exact madeBy_rules pushes.rules
  · rw [List.map_append, madeBy_labels, ← labelled.ruleIds, labelRules, pushes.ruleIds]
    dsimp only
    rw [labelled.count]

/-- A pass without rules. -/
theorem Builder.Labelled.same (labelled : b.Labelled made) (pushes : b.Pushes b')
    (same : b'.rules = b.rules) : b'.Labelled made :=
  ⟨same.trans labelled.rules, pushes.ruleIds.trans labelled.ruleIds⟩

end

section

variable [Crates] {b b' : Builder} {made : List (Origin × RouteRule)} {p : Profile} {o : Options}

omit [Crates] in
theorem push_pushes (rule : RouteRule) : b.Pushes (b.push rule) :=
  .of_grows (b.push_extends rule).toGrows rfl

omit [Crates] in
theorem ensureDirect_pushes : b.Pushes b.ensureDirect := by
  refine .of_grows b.ensureDirect_extends.1.toGrows ?_
  rw [Builder.ensureDirect]
  split <;> rfl

omit [Crates] in
theorem rejectUdpBefore_pushes (matcher : Matcher) (target : String) :
    b.Pushes (b.rejectUdpBefore matcher target) := by
  refine .of_grows (b.rejectUdpBefore_extends matcher target).toGrows ?_
  rw [Builder.rejectUdpBefore]
  split
  · rfl
  · split <;> rfl

theorem tunRules_pushes (tun : Tun) : b.Pushes (b.tunRules p tun) := by
  refine .of_grows (b.tunRules_made p tun).1 ?_
  simp only [Builder.tunRules, Builder.tunHandOff, Builder.ensureDirect]
  repeat' split
  all_goals rfl

omit [Crates] in
theorem userRules_pushes (proxy : LocalProxy) (nodes : List Node) :
    b.Pushes (Builder.userRules proxy b nodes) := by
  induction nodes generalizing b with
  | nil => exact .refl b
  | cons node nodes ih => exact ((rejectUdpBefore_pushes _ _).trans (push_pushes _)).trans ih

omit [Crates] in
theorem localProxy_pushes {proxy : LocalProxy} {leftOut : Bool}
    (done : b.localProxy p proxy leftOut = .ok b') : b.Pushes b' := by
  rw [Builder.localProxy] at done
  split at done
  next => cases done
  next =>
    have pushes := (userRules_pushes (b := b) proxy p.nodes).trans (push_pushes
      (.all [{ inbound := [localProxyInboundTag] },
        { authUser := [proxy.username ""], invert := true }] .reject))
    cases leftOut with
    | true =>
      cases done
      exact pushes
    | false =>
      cases done
      exact ⟨⟨pushes.rules, pushes.nodeTags, pushes.udpOff⟩, pushes.ruleIds⟩

omit [Crates] in
theorem action_pushes {action : RoutingAction} {out : RuleAction}
    (done : b.action action = .ok (b', out)) : b.Pushes b' := by
  rw [Builder.action] at done
  split at done
  next =>
    cases done
    exact ensureDirect_pushes
  next =>
    split at done
    next =>
      obtain ⟨target, -, same⟩ := bind_eq_ok.mp done
      cases same
      exact .refl b
    next =>
      split at done
      next =>
        cases done
        exact .refl b
      next => cases done

/-! ## Labels -/

theorem addTunRules_labelled (labelled : b.Labelled made) :
    (b.addTunRules p o).Labelled (made ++ madeBy .tun b (b.addTunRules p o)) ∧
      b.Adds (b.addTunRules p o) := by
  rw [Builder.addTunRules]
  cases o.tun with
  | none =>
    dsimp only
    rw [madeBy_self rfl, List.append_nil]
    exact ⟨labelled, (Builder.Pushes.refl b).toAdds⟩
  | some tun =>
    have pushes := tunRules_pushes (b := b) (p := p) tun
    exact ⟨labelled.label .tun pushes, pushes.rules, pushes.nodeTags, pushes.udpOff⟩

omit [Crates] in
theorem addLocalProxy_labelled (labelled : b.Labelled made)
    (done : b.addLocalProxy p o = .ok b') :
    b'.Labelled (made ++ madeBy .localProxy b b') ∧ b.Adds b' := by
  rw [Builder.addLocalProxy] at done
  cases given : o.localProxy with
  | none =>
    rw [given] at done
    cases done
    rw [madeBy_self rfl, List.append_nil]
    exact ⟨labelled, (Builder.Pushes.refl b).toAdds⟩
  | some proxy =>
    rw [given] at done
    dsimp only at done
    cases proxied : b.localProxy p proxy o.localProxyLeftOut with
    | error e =>
      rw [proxied] at done
      cases done
    | ok b₁ =>
      rw [proxied] at done
      cases done
      have pushes := localProxy_pushes proxied
      exact ⟨labelled.label .localProxy pushes, pushes.rules, pushes.nodeTags, pushes.udpOff⟩

omit [Crates] in
/-- The inbounds come without rules. -/
theorem addInbounds_labelled (labelled : b.Labelled made) :
    ((b.addSystemProxy o).addTunInbound p o).Labelled
        (made ++ madeBy .tun b ((b.addSystemProxy o).addTunInbound p o)) ∧
      b.Adds ((b.addSystemProxy o).addTunInbound p o) := by
  have system : b.Pushes (b.addSystemProxy o) ∧ (b.addSystemProxy o).rules = b.rules := by
    rw [Builder.addSystemProxy]
    cases o.systemProxyPort with
    | none => exact ⟨.refl b, rfl⟩
    | some port => exact ⟨⟨⟨List.prefix_refl _, rfl, rfl⟩, rfl⟩, rfl⟩
  obtain ⟨pushes, same⟩ := system
  rw [Builder.addTunInbound]
  cases o.tun with
  | none =>
    dsimp only
    rw [madeBy_self same, List.append_nil]
    exact ⟨labelled.same pushes same, pushes.toAdds⟩
  | some tun =>
    have inbound : (b.addSystemProxy o).Pushes ((b.addSystemProxy o).tunInbound p tun) :=
      ⟨⟨List.prefix_refl _, rfl, rfl⟩, rfl⟩
    have both := pushes.trans inbound
    exact ⟨labelled.label .tun both, both.rules, both.nodeTags, both.udpOff⟩

/-- The rules of one profile rule, its UDP rejection included. -/
theorem routingRule_labelled {files : BTreeMap String RuleSetFile} {rule : RoutingRule}
    (labelled : b.Labelled made) (done : Builder.routingRule files b rule = .ok b') :
    b'.Labelled (made ++ madeBy (.rule rule.id) b b') ∧ b.Adds b' := by
  simp only [Builder.routingRule] at done
  split at done
  next =>
    cases done
    rw [madeBy_self rfl, List.append_nil]
    exact ⟨labelled, (Builder.Pushes.refl b).toAdds⟩
  next =>
    obtain ⟨out, -, done⟩ := bind_eq_ok.mp done
    obtain ⟨⟨between, action⟩, acted, done⟩ := bind_eq_ok.mp done
    have first := action_pushes (orFailed_eq_ok.mp acted)
    cases done
    cases action.outbound? with
    | none =>
      have pushes := first.trans (push_pushes (.plain
        { out with ruleSet := (rule.matcher.ruleSetIds.filter fun id => files.contains id).map ruleSetTag }
        action))
      exact ⟨labelled.label (.rule rule.id) pushes, pushes.rules, pushes.nodeTags, pushes.udpOff⟩
    | some target =>
      have pushes := first.trans ((rejectUdpBefore_pushes
        { out with ruleSet := (rule.matcher.ruleSetIds.filter fun id => files.contains id).map ruleSetTag }
        target).trans (push_pushes (.plain
          { out with ruleSet := (rule.matcher.ruleSetIds.filter fun id => files.contains id).map ruleSetTag }
          action)))
      exact ⟨labelled.label (.rule rule.id) pushes, pushes.rules, pushes.nodeTags, pushes.udpOff⟩

theorem rules_labelled {files : BTreeMap String RuleSetFile} {rules : List RoutingRule}
    (labelled : b.Labelled made) (done : rules.foldlM (Builder.routingRule files) b = .ok b') :
    ∃ later, ruleOrigins files b rules = .ok (b', later) ∧ b'.Labelled (made ++ later) ∧
      b.Adds b' := by
  induction rules generalizing b made with
  | nil =>
    cases done
    exact ⟨[], rfl, by rwa [List.append_nil], (Builder.Pushes.refl _).toAdds⟩
  | cons rule rules ih =>
    rw [List.foldlM_cons] at done
    obtain ⟨between, first, rest⟩ := bind_eq_ok.mp done
    obtain ⟨labelled', adds⟩ := routingRule_labelled labelled first
    obtain ⟨later, made', whole, adds'⟩ := ih labelled' rest
    refine ⟨madeBy (.rule rule.id) b between ++ later, ?_, ?_, adds.trans adds'⟩
    · simp only [ruleOrigins, bind_eq_ok]
      exact ⟨between, first, _, made', rfl⟩
    · rwa [← List.append_assoc]

/-! ## The nodes -/

/-- The maps as the nodes leave them. -/
structure NodeMaps (tags : Tags) : Prop where
  ruleIds : tags.ruleIds = []
  nodeTags : ∀ id tag, tags.nodeTags[id]? = some tag → tag = nodeTag id

theorem nodeMembers_maps {nodeId : String} {pin : Option String} {i : Nat} {m m' : Members}
    {ingresses : List Ingress} (done : nodeMembers nodeId pin i m ingresses = .ok m') :
    m'.tags.ruleIds = m.tags.ruleIds ∧ m'.tags.nodeTags = m.tags.nodeTags := by
  induction ingresses generalizing i m with
  | nil =>
    cases done
    exact ⟨rfl, rfl⟩
  | cons ingress rest ih =>
    simp only [nodeMembers] at done
    split at done
    next => cases done
    next =>
      split at done
      next => cases done
      next =>
        have kept := ih done
        exact kept

theorem node_maps {tags tags' : Tags} {node : Node} {pin : Option String} {check : HealthCheck}
    {outs : List Outbound} (maps : NodeMaps tags)
    (done : Builder.node tags node pin check = .ok (tags', outs)) : NodeMaps tags' := by
  have named : ∀ id tag, (tags.nodeTags.insert node.id (nodeTag node.id))[id]? = some tag →
      tag = nodeTag id := by
    intro id tag here
    rw [Std.ExtTreeMap.getElem?_insert] at here
    split at here
    next same =>
      cases here
      rw [Std.LawfulEqCmp.compare_eq_iff_eq.mp same]
    next => exact maps.nodeTags id tag here
  simp only [Builder.node] at done
  split at done
  next =>
    obtain ⟨out, -, same⟩ := bind_eq_ok.mp done
    cases same
    exact ⟨maps.ruleIds, named⟩
  next =>
    obtain ⟨m, members, same⟩ := bind_eq_ok.mp done
    cases same
    obtain ⟨ruleIds, nodeTags⟩ := nodeMembers_maps members
    refine ⟨ruleIds.trans maps.ruleIds, ?_⟩
    rw [nodeTags]
    exact named

theorem nodes_maps {pins : BTreeMap String String} {check : HealthCheck} {tags tags' : Tags}
    {nodes : List Node} {outs : List Outbound} (maps : NodeMaps tags)
    (done : Builder.nodes pins check tags nodes = .ok (tags', outs)) : NodeMaps tags' := by
  induction nodes generalizing tags outs with
  | nil =>
    cases done
    exact maps
  | cons node nodes ih =>
    simp only [Builder.nodes] at done
    obtain ⟨⟨between, first⟩, made, done⟩ := bind_eq_ok.mp done
    obtain ⟨⟨last, more⟩, rest, same⟩ := bind_eq_ok.mp done
    cases same
    exact ih (node_maps maps (orFailed_eq_ok.mp made)) rest

theorem outboundsOf_labelled (done : Builder.outboundsOf p o = .ok b) :
    b.Labelled [] ∧ NodeMaps b.tags ∧ b.udpOff = p.udpOff := by
  simp only [Builder.outboundsOf] at done
  obtain ⟨⟨tags, outs⟩, made, done⟩ := bind_eq_ok.mp done
  have start : NodeMaps {} := ⟨rfl, fun id tag here => by simp at here⟩
  have maps := nodes_maps start made
  split at done
  next =>
    cases done
    exact ⟨⟨rfl, maps.ruleIds⟩, maps, rfl⟩
  next => cases done

/-! ## The final action -/

omit [Crates] in
/-- Where all rules are labelled, no other label is given. -/
theorem Builder.Labelled.labelRules (labelled : b.Labelled made) (label : String) :
    (b.labelRules label).tags.ruleIds = made.map fun m => m.1.label := by
  rw [Builder.labelRules]
  dsimp only
  rw [labelled.count, Nat.sub_self, List.replicate_zero, List.append_nil, labelled.ruleIds]

/-- The builder after the final action: all its rules, and their labels unless
the final action's UDP is rejected. -/
structure FinalLabels (b b' : Builder) (made : List (Origin × RouteRule)) (off : Prop) : Prop where
  rules : b'.rules = (made ++ madeBy .final b b').map Prod.snd
  count : b'.tags.ruleIds.length ≤ b'.rules.length
  ruleIds : (b'.labelRules "engine").tags.ruleIds =
    (made ++ madeBy .final b b').map (fun m => m.1.label) ↔ ¬ off

omit [Crates] in
theorem FinalLabels.of_labelled {off : Prop} (labelled : b'.Labelled (made ++ madeBy .final b b'))
    (carried : ¬ off) : FinalLabels b b' made off :=
  ⟨labelled.rules, labelled.count.le, iff_of_true (labelled.labelRules "engine") carried⟩

omit [Crates] in
theorem FinalLabels.of_rules {s : Builder} {off : Prop} (final : FinalLabels s b' made off)
    (same : s.rules = b.rules) : FinalLabels b b' made off := by
  have made_ : madeBy .final b b' = madeBy .final s b' := by rw [madeBy, madeBy, same]
  exact ⟨made_ ▸ final.rules, final.count, made_ ▸ final.ruleIds⟩

omit [Crates] in
/-- A rule more, that is labelled `engine`. -/
theorem FinalLabels.of_unlabelled {off : Prop} {rule : RouteRule} (labelled : b.Labelled made)
    (rules : b'.rules = b.rules ++ [rule]) (ruleIds : b'.tags.ruleIds = b.tags.ruleIds)
    (rejected : off) : FinalLabels b b' made off := by
  have added : madeBy .final b b' = [(.final, rule)] := by
    rw [madeBy, rules, List.drop_left]
    rfl
  refine ⟨?_, ?_, iff_of_false (fun same => ?_) (not_not.mpr rejected)⟩
  · rw [added, rules, List.map_append, labelled.rules]
    rfl
  · rw [ruleIds, labelled.count, rules, List.length_append]
    exact Nat.le_add_right _ _
  · rw [added, List.map_append, ← labelled.ruleIds, Builder.labelRules, ruleIds, rules,
      List.length_append, labelled.count, List.length_singleton, Nat.add_sub_cancel_left] at same
    have last := List.append_cancel_left same
    have differ : "engine" = Origin.final.label := (List.cons.inj last).1
    exact absurd differ (by decide)

/-- Where a proxy target leads. -/
theorem proxyTarget_leads {action : RoutingAction} {target : String}
    (named : ∀ id tag, b.tags.nodeTags[id]? = some tag → tag = nodeTag id)
    (done : b.proxyTarget action = .ok target) :
    target = selectedTag ∧ action.target ≠ "node" ∨
      action.target = "node" ∧ target = nodeTag action.nodeId := by
  rw [Builder.proxyTarget] at done
  split at done
  next selected =>
    cases done
    exact .inl ⟨rfl, by rw [selected]; decide⟩
  next =>
    split at done
    next node => exact .inr ⟨node, named _ _ (orElseError_eq_ok.mp done)⟩
    next => cases done

/-- The UDP of a final action's target is rejected without a label. -/
theorem rejectUdp_labelled {action : RoutingAction} {target : String} (labelled : b.Labelled made)
    (udpOff : b.udpOff = p.udpOff) (proxied : action.kind = "proxy")
    (leads : target = selectedTag ∧ action.target ≠ "node" ∨
      action.target = "node" ∧ target = nodeTag action.nodeId) :
    FinalLabels b (b.rejectUdpBefore {} target) made
      (action.kind = "proxy" ∧ action.target = "node" ∧ nodeTag action.nodeId ∈ p.udpOff) := by
  by_cases off : target ∈ p.udpOff
  · rcases leads with ⟨selected, -⟩ | ⟨node, tag⟩
    · rw [selected] at off
      exact absurd off (selectedTag_notMem_udpOff p)
    · have added : b.rejectUdpBefore {} target = { b with
          noDnsMirror := b.noDnsMirror ++ [b.rules.length]
          rules := b.rules ++ [.plain { network := ["udp"] } .reject] } := by
        rw [Builder.rejectUdpBefore, if_neg (by rw [udpOff]; exact not_not.mpr off), if_neg (by simp)]
      rw [added]
      exact .of_unlabelled labelled rfl rfl ⟨proxied, node, tag ▸ off⟩
  · have same : b.rejectUdpBefore {} target = b := by
      rw [Builder.rejectUdpBefore, if_pos (by rwa [udpOff])]
    rw [same]
    refine .of_labelled ?_ fun rejected => ?_
    · rwa [madeBy_self rfl, List.append_nil]
    · rcases leads with ⟨-, other⟩ | ⟨-, tag⟩
      · exact other rejected.2.1
      · exact off (tag ▸ rejected.2.2)

theorem direct_labelled {action : RoutingAction} (labelled : b.Labelled made)
    (direct : action.kind = "direct") :
    FinalLabels b b.ensureDirect made
      (action.kind = "proxy" ∧ action.target = "node" ∧ nodeTag action.nodeId ∈ p.udpOff) := by
  have same : b.ensureDirect.rules = b.rules :=
    b.ensureDirect_extends.1.rules.trans (List.append_nil _)
  refine .of_labelled ?_ fun rejected => ?_
  · rw [madeBy_self same, List.append_nil]
    exact labelled.same ensureDirect_pushes same
  · rw [direct] at rejected
    exact absurd rejected.1 (by decide)

theorem routing_labelled {files : BTreeMap String RuleSetFile} {routing : Routing}
    {final : Option String} (labelled : b.Labelled made) (udpOff : b.udpOff = p.udpOff)
    (named : ∀ id tag, b.tags.nodeTags[id]? = some tag → tag = nodeTag id)
    (done : b.routing routing files = .ok (b', final)) :
    ∃ ruled later, ruleOrigins files b routing.rules = .ok (ruled, later) ∧
      FinalLabels ruled b' (made ++ later) (routing.finalAction.kind = "proxy" ∧
        routing.finalAction.target = "node" ∧
        nodeTag routing.finalAction.nodeId ∈ p.udpOff) := by
  simp only [Builder.routing] at done
  obtain ⟨ruled, rules, done⟩ := bind_eq_ok.mp done
  obtain ⟨later, made', labelled', adds⟩ := rules_labelled labelled rules
  refine ⟨ruled, later, made', ?_⟩
  -- The copies of the rule sets change no rule.
  have sets : { ruled with ruleSets := ruled.ruleSets ++ ruleSetCopies routing files }.Labelled
      (made ++ later) := ⟨labelled'.rules, labelled'.ruleIds⟩
  split at done
  next direct =>
    cases done
    exact (direct_labelled sets direct).of_rules rfl
  next =>
    split at done
    next proxied =>
      obtain ⟨target, found, done⟩ := bind_eq_ok.mp done
      cases done
      have leads := proxyTarget_leads (fun id tag here => named id tag (adds.nodeTags ▸ here))
        (orFailed_eq_ok.mp found)
      exact (rejectUdp_labelled sets (adds.udpOff.trans udpOff) proxied leads).of_rules rfl
    next =>
      split at done
      next rejected =>
        cases done
        refine .of_labelled (sets.label .final (push_pushes _)) fun off => ?_
        rw [rejected] at off
        exact absurd off.1 (by decide)
      next => cases done

/-! ## The whole translation -/

theorem FinalRejectsUdp_iff : FinalRejectsUdp p o ↔
    (effectiveRouting p o.mode).finalAction.kind = "proxy" ∧
      (effectiveRouting p o.mode).finalAction.target = "node" ∧
      nodeTag (effectiveRouting p o.mode).finalAction.nodeId ∈ p.udpOff := by
  rw [FinalRejectsUdp]
  cases o.mode with
  | rules => simp [effectiveRouting]
  | global => simp [effectiveRouting]

omit [Crates] in
/-- What a finished builder says of its rules. -/
theorem finish_labels {off : Prop} {tags : Tags} (labels : FinalLabels b b' made off)
    (same : tags.ruleIds = b'.tags.ruleIds) (final : Option String) (dns : Option Dns) :
    let t := Builder.finish { b' with tags := tags } o final dns
    t.json.route.rules = (made ++ madeBy .final b b').map Prod.snd ∧
      t.tags.ruleIds.length = t.json.route.rules.length ∧
      (t.tags.ruleIds = (made ++ madeBy .final b b').map (fun m => m.1.label) ↔ ¬ off) := by
  have engine : (Builder.finish { b' with tags := tags } o final dns).tags.ruleIds =
      (b'.labelRules "engine").tags.ruleIds := by
    simp only [Builder.finish, Builder.labelRules, same]
  refine ⟨labels.rules, ?_, ?_⟩
  · have count := labels.count
    rw [engine, Builder.labelRules]
    change (b'.tags.ruleIds ++ List.replicate _ _).length = b'.rules.length
    rw [List.length_append, List.length_replicate]
    omega
  · rw [engine]
    exact labels.ruleIds

/-- One label for each rule; they are those of what made the rules, unless the
final action sends to a fixed node that carries no UDP. -/
theorem translate_labels {t : Translation} (done : translate p o = .ok t) :
    ∃ made, origins p o = .ok made ∧ t.json.route.rules = made.map Prod.snd ∧
      t.tags.ruleIds.length = t.json.route.rules.length ∧
      (t.tags.ruleIds = made.map (fun m => m.1.label) ↔ ¬ FinalRejectsUdp p o) := by
  simp only [translate] at done
  obtain ⟨based, outbounds, done⟩ := bind_eq_ok.mp done
  obtain ⟨listening, listened, done⟩ := bind_eq_ok.mp done
  obtain ⟨⟨finished, final⟩, routed, closed⟩ := bind_eq_ok.mp done
  obtain ⟨start, maps, udpOff⟩ := outboundsOf_labelled outbounds
  obtain ⟨tun, tunAdds⟩ := addTunRules_labelled (p := p) (o := o) start
  simp only [Builder.listeners] at listened
  obtain ⟨proxy, proxied, same⟩ := bind_eq_ok.mp listened
  cases same
  obtain ⟨local_, proxyAdds⟩ := addLocalProxy_labelled tun proxied
  obtain ⟨listeners, inboundAdds⟩ := addInbounds_labelled (p := p) (o := o) local_
  have adds := (tunAdds.trans proxyAdds).trans inboundAdds
  obtain ⟨ruled, later, ruledBy, labels⟩ := routing_labelled listeners (adds.udpOff.trans udpOff)
    (fun id tag here => maps.nodeTags id tag (adds.nodeTags ▸ here)) routed
  rw [← FinalRejectsUdp_iff] at labels
  have traced : origins p o = .ok (madeBy .tun based (based.addTunRules p o) ++
      madeBy .localProxy (based.addTunRules p o) proxy ++
      madeBy .tun proxy ((proxy.addSystemProxy o).addTunInbound p o) ++ later ++
      madeBy .final ruled finished) := by
    simp only [origins, bind_eq_ok]
    exact ⟨based, outbounds, proxy, proxied, _, ruledBy, _, routed, rfl⟩
  refine ⟨_, traced, ?_⟩
  split at closed
  next tun given =>
    obtain ⟨⟨dnsed, dns⟩, sections, same⟩ := bind_eq_ok.mp closed
    cases same
    simp only [Builder.tunDns] at sections
    obtain ⟨locals, -, same⟩ := bind_eq_ok.mp sections
    cases same
    refine finish_labels labels ?_ final (some _)
    cases tun.localDns <;> rfl
  next =>
    cases closed
    exact finish_labels labels rfl final none

end

theorem translate_labels_sample :
    ∃ t made, @translate sampleCrates sampleProfile sampleOptions = .ok t ∧
      @origins sampleCrates sampleProfile sampleOptions = .ok made ∧
      t.json.route.rules = made.map Prod.snd ∧ t.tags.ruleIds = made.map fun m => m.1.label := by
  let _ := sampleCrates
  obtain ⟨t, ok, -⟩ := translate_made (validate_ok sampleProfile_accepted)
    ⟨by decide, by decide⟩ (sampleOptions_admissible true none)
  obtain ⟨made, traced, rules, -, labels⟩ := translate_labels ok
  refine ⟨t, made, ok, traced, rules, labels.mpr fun rejected => ?_⟩
  exact absurd rejected.2.1 (by decide)

/-- The small profile with its second node, which carries no UDP, for all else. -/
def fixedProfile : Profile :=
  { sampleProfile with
    routing := { sampleProfile.routing with finalAction := ⟨"proxy", "node", "b"⟩ } }

/-- What made the last rule, and its label. -/
def lastLabel [Crates] (p : Profile) (o : Options) : Except Error (Option Origin × Option String) := do
  let t ← translate p o
  let made ← origins p o
  return (made.getLast?.map Prod.fst, t.tags.ruleIds.getLast?)

theorem final_mislabelled :
    (@validate sampleCrates fixedProfile 0).isOk = true ∧
      (@lastLabel sampleCrates fixedProfile sampleOptions).toOption =
        some (some .final, some "engine") := by
  decide +kernel

end PpvpnCore
