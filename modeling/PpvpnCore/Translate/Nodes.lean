import PpvpnCore.Profile.Valid
import PpvpnCore.Translate.Translate

/-!
# The nodes' outbounds

What `Builder.nodes` makes of a valid profile: it never fails, its tags are
those of `Node.outTags`, each once, and the tag maps lead back to the nodes.

* `NodeTag`: what a tag of a node's outbounds stands for.
* `TagsInjective`: the truncated digests tell the profile's ids and keys apart.
* `Builder.nodes_made`: the specification of the whole pass.
-/

namespace PpvpnCore

/-! ## Tags as texts -/

/-- What the tag of a node's outbound stands for. -/
inductive NodeTag where
  | node (id : String)
  | auto (id : String)
  | member (id key : String)
  deriving DecidableEq

section

variable [Crates]

def NodeTag.text : NodeTag → String
  | .node id => nodeTag id
  | .auto id => autoTag id
  | .member id key => ingressTag id key

/-- The truncated digests tell the ids and the endpoint keys of `p` apart. -/
structure TagsInjective (p : Profile) : Prop where
  ids : ∀ a ∈ p.nodeIds, ∀ b ∈ p.nodeIds, hexPrefix a 8 = hexPrefix b 8 → a = b
  keys : ∀ a ∈ p.endpointKeys, ∀ b ∈ p.endpointKeys, hexPrefix a 4 = hexPrefix b 4 → a = b

@[simp] theorem length_hexPrefix (value : String) (bytes : Nat) :
    (hexPrefix value bytes).length = 2 * min bytes 32 := by
  have two : ∀ bs : List UInt8, (bs.flatMap hexByte).length = 2 * bs.length := by
    intro bs
    induction bs with
    | nil => rfl
    | cons b bs ih =>
      simp only [List.flatMap_cons, List.length_append, ih, List.length_cons, hexByte,
        List.length_nil]
      omega
  rw [hexPrefix, String.length_ofList, two, List.length_take, Vector.length_toList]

@[simp] theorem length_nodeTag (id : String) : (nodeTag id).length = 21 := by
  rw [nodeTag, String.length_append, length_hexPrefix]
  rfl

@[simp] theorem length_autoTag (id : String) : (autoTag id).length = 26 := by
  rw [autoTag, String.length_append, length_nodeTag]
  rfl

@[simp] theorem length_ingressTag (id key : String) : (ingressTag id key).length = 30 := by
  rw [ingressTag, String.length_append, String.length_append, length_nodeTag, length_hexPrefix]
  rfl

theorem hexPrefix_of_nodeTag {a b : String} (eq : nodeTag a = nodeTag b) :
    hexPrefix a 8 = hexPrefix b 8 :=
  (String.append_right_inj _).mp eq

omit [Crates] in
/-- Two texts whose first parts are equally long have equal parts. -/
theorem append_parts {a b c d : String} (eq : a ++ c = b ++ d) (length : a.length = b.length) :
    a = b ∧ c = d := by
  have lists := congrArg String.toList eq
  rw [String.toList_append, String.toList_append] at lists
  have same : a.toList.length = b.toList.length := by
    rw [String.length_toList, String.length_toList, length]
  obtain ⟨first, second⟩ := List.append_inj lists same
  exact ⟨String.toList_inj.mp first, String.toList_inj.mp second⟩

/-- The id and key, where there is one, that a tag is made from. -/
def NodeTag.Of (p : Profile) : NodeTag → Prop
  | .node id => id ∈ p.nodeIds
  | .auto id => id ∈ p.nodeIds
  | .member id key => id ∈ p.nodeIds ∧ key ∈ p.endpointKeys

theorem NodeTag.text_injective {p : Profile} (inj : TagsInjective p) {a b : NodeTag}
    (ofA : a.Of p) (ofB : b.Of p) (eq : a.text = b.text) : a = b := by
  have lengths := congrArg String.length eq
  cases a with
  | node a =>
    cases b with
    | node b => rw [inj.ids a ofA b ofB (hexPrefix_of_nodeTag eq)]
    | auto _ => simp [NodeTag.text] at lengths
    | member _ _ => simp [NodeTag.text] at lengths
  | auto a =>
    cases b with
    | node _ => simp [NodeTag.text] at lengths
    | auto b =>
      obtain ⟨nodes, _⟩ := append_parts eq (by simp)
      rw [inj.ids a ofA b ofB (hexPrefix_of_nodeTag nodes)]
    | member _ _ => simp [NodeTag.text] at lengths
  | member a key =>
    cases b with
    | node _ => simp [NodeTag.text] at lengths
    | auto _ => simp [NodeTag.text] at lengths
    | member b key' =>
      obtain ⟨nodes, keys⟩ := append_parts eq (by simp [String.length_append])
      obtain ⟨nodes, _⟩ := append_parts nodes (by simp)
      rw [inj.ids a ofA.1 b ofB.1 (hexPrefix_of_nodeTag nodes),
        inj.keys key ofA.2 key' ofB.2 keys]

theorem nodeTag_injective {p : Profile} (inj : TagsInjective p) {a b : String}
    (ofA : a ∈ p.nodeIds) (ofB : b ∈ p.nodeIds) (eq : nodeTag a = nodeTag b) : a = b :=
  inj.ids a ofA b ofB (hexPrefix_of_nodeTag eq)

omit [Crates] in
theorem ne_of_length {a b : String} (ne : a.length ≠ b.length) : a ≠ b := by
  rintro rfl
  exact ne rfl

theorem nodeTag_ne_selectedTag (id : String) : nodeTag id ≠ selectedTag :=
  ne_of_length (by rw [length_nodeTag]; decide)

theorem nodeTag_ne_directTag (id : String) : nodeTag id ≠ directTag :=
  ne_of_length (by rw [length_nodeTag]; decide)

theorem ingressTag_ne_nodeTag (id key other : String) : ingressTag id key ≠ nodeTag other :=
  ne_of_length (by simp)

/-! ## The tags of a node -/

end

/-- The tags of a node's outbounds, in order. -/
def Node.outTags (n : Node) : List NodeTag :=
  match n.ingresses with
  | [_] => [.node n.id]
  | ingresses =>
    .node n.id :: .auto n.id :: ingresses.map fun ingress => .member n.id ingress.endpointKey

theorem Node.mem_outTags {n : Node} {tag : NodeTag} (mem : tag ∈ n.outTags) :
    tag = .node n.id ∨ tag = .auto n.id ∨
      ∃ ingress ∈ n.ingresses, tag = .member n.id ingress.endpointKey := by
  unfold Node.outTags at mem
  split at mem
  · exact .inl (List.mem_singleton.mp mem)
  · simp only [List.mem_cons, List.mem_map] at mem
    rcases mem with eq | eq | ⟨ingress, here, eq⟩
    · exact .inl eq
    · exact .inr (.inl eq)
    · exact .inr (.inr ⟨ingress, here, eq.symm⟩)

theorem Node.node_mem_outTags (n : Node) : NodeTag.node n.id ∈ n.outTags := by
  unfold Node.outTags
  split <;> simp

theorem Node.outTags_of_many {n : Node} (many : ∀ ingress, n.ingresses ≠ [ingress]) :
    n.outTags = .node n.id :: .auto n.id ::
      n.ingresses.map fun ingress => .member n.id ingress.endpointKey := by
  unfold Node.outTags
  split
  next ingress one => exact absurd one (many ingress)
  next => rfl

theorem Node.outTags_nodup {n : Node} (keys : (n.ingresses.map (·.endpointKey)).Nodup) :
    n.outTags.Nodup := by
  unfold Node.outTags
  split
  · exact List.nodup_singleton _
  · have members : (n.ingresses.map fun ingress =>
        NodeTag.member n.id ingress.endpointKey).Nodup := by
      have := keys.map (f := NodeTag.member n.id) (fun a b eq => by cases eq; rfl)
      rwa [List.map_map] at this
    simp [members]

section

variable [Crates]

theorem Profile.Valid.node_keys {p : Profile} (valid : p.Valid) {n : Node} (mem : n ∈ p.nodes) :
    (n.ingresses.map (·.endpointKey)).Nodup := by
  refine valid.endpointKeys.sublist ?_
  rw [Profile.endpointKeys]
  exact (List.sublist_flatten_of_mem (List.mem_map_of_mem mem)).map _

/-- The tags a profile's outbounds stand for come each once. -/
theorem Profile.Valid.outTags_nodup {p : Profile} (valid : p.Valid) :
    (p.nodes.flatMap Node.outTags).Nodup := by
  rw [List.nodup_flatMap]
  refine ⟨fun n mem => Node.outTags_nodup (valid.node_keys mem), ?_⟩
  have ids : p.nodes.Pairwise fun n m => n.id ≠ m.id := List.pairwise_map.mp valid.nodeIds
  refine ids.imp fun {n m} ne tag inN inM => ne ?_
  rcases Node.mem_outTags inN with rfl | rfl | ⟨_, _, rfl⟩ <;>
    rcases Node.mem_outTags inM with eq | eq | ⟨_, _, eq⟩ <;> simp at eq
  · exact eq
  · exact eq
  · exact eq.1

omit [Crates] in
theorem Profile.outTags_of {p : Profile} {tag : NodeTag}
    (mem : tag ∈ p.nodes.flatMap Node.outTags) : tag.Of p := by
  obtain ⟨n, inP, mem⟩ := List.mem_flatMap.mp mem
  have id : n.id ∈ p.nodeIds := List.mem_map_of_mem inP
  rcases Node.mem_outTags mem with rfl | rfl | ⟨ingress, here, rfl⟩
  · exact id
  · exact id
  · exact ⟨id, List.mem_map_of_mem (List.mem_flatMap.mpr ⟨n, inP, here⟩)⟩

/-! ## The outbounds of a node -/

omit [Crates] in
theorem credentialsOf_ok {ingress : Ingress} (given : ingress.HasCredentials) :
    ∃ proxy, credentialsOf ingress = .ok proxy := by
  unfold credentialsOf
  cases given with
  | shadowsocks protocol given =>
    obtain ⟨ss, eq⟩ := Option.isSome_iff_exists.mp given
    exact ⟨_, by rw [if_pos protocol, eq]⟩
  | vless protocol given =>
    obtain ⟨vless, eq⟩ := Option.isSome_iff_exists.mp given
    exact ⟨_, by rw [if_neg (by rw [protocol]; decide), if_pos protocol, eq]⟩
  | anytls protocol given =>
    obtain ⟨anytls, eq⟩ := Option.isSome_iff_exists.mp given
    exact ⟨_, by rw [if_neg (by rw [protocol]; decide), if_neg (by rw [protocol]; decide),
      if_pos protocol, eq]⟩

/-- An outbound that dials a server itself. -/
def Outbound.isProxy : Outbound → Bool
  | .proxy _ _ _ _ _ => true
  | _ => false

omit [Crates] in
theorem outbound_ok {ingress : Ingress} (given : ingress.HasCredentials) (tag : String) :
    ∃ out, outbound ingress tag = .ok out ∧ out.tag = tag ∧ out.isProxy = true := by
  obtain ⟨proxy, eq⟩ := credentialsOf_ok given
  exact ⟨_, by rw [outbound, eq]; rfl, rfl, rfl⟩

omit [Crates] in
/-- Such an outbound names nothing. -/
theorem Outbound.names_of_isProxy {out : Outbound} (proxy : out.isProxy = true) :
    out.refs = [] ∧ ∀ tag resolver, out ≠ .direct tag resolver := by
  cases out <;> simp_all [Outbound.isProxy, Outbound.refs]

/-- The member a pin stands for among the ingresses with `keys`. -/
def pinnedMember (nodeId : String) (pin : Option String) (keys : List String)
    (fallback : String) : String :=
  match pin with
  | some key => if key ∈ keys then ingressTag nodeId key else fallback
  | none => fallback

/-- What the ingresses `rest` of a node add to `m`. -/
structure MembersMade (nodeId : String) (pin : Option String) (rest : List Ingress)
    (m m' : Members) : Prop where
  members : m'.members = m.members ++ rest.map fun i => ingressTag nodeId i.endpointKey
  outbounds : ∃ outs, m'.outbounds = m.outbounds ++ outs ∧
    outs.map Outbound.tag = (rest.map fun i => ingressTag nodeId i.endpointKey) ∧
    ∀ out ∈ outs, out.isProxy = true
  default : m'.default = pinnedMember nodeId pin (rest.map (·.endpointKey)) m.default
  nodeTags : m'.tags.nodeTags = m.tags.nodeTags
  groups : m'.tags.groups = m.tags.groups
  memberMap : m'.tags.members = m.tags.members
  own : ∀ i ∈ rest, m'.tags.outboundNodes[ingressTag nodeId i.endpointKey]? = some nodeId ∧
    m'.tags.ingressKeys[ingressTag nodeId i.endpointKey]? = some i.endpointKey
  others : ∀ t, (∀ i ∈ rest, ingressTag nodeId i.endpointKey ≠ t) →
    m'.tags.outboundNodes[t]? = m.tags.outboundNodes[t]? ∧
      m'.tags.ingressKeys[t]? = m.tags.ingressKeys[t]?

theorem nodeMembers_made (nodeId : String) (pin : Option String) (i : Nat) {m : Members}
    {rest : List Ingress} (credentials : ∀ ingress ∈ rest, ingress.HasCredentials)
    (fresh : ∀ ingress ∈ rest, ingressTag nodeId ingress.endpointKey ∉ m.tags.outboundNodes)
    (nodup : (rest.map fun i => ingressTag nodeId i.endpointKey).Nodup) :
    ∃ m', nodeMembers nodeId pin i m rest = .ok m' ∧ MembersMade nodeId pin rest m m' := by
  induction rest generalizing i m with
  | nil =>
    refine ⟨m, rfl, ?_⟩
    constructor <;> simp [pinnedMember]
    cases pin <;> rfl
  | cons ingress rest ih =>
    simp only [List.forall_mem_cons] at credentials fresh
    rw [List.map_cons, List.nodup_cons] at nodup
    obtain ⟨given, credentials⟩ := credentials
    obtain ⟨new, fresh⟩ := fresh
    obtain ⟨notLater, nodup⟩ := nodup
    obtain ⟨out, made, tag, proxy⟩ := outbound_ok given (ingressTag nodeId ingress.endpointKey)
    have later : ∀ j ∈ rest,
        ingressTag nodeId ingress.endpointKey ≠ ingressTag nodeId j.endpointKey := by
      intro j mem eq
      exact notLater (List.mem_map.mpr ⟨j, mem, eq.symm⟩)
    have absent : m.tags.outboundNodes.contains (ingressTag nodeId ingress.endpointKey) ≠ true :=
      fun present => new (Std.ExtTreeMap.mem_iff_contains.mpr present)
    simp only [nodeMembers, made, if_neg absent]
    obtain ⟨m', eq, spec⟩ := ih (i := i + 1) (m :=
      { tags := { m.tags with
          outboundNodes := m.tags.outboundNodes.insert (ingressTag nodeId ingress.endpointKey) nodeId
          ingressKeys := m.tags.ingressKeys.insert (ingressTag nodeId ingress.endpointKey)
            ingress.endpointKey }
        members := m.members ++ [ingressTag nodeId ingress.endpointKey]
        outbounds := m.outbounds ++ [out]
        default := if pin = some ingress.endpointKey then ingressTag nodeId ingress.endpointKey
          else m.default }) credentials
      (by
        intro j mem
        rw [Std.ExtTreeMap.mem_insert]
        simp only [Std.LawfulEqCmp.compare_eq_iff_eq, not_or]
        exact ⟨later j mem, fresh j mem⟩) nodup
    refine ⟨m', eq, ?_⟩
    obtain ⟨outs, outsEq, tags, proxies⟩ := spec.outbounds
    refine
      { members := by simp [spec.members]
        outbounds := ⟨out :: outs, by simp [outsEq], by rw [List.map_cons, List.map_cons, tag, tags],
          List.forall_mem_cons.mpr ⟨proxy, proxies⟩⟩
        default := ?_
        nodeTags := spec.nodeTags
        groups := spec.groups
        memberMap := spec.memberMap
        own := ?_
        others := ?_ }
    · rw [spec.default]
      cases pin with
      | none => rfl
      | some key =>
        simp only [pinnedMember, List.map_cons, List.mem_cons, Option.some.injEq]
        by_cases here : key = ingress.endpointKey
        · simp [here]
        · simp [here]
    · simp only [List.forall_mem_cons]
      refine ⟨?_, spec.own⟩
      obtain ⟨nodes, keys⟩ := spec.others _ fun j mem => (later j mem).symm
      rw [nodes, keys]
      simp
    · intro t ne
      simp only [List.forall_mem_cons] at ne
      obtain ⟨nodes, keys⟩ := spec.others t ne.2
      rw [nodes, keys]
      simp [Std.ExtTreeMap.getElem?_insert, ne.1]

/-- The outbounds a node becomes, in order. -/
inductive NodeOuts (node : Node) (pin : Option String) (check : HealthCheck) :
    List Outbound → Prop
  | single (ingress : Ingress) (one : node.ingresses = [ingress]) (out : Outbound)
      (tag : out.tag = nodeTag node.id) (proxy : out.isProxy = true) :
      NodeOuts node pin check [out]
  | several (many : ∀ ingress, node.ingresses ≠ [ingress]) (outs : List Outbound)
      (tags : outs.map Outbound.tag = node.ingresses.map fun i => ingressTag node.id i.endpointKey)
      (proxies : ∀ out ∈ outs, out.isProxy = true) :
      NodeOuts node pin check
        (.selector (nodeTag node.id)
            (autoTag node.id :: node.ingresses.map fun i => ingressTag node.id i.endpointKey)
            (pinnedMember node.id pin (node.ingresses.map (·.endpointKey)) (autoTag node.id)) ::
          .fallback (autoTag node.id)
            (node.ingresses.map fun i => ingressTag node.id i.endpointKey) check :: outs)

theorem NodeOuts.tags {node : Node} {pin : Option String} {check : HealthCheck}
    {outs : List Outbound} (made : NodeOuts node pin check outs) :
    outs.map Outbound.tag = node.outTags.map NodeTag.text := by
  cases made with
  | single ingress one out tag proxy => simp [Node.outTags, one, NodeTag.text, tag]
  | several many outs tags proxies =>
    rw [List.map_cons, List.map_cons, tags, Node.outTags_of_many many]
    simp [Outbound.tag, NodeTag.text]

theorem pinnedMember_mem (nodeId : String) (pin : Option String) (keys : List String)
    (fallback : String) :
    pinnedMember nodeId pin keys fallback ∈ fallback :: keys.map (ingressTag nodeId) := by
  cases pin with
  | none => simp [pinnedMember]
  | some key =>
    simp only [pinnedMember]
    split
    next mem => exact List.mem_cons_of_mem _ (List.mem_map_of_mem mem)
    next => exact List.mem_cons_self

/-- A node's outbounds name each other alone. -/
theorem NodeOuts.refs {node : Node} {pin : Option String} {check : HealthCheck}
    {outs : List Outbound} (made : NodeOuts node pin check outs) {out : Outbound}
    (mem : out ∈ outs) :
    (∀ t ∈ out.refs, t ∈ outs.map Outbound.tag) ∧ ∀ tag resolver, out ≠ .direct tag resolver := by
  rw [made.tags]
  have proxyRefs (proxy : out.isProxy = true) :
      (∀ t ∈ out.refs, t ∈ node.outTags.map NodeTag.text) ∧
        ∀ tag resolver, out ≠ .direct tag resolver := by
    obtain ⟨none_, notDirect⟩ := Outbound.names_of_isProxy proxy
    rw [none_]
    exact ⟨by simp, notDirect⟩
  cases made with
  | single ingress one only tag proxy =>
    cases List.mem_singleton.mp mem
    exact proxyRefs proxy
  | several many outs tags proxies =>
    have own := Node.outTags_of_many many
    have members : ∀ t ∈ node.ingresses.map fun i => ingressTag node.id i.endpointKey,
        t ∈ node.outTags.map NodeTag.text := by
      intro t mem
      obtain ⟨ingress, here, rfl⟩ := List.mem_map.mp mem
      rw [own]
      refine List.mem_map.mpr ⟨.member node.id ingress.endpointKey, ?_, rfl⟩
      simp only [List.mem_cons, List.mem_map]
      exact .inr (.inr ⟨ingress, here, rfl⟩)
    have auto : autoTag node.id ∈ node.outTags.map NodeTag.text :=
      List.mem_map.mpr ⟨.auto node.id, by simp [own], rfl⟩
    simp only [List.mem_cons] at mem
    rcases mem with rfl | rfl | mem
    · refine ⟨?_, by simp⟩
      simp only [Outbound.refs, List.forall_mem_cons]
      refine ⟨?_, auto, members⟩
      have here := pinnedMember_mem node.id pin (node.ingresses.map (·.endpointKey))
        (autoTag node.id)
      rw [List.map_map] at here
      rcases List.mem_cons.mp here with eq | mem
      · rw [eq]
        exact auto
      · exact members _ mem
    · exact ⟨members, by simp⟩
    · exact proxyRefs (proxies out mem)

/-- What a node adds to the tag maps. -/
structure NodeMade (node : Node) (tags tags' : Tags) : Prop where
  nodeTags : tags'.nodeTags = tags.nodeTags.insert node.id (nodeTag node.id)
  own : ∀ tag ∈ node.outTags, tag ≠ .auto node.id → tags'.outboundNodes[tag.text]? = some node.id
  others : ∀ t, (∀ tag ∈ node.outTags, tag.text ≠ t) →
    tags'.outboundNodes[t]? = tags.outboundNodes[t]? ∧ tags'.groups[t]? = tags.groups[t]? ∧
      tags'.members[t]? = tags.members[t]? ∧ tags'.ingressKeys[t]? = tags.ingressKeys[t]?
  group : (∀ ingress, node.ingresses ≠ [ingress]) →
    tags'.groups[nodeTag node.id]? = some (autoTag node.id) ∧
      tags'.members[nodeTag node.id]? =
        some (node.ingresses.map fun i => ingressTag node.id i.endpointKey) ∧
      ∀ i ∈ node.ingresses,
        tags'.ingressKeys[ingressTag node.id i.endpointKey]? = some i.endpointKey
  noGroup : (∃ ingress, node.ingresses = [ingress]) →
    tags'.groups[nodeTag node.id]? = tags.groups[nodeTag node.id]?

theorem Builder.node_made {tags : Tags} {node : Node} (pin : Option String) (check : HealthCheck)
    (credentials : ∀ ingress ∈ node.ingresses, ingress.HasCredentials)
    (fresh : ∀ tag ∈ node.outTags, tag.text ∉ tags.outboundNodes)
    (nodup : (node.outTags.map NodeTag.text).Nodup) :
    ∃ tags' outs, Builder.node tags node pin check = .ok (tags', outs) ∧
      NodeMade node tags tags' ∧ NodeOuts node pin check outs := by
  by_cases one : ∃ ingress, node.ingresses = [ingress]
  · obtain ⟨ingress, one⟩ := one
    obtain ⟨out, made, tag, proxy⟩ := outbound_ok (credentials ingress (by simp [one]))
      (nodeTag node.id)
    refine ⟨_, [out], by simp only [Builder.node, one, made]; rfl, ?_, .single ingress one out tag
      proxy⟩
    constructor
    · rfl
    · intro tag mem _
      simp only [Node.outTags, one, List.mem_singleton] at mem
      subst mem
      simp [NodeTag.text]
    · intro t ne
      have ne : nodeTag node.id ≠ t := ne (.node node.id) node.node_mem_outTags
      simp [Std.ExtTreeMap.getElem?_insert, ne]
    · intro many
      exact absurd one (many ingress)
    · exact fun _ => rfl
  · have many : ∀ ingress, node.ingresses ≠ [ingress] := fun ingress eq => one ⟨ingress, eq⟩
    have own := Node.outTags_of_many many
    rw [own] at fresh nodup
    simp only [List.forall_mem_cons, List.forall_mem_map] at fresh
    simp only [List.map_cons, List.map_map, List.nodup_cons] at nodup
    obtain ⟨m, made, spec⟩ := nodeMembers_made node.id pin 0
      (m := ⟨{ tags with
        nodeTags := tags.nodeTags.insert node.id (nodeTag node.id)
        outboundNodes := tags.outboundNodes.insert (nodeTag node.id) node.id }, [], [],
        autoTag node.id⟩) credentials
      (by
        intro ingress mem
        simp only [Std.ExtTreeMap.mem_insert, Std.LawfulEqCmp.compare_eq_iff_eq, not_or]
        exact ⟨(ingressTag_ne_nodeTag _ _ _).symm, fresh.2.2 ingress mem⟩) nodup.2.2
    obtain ⟨outs, outsEq, outTags, proxies⟩ := spec.outbounds
    have members := spec.members
    rw [List.nil_append] at outsEq members
    refine ⟨{ m.tags with
        groups := m.tags.groups.insert (nodeTag node.id) (autoTag node.id)
        members := m.tags.members.insert (nodeTag node.id) m.members }, _, ?_, ?_,
      .several many outs outTags proxies⟩
    · unfold Builder.node
      split
      next ingress eq => exact absurd eq (many ingress)
      next =>
        simp only [bind_eq_ok]
        refine ⟨m, made, ?_⟩
        rw [members, outsEq, spec.default]
        rfl
    · have apart : ∀ i ∈ node.ingresses, ingressTag node.id i.endpointKey ≠ nodeTag node.id :=
        fun i _ => ingressTag_ne_nodeTag _ _ _
      constructor
      · exact spec.nodeTags
      · intro tag mem notAuto
        rw [own] at mem
        simp only [List.mem_cons, List.mem_map] at mem
        rcases mem with rfl | rfl | ⟨ingress, here, rfl⟩
        · rw [NodeTag.text, (spec.others _ apart).1]
          simp
        · exact absurd rfl notAuto
        · exact (spec.own ingress here).1
      · intro t ne
        rw [own] at ne
        simp only [List.forall_mem_cons, List.forall_mem_map] at ne
        obtain ⟨notNode, _, notMember⟩ := ne
        obtain ⟨nodes, keys⟩ := spec.others t notMember
        have notNode : nodeTag node.id ≠ t := notNode
        simp [nodes, keys, spec.groups, spec.memberMap, Std.ExtTreeMap.getElem?_insert, notNode]
      · intro _
        refine ⟨by simp, by simp [members], fun i mem => (spec.own i mem).2⟩
      · rintro ⟨ingress, eq⟩
        exact absurd eq (many ingress)

/-! ## All nodes -/

/-- What a whole pass over `nodes` makes. -/
structure NodesMade (pins : BTreeMap String String) (check : HealthCheck) (nodes : List Node)
    (tags tags' : Tags) (outs : List Outbound) : Prop where
  outbounds : ∃ parts, outs = parts.flatten ∧
    List.Forall₂ (fun n part => NodeOuts n pins[n.id]? check part) nodes parts
  nodeTags : ∀ id, tags'.nodeTags[id]? =
    if id ∈ nodes.map (·.id) then some (nodeTag id) else tags.nodeTags[id]?
  own : ∀ n ∈ nodes, ∀ tag ∈ n.outTags, tag ≠ .auto n.id →
    tags'.outboundNodes[tag.text]? = some n.id
  group : ∀ n ∈ nodes, (∀ ingress, n.ingresses ≠ [ingress]) →
    tags'.groups[nodeTag n.id]? = some (autoTag n.id) ∧
      tags'.members[nodeTag n.id]? =
        some (n.ingresses.map fun i => ingressTag n.id i.endpointKey) ∧
      ∀ i ∈ n.ingresses, tags'.ingressKeys[ingressTag n.id i.endpointKey]? = some i.endpointKey
  noGroup : ∀ n ∈ nodes, (∃ ingress, n.ingresses = [ingress]) →
    tags'.groups[nodeTag n.id]? = tags.groups[nodeTag n.id]?
  others : ∀ t, (∀ n ∈ nodes, ∀ tag ∈ n.outTags, tag.text ≠ t) →
    tags'.outboundNodes[t]? = tags.outboundNodes[t]? ∧ tags'.groups[t]? = tags.groups[t]? ∧
      tags'.members[t]? = tags.members[t]? ∧ tags'.ingressKeys[t]? = tags.ingressKeys[t]?

theorem Builder.nodes_made (pins : BTreeMap String String) (check : HealthCheck) (tags : Tags)
    {nodes : List Node}
    (credentials : ∀ n ∈ nodes, ∀ ingress ∈ n.ingresses, ingress.HasCredentials)
    (fresh : ∀ n ∈ nodes, ∀ tag ∈ n.outTags, tag.text ∉ tags.outboundNodes)
    (nodup : ((nodes.flatMap Node.outTags).map NodeTag.text).Nodup) :
    ∃ tags' outs, Builder.nodes pins check tags nodes = .ok (tags', outs) ∧
      NodesMade pins check nodes tags tags' outs := by
  induction nodes generalizing tags with
  | nil => exact ⟨tags, [], rfl, by constructor <;> simp⟩
  | cons node rest ih =>
    rw [List.flatMap_cons, List.map_append, List.nodup_append] at nodup
    obtain ⟨nodup, restNodup, disjoint⟩ := nodup
    simp only [List.forall_mem_cons] at credentials fresh
    obtain ⟨between, outs, first, tagsMade, outsMade⟩ :=
      Builder.node_made pins[node.id]? check credentials.1 fresh.1 nodup
    have apart : ∀ n ∈ rest, ∀ tag ∈ n.outTags, ∀ own ∈ node.outTags, own.text ≠ tag.text := by
      intro n mem tag inN own inNode
      exact disjoint _ (List.mem_map_of_mem inNode) _
        (List.mem_map_of_mem (List.mem_flatMap.mpr ⟨n, mem, inN⟩))
    have stillFresh : ∀ n ∈ rest, ∀ tag ∈ n.outTags, tag.text ∉ between.outboundNodes := by
      intro n mem tag inN
      have same := (tagsMade.others tag.text (apart n mem tag inN)).1
      have absent := fresh.2 n mem tag inN
      rw [← Std.ExtTreeMap.isSome_getElem?_iff_mem] at absent ⊢
      rwa [same]
    obtain ⟨tags', more, later, spec⟩ := ih _ credentials.2 stillFresh restNodup
    obtain ⟨parts, moreEq, partsMade⟩ := spec.outbounds
    have unchanged : ∀ tag ∈ node.outTags, tags'.outboundNodes[tag.text]? =
        between.outboundNodes[tag.text]? ∧ tags'.groups[tag.text]? = between.groups[tag.text]? ∧
        tags'.members[tag.text]? = between.members[tag.text]? ∧
        tags'.ingressKeys[tag.text]? = between.ingressKeys[tag.text]? := by
      intro tag mem
      exact spec.others _ fun n inRest other inN => (apart n inRest other inN tag mem).symm
    refine ⟨tags', outs ++ more, ?_, ?_⟩
    · simp only [Builder.nodes, bind_eq_ok, orFailed_eq_ok]
      exact ⟨_, first, _, later, rfl⟩
    · refine
        { outbounds := ⟨outs :: parts, by simp [moreEq], .cons outsMade partsMade⟩
          nodeTags := ?_
          own := ?_
          group := ?_
          noGroup := ?_
          others := ?_ }
      · intro id
        rw [spec.nodeTags, tagsMade.nodeTags, Std.ExtTreeMap.getElem?_insert]
        by_cases later : id ∈ rest.map (·.id)
        · simp [later]
        · by_cases here : node.id = id
          · simp [here, later]
          · simp [here, later, Ne.symm here]
      · simp only [List.forall_mem_cons]
        refine ⟨fun tag mem notAuto => ?_, spec.own⟩
        rw [(unchanged tag mem).1]
        exact tagsMade.own tag mem notAuto
      · simp only [List.forall_mem_cons]
        refine ⟨fun many => ?_, spec.group⟩
        obtain ⟨group, members, keys⟩ := tagsMade.group many
        have whole := unchanged (.node node.id) node.node_mem_outTags
        refine ⟨whole.2.1.trans group, whole.2.2.1.trans members, fun i mem => ?_⟩
        have inTags : NodeTag.member node.id i.endpointKey ∈ node.outTags := by
          rw [Node.outTags_of_many many]
          simp only [List.mem_cons, List.mem_map]
          exact .inr (.inr ⟨i, mem, rfl⟩)
        exact (unchanged _ inTags).2.2.2.trans (keys i mem)
      · simp only [List.forall_mem_cons]
        refine ⟨fun one => ?_, fun n mem one => ?_⟩
        · rw [← tagsMade.noGroup one]
          exact (unchanged (.node node.id) node.node_mem_outTags).2.1
        · rw [spec.noGroup n mem one]
          exact (tagsMade.others _ (apart n mem _ n.node_mem_outTags)).2.1
      · intro t ne
        simp only [List.forall_mem_cons] at ne
        obtain ⟨a, b, c, d⟩ := spec.others t ne.2
        obtain ⟨a', b', c', d'⟩ := tagsMade.others t ne.1
        exact ⟨a.trans a', b.trans b', c.trans c', d.trans d'⟩

end

end PpvpnCore
