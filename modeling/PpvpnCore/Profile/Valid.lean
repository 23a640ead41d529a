import PpvpnCore.Profile.Validate

/-!
# What an accepted profile is

`Profile.Valid` says what every later stage may rely on: ids and endpoint
keys without repetition, credentials for each ingress's protocol, rules whose
texts parse and whose references exist. `validate_ok` is the one place the
checks are unfolded.
-/

namespace PpvpnCore

open Lib

/-! ## The properties -/

/-- The ingress has the credentials of its protocol. -/
inductive Ingress.HasCredentials (ingress : Ingress) : Prop
  | shadowsocks (protocol : ingress.protocol = "shadowsocks")
      (given : ingress.credentials.shadowsocks.isSome)
  | vless (protocol : ingress.protocol = "vless") (given : ingress.credentials.vless.isSome)
  | anytls (protocol : ingress.protocol = "anytls") (given : ingress.credentials.anytls.isSome)

/-- The four actions a rule may have. -/
inductive RoutingAction.Valid (nodeIds : List String) : RoutingAction → Prop
  | direct : Valid nodeIds ⟨"direct", "", ""⟩
  | reject : Valid nodeIds ⟨"reject", "", ""⟩
  | selected : Valid nodeIds ⟨"proxy", "selected", ""⟩
  | node (id : String) (exists_ : id ∈ nodeIds) : Valid nodeIds ⟨"proxy", "node", id⟩

theorem RoutingAction.Valid.eq {nodeIds : List String} {action : RoutingAction}
    (valid : action.Valid nodeIds) :
    action = ⟨"direct", "", ""⟩ ∨ action = ⟨"reject", "", ""⟩ ∨
      action = ⟨"proxy", "selected", ""⟩ ∨ ∃ id ∈ nodeIds, action = ⟨"proxy", "node", id⟩ := by
  cases valid with
  | direct => exact .inl rfl
  | reject => exact .inr (.inl rfl)
  | selected => exact .inr (.inr (.inl rfl))
  | node id exists_ => exact .inr (.inr (.inr ⟨id, exists_, rfl⟩))

structure RoutingMatch.Valid [Crates] (m : RoutingMatch) : Prop where
  notEmpty : m.isEmpty = false
  domains : ∀ value ∈ m.domains, ∃ domain, normalizeDomain value = some domain
  suffixes : ∀ value ∈ m.domainSuffixes, ∃ domain, normalizeDomain value = some domain
  cidrs : ∀ value ∈ m.ipCidrs, ∃ p, parsePrefix value.toList = some p
  protocols : ∀ protocol ∈ m.protocols, protocol = "tcp" ∨ protocol = "udp"
  portRanges : ∀ value ∈ m.portRanges, ∃ range, parsePortRange value.toList = .ok range

structure RoutingRule.Valid [Crates] (nodeIds ruleSetIds : List String) (rule : RoutingRule) :
    Prop where
  matcher : rule.matcher.Valid
  ruleSets : ∀ id ∈ rule.matcher.ruleSetIds, id ∈ ruleSetIds
  action : rule.action.Valid nodeIds

/-- Every endpoint key of the profile, in order. -/
def Profile.endpointKeys (p : Profile) : List String :=
  (p.nodes.flatMap Node.ingresses).map (·.endpointKey)

def Profile.nodeIds (p : Profile) : List String := p.nodes.map (·.id)

def Routing.ruleSetIds (r : Routing) : List String := r.ruleSets.map (·.id)

structure Profile.Valid [Crates] (p : Profile) : Prop where
  nodes : p.nodes ≠ []
  nodeIds : p.nodeIds.Nodup
  idText : ∀ n ∈ p.nodes, n.id ≠ ""
  ingresses : ∀ n ∈ p.nodes, n.ingresses ≠ []
  endpointKeys : p.endpointKeys.Nodup
  credentials : ∀ n ∈ p.nodes, ∀ ingress ∈ n.ingresses, ingress.HasCredentials
  default : p.selection.defaultNodeId ∈ p.nodeIds
  ruleSets : p.routing.ruleSetIds.Nodup
  rules : ∀ rule ∈ p.routing.rules, rule.Valid p.nodeIds p.routing.ruleSetIds
  final : p.routing.finalAction.Valid p.nodeIds

/-! ## Ingresses and nodes -/

section

variable [Crates]

theorem validateCredentials_ok {ingress : Ingress} {base : String}
    (ok : validateCredentials ingress base = .ok ()) : ingress.HasCredentials := by
  simp only [validateCredentials, bind_eq_ok, check_eq_ok] at ok
  obtain ⟨_, _, ok⟩ := ok
  split at ok
  next protocol =>
    refine .shadowsocks protocol ?_
    unfold validateShadowsocks at ok
    cases given : ingress.credentials.shadowsocks with
    | none => simp [given] at ok
    | some _ => rfl
  next =>
    split at ok
    next protocol =>
      simp only [validateVless, bind_eq_ok, check_eq_ok] at ok
      obtain ⟨_, given, _⟩ := ok
      refine .vless protocol ?_
      cases found : ingress.credentials.vless with
      | none => simp [found] at given
      | some _ => rfl
    next =>
      split at ok
      next protocol =>
        simp only [validateAnyTls, bind_eq_ok, check_eq_ok] at ok
        obtain ⟨_, given, _⟩ := ok
        refine .anytls protocol ?_
        cases found : ingress.credentials.anytls with
        | none => simp [found] at given
        | some _ => rfl
      next => cases ok

theorem validateIngress_ok {ingress : Ingress} {base : String}
    (ok : validateIngress ingress base = .ok ()) : ingress.HasCredentials := by
  simp only [validateIngress, bind_eq_ok, check_eq_ok] at ok
  obtain ⟨_, _, _, _, _, _, _, credentials, _⟩ := ok
  exact validateCredentials_ok credentials

/-- The keys are those seen before and the ingresses' own, each new. -/
theorem validateIngressesFrom_ok {base : String} {i : Nat} {before : Option Int}
    {ingresses : List Ingress} {keys all : List String}
    (ok : validateIngressesFrom base i before ingresses keys = .ok all) :
    (∀ ingress ∈ ingresses, ∃ field, validateIngress ingress field = .ok ()) ∧
      all = (ingresses.map (·.endpointKey)).reverse ++ keys ∧
      (keys.Nodup → all.Nodup) := by
  induction ingresses generalizing i before keys with
  | nil =>
    cases ok
    simp
  | cons ingress rest ih =>
    simp only [validateIngressesFrom, bind_eq_ok, check_eq_ok] at ok
    obtain ⟨_, _, _, _, _, fresh, _, _, _, _, _, _, _, first, later⟩ := ok
    obtain ⟨each, eq, nodup⟩ := ih later
    refine ⟨?_, by simp [eq], fun old => nodup (List.nodup_cons.mpr ⟨fresh, old⟩)⟩
    intro other mem
    rcases List.mem_cons.mp mem with rfl | mem
    · exact ⟨_, first⟩
    · exact each other mem

theorem validateNode_ok {i : Nat} {n : Node} {ids keys all : List String}
    (ok : validateNode i n ids keys = .ok all) :
    n.id ≠ "" ∧ n.id ∉ ids ∧ n.ingresses ≠ [] ∧
      (∀ ingress ∈ n.ingresses, ∃ field, validateIngress ingress field = .ok ()) ∧
      all = (n.ingresses.map (·.endpointKey)).reverse ++ keys ∧ (keys.Nodup → all.Nodup) := by
  simp only [validateNode, validateIngresses, bind_eq_ok, check_eq_ok] at ok
  obtain ⟨_, stable, _, fresh, _, _, _, _, _, _, _, some_, _, _, _, from_, _, _, last⟩ := ok
  cases last
  obtain ⟨each, eq, nodup⟩ := validateIngressesFrom_ok from_
  refine ⟨?_, fresh, some_, each, eq, nodup⟩
  intro empty
  rw [empty] at stable
  simp [stableId] at stable

/-- The ids and keys are those seen before and the nodes' own, each new. -/
theorem validateNodes_ok {i : Nat} {nodes : List Node} {ids keys ids' keys' : List String}
    (ok : validateNodes i nodes ids keys = .ok (ids', keys')) :
    (∀ n ∈ nodes, n.id ≠ "" ∧ n.ingresses ≠ [] ∧
        ∀ ingress ∈ n.ingresses, ∃ field, validateIngress ingress field = .ok ()) ∧
      ids' = (nodes.map (·.id)).reverse ++ ids ∧
      keys' = ((nodes.flatMap Node.ingresses).map (·.endpointKey)).reverse ++ keys ∧
      (ids.Nodup → ids'.Nodup) ∧ (keys.Nodup → keys'.Nodup) := by
  induction nodes generalizing i ids keys with
  | nil =>
    cases ok
    simp
  | cons n nodes ih =>
    simp only [validateNodes, bind_eq_ok] at ok
    obtain ⟨between, first, later⟩ := ok
    obtain ⟨text, fresh, some_, each, eq, nodup⟩ := validateNode_ok first
    obtain ⟨rest, idsEq, keysEq, idsNodup, keysNodup⟩ := ih later
    refine ⟨?_, by simp [idsEq], by simp [keysEq, eq], ?_, fun old => keysNodup (nodup old)⟩
    · intro other mem
      rcases List.mem_cons.mp mem with rfl | mem
      · exact ⟨text, some_, each⟩
      · exact rest other mem
    · exact fun old => idsNodup (List.nodup_cons.mpr ⟨fresh, old⟩)

/-! ## Rules -/

theorem validateDomains_ok {field : String} {i : Nat} {values seen : List String}
    (ok : validateDomains field i values seen = .ok ()) :
    ∀ value ∈ values, ∃ domain, normalizeDomain value = some domain := by
  induction values generalizing i seen with
  | nil => simp
  | cons value values ih =>
    simp only [validateDomains, bind_eq_ok, check_eq_ok] at ok
    obtain ⟨_, _, ok⟩ := ok
    split at ok
    next => cases ok
    next domain parsed =>
      simp only [bind_eq_ok] at ok
      obtain ⟨_, _, later⟩ := ok
      simp only [List.forall_mem_cons]
      exact ⟨⟨domain, parsed⟩, ih later⟩

omit [Crates] in
theorem validateCidrs_ok {field : String} {i : Nat} {values : List String} {seen : List Prefix}
    (ok : validateCidrs field i values seen = .ok ()) :
    ∀ value ∈ values, ∃ p, parsePrefix value.toList = some p := by
  induction values generalizing i seen with
  | nil => simp
  | cons value values ih =>
    simp only [validateCidrs] at ok
    split at ok
    next => cases ok
    next p parsed =>
      simp only [bind_eq_ok] at ok
      obtain ⟨_, _, later⟩ := ok
      simp only [List.forall_mem_cons]
      exact ⟨⟨p, parsed⟩, ih later⟩

omit [Crates] in
theorem validateProtocols_ok {field : String} {i : Nat} {protocols seen : List String}
    (ok : validateProtocols field i protocols seen = .ok ()) :
    ∀ protocol ∈ protocols, protocol = "tcp" ∨ protocol = "udp" := by
  induction protocols generalizing i seen with
  | nil => simp
  | cons protocol protocols ih =>
    simp only [validateProtocols, bind_eq_ok, check_eq_ok] at ok
    obtain ⟨_, known, _, _, later⟩ := ok
    simp only [List.forall_mem_cons]
    exact ⟨known, ih later⟩

omit [Crates] in
theorem validatePortRanges_ok {field : String} {i : Nat} {values : List String}
    {seen : List (UInt16 × UInt16)} (ok : validatePortRanges field i values seen = .ok ()) :
    ∀ value ∈ values, ∃ range, parsePortRange value.toList = .ok range := by
  induction values generalizing i seen with
  | nil => simp
  | cons value values ih =>
    simp only [validatePortRanges, bind_eq_ok, orInvalid_eq_ok] at ok
    obtain ⟨range, parsed, _, _, later⟩ := ok
    simp only [List.forall_mem_cons]
    exact ⟨⟨range, parsed⟩, ih later⟩

theorem validateMatch_ok {m : RoutingMatch} {field : String}
    (ok : validateMatch m field = .ok ()) : m.Valid := by
  simp only [validateMatch, bind_eq_ok, check_eq_ok] at ok
  obtain ⟨_, notEmpty, _, domains, _, suffixes, _, cidrs, _, protocols, _, _, ranges⟩ := ok
  exact ⟨notEmpty, validateDomains_ok domains, validateDomains_ok suffixes,
    validateCidrs_ok cidrs, validateProtocols_ok protocols, validatePortRanges_ok ranges⟩

omit [Crates] in
theorem validateAction_ok {action : RoutingAction} {nodeIds : List String} {field : String}
    (ok : validateAction action nodeIds field = .ok ()) : action.Valid nodeIds := by
  obtain ⟨kind, target, nodeId⟩ := action
  simp only [validateAction] at ok
  split at ok
  next plain =>
    simp only [check_eq_ok] at ok
    obtain ⟨rfl, rfl⟩ := ok
    rcases plain with rfl | rfl
    · exact .direct
    · exact .reject
  next =>
    split at ok
    next proxy =>
      subst proxy
      split at ok
      next selected =>
        simp only [check_eq_ok] at ok
        subst selected ok
        exact .selected
      next =>
        split at ok
        next node =>
          simp only [check_eq_ok] at ok
          subst node
          exact .node nodeId ok
        next => cases ok
    next => cases ok

theorem validateRules_ok {nodeIds ruleSetIds seen : List String} {i : Nat}
    {rules : List RoutingRule} (ok : validateRules nodeIds ruleSetIds i rules seen = .ok ()) :
    ∀ rule ∈ rules, rule.Valid nodeIds ruleSetIds := by
  induction rules generalizing i seen with
  | nil => simp
  | cons rule rules ih =>
    simp only [validateRules, bind_eq_ok, check_eq_ok] at ok
    obtain ⟨_, _, _, _, _, matcher, _, refs, _, action, later⟩ := ok
    simp only [List.forall_mem_cons]
    exact ⟨⟨validateMatch_ok matcher, validateRuleSetRefs_mem refs, validateAction_ok action⟩,
      ih later⟩

/-! ## The profile -/

omit [Crates] in
theorem RoutingAction.Valid.mono {ids ids' : List String} {action : RoutingAction}
    (valid : action.Valid ids) (sub : ids ⊆ ids') : action.Valid ids' := by
  cases valid with
  | direct => exact .direct
  | reject => exact .reject
  | selected => exact .selected
  | node id exists_ => exact .node id (sub exists_)

theorem validate_ok {p : Profile} {now : Int} (ok : validate p now = .ok ()) : p.Valid := by
  simp only [validate, validateRouting, validateRuleSets, bind_eq_ok, check_eq_ok] at ok
  obtain ⟨_, _, _, _, _, _, _, _, _, some_, ⟨ids, keys⟩, nodes, _, default, _, _, sets, ⟨_, _,
    declared⟩, _, rules, final⟩ := ok
  obtain ⟨each, idsEq, keysEq, idsNodup, keysNodup⟩ := validateNodes_ok nodes
  have known : ids ⊆ p.nodeIds := by
    intro id mem
    simpa [idsEq, Profile.nodeIds] using mem
  have setIds : sets ⊆ p.routing.ruleSetIds := by
    intro id mem
    simpa [Routing.ruleSetIds] using ((validateRuleSetsFrom_ok declared List.nodup_nil).2 id).mp mem
  refine
    { nodes := some_
      nodeIds := by simpa [idsEq, Profile.nodeIds] using idsNodup List.nodup_nil
      idText := fun n mem => (each n mem).1
      ingresses := fun n mem => (each n mem).2.1
      endpointKeys := by simpa [keysEq, Profile.endpointKeys] using keysNodup List.nodup_nil
      credentials := by
        intro n mem ingress among
        obtain ⟨_, ok⟩ := (each n mem).2.2 ingress among
        exact validateIngress_ok ok
      default := known default
      ruleSets := (validateRuleSetsFrom_nodup declared).1
      rules := fun rule mem => ?_
      final := (validateAction_ok final).mono known }
  obtain ⟨matcher, refs, action⟩ := validateRules_ok rules rule mem
  exact ⟨matcher, fun id here => setIds (refs id here), action.mono known⟩

/-- Every ingress was looked at. -/
theorem validate_ingress {p : Profile} {now : Int} (ok : validate p now = .ok ()) :
    ∀ ingress ∈ p.nodes.flatMap Node.ingresses,
      ∃ field, validateIngress ingress field = .ok () := by
  simp only [validate, bind_eq_ok, check_eq_ok] at ok
  obtain ⟨_, _, _, _, _, _, _, _, _, _, ⟨ids, keys⟩, nodes, _⟩ := ok
  intro ingress mem
  obtain ⟨n, among, inner⟩ := List.mem_flatMap.1 mem
  exact ((validateNodes_ok nodes).1 n among).2.2 ingress inner

end

/-! ## A small profile

Two nodes, one of them with two ingresses and no UDP; the digests are those
of SHA-256. -/

def sampleDigest (value : String) : List Nat :=
  if value = "a" then
    [202, 151, 129, 18, 202, 27, 189, 202, 250, 194, 49, 179, 154, 35, 220, 77, 167, 134, 239,
    248, 20, 124, 78, 114, 185, 128, 119, 133, 175, 238, 72, 187]
  else if value = "b" then
    [62, 35, 232, 22, 0, 57, 89, 74, 51, 137, 79, 101, 100, 225, 177, 52, 139, 189, 122, 0, 136,
    212, 44, 74, 203, 115, 238, 174, 213, 156, 0, 157]
  else if value = "a-1" then
    [47, 143, 230, 58, 98, 36, 50, 29, 229, 208, 162, 76, 243, 0, 103, 211, 122, 53, 135, 6, 177,
    237, 56, 176, 21, 40, 42, 182, 141, 198, 154, 233]
  else if value = "b-1" then
    [62, 73, 158, 117, 38, 32, 198, 169, 14, 213, 154, 32, 10, 24, 19, 36, 17, 4, 91, 165, 14,
    160, 108, 118, 103, 62, 205, 83, 41, 142, 81, 81]
  else if value = "b-2" then
    [119, 193, 0, 84, 1, 189, 79, 209, 221, 122, 190, 173, 147, 50, 53, 239, 205, 180, 69, 222,
    114, 5, 81, 20, 107, 200, 248, 189, 19, 171, 247, 76]
  else []

@[reducible] def sampleCrates : Crates where
  sha256 value := Vector.ofFn fun i => UInt8.ofNat ((sampleDigest value).getD i 0)
  domainToAscii := some
  decode _ _ _ := none

def sampleIngress (role key domain : String) (ordinal : Int) (udp : Bool) : Ingress where
  role
  endpointKey := key
  label := none
  replicaOrdinal := ordinal
  protocol := "anytls"
  endpoint := ⟨domain, "", 443⟩
  credentials := ⟨none, none, some ⟨"secret"⟩⟩
  tls := some ⟨domain, [], false, none⟩
  transport := none
  capabilities := ⟨true, udp⟩

def sampleNodeA : Node :=
  ⟨"a", "entry", ⟨""⟩, ⟨true, true⟩, [sampleIngress "primary" "a-1" "a.example.com" 0 true]⟩

def sampleNodeB : Node :=
  ⟨"b", "entry", ⟨""⟩, ⟨true, false⟩, [sampleIngress "primary" "b-1" "b.example.com" 0 false,
    sampleIngress "backup" "b-2" "c.example.com" 1 false]⟩

def sampleProfile : Profile where
  schemaVersion := 1
  revision := "1"
  generatedAt := none
  expiresAt := none
  nodes := [sampleNodeA, sampleNodeB]
  selection := ⟨"manual", "a"⟩
  routing :=
    { ruleSets := []
      rules := [⟨"lab", ⟨[], ["example.org"], ["192.0.2.7/24"], false, [], [], ["8000-8080"], []⟩,
        ⟨"proxy", "node", "b"⟩, true⟩]
      finalAction := ⟨"direct", "", ""⟩ }

theorem sampleProfile_accepted : @validate sampleCrates sampleProfile 0 = .ok () := rfl

end PpvpnCore
