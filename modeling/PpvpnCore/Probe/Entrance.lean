import PpvpnCore.Profile.Valid
import PpvpnCore.Translate.Tun
import PpvpnCore.Lib.Reader

/-!
# Entry addresses

The text of an ingress's address is read by the validation, which takes a zone
and leaves an IPv4-mapped address IPv6, and by its users, which take no zone
and unmap: the outbound that dials it, the probe, and the rules that keep it out
of the tunnel.

* `entry_addresses`: the users agree, and on what.
-/

namespace PpvpnCore

open Lib

def dnsFailed : String := "DNS_FAILED"

/-- The literal IP when there is one; otherwise the domain's first IPv4
address, else its first address. -/
def targetAddress (endpoint : Endpoint) (resolve : String → Option (List IpAddr)) :
    Except String IpAddr :=
  if endpoint.ip ≠ "" then
    match IpAddr.parse endpoint.ip.toList with
    | some ip => .ok ip.unmap
    | none => .error dnsFailed
  else match resolve endpoint.domain with
    | none => .error dnsFailed
    | some addrs =>
      let addrs := addrs.map IpAddr.unmap
      match (addrs.find? IpAddr.isIpv4).or addrs.head? with
      | some ip => .ok ip
      | none => .error dnsFailed

/-! ## Reading an address -/

variable {text : List Char} {ip : IpAddr}

theorem not_addressChar_percent : ¬ Parser.AddressChar '%' := by
  rintro (hex | dot | colon)
  · exact absurd hex (by decide)
  · cases dot
  · cases colon

/-- The standard parser takes no zone. -/
theorem IpAddr.parse_zone (zone : '%' ∈ text) : IpAddr.parse text = none := by
  rw [IpAddr.parse]
  cases four : Parser.parseWith Parser.readIpv4Addr text with
  | some addr => exact absurd (Parser.parseIpv4_chars four '%' zone) not_addressChar_percent
  | none =>
    cases six : Parser.parseWith Parser.readIpv6Addr text with
    | some addr => exact absurd (Parser.parseIpv6_chars six '%' zone) not_addressChar_percent
    | none => rfl

/-- Without a zone the two parsers are one. -/
theorem parseAddr_eq_parse (plain : '%' ∉ text) : parseAddr text = IpAddr.parse text := by
  rw [parseAddr, IpAddr.parse, splitOnce_none plain]

/-- What an address stands for when it is public only as it is written. -/
def IpAddr.Mapped (ip : IpAddr) : Prop := ∃ addr : BitVec 128, ip = .v6 addr ∧ addr >>> 32 = 0xffff

theorem IpAddr.unmap_of_not_mapped (plain : ¬ ip.Mapped) : ip.unmap = ip := by
  cases ip with
  | v4 addr => rfl
  | v6 addr =>
    have other : addr >>> 32 ≠ 0xffff := fun mapped => plain ⟨addr, rfl, mapped⟩
    rw [IpAddr.unmap, if_neg other]

/-! ## The users -/

section

variable [Crates]

/-- A given address is public as it is written. -/
theorem validateIngress_entry {ingress : Ingress} {field : String}
    (ok : validateIngress ingress field = .ok ()) (given : ingress.endpoint.ip ≠ "") :
    ∃ ip, parseAddr ingress.endpoint.ip.toList = some ip ∧ isPublicUnicast ip = true := by
  simp only [validateIngress, bind_eq_ok, check_eq_ok] at ok
  obtain ⟨_, _, _, _, _, public_, _⟩ := ok
  rcases public_ with none | public_
  · exact absurd none given
  · exact (Option.any_eq_true _ _).1 public_

/-- An address has its rule, unless it was seen before. -/
theorem bypassRules_mem {ingresses : List Ingress} {ingress : Ingress} {domains : List String}
    {ips : List IpAddr} (mem : ingress ∈ ingresses)
    (known : ingressIp ingress.endpoint.ip = some ip) (fresh : ip ∉ ips) :
    RouteRule.plain { ipCidr := [.host ip] } (.route directTag) ∈
      bypassRules ingresses domains ips := by
  induction ingresses generalizing domains ips with
  | nil => cases mem
  | cons first rest ih =>
    simp only [bypassRules, List.mem_append]
    rcases List.mem_cons.1 mem with rfl | later
    · refine .inl (.inr ?_)
      simp only [known, if_neg fresh, List.mem_singleton]
    · cases other : ingressIp first.endpoint.ip with
      | none => exact .inr (ih later fresh)
      | some seen =>
        by_cases before : seen ∈ ips
        · simp only [if_pos before]
          exact .inr (ih later fresh)
        by_cases same : ip = seen
        · subst same
          refine .inl (.inr ?_)
          simp only [if_neg before, List.mem_singleton]
        · simp only [if_neg before]
          refine .inr (ih later ?_)
          simp only [List.mem_cons, not_or]
          exact ⟨same, fresh⟩

omit [Crates] in
theorem distinctIps_mem {ingresses : List Ingress} {ingress : Ingress} {seen : List IpAddr}
    (mem : ingress ∈ ingresses) (known : ingressIp ingress.endpoint.ip = some ip)
    (fresh : ip ∉ seen) : ip ∈ distinctIps ingresses seen := by
  induction ingresses generalizing seen with
  | nil => cases mem
  | cons first rest ih =>
    rw [distinctIps]
    rcases List.mem_cons.1 mem with rfl | later
    · simp only [known, if_neg fresh, List.mem_cons, true_or]
    · cases other : ingressIp first.endpoint.ip with
      | none => exact ih later fresh
      | some found =>
        by_cases before : found ∈ seen
        · simp only [if_pos before]
          exact ih later fresh
        by_cases same : ip = found
        · simp only [if_neg before, same, List.mem_cons, true_or]
        · simp only [if_neg before, List.mem_cons]
          refine .inr (ih later ?_)
          simp only [List.mem_cons, not_or]
          exact ⟨same, fresh⟩

/-- What the users do with an address text: they all take `ip`, or none. -/
structure Ingress.Reads (ingress : Ingress) (profile : Profile) (ip : IpAddr) : Prop where
  dialed : dialAddress ingress = .ip ip
  probed : ∀ resolve, targetAddress ingress.endpoint resolve = .ok ip
  kept : ingressIp ingress.endpoint.ip = some ip
  bypassed : ∀ (b : Builder) (tun : Tun),
    RouteRule.plain { ipCidr := [.host ip] } (.route directTag) ∈ (b.tunRules profile tun).rules
  /-- Without IPv6 in the tunnel no IPv6 destination is routed into it. -/
  excluded : ∀ tun : Tun, tun.desktop = true → (tun.ipv6 = true ∨ ip.isIpv4 = true) →
    Prefix.host ip ∈ (tunInboundOptions profile tun).routeExcludeAddress

structure Ingress.ReadsNone (ingress : Ingress) : Prop where
  dialed : dialAddress ingress = .domain ingress.endpoint.domain
  probed : ∀ resolve, targetAddress ingress.endpoint resolve = .error dnsFailed
  kept : ingressIp ingress.endpoint.ip = none

theorem Ingress.reads {profile : Profile} {ingress : Ingress}
    (mem : ingress ∈ profile.nodes.flatMap Node.ingresses) (given : ingress.endpoint.ip ≠ "")
    (parsed : IpAddr.parse ingress.endpoint.ip.toList = some ip) :
    ingress.Reads profile ip.unmap := by
  have kept : ingressIp ingress.endpoint.ip = some ip.unmap := by rw [ingressIp, parsed]; rfl
  refine ⟨?_, ?_, kept, ?_, ?_⟩
  · rw [dialAddress, parsed]
  · intro resolve
    rw [targetAddress, if_pos given, parsed]
  · intro b tun
    exact List.mem_append_right _ (bypassRules_mem mem kept List.not_mem_nil)
  · intro tun desktop wanted
    simp only [tunInboundOptions, if_pos desktop, routeExcludeAddress, List.mem_append,
      List.mem_filter, List.mem_map]
    refine .inl (.inl ⟨⟨ip.unmap, distinctIps_mem mem kept List.not_mem_nil, rfl⟩, ?_⟩)
    simpa [Prefix.host] using wanted

omit [Crates] in
theorem Ingress.readsNone {ingress : Ingress} (given : ingress.endpoint.ip ≠ "")
    (zone : '%' ∈ ingress.endpoint.ip.toList) : ingress.ReadsNone := by
  have none_ := IpAddr.parse_zone zone
  refine ⟨?_, ?_, ?_⟩
  · rw [dialAddress, none_]
  · intro resolve
    rw [targetAddress, if_pos given, none_]
  · rw [ingressIp, none_]
    rfl

/-- A given address is public as it is written. Its users read it alike: without
a zone they take one IP, the address unmapped, which is public itself unless the
text was IPv4-mapped; with a zone none of them takes any. -/
theorem entry_addresses (profile : Profile) (now : Int) (accepted : validate profile now = .ok ())
    (ingress : Ingress) (mem : ingress ∈ profile.nodes.flatMap Node.ingresses)
    (given : ingress.endpoint.ip ≠ "") :
    ∃ ip, parseAddr ingress.endpoint.ip.toList = some ip ∧ isPublicUnicast ip = true ∧
      ('%' ∉ ingress.endpoint.ip.toList → ingress.Reads profile ip.unmap ∧
        (¬ ip.Mapped → isPublicUnicast ip.unmap = true)) ∧
      ('%' ∈ ingress.endpoint.ip.toList → ingress.ReadsNone) := by
  obtain ⟨field, ok⟩ := validate_ingress accepted ingress mem
  obtain ⟨ip, parsed, public_⟩ := validateIngress_entry ok given
  refine ⟨ip, parsed, public_, ?_, Ingress.readsNone given⟩
  intro plain
  constructor
  · rw [parseAddr_eq_parse plain] at parsed
    exact Ingress.reads mem given parsed
  · intro own
    rwa [IpAddr.unmap_of_not_mapped own]

end

/-! ## A mapped address and one with a zone -/

def mappedIngress : Ingress :=
  { sampleIngress "primary" "b-1" "b.example.com" 0 false with
    endpoint := ⟨"b.example.com", "::ffff:10.0.0.1", 443⟩ }

def zonedIngress : Ingress :=
  { sampleIngress "backup" "b-2" "c.example.com" 1 false with
    endpoint := ⟨"c.example.com", "2606:4700::1111%en0", 443⟩ }

def entryProfile : Profile :=
  { sampleProfile with
    nodes := [sampleNodeA,
      ⟨"b", "entry", ⟨""⟩, ⟨true, false⟩, [mappedIngress, zonedIngress]⟩] }

theorem entryProfile_accepted : @validate sampleCrates entryProfile 0 = .ok () := rfl

theorem entry_addresses_sample :
    ∃ ip, parseAddr mappedIngress.endpoint.ip.toList = some ip ∧ isPublicUnicast ip = true ∧
      ('%' ∉ mappedIngress.endpoint.ip.toList →
        @Ingress.Reads sampleCrates mappedIngress entryProfile ip.unmap ∧
        (¬ ip.Mapped → isPublicUnicast ip.unmap = true)) ∧
      ('%' ∈ mappedIngress.endpoint.ip.toList → mappedIngress.ReadsNone) :=
  @entry_addresses sampleCrates entryProfile 0 entryProfile_accepted mappedIngress (by decide) (by decide)

/-- A private address is dialed, and an address with a zone is not used. -/
theorem entry_addresses_differ :
    @validate sampleCrates entryProfile 0 = .ok () ∧
    (mappedIngress ∈ entryProfile.nodes.flatMap Node.ingresses ∧ mappedIngress.endpoint.ip ≠ "" ∧
      @Ingress.Reads sampleCrates mappedIngress entryProfile (.v4 0x0a000001) ∧
      isPublicUnicast (.v4 0x0a000001) = false) ∧
    (zonedIngress ∈ entryProfile.nodes.flatMap Node.ingresses ∧ zonedIngress.endpoint.ip ≠ "" ∧
      ∀ ip, ¬ @Ingress.Reads sampleCrates zonedIngress entryProfile ip) := by
  have mapped : IpAddr.unmap (.v6 0xffff0a000001) = .v4 0x0a000001 := by decide
  refine ⟨entryProfile_accepted, ⟨by decide, by decide, ?_, by decide⟩, by decide, by decide, ?_⟩
  · rw [← mapped]
    exact @Ingress.reads _ sampleCrates entryProfile mappedIngress (by decide) (by decide)
      (by decide)
  · rintro ip ⟨-, -, kept, -, -⟩
    have none_ := (@Ingress.readsNone zonedIngress (by decide) (by decide)).kept
    rw [kept] at none_
    cases none_

end PpvpnCore
