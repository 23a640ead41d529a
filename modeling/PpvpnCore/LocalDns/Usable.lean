import Mathlib.Data.List.Induction
import PpvpnCore.LocalDns.Cache

/-!
# Which resolvers are asked

What `usable` keeps: usable resolvers of the list, in its order, and no two that
are dialled at one address, unless a link-local one is listed both with the
interface's name and without it.

* `usableServer_eq_some`: one resolver; `mem_usable`: all.
* `usable_asked_once`: the exact condition.
-/

namespace PpvpnCore.LocalDns

/-- A socket address; the flow information is always 0. -/
structure SocketAddr where
  ip : IpAddr
  port : UInt16
  scopeId : Nat
  deriving DecidableEq, Repr

/-- The socket address to dial. -/
def Server.socketAddr (server : Server) (iface : Interface) : SocketAddr :=
  match server.ip with
  | .v6 addr => ⟨.v6 addr, server.port, if server.zone.isSome then iface.index else 0⟩
  | .v4 addr => ⟨.v4 addr, server.port, 0⟩

/-- Port 0 becomes 53. -/
def Server.dialPort (server : Server) : UInt16 := if server.port = 0 then 53 else server.port

/-! ## One resolver -/

/-- Loopback, unspecified, multicast or in an excluded prefix. -/
def leftOut (exclude : List Prefix) (ip : IpAddr) : Prop :=
  isUnspecified ip ∨ isLoopback ip ∨ isMulticast ip ∨ exclude.any (·.contains ip)

instance leftOut.decidable (exclude : List Prefix) (ip : IpAddr) : Decidable (leftOut exclude ip) :=
  inferInstanceAs (Decidable (_ ∨ _))

variable {iface : Interface} {exclude : List Prefix} {server s o : Server} {servers : List Server}

theorem usableServer_eq_some : usableServer iface exclude s = some o ↔
    ¬ leftOut exclude s.ip.unmap ∧ keptZone iface s s.ip.unmap = some o.zone ∧
      o.ip = s.ip.unmap ∧ o.port = s.dialPort := by
  rw [usableServer]
  split
  next out =>
    constructor
    · intro none_
      cases none_
    · intro kept
      exact absurd out kept.1
  next kept =>
    rw [Option.map_eq_some_iff]
    constructor
    · rintro ⟨zone, same, rfl⟩
      exact ⟨kept, same, rfl, rfl⟩
    · rintro ⟨-, same, ip, port⟩
      obtain ⟨oip, ozone, oport⟩ := o
      cases ip
      cases port
      exact ⟨ozone, same, rfl⟩

theorem IpAddr.unmap_unmap (ip : IpAddr) : ip.unmap.unmap = ip.unmap := by
  cases ip with
  | v4 addr => rfl
  | v6 addr =>
    by_cases mapped : addr >>> 32 = 0xffff
    · rw [IpAddr.unmap, if_pos mapped, IpAddr.unmap]
    · rw [IpAddr.unmap, if_neg mapped, IpAddr.unmap, if_neg mapped]

/-- The zone a link-local resolver is kept with on `iface`. -/
def zoneOn (iface : Interface) : Option String → Option (Option String)
  | none => some (some (toString iface.index))
  | some zone =>
    if zone = iface.name ∨ zone = toString iface.index then some (some zone) else none

def isLinkLocal : IpAddr → Bool
  | .v4 _ => false
  | .v6 addr => isLinkLocalV6 addr

def isSiteLocal : IpAddr → Bool
  | .v4 _ => false
  | .v6 addr => isSiteLocalV6 addr

section

variable {ip : IpAddr} {zone : Option String}

theorem linkLocal_bounds {addr : BitVec 128} (link : isLinkLocalV6 addr = true) :
    addr.toNat / 2 ^ 118 = 1018 := of_decide_eq_true link

theorem not_siteLocal_of_linkLocal (link : isLinkLocal ip = true) : isSiteLocal ip = false := by
  cases ip with
  | v4 addr => rfl
  | v6 addr =>
    have bounds := linkLocal_bounds link
    refine decide_eq_false ?_
    change ¬ addr.toNat / 2 ^ 118 = 0xfec0 / 2 ^ 6
    omega

theorem keptZone_link (link : isLinkLocal ip = true) :
    keptZone iface server ip = zoneOn iface server.zone := by
  have site := not_siteLocal_of_linkLocal link
  cases ip with
  | v4 addr => cases link
  | v6 addr =>
    rw [isLinkLocal] at link
    rw [isSiteLocal] at site
    rw [keptZone, if_neg (by rw [site]; exact Bool.false_ne_true), if_pos link]
    cases server.zone <;> rfl

theorem keptZone_plain (link : isLinkLocal ip = false) :
    keptZone iface server ip = if isSiteLocal ip then none else some none := by
  cases ip with
  | v4 addr => rfl
  | v6 addr =>
    rw [isLinkLocal] at link
    rw [keptZone, link, isSiteLocal, if_neg Bool.false_ne_true]

/-- A zone that is kept: the interface's name as written, or its index. -/
theorem zoneOn_eq_some {kept : Option String} (on : zoneOn iface zone = some kept) :
    kept = some iface.name ∧ zone = some iface.name ∨
      kept = some (toString iface.index) ∧ (zone = none ∨ zone = some (toString iface.index)) := by
  cases zone with
  | none =>
    cases on
    exact .inr ⟨rfl, .inl rfl⟩
  | some text =>
    rw [zoneOn] at on
    split at on
    next own =>
      cases on
      rcases own with rfl | rfl
      · exact .inl ⟨rfl, rfl⟩
      · exact .inr ⟨rfl, .inr rfl⟩
    next => cases on

theorem zoneOn_kept {kept : Option String} (on : zoneOn iface zone = some kept) :
    zoneOn iface kept = some kept := by
  rcases zoneOn_eq_some on with ⟨rfl, -⟩ | ⟨rfl, -⟩
  · exact if_pos (.inl rfl)
  · exact if_pos (.inr rfl)

end

/-- A resolver that `usable` keeps as it is. -/
structure Usable (iface : Interface) (exclude : List Prefix) (o : Server) : Prop where
  unmapped : o.ip.unmap = o.ip
  specified : isUnspecified o.ip = false
  remote : isLoopback o.ip = false
  unicast : isMulticast o.ip = false
  current : isSiteLocal o.ip = false
  included : ∀ p ∈ exclude, p.contains o.ip = false
  port : o.port ≠ 0
  /-- A link-local one carries the interface's zone, another none. -/
  zone : if isLinkLocal o.ip then o.zone = some iface.name ∨ o.zone = some (toString iface.index)
    else o.zone = none

theorem dialPort_ne_zero : s.dialPort ≠ 0 := by
  rw [Server.dialPort]
  split
  next => decide
  next other => exact other

theorem not_leftOut {ip : IpAddr} : ¬ leftOut exclude ip ↔
    isUnspecified ip = false ∧ isLoopback ip = false ∧ isMulticast ip = false ∧
      ∀ p ∈ exclude, p.contains ip = false := by
  simp [leftOut]

theorem usable_of_usableServer (kept : usableServer iface exclude s = some o) :
    Usable iface exclude o := by
  obtain ⟨within_, zone, ip, port⟩ := (usableServer_eq_some).mp kept
  rw [← ip] at within_ zone
  obtain ⟨specified, remote, unicast, included⟩ := (not_leftOut).mp within_
  refine ⟨?_, specified, remote, unicast, ?_, included, port ▸ dialPort_ne_zero, ?_⟩
  · rw [ip, IpAddr.unmap_unmap]
  · cases link : isLinkLocal o.ip with
    | true => exact not_siteLocal_of_linkLocal link
    | false =>
      rw [keptZone_plain link] at zone
      cases site : isSiteLocal o.ip with
      | false => rfl
      | true =>
        rw [site, if_pos rfl] at zone
        cases zone
  · cases link : isLinkLocal o.ip with
    | true =>
      rw [keptZone_link link] at zone
      exact (zoneOn_eq_some zone).imp And.left And.left
    | false =>
      rw [keptZone_plain link] at zone
      split at zone
      next => cases zone
      next => exact (Option.some.inj zone).symm

theorem Usable.kept (usable : Usable iface exclude o) : usableServer iface exclude o = some o := by
  refine (usableServer_eq_some).mpr ⟨?_, ?_, usable.unmapped.symm, (if_neg usable.port).symm⟩
  · rw [usable.unmapped]
    exact (not_leftOut).mpr ⟨usable.specified, usable.remote, usable.unicast, usable.included⟩
  · have zone := usable.zone
    rw [usable.unmapped]
    cases link : isLinkLocal o.ip with
    | true =>
      rw [link, if_pos rfl] at zone
      rw [keptZone_link link]
      rcases zone with name | index
      · rw [name]
        exact if_pos (.inl rfl)
      · rw [index]
        exact if_pos (.inr rfl)
    | false =>
      rw [link, if_neg Bool.false_ne_true] at zone
      rw [keptZone_plain link, usable.current, zone]
      rfl

/-- Two usable resolvers are dialled at one address exactly when they have one
IP and one port. -/
theorem socketAddr_eq_iff {o o' : Server} (usable : Usable iface exclude o)
    (usable' : Usable iface exclude o') :
    o.socketAddr iface = o'.socketAddr iface ↔ o.ip = o'.ip ∧ o.port = o'.port := by
  constructor
  · intro same
    cases ip : o.ip <;> cases ip' : o'.ip <;>
      simp_all [Server.socketAddr]
  · rintro ⟨ip, port⟩
    have zone := usable.zone
    have zone' := usable'.zone
    rw [← ip] at zone'
    have shown : o.zone.isSome = o'.zone.isSome := by
      cases link : isLinkLocal o.ip with
      | true =>
        rw [link, if_pos rfl] at zone zone'
        rcases zone with z | z <;> rcases zone' with z' | z' <;> rw [z, z']
        all_goals rfl
      | false =>
        rw [link, if_neg Bool.false_ne_true] at zone zone'
        rw [zone, zone']
    rw [Server.socketAddr, Server.socketAddr, ← ip, port, shown]

/-! ## The list -/

theorem usable_append : usable (servers ++ [s]) iface exclude =
    match usableServer iface exclude s with
    | none => usable servers iface exclude
    | some o =>
      if o ∈ usable servers iface exclude then usable servers iface exclude
      else usable servers iface exclude ++ [o] := by
  rw [usable, List.foldl_append]
  rfl

theorem mem_usable : o ∈ usable servers iface exclude ↔
    ∃ s ∈ servers, usableServer iface exclude s = some o := by
  induction servers using List.reverseRecOn with
  | nil => simp [usable]
  | append_singleton servers s ih =>
    have split_ : (∃ s' ∈ servers ++ [s], usableServer iface exclude s' = some o) ↔
        o ∈ usable servers iface exclude ∨ usableServer iface exclude s = some o := by
      rw [ih]
      simp [or_and_right, exists_or]
    rw [split_, usable_append]
    cases kept : usableServer iface exclude s with
    | none => simp
    | some o' =>
      dsimp only
      split
      next here =>
        constructor
        · exact .inl
        · rintro (old | same)
          · exact old
          · exact Option.some.inj same ▸ here
      next => simp [eq_comm]

theorem usable_nodup : (usable servers iface exclude).Nodup := by
  induction servers using List.reverseRecOn with
  | nil => exact List.nodup_nil
  | append_singleton servers s ih =>
    rw [usable_append]
    cases usableServer iface exclude s with
    | none => exact ih
    | some o =>
      dsimp only
      split
      next => exact ih
      next new =>
        refine List.nodup_append.mpr ⟨ih, List.nodup_singleton o, fun x mem y last same => ?_⟩
        rw [same, List.mem_singleton.mp last] at mem
        exact new mem

/-- Each comes from a listed resolver, in the listed order. -/
theorem usable_listed : ∃ listed, listed.Sublist servers ∧
    List.Forall₂ (fun s o => o.ip = s.ip.unmap ∧ o.port = s.dialPort) listed
      (usable servers iface exclude) := by
  induction servers using List.reverseRecOn with
  | nil => exact ⟨[], List.Sublist.slnil, List.Forall₂.nil⟩
  | append_singleton servers s ih =>
    obtain ⟨listed, order, from_⟩ := ih
    have skipped : listed.Sublist (servers ++ [s]) :=
      order.trans (List.sublist_append_left servers [s])
    rw [usable_append]
    cases kept : usableServer iface exclude s with
    | none => exact ⟨listed, skipped, from_⟩
    | some o =>
      dsimp only
      split
      next => exact ⟨listed, skipped, from_⟩
      next =>
        have same := ((usableServer_eq_some).mp kept).2.2
        refine ⟨listed ++ [s], order.append (List.Sublist.refl _), ?_⟩
        exact List.rel_append from_ (.cons same .nil)

/-- Usable resolvers, each once, are kept as they are. -/
theorem usable_of_nodup {out : List Server} (distinct : out.Nodup)
    (each : ∀ o ∈ out, Usable iface exclude o) : usable out iface exclude = out := by
  induction out using List.reverseRecOn with
  | nil => rfl
  | append_singleton out o ih =>
    have parts := List.nodup_append.mp distinct
    have before := ih parts.1 fun o' mem => each o' (List.mem_append_left _ mem)
    have new : o ∉ out := fun mem => parts.2.2 o mem o (List.mem_singleton_self o) rfl
    rw [usable_append, (each o (by simp)).kept]
    dsimp only
    rw [before, if_neg new]

/-! ## Asked once -/

/-- One link-local resolver listed twice: `a` with the interface's name, `b`
with its index or no zone. -/
structure TwoSpellings (iface : Interface) (exclude : List Prefix) (a b : Server) : Prop where
  ip : a.ip = b.ip
  port : a.dialPort = b.dialPort
  linkLocal : isLinkLocal a.ip = true
  included : ∀ p ∈ exclude, p.contains a.ip = false
  byName : a.zone = some iface.name
  otherwise : b.zone = none ∨ b.zone = some (toString iface.index)
  apart : iface.name ≠ toString iface.index

theorem linkLocal_plain {ip : IpAddr} (link : isLinkLocal ip = true) : ip.unmap = ip ∧
    isUnspecified ip = false ∧ isLoopback ip = false ∧ isMulticast ip = false := by
  cases ip with
  | v4 addr => cases link
  | v6 addr =>
    have bounds := linkLocal_bounds link
    have large : 2 ^ 127 ≤ addr.toNat := by omega
    refine ⟨if_neg fun mapped => ?_, decide_eq_false ?_, decide_eq_false ?_, decide_eq_false ?_⟩
    · have shifted := congrArg BitVec.toNat mapped
      rw [BitVec.toNat_ushiftRight, Nat.shiftRight_eq_div_pow] at shifted
      change addr.toNat / 2 ^ 32 = 65535 at shifted
      omega
    · rintro rfl
      exact absurd large (by decide)
    · rintro rfl
      exact absurd large (by decide)
    · change ¬ addr.toNat / 2 ^ 120 = 255
      omega

theorem linkLocal_of_unmap {ip : IpAddr} (link : isLinkLocal ip.unmap = true) : ip.unmap = ip := by
  cases ip with
  | v4 addr => rfl
  | v6 addr =>
    rw [IpAddr.unmap] at link ⊢
    split at link
    next => cases link
    next other => exact if_neg other

theorem TwoSpellings.kept {a b : Server} (two : TwoSpellings iface exclude a b) :
    usableServer iface exclude a = some ⟨a.ip, some iface.name, a.dialPort⟩ ∧
      usableServer iface exclude b = some ⟨a.ip, some (toString iface.index), a.dialPort⟩ := by
  obtain ⟨unmapped, specified, remote, unicast⟩ := linkLocal_plain two.linkLocal
  have within_ := (not_leftOut).mpr ⟨specified, remote, unicast, two.included⟩
  constructor
  · refine (usableServer_eq_some).mpr ⟨by rwa [unmapped], ?_, unmapped.symm, rfl⟩
    rw [unmapped, keptZone_link two.linkLocal, two.byName]
    exact if_pos (.inl rfl)
  · refine (usableServer_eq_some).mpr ⟨by rwa [← two.ip, unmapped], ?_, ?_, two.port⟩
    · rw [← two.ip, unmapped, keptZone_link two.linkLocal]
      rcases two.otherwise with z | z <;> rw [z]
      · rfl
      · exact if_pos (.inr rfl)
    · rw [← two.ip, unmapped]

/-- Two that are kept apart but dialled at one address are one resolver spelled
in two ways. -/
theorem twoSpellings_of_kept {a b : Server} {x y : Server}
    (left : usableServer iface exclude a = some x) (right : usableServer iface exclude b = some y)
    (ip : x.ip = y.ip) (port : x.port = y.port) (ne : x ≠ y) :
    TwoSpellings iface exclude a b ∨ TwoSpellings iface exclude b a := by
  obtain ⟨within_, zone, ipx, portx⟩ := (usableServer_eq_some).mp left
  obtain ⟨within', zone', ipy, porty⟩ := (usableServer_eq_some).mp right
  have zones : x.zone ≠ y.zone := by
    intro same
    apply ne
    cases x
    cases y
    cases ip
    cases port
    cases same
    rfl
  have ips : a.ip.unmap = b.ip.unmap := ipx.symm.trans (ip.trans ipy)
  have ports : a.dialPort = b.dialPort := portx.symm.trans (port.trans porty)
  cases link : isLinkLocal a.ip.unmap with
  | false =>
    rw [keptZone_plain link] at zone
    rw [← ips, keptZone_plain link] at zone'
    exact absurd (Option.some.inj (zone.symm.trans zone')) zones
  | true =>
    have plain := linkLocal_of_unmap link
    have plain' := linkLocal_of_unmap (ips ▸ link)
    rw [plain, plain'] at ips
    rw [plain] at link within_ zone
    rw [plain', ← ips] at zone'
    have included := ((not_leftOut).mp within_).2.2.2
    rw [keptZone_link link] at zone zone'
    rcases zoneOn_eq_some zone with ⟨name, byName⟩ | ⟨index, other⟩ <;>
      rcases zoneOn_eq_some zone' with ⟨name', byName'⟩ | ⟨index', other'⟩
    · exact absurd (name.trans name'.symm) zones
    · refine .inl ⟨ips, ports, link, included, byName, other', fun same => zones ?_⟩
      rw [name, index', same]
    · refine .inr ⟨ips.symm, ports.symm, ips ▸ link, ips ▸ included, byName', other, fun same => zones ?_⟩
      rw [index, name', same]
    · exact absurd (index.trans index'.symm) zones

/-- What is asked of the resolvers that are kept. -/
structure AskedOnce (servers : List Server) (iface : Interface) (exclude : List Prefix)
    (out : List Server) : Prop where
  distinct : (out.map fun o => o.socketAddr iface).Nodup
  each : ∀ o ∈ out, Usable iface exclude o
  listed : ∃ listed, listed.Sublist servers ∧
    List.Forall₂ (fun s o => o.ip = s.ip.unmap ∧ o.port = s.dialPort) listed out
  again : usable out iface exclude = out

/-- No resolver is asked twice, unless one is listed in two spellings; all else
holds always. -/
theorem usable_asked_once : AskedOnce servers iface exclude (usable servers iface exclude) ↔
    ∀ a ∈ servers, ∀ b ∈ servers, ¬ TwoSpellings iface exclude a b := by
  have each : ∀ o ∈ usable servers iface exclude, Usable iface exclude o := by
    intro o mem
    obtain ⟨s, -, kept⟩ := mem_usable.mp mem
    exact usable_of_usableServer kept
  constructor
  · intro asked a here b there two
    obtain ⟨left, right⟩ := two.kept
    have mem := mem_usable.mpr ⟨a, here, left⟩
    have mem' := mem_usable.mpr ⟨b, there, right⟩
    have same := (socketAddr_eq_iff (each _ mem) (each _ mem')).mpr ⟨rfl, rfl⟩
    have one := List.inj_on_of_nodup_map asked.distinct mem mem' same
    have zones := congrArg Server.zone one
    exact two.apart (Option.some.inj zones)
  · intro once
    refine ⟨?_, each, usable_listed, usable_of_nodup usable_nodup each⟩
    refine usable_nodup.map_on fun x mem y mem' same => ?_
    obtain ⟨ip, port⟩ := (socketAddr_eq_iff (each x mem) (each y mem')).mp same
    obtain ⟨a, here, left⟩ := mem_usable.mp mem
    obtain ⟨b, there, right⟩ := mem_usable.mp mem'
    by_contra ne
    rcases twoSpellings_of_kept left right ip port ne with two | two
    · exact once a here b there two
    · exact once b there a here two

/-- `fe80::1%en0` and `fe80::1%6` on `en0`, whose index is 6. -/
def spelledTwice : List Server :=
  [⟨.v6 0xfe800000000000000000000000000001, some "en0", 53⟩,
    ⟨.v6 0xfe800000000000000000000000000001, some "6", 53⟩]

theorem asked_twice :
    ¬ ((usable spelledTwice ⟨6, "en0"⟩ []).map fun o => o.socketAddr ⟨6, "en0"⟩).Nodup := by
  decide +kernel

end PpvpnCore.LocalDns
