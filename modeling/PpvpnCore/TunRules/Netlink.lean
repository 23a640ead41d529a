import PpvpnCore.TunRules.Guard
import PpvpnCore.TunRules.Printed

/-!
Rules and routes over rtnetlink (`tunrules/netlink.rs`): what a listed message
says and the message that adds an entry back. The socket is left out. Messages
are netlink-packet-route's, with the attributes that are read or written; its
conversions of protocols and actions from and to their numbers are parameters.
-/

namespace PpvpnCore.TunRules

open Lib

/-! ## Messages -/

inductive AddressFamily where
  | unspec | inet | inet6
  | other (code : UInt8)
  deriving DecidableEq, Repr

inductive RuleAction where
  | unspec | toTable | goto | nop | blackhole | unreachable | prohibit
  | other (code : UInt8)
  deriving DecidableEq, Repr

/-- The conversions from and to the numbers of actions and protocols. -/
structure Codes (IpProtocol : Type) where
  action : UInt8 → RuleAction
  actionCode : RuleAction → UInt8
  protocol : UInt8 → IpProtocol
  protocolCode : IpProtocol → UInt8

/-- Each number is that of what it is converted to. -/
structure Codes.Inverse {IpProtocol : Type} (codes : Codes IpProtocol) : Prop where
  action : ∀ code, codes.actionCode (codes.action code) = code
  protocol : ∀ code, codes.protocolCode (codes.protocol code) = code

structure RuleHeader where
  family : AddressFamily := .unspec
  dstLen : UInt8 := 0
  srcLen : UInt8 := 0
  tos : UInt8 := 0
  table : UInt8 := 0
  action : RuleAction := .unspec
  flags : UInt32 := 0
  deriving DecidableEq, Repr

inductive RuleAttribute (IpProtocol : Type) where
  | priority (priority : UInt32)
  | table (table : UInt32)
  | goto (target : UInt32)
  | source (addr : IpAddr)
  | destination (addr : IpAddr)
  | iifname (name : String)
  | oifname (name : String)
  | fwMark (mark : UInt32)
  | fwMask (mask : UInt32)
  | suppressPrefixLen (len : UInt32)
  | ipProtocol (protocol : IpProtocol)
  | destinationPortRange (first last : UInt16)
  | sourcePortRange (first last : UInt16)
  | uidRange (first last : UInt32)
  | other
  deriving DecidableEq, Repr

structure RuleMessage (IpProtocol : Type) where
  header : RuleHeader := {}
  attributes : List (RuleAttribute IpProtocol) := []

/-- `RuleFlags::Invert`. -/
def invertFlag : UInt32 := 2

def family : AddressFamily → Option Family
  | .inet => some .v4
  | .inet6 => some .v6
  | _ => none

def addressFamily : Family → AddressFamily
  | .v4 => .inet
  | .v6 => .inet6

/-! ## Rules -/

section Rules

variable {IpProtocol : Type} (codes : Codes IpProtocol)

/-- The rule so far, and what the action and the mark are made of. -/
structure RuleReading where
  rule : Rule
  table : UInt32
  goto : UInt32 := 0
  mark : Option UInt32 := none
  mask : Option UInt32 := none

def RuleReading.read (header : RuleHeader) (s : RuleReading) :
    RuleAttribute IpProtocol → RuleReading
  | .priority p => { s with rule.priority := p }
  | .table t => { s with table := t }
  | .goto target => { s with goto := target }
  | .source addr => { s with rule.src := some ⟨addr, header.srcLen.toNat⟩ }
  | .destination addr => { s with rule.dst := some ⟨addr, header.dstLen.toNat⟩ }
  | .iifname name => { s with rule.iif := some name }
  | .oifname name => { s with rule.oif := some name }
  | .fwMark mark => { s with mark := some mark }
  | .fwMask mask => { s with mask := some mask }
  -- the largest number is "none"
  | .suppressPrefixLen n =>
    if n ≠ 0xffffffff then { s with rule.suppressPrefixlen := some n } else s
  | .ipProtocol p => { s with rule.ipProto := some (codes.protocolCode p) }
  | .destinationPortRange first last => { s with rule.dport := some (first, last) }
  | .sourcePortRange first last => { s with rule.sport := some (first, last) }
  | .uidRange first last => { s with rule.uidRange := some (first, last) }
  | .other => s

def RuleReading.begin (header : RuleHeader) (family : Family) : RuleReading where
  rule :=
    { family, priority := 0, action := .nop, tos := header.tos,
      invert := header.flags &&& invertFlag = invertFlag }
  table := header.table.toUInt32

def RuleReading.fwmark (s : RuleReading) : Option (UInt32 × UInt32) :=
  if s.mark.isSome || s.mask.isSome then some (s.mark.getD 0, s.mask.getD 0xffffffff) else none

def RuleReading.action (header : RuleHeader) (s : RuleReading) : Action :=
  match header.action with
  | .toTable => .table s.table
  | .goto => .goto s.goto
  | .nop => .nop
  | .blackhole => .blackhole
  | .unreachable => .unreachable
  | .prohibit => .prohibit
  | other => .other (codes.actionCode other)

def RuleReading.finish (header : RuleHeader) (s : RuleReading) : Rule :=
  let action := s.action codes header
  { s.rule with
    fwmark := s.fwmark
    action
    suppressPrefixlen := match action with | .table _ => s.rule.suppressPrefixlen | _ => none }

/-- A listed rule; none for a family other than IPv4 and IPv6. -/
def parseRule (m : RuleMessage IpProtocol) : Option Rule :=
  (family m.header.family).map fun family =>
    (m.attributes.foldl (RuleReading.read codes m.header) (.begin m.header family)).finish codes
      m.header

/-- The message that adds the rule back. -/
def ruleMessage (r : Rule) : RuleMessage IpProtocol where
  header :=
    { family := addressFamily r.family
      tos := r.tos
      flags := if r.invert then 0 ||| invertFlag else 0
      srcLen := r.src.elim 0 fun src => src.bits.toUInt8
      dstLen := r.dst.elim 0 fun dst => dst.bits.toUInt8
      -- the header's table is a byte
      table := match r.action with
        | .table table => if table.toNat < 256 then table.toUInt8 else 0
        | _ => 0
      action := match r.action with
        | .table _ => .toTable
        | .goto _ => .goto
        | .nop => .nop
        | .blackhole => .blackhole
        | .unreachable => .unreachable
        | .prohibit => .prohibit
        | .other code => codes.action code }
  attributes :=
    [.priority r.priority] ++ (r.src.map fun src => .source src.addr).toList ++
      (r.dst.map fun dst => .destination dst.addr).toList ++ (r.iif.map .iifname).toList ++
      (r.oif.map .oifname).toList ++
      (r.fwmark.elim [] fun fwmark => [.fwMark fwmark.1, .fwMask fwmark.2]) ++
      (r.ipProto.map fun proto => .ipProtocol (codes.protocol proto)).toList ++
      (r.sport.map fun bounds => .sourcePortRange bounds.1 bounds.2).toList ++
      (r.dport.map fun bounds => .destinationPortRange bounds.1 bounds.2).toList ++
      (r.uidRange.map fun bounds => .uidRange bounds.1 bounds.2).toList ++
      match r.action with
      | .table table => .table table :: (r.suppressPrefixlen.map .suppressPrefixLen).toList
      | .goto target => [.goto target]
      | _ => []

end Rules

/-! ## Routes -/

inductive RouteAddress where
  | inet (addr : BitVec 32)
  | inet6 (addr : BitVec 128)
  | other
  deriving DecidableEq, Repr

inductive RouteAttribute where
  | destination (addr : RouteAddress)
  | gateway (addr : RouteAddress)
  | oif (index : UInt32)
  | priority (metric : UInt32)
  | table (table : UInt32)
  | other
  deriving DecidableEq, Repr

inductive RouteProtocol where
  | unspec | boot | other
  deriving DecidableEq, Repr

inductive RouteScope where
  | universe | link | other
  deriving DecidableEq, Repr

inductive RouteType where
  | unspec | unicast | other
  deriving DecidableEq, Repr

structure RouteHeader where
  addressFamily : AddressFamily := .unspec
  destinationPrefixLength : UInt8 := 0
  table : UInt8 := 0
  protocol : RouteProtocol := .unspec
  scope : RouteScope := .universe
  kind : RouteType := .unspec
  deriving DecidableEq, Repr

structure RouteMessage where
  header : RouteHeader := {}
  attributes : List RouteAttribute := []
  deriving DecidableEq, Repr

/-- The table of a listed route: the attribute, else the header's byte. -/
def routeTable (m : RouteMessage) : UInt32 :=
  (m.attributes.findSome? fun
    | .table t => some t
    | _ => none).getD m.header.table.toUInt32

def routeAddress : RouteAddress → Option IpAddr
  | .inet v4 => some (.v4 v4)
  | .inet6 v6 => some (.v6 v6)
  | .other => none

def unspecified : Family → IpAddr
  | .v4 => .v4 0
  | .v6 => .v6 0

def Route.read (route : Route) : RouteAttribute → Option Route
  | .destination d => (routeAddress d).map fun addr => { route with dst.addr := addr }
  | .gateway g => some { route with gateway := routeAddress g }
  | .oif index => some { route with oif := index }
  | .priority p => some { route with metric := p }
  | _ => some route

/-- A listed unicast route through one interface; none for anything else. -/
def parseRoute (m : RouteMessage) : Option Route := do
  let family ← family m.header.addressFamily
  if m.header.kind ≠ .unicast then none
  let route ← m.attributes.foldlM Route.read
    -- a default route has no destination attribute
    { dst := ⟨unspecified family, m.header.destinationPrefixLength.toNat⟩
      gateway := none
      oif := 0
      metric := 0 }
  if route.oif ≠ 0 then some route else none

def familyOf : IpAddr → Family
  | .v4 _ => .v4
  | .v6 _ => .v6

def address : IpAddr → RouteAddress
  | .v4 v4 => .inet v4
  | .v6 v6 => .inet6 v6

/-- The message that adds the route back to a table. -/
def routeMessage (r : Route) (table : UInt32) : RouteMessage where
  header :=
    { addressFamily := addressFamily (familyOf r.dst.addr)
      destinationPrefixLength := r.dst.bits.toUInt8
      table := if table.toNat < 256 then table.toUInt8 else 0
      protocol := .boot
      scope := if r.gateway.isSome then .universe else .link
      kind := .unicast }
  attributes :=
    [.table table] ++ (if 0 < r.dst.bits then [.destination (address r.dst.addr)] else []) ++
      (r.gateway.map fun gw => .gateway (address gw)).toList ++ [.oif r.oif, .priority r.metric]

/-! ## What is listed -/

section Listed

variable {IpProtocol : Type} {codes : Codes IpProtocol}

/-- Prefix lengths are bytes of the header, and a suppressed length is not the
number that stands for none. -/
structure RuleReading.Sound (s : RuleReading) : Prop where
  src : ∀ p, s.rule.src = some p → p.bits < 256
  dst : ∀ p, s.rule.dst = some p → p.bits < 256
  suppressed : ∀ len, s.rule.suppressPrefixlen = some len → len ≠ 0xffffffff

theorem RuleReading.Sound.read {header : RuleHeader} {s : RuleReading} (sound : s.Sound)
    (a : RuleAttribute IpProtocol) : (s.read codes header a).Sound := by
  cases a with
  | source addr =>
    refine ⟨?_, sound.dst, sound.suppressed⟩
    intro p eq
    cases eq
    exact header.srcLen.toNat_lt
  | destination addr =>
    refine ⟨sound.src, ?_, sound.suppressed⟩
    intro p eq
    cases eq
    exact header.dstLen.toNat_lt
  | suppressPrefixLen n =>
    by_cases none : n ≠ 0xffffffff
    · rw [RuleReading.read, if_pos none]
      refine ⟨sound.src, sound.dst, ?_⟩
      intro len eq
      cases eq
      exact none
    · rw [RuleReading.read, if_neg none]
      exact sound
  | _ => exact ⟨sound.src, sound.dst, sound.suppressed⟩

theorem RuleReading.Sound.run {header : RuleHeader} {s : RuleReading} (sound : s.Sound)
    (attributes : List (RuleAttribute IpProtocol)) :
    (attributes.foldl (RuleReading.read codes header) s).Sound := by
  induction attributes generalizing s with
  | nil => exact sound
  | cons a attributes ih => exact ih (sound.read a)

/-- A rule that a message gives: the message's action is one that a number is
converted to. -/
def Rule.Listed (codes : Codes IpProtocol) (r : Rule) : Prop :=
  ∃ m : RuleMessage IpProtocol,
    parseRule codes m = some r ∧ ∃ code, m.header.action = codes.action code

/-- What a listed rule is like. -/
structure Rule.Sound (codes : Codes IpProtocol) (r : Rule) : Prop where
  src : ∀ p, r.src = some p → p.bits < 256
  dst : ∀ p, r.dst = some p → p.bits < 256
  suppressed : ∀ len, r.suppressPrefixlen = some len →
    len ≠ 0xffffffff ∧ ∃ table, r.action = .table table
  /-- No action of another name has this number. -/
  other : ∀ code, r.action = .other code → ∀ header : RuleHeader, ∀ s : RuleReading,
    header.action = codes.action code → s.action codes header = .other code

theorem RuleReading.action_table {header : RuleHeader} {s : RuleReading} {table : UInt32}
    (eq : s.action codes header = .table table) : header.action = .toTable := by
  rw [RuleReading.action] at eq
  cases action : header.action <;> rw [action] at eq <;> simp_all

theorem Rule.Listed.sound (inverse : codes.Inverse) {r : Rule} (listed : r.Listed codes) :
    r.Sound codes := by
  obtain ⟨m, parsed, number, action⟩ := listed
  obtain ⟨family, -, rfl⟩ := Option.map_eq_some_iff.1 parsed
  have begins : (RuleReading.begin m.header family).Sound := by
    constructor <;> intro _ eq <;> cases eq
  have sound : (m.attributes.foldl (RuleReading.read codes m.header)
      (.begin m.header family)).Sound := begins.run m.attributes
  generalize m.attributes.foldl (RuleReading.read codes m.header) (.begin m.header family) = s
    at sound
  refine ⟨sound.src, sound.dst, ?_, ?_⟩
  · intro len eq
    cases acts : s.action codes m.header <;> simp [RuleReading.finish, acts] at eq ⊢
    exact sound.suppressed len eq
  · intro code eq header t same
    have eq : s.action codes m.header = .other code := eq
    have number : codes.actionCode m.header.action = code → header.action = m.header.action := by
      intro eq
      rw [action, inverse.action] at eq
      rw [same, action, eq]
    cases acts : m.header.action <;> simp [RuleReading.action, acts] at eq <;>
      rw [acts] at number <;> simp [RuleReading.action, number eq, eq]

end Listed

/-! ## Putting a rule back -/

section Back

variable {IpProtocol : Type} {codes : Codes IpProtocol} {header : RuleHeader} {s : RuleReading}

/-- An optional attribute, where reading none of it leaves the state. -/
theorem read_optional {α : Type} (write : α → RuleAttribute IpProtocol) (value : Option α)
    (set : RuleReading → Option α → RuleReading) (absent : set s none = s)
    (present : ∀ a, value = some a → s.read codes header (write a) = set s (some a)) :
    (value.map write).toList.foldl (RuleReading.read codes header) s = set s value := by
  cases value with
  | none => exact absent.symm
  | some a => exact present a rfl

theorem read_fwmark (mark : s.mark = none) (mask : s.mask = none)
    (fwmark : Option (UInt32 × UInt32)) :
    (fwmark.elim [] fun fwmark => [RuleAttribute.fwMark fwmark.1, .fwMask fwmark.2]).foldl
        (RuleReading.read codes header) s =
      { s with mark := fwmark.map Prod.fst, mask := fwmark.map Prod.snd } := by
  cases fwmark with
  | none =>
    obtain ⟨rule, table, goto, mark', mask'⟩ := s
    obtain rfl : mark' = none := mark
    obtain rfl : mask' = none := mask
    rfl
  | some fwmark => rfl

theorem fwmark_back {fwmark : Option (UInt32 × UInt32)} (mark : s.mark = fwmark.map Prod.fst)
    (mask : s.mask = fwmark.map Prod.snd) : s.fwmark = fwmark := by
  rw [RuleReading.fwmark, mark, mask]
  cases fwmark <;> rfl

/-- The rule without what its action's attributes and its mark say. -/
def Rule.selected (r : Rule) : Rule :=
  { r with action := .nop, fwmark := none, suppressPrefixlen := none }

theorem invert_back (invert : Bool) :
    (if invert then 0 ||| invertFlag else 0) &&& invertFlag = invertFlag ↔ invert = true := by
  cases invert <;> decide

theorem src_back {r : Rule} (sound : r.Sound codes) {p : Prefix} (eq : r.src = some p) :
    ⟨p.addr, (ruleMessage codes r).header.srcLen.toNat⟩ = p := by
  have below := sound.src p eq
  have len : (ruleMessage codes r).header.srcLen.toNat = p.bits := by
    simp [ruleMessage, eq]
    omega
  rw [len]

theorem dst_back {r : Rule} (sound : r.Sound codes) {p : Prefix} (eq : r.dst = some p) :
    ⟨p.addr, (ruleMessage codes r).header.dstLen.toNat⟩ = p := by
  have below := sound.dst p eq
  have len : (ruleMessage codes r).header.dstLen.toNat = p.bits := by
    simp [ruleMessage, eq]
    omega
  rw [len]

/-- Everything but the action is read back. -/
theorem ruleMessage_read (inverse : codes.Inverse) {r : Rule} (sound : r.Sound codes) :
    ∃ rest, (ruleMessage codes r).attributes.foldl
        (RuleReading.read codes (ruleMessage codes r).header)
        (.begin (ruleMessage codes r).header r.family) =
      rest.foldl (RuleReading.read codes (ruleMessage codes r).header)
        { rule := r.selected
          table := (ruleMessage codes r).header.table.toUInt32
          mark := r.fwmark.map Prod.fst
          mask := r.fwmark.map Prod.snd } ∧
      rest = match r.action with
        | .table table =>
          RuleAttribute.table table :: (r.suppressPrefixlen.map RuleAttribute.suppressPrefixLen).toList
        | .goto target => [.goto target]
        | _ => [] := by
  refine ⟨_, ?_, rfl⟩
  have src := fun p eq => src_back (p := p) sound eq
  have dst := fun p eq => dst_back (p := p) sound eq
  have begins : RuleReading.begin (ruleMessage codes r).header r.family =
      { rule := { family := r.family, priority := 0, action := .nop, tos := r.tos, invert := r.invert }
        table := (ruleMessage codes r).header.table.toUInt32 } := by
    simp only [RuleReading.begin, ruleMessage, invert_back, Bool.decide_eq_true]
  generalize (ruleMessage codes r).header = header at src dst begins ⊢
  rw [begins, ruleMessage]
  simp only [List.foldl_append]
  rw [read_optional _ r.src fun s src => { s with rule.src := src },
    read_optional _ r.dst fun s dst => { s with rule.dst := dst },
    read_optional _ r.iif fun s iif => { s with rule.iif := iif },
    read_optional _ r.oif fun s oif => { s with rule.oif := oif },
    read_fwmark,
    read_optional _ r.ipProto fun s ipProto => { s with rule.ipProto := ipProto },
    read_optional _ r.sport fun s sport => { s with rule.sport := sport },
    read_optional _ r.dport fun s dport => { s with rule.dport := dport },
    read_optional _ r.uidRange fun s uidRange => { s with rule.uidRange := uidRange }]
  · rfl
  -- what each attribute says is the field; before it the field is empty
  all_goals first | rfl | try exact fun _ _ => rfl
  · intro code eq
    rw [RuleReading.read, inverse.protocol]
  · intro p eq
    rw [RuleReading.read, dst p eq]
  · intro p eq
    rw [RuleReading.read, src p eq]

theorem finish_back {r : Rule} {suppress : Option UInt32}
    (rule : s.rule = { r.selected with suppressPrefixlen := suppress })
    (mark : s.mark = r.fwmark.map Prod.fst) (mask : s.mask = r.fwmark.map Prod.snd)
    (action : s.action codes header = r.action)
    (kept : (match r.action with | .table _ => suppress | _ => none) = r.suppressPrefixlen) :
    s.finish codes header = r := by
  rw [RuleReading.finish, action, fwmark_back mark mask, rule]
  cases r
  dsimp only at kept
  subst kept
  rfl

theorem parse_ruleMessage (inverse : codes.Inverse) {r : Rule} (sound : r.Sound codes) :
    parseRule codes (ruleMessage codes r) = some r := by
  have family : family (ruleMessage codes r).header.family = some r.family := by
    cases family : r.family <;> simp [ruleMessage, family, addressFamily, TunRules.family]
  have unsuppressed : (∀ table, r.action ≠ .table table) → none = r.suppressPrefixlen := by
    intro other
    cases suppress : r.suppressPrefixlen with
    | none => rfl
    | some len =>
      obtain ⟨-, table, action⟩ := sound.suppressed len suppress
      exact absurd action (other table)
  obtain ⟨rest, read, rest_eq⟩ := ruleMessage_read inverse sound
  rw [parseRule, family, Option.map_some, read, Option.some.injEq]
  cases action : r.action with
  | table table =>
    rw [action] at rest_eq
    rw [rest_eq, List.foldl_cons,
      read_optional _ r.suppressPrefixlen fun s len => { s with rule.suppressPrefixlen := len }]
    · apply finish_back rfl rfl rfl
      · simp [RuleReading.action, ruleMessage, action, RuleReading.read]
      · rw [action]
    · rfl
    · intro len suppress
      exact if_pos (sound.suppressed len suppress).1
  | goto target =>
    rw [action] at rest_eq
    rw [rest_eq]
    apply finish_back rfl rfl rfl
    · simp [RuleReading.action, ruleMessage, action, RuleReading.read]
    · rw [action]
      exact unsuppressed (by simp [action])
  | other code =>
    rw [action] at rest_eq
    rw [rest_eq]
    apply finish_back rfl rfl rfl
    · rw [action]
      exact sound.other code action _ _ (by simp [ruleMessage, action])
    · rw [action]
      exact unsuppressed (by simp [action])
  | _ =>
    rw [action] at rest_eq
    rw [rest_eq]
    apply finish_back rfl rfl rfl
    · simp [RuleReading.action, ruleMessage, action]
    · rw [action]
      exact unsuppressed (by simp [action])

end Back

/-! ## Putting a route back -/

/-- A route that a message gives. -/
def Route.Listed (r : Route) : Prop := ∃ m, parseRoute m = some r

/-- Of a listed route of no length: the address the message leaves out. -/
def Route.Rooted (r : Route) : Prop :=
  r.dst.bits = 0 → r.dst.addr = unspecified (familyOf r.dst.addr)

theorem Route.read_bits {r r' : Route} {a : RouteAttribute} (eq : r.read a = some r') :
    r'.dst.bits = r.dst.bits := by
  cases a with
  | destination d =>
    obtain ⟨addr, -, rfl⟩ := Option.map_eq_some_iff.1 eq
    rfl
  | _ => cases eq; rfl

theorem Route.run_bits {r r' : Route} {attributes : List RouteAttribute}
    (eq : attributes.foldlM Route.read r = some r') : r'.dst.bits = r.dst.bits := by
  induction attributes generalizing r with
  | nil => cases eq; rfl
  | cons a attributes ih =>
    rw [List.foldlM_cons] at eq
    obtain ⟨next, one, rest⟩ := Option.bind_eq_some_iff.1 eq
    rw [ih rest, Route.read_bits one]

theorem Route.Listed.sound {r : Route} (listed : r.Listed) : r.dst.bits < 256 ∧ r.oif ≠ 0 := by
  obtain ⟨m, parsed⟩ := listed
  obtain ⟨family, -, parsed⟩ := Option.bind_eq_some_iff.1 parsed
  by_cases unicast : m.header.kind ≠ .unicast
  · simp [unicast] at parsed
  · simp only [if_neg unicast] at parsed
    obtain ⟨route, run, last⟩ := Option.bind_eq_some_iff.1 parsed
    have bits := Route.run_bits run
    by_cases through : route.oif ≠ 0
    · rw [if_pos through] at last
      cases last
      exact ⟨bits ▸ m.header.destinationPrefixLength.toNat_lt, through⟩
    · rw [if_neg through] at last
      cases last

theorem routeAddress_address (addr : IpAddr) : routeAddress (address addr) = some addr := by
  cases addr <;> rfl

theorem parse_routeMessage {r : Route} (sound : r.dst.bits < 256 ∧ r.oif ≠ 0) (rooted : r.Rooted)
    (table : UInt32) : parseRoute (routeMessage r table) = some r := by
  have family : family (routeMessage r table).header.addressFamily = some (familyOf r.dst.addr) := by
    cases addr : r.dst.addr <;> simp [routeMessage, addr, familyOf, addressFamily, TunRules.family]
  obtain ⟨⟨addr, bits⟩, gateway, oif, metric⟩ := r
  have below : bits < 256 := sound.1
  have through : oif ≠ 0 := sound.2
  have len : bits % 256 = bits := Nat.mod_eq_of_lt below
  rw [parseRoute, family]
  by_cases long : 0 < bits
  · cases gateway <;>
      simp [routeMessage, Route.read, routeAddress_address, long, len, through]
  · have root : addr = unspecified (familyOf addr) := rooted (by show bits = 0; omega)
    cases gateway <;>
      simp [routeMessage, Route.read, routeAddress_address, long, len, through, ← root]

theorem routeTable_routeMessage (r : Route) (table : UInt32) :
    routeTable (routeMessage r table) = table := rfl

/-! ## Entries, not their text -/

section Entries

variable {α : Type} [Display α] [DecidableEq α] {entry : α}

theorem count_text {entries : List α} (one : ∀ a ∈ entries, text a = text entry → a = entry) :
    (entries.map text).count (text entry) = entries.count entry := by
  induction entries with
  | nil => rfl
  | cons a entries ih =>
    rw [List.forall_mem_cons] at one
    rw [List.map_cons, List.count_cons, List.count_cons, ih one.2]
    by_cases same : a = entry
    · simp [same]
    · have texts : text a ≠ text entry := fun eq => same (one.1 eq)
      simp [same, texts]

/-- Where entries of one printed form are equal, what is missing is counted by
entries. -/
theorem missing_values {want listed : List α}
    (one : ∀ a ∈ want ++ listed, ∀ b ∈ want, text a = text b → a = b) (entry : α) :
    (missing want listed).count entry = want.count entry - listed.count entry := by
  have among := (missing_sublist want listed).subset
  by_cases mem : entry ∈ want
  · have count := missing_count want listed (text entry)
    rw [count_text, count_text, count_text] at count
    · exact count
    · intro a mem'
      exact one a (List.mem_append_right _ mem') entry mem
    · intro a mem'
      exact one a (List.mem_append_left _ mem') entry mem
    · intro a mem'
      exact one a (List.mem_append_left _ (among mem')) entry mem
  · rw [List.count_eq_zero_of_not_mem mem, List.count_eq_zero_of_not_mem fun m => mem (among m),
      Nat.zero_sub]

end Entries

/-! ## A listed entry is put back as itself -/

/-- An interface name is one word. -/
def Rule.Named (r : Rule) : Prop :=
  (∀ name, r.iif = some name → ∀ c ∈ name.toList, ¬ isWhiteSpace c) ∧
    ∀ name, r.oif = some name → ∀ c ∈ name.toList, ¬ isWhiteSpace c

theorem Rule.Listed.plain {IpProtocol : Type} {codes : Codes IpProtocol} (inverse : codes.Inverse)
    {r : Rule} (listed : r.Listed codes) (named : r.Named) : r.Plain := by
  have space : isWhiteSpace ' ' = true := by decide
  have word : ∀ name : String, (∀ c ∈ name.toList, ¬ isWhiteSpace c) → ' ' ∉ name.toList :=
    fun name word mem => word ' ' mem space
  exact
    { iif := fun name eq => word name (named.1 name eq)
      oif := fun name eq => word name (named.2 name eq)
      suppressed := fun len eq => ((listed.sound inverse).suppressed len eq).2 }

/-- The message for a listed entry is read back as the entry, entries of one
printed form are equal, and what is missing is counted by entries. -/
theorem entries_restored {IpProtocol : Type} (codes : Codes IpProtocol) (inverse : codes.Inverse) :
    (∀ r : Rule, r.Listed codes → parseRule codes (ruleMessage codes r) = some r) ∧
      (∀ r : Route, r.Listed → r.Rooted → ∀ table,
        parseRoute (routeMessage r table) = some r ∧
          routeTable (routeMessage r table) = table) ∧
      (∀ r s : Rule, r.Listed codes → r.Named → s.Listed codes → s.Named →
        text r = text s → r = s) ∧
      (∀ r s : Route, text r = text s → r = s) ∧
      (∀ want listed : List Rule, (∀ r ∈ want ++ listed, r.Listed codes ∧ r.Named) →
        ∀ r, (missing want listed).count r = want.count r - listed.count r) ∧
      ∀ (want listed : List Route) (r : Route),
        (missing want listed).count r = want.count r - listed.count r := by
  have rules : ∀ r s : Rule, r.Listed codes → r.Named → s.Listed codes → s.Named →
      text r = text s → r = s := fun r s listed named listed' named' =>
    rule_text_injective (listed.plain inverse named) (listed'.plain inverse named')
  refine ⟨?_, ?_, rules, fun r s => route_text_injective, ?_, ?_⟩
  · intro r listed
    exact parse_ruleMessage inverse (listed.sound inverse)
  · intro r listed rooted table
    exact ⟨parse_routeMessage listed.sound rooted table, routeTable_routeMessage r table⟩
  · intro want listed all
    apply missing_values
    intro a mem b mem'
    obtain ⟨left, named⟩ := all a mem
    obtain ⟨right, named'⟩ := all b (List.mem_append_left _ mem')
    exact rules a b left named right named'
  · intro want listed
    apply missing_values
    intro a _ b _
    exact route_text_injective

/-- The kernel's numbers of the actions. -/
def kernelCodes : Codes UInt8 where
  action code :=
    if code = 0 then .unspec
    else if code = 1 then .toTable
    else if code = 2 then .goto
    else if code = 3 then .nop
    else if code = 6 then .blackhole
    else if code = 7 then .unreachable
    else if code = 8 then .prohibit
    else .other code
  actionCode
    | .unspec => 0
    | .toTable => 1
    | .goto => 2
    | .nop => 3
    | .blackhole => 6
    | .unreachable => 7
    | .prohibit => 8
    | .other code => code
  protocol := id
  protocolCode := id

theorem kernelCodes_inverse : kernelCodes.Inverse where
  action code := by
    simp only [kernelCodes]
    split_ifs <;> simp_all
  protocol _ := rfl

theorem entries_restored_sample :
    let marked : Rule :=
      { family := .v4, priority := 9095, action := .table 2091, fwmark := some (0x2024, 0xff)
        invert := true, dst := some ⟨.v4 0x0a3c9f58, 30⟩, suppressPrefixlen := some 0 }
    let other : Rule := { family := .v6, priority := 9101, action := .other 5, iif := some "lo" }
    let route : Route := ⟨⟨.v4 0, 0⟩, none, 7, 0⟩
    parseRule kernelCodes (ruleMessage kernelCodes marked) = some marked ∧
      parseRule kernelCodes (ruleMessage kernelCodes other) = some other ∧
      parseRoute (routeMessage route 2091) = some route ∧
      (text marked = text other → marked = other) := by
  intro marked other route
  obtain ⟨rules, routes, texts, -⟩ := entries_restored kernelCodes kernelCodes_inverse
  have listed : marked.Listed kernelCodes :=
    ⟨ruleMessage kernelCodes marked, by decide, 1, by decide⟩
  have listed' : other.Listed kernelCodes :=
    ⟨ruleMessage kernelCodes other, by decide, 5, by decide⟩
  have named : marked.Named := by constructor <;> intro name eq <;> cases eq
  have named' : other.Named := by
    constructor <;> intro name eq <;> cases eq
    intro c mem
    have among : c = 'l' ∨ c = 'o' := by simpa using mem
    rcases among with rfl | rfl <;> decide
  refine ⟨rules _ listed, rules _ listed', (routes route ?_ ?_ 2091).1,
    texts _ _ listed named listed' named'⟩
  · exact ⟨routeMessage route 2091, by decide⟩
  · intro _
    rfl

end PpvpnCore.TunRules
