import PpvpnCore.Profile.Addr

/-!
The Linux TUN's policy routing (`tunrules/mod.rs`): rules and routes as the
kernel lists them, what is ours, what is missing, and the order of putting
back. An entry's printed form is its identity: two entries with the same string
are the same.
-/

namespace PpvpnCore.TunRules

/-! ## Printed forms -/

/-- What `to_string` gives. -/
class Display (α : Type) where
  text : α → String

export Display (text)

inductive Family where
  | v4 | v6
  deriving DecidableEq, Repr

def Family.show : Family → String
  | .v4 => "v4"
  | .v6 => "v6"

def showIpv4 (addr : BitVec 32) : String :=
  let n := addr.toNat
  ".".intercalate [toString (n / 2 ^ 24), toString (n / 2 ^ 16 % 256), toString (n / 2 ^ 8 % 256),
    toString (n % 256)]

def hex (n : Nat) : String := String.ofList (Nat.toDigits 16 n)

def segments (addr : BitVec 128) : List Nat :=
  (List.range 8).map fun i => addr.toNat / 2 ^ (16 * (7 - i)) % 2 ^ 16

/-- The zeros that begin each tail of the segments. -/
def zeroRuns : List Nat → List Nat
  | [] => []
  | s :: rest => (if s = 0 then (zeroRuns rest).headD 0 + 1 else 0) :: zeroRuns rest

/-- Where the first longest run of zero segments begins, and its length. -/
def longestZeros (segments : List Nat) : Nat × Nat :=
  (zeroRuns segments).zipIdx.foldl
    (fun best (length, i) => if best.2 < length then (i, length) else best) (0, 0)

/-- The standard library's form: the first longest run of two or more zero
segments is `::`, an IPv4-mapped address ends in the IPv4 one. -/
def showIpv6 (addr : BitVec 128) : String :=
  if addr >>> 32 = 0xffff then "::ffff:" ++ showIpv4 (addr.truncate 32)
  else
    let parts := segments addr
    let (start, length) := longestZeros parts
    let join := fun parts : List Nat => ":".intercalate (parts.map hex)
    if 1 < length then join (parts.take start) ++ "::" ++ join (parts.drop (start + length))
    else join parts

def showAddr : IpAddr → String
  | .v4 addr => showIpv4 addr
  | .v6 addr => showIpv6 addr

def showPrefix (p : Prefix) : String := showAddr p.addr ++ "/" ++ toString p.bits

/-! ## Rules and routes -/

/-- What a rule does. -/
inductive Action where
  | table (table : UInt32)
  | goto (target : UInt32)
  | nop
  | blackhole
  | unreachable
  | prohibit
  | other (action : UInt8)
  deriving DecidableEq, Repr

/-- A policy routing rule as the kernel lists it. -/
structure Rule where
  family : Family
  priority : UInt32
  action : Action
  /-- The action applies to what the selectors do not match. -/
  invert : Bool := false
  src : Option Prefix := none
  dst : Option Prefix := none
  tos : UInt8 := 0
  /-- Mark and mask. -/
  fwmark : Option (UInt32 × UInt32) := none
  iif : Option String := none
  oif : Option String := none
  ipProto : Option UInt8 := none
  sport : Option (UInt16 × UInt16) := none
  dport : Option (UInt16 × UInt16) := none
  uidRange : Option (UInt32 × UInt32) := none
  /-- With `Action.table` only. -/
  suppressPrefixlen : Option UInt32 := none
  deriving DecidableEq, Repr

/-- The rule matches every packet. -/
def Rule.selectorless (r : Rule) : Bool :=
  !r.invert && r.src.isNone && r.dst.isNone && r.tos = 0 && r.fwmark.isNone && r.iif.isNone &&
    r.oif.isNone && r.ipProto.isNone && r.sport.isNone && r.dport.isNone && r.uidRange.isNone

def showAction (suppressPrefixlen : Option UInt32) : Action → String
  | .table table => " lookup " ++ toString table ++
      (suppressPrefixlen.elim "" fun len => " suppress_prefixlength " ++ toString len)
  | .goto target => " goto " ++ toString target
  | .nop => " nop"
  | .blackhole => " blackhole"
  | .unreachable => " unreachable"
  | .prohibit => " prohibit"
  | .other action => " action " ++ toString action

/-- The rule in `ip rule` terms, prefixed by priority and family. -/
instance : Display Rule where
  text r :=
    let range := fun (name : String) (bounds : Option (Nat × Nat)) =>
      bounds.elim "" fun (first, last) => name ++ toString first ++ "-" ++ toString last
    toString r.priority ++ "/" ++ r.family.show ++
      (if r.invert then " not" else "") ++
      (r.src.elim "" fun src => " from " ++ showPrefix src) ++
      (r.dst.elim "" fun dst => " to " ++ showPrefix dst) ++
      (if r.tos ≠ 0 then " tos " ++ toString r.tos else "") ++
      (r.fwmark.elim "" fun (mark, mask) =>
        " fwmark 0x" ++ hex mark.toNat ++ "/0x" ++ hex mask.toNat) ++
      (r.iif.elim "" fun iif => " iif " ++ iif) ++
      (r.oif.elim "" fun oif => " oif " ++ oif) ++
      (r.ipProto.elim "" fun proto => " ipproto " ++ toString proto) ++
      range " sport " (r.sport.map fun (first, last) => (first.toNat, last.toNat)) ++
      range " dport " (r.dport.map fun (first, last) => (first.toNat, last.toNat)) ++
      range " uidrange " (r.uidRange.map fun (first, last) => (first.toNat, last.toNat)) ++
      showAction r.suppressPrefixlen r.action

/-- A route of the scope's table through the TUN. -/
structure Route where
  dst : Prefix
  gateway : Option IpAddr
  /-- The output interface's index. -/
  oif : UInt32
  metric : UInt32
  deriving DecidableEq, Repr

def Route.coversGateway (r : Route) : Bool := r.gateway.any r.dst.contains

instance : Display Route where
  text r := showPrefix r.dst ++ (r.gateway.elim "" fun gw => " via " ++ showAddr gw) ++
    " dev#" ++ toString r.oif ++ " metric " ++ toString r.metric

/-! ## What is ours -/

def tableMain : UInt32 := 254

/-- The namespace sail's auto_route was given: the TUN interface, its table and
its rule priorities. -/
structure Scope where
  «interface» : String
  table : UInt32
  ruleStart : UInt32
  ruleEnd : UInt32
  deriving DecidableEq, Repr

def Scope.inRange (scope : Scope) (priority : UInt32) : Bool :=
  scope.ruleStart ≤ priority && priority ≤ scope.ruleEnd

def Scope.owns (scope : Scope) (r : Rule) : Bool :=
  let namesTun := fun name : Option String => scope.interface ≠ "" && name = some scope.interface
  let byAction := match r.action with
    | .table table => table = scope.table
    | .goto target => scope.inRange target
    | .nop | .unreachable => r.selectorless
    | _ => false
  byAction || namesTun r.iif || namesTun r.oif ||
    -- sail's DNS rule: everything but DNS looks up main
    (r.invert && r.dport = some (53, 53) && r.action = .table tableMain &&
      r.suppressPrefixlen = some 0 && { r with invert := false, dport := none }.selectorless)

/-- The rules listed in the scope's priorities that sail installs, and the rest. -/
def Scope.owned (scope : Scope) (rules : List Rule) : List Rule × List Rule :=
  (rules.filter fun r => scope.inRange r.priority).partition scope.owns

/-! ## What is missing -/

/-- Takes one off the count of an entry's printed form. -/
def takeOne (count : String → Nat) (text : String) : String → Nat :=
  fun s => if s = text then count s - 1 else count s

/-- The entries of `want` that `count` does not cover, in `want`'s order. -/
def missingFrom {α : Type} [Display α] : (count : String → Nat) → List α → List α
  | _, [] => []
  | count, item :: want =>
    if 0 < count (text item) then missingFrom (takeOne count (text item)) want
    else item :: missingFrom count want

/-- The entries of `want` not in `have` (counting duplicates), in `want`'s
order. -/
def missing {α : Type} [Display α] (want listed : List α) : List α :=
  missingFrom (fun s => (listed.map text).count s) want

/-- Rules in the order they are added back: highest priority number first, so a
goto's target exists before the goto. -/
def restoreOrder (rules : List Rule) : List Rule :=
  rules.mergeSort fun a b => b.priority ≤ a.priority

/-- Routes in the order they are added back, those whose own prefix covers
their gateway last. -/
def routeRestoreOrder (routes : List Route) : List Route :=
  routes.mergeSort fun a b => a.coversGateway ≤ b.coversGateway

/-- The rules' and routes' strings, for logs and the status. -/
def names (rules : List Rule) (routes : List Route) : List String :=
  rules.map text ++ routes.map fun r => "route " ++ text r

end PpvpnCore.TunRules
