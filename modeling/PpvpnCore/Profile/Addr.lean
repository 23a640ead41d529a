import PpvpnCore.Profile.Model

/-!
# Addresses and prefixes

IP addresses and prefixes as the profile contract reads them: an IPv6 zone is
accepted, and an IPv4-mapped IPv6 address stays IPv6. An address that the
source prints is kept as the address.
-/

namespace PpvpnCore

open Lib

inductive IpAddr where
  | v4 (addr : BitVec 32)
  | v6 (addr : BitVec 128)
  deriving DecidableEq, Repr

namespace IpAddr

/-- The standard library's parser of either family. -/
def parse (value : List Char) : Option IpAddr :=
  match Parser.parseWith Parser.readIpv4Addr value with
  | some addr => some (.v4 addr)
  | none => (Parser.parseWith Parser.readIpv6Addr value).map .v6

def isIpv4 : IpAddr → Bool
  | .v4 _ => true
  | .v6 _ => false

/-- An IPv4-mapped IPv6 address as the IPv4 address, any other as it is. -/
def unmap : IpAddr → IpAddr
  | .v4 addr => .v4 addr
  | .v6 addr => if addr >>> 32 = 0xffff then .v4 (addr.truncate 32) else .v6 addr

end IpAddr

/-- An IPv4 or IPv6 literal; IPv6 may carry a zone, which is dropped. -/
def parseAddr (value : List Char) : Option IpAddr :=
  match Parser.parseWith Parser.readIpv4Addr value with
  | some addr => some (.v4 addr)
  | none =>
    match splitOnce '%' value with
    | some (_, []) => none
    | some (address, _) => (Parser.parseWith Parser.readIpv6Addr address).map .v6
    | none => (Parser.parseWith Parser.readIpv6Addr value).map .v6

/-- An address and how many of its leading bits count. -/
structure Prefix where
  addr : IpAddr
  bits : Nat
  deriving DecidableEq, Repr

namespace Prefix

/-- The `bits` leading ones of a word. -/
def mask (width bits : Nat) : BitVec width := BitVec.allOnes width <<< (width - bits)

def masked (p : Prefix) : Prefix :=
  match p.addr with
  | .v4 addr => ⟨.v4 (addr &&& mask 32 p.bits), p.bits⟩
  | .v6 addr => ⟨.v6 (addr &&& mask 128 p.bits), p.bits⟩

/-- Whether `ip` is of the prefix's family and shares its leading bits. -/
def contains (p : Prefix) (ip : IpAddr) : Bool :=
  match p.addr, ip with
  | .v4 net, .v4 addr => net &&& mask 32 p.bits == addr &&& mask 32 p.bits
  | .v6 net, .v6 addr => net &&& mask 128 p.bits == addr &&& mask 128 p.bits
  | _, _ => false

/-- One address alone. -/
def host (ip : IpAddr) : Prefix := ⟨ip, if ip.isIpv4 then 32 else 128⟩

end Prefix

/-- `bits` of a prefix text: decimal, without a leading zero. -/
def bitsText (bits : List Char) : Bool :=
  bits ≠ [] && bits.all Char.isDigit && !(1 < bits.length && bits.head? == some '0')

/-- `address/bits`, no zone, bits within the family's length. -/
def parsePrefix (value : List Char) : Option Prefix := do
  let (address, bits) ← splitOnce '/' value
  if '%' ∈ address ∨ !bitsText bits then none
  let addr ← parseAddr address
  let bits ← parseDecimal 256 bits
  if bits ≤ (if addr.isIpv4 then 32 else 128) then some ⟨addr, bits⟩ else none

/-- A prefix of the program's own tables. -/
def builtin (value : String) : Prefix :=
  (parsePrefix value.toList).getD ⟨.v4 0, 0⟩

def reserved : List String :=
  ["0.0.0.0/8", "100.64.0.0/10", "127.0.0.0/8", "169.254.0.0/16", "192.0.0.0/24",
   "192.0.2.0/24", "198.18.0.0/15", "198.51.100.0/24", "203.0.113.0/24", "224.0.0.0/4",
   "240.0.0.0/4", "::/128", "::1/128", "fc00::/7", "fe80::/10", "ff00::/8", "2001:db8::/32"]

def isGlobalUnicast : IpAddr → Bool
  | .v4 a =>
    a ≠ 0 && a ≠ BitVec.allOnes 32 && a >>> 24 ≠ 127 && a >>> 28 ≠ 0xe && a >>> 16 ≠ 0xa9fe
  | .v6 a => a ≠ 0 && a ≠ 1 && a >>> 120 ≠ 0xff && a >>> 118 ≠ 0x3fa

/-- RFC 1918 and `fc00::/7`, without unmapping. -/
def isPrivate : IpAddr → Bool
  | .v4 a => a >>> 24 = 10 || a >>> 20 = 0xac1 || a >>> 16 = 0xc0a8
  | .v6 a => a >>> 121 = 0x7e

/-- The entry-IP rule: global unicast, not private, outside the reserved
ranges. -/
def isPublicUnicast (ip : IpAddr) : Bool :=
  isGlobalUnicast ip && !isPrivate ip && !reserved.any fun p => (builtin p).contains ip

theorem mask_and_mask {w : Nat} (a m : BitVec w) : a &&& m &&& m = a &&& m := by
  rw [BitVec.and_assoc, BitVec.and_self]

/-- A masked prefix holds the addresses the prefix holds. -/
theorem Prefix.contains_masked (p : Prefix) (ip : IpAddr) :
    p.masked.contains ip = p.contains ip := by
  obtain ⟨addr, bits⟩ := p
  cases addr <;> cases ip <;> simp [Prefix.masked, Prefix.contains, mask_and_mask]

end PpvpnCore
