import Mathlib.Data.Bool.Count
import Mathlib.Data.List.TakeWhile
import Mathlib.Data.Nat.Bitwise
import Mathlib.Tactic.Ring
import PpvpnCore.Lib.Binary

/-!
The reader of binary rule sets (`rulesets/srs.rs`) and the grammar it reads:
whether a set can be read, and whether it may be mirrored into DNS rules. The
zlib inflation is a parameter.
-/

namespace PpvpnCore.Srs

open Lib

abbrev Bytes := List UInt8

abbrev Reader (α : Type) := Scan String UInt8 α

/-! ## Reading -/

def maxVersion : UInt8 := 5
def maxDepth : Nat := 100

namespace Reader

def take (n : Nat) : Reader Bytes := fun data =>
  if data.length < n then .error "unexpected end of data" else .ok (data.take n, data.drop n)

def u8 : Reader UInt8 := fun data =>
  match data with
  | [] => .error "unexpected end of data"
  | b :: rest => .ok (b, rest)

/-- The bytes of a number from the given shifts on; what is shifted past the
64 bits is lost. -/
def uvarintFrom : (shifts : List Nat) → (value : Nat) → Reader Nat
  | [], _ => Scan.fail "uvarint overflows"
  | shift :: shifts, value => do
    let byte ← u8
    let value := value ||| (byte &&& 0x7f).toNat <<< shift % 2 ^ 64
    if byte &&& 0x80 = 0 then return value else uvarintFrom shifts value

def uvarint : Reader Nat := uvarintFrom ((List.range 10).map (7 * ·)) 0

/-- The count, where so many items of `itemLen` bytes at least fit in what is
left. -/
def within (itemLen count : Nat) : Reader Nat := fun data =>
  if data.length / max itemLen 1 < count then
    .error ("count " ++ toString count ++ " past the end of data")
  else .ok (count, data)

def count (itemLen : Nat) : Reader Nat := uvarint >>= within itemLen

def bytes : Reader Bytes := do
  let len ← count 1
  take len

/-- `std::str::from_utf8` accepts the bytes. -/
def utf8 (text : Bytes) : Bool := (ByteArray.mk text.toArray).validateUTF8

/-- A list of UTF-8 strings; returns how many. -/
def strings : Reader Nat := do
  let count ← count 1
  loop (fun _ => do
    let text ← bytes
    if utf8 text then return () else Scan.fail "invalid utf-8") count ()
  return count

/-- Pieces of one width. -/
def chunks (width : Nat) : (n : Nat) → Bytes → List Bytes
  | 0, _ => []
  | n + 1, data => data.take width :: chunks width n (data.drop width)

def u64s : Reader (List Nat) := do
  let count ← count 8
  let words ← take (count * 8)
  return (chunks 8 count words).map ofBigEndian

def countOnes (w : Nat) : Nat := ((List.range 64).filter fun i => w.testBit i).length

def lastOne (bitmap : List Nat) : Option Nat :=
  (bitmap.zipIdx.reverse.find? fun word => word.1 ≠ 0).map fun word =>
    word.2 <<< 6 ||| Nat.log2 word.1

/-- The domain matcher, checked for shape. -/
def succinct : Reader Unit := do
  let _ ← u8
  let leaves ← count 8
  let _ ← take (leaves * 8)
  let bitmap ← u64s
  let labels ← bytes
  let ones := (bitmap.map countOnes).sum
  let zeros := (lastOne bitmap).elim 0 fun last => last + 1 - ones
  if lastOne bitmap = none ∨ ones ≠ zeros + 1 ∨ labels.length ≠ zeros then
    Scan.fail "malformed domain set"
  else return ()

/-- An address: its length and its bytes. -/
def address : Reader Unit := do
  let len ← uvarint
  if len = 4 ∨ len = 16 then
    let _ ← take len
    return ()
  else Scan.fail ("invalid address length " ++ toString len)

/-- An address set: each range's first and last address. -/
def ipSet : Reader Unit := do
  let version ← u8
  if version ≠ 1 then Scan.fail "unknown address set version"
  else
    let count ← take 8
    loop (fun _ => do address; address) (ofBigEndian count) ()

end Reader

structure Found where
  domains : Bool := false
  cidrs : Bool := false
  deriving DecidableEq, Repr

/-- The kinds of items, by what they hold. -/
def numberKinds : List UInt8 := [0, 7, 9]
def stringKinds : List UInt8 := [1, 8, 10, 11, 12, 13, 14, 15, 17, 23]
def domain : UInt8 := 2
def domainStringKinds : List UInt8 := [3, 4]
def sourceIpCidr : UInt8 := 5
def ipCidr : UInt8 := 6
def networkType : UInt8 := 18
def flagKinds : List UInt8 := [19, 20]
def unmatchedKinds : List UInt8 := [16, 21, 22]
def final : UInt8 := 0xff

open Reader

/-- What follows an item's kind. -/
def item (kind : UInt8) (found : Found) : Reader Found :=
  if kind ∈ numberKinds then do
    let count ← count 2
    let _ ← take (count * 2)
    return found
  else if kind ∈ stringKinds then do
    let _ ← strings
    return found
  else if kind = domain then do
    succinct
    return { found with domains := true }
  else if kind ∈ domainStringKinds then do
    let count ← strings
    return if 0 < count then { found with domains := true } else found
  else if kind = sourceIpCidr then do
    ipSet
    return found
  else if kind = ipCidr then do
    ipSet
    return { found with cidrs := true }
  else if kind = networkType then do
    let types ← bytes
    if types.any fun t => 3 < t then Scan.fail "unknown network type" else return found
  else if kind ∈ flagKinds then return found
  else if kind ∈ unmatchedKinds then Scan.fail "an item sail does not match yet"
  else Scan.fail ("unknown item type " ++ toString kind)

/-- The items of a plain rule. Each takes a byte, so as many turns as there are
bytes are enough. -/
def plainFrom : (turns : Nat) → Found → Reader Found
  | 0, _ => Scan.fail "unexpected end of data"
  | turns + 1, found => do
    let kind ← u8
    if kind = final then
      let _ ← u8
      return found
    else
      let found ← item kind found
      plainFrom turns found

def plain (found : Found) : Reader Found := fun data => plainFrom data.length found data

/-- A rule with so many levels left. -/
def rule : (left : Nat) → Found → Reader Found
  | 0, _ => Scan.fail "logical rules nested too deep"
  | left + 1, found => do
    let kind ← u8
    if kind = 0 then plain found
    else if kind = 1 then
      let mode ← u8
      if 1 < mode then Scan.fail ("unknown logical mode " ++ toString mode)
      else
        let count ← count 1
        let found ← loop (rule left) count found
        let _ ← u8
        return found
    else Scan.fail ("unknown rule type " ++ toString kind)

/-- The rules, after inflation. -/
def rules : Reader Found := do
  let count ← count 1
  loop (rule (maxDepth + 1)) count {}

/-- Whether a binary rule set may be mirrored into DNS rules. -/
def inspect (inflate : Bytes → Except String Bytes) (data : Bytes) : Except String Bool :=
  match data with
  | 0x53 :: 0x52 :: 0x53 :: rest =>
    match rest with
    | [] => .error "no version"
    | version :: compressed =>
      if maxVersion < version then .error ("unsupported version " ++ toString version)
      else do
        let inflated ← inflate compressed
        let (found, _) ← rules inflated
        return found.domains && !found.cidrs
  | _ => .error "not a binary rule set"

/-! ## The grammar -/

inductive Item where
  | numbers (kind : UInt8) (values : List Nat)
  | strings (kind : UInt8) (values : List Bytes)
  | domain (version : UInt8) (leaves bitmap : List Nat) (labels : Bytes)
  | domainStrings (kind : UInt8) (values : List Bytes)
  | sourceIpCidr (ranges : List (Bytes × Bytes))
  | ipCidr (ranges : List (Bytes × Bytes))
  | networkType (types : Bytes)
  | flag (kind : UInt8)

inductive Rule where
  | plain (items : List Item) (invert : UInt8)
  | logical (mode : UInt8) (rules : List Rule) (invert : UInt8)

/-- The bits of the words, the lowest first. -/
def allBits (bitmap : List Nat) : List Bool := bitmap.flatMap fun w => (List.range 64).map w.testBit

/-- Up to the last one. -/
def trimmed (bits : List Bool) : List Bool := (bits.reverse.dropWhile fun b => !b).reverse

def bits (bitmap : List Nat) : List Bool := trimmed (allBits bitmap)

/-- A succinct trie: a zero for each label and a one after each node's, so one
node more than labels. -/
def WellFormed (bitmap : List Nat) (labels : Nat) : Prop :=
  bits bitmap ≠ [] ∧ (bits bitmap).count true = (bits bitmap).count false + 1 ∧
    (bits bitmap).count false = labels

section Grammar

-- what the LEB128 value of a count or a length must be
variable (fits : Nat → Prop)

/-- A number of at most ten bytes, which stands for its value in 64 bits. -/
def Number : Lang UInt8 Nat := fun used n =>
  ∃ v, Leb128 used v ∧ used.length ≤ 10 ∧ fits v ∧ n = v % 2 ^ 64

def Blob : Lang UInt8 Bytes := fun used content =>
  ∃ len, Number fits len content.length ∧ used = len ++ content

/-- A count and so many strings. -/
def Counted {α : Type} (each : Lang UInt8 α) : Lang UInt8 (List α) := fun used values =>
  ∃ front back, used = front ++ back ∧ Number fits front values.length ∧ Row each back values

/-- A big-endian word. -/
def Word (width : Nat) : Lang UInt8 Nat := fun used n => n < 256 ^ width ∧ used = bigEndian width n

def Text : Lang UInt8 Bytes := fun used text => Blob fits used text ∧ utf8 text = true

def Address : Lang UInt8 Bytes := fun used addr =>
  Blob fits used addr ∧ (addr.length = 4 ∨ addr.length = 16)

def Range : Lang UInt8 (Bytes × Bytes) := fun used range =>
  ∃ front back, used = front ++ back ∧ Address fits front range.1 ∧ Address fits back range.2

def AddressSet : Lang UInt8 (List (Bytes × Bytes)) := fun used ranges =>
  ∃ back, used = 1 :: bigEndian 8 ranges.length ++ back ∧ ranges.length < 2 ^ 64 ∧
    Row (Range fits) back ranges

def Trie (version : UInt8) (leaves bitmap : List Nat) (labels : Bytes) (used : Bytes) : Prop :=
  ∃ one two three, used = version :: one ++ two ++ three ∧ Counted fits (Word 8) one leaves ∧
    Counted fits (Word 8) two bitmap ∧ Blob fits three labels ∧ WellFormed bitmap labels.length

def Item.kind : Item → UInt8
  | .numbers kind _ | .strings kind _ | .domainStrings kind _ | .flag kind => kind
  | .domain .. => Srs.domain
  | .sourceIpCidr _ => Srs.sourceIpCidr
  | .ipCidr _ => Srs.ipCidr
  | .networkType _ => Srs.networkType

def Item.Body (used : Bytes) : Item → Prop
  | .numbers kind values => kind ∈ numberKinds ∧ Counted fits (Word 2) used values
  | .strings kind values => kind ∈ stringKinds ∧ Counted fits (Text fits) used values
  | .domain version leaves bitmap labels => Trie fits version leaves bitmap labels used
  | .domainStrings kind values => kind ∈ domainStringKinds ∧ Counted fits (Text fits) used values
  | .sourceIpCidr ranges => AddressSet fits used ranges
  | .ipCidr ranges => AddressSet fits used ranges
  | .networkType types => Blob fits used types ∧ ∀ t ∈ types, t ≤ 3
  | .flag kind => kind ∈ flagKinds ∧ used = []

def ItemLang : Lang UInt8 Item := fun used item =>
  ∃ body, used = item.kind :: body ∧ item.Body fits body

/-- A rule nested in less than so many logical ones. -/
def RuleLang : (levels : Nat) → Lang UInt8 Rule
  | 0, _, _ => False
  | _ + 1, used, .plain items invert =>
    ∃ body, used = 0 :: body ++ [final, invert] ∧ Row (ItemLang fits) body items
  | levels + 1, used, .logical mode rules invert =>
    ∃ body, used = 1 :: mode :: body ++ [invert] ∧ mode ≤ 1 ∧
      Counted fits (RuleLang levels) body rules

/-- A rule list, its logical rules nested at most `maxDepth` deep. -/
def RulesLang : Lang UInt8 (List Rule) := Counted fits (RuleLang fits (maxDepth + 1))

end Grammar

/-- What an item says of the whole set. -/
def Item.note (found : Found) : Item → Found
  | .domain .. => { found with domains := true }
  | .domainStrings _ values => if 0 < values.length then { found with domains := true } else found
  | .ipCidr _ => { found with cidrs := true }
  | _ => found

mutual

/-- The items of a rule, at any depth. -/
def Rule.items : Rule → List Item
  | .plain items _ => items
  | .logical _ rules _ => allItems rules

def allItems : List Rule → List Item
  | [] => []
  | r :: rules => r.items ++ allItems rules

end

def Item.matchesDomains : Item → Bool
  | .domain .. => true
  | .domainStrings _ values => values ≠ []
  | _ => false

def Item.destinations : Item → Bool
  | .ipCidr _ => true
  | _ => false

/-- Some item matches domains, and none destination addresses. -/
def mirrorable (rules : List Rule) : Bool :=
  (allItems rules).any Item.matchesDomains && !(allItems rules).any Item.destinations

/-! ## The readers are exact -/

/-- Any value: a count is then taken modulo 2^64. -/
def anyNumber (_ : Nat) : Prop := True

theorem exact_u8 : Exact u8 fun used b => used = [b] := by
  intro data b rest
  cases data with
  | nil =>
    constructor
    · intro eq
      cases eq
    · rintro ⟨_, eq, rfl⟩
      cases eq
  | cons c data =>
    constructor
    · intro eq
      cases eq
      exact ⟨[b], rfl, rfl⟩
    · rintro ⟨_, eq, rfl⟩
      cases eq
      rfl

theorem exact_take (n : Nat) : Exact (take n) fun used taken => used.length = n ∧ taken = used := by
  intro data taken rest
  rw [take]
  by_cases short : data.length < n
  · rw [if_pos short]
    constructor
    · intro eq
      cases eq
    · rintro ⟨used, rfl, length, -⟩
      rw [List.length_append] at short
      omega
  · rw [if_neg short]
    constructor
    · intro eq
      cases eq
      exact ⟨data.take n, (List.take_append_drop n data).symm, by rw [List.length_take]; omega, rfl⟩
    · rintro ⟨used, rfl, rfl, rfl⟩
      rw [List.take_left, List.drop_left]

theorem low_bits (b : UInt8) : (b &&& 0x7f).toNat = b.toNat % 128 := by
  rw [UInt8.toNat_and]
  exact Nat.and_two_pow_sub_one_eq_mod b.toNat 7

theorem high_bit (b : UInt8) : b &&& 0x80 = 0 ↔ b.toNat < 128 := by
  have all : ∀ n : Fin 256, n.val &&& 128 = 0 ↔ n.val < 128 := by decide +kernel
  have here := all ⟨b.toNat, b.toNat_lt⟩
  rw [← UInt8.toNat_inj, UInt8.toNat_and]
  exact here

/-- The next seven bits go above those there are. -/
theorem or_above {value low shift : Nat} (below : value < 2 ^ shift) (top : shift ≤ 64) :
    value ||| low <<< shift % 2 ^ 64 = (value + low * 2 ^ shift) % 2 ^ 64 := by
  obtain ⟨above, sum⟩ : ∃ above, 64 = shift + above := ⟨64 - shift, by omega⟩
  have whole : 2 ^ 64 = 2 ^ shift * 2 ^ above := by rw [sum, Nat.pow_add]
  have kept : low * 2 ^ shift % 2 ^ 64 = 2 ^ shift * (low % 2 ^ above) := by
    rw [whole, Nat.mul_comm low, Nat.mul_mod_mul_left]
  have split : value + low * 2 ^ shift =
      2 ^ shift * (low % 2 ^ above) + value + 2 ^ 64 * (low / 2 ^ above) := by
    have parts := Nat.div_add_mod low (2 ^ above)
    calc
      value + low * 2 ^ shift = value + (2 ^ above * (low / 2 ^ above) + low % 2 ^ above) * 2 ^ shift := by
        rw [parts]
      _ = _ := by rw [whole]; ring
  have fits : 2 ^ shift * (low % 2 ^ above) + value < 2 ^ 64 := by
    have small : low % 2 ^ above + 1 ≤ 2 ^ above := Nat.mod_lt _ (Nat.two_pow_pos above)
    calc
      2 ^ shift * (low % 2 ^ above) + value < 2 ^ shift * (low % 2 ^ above + 1) := by
        rw [Nat.mul_succ]; omega
      _ ≤ 2 ^ 64 := by rw [whole]; exact Nat.mul_le_mul_left _ small
  rw [Nat.shiftLeft_eq, kept, split, Nat.add_mul_mod_self_left, Nat.mod_eq_of_lt fits, Nat.or_comm,
    Nat.two_pow_add_eq_or_of_lt below]

theorem leb_low {b : UInt8} {bytes : Bytes} {v : Nat} (leb : Leb128 (b :: bytes) v)
    (low : b.toNat < 128) : bytes = [] ∧ v = b.toNat := by
  cases leb with
  | last => exact ⟨rfl, rfl⟩
  | more _ high rest => omega

theorem leb_high {b : UInt8} {bytes : Bytes} {v : Nat} (leb : Leb128 (b :: bytes) v)
    (high : ¬ b.toNat < 128) : ∃ w, Leb128 bytes w ∧ v = b.toNat - 128 + 128 * w := by
  cases leb with
  | last _ low => exact absurd low high
  | more _ _ rest => exact ⟨_, rest, rfl⟩

theorem uvarintFrom_cons (shift : Nat) (shifts : List Nat) (value : Nat) (b : UInt8) (data : Bytes) :
    uvarintFrom (shift :: shifts) value (b :: data) =
      if b &&& 0x80 = 0 then .ok (value ||| (b &&& 0x7f).toNat <<< shift % 2 ^ 64, data)
      else uvarintFrom shifts (value ||| (b &&& 0x7f).toNat <<< shift % 2 ^ 64) data := by
  show (if b &&& 0x80 = 0 then pure _ else _ : Reader Nat) data = _
  split <;> rfl

theorem exact_uvarintFrom (left k value : Nat) (ten : left + k = 10) (below : value < 2 ^ (7 * k)) :
    Exact (uvarintFrom ((List.range' k left).map (7 * ·)) value) fun used n =>
      ∃ v, Leb128 used v ∧ used.length ≤ left ∧ n = (value + v * 2 ^ (7 * k)) % 2 ^ 64 := by
  induction left generalizing k value with
  | zero =>
    refine (Exact.fail _).of_iff ?_
    intro used n
    constructor
    · exact False.elim
    · rintro ⟨v, leb, length, -⟩
      cases leb <;> simp at length
  | succ left ih =>
    intro data n rest
    rw [List.range'_succ, List.map_cons]
    cases data with
    | nil =>
      constructor
      · intro eq
        cases eq
      · rintro ⟨used, eq, v, leb, -⟩
        obtain rfl := List.append_eq_nil_iff.1 eq.symm |>.1
        cases leb
    | cons b data =>
      rw [uvarintFrom_cons, or_above below (by omega), low_bits]
      by_cases low : b.toNat < 128
      · rw [if_pos ((high_bit b).2 low), Nat.mod_eq_of_lt low]
        constructor
        · intro eq
          cases eq
          exact ⟨[b], rfl, _, .last b low, by simp, rfl⟩
        · rintro ⟨used, eq, v, leb, -, rfl⟩
          cases leb with
          | last c _ =>
            cases eq
            rfl
          | more c high rest =>
            cases eq
            omega
      · rw [if_neg fun same => low ((high_bit b).1 same)]
        have payload : b.toNat % 128 = b.toNat - 128 := by
          have byte : b.toNat < 256 := b.toNat_lt
          omega
        have next : (value + (b.toNat - 128) * 2 ^ (7 * k)) % 2 ^ 64 < 2 ^ (7 * (k + 1)) := by
          have byte : b.toNat - 128 + 1 ≤ 128 := by
            have byte : b.toNat < 256 := b.toNat_lt
            omega
          calc
            _ ≤ value + (b.toNat - 128) * 2 ^ (7 * k) := Nat.mod_le _ _
            _ < (b.toNat - 128 + 1) * 2 ^ (7 * k) := by
              have grown : (b.toNat - 128 + 1) * 2 ^ (7 * k) =
                  (b.toNat - 128) * 2 ^ (7 * k) + 2 ^ (7 * k) := Nat.succ_mul _ _
              omega
            _ ≤ 128 * 2 ^ (7 * k) := Nat.mul_le_mul_right _ byte
            _ = 2 ^ (7 * (k + 1)) := by rw [Nat.mul_succ, Nat.pow_add, Nat.mul_comm]
        have sum : ∀ w, ((value + (b.toNat - 128) * 2 ^ (7 * k)) % 2 ^ 64 + w * 2 ^ (7 * (k + 1))) % 2 ^ 64 =
            (value + (b.toNat - 128 + 128 * w) * 2 ^ (7 * k)) % 2 ^ 64 := by
          intro w
          rw [Nat.mod_add_mod]
          congr 1
          rw [Nat.mul_succ, Nat.pow_add]
          ring
        rw [payload, ih (k + 1) _ (by omega) next data n rest]
        constructor
        · rintro ⟨used, rfl, w, leb, length, rfl⟩
          exact ⟨b :: used, rfl, _, .more b (by omega) leb, by simpa using length, sum w⟩
        · rintro ⟨used, eq, v, leb, length, rfl⟩
          cases leb with
          | last c low' =>
            cases eq
            exact absurd low' low
          | @more c high used w leb =>
            cases eq
            exact ⟨used, rfl, w, leb, by simpa using length, (sum w).symm⟩

theorem exact_uvarint : Exact uvarint (Number anyNumber) := by
  have shifts : uvarint = uvarintFrom ((List.range' 0 10).map (7 * ·)) 0 := rfl
  rw [shifts]
  refine (exact_uvarintFrom 10 0 0 rfl (by decide)).of_iff ?_
  intro used n
  constructor
  · rintro ⟨v, leb, length, rfl⟩
    exact ⟨v, leb, length, trivial, by simp⟩
  · rintro ⟨v, leb, length, -, rfl⟩
    exact ⟨v, leb, length, by simp⟩

/-! ### Counts -/

theorem count_ok {itemLen n : Nat} {data rest : Bytes} :
    count itemLen data = .ok (n, rest) ↔
      ∃ used, data = used ++ rest ∧ Number anyNumber used n ∧ n ≤ rest.length / max itemLen 1 := by
  rw [count, bind_ok]
  constructor
  · rintro ⟨m, mid, read, kept⟩
    obtain ⟨used, rfl, number⟩ := (exact_uvarint data m mid).1 read
    by_cases past : mid.length / max itemLen 1 < m
    · rw [within, if_pos past] at kept
      cases kept
    · rw [within, if_neg past] at kept
      cases kept
      exact ⟨used, rfl, number, by omega⟩
  · rintro ⟨used, rfl, number, fits⟩
    refine ⟨n, rest, (exact_uvarint _ n rest).2 ⟨used, rfl, number⟩, ?_⟩
    rw [within, if_neg (by omega)]

/-- What follows a count is long enough for it, so the count is not refused. -/
theorem exact_count {α : Type} {itemLen : Nat} {f : Nat → Reader α} {h : Nat → Lang UInt8 α}
    (some : 0 < itemLen) (exact : ∀ n, Exact (f n) (h n))
    (long : ∀ n used a, h n used a → n * itemLen ≤ used.length) :
    Exact (count itemLen >>= f) ((Number anyNumber).next h) := by
  intro data a rest
  rw [bind_ok]
  constructor
  · rintro ⟨n, mid, counted, read⟩
    obtain ⟨front, rfl, number, -⟩ := count_ok.1 counted
    obtain ⟨back, rfl, there⟩ := (exact n mid a rest).1 read
    exact ⟨front ++ back, (List.append_assoc _ _ _).symm, front, back, n, rfl, number, there⟩
  · rintro ⟨_, rfl, front, back, n, rfl, number, there⟩
    refine ⟨n, back ++ rest, count_ok.2 ⟨front, List.append_assoc _ _ _, number, ?_⟩,
      (exact n _ a rest).2 ⟨back, rfl, there⟩⟩
    have enough := long n back a there
    rw [max_eq_left (by omega), Nat.le_div_iff_mul_le some, List.length_append]
    omega

theorem exact_bytes : Exact bytes (Blob anyNumber) := by
  refine (exact_count (by decide) exact_take (by intro n used a h; omega)).of_iff ?_
  intro used content
  constructor
  · rintro ⟨front, back, n, rfl, number, rfl, rfl⟩
    exact ⟨front, number, rfl⟩
  · rintro ⟨front, number, rfl⟩
    exact ⟨front, content, _, rfl, number, rfl, rfl⟩

/-- A count and a step for each. -/
theorem exact_counted {α σ : Type} {itemLen : Nat} {p : σ → Reader σ} {each : Lang UInt8 α}
    {step : σ → α → σ} (some : 0 < itemLen)
    (exact : ∀ s, Exact (p s) fun used t => ∃ a, each used a ∧ t = step s a)
    (long : ∀ used a, each used a → itemLen ≤ used.length) (s : σ) :
    Exact (do let n ← count itemLen; loop p n s) fun used t =>
      ∃ values, Counted anyNumber each used values ∧ t = values.foldl step s := by
  refine (exact_count some (fun n => Exact.loop exact n s) ?_).of_iff ?_
  · rintro n used t ⟨values, row, rfl, -⟩
    exact row.length long
  · intro used t
    constructor
    · rintro ⟨front, back, n, rfl, number, values, row, rfl, rfl⟩
      exact ⟨values, ⟨front, back, rfl, number, row⟩, rfl⟩
    · rintro ⟨values, ⟨front, back, rfl, number, row⟩, rfl⟩
      exact ⟨front, back, _, rfl, number, values, row, rfl, rfl⟩

theorem Blob.nonempty {fits : Nat → Prop} {used content : Bytes} (blob : Blob fits used content) :
    1 ≤ used.length := by
  obtain ⟨len, ⟨v, leb, -⟩, rfl⟩ := blob
  cases leb <;> simp

theorem exact_strings :
    Exact strings fun used n =>
      ∃ values, Counted anyNumber (Text anyNumber) used values ∧ n = values.length := by
  have text : ∀ s : Unit, Exact (do
      let text ← bytes
      if utf8 text then return () else Scan.fail "invalid utf-8" : Reader Unit)
      fun used t => ∃ a, Text anyNumber used a ∧ t = s := by
    intro s
    refine (exact_bytes.bind (h := fun text used _ => used = [] ∧ utf8 text = true) ?_).of_iff ?_
    · intro text
      by_cases valid : utf8 text = true
      · rw [if_pos valid]
        exact (Exact.done ()).of_iff (by simp [valid])
      · rw [if_neg valid]
        exact (Exact.fail _).of_iff (by simp [valid])
    · intro used t
      constructor
      · rintro ⟨front, back, text, rfl, blob, rfl, valid⟩
        exact ⟨text, ⟨by simpa using blob, valid⟩, rfl⟩
      · rintro ⟨text, ⟨blob, valid⟩, rfl⟩
        exact ⟨used, [], text, by simp, blob, rfl, valid⟩
  have looped := fun n => Exact.loop text n ()
  refine (exact_count (by decide) (fun n => (looped n).bind fun _ => Exact.done n) ?_).of_iff ?_
  · rintro n _ a ⟨front, back, _, rfl, ⟨values, row, rfl, -⟩, rfl, -⟩
    simpa using row.length fun used a text => text.1.nonempty
  · intro used n
    constructor
    · rintro ⟨front, _, n, rfl, number, back, _, _, rfl, ⟨values, row, rfl, -⟩, rfl, rfl⟩
      exact ⟨values, ⟨front, back, by simp, number, row⟩, rfl⟩
    · rintro ⟨values, ⟨front, back, rfl, number, row⟩, rfl⟩
      exact ⟨front, back, _, rfl, number, back, [], (), by simp, ⟨values, row, rfl, rfl⟩, rfl, rfl⟩

theorem length_chunks (width n : Nat) (data : Bytes) : (chunks width n data).length = n := by
  induction n generalizing data with
  | zero => rfl
  | succ n ih => rw [chunks, List.length_cons, ih]

/-- Words of one width are the pieces of that width. -/
theorem row_words {width : Nat} {used : Bytes} {values : List Nat} :
    Row (Word width) used values ↔ used.length = values.length * width ∧
      values = (chunks width values.length used).map ofBigEndian := by
  induction values generalizing used with
  | nil => simp [Row, chunks]
  | cons n values ih =>
    constructor
    · rintro ⟨front, back, rfl, ⟨fits, rfl⟩, row⟩
      obtain ⟨length, same⟩ := ih.1 row
      refine ⟨?_, ?_⟩
      · rw [List.length_append, length_bigEndian, length, List.length_cons, Nat.succ_mul, Nat.add_comm]
      · rw [List.length_cons, chunks, List.take_left' (length_bigEndian width n),
          List.drop_left' (length_bigEndian width n), List.map_cons, ← same,
          ofBigEndian_bigEndian fits]
    · rintro ⟨length, same⟩
      rw [List.length_cons, Nat.succ_mul] at length
      rw [List.length_cons, chunks, List.map_cons] at same
      obtain ⟨head, tail⟩ := List.cons.inj same
      have front : (used.take width).length = width := by rw [List.length_take]; omega
      refine ⟨used.take width, used.drop width, (List.take_append_drop _ _).symm, ⟨?_, ?_⟩, ih.2 ⟨?_, tail⟩⟩
      · rw [head]
        have below := ofBigEndian_lt (used.take width)
        rwa [front] at below
      · have whole := bigEndian_ofBigEndian (used.take width)
        rw [front] at whole
        rw [head, whole]
      · rw [List.length_drop]
        omega

theorem exact_words (width n : Nat) :
    Exact (take (n * width)) fun used taken =>
      ∃ values, Row (Word width) used values ∧ values.length = n ∧ taken = used ∧
        values = (chunks width n used).map ofBigEndian := by
  refine (exact_take _).of_iff ?_
  intro used taken
  constructor
  · rintro ⟨length, rfl⟩
    have many : ((chunks width n taken).map ofBigEndian).length = n := by
      rw [List.length_map, length_chunks]
    exact ⟨_, row_words.2 ⟨by rw [many, length], by rw [many]⟩, many, rfl, rfl⟩
  · rintro ⟨values, row, rfl, rfl, -⟩
    exact ⟨(row_words.1 row).1, rfl⟩

theorem exact_u64s : Exact u64s (Counted anyNumber (Word 8)) := by
  refine (exact_count (by decide) (fun n => (exact_words 8 n).bind fun words =>
    Exact.done ((chunks 8 n words).map ofBigEndian)) ?_).of_iff ?_
  · rintro n _ a ⟨front, back, _, rfl, ⟨values, row, rfl, -⟩, rfl, -⟩
    have length := (row_words.1 row).1
    simp [length]
  · intro used words
    constructor
    · rintro ⟨front, _, n, rfl, number, back, _, _, rfl, ⟨values, row, rfl, rfl, same⟩, rfl, rfl⟩
      rw [← same]
      exact ⟨front, _, by rw [List.append_nil], number, row⟩
    · rintro ⟨front, back, rfl, number, row⟩
      have same := (row_words.1 row).2
      exact ⟨front, back, _, rfl, number, back, [], back, by simp, ⟨words, row, rfl, rfl, same⟩, rfl,
        same⟩

/-- A number of words that are not looked at. -/
theorem exact_skip {α : Type} (width : Nat) (a : α) (some : 0 < width) :
    Exact (do
      let n ← count width
      let _ ← take (n * width)
      return a) fun used b => (∃ values, Counted anyNumber (Word width) used values) ∧ b = a := by
  refine (exact_count some (fun n => (exact_words width n).bind fun _ => Exact.done a) ?_).of_iff ?_
  · rintro n _ a ⟨front, back, _, rfl, ⟨values, row, rfl, -⟩, rfl, -⟩
    have length := (row_words.1 row).1
    simp [length]
  · intro used b
    constructor
    · rintro ⟨front, _, n, rfl, number, back, _, _, rfl, ⟨values, row, rfl, -⟩, rfl, rfl⟩
      exact ⟨⟨values, front, back, by simp, number, row⟩, rfl⟩
    · rintro ⟨⟨values, front, back, rfl, number, row⟩, rfl⟩
      have same := (row_words.1 row).2
      exact ⟨front, back, _, rfl, number, back, [], back, by simp, ⟨values, row, rfl, rfl, same⟩, rfl,
        rfl⟩

/-! ### Tries -/

theorem countOnes_eq (w : Nat) : countOnes w = ((List.range 64).map w.testBit).count true := by
  rw [countOnes, List.count, List.countP_map, List.countP_eq_length_filter]
  simp [Function.comp_def]

theorem allBits_append (bitmap bitmap' : List Nat) :
    allBits (bitmap ++ bitmap') = allBits bitmap ++ allBits bitmap' :=
  List.flatMap_append

theorem allBits_word (w : Nat) : allBits [w] = (List.range 64).map w.testBit :=
  List.flatMap_singleton ..

theorem length_allBits (bitmap : List Nat) : (allBits bitmap).length = 64 * bitmap.length := by
  induction bitmap with
  | nil => rfl
  | cons w bitmap ih =>
    have whole : allBits (w :: bitmap) = allBits [w] ++ allBits bitmap := allBits_append [w] bitmap
    rw [whole, List.length_append, ih, allBits_word, List.length_map, List.length_range,
      List.length_cons]
    omega

theorem ones_eq (bitmap : List Nat) : (bitmap.map countOnes).sum = (allBits bitmap).count true := by
  induction bitmap with
  | nil => rfl
  | cons w bitmap ih =>
    have whole : allBits (w :: bitmap) = allBits [w] ++ allBits bitmap := allBits_append [w] bitmap
    rw [List.map_cons, List.sum_cons, ih, countOnes_eq, whole, List.count_append, allBits_word]

/-- Only zeros are cut off. -/
theorem trimmed_split (bits : List Bool) :
    ∃ zeros, bits = trimmed bits ++ List.replicate zeros false := by
  refine ⟨(bits.reverse.takeWhile fun b => !b).length, ?_⟩
  have zeros : (bits.reverse.takeWhile fun b => !b) =
      List.replicate (bits.reverse.takeWhile fun b => !b).length false := by
    rw [List.eq_replicate_iff]
    refine ⟨rfl, ?_⟩
    intro b mem
    simpa using List.mem_takeWhile_imp mem
  calc
    bits = ((bits.reverse.takeWhile fun b => !b) ++ bits.reverse.dropWhile fun b => !b).reverse := by
      rw [List.takeWhile_append_dropWhile, List.reverse_reverse]
    _ = _ := by
      rw [List.reverse_append, zeros, List.reverse_replicate, List.length_replicate]
      rfl

theorem trimmed_append_zeros (bits : List Bool) (zeros : Nat) :
    trimmed (bits ++ List.replicate zeros false) = trimmed bits := by
  rw [trimmed, List.reverse_append, List.reverse_replicate, List.dropWhile_append_of_pos]
  · rfl
  · intro b mem
    rw [(List.mem_replicate.1 mem).2]
    rfl

theorem trimmed_one (bits : List Bool) : trimmed (bits ++ [true]) = bits ++ [true] := by
  rw [trimmed, List.reverse_append]
  simp

/-- The bits of a word end with its highest one. -/
theorem word_bits {w : Nat} (some : w ≠ 0) (fits : w < 2 ^ 64) :
    allBits [w] = (List.range w.log2).map w.testBit ++ [true] ++
      List.replicate (63 - w.log2) false := by
  have top : w.log2 < 64 := (Nat.log2_lt some).2 fits
  have sum : 64 = w.log2 + 1 + (63 - w.log2) := by omega
  have above : ((List.range (63 - w.log2)).map (w.log2 + 1 + ·)).map w.testBit =
      List.replicate (63 - w.log2) false := by
    rw [List.eq_replicate_iff]
    refine ⟨by simp, ?_⟩
    intro b mem
    rw [List.map_map] at mem
    obtain ⟨i, -, rfl⟩ := List.mem_map.1 mem
    apply Nat.testBit_lt_two_pow
    have above : w.log2 + 1 ≤ w.log2 + 1 + i := by omega
    exact lt_of_lt_of_le Nat.lt_log2_self (Nat.pow_le_pow_right (by decide) above)
  rw [allBits_word, sum, List.range_add, List.map_append, above, List.range_succ, List.map_append,
    List.map_singleton, Nat.testBit_log2 some]

theorem zero_bits : allBits [0] = List.replicate 64 false := by decide

theorem lastOne_append (bitmap : List Nat) (w : Nat) :
    lastOne (bitmap ++ [w]) =
      if w ≠ 0 then some (bitmap.length <<< 6 ||| w.log2) else lastOne bitmap := by
  rw [lastOne, List.zipIdx_append, List.reverse_append]
  by_cases zero : w = 0
  · simp [zero, lastOne]
  · simp [zero]

/-- The position after the last one is the length of what is kept. -/
theorem lastOne_length {bitmap : List Nat} (words : ∀ w ∈ bitmap, w < 2 ^ 64) :
    (lastOne bitmap).elim 0 (· + 1) = (bits bitmap).length := by
  induction bitmap using List.reverseRecOn with
  | nil => rfl
  | append_singleton bitmap w ih =>
    have fits : w < 2 ^ 64 := words w (by simp)
    rw [lastOne_append, bits, allBits_append]
    by_cases zero : w = 0
    · rw [if_neg (by simpa using zero), zero, zero_bits, trimmed_append_zeros]
      exact ih fun w mem => words w (by simp [mem])
    · have top : w.log2 < 2 ^ 6 := (Nat.log2_lt zero).2 fits
      have position : bitmap.length <<< 6 ||| w.log2 = 64 * bitmap.length + w.log2 := by
        rw [Nat.shiftLeft_eq, Nat.mul_comm, ← Nat.two_pow_add_eq_or_of_lt top]
      rw [if_pos zero, word_bits zero fits, ← List.append_assoc, trimmed_append_zeros,
        ← List.append_assoc, trimmed_one, position]
      simp [length_allBits]
      omega

theorem lastOne_none {bitmap : List Nat} (words : ∀ w ∈ bitmap, w < 2 ^ 64) :
    lastOne bitmap = none ↔ bits bitmap = [] := by
  have length := lastOne_length words
  rw [← List.length_eq_zero_iff, ← length]
  cases lastOne bitmap <;> simp

/-- The code's check is the trie's shape. -/
theorem malformed_iff {bitmap : List Nat} (words : ∀ w ∈ bitmap, w < 2 ^ 64) (labels : Nat) :
    (lastOne bitmap = none ∨
      (bitmap.map countOnes).sum ≠
        ((lastOne bitmap).elim 0 fun last => last + 1 - (bitmap.map countOnes).sum) + 1 ∨
      labels ≠ (lastOne bitmap).elim 0 fun last => last + 1 - (bitmap.map countOnes).sum) ↔
        ¬ WellFormed bitmap labels := by
  have length := lastOne_length words
  have none := lastOne_none words
  have ones : (bitmap.map countOnes).sum = (bits bitmap).count true := by
    obtain ⟨zeros, split⟩ := trimmed_split (allBits bitmap)
    rw [ones_eq, split, List.count_append, List.count_replicate]
    simp [bits]
  have both : (bits bitmap).count true + (bits bitmap).count false = (bits bitmap).length :=
    List.count_true_add_count_false _
  rw [WellFormed, ones]
  cases last : lastOne bitmap with
  | none =>
    rw [last] at none
    simp [none.1 rfl]
  | some i =>
    rw [last] at length none
    have some' : bits bitmap ≠ [] := fun empty => by cases none.2 empty
    have sum : i + 1 = (bits bitmap).length := length
    have zeros : i + 1 - (bits bitmap).count true = (bits bitmap).count false := by omega
    simp only [Option.elim_some, zeros]
    simp [some']
    tauto

theorem exact_succinct :
    Exact succinct fun used _ =>
      ∃ version leaves bitmap labels, Trie anyNumber version leaves bitmap labels used := by
  have shape : ∀ (bitmap : List Nat) (labels : Bytes), (∀ w ∈ bitmap, w < 2 ^ 64) →
      Exact (if lastOne bitmap = none ∨
          (bitmap.map countOnes).sum ≠
            ((lastOne bitmap).elim 0 fun last => last + 1 - (bitmap.map countOnes).sum) + 1 ∨
          labels.length ≠ (lastOne bitmap).elim 0 fun last => last + 1 - (bitmap.map countOnes).sum then
        Scan.fail "malformed domain set" else return () : Reader Unit)
        fun used _ => used = [] ∧ WellFormed bitmap labels.length := by
    intro bitmap labels words
    refine (Exact.guard _ ()).of_iff ?_
    intro used _
    rw [malformed_iff words, not_not]
    simp
  refine (exact_u8.bind fun version => exact_count (by decide) (fun n => (exact_words 8 n).bind fun _ =>
    exact_u64s.bind_of fun used bitmap counted => exact_bytes.bind fun labels =>
      shape bitmap labels ?_) ?_).of_iff ?_
  · obtain ⟨_, _, _, -, row⟩ := counted
    intro w mem
    obtain ⟨_, fits, -⟩ := row.each w mem
    exact fits
  · rintro n _ _ ⟨front, back, _, rfl, ⟨values, row, rfl, -⟩, -⟩
    have length := (row_words.1 row).1
    rw [List.length_append, length]
    omega
  · intro used _
    constructor
    · rintro ⟨_, _, version, rfl, rfl, one, _, n, rfl, number, leaves, _, _, rfl, ⟨values, row, rfl, -⟩,
        two, _, bitmap, rfl, words, three, _, labels, rfl, blob, rfl, wellFormed⟩
      exact ⟨version, values, bitmap, labels, one ++ leaves, two, three, by simp,
        ⟨one, leaves, rfl, number, row⟩, words, blob, wellFormed⟩
    · rintro ⟨version, values, bitmap, labels, _, two, three, rfl, ⟨one, leaves, rfl, number, row⟩,
        words, blob, wellFormed⟩
      have same := (row_words.1 row).2
      have whole : version :: (one ++ leaves) ++ two ++ three =
          [version] ++ (one ++ (leaves ++ (two ++ (three ++ [])))) := by
        simp
      exact ⟨[version], one ++ (leaves ++ (two ++ (three ++ []))), version, whole, rfl, one,
        leaves ++ (two ++ (three ++ [])), _, rfl, number, leaves, two ++ (three ++ []), leaves, rfl,
        ⟨values, row, rfl, rfl, same⟩, two, three ++ [], bitmap, rfl, words, three, [], labels, rfl, blob,
        rfl, wellFormed⟩

/-! ### Address sets -/

theorem exact_address : Exact address fun used _ => ∃ addr, Address anyNumber used addr := by
  have body : ∀ len : Nat, Exact (if len = 4 ∨ len = 16 then do
        let _ ← take len
        return ()
      else Scan.fail ("invalid address length " ++ toString len) : Reader Unit)
      fun used _ => used.length = len ∧ (len = 4 ∨ len = 16) := by
    intro len
    by_cases known : len = 4 ∨ len = 16
    · rw [if_pos known]
      refine ((exact_take len).bind fun _ => Exact.done ()).of_iff ?_
      intro used _
      constructor
      · rintro ⟨front, _, _, rfl, ⟨length, rfl⟩, rfl, -⟩
        exact ⟨by simpa using length, known⟩
      · rintro ⟨length, -⟩
        exact ⟨used, [], used, by simp, ⟨length, rfl⟩, rfl, rfl⟩
    · rw [if_neg known]
      exact (Exact.fail _).of_iff (by simp [known])
  refine (exact_uvarint.bind body).of_iff ?_
  intro used _
  constructor
  · rintro ⟨front, addr, len, rfl, number, rfl, known⟩
    exact ⟨addr, ⟨front, number, rfl⟩, known⟩
  · rintro ⟨addr, ⟨front, number, rfl⟩, known⟩
    exact ⟨front, addr, _, rfl, number, rfl, known⟩

theorem exact_range (s : Unit) :
    Exact (do address; address : Reader Unit) fun used t =>
      ∃ range, Range anyNumber used range ∧ t = s := by
  refine (exact_address.bind fun _ => exact_address).of_iff ?_
  intro used t
  constructor
  · rintro ⟨front, back, _, rfl, ⟨first, one⟩, last, other⟩
    exact ⟨(first, last), ⟨front, back, rfl, one, other⟩, rfl⟩
  · rintro ⟨range, ⟨front, back, rfl, one, other⟩, -⟩
    exact ⟨front, back, (), rfl, ⟨range.1, one⟩, range.2, other⟩

theorem exact_ipSet : Exact ipSet fun used _ => ∃ ranges, AddressSet anyNumber used ranges := by
  have body : ∀ version : UInt8, Exact (if version ≠ 1 then Scan.fail "unknown address set version"
      else do
        let count ← take 8
        loop (fun _ => do address; address) (ofBigEndian count) () : Reader Unit)
      fun used _ => version = 1 ∧ ∃ ranges : List (Bytes × Bytes), ∃ back,
        used = bigEndian 8 ranges.length ++ back ∧ ranges.length < 2 ^ 64 ∧
          Row (Range anyNumber) back ranges := by
    intro version
    by_cases known : version = 1
    · rw [if_neg (by simpa using known)]
      refine ((exact_take 8).bind fun count => Exact.loop exact_range (ofBigEndian count) ()).of_iff ?_
      intro used _
      constructor
      · rintro ⟨_, back, word, rfl, ⟨eight, rfl⟩, ranges, row, length, -⟩
        refine ⟨known, ranges, back, ?_, ?_, row⟩
        · have whole := bigEndian_ofBigEndian word
          rw [eight] at whole
          rw [length, whole]
        · have below := ofBigEndian_lt word
          rw [eight] at below
          rw [length]
          exact below
      · rintro ⟨-, ranges, back, rfl, fits, row⟩
        exact ⟨bigEndian 8 ranges.length, back, _, rfl, ⟨length_bigEndian _ _, rfl⟩, ranges, row,
          (ofBigEndian_bigEndian fits).symm, rfl⟩
    · rw [if_pos known]
      exact (Exact.fail _).of_iff (by simp [known])
  refine (exact_u8.bind body).of_iff ?_
  intro used _
  constructor
  · rintro ⟨_, _, version, rfl, rfl, rfl, ranges, back, rfl, fits, row⟩
    exact ⟨ranges, back, rfl, fits, row⟩
  · rintro ⟨ranges, back, rfl, fits, row⟩
    exact ⟨[1], bigEndian 8 ranges.length ++ back, 1, rfl, rfl, rfl, ranges, back, rfl, fits, row⟩

/-! ### Items and rules -/

/-- The kinds of the items of a form. -/
def Item.kinds : Item → List UInt8
  | .numbers .. => numberKinds
  | .strings .. => stringKinds
  | .domain .. => [Srs.domain]
  | .domainStrings .. => domainStringKinds
  | .sourceIpCidr _ => [Srs.sourceIpCidr]
  | .ipCidr _ => [Srs.ipCidr]
  | .networkType _ => [Srs.networkType]
  | .flag _ => flagKinds

theorem Item.Body.kind_mem {fits : Nat → Prop} {used : Bytes} {i : Item} (body : i.Body fits used) :
    i.kind ∈ i.kinds := by
  cases i with
  | numbers | strings | domainStrings | flag => exact body.1
  | domain | sourceIpCidr | ipCidr | networkType => exact List.mem_singleton.2 rfl

/-- No item of another form has one of the kinds. -/
theorem Item.Body.apart {fits : Nat → Prop} {used : Bytes} {i : Item} {kinds : List UInt8}
    (body : i.Body fits used) (mem : i.kind ∈ kinds)
    (apart : (kinds.all fun k => !i.kinds.contains k) = true) : False := by
  have other := List.all_eq_true.1 apart _ mem
  have own : i.kinds.contains i.kind = true := List.contains_iff_mem.2 body.kind_mem
  rw [own] at other
  cases other

theorem exact_item (kind : UInt8) (found : Found) :
    Exact (item kind found) fun used found' =>
      ∃ i : Item, i.kind = kind ∧ i.Body anyNumber used ∧ found' = i.note found := by
  rw [item]
  split
  next mem =>
    refine (exact_skip 2 found (by decide)).of_iff ?_
    intro used found'
    constructor
    · rintro ⟨⟨values, counted⟩, rfl⟩
      exact ⟨.numbers kind values, rfl, ⟨mem, counted⟩, rfl⟩
    · rintro ⟨i, rfl, body, rfl⟩
      cases i with
      | numbers _ values => exact ⟨⟨values, body.2⟩, rfl⟩
      | _ => exact (body.apart mem rfl).elim
  split
  next mem =>
    refine (exact_strings.map fun _ => found).of_iff ?_
    intro used found'
    constructor
    · rintro ⟨_, ⟨values, counted, rfl⟩, rfl⟩
      exact ⟨.strings kind values, rfl, ⟨mem, counted⟩, rfl⟩
    · rintro ⟨i, rfl, body, rfl⟩
      cases i with
      | strings _ values => exact ⟨_, ⟨values, body.2, rfl⟩, rfl⟩
      | _ => exact (body.apart mem rfl).elim
  split
  next same =>
    refine (exact_succinct.map fun _ => { found with domains := true }).of_iff ?_
    intro used found'
    constructor
    · rintro ⟨_, ⟨version, leaves, bitmap, labels, trie⟩, rfl⟩
      exact ⟨.domain version leaves bitmap labels, same.symm, trie, rfl⟩
    · rintro ⟨i, rfl, body, rfl⟩
      cases i with
      | domain version leaves bitmap labels => exact ⟨(), ⟨version, leaves, bitmap, labels, body⟩, rfl⟩
      | _ => exact (body.apart (List.mem_singleton.2 same) rfl).elim
  split
  next mem =>
    refine (exact_strings.map fun count =>
      if 0 < count then { found with domains := true } else found).of_iff ?_
    intro used found'
    constructor
    · rintro ⟨_, ⟨values, counted, rfl⟩, rfl⟩
      exact ⟨.domainStrings kind values, rfl, ⟨mem, counted⟩, rfl⟩
    · rintro ⟨i, rfl, body, rfl⟩
      cases i with
      | domainStrings _ values => exact ⟨_, ⟨values, body.2, rfl⟩, rfl⟩
      | _ => exact (body.apart mem rfl).elim
  split
  next same =>
    refine (exact_ipSet.map fun _ => found).of_iff ?_
    intro used found'
    constructor
    · rintro ⟨_, ⟨ranges, set⟩, rfl⟩
      exact ⟨.sourceIpCidr ranges, same.symm, set, rfl⟩
    · rintro ⟨i, rfl, body, rfl⟩
      cases i with
      | sourceIpCidr ranges => exact ⟨(), ⟨ranges, body⟩, rfl⟩
      | _ => exact (body.apart (List.mem_singleton.2 same) rfl).elim
  split
  next same =>
    refine (exact_ipSet.map fun _ => { found with cidrs := true }).of_iff ?_
    intro used found'
    constructor
    · rintro ⟨_, ⟨ranges, set⟩, rfl⟩
      exact ⟨.ipCidr ranges, same.symm, set, rfl⟩
    · rintro ⟨i, rfl, body, rfl⟩
      cases i with
      | ipCidr ranges => exact ⟨(), ⟨ranges, body⟩, rfl⟩
      | _ => exact (body.apart (List.mem_singleton.2 same) rfl).elim
  split
  next same =>
    refine (exact_bytes.bind fun types => Exact.guard "unknown network type" found).of_iff ?_
    intro used found'
    constructor
    · rintro ⟨front, _, types, rfl, blob, rfl, known, rfl⟩
      refine ⟨.networkType types, same.symm, ⟨by rwa [List.append_nil], ?_⟩, rfl⟩
      simpa using known
    · rintro ⟨i, rfl, body, rfl⟩
      cases i with
      | networkType types =>
        exact ⟨used, [], types, (List.append_nil used).symm, body.1, rfl, by simpa using body.2, rfl⟩
      | _ => exact (body.apart (List.mem_singleton.2 same) rfl).elim
  split
  next mem =>
    refine (Exact.done found).of_iff ?_
    intro used found'
    constructor
    · rintro ⟨rfl, rfl⟩
      exact ⟨.flag kind, rfl, ⟨mem, rfl⟩, rfl⟩
    · rintro ⟨i, rfl, body, rfl⟩
      cases i with
      | flag => exact ⟨body.2, rfl⟩
      | _ => exact (body.apart mem rfl).elim
  next numbers strings domain domainStrings source dest network flag =>
    have none : ∀ i : Item, i.kind = kind → ∀ used, ¬ i.Body anyNumber used := by
      rintro i rfl used body
      have mem := body.kind_mem
      cases i with
      | numbers => exact numbers mem
      | strings => exact strings mem
      | domain => exact domain rfl
      | domainStrings => exact domainStrings mem
      | sourceIpCidr => exact source rfl
      | ipCidr => exact dest rfl
      | networkType => exact network rfl
      | flag => exact flag mem
    split
    all_goals
      refine (Exact.fail _).of_iff ?_
      intro used found'
      constructor
      · exact False.elim
      · rintro ⟨i, same, body, -⟩
        exact none i same used body

/-- The end of a plain rule is no item. -/
theorem not_final {fits : Nat → Prop} {kind : UInt8} {i : Item} {body rest tail : Bytes}
    (shape : i.Body fits body) (eq : kind :: rest = i.kind :: body ++ tail) : kind ≠ final := by
  rintro rfl
  obtain ⟨same, -⟩ := List.cons.inj eq
  have mem := shape.kind_mem
  rw [← same] at mem
  cases i <;> simp [Item.kinds, numberKinds, stringKinds, domainStringKinds, flagKinds, final,
    Srs.domain, Srs.sourceIpCidr, Srs.ipCidr, Srs.networkType] at mem

theorem plainFrom_cons (turns : Nat) (found : Found) (kind : UInt8) (data : Bytes) :
    plainFrom (turns + 1) found (kind :: data) =
      if kind = final then (do let _ ← u8; return found : Reader Found) data
      else (item kind found >>= plainFrom turns) data := by
  show (if kind = final then _ else _ : Reader Found) data = _
  split <;> rfl

theorem exact_plainFrom (turns : Nat) (found : Found) {data : Bytes} (enough : data.length ≤ turns)
    (found' : Found) (rest : Bytes) :
    plainFrom turns found data = .ok (found', rest) ↔
      ∃ used, data = used ++ rest ∧ ∃ items body invert, used = body ++ [final, invert] ∧
        Row (ItemLang anyNumber) body items ∧ found' = items.foldl Item.note found := by
  induction turns generalizing found data with
  | zero =>
    constructor
    · intro eq
      cases eq
    · rintro ⟨_, rfl, items, body, invert, rfl, -⟩
      simp at enough
  | succ turns ih =>
    cases data with
    | nil =>
      constructor
      · intro eq
        cases eq
      · rintro ⟨_, eq, items, body, invert, rfl, -⟩
        simp at eq
    | cons kind data =>
      rw [plainFrom_cons]
      by_cases last : kind = final
      · rw [if_pos last, (exact_u8.map fun _ => found) data found' rest]
        constructor
        · rintro ⟨_, rfl, invert, rfl, rfl⟩
          exact ⟨[kind, invert], rfl, [], [], invert, by rw [last]; rfl, rfl, rfl⟩
        · rintro ⟨_, eq, items, body, invert, rfl, row, rfl⟩
          cases items with
          | nil =>
            obtain rfl := row
            obtain ⟨-, rfl⟩ := List.cons.inj eq
            exact ⟨[invert], rfl, invert, rfl, rfl⟩
          | cons i items =>
            obtain ⟨_, back, rfl, ⟨body, rfl, shape⟩, row⟩ := row
            rw [List.append_assoc, List.append_assoc] at eq
            exact absurd last (not_final shape eq)
      · rw [if_neg last, bind_ok]
        constructor
        · rintro ⟨next, mid, first, later⟩
          obtain ⟨front, rfl, i, rfl, shape, rfl⟩ := (exact_item kind found data next mid).1 first
          have left : mid.length ≤ turns := by
            rw [List.length_cons, List.length_append] at enough
            omega
          obtain ⟨_, rfl, items, body, invert, rfl, row, rfl⟩ := (ih _ left).1 later
          exact ⟨i.kind :: front ++ (body ++ [final, invert]), by simp, i :: items,
            i.kind :: front ++ body, invert, by simp, ⟨_, _, rfl, ⟨front, rfl, shape⟩, row⟩, rfl⟩
        · rintro ⟨_, eq, items, body, invert, rfl, row, rfl⟩
          cases items with
          | nil =>
            obtain rfl := row
            obtain ⟨same, -⟩ := List.cons.inj eq
            exact absurd same last
          | cons i items =>
            obtain ⟨_, back, rfl, ⟨front, rfl, shape⟩, row⟩ := row
            obtain ⟨same, whole⟩ := List.cons.inj eq
            have left : (back ++ [final, invert] ++ rest).length ≤ turns := by
              rw [whole] at enough
              simp at enough ⊢
              omega
            refine ⟨i.note found, back ++ [final, invert] ++ rest, ?_, ?_⟩
            · exact (exact_item _ found _ _ _).2 ⟨front, by rw [whole]; simp, i, same.symm, shape, rfl⟩
            · exact (ih _ left).2 ⟨_, rfl, items, back, invert, rfl, row, rfl⟩

theorem exact_plain (found : Found) :
    Exact (plain found) fun used found' => ∃ items body invert, used = body ++ [final, invert] ∧
      Row (ItemLang anyNumber) body items ∧ found' = items.foldl Item.note found := by
  intro data found' rest
  exact exact_plainFrom data.length found (le_refl _) found' rest

theorem foldl_allItems (rules : List Rule) (found : Found) :
    rules.foldl (fun found r => r.items.foldl Item.note found) found =
      (allItems rules).foldl Item.note found := by
  induction rules generalizing found with
  | nil => rfl
  | cons r rules ih => rw [List.foldl_cons, ih, allItems, List.foldl_append]

theorem RuleLang.nonempty {fits : Nat → Prop} {levels : Nat} {used : Bytes} {r : Rule}
    (shape : RuleLang fits levels used r) : 1 ≤ used.length := by
  cases levels with
  | zero => exact shape.elim
  | succ levels =>
    cases r with
    | plain =>
      obtain ⟨body, rfl, -⟩ := shape
      simp
    | logical =>
      obtain ⟨body, rfl, -⟩ := shape
      simp

/-- By the levels left: the rules of a logical rule have one less. -/
theorem exact_rule (left : Nat) (found : Found) :
    Exact (rule left found) fun used found' =>
      ∃ r, RuleLang anyNumber left used r ∧ found' = r.items.foldl Item.note found := by
  induction left generalizing found with
  | zero =>
    refine (Exact.fail _).of_iff ?_
    intro used found'
    constructor
    · exact False.elim
    · rintro ⟨r, shape, -⟩
      exact shape
  | succ left ih =>
    have logical : ∀ mode : UInt8, Exact (if 1 < mode then
          Scan.fail ("unknown logical mode " ++ toString mode)
        else do
          let count ← count 1
          let found ← loop (rule left) count found
          let _ ← u8
          return found : Reader Found)
        fun used found' => mode ≤ 1 ∧ ∃ rules body invert, used = body ++ [invert] ∧
          Counted anyNumber (RuleLang anyNumber left) body rules ∧
          found' = (allItems rules).foldl Item.note found := by
      intro mode
      by_cases known : 1 < mode
      · rw [if_pos known]
        refine (Exact.fail _).of_iff ?_
        intro used found'
        constructor
        · exact False.elim
        · rintro ⟨small, -⟩
          exact absurd known (UInt8.not_lt.2 small)
      · rw [if_neg known]
        have looped := fun n => Exact.loop ih n found
        refine (exact_count (by decide) (fun n => (looped n).bind fun found =>
          exact_u8.map fun _ => found) ?_).of_iff ?_
        · rintro n _ a ⟨front, back, _, rfl, ⟨rules, row, rfl, -⟩, -⟩
          have enough := row.length fun used r => RuleLang.nonempty
          rw [List.length_append]
          omega
        · intro used found'
          constructor
          · rintro ⟨front, _, n, rfl, number, back, _, _, rfl, ⟨rules, row, rfl, rfl⟩, invert, rfl, rfl⟩
            exact ⟨UInt8.not_lt.1 known, rules, front ++ back, invert, (List.append_assoc _ _ _).symm,
              ⟨front, back, rfl, number, row⟩, foldl_allItems rules found⟩
          · rintro ⟨-, rules, _, invert, rfl, ⟨front, back, rfl, number, row⟩, rfl⟩
            exact ⟨front, back ++ [invert], _, List.append_assoc _ _ _, number, back, [invert], _, rfl,
              ⟨rules, row, rfl, rfl⟩, invert, rfl, (foldl_allItems rules found).symm⟩
    have body : ∀ kind : UInt8, Exact (if kind = 0 then plain found
        else if kind = 1 then do
          let mode ← u8
          if 1 < mode then Scan.fail ("unknown logical mode " ++ toString mode)
          else
            let count ← count 1
            let found ← loop (rule left) count found
            let _ ← u8
            return found
        else Scan.fail ("unknown rule type " ++ toString kind) : Reader Found)
        fun used found' => ∃ r, RuleLang anyNumber (left + 1) (kind :: used) r ∧
          found' = r.items.foldl Item.note found := by
      intro kind
      by_cases first : kind = 0
      · rw [if_pos first]
        refine (exact_plain found).of_iff ?_
        intro used found'
        constructor
        · rintro ⟨items, body, invert, rfl, row, rfl⟩
          exact ⟨.plain items invert, ⟨body, by rw [first]; rfl, row⟩, rfl⟩
        · rintro ⟨r, shape, rfl⟩
          cases r with
          | plain items invert =>
            obtain ⟨body, eq, row⟩ := shape
            exact ⟨items, body, invert, (List.cons.inj eq).2, row, rfl⟩
          | logical mode rules invert =>
            obtain ⟨body, eq, -⟩ := shape
            rw [first] at eq
            cases (List.cons.inj eq).1
      rw [if_neg first]
      by_cases second : kind = 1
      · rw [if_pos second]
        refine (exact_u8.bind logical).of_iff ?_
        intro used found'
        constructor
        · rintro ⟨_, _, mode, rfl, rfl, small, rules, body, invert, rfl, counted, rfl⟩
          exact ⟨.logical mode rules invert, ⟨body, by rw [second]; rfl, small, counted⟩, rfl⟩
        · rintro ⟨r, shape, rfl⟩
          cases r with
          | plain items invert =>
            obtain ⟨body, eq, -⟩ := shape
            exact absurd (List.cons.inj eq).1 first
          | logical mode rules invert =>
            obtain ⟨body, eq, small, counted⟩ := shape
            exact ⟨[mode], body ++ [invert], mode, (List.cons.inj eq).2, rfl, small, rules, body, invert,
              rfl, counted, rfl⟩
      · rw [if_neg second]
        refine (Exact.fail _).of_iff ?_
        intro used found'
        constructor
        · exact False.elim
        · rintro ⟨r, shape, -⟩
          cases r with
          | plain items invert =>
            obtain ⟨body, eq, -⟩ := shape
            exact absurd (List.cons.inj eq).1 first
          | logical mode rules invert =>
            obtain ⟨body, eq, -⟩ := shape
            exact absurd (List.cons.inj eq).1 second
    refine (exact_u8.bind body).of_iff ?_
    intro used found'
    constructor
    · rintro ⟨_, back, kind, rfl, rfl, r, shape, rfl⟩
      exact ⟨r, shape, rfl⟩
    · rintro ⟨r, shape, rfl⟩
      cases used with
      | nil =>
        have some := shape.nonempty
        cases some
      | cons kind back => exact ⟨[kind], back, kind, rfl, rfl, r, shape, rfl⟩

theorem exact_rules :
    Exact rules fun used found => ∃ rules, RulesLang anyNumber used rules ∧
      found = (allItems rules).foldl Item.note {} := by
  refine (exact_counted (by decide) (exact_rule (maxDepth + 1)) (fun used r => RuleLang.nonempty)
    {}).of_iff ?_
  intro used found
  simp only [foldl_allItems]
  rfl

theorem foldl_note (items : List Item) (found : Found) :
    items.foldl Item.note found =
      { domains := found.domains || items.any Item.matchesDomains
        cidrs := found.cidrs || items.any Item.destinations } := by
  induction items generalizing found with
  | nil => simp
  | cons i items ih =>
    rw [List.foldl_cons, ih, List.any_cons, List.any_cons]
    cases i with
    | domainStrings kind values =>
      cases values with
      | nil => rfl
      | cons v values => simp [Item.note, Item.matchesDomains, Item.destinations]
    | _ => simp [Item.note, Item.matchesDomains, Item.destinations]

theorem found_mirrorable (rules : List Rule) :
    (((allItems rules).foldl Item.note {}).domains && !((allItems rules).foldl Item.note {}).cidrs) =
      mirrorable rules := by
  rw [foldl_note]
  rfl

/-! ### A smaller encoding -/

section Mono

variable {fits fits' : Nat → Prop}

theorem Number.mono (fewer : ∀ n, fits n → fits' n) {used : Bytes} {n : Nat}
    (number : Number fits used n) : Number fits' used n := by
  obtain ⟨v, leb, length, fit, rfl⟩ := number
  exact ⟨v, leb, length, fewer v fit, rfl⟩

theorem Blob.mono (fewer : ∀ n, fits n → fits' n) {used content : Bytes}
    (blob : Blob fits used content) : Blob fits' used content := by
  obtain ⟨len, number, rfl⟩ := blob
  exact ⟨len, number.mono fewer, rfl⟩

theorem Counted.mono (fewer : ∀ n, fits n → fits' n) {α : Type} {each each' : Lang UInt8 α}
    (part : ∀ used a, each used a → each' used a) {used : Bytes} {values : List α}
    (counted : Counted fits each used values) : Counted fits' each' used values := by
  obtain ⟨front, back, rfl, number, row⟩ := counted
  exact ⟨front, back, rfl, number.mono fewer, row.mono part⟩

theorem Text.mono (fewer : ∀ n, fits n → fits' n) (used text : Bytes) (written : Text fits used text) :
    Text fits' used text :=
  ⟨written.1.mono fewer, written.2⟩

theorem Address.mono (fewer : ∀ n, fits n → fits' n) {used addr : Bytes}
    (written : Address fits used addr) : Address fits' used addr :=
  ⟨written.1.mono fewer, written.2⟩

theorem AddressSet.mono (fewer : ∀ n, fits n → fits' n) {used : Bytes} {ranges : List (Bytes × Bytes)}
    (set : AddressSet fits used ranges) : AddressSet fits' used ranges := by
  obtain ⟨back, rfl, fit, row⟩ := set
  refine ⟨back, rfl, fit, row.mono ?_⟩
  rintro used range ⟨front, back, rfl, first, last⟩
  exact ⟨front, back, rfl, first.mono fewer, last.mono fewer⟩

theorem ItemLang.mono (fewer : ∀ n, fits n → fits' n) (used : Bytes) (i : Item)
    (written : ItemLang fits used i) : ItemLang fits' used i := by
  obtain ⟨body, rfl, shape⟩ := written
  refine ⟨body, rfl, ?_⟩
  cases i with
  | numbers kind values => exact ⟨shape.1, shape.2.mono fewer fun _ _ => id⟩
  | strings kind values => exact ⟨shape.1, shape.2.mono fewer (Text.mono fewer)⟩
  | domain version leaves bitmap labels =>
    obtain ⟨one, two, three, rfl, words, map, blob, wellFormed⟩ := shape
    exact ⟨one, two, three, rfl, words.mono fewer fun _ _ => id, map.mono fewer fun _ _ => id,
      blob.mono fewer, wellFormed⟩
  | domainStrings kind values => exact ⟨shape.1, shape.2.mono fewer (Text.mono fewer)⟩
  | sourceIpCidr ranges => exact AddressSet.mono fewer shape
  | ipCidr ranges => exact AddressSet.mono fewer shape
  | networkType types => exact ⟨shape.1.mono fewer, shape.2⟩
  | flag kind => exact shape

theorem RuleLang.mono (fewer : ∀ n, fits n → fits' n) (levels : Nat) (used : Bytes) (r : Rule)
    (written : RuleLang fits levels used r) : RuleLang fits' levels used r := by
  induction levels generalizing used r with
  | zero => exact written.elim
  | succ levels ih =>
    cases r with
    | plain items invert =>
      obtain ⟨body, rfl, row⟩ := written
      exact ⟨body, rfl, row.mono (ItemLang.mono fewer)⟩
    | logical mode rules invert =>
      obtain ⟨body, rfl, small, counted⟩ := written
      exact ⟨body, rfl, small, counted.mono fewer ih⟩

theorem RulesLang.mono (fewer : ∀ n, fits n → fits' n) {used : Bytes} {rules : List Rule}
    (written : RulesLang fits used rules) : RulesLang fits' used rules :=
  Counted.mono fewer (RuleLang.mono fewer (maxDepth + 1)) written

end Mono

/-! ## What is accepted -/

/-- A count that fits its 64 bits. -/
def bounded (n : Nat) : Prop := n < 2 ^ 64

/-- A set of a version that is read, which inflates to the bytes. -/
def Inflates (inflate : Bytes → Except String Bytes) (data inflated : Bytes) : Prop :=
  ∃ version compressed, data = [0x53, 0x52, 0x53] ++ version :: compressed ∧ version ≤ maxVersion ∧
    inflate compressed = .ok inflated

theorem inspect_ok {inflate : Bytes → Except String Bytes} {data : Bytes} {b : Bool} :
    inspect inflate data = .ok b ↔ ∃ inflated found rest, Inflates inflate data inflated ∧
      rules inflated = .ok (found, rest) ∧ b = (found.domains && !found.cidrs) := by
  constructor
  · intro eq
    unfold inspect at eq
    split at eq
    next rest =>
      split at eq
      · cases eq
      next version compressed =>
        split at eq
        · cases eq
        next known =>
          cases inflated : inflate compressed with
          | error e =>
            rw [inflated] at eq
            cases eq
          | ok bytes =>
            rw [inflated] at eq
            cases read : rules bytes with
            | error e =>
              have failed : (do
                let (found, _) ← rules bytes
                return found.domains && !found.cidrs) = Except.ok b := eq
              rw [read] at failed
              cases failed
            | ok both =>
              have done : (do
                let (found, _) ← rules bytes
                return found.domains && !found.cidrs) = Except.ok b := eq
              rw [read] at done
              cases done
              exact ⟨bytes, both.1, both.2, ⟨version, compressed, rfl, UInt8.not_lt.1 known, inflated⟩,
                read, rfl⟩
    · cases eq
  · rintro ⟨bytes, found, rest, ⟨version, compressed, rfl, known, inflated⟩, read, rfl⟩
    show (if maxVersion < version then _ else _ : Except String Bool) = _
    rw [if_neg (UInt8.not_lt.2 known), inflated]
    show (do
      let (found, _) ← rules bytes
      return found.domains && !found.cidrs) = _
    rw [read]
    rfl

/-- Read as its grammar has it. -/
def ReadAsWritten (inflate : Bytes → Except String Bytes) (data : Bytes) : Prop :=
  (∀ used rest rules, Inflates inflate data (used ++ rest) → RulesLang bounded used rules →
    inspect inflate data = .ok (mirrorable rules)) ∧
  ∀ b, inspect inflate data = .ok b →
    ∃ used rest rules, Inflates inflate data (used ++ rest) ∧ RulesLang bounded used rules

/-- The bytes do not begin with rules one of whose counts, cut to 64 bits, is past them. -/
def NoCountCut (inflate : Bytes → Except String Bytes) (data : Bytes) : Prop :=
  ∀ used rest rules, Inflates inflate data (used ++ rest) → RulesLang anyNumber used rules →
    ∃ rules', RulesLang bounded used rules'

theorem Inflates.unique {inflate : Bytes → Except String Bytes} {data one other : Bytes}
    (here : Inflates inflate data one) (there : Inflates inflate data other) : one = other := by
  obtain ⟨version, compressed, rfl, -, inflated⟩ := here
  obtain ⟨version', compressed', eq, -, inflated'⟩ := there
  obtain ⟨-, rfl⟩ := List.cons.inj (List.append_cancel_left eq)
  rw [inflated] at inflated'
  cases inflated'
  rfl

theorem inspect_written {inflate : Bytes → Except String Bytes} {data used rest : Bytes}
    {rules : List Rule} (inflated : Inflates inflate data (used ++ rest))
    (written : RulesLang anyNumber used rules) : inspect inflate data = .ok (mirrorable rules) := by
  have read := (exact_rules (used ++ rest) _ rest).2 ⟨used, rfl, rules, written, rfl⟩
  exact inspect_ok.2 ⟨_, _, rest, inflated, read, (found_mirrorable rules).symm⟩

theorem read_as_written_iff (inflate : Bytes → Except String Bytes) (data : Bytes) :
    ReadAsWritten inflate data ↔ NoCountCut inflate data := by
  constructor
  · rintro ⟨-, accepted⟩ used rest rules inflated written
    obtain ⟨used', rest', rules', inflated', written'⟩ := accepted _ (inspect_written inflated written)
    -- both are what the reader takes, so they are one
    have same := inflated.unique inflated'
    have one := (exact_rules (used ++ rest) _ rest).2 ⟨used, rfl, rules, written, rfl⟩
    have other := (exact_rules (used ++ rest) _ rest').2
      ⟨used', same, rules', written'.mono fun _ _ => trivial, rfl⟩
    rw [one] at other
    obtain ⟨-, rfl⟩ := Prod.mk.inj (Except.ok.inj other)
    obtain rfl := List.append_cancel_right same
    exact ⟨rules', written'⟩
  · intro whole
    refine ⟨fun used rest rules inflated written => inspect_written inflated (written.mono fun _ _ => trivial), ?_⟩
    intro b accepted
    obtain ⟨inflated, found, rest, here, read, -⟩ := inspect_ok.1 accepted
    obtain ⟨used, rfl, rules, written, -⟩ := (exact_rules inflated found rest).1 read
    obtain ⟨rules', strict⟩ := whole used rest rules here written
    exact ⟨used, rest, rules', here, strict⟩

/-- A list of 2^64 rules by its count, of none by the 64 bits of it. -/
def cutCount : Bytes := [0x80, 0x80, 0x80, 0x80, 0x80, 0x80, 0x80, 0x80, 0x80, 0x02]

/-- A zlib stream that stores those bytes. -/
def stored : Bytes := [120, 1, 1, 10, 0, 245, 255] ++ cutCount ++ [27, 12, 4, 131]

def inflateStored (compressed : Bytes) : Except String Bytes :=
  if compressed = stored then .ok cutCount else .error "inflate: Failed"

theorem leb_cutCount : Leb128 cutCount (2 ^ 64) :=
  .more 0x80 (by decide) (.more 0x80 (by decide) (.more 0x80 (by decide) (.more 0x80 (by decide)
    (.more 0x80 (by decide) (.more 0x80 (by decide) (.more 0x80 (by decide) (.more 0x80 (by decide)
      (.more 0x80 (by decide) (.last 0x02 (by decide))))))))))

theorem cut_count_read : ¬ ReadAsWritten inflateStored ([0x53, 0x52, 0x53] ++ 4 :: stored) := by
  rintro ⟨-, accepted⟩
  have inflated : Inflates inflateStored ([0x53, 0x52, 0x53] ++ 4 :: stored) cutCount :=
    ⟨4, stored, rfl, by decide, if_pos rfl⟩
  have read : rules cutCount = .ok ({}, []) := by rfl
  obtain ⟨used, rest, rules, inflated', front, back, rfl, ⟨v, leb, -, below, -⟩, -⟩ :=
    accepted false (inspect_ok.2 ⟨_, _, _, inflated, read, rfl⟩)
  have same := inflated.unique inflated'
  rw [List.append_assoc, ← List.append_nil cutCount] at same
  have value := leb_cutCount.unique leb same
  rw [← value] at below
  exact Nat.lt_irrefl _ below

end PpvpnCore.Srs
