import PpvpnCore.Lib.Fields
import PpvpnCore.TunRules.Model

/-!
What a printed rule and a printed route say (`Display for Rule`, `Display for
Route` in `tunrules/mod.rs`): everything. Addresses and numbers are printed one
to one and without the characters that separate them, each selector begins with
a keyword of its own, and an interface name is one word when it has no space.
-/

namespace PpvpnCore.TunRules

open Lib

/-! ## Numbers and IPv4 addresses -/

theorem decimal_injective {m n : Nat} (eq : Nat.toDigits 10 m = Nat.toDigits 10 n) : m = n :=
  toDigits_injective (by decide) (by decide) eq

theorem hex_injective {m n : Nat} (eq : Nat.toDigits 16 m = Nat.toDigits 16 n) : m = n :=
  toDigits_injective (by decide) (by decide) eq

theorem decimal_plain {c : Char} (absent : c ∉ digits) (n : Nat) : c ∉ Nat.toDigits 10 n :=
  absent_toDigits (by decide) (by decide) n absent

theorem hex_plain {c : Char} (absent : c ∉ digits) (n : Nat) : c ∉ Nat.toDigits 16 n :=
  absent_toDigits (by decide) (by decide) n absent

def octets (addr : BitVec 32) : List Nat :=
  [addr.toNat / 2 ^ 24, addr.toNat / 2 ^ 16 % 256, addr.toNat / 2 ^ 8 % 256, addr.toNat % 256]

theorem octets_injective {a b : BitVec 32} (eq : octets a = octets b) : a = b := by
  simp only [octets, List.cons.injEq] at eq
  apply BitVec.eq_of_toNat_eq
  omega

theorem toList_showIpv4 (addr : BitVec 32) :
    (showIpv4 addr).toList = ['.'].intercalate ((octets addr).map (Nat.toDigits 10)) := by
  simp [showIpv4, octets]

theorem showIpv4_injective {a b : BitVec 32} (eq : (showIpv4 a).toList = (showIpv4 b).toList) :
    a = b := by
  rw [toList_showIpv4, toList_showIpv4] at eq
  have plain : ∀ addr, ∀ w ∈ (octets addr).map (Nat.toDigits 10), '.' ∉ w := by
    intro addr w mem
    obtain ⟨n, -, rfl⟩ := List.mem_map.1 mem
    exact decimal_plain (by decide) n
  have words := words_injective (by simp [octets]) (by simp [octets]) (plain a) (plain b) eq
  exact octets_injective (List.map_injective_iff.2 (fun m n => decimal_injective) words)

theorem showIpv4_plain {c : Char} (absent : c ∉ digits) (ne : c ≠ '.') (addr : BitVec 32) :
    c ∉ (showIpv4 addr).toList := by
  rw [toList_showIpv4]
  apply absent_intercalate ne
  intro w mem
  obtain ⟨n, -, rfl⟩ := List.mem_map.1 mem
  exact decimal_plain absent n

/-! ## IPv6 addresses -/

theorem segments_get (addr : BitVec 128) {i : Nat} (lt : i < 8) :
    (segments addr)[i]? = some (addr.toNat / 2 ^ (16 * (7 - i)) % 2 ^ 16) := by
  rw [segments, List.getElem?_map, List.getElem?_range lt, Option.map_some]

/-- The segments before the last `k` are what is left of an address without them. -/
theorem segments_above {a b : BitVec 128} (eq : segments a = segments b) {k : Nat} (le : k ≤ 8) :
    a.toNat / 2 ^ (16 * k) = b.toNat / 2 ^ (16 * k) := by
  induction le using Nat.decreasingInduction with
  | self => rw [Nat.div_eq_of_lt a.isLt, Nat.div_eq_of_lt b.isLt]
  | of_succ k below ih =>
    have segment := segments_get a (i := 7 - k) (by omega)
    rw [eq, segments_get b (by omega), Option.some.injEq, Nat.sub_sub_self (by omega)] at segment
    rw [Nat.mul_succ, Nat.pow_add, ← Nat.div_div_eq_div_mul, ← Nat.div_div_eq_div_mul] at ih
    rw [← Nat.div_add_mod (a.toNat / 2 ^ (16 * k)) (2 ^ 16), ih, ← segment, Nat.div_add_mod]

theorem segments_injective {a b : BitVec 128} (eq : segments a = segments b) : a = b := by
  have whole := segments_above eq (Nat.zero_le 8)
  apply BitVec.eq_of_toNat_eq
  simpa using whole

theorem zeroRuns_head (parts : List Nat) :
    List.replicate ((zeroRuns parts).headD 0) 0 <+: parts := by
  induction parts with
  | nil => exact List.prefix_rfl
  | cons part parts ih =>
    rw [zeroRuns, List.headD_cons]
    by_cases zero : part = 0
    · rw [if_pos zero, List.replicate_succ, zero]
      exact List.prefix_cons_inj 0 |>.2 ih
    · rw [if_neg zero]
      exact List.nil_prefix

/-- The zeros counted from an index on are there. -/
theorem zeroRuns_prefix {parts : List Nat} {i length : Nat}
    (found : (zeroRuns parts)[i]? = some length) :
    List.replicate length 0 <+: parts.drop i := by
  induction parts generalizing i with
  | nil => simp [zeroRuns] at found
  | cons part parts ih =>
    cases i with
    | zero =>
      have head := zeroRuns_head (part :: parts)
      rw [zeroRuns, List.getElem?_cons_zero, Option.some.injEq] at found
      rw [zeroRuns, List.headD_cons, found] at head
      exact head
    | succ i =>
      rw [zeroRuns, List.getElem?_cons_succ] at found
      exact ih found

theorem longestZeros_prefix (parts : List Nat) :
    List.replicate (longestZeros parts).2 0 <+: parts.drop (longestZeros parts).1 := by
  have step : ∀ (best : Nat × Nat), List.replicate best.2 0 <+: parts.drop best.1 →
      ∀ run ∈ (zeroRuns parts).zipIdx,
        List.replicate (if best.2 < run.1 then (run.2, run.1) else best).2 0 <+:
          parts.drop (if best.2 < run.1 then (run.2, run.1) else best).1 := by
    intro best held run mem
    by_cases longer : best.2 < run.1
    · rw [if_pos longer]
      exact zeroRuns_prefix (List.mem_zipIdx_iff_getElem?.1 mem)
    · rw [if_neg longer]
      exact held
  exact List.foldlRecOn
    (motive := fun best : Nat × Nat => List.replicate best.2 0 <+: parts.drop best.1)
    _ _ List.nil_prefix step

/-- The words before the first empty one, and those after it. -/
def around (words : List (List Char)) : List (List Char) × List (List Char) :=
  (words.takeWhile (· ≠ []), (words.dropWhile (· ≠ [])).filter (· ≠ []))

def joined (parts : List Nat) : List Char := [':'].intercalate (parts.map (Nat.toDigits 16))

theorem mem_hexes {parts : List Nat} {w : List Char} (mem : w ∈ parts.map (Nat.toDigits 16)) :
    w ≠ [] ∧ ∀ c ∉ digits, c ∉ w := by
  obtain ⟨n, -, rfl⟩ := List.mem_map.1 mem
  exact ⟨Nat.toDigits_ne_nil, fun c absent => hex_plain absent n⟩

theorem joined_plain {c : Char} (absent : c ∉ digits) (ne : c ≠ ':') (parts : List Nat) :
    c ∉ joined parts :=
  absent_intercalate ne fun _ mem => (mem_hexes mem).2 c absent

theorem splitOn_joined (parts : List Nat) :
    (joined parts).splitOn ':' =
      if parts = [] then [[]] else parts.map (Nat.toDigits 16) := by
  by_cases none : parts = []
  · rw [if_pos none, none]
    rfl
  · rw [if_neg none]
    apply List.splitOn_intercalate
    · intro w mem
      exact (mem_hexes mem).2 ':' (by decide)
    · simpa using none

/-- Two colons stand between the words before and after. -/
theorem around_gap (front back : List Nat) :
    around ((joined front ++ ':' :: ':' :: joined back).splitOn ':') =
      (front.map (Nat.toDigits 16), back.map (Nat.toDigits 16)) := by
  have filtered : ∀ parts : List Nat,
      ((joined parts).splitOn ':').filter (· ≠ []) = parts.map (Nat.toDigits 16) := by
    intro parts
    rw [splitOn_joined]
    by_cases none : parts = []
    · rw [if_pos none, none]
      rfl
    · rw [if_neg none, List.filter_eq_self]
      intro w mem
      simpa using (mem_hexes mem).1
  have gap := List.splitOn_append_cons_self (a := ':') [] (joined back)
  rw [List.nil_append, List.splitOn_nil, List.singleton_append] at gap
  rw [List.splitOn_append_cons_self, gap, around]
  rw [splitOn_joined]
  by_cases none : front = []
  · rw [if_pos none, none, Prod.mk.injEq]
    exact ⟨by simp, by simpa using filtered back⟩
  · rw [if_neg none, Prod.mk.injEq]
    have words : ∀ w ∈ front.map (Nat.toDigits 16), decide (w ≠ []) = true := by
      intro w mem
      simpa using (mem_hexes mem).1
    rw [List.takeWhile_append_of_pos words, List.dropWhile_append_of_pos words]
    exact ⟨by simp, by simpa using filtered back⟩

/-- An address that is not mapped shows its segments but a run of zeros, or all
of them. -/
theorem showIpv6_unmapped {addr : BitVec 128} (unmapped : addr >>> 32 ≠ 0xffff) :
    (∃ front back zeros, segments addr = front ++ List.replicate zeros 0 ++ back ∧
        (showIpv6 addr).toList = joined front ++ ':' :: ':' :: joined back) ∨
      (showIpv6 addr).toList = joined (segments addr) := by
  rw [showIpv6, if_neg unmapped]
  have texts : ∀ parts : List Nat, (":".intercalate (parts.map hex)).toList = joined parts := by
    intro parts
    simp [joined, hex, Function.comp_def]
  by_cases gap : 1 < (longestZeros (segments addr)).2
  · left
    refine ⟨(segments addr).take (longestZeros (segments addr)).1,
      (segments addr).drop ((longestZeros (segments addr)).1 + (longestZeros (segments addr)).2),
      (longestZeros (segments addr)).2, ?_, ?_⟩
    · obtain ⟨rest, eq⟩ := longestZeros_prefix (segments addr)
      have after := congrArg (List.drop (longestZeros (segments addr)).2) eq
      rw [List.drop_left' (List.length_replicate ..), List.drop_drop] at after
      rw [List.append_assoc, ← after, eq, List.take_append_drop]
    · simp only [if_pos gap, String.toList_append, texts]
      rw [List.append_assoc]
      rfl
  · right
    simp only [if_neg gap, texts]

theorem showIpv6_around {addr : BitVec 128} (unmapped : addr >>> 32 ≠ 0xffff) :
    ∃ front back zeros, segments addr = front ++ List.replicate zeros 0 ++ back ∧
      around ((showIpv6 addr).toList.splitOn ':') =
        (front.map (Nat.toDigits 16), back.map (Nat.toDigits 16)) := by
  rcases showIpv6_unmapped unmapped with ⟨front, back, zeros, parts, shown⟩ | shown
  · rw [shown]
    exact ⟨front, back, zeros, parts, around_gap front back⟩
  · refine ⟨segments addr, [], 0, by simp, ?_⟩
    rw [shown, splitOn_joined, if_neg (by simp [segments])]
    have words : ∀ w ∈ (segments addr).map (Nat.toDigits 16), decide (w ≠ []) = true := by
      intro w mem
      simpa using (mem_hexes mem).1
    rw [around, List.takeWhile_eq_self_iff.2 words, List.dropWhile_eq_nil_iff.2 words]
    rfl

theorem unmapped_injective {a b : BitVec 128} (unmapped : a >>> 32 ≠ 0xffff)
    (unmapped' : b >>> 32 ≠ 0xffff) (eq : (showIpv6 a).toList = (showIpv6 b).toList) : a = b := by
  obtain ⟨front, back, zeros, parts, shown⟩ := showIpv6_around unmapped
  obtain ⟨front', back', zeros', parts', shown'⟩ := showIpv6_around unmapped'
  rw [eq, shown', Prod.mk.injEq] at shown
  have hexes := List.map_injective_iff.2 fun m n => @hex_injective m n
  have fronts : front' = front := hexes shown.1
  have backs : back' = back := hexes shown.2
  subst fronts
  subst backs
  have eight := congrArg List.length parts
  have eight' := congrArg List.length parts'
  simp [segments] at eight eight'
  have zeros_eq : zeros = zeros' := by omega
  apply segments_injective
  rw [parts, parts', zeros_eq]

theorem mapped_injective {a b : BitVec 128} (mapped : a >>> 32 = 0xffff)
    (mapped' : b >>> 32 = 0xffff) (eq : (showIpv6 a).toList = (showIpv6 b).toList) : a = b := by
  rw [showIpv6, if_pos mapped, showIpv6, if_pos mapped', String.toList_append,
    String.toList_append] at eq
  have low := showIpv4_injective (List.append_cancel_left eq)
  have high : (a >>> 32).toNat = (b >>> 32).toNat := by rw [mapped, mapped']
  have low : (a.truncate 32).toNat = (b.truncate 32).toNat := by rw [low]
  rw [BitVec.toNat_ushiftRight, BitVec.toNat_ushiftRight, Nat.shiftRight_eq_div_pow,
    Nat.shiftRight_eq_div_pow] at high
  rw [BitVec.truncate_eq_setWidth, BitVec.truncate_eq_setWidth, BitVec.toNat_setWidth,
    BitVec.toNat_setWidth] at low
  apply BitVec.eq_of_toNat_eq
  omega

theorem showIpv6_mapped {addr : BitVec 128} (mapped : addr >>> 32 = 0xffff) :
    (showIpv6 addr).toList = "::ffff:".toList ++ (showIpv4 (addr.truncate 32)).toList := by
  rw [showIpv6, if_pos mapped, String.toList_append]

/-- Only a mapped address has dots. -/
theorem dot_mem_showIpv6 (addr : BitVec 128) :
    '.' ∈ (showIpv6 addr).toList ↔ addr >>> 32 = 0xffff := by
  constructor
  · intro dot
    by_contra unmapped
    have plain := fun parts => joined_plain (c := '.') (by decide) (by decide) parts
    rcases showIpv6_unmapped unmapped with ⟨front, back, _, _, shown⟩ | shown
    · rw [shown] at dot
      simp [plain] at dot
    · rw [shown] at dot
      exact plain _ dot
  · intro mapped
    rw [showIpv6_mapped mapped, toList_showIpv4]
    simp [octets]

theorem colon_mem_showIpv6 (addr : BitVec 128) : ':' ∈ (showIpv6 addr).toList := by
  by_cases mapped : addr >>> 32 = 0xffff
  · rw [showIpv6_mapped mapped]
    exact List.mem_append_left _ (by decide)
  · rcases showIpv6_unmapped mapped with ⟨front, back, _, _, shown⟩ | shown
    · rw [shown]
      simp
    · rw [shown]
      simp [joined, segments, List.range_succ]

theorem showIpv6_plain {c : Char} (absent : c ∉ digits) (dot : c ≠ '.') (colon : c ≠ ':')
    (addr : BitVec 128) : c ∉ (showIpv6 addr).toList := by
  by_cases mapped : addr >>> 32 = 0xffff
  · rw [showIpv6_mapped mapped, List.mem_append, not_or]
    refine ⟨?_, showIpv4_plain absent dot _⟩
    intro mem
    have among : c = ':' ∨ c = 'f' ∨ c = ':' := by simpa using mem
    rcases among with eq | rfl | eq
    · exact colon eq
    · exact absent (by decide)
    · exact colon eq
  · rcases showIpv6_unmapped mapped with ⟨front, back, _, _, shown⟩ | shown
    · rw [shown]
      simp [joined_plain absent colon, colon]
    · rw [shown]
      exact joined_plain absent colon _

/-! ## Addresses and prefixes -/

theorem showIpv6_injective {a b : BitVec 128} (eq : (showIpv6 a).toList = (showIpv6 b).toList) :
    a = b := by
  have same : a >>> 32 = 0xffff ↔ b >>> 32 = 0xffff := by
    rw [← dot_mem_showIpv6, ← dot_mem_showIpv6, eq]
  by_cases mapped : a >>> 32 = 0xffff
  · exact mapped_injective mapped (same.1 mapped) eq
  · exact unmapped_injective mapped (fun other => mapped (same.2 other)) eq

theorem showAddr_injective {a b : IpAddr} (eq : (showAddr a).toList = (showAddr b).toList) :
    a = b := by
  have colonless := fun addr => showIpv4_plain (c := ':') (by decide) (by decide) addr
  cases a with
  | v4 a =>
    cases b with
    | v4 b =>
      rw [showAddr, showAddr] at eq
      rw [showIpv4_injective eq]
    | v6 b =>
      rw [showAddr, showAddr] at eq
      have colon := colon_mem_showIpv6 b
      rw [← eq] at colon
      exact absurd colon (colonless a)
  | v6 a =>
    cases b with
    | v4 b =>
      rw [showAddr, showAddr] at eq
      have colon := colon_mem_showIpv6 a
      rw [eq] at colon
      exact absurd colon (colonless b)
    | v6 b =>
      rw [showAddr, showAddr] at eq
      rw [showIpv6_injective eq]

theorem showAddr_plain {c : Char} (absent : c ∉ digits) (dot : c ≠ '.') (colon : c ≠ ':')
    (addr : IpAddr) : c ∉ (showAddr addr).toList := by
  cases addr with
  | v4 addr => exact showIpv4_plain absent dot addr
  | v6 addr => exact showIpv6_plain absent dot colon addr

theorem toList_showPrefix (p : Prefix) :
    (showPrefix p).toList = (showAddr p.addr).toList ++ '/' :: Nat.toDigits 10 p.bits := by
  simp [showPrefix]

theorem showPrefix_injective {p q : Prefix} (eq : (showPrefix p).toList = (showPrefix q).toList) :
    p = q := by
  rw [toList_showPrefix, toList_showPrefix] at eq
  have plain := fun addr => showAddr_plain (c := '/') (by decide) (by decide) (by decide) addr
  obtain ⟨addr, bits⟩ := pair_injective (plain _) (plain _) eq
  have addr : p.addr = q.addr := showAddr_injective addr
  have bits : p.bits = q.bits := decimal_injective bits
  cases p
  cases q
  exact (Prefix.mk.injEq ..).mpr ⟨addr, bits⟩

theorem showPrefix_spaceless (p : Prefix) : ' ' ∉ (showPrefix p).toList := by
  rw [toList_showPrefix]
  have addr := showAddr_plain (c := ' ') (by decide) (by decide) (by decide) p.addr
  have bits := decimal_plain (c := ' ') (by decide) p.bits
  simp [addr, bits]

/-! ## Rules -/

def range (bounds : Nat × Nat) : List Char :=
  Nat.toDigits 10 bounds.1 ++ '-' :: Nat.toDigits 10 bounds.2

theorem range_injective {a b : Nat × Nat} (eq : range a = range b) : a = b := by
  have plain := decimal_plain (c := '-') (by decide)
  obtain ⟨first, last⟩ := pair_injective (plain _) (plain _) eq
  exact Prod.ext (decimal_injective first) (decimal_injective last)

/-- Mark and mask. -/
def marked (fwmark : UInt32 × UInt32) : List Char :=
  "0x".toList ++ Nat.toDigits 16 fwmark.1.toNat ++
    '/' :: ("0x".toList ++ Nat.toDigits 16 fwmark.2.toNat)

theorem marked_injective {a b : UInt32 × UInt32} (eq : marked a = marked b) : a = b := by
  have plain : ∀ n, '/' ∉ "0x".toList ++ Nat.toDigits 16 n := by
    intro n
    have digits := hex_plain (c := '/') (by decide) n
    simp [digits]
  obtain ⟨mark, mask⟩ := pair_injective (plain _) (plain _) eq
  have mark := hex_injective (List.append_cancel_left mark)
  have mask := hex_injective (List.append_cancel_left mask)
  exact Prod.ext (UInt32.toNat_inj.1 mark) (UInt32.toNat_inj.1 mask)

def Action.fields (suppressPrefixlen : Option UInt32) (action : Action) : List Field :=
  let number := fun n : Nat => some (Nat.toDigits 10 n)
  [.option "lookup".toList (match action with | .table n => number n.toNat | _ => none),
    .option "suppress_prefixlength".toList (match action with
      | .table _ => suppressPrefixlen.map fun len => Nat.toDigits 10 len.toNat
      | _ => none),
    .option "goto".toList (match action with | .goto n => number n.toNat | _ => none),
    .flag "nop".toList (action = .nop), .flag "blackhole".toList (action = .blackhole),
    .flag "unreachable".toList (action = .unreachable),
    .flag "prohibit".toList (action = .prohibit),
    .option "action".toList (match action with | .other n => number n.toNat | _ => none)]

/-- The selectors' words, as keywords and their arguments. -/
def Rule.selectors (r : Rule) : List Field :=
  let bounds := fun {α : Type} (toNat : α → Nat) (range : Option (α × α)) =>
    range.map fun bounds => (toNat bounds.1, toNat bounds.2)
  [.flag "not".toList r.invert, .option "from".toList (r.src.map fun p => (showPrefix p).toList),
    .option "to".toList (r.dst.map fun p => (showPrefix p).toList),
    .option "tos".toList (if r.tos ≠ 0 then some (Nat.toDigits 10 r.tos.toNat) else none),
    .option "fwmark".toList (r.fwmark.map marked), .option "iif".toList (r.iif.map String.toList),
    .option "oif".toList (r.oif.map String.toList),
    .option "ipproto".toList (r.ipProto.map fun proto => Nat.toDigits 10 proto.toNat),
    .option "sport".toList ((bounds UInt16.toNat r.sport).map range),
    .option "dport".toList ((bounds UInt16.toNat r.dport).map range),
    .option "uidrange".toList ((bounds UInt32.toNat r.uidRange).map range)]

def Rule.fields (r : Rule) : List Field := r.selectors ++ r.action.fields r.suppressPrefixlen

def Rule.head (r : Rule) : List Char :=
  Nat.toDigits 10 r.priority.toNat ++ '/' :: r.family.show.toList

theorem toList_showAction (suppressPrefixlen : Option UInt32) (action : Action) :
    (showAction suppressPrefixlen action).toList =
      spaced ' ' (written (action.fields suppressPrefixlen)) := by
  cases action with
  | table table =>
    cases suppressPrefixlen <;>
      simp [showAction, Action.fields, written, Field.written, Field.option, Field.flag, spaced,
        toString]
  | _ =>
    simp [showAction, Action.fields, written, Field.written, Field.option, Field.flag, spaced,
      toString]

theorem toList_elim {α : Type} (o : Option α) (f : α → String) :
    (o.elim "" f).toList = o.elim [] fun a => (f a).toList := by
  cases o <;> rfl

theorem spaced_option (key : List Char) (value : Option (List Char)) (fields : List Field) :
    spaced ' ' (written (.option key value :: fields)) =
      (value.elim [] fun w => ' ' :: (key ++ ' ' :: w)) ++ spaced ' ' (written fields) := by
  rw [written, List.flatMap_cons, spaced_append]
  cases value <;> simp [Field.written, Field.option, spaced, written]

theorem spaced_flag (key : List Char) (set : Bool) (fields : List Field) :
    spaced ' ' (written (.flag key set :: fields)) =
      (if set then ' ' :: key else []) ++ spaced ' ' (written fields) := by
  rw [written, List.flatMap_cons, spaced_append]
  cases set <;> simp [Field.written, Field.flag, spaced, written]

theorem toList_text (r : Rule) :
    (text r).toList = [' '].intercalate (r.head :: written r.fields) := by
  have append : ∀ fs gs : List Field, written (fs ++ gs) = written fs ++ written gs :=
    fun fs gs => List.flatMap_append
  have byte : ∀ n : UInt8, (toString n).toList = Nat.toDigits 10 n.toNat := fun _ => Nat.toList_repr
  have word : ∀ n : UInt32, (toString n).toList = Nat.toDigits 10 n.toNat := fun _ => Nat.toList_repr
  have nat : ∀ n : Nat, (toString n).toList = Nat.toDigits 10 n := fun _ => Nat.toList_repr
  have hexes : ∀ n : Nat, (hex n).toList = Nat.toDigits 16 n := fun _ => String.toList_ofList
  have tos : (if r.tos ≠ 0 then " tos " ++ toString r.tos else "").toList =
      (if r.tos ≠ 0 then some (Nat.toDigits 10 r.tos.toNat) else none).elim []
        fun w => ' ' :: ("tos".toList ++ ' ' :: w) := by
    by_cases zero : r.tos = 0
    · simp [zero]
    · simp [zero, byte]
  have not : (if r.invert = true then " not" else "").toList =
      if r.invert = true then ' ' :: "not".toList else [] := by
    cases r.invert <;> rfl
  rw [intercalate_eq_spaced, Rule.fields, append, spaced_append, ← toList_showAction]
  simp only [Rule.selectors, text, String.toList_append, toList_elim, spaced_option, spaced_flag, Option.elim_map,
    Function.comp_def, Rule.head, tos, not, byte, word, nat, hexes, range, marked]
  simp [written, spaced]

/-- Interface names are words, and only a rule that looks up a table suppresses
prefix lengths. -/
structure Rule.Plain (r : Rule) : Prop where
  iif : ∀ name ∈ r.iif, ' ' ∉ name.toList
  oif : ∀ name ∈ r.oif, ' ' ∉ name.toList
  suppressed : ∀ len, r.suppressPrefixlen = some len → ∃ table, r.action = .table table

theorem Rule.head_spaceless (r : Rule) : ' ' ∉ r.head := by
  have priority := decimal_plain (c := ' ') (by decide) r.priority.toNat
  cases family : r.family <;> simp [Rule.head, priority, family, Family.show]

/-- The keywords, in the order of the printed form. -/
def keywords : List (List Char) :=
  ["not", "from", "to", "tos", "fwmark", "iif", "oif", "ipproto", "sport", "dport", "uidrange",
    "lookup", "suppress_prefixlength", "goto", "nop", "blackhole", "unreachable", "prohibit",
    "action"].map String.toList

theorem Rule.fields_keys (r : Rule) : r.fields.map Field.key = keywords := rfl

theorem Action.fields_plain (suppressPrefixlen : Option UInt32) (action : Action) :
    ∀ f ∈ action.fields suppressPrefixlen, f.Plain ' ' := by
  have number := decimal_plain (c := ' ') (by decide)
  cases action <;>
    simp [Action.fields, Field.flag_plain, Field.option_plain, number]

theorem Rule.selectors_plain {r : Rule} (plain : r.Plain) : ∀ f ∈ r.selectors, f.Plain ' ' := by
  have number := decimal_plain (c := ' ') (by decide)
  have hexes := hex_plain (c := ' ') (by decide)
  have ranges : ∀ bounds, ' ' ∉ range bounds := by simp [range, number]
  have marks : ∀ fwmark, ' ' ∉ marked fwmark := by simp [marked, hexes]
  have tos : ∀ w ∈ (if r.tos ≠ 0 then some (Nat.toDigits 10 r.tos.toNat) else none), ' ' ∉ w := by
    by_cases zero : r.tos = 0 <;> simp [zero, number]
  simp only [Rule.selectors, List.forall_mem_cons, Option.map_map]
  exact ⟨Field.flag_plain _, Field.map_plain fun p _ => showPrefix_spaceless p,
    Field.map_plain fun p _ => showPrefix_spaceless p, Field.option_plain.2 tos,
    Field.map_plain fun fwmark _ => marks fwmark, Field.map_plain plain.iif,
    Field.map_plain plain.oif, Field.map_plain fun _ _ => number _,
    Field.map_plain fun _ _ => ranges _, Field.map_plain fun _ _ => ranges _,
    Field.map_plain fun _ _ => ranges _, List.forall_mem_nil _⟩

theorem Rule.fields_plain {r : Rule} (plain : r.Plain) : ∀ f ∈ r.fields, f.Plain ' ' := by
  intro f mem
  rcases List.mem_append.1 mem with mem | mem
  · exact r.selectors_plain plain f mem
  · exact Action.fields_plain _ _ f mem

theorem Rule.fields_alike (r s : Rule) : r.fields.Forall₂ Field.Alike s.fields := by
  simp only [Rule.fields, Rule.selectors, Action.fields, List.cons_append, List.nil_append,
    List.forall₂_cons, Field.flag_alike, Field.option_alike, true_and]
  exact List.Forall₂.nil

theorem Action.fields_injective {a b : Action} {m n : Option UInt32}
    (eq : a.fields m = b.fields n) : a = b ∧ ∀ table, a = .table table → m = n := by
  have number : ∀ {m n : Nat}, Nat.toDigits 10 m = Nat.toDigits 10 n ↔ m = n :=
    ⟨decimal_injective, congrArg _⟩
  have word : ∀ {m n : UInt32}, m.toNat = n.toNat ↔ m = n := UInt32.toNat_inj
  have byte : ∀ {m n : UInt8}, m.toNat = n.toNat ↔ m = n := UInt8.toNat_inj
  have lengths : Function.Injective (fun len : UInt32 => Nat.toDigits 10 len.toNat) := by
    intro m n eq
    exact word.1 (number.1 eq)
  cases a <;> cases b <;> simp_all [Action.fields]
  exact Option.map_injective lengths eq.2

theorem Rule.fields_injective {r s : Rule} (plain : r.Plain) (plain' : s.Plain)
    (eq : r.fields = s.fields) (family : r.family = s.family) (priority : r.priority = s.priority) :
    r = s := by
  obtain ⟨selectors, actions⟩ := List.append_inj eq rfl
  obtain ⟨action, suppressed⟩ := Action.fields_injective actions
  have prefixes := Option.map_injective (f := fun p => (showPrefix p).toList)
    fun p q => showPrefix_injective
  simp only [Rule.selectors, List.cons.injEq, Field.flag_inj, Field.option_inj, Option.map_map]
    at selectors
  obtain ⟨invert, src, dst, tos, fwmark, iif, oif, proto, sport, dport, uids, -⟩ := selectors
  have names : Function.Injective String.toList := fun _ _ => String.toList_inj.1
  have bytes : Function.Injective (fun n : UInt8 => Nat.toDigits 10 n.toNat) := by
    intro m n eq
    exact UInt8.toNat_inj.1 (decimal_injective eq)
  have ports : Function.Injective
      (range ∘ fun bounds : UInt16 × UInt16 => (bounds.1.toNat, bounds.2.toNat)) := by
    intro m n eq
    obtain ⟨first, last⟩ := Prod.mk.inj (range_injective eq)
    exact Prod.ext (UInt16.toNat_inj.1 first) (UInt16.toNat_inj.1 last)
  have ids : Function.Injective
      (range ∘ fun bounds : UInt32 × UInt32 => (bounds.1.toNat, bounds.2.toNat)) := by
    intro m n eq
    obtain ⟨first, last⟩ := Prod.mk.inj (range_injective eq)
    exact Prod.ext (UInt32.toNat_inj.1 first) (UInt32.toNat_inj.1 last)
  have src : r.src = s.src := prefixes src
  have dst : r.dst = s.dst := prefixes dst
  have tos : r.tos = s.tos := by
    by_cases zero : r.tos = 0 <;> by_cases zero' : s.tos = 0 <;> simp [zero, zero'] at tos ⊢
    exact bytes tos
  have fwmark : r.fwmark = s.fwmark := Option.map_injective (fun _ _ => marked_injective) fwmark
  have iif : r.iif = s.iif := Option.map_injective names iif
  have oif : r.oif = s.oif := Option.map_injective names oif
  have proto : r.ipProto = s.ipProto := Option.map_injective bytes proto
  have sport : r.sport = s.sport := Option.map_injective ports sport
  have dport : r.dport = s.dport := Option.map_injective ports dport
  have uids : r.uidRange = s.uidRange := Option.map_injective ids uids
  have suppress : r.suppressPrefixlen = s.suppressPrefixlen := by
    by_cases looks : ∃ table, r.action = .table table
    · obtain ⟨table, looks⟩ := looks
      exact suppressed table looks
    · have none : ∀ t : Rule, t.Plain → t.action = r.action → t.suppressPrefixlen = none := by
        intro t plain same
        rw [Option.eq_none_iff_forall_ne_some]
        intro len there
        exact looks (same ▸ plain.suppressed len there)
      rw [none r plain rfl, none s plain' action.symm]
  cases r
  cases s
  simp_all

theorem rule_text_injective {r s : Rule} (plain : r.Plain) (plain' : s.Plain)
    (eq : text r = text s) : r = s := by
  have spaceless : ∀ r : Rule, r.Plain → ∀ w ∈ r.head :: written r.fields, ' ' ∉ w := by
    intro r plain
    rw [List.forall_mem_cons]
    refine ⟨r.head_spaceless, written_plain ?_ (Rule.fields_plain plain)⟩
    rw [r.fields_keys]
    decide
  have chars := congrArg String.toList eq
  rw [toList_text, toList_text] at chars
  have words := words_injective (List.cons_ne_nil _ _) (List.cons_ne_nil _ _) (spaceless r plain)
    (spaceless s plain') chars
  obtain ⟨head, rest⟩ := List.cons.inj words
  have distinct : (r.fields.map Field.key).Nodup := by
    rw [r.fields_keys]
    decide
  have fields := written_injective (r.fields_alike s) distinct rest
  have slashless := decimal_plain (c := '/') (by decide)
  obtain ⟨priority, family⟩ := pair_injective (slashless _) (slashless _) head
  apply Rule.fields_injective plain plain' fields
  · cases one : r.family <;> cases other : s.family <;> simp [one, other, Family.show] at family <;> rfl
  · exact UInt32.toNat_inj.1 (decimal_injective priority)

/-! ## Routes -/

def Route.words (r : Route) : List (List Char) :=
  ((showPrefix r.dst).toList :: r.gateway.elim [] fun gw => ["via".toList, (showAddr gw).toList]) ++
    ["dev#".toList ++ Nat.toDigits 10 r.oif.toNat, "metric".toList, Nat.toDigits 10 r.metric.toNat]

theorem Route.toList_text (r : Route) : (text r).toList = [' '].intercalate r.words := by
  have word : ∀ n : UInt32, (toString n).toList = Nat.toDigits 10 n.toNat := fun _ => Nat.toList_repr
  cases gateway : r.gateway <;>
    simp [Route.words, text, gateway, word]

theorem Route.words_plain (r : Route) : ∀ w ∈ r.words, ' ' ∉ w := by
  have number := decimal_plain (c := ' ') (by decide)
  have addr := showAddr_plain (c := ' ') (by decide) (by decide) (by decide)
  cases gateway : r.gateway <;>
    simp [Route.words, gateway, number, addr, showPrefix_spaceless]

theorem Route.words_injective {r s : Route} (eq : r.words = s.words) : r = s := by
  have same : ∀ {m n : UInt32}, Nat.toDigits 10 m.toNat = Nat.toDigits 10 n.toNat → m = n :=
    fun eq => UInt32.toNat_inj.1 (decimal_injective eq)
  obtain ⟨dst, gateway, oif, metric⟩ := r
  obtain ⟨dst', gateway', oif', metric'⟩ := s
  cases gateway <;> cases gateway' <;>
    simp only [Route.words, Option.elim, List.cons_append, List.nil_append, List.cons.injEq] at eq
  · rw [showPrefix_injective eq.1, same (List.append_cancel_left eq.2.1), same eq.2.2.2.1]
  · simp at eq
  · simp at eq
  · rw [showPrefix_injective eq.1, showAddr_injective eq.2.2.1,
      same (List.append_cancel_left eq.2.2.2.1), same eq.2.2.2.2.2.1]

theorem route_text_injective {r s : Route} (eq : text r = text s) : r = s := by
  have chars := congrArg String.toList eq
  rw [r.toList_text, s.toList_text] at chars
  exact Route.words_injective
    (words_injective (List.cons_ne_nil _ _) (List.cons_ne_nil _ _) r.words_plain s.words_plain chars)

end PpvpnCore.TunRules
