import PpvpnCore.Translate.Tun
import PpvpnCore.Lib.Words

/-!
# Prefixes less their holes

A prefix is the word of its leading bits, an address the word of all of its
bits, and a prefix holds the addresses its word begins. Splitting a part
around a hole is taking the hole's word from the part's, so what `without`
returns is what is left of the prefix without the holes.

* `splitAround_words`: a split of a part is a split of its word.
* `without_exact`: the addresses, the form and the number of what is left.
-/

namespace PpvpnCore

open Lib

/-! ## Leading bits -/

variable {v v' w b n : Nat}

/-- The `n` leading of the low `w` bits. -/
def word (w : Nat) (a : BitVec v) (n : Nat) : List Bool :=
  (List.range n).map fun i => a.getLsbD (w - 1 - i)

@[simp] theorem length_word (a : BitVec v) : (word w a n).length = n := by
  simp [word]

theorem word_succ (a : BitVec v) :
    word w a (n + 1) = word w a n ++ [a.getLsbD (w - 1 - n)] := by
  simp [word, List.range_succ]

theorem word_congr {a : BitVec v} {c : BitVec v'}
    (agree : ∀ i < n, a.getLsbD (w - 1 - i) = c.getLsbD (w - 1 - i)) : word w a n = word w c n := by
  apply List.map_congr_left
  intro i mem
  exact agree i (List.mem_range.1 mem)

theorem word_below_iff {a : BitVec v} {c : BitVec v'} {m : Nat} :
    word w a m <+: word w c n ↔
      m ≤ n ∧ ∀ i < m, a.getLsbD (w - 1 - i) = c.getLsbD (w - 1 - i) := by
  rw [List.prefix_iff_getElem]
  simp only [word, List.length_map, List.length_range, List.getElem_map, List.getElem_range,
    exists_prop]

/-- The leading bits a mask keeps are the word. -/
theorem and_eq_and_iff {a c m : BitVec v} (fits : b ≤ w) (long : b ≤ n)
    (mask : ∀ k, m.getLsbD k = decide (w - b ≤ k ∧ k < w)) :
    a &&& m = c &&& m ↔ word w a b <+: word w c n := by
  rw [word_below_iff]
  constructor
  · intro same
    refine ⟨long, ?_⟩
    intro i below
    have bit := congrArg (BitVec.getLsbD · (w - 1 - i)) same
    have kept : m.getLsbD (w - 1 - i) = true := by rw [mask]; simp; omega
    simpa only [BitVec.getLsbD_and, kept, Bool.and_true] using bit
  · rintro ⟨-, agree⟩
    apply BitVec.eq_of_getLsbD_eq
    intro k _
    rw [BitVec.getLsbD_and, BitVec.getLsbD_and, mask]
    by_cases kept : w - b ≤ k ∧ k < w
    · have bit := agree (w - 1 - k) (by omega)
      rw [show w - 1 - (w - 1 - k) = k by omega] at bit
      rw [bit]
    · rw [decide_eq_false kept, Bool.and_false, Bool.and_false]

theorem getLsbD_mask (k : Nat) :
    (Prefix.mask w b).getLsbD k = decide (w - b ≤ k ∧ k < w) := by
  rw [Prefix.mask, BitVec.getLsbD_shiftLeft, BitVec.getLsbD_allOnes]
  rw [Bool.eq_iff_iff]
  simp only [Bool.and_eq_true, Bool.not_eq_true', decide_eq_true_eq, decide_eq_false_iff_not]
  omega

/-- A mask keeps what has no bit below it. -/
theorem and_mask_eq_self_iff {a : BitVec w} :
    a &&& Prefix.mask w b = a ↔ ∀ k < w - b, a.getLsbD k = false := by
  constructor
  · intro same k low
    have off : ¬ (w - b ≤ k ∧ k < w) := by omega
    rw [← same, BitVec.getLsbD_and, getLsbD_mask, decide_eq_false off, Bool.and_false]
  · intro clear
    apply BitVec.eq_of_getLsbD_eq
    intro k inside
    rw [BitVec.getLsbD_and, getLsbD_mask]
    by_cases high : w - b ≤ k
    · rw [decide_eq_true ⟨high, inside⟩, Bool.and_true]
    · rw [clear k (by omega), Bool.false_and]

theorem Part.width_le (p : Part) : p.width ≤ 128 := by
  rw [Part.width]
  split <;> omega

theorem Part.getLsbD_mask (p : Part) (fits : b ≤ p.width) (k : Nat) :
    (p.mask b).getLsbD k = decide (p.width - b ≤ k ∧ k < p.width) := by
  have wide := p.width_le
  rw [Part.mask]
  split_ifs with none
  · subst none
    simp only [BitVec.ofNat_eq_ofNat, BitVec.getLsbD_zero]
    exact (decide_eq_false (by omega)).symm
  · rw [BitVec.getLsbD_ushiftRight, BitVec.getLsbD_shiftLeft, BitVec.getLsbD_allOnes]
    rw [Bool.eq_iff_iff]
    simp only [Bool.and_eq_true, Bool.not_eq_true', decide_eq_true_eq, decide_eq_false_iff_not]
    omega

/-! ## Prefixes as words -/

def IpAddr.width (ip : IpAddr) : Nat := if ip.isIpv4 then 32 else 128

/-- No bit of the address is set past its length. -/
def Prefix.Canonical (p : Prefix) : Prop := p.bits ≤ p.addr.width ∧ p.masked = p

/-- Every address of `p` is one of `q`. -/
def Prefix.Inside (p q : Prefix) : Prop := ∀ ip, p.contains ip → q.contains ip

/-- No address is in both. -/
def Prefix.Disjoint (p q : Prefix) : Prop := ∀ ip, ¬ (p.contains ip ∧ q.contains ip)

def Part.word (p : Part) : List Bool := PpvpnCore.word p.width p.net p.bits

structure Part.Canonical (p : Part) : Prop where
  fits : p.bits ≤ p.width
  clear : ∀ k, k < p.width - p.bits ∨ p.width ≤ k → p.net.getLsbD k = false

def IpAddr.part (ip : IpAddr) : Part := .ofPrefix (.host ip)

@[simp] theorem Part.length_word (p : Part) : p.word.length = p.bits := PpvpnCore.length_word _

theorem Part.ofPrefix_width (p : Prefix) : (Part.ofPrefix p).width = p.addr.width := by
  obtain ⟨addr, bits⟩ := p
  cases addr <;> rfl

@[simp] theorem Part.ofPrefix_bits (p : Prefix) : (Part.ofPrefix p).bits = p.bits := by
  obtain ⟨addr, bits⟩ := p
  cases addr <;> rfl

theorem IpAddr.part_bits (ip : IpAddr) : ip.part.bits = ip.part.width := by
  cases ip <;> rfl

theorem word_zeroExtend (a : BitVec 32) : word 32 (a.zeroExtend 128) n = word 32 a n := by
  apply word_congr
  intro i _
  rw [BitVec.getLsbD_setWidth]
  simp
  omega

/-- A prefix holds the addresses of its family that its word begins. -/
theorem Prefix.contains_iff {p : Prefix} (fits : p.bits ≤ p.addr.width) (ip : IpAddr) :
    p.contains ip ↔
      (Part.ofPrefix p).v6 = ip.part.v6 ∧ (Part.ofPrefix p).word <+: ip.part.word := by
  obtain ⟨addr, bits⟩ := p
  cases addr <;> cases ip
  case v4.v4 net a =>
    have same := and_eq_and_iff (a := net) (c := a) fits fits getLsbD_mask
    simp only [Prefix.contains, beq_iff_eq, same]
    have one : (Part.ofPrefix ⟨.v4 net, bits⟩).word = word 32 net bits := word_zeroExtend net
    have other : (IpAddr.v4 a).part.word = word 32 a 32 := word_zeroExtend a
    rw [one, other]
    exact ⟨fun below => ⟨rfl, below⟩, And.right⟩
  case v6.v6 net a =>
    have same := and_eq_and_iff (a := net) (c := a) fits fits getLsbD_mask
    simp only [Prefix.contains, beq_iff_eq, same]
    exact ⟨fun below => ⟨rfl, below⟩, And.right⟩
  all_goals simp [Prefix.contains, IpAddr.part, Part.ofPrefix, Prefix.host]

theorem Prefix.contains_addr (p : Prefix) : p.contains p.addr := by
  obtain ⟨addr, bits⟩ := p
  cases addr <;> simp [Prefix.contains]

/-- A canonical prefix as a part. -/
theorem Part.ofPrefix_canonical {p : Prefix} (canonical : p.Canonical) :
    (Part.ofPrefix p).Canonical := by
  obtain ⟨addr, bits⟩ := p
  obtain ⟨fits, masked⟩ := canonical
  refine ⟨by rw [Part.ofPrefix_bits, Part.ofPrefix_width]; exact fits, ?_⟩
  intro k outside
  cases addr
  case v4 net =>
    have clear := and_mask_eq_self_iff.1 (show net &&& Prefix.mask 32 bits = net by
      simpa [Prefix.masked] using masked)
    change (net.zeroExtend 128).getLsbD k = false
    rw [BitVec.getLsbD_setWidth]
    rcases outside with low | high
    · rw [clear k low, Bool.and_false]
    · rw [BitVec.getLsbD_of_ge net k high, Bool.and_false]
  case v6 net =>
    have clear := and_mask_eq_self_iff.1 (show net &&& Prefix.mask 128 bits = net by
      simpa [Prefix.masked] using masked)
    rcases outside with low | high
    · exact clear k low
    · exact BitVec.getLsbD_of_ge net k high

theorem Part.Canonical.ofPrefix_toPrefix {p : Part} (canonical : p.Canonical) :
    Part.ofPrefix p.toPrefix = p := by
  obtain ⟨net, v6, bits⟩ := p
  cases v6
  case true => rfl
  case false =>
    have back : (net.truncate 32).zeroExtend 128 = net := by
      apply BitVec.eq_of_getLsbD_eq
      intro k _
      rw [BitVec.getLsbD_setWidth, BitVec.getLsbD_setWidth]
      by_cases low : k < 32
      · simp [low]; omega
      · have high := canonical.clear k (.inr (Nat.not_lt.1 low))
        simp only [decide_eq_false low, Bool.false_and, Bool.and_false]
        exact high.symm
    simp [Part.ofPrefix, Part.toPrefix, back]

theorem Part.Canonical.toPrefix {p : Part} (canonical : p.Canonical) : p.toPrefix.Canonical := by
  have fits := canonical.fits
  have clear := canonical.clear
  obtain ⟨net, v6, bits⟩ := p
  cases v6
  case true =>
    have kept : net &&& Prefix.mask 128 bits = net :=
      and_mask_eq_self_iff.2 fun k low => clear k (.inl low)
    exact ⟨fits, by simp [Part.toPrefix, Prefix.masked, kept]⟩
  case false =>
    have kept : net.truncate 32 &&& Prefix.mask 32 bits = net.truncate 32 := by
      rw [and_mask_eq_self_iff]
      intro k low
      have off : net.getLsbD k = false := clear k (.inl low)
      rw [BitVec.getLsbD_setWidth, off, Bool.and_false]
    refine ⟨fits, ?_⟩
    simpa [Part.toPrefix, Prefix.masked] using kept

/-! ## Splitting a part -/

variable {hole part : Part}

/-- `current` has the `b` leading bits of the hole, and no other. -/
def Toward (w : Nat) (hole : BitVec 128) (b : Nat) (current : BitVec 128) : Prop :=
  ∀ k, current.getLsbD k = (decide (w - b ≤ k ∧ k < w) && hole.getLsbD k)

theorem Toward.word {hole current : BitVec 128} (toward : Toward w hole b current) (fits : b ≤ w) :
    PpvpnCore.word w current b = PpvpnCore.word w hole b := by
  apply word_congr
  intro i below
  rw [toward, decide_eq_true (by omega), Bool.true_and]

theorem getLsbD_bit {i : Nat} (inside : i < 128) (k : Nat) :
    (1#128 <<< i).getLsbD k = decide (k = i) := by
  rw [BitVec.getLsbD_shiftLeft, BitVec.getLsbD_one, Bool.eq_iff_iff]
  simp only [Bool.and_eq_true, Bool.not_eq_true', decide_eq_true_eq, decide_eq_false_iff_not]
  omega

/-- One bit more of the hole. -/
theorem Toward.next {hole current : BitVec 128} (toward : Toward w hole b current) (more : b < w)
    (wide : w ≤ 128) :
    Toward w hole (b + 1) (current ||| (hole &&& 1#128 <<< (w - b - 1))) := by
  intro k
  rw [BitVec.getLsbD_or, BitVec.getLsbD_and, getLsbD_bit (by omega), toward]
  cases hole.getLsbD k
  · simp
  · simp only [Bool.and_true, Bool.true_and]
    rw [Bool.eq_iff_iff]
    simp only [Bool.or_eq_true, decide_eq_true_eq]
    omega

/-- The other bit. -/
theorem Toward.turn {hole current : BitVec 128} (toward : Toward w hole b current) (more : b < w)
    (wide : w ≤ 128) (k : Nat) :
    (current ||| (1#128 <<< (w - b - 1) ^^^ (hole &&& 1#128 <<< (w - b - 1)))).getLsbD k =
      if k = w - 1 - b then !hole.getLsbD k
      else decide (w - b ≤ k ∧ k < w) && hole.getLsbD k := by
  rw [BitVec.getLsbD_or, BitVec.getLsbD_xor, BitVec.getLsbD_and, getLsbD_bit (by omega), toward]
  by_cases here : k = w - b - 1
  · have off : ¬ (w - b ≤ k ∧ k < w) := by omega
    rw [if_pos (by omega), decide_eq_true here, decide_eq_false off]
    simp
  · rw [if_neg (by omega), decide_eq_false here]
    simp

/-- The bits of the hole from the `b`th on. -/
def rest (w : Nat) (hole : BitVec 128) (b n : Nat) : List Bool :=
  (List.range' b n).map fun i => hole.getLsbD (w - 1 - i)

theorem word_append_rest (hole : BitVec 128) :
    word w hole b ++ rest w hole b n = word w hole (b + n) := by
  have grow : List.range' 0 b ++ List.range' (0 + b) n = List.range' 0 (b + n) :=
    List.range'_append_1
  rw [Nat.zero_add] at grow
  rw [word, rest, List.range_eq_range', ← List.map_append, grow, ← List.range_eq_range', word]

/-- The halves toward a hole are what hangs off the way to its word. -/
theorem halvesToward_words {current : BitVec 128} (toward : Toward part.width hole.net b current)
    (fits : b + n ≤ part.width) :
    (halvesToward part hole.net b n current).map Part.word =
      halves (word part.width hole.net b) (rest part.width hole.net b n) ∧
    ∀ q ∈ halvesToward part hole.net b n current, q.v6 = part.v6 ∧ q.Canonical := by
  induction n generalizing b current with
  | zero => exact ⟨rfl, by simp [halvesToward]⟩
  | succ n ih =>
    have wide := part.width_le
    have turned := toward.turn (by omega) wide
    obtain ⟨later, formed⟩ := ih (toward.next (by omega) wide) (by omega)
    constructor
    · have first : Part.word ⟨current ||| (1#128 <<< (part.width - b - 1) ^^^
            (hole.net &&& 1#128 <<< (part.width - b - 1))), part.v6, b + 1⟩ =
          word part.width hole.net b ++ [!hole.net.getLsbD (part.width - 1 - b)] := by
        rw [Part.word, word_succ]
        congr 1
        · apply word_congr
          intro i below
          change BitVec.getLsbD _ (part.width - 1 - i) = hole.net.getLsbD (part.width - 1 - i)
          rw [turned, if_neg (by omega), decide_eq_true (by omega), Bool.true_and]
        · change [BitVec.getLsbD _ (part.width - 1 - b)] = [!hole.net.getLsbD (part.width - 1 - b)]
          rw [turned, if_pos rfl]
      rw [halvesToward, List.map_cons, first, later, word_succ]
      rfl
    · intro q mem
      rcases List.mem_cons.1 mem with rfl | mem
      · refine ⟨rfl, (by change b + 1 ≤ part.width; omega), ?_⟩
        intro k outside
        change k < part.width - (b + 1) ∨ part.width ≤ k at outside
        have off : ¬ (part.width - b ≤ k ∧ k < part.width) := by omega
        change BitVec.getLsbD _ k = false
        rw [turned, if_neg (by omega), decide_eq_false off, Bool.false_and]
      · exact formed q mem

theorem Part.Canonical.kept (canonical : part.Canonical) :
    part.net &&& part.mask part.bits = part.net := by
  apply BitVec.eq_of_getLsbD_eq
  intro k _
  rw [BitVec.getLsbD_and, part.getLsbD_mask canonical.fits]
  by_cases inside : part.width - part.bits ≤ k ∧ k < part.width
  · rw [decide_eq_true inside, Bool.and_true]
  · rw [canonical.clear k (by omega), Bool.false_and]

theorem Part.word_of_family (family : part.v6 = hole.v6) :
    hole.word = PpvpnCore.word part.width hole.net hole.bits := by
  rw [Part.word, Part.width, Part.width, family]

/-- A part is split around the holes whose word it begins. -/
theorem split_iff (whole : part.Canonical) (family : part.v6 = hole.v6) :
    ¬ (part.v6 ≠ hole.v6 ∨ hole.bits < part.bits ∨
      hole.net &&& part.mask part.bits ≠ part.net) ↔ part.word <+: hole.word := by
  rw [Part.word_of_family family, Part.word]
  constructor
  · intro split
    simp only [not_or, not_not, Nat.not_lt] at split
    obtain ⟨-, longer, same⟩ := split
    exact (and_eq_and_iff whole.fits longer (part.getLsbD_mask whole.fits)).1
      (whole.kept.trans same.symm)
  · intro inside
    have longer := (word_below_iff.1 inside).1
    have same := (and_eq_and_iff whole.fits longer (part.getLsbD_mask whole.fits)).2 inside
    simp only [not_or, not_not, Nat.not_lt]
    exact ⟨family, longer, same.symm.trans whole.kept⟩

/-- A split of a part is a split of its word. -/
theorem splitAround_words (whole : part.Canonical) (canonical : hole.Canonical)
    (family : part.v6 = hole.v6) :
    (splitAround hole part).map Part.word = less hole.word part.word ∧
    ∀ q ∈ splitAround hole part, q.v6 = part.v6 ∧ q.Canonical := by
  by_cases inside : part.word <+: hole.word
  · rw [splitAround, if_neg ((split_iff whole family).2 inside)]
    rw [Part.word_of_family family] at inside ⊢
    obtain ⟨longer, agree⟩ := word_below_iff.1 inside
    have short : hole.bits ≤ part.width := by
      have fits := canonical.fits
      rwa [Part.width, ← family] at fits
    have toward : Toward part.width hole.net part.bits part.net := by
      intro k
      by_cases high : part.width - part.bits ≤ k ∧ k < part.width
      · have bit := agree (part.width - 1 - k) (by omega)
        rw [show part.width - 1 - (part.width - 1 - k) = k by omega] at bit
        rw [decide_eq_true high, Bool.true_and, bit]
      · rw [decide_eq_false high, Bool.false_and]
        exact whole.clear k (by omega)
    obtain ⟨words, formed⟩ := halvesToward_words (n := hole.bits - part.bits) toward (by omega)
    refine ⟨?_, formed⟩
    have same := toward.word whole.fits
    have grow := word_append_rest (w := part.width) (b := part.bits) (n := hole.bits - part.bits)
      hole.net
    rw [show part.bits + (hole.bits - part.bits) = hole.bits by omega] at grow
    rw [words, Part.word, same, ← grow, less_inside (List.prefix_append _ _)]
  · rw [splitAround, if_pos (not_not.1 fun split => inside ((split_iff whole family).1 split)),
      less_outside inside]
    refine ⟨rfl, ?_⟩
    intro q mem
    rw [List.mem_singleton.1 mem]
    exact ⟨rfl, whole⟩

theorem splitAround_other (family : part.v6 ≠ hole.v6) : splitAround hole part = [part] := by
  rw [splitAround, if_pos (.inl family)]

/-! ## Every hole in turn -/

/-- The holes of the part's family, as words. -/
def holeWords (v6 : Bool) (holes : List Part) : List (List Bool) :=
  (holes.filter (·.v6 = v6)).map Part.word

theorem foldl_splitAround {v6 : Bool} {holes parts : List Part}
    (canonical : ∀ hole ∈ holes, hole.Canonical)
    (formed : ∀ q ∈ parts, q.v6 = v6 ∧ q.Canonical) :
    (holes.foldl (fun parts hole => parts.flatMap (splitAround hole)) parts).map Part.word =
      (holeWords v6 holes).foldl (fun parts hole => parts.flatMap (less hole))
        (parts.map Part.word) ∧
    ∀ q ∈ holes.foldl (fun parts hole => parts.flatMap (splitAround hole)) parts,
      q.v6 = v6 ∧ q.Canonical := by
  induction holes generalizing parts with
  | nil => exact ⟨rfl, formed⟩
  | cons hole holes ih =>
    have others : ∀ other ∈ holes, other.Canonical := fun other mem =>
      canonical other (List.mem_cons_of_mem _ mem)
    by_cases family : hole.v6 = v6
    · have each : ∀ q ∈ parts, (splitAround hole q).map Part.word = less hole.word q.word ∧
          ∀ piece ∈ splitAround hole q, piece.v6 = v6 ∧ piece.Canonical := by
        intro q mem
        obtain ⟨same, whole⟩ := formed q mem
        have split := splitAround_words whole (canonical hole List.mem_cons_self)
          (same.trans family.symm)
        rw [same] at split
        exact split
      have pieces : ∀ q ∈ parts.flatMap (splitAround hole), q.v6 = v6 ∧ q.Canonical := by
        intro q mem
        obtain ⟨part, among, piece⟩ := List.mem_flatMap.1 mem
        exact (each part among).2 q piece
      obtain ⟨words, left⟩ := ih others pieces
      refine ⟨?_, left⟩
      have one : (parts.flatMap (splitAround hole)).map Part.word =
          (parts.map Part.word).flatMap (less hole.word) := by
        rw [List.map_flatMap, List.flatMap_map]
        exact List.flatMap_congr fun q mem => (each q mem).1
      simp only [holeWords, List.filter_cons, family, decide_true, if_true, List.map_cons,
        List.foldl_cons] at words ⊢
      rw [words, one]
    · have same : parts.flatMap (splitAround hole) = parts := by
        have each : ∀ q ∈ parts, splitAround hole q = [q] := by
          intro q mem
          exact splitAround_other fun same => family (same.symm.trans (formed q mem).1)
        rw [List.flatMap_congr each, List.flatMap_singleton']
      obtain ⟨words, left⟩ := ih others formed
      simp only [holeWords, List.filter_cons, family, decide_false, List.foldl_cons, same] at words ⊢
      exact ⟨words, left⟩

/-- What `without` maps back to prefixes. -/
def partsLeft (p : Prefix) (holes : List Prefix) : List Part :=
  holes.foldl (fun parts hole => parts.flatMap (splitAround (.ofPrefix hole))) [Part.ofPrefix p]

variable {p q hole : Prefix} {holes : List Prefix}

theorem partsLeft_words (whole : p.Canonical) (canonical : ∀ hole ∈ holes, hole.Canonical) :
    (partsLeft p holes).map Part.word =
      lessAll (Part.ofPrefix p).word (holeWords (Part.ofPrefix p).v6 (holes.map Part.ofPrefix)) ∧
    ∀ q ∈ partsLeft p holes, q.v6 = (Part.ofPrefix p).v6 ∧ q.Canonical := by
  have formed : ∀ hole ∈ holes.map Part.ofPrefix, hole.Canonical := by
    intro part mem
    obtain ⟨hole, among, rfl⟩ := List.mem_map.1 mem
    exact Part.ofPrefix_canonical (canonical hole among)
  have own : ∀ q ∈ [Part.ofPrefix p], q.v6 = (Part.ofPrefix p).v6 ∧ q.Canonical := by
    simpa using Part.ofPrefix_canonical whole
  have fold := foldl_splitAround formed own
  simp only [List.foldl_map] at fold
  exact fold

/-! ## Prefixes that share addresses -/

theorem Prefix.below_addr (canonical : p.Canonical) : (Part.ofPrefix p).v6 = p.addr.part.v6 ∧
    (Part.ofPrefix p).word <+: p.addr.part.word :=
  (Prefix.contains_iff canonical.1 p.addr).1 p.contains_addr

/-- Prefixes without an address in common have words apart. -/
theorem Prefix.Disjoint.apart (disjoint : p.Disjoint q) (left : p.Canonical) (right : q.Canonical)
    (family : (Part.ofPrefix p).v6 = (Part.ofPrefix q).v6) :
    Apart (Part.ofPrefix p).word (Part.ofPrefix q).word := by
  constructor
  · intro below
    obtain ⟨same, on⟩ := Prefix.below_addr right
    have shared := (Prefix.contains_iff left.1 q.addr).2 ⟨family.trans same, below.trans on⟩
    exact disjoint q.addr ⟨shared, q.contains_addr⟩
  · intro below
    obtain ⟨same, on⟩ := Prefix.below_addr left
    have shared := (Prefix.contains_iff right.1 p.addr).2 ⟨family.symm.trans same, below.trans on⟩
    exact disjoint p.addr ⟨p.contains_addr, shared⟩

theorem Prefix.disjoint_of_apart (left : p.Canonical) (right : q.Canonical)
    (apart : Apart (Part.ofPrefix p).word (Part.ofPrefix q).word) : p.Disjoint q := by
  intro ip shared
  have one := (Prefix.contains_iff left.1 ip).1 shared.1
  have other := (Prefix.contains_iff right.1 ip).1 shared.2
  exact not_apart_of_below one.2 other.2 apart

theorem Prefix.inside_of_below (left : hole.Canonical) (right : p.Canonical)
    (family : (Part.ofPrefix p).v6 = (Part.ofPrefix hole).v6)
    (below : (Part.ofPrefix p).word <+: (Part.ofPrefix hole).word) : hole.Inside p := by
  intro ip mem
  have on := (Prefix.contains_iff left.1 ip).1 mem
  exact (Prefix.contains_iff right.1 ip).2 ⟨family.trans on.1, below.trans on.2⟩

theorem Prefix.family_of_inside (inside : hole.Inside p) (left : hole.Canonical)
    (right : p.Canonical) : (Part.ofPrefix p).v6 = (Part.ofPrefix hole).v6 := by
  have own := (Prefix.contains_iff right.1 hole.addr).1 (inside hole.addr hole.contains_addr)
  exact own.1.trans (Prefix.below_addr left).1.symm

/-- A word of which all addresses are below another is below it: else some
piece of it is left around the other. -/
theorem Prefix.Inside.below (inside : hole.Inside p) (left : hole.Canonical)
    (right : p.Canonical) : (Part.ofPrefix p).word <+: (Part.ofPrefix hole).word := by
  have family := Prefix.family_of_inside inside left right
  have own := (Prefix.contains_iff right.1 hole.addr).1 (inside hole.addr hole.contains_addr)
  rcases List.prefix_or_prefix_of_prefix own.2 (Prefix.below_addr left).2 with below | below
  · exact below
  by_cases longer : (Part.ofPrefix hole).bits < (Part.ofPrefix p).bits
  · exfalso
    obtain ⟨words, formed⟩ := splitAround_words (Part.ofPrefix_canonical left)
      (Part.ofPrefix_canonical right) family.symm
    obtain ⟨r, split⟩ := below
    rw [← split, less_inside (List.prefix_append _ _)] at words
    have some : splitAround (Part.ofPrefix p) (Part.ofPrefix hole) ≠ [] := by
      intro none
      have count := congrArg List.length words
      have sizes := congrArg List.length split
      rw [none, List.length_map, length_halves] at count
      simp only [List.length_nil, List.length_append, Part.length_word] at count sizes
      omega
    obtain ⟨piece, mem⟩ := List.exists_mem_of_ne_nil _ some
    obtain ⟨same, whole⟩ := formed piece mem
    have on := Prefix.below_addr whole.toPrefix
    rw [whole.ofPrefix_toPrefix] at on
    have half : piece.word ∈ halves (Part.ofPrefix hole).word r := by
      rw [← words]
      exact List.mem_map_of_mem mem
    have off := (halves_exact (x := piece.toPrefix.addr.part.word) ?_).1 ⟨_, half, on.2⟩
    · have within := inside piece.toPrefix.addr
        ((Prefix.contains_iff left.1 _).2 ⟨same.symm.trans on.1, off.1⟩)
      exact off.2 (split ▸ ((Prefix.contains_iff right.1 _).1 within).2)
    · have fits := (Part.ofPrefix_canonical right).fits
      rw [split, Part.length_word, Part.length_word, IpAddr.part_bits]
      rwa [Part.width, family.trans (same.symm.trans on.1), ← Part.width] at fits
  · obtain ⟨r, split⟩ := below
    have sizes := congrArg List.length split
    simp only [List.length_append, Part.length_word] at sizes
    have none : r = [] := List.eq_nil_of_length_eq_zero (by omega)
    rw [← split, none, List.append_nil]

/-! ## What is left -/

/-- A hole inside the prefix, away from it, or of the other family. -/
def Prefix.Placed (p hole : Prefix) : Prop :=
  hole.Inside p ∨ hole.Disjoint p ∨ hole.addr.isIpv4 ≠ p.addr.isIpv4

theorem Part.v6_ofPrefix (p : Prefix) : (Part.ofPrefix p).v6 = !p.addr.isIpv4 := by
  obtain ⟨addr, bits⟩ := p
  cases addr <;> rfl

theorem Prefix.Placed.word (placed : p.Placed hole) (whole : p.Canonical)
    (canonical : hole.Canonical) (family : (Part.ofPrefix hole).v6 = (Part.ofPrefix p).v6) :
    (Part.ofPrefix p).word <+: (Part.ofPrefix hole).word ∨
      Apart (Part.ofPrefix p).word (Part.ofPrefix hole).word := by
  rcases placed with inside | away | other
  · exact .inl (inside.below canonical whole)
  · exact .inr (away.apart canonical whole family).symm
  · rw [Part.v6_ofPrefix, Part.v6_ofPrefix] at family
    exact absurd (by simpa using family) other

theorem mem_holeWords {v6 : Bool} {x : List Bool} :
    x ∈ holeWords v6 (holes.map Part.ofPrefix) ↔
      ∃ hole ∈ holes, (Part.ofPrefix hole).v6 = v6 ∧ (Part.ofPrefix hole).word = x := by
  simp [holeWords, and_assoc]

/-- What `without` leaves, as words. -/
theorem without_left (whole : p.Canonical) (canonical : ∀ hole ∈ holes, hole.Canonical)
    (apart : holes.Pairwise Prefix.Disjoint) (placed : ∀ hole ∈ holes, p.Placed hole) :
    Left (Part.ofPrefix p).word (holeWords (Part.ofPrefix p).v6 (holes.map Part.ofPrefix))
      ((partsLeft p holes).map Part.word) := by
  rw [(partsLeft_words whole canonical).1]
  apply lessAll_left
  · rw [holeWords, List.pairwise_map, List.pairwise_filter, List.pairwise_map]
    refine apart.imp_of_mem ?_
    intro one other first second disjoint left right
    simp only [decide_eq_true_eq] at left right
    exact disjoint.apart (canonical one first) (canonical other second) (left.trans right.symm)
  · intro x mem
    obtain ⟨hole, among, family, rfl⟩ := mem_holeWords.1 mem
    exact (placed hole among).word whole (canonical hole among) family

theorem mem_without : q ∈ without p holes ↔ ∃ part ∈ partsLeft p holes, part.toPrefix = q :=
  List.mem_map

theorem without_contains (whole : p.Canonical) (canonical : ∀ hole ∈ holes, hole.Canonical)
    (apart : holes.Pairwise Prefix.Disjoint) (placed : ∀ hole ∈ holes, p.Placed hole)
    (ip : IpAddr) :
    (∃ q ∈ without p holes, q.contains ip) ↔ p.contains ip ∧ ∀ hole ∈ holes, ¬ hole.contains ip := by
  have left := without_left whole canonical apart placed
  have formed := (partsLeft_words whole canonical).2
  have some_iff : (∃ q ∈ without p holes, q.contains ip) ↔ (Part.ofPrefix p).v6 = ip.part.v6 ∧
      ∃ x ∈ (partsLeft p holes).map Part.word, x <+: ip.part.word := by
    constructor
    · rintro ⟨q, mem, holds⟩
      obtain ⟨part, among, rfl⟩ := mem_without.1 mem
      obtain ⟨same, whole⟩ := formed part among
      have on := (Prefix.contains_iff whole.toPrefix.1 ip).1 holds
      rw [whole.ofPrefix_toPrefix] at on
      exact ⟨same.symm.trans on.1, part.word, List.mem_map_of_mem among, on.2⟩
    · rintro ⟨family, x, mem, on⟩
      obtain ⟨part, among, rfl⟩ := List.mem_map.1 mem
      obtain ⟨same, whole⟩ := formed part among
      refine ⟨part.toPrefix, mem_without.2 ⟨part, among, rfl⟩, ?_⟩
      rw [Prefix.contains_iff whole.toPrefix.1 ip, whole.ofPrefix_toPrefix]
      exact ⟨same.trans family, on⟩
  rw [some_iff, Prefix.contains_iff whole.1 ip, and_assoc]
  refine and_congr_right ?_
  intro family
  have long : ∀ x ∈ holeWords (Part.ofPrefix p).v6 (holes.map Part.ofPrefix),
      x.length ≤ ip.part.word.length := by
    intro x mem
    obtain ⟨hole, among, same, rfl⟩ := mem_holeWords.1 mem
    have fits := (Part.ofPrefix_canonical (canonical hole among)).fits
    rw [Part.length_word, Part.length_word, IpAddr.part_bits]
    rwa [Part.width, same.trans family, ← Part.width] at fits
  rw [left.exact ip.part.word long]
  refine and_congr_right ?_
  intro _
  constructor
  · intro off hole among holds
    have on := (Prefix.contains_iff (canonical hole among).1 ip).1 holds
    exact off _ (mem_holeWords.2 ⟨hole, among, on.1.trans family.symm, rfl⟩) on.2
  · intro off x mem on
    obtain ⟨hole, among, same, rfl⟩ := mem_holeWords.1 mem
    exact off hole among
      ((Prefix.contains_iff (canonical hole among).1 ip).2 ⟨same.trans family, on⟩)

theorem without_canonical (whole : p.Canonical) (canonical : ∀ hole ∈ holes, hole.Canonical)
    (mem : q ∈ without p holes) : q.Canonical := by
  obtain ⟨part, among, rfl⟩ := mem_without.1 mem
  exact ((partsLeft_words whole canonical).2 part among).2.toPrefix

theorem without_disjoint (whole : p.Canonical) (canonical : ∀ hole ∈ holes, hole.Canonical)
    (apart : holes.Pairwise Prefix.Disjoint) (placed : ∀ hole ∈ holes, p.Placed hole) :
    (without p holes).Pairwise Prefix.Disjoint := by
  have left := (without_left whole canonical apart placed).apart
  have formed := (partsLeft_words whole canonical).2
  change ((partsLeft p holes).map Part.toPrefix).Pairwise Prefix.Disjoint
  rw [List.pairwise_map] at left ⊢
  refine left.imp_of_mem ?_
  intro one other first second off
  have here := (formed one first).2
  have there := (formed other second).2
  apply Prefix.disjoint_of_apart here.toPrefix there.toPrefix
  rwa [here.ofPrefix_toPrefix, there.ofPrefix_toPrefix]

/-- One hole inside leaves a prefix for each bit between the two lengths. -/
theorem without_one (whole : p.Canonical) (canonical : hole.Canonical) (inside : hole.Inside p) :
    p.bits ≤ hole.bits ∧ (without p [hole]).length = hole.bits - p.bits := by
  have family := Prefix.family_of_inside inside canonical whole
  obtain ⟨r, split⟩ := inside.below canonical whole
  have words := (splitAround_words (Part.ofPrefix_canonical whole)
    (Part.ofPrefix_canonical canonical) family).1
  rw [← split, less_inside (List.prefix_append _ _)] at words
  have count := congrArg List.length words
  have sizes := congrArg List.length split
  rw [List.length_map, length_halves] at count
  simp only [List.length_append, Part.length_word, Part.ofPrefix_bits] at sizes
  have pieces : without p [hole] =
      (splitAround (.ofPrefix hole) (.ofPrefix p)).map Part.toPrefix := by
    simp [without]
  rw [pieces, List.length_map, count]
  omega

/-- The prefixes left around holes are exact: they hold what the prefix holds
and no hole does, they are canonical and have no address in common, and around
one hole inside there are as many as its length is more. -/
theorem without_exact (p : Prefix) (whole : p.Canonical) :
    (∀ holes : List Prefix, (∀ hole ∈ holes, hole.Canonical) → holes.Pairwise Prefix.Disjoint →
      (∀ hole ∈ holes, p.Placed hole) →
      (∀ ip, (∃ q ∈ without p holes, q.contains ip) ↔
        p.contains ip ∧ ∀ hole ∈ holes, ¬ hole.contains ip) ∧
      (∀ q ∈ without p holes, q.Canonical) ∧
      (without p holes).Pairwise Prefix.Disjoint) ∧
    ∀ hole : Prefix, hole.Canonical → hole.Inside p →
      p.bits ≤ hole.bits ∧ (without p [hole]).length = hole.bits - p.bits := by
  constructor
  · intro holes canonical apart placed
    exact ⟨without_contains whole canonical apart placed,
      fun q mem => without_canonical whole canonical mem,
      without_disjoint whole canonical apart placed⟩
  · intro hole canonical inside
    exact without_one whole canonical inside

/-- The first private network less the tunnel's own networks. -/
theorem without_exact_tun :
    let p := builtin "10.0.0.0/8"
    (∀ ip, (∃ q ∈ without p tunPrefixes, q.contains ip) ↔
      p.contains ip ∧ ∀ hole ∈ tunPrefixes, ¬ hole.contains ip) ∧
    (without p [builtin "10.60.159.88/30"]).length = 22 := by
  have whole : (builtin "10.0.0.0/8").Canonical := ⟨by decide, by decide⟩
  have four : (builtin "10.60.159.88/30").Canonical := ⟨by decide, by decide⟩
  have six : (builtin "fde2:ec40:9312:c7fd::/126").Canonical := ⟨by decide, by decide⟩
  have inside : (builtin "10.60.159.88/30").Inside (builtin "10.0.0.0/8") :=
    Prefix.inside_of_below four whole (by decide) (by decide)
  have fits := without_exact (builtin "10.0.0.0/8") whole
  constructor
  · refine (fits.1 tunPrefixes ?_ ?_ ?_).1
    · simpa [tunPrefixes] using ⟨four, six⟩
    · rw [tunPrefixes, List.map_cons, List.map_cons, List.map_nil, List.pairwise_pair]
      intro ip shared
      have one := (Prefix.contains_iff four.1 ip).1 shared.1
      have other := (Prefix.contains_iff six.1 ip).1 shared.2
      exact absurd (one.1.trans other.1.symm) (by decide)
    · intro hole mem
      simp only [tunPrefixes, List.map_cons, List.map_nil, List.mem_cons, List.not_mem_nil,
        or_false] at mem
      rcases mem with rfl | rfl
      · exact .inl inside
      · exact .inr (.inr (by decide))
  · exact (fits.2 _ four inside).2

end PpvpnCore
