import Mathlib

/-!
# Text operations of the standard library

The string functions a program calls on its inputs, over the characters of a
`String`. Where the original works on UTF-8 bytes and only accepts ASCII, a
character that is not ASCII is refused here too, so counting characters or
bytes makes no difference to what is accepted.

* `splitOnce`, `splitAll`, `stripSuffix`: splitting and stripping;
  `splitAll_suffix`: what it means that the parts of one text end another's.
* `trim`: both ends, by Unicode's `White_Space`.
* `Parser.readNumber`, `Parser.readIpv4Addr`, `Parser.readIpv6Addr`: the
  address parsers of the standard library, reading a prefix of the input.
-/

namespace Lib

/-! ## Characters -/

/-- Unicode's `White_Space` property. -/
def isWhiteSpace (c : Char) : Bool :=
  let n := c.toNat
  (9 ≤ n && n ≤ 13) || n == 32 || n == 0x85 || n == 0xa0 || n == 0x1680 ||
    (0x2000 ≤ n && n ≤ 0x200a) || n == 0x2028 || n == 0x2029 || n == 0x202f ||
    n == 0x205f || n == 0x3000

/-- Unicode's `Cc`. -/
def isControl (c : Char) : Bool :=
  c.toNat < 32 || (127 ≤ c.toNat && c.toNat < 160)

/-- An ASCII hexadecimal digit's value. -/
def hexDigit (c : Char) : Option Nat :=
  let n := c.toNat
  if 48 ≤ n ∧ n ≤ 57 then some (n - 48)
  else if 97 ≤ n ∧ n ≤ 102 then some (n - 87)
  else if 65 ≤ n ∧ n ≤ 70 then some (n - 55)
  else none

/-- A digit's value in radix 10 or 16. -/
def digitIn (radix : Nat) (c : Char) : Option Nat :=
  (hexDigit c).filter (· < radix)

def isHexDigit (c : Char) : Bool := (hexDigit c).isSome

/-! ## Splitting -/

/-- At the first `sep`: what stands before it and after it. -/
def splitOnce (sep : Char) : List Char → Option (List Char × List Char)
  | [] => none
  | c :: cs =>
    if c = sep then some ([], cs)
    else (splitOnce sep cs).map fun (before, rest) => (c :: before, rest)

theorem splitOnce_none {sep : Char} {cs : List Char} (absent : sep ∉ cs) :
    splitOnce sep cs = none := by
  induction cs with
  | nil => rfl
  | cons c cs ih =>
    rw [List.mem_cons, not_or] at absent
    rw [splitOnce, if_neg (Ne.symm absent.1), ih absent.2]
    rfl

theorem splitOnce_eq_some {sep : Char} {cs before rest : List Char} :
    splitOnce sep cs = some (before, rest) ↔ sep ∉ before ∧ cs = before ++ sep :: rest := by
  induction cs generalizing before with
  | nil => simp [splitOnce]
  | cons c cs ih =>
    rw [splitOnce]
    by_cases eq : c = sep
    · rw [if_pos eq, Option.some.injEq, Prod.mk.injEq]
      constructor
      · rintro ⟨rfl, rfl⟩
        exact ⟨List.not_mem_nil, by rw [eq]; rfl⟩
      · rintro ⟨absent, parts⟩
        cases before with
        | nil =>
          cases parts
          exact ⟨rfl, rfl⟩
        | cons d before =>
          cases parts
          exact absurd (by simp [eq]) absent
    · rw [if_neg eq]
      constructor
      · intro found
        obtain ⟨⟨before', rest'⟩, inner, eq'⟩ := Option.map_eq_some_iff.mp found
        cases eq'
        obtain ⟨absent, parts⟩ := ih.mp inner
        refine ⟨?_, by rw [parts]; rfl⟩
        rw [List.mem_cons, not_or]
        exact ⟨Ne.symm eq, absent⟩
      · rintro ⟨absent, parts⟩
        cases before with
        | nil =>
          cases parts
          exact absurd rfl eq
        | cons d before =>
          cases parts
          rw [List.mem_cons, not_or] at absent
          rw [ih.mpr ⟨absent.2, rfl⟩]
          rfl

/-- Every part between two separators; the empty text has one empty part. -/
def splitAll (sep : Char) : List Char → List (List Char)
  | [] => [[]]
  | c :: cs =>
    if c = sep then [] :: splitAll sep cs
    else match splitAll sep cs with
      | [] => [[c]]
      | part :: parts => (c :: part) :: parts

theorem splitAll_cons (sep c : Char) (cs : List Char) :
    splitAll sep (c :: cs) = if c = sep then [] :: splitAll sep cs
      else match splitAll sep cs with
        | [] => [[c]]
        | part :: parts => (c :: part) :: parts := rfl

theorem splitAll_ne_nil (sep : Char) (cs : List Char) : splitAll sep cs ≠ [] := by
  cases cs with
  | nil => simp [splitAll]
  | cons c cs =>
    rw [splitAll_cons]
    split
    · simp
    · split <;> simp

theorem splitAll_absent {sep : Char} {cs : List Char} (absent : sep ∉ cs) :
    splitAll sep cs = [cs] := by
  induction cs with
  | nil => rfl
  | cons c cs ih =>
    rw [List.mem_cons, not_or] at absent
    rw [splitAll_cons, if_neg (Ne.symm absent.1), ih absent.2]

/-- The parts are of the text, without the separator. -/
theorem mem_of_splitAll {sep c : Char} {cs part : List Char} (mem : part ∈ splitAll sep cs)
    (inside : c ∈ part) : c ∈ cs ∧ c ≠ sep := by
  induction cs generalizing part with
  | nil =>
    change part ∈ [[]] at mem
    rw [List.mem_singleton] at mem
    rw [mem] at inside
    cases inside
  | cons d cs ih =>
    rw [splitAll_cons] at mem
    split at mem
    next =>
      rcases List.mem_cons.1 mem with rfl | mem
      · cases inside
      · have rest := ih mem inside
        exact ⟨List.mem_cons_of_mem _ rest.1, rest.2⟩
    next other =>
      split at mem
      next none => exact absurd none (splitAll_ne_nil sep cs)
      next first parts split =>
        rcases List.mem_cons.1 mem with rfl | mem
        · rcases List.mem_cons.1 inside with rfl | inside
          · exact ⟨List.mem_cons_self, other⟩
          · have rest := ih (split ▸ List.mem_cons_self) inside
            exact ⟨List.mem_cons_of_mem _ rest.1, rest.2⟩
        · have rest := ih (split ▸ List.mem_cons_of_mem _ mem) inside
          exact ⟨List.mem_cons_of_mem _ rest.1, rest.2⟩

theorem splitAll_append (sep : Char) (xs ys : List Char) :
    splitAll sep (xs ++ sep :: ys) = splitAll sep xs ++ splitAll sep ys := by
  induction xs with
  | nil => simp [splitAll]
  | cons x xs ih =>
    rw [List.cons_append, splitAll_cons, ih, splitAll_cons]
    by_cases eq : x = sep
    · rw [if_pos eq, if_pos eq, List.cons_append]
    · rw [if_neg eq, if_neg eq]
      cases parts : splitAll sep xs with
      | nil => exact absurd parts (splitAll_ne_nil sep xs)
      | cons part rest => rfl

/-- The parts joined again are the text. -/
theorem intercalate_splitAll (sep : Char) (cs : List Char) :
    [sep].intercalate (splitAll sep cs) = cs := by
  induction cs with
  | nil => rfl
  | cons c cs ih =>
    rw [splitAll_cons]
    cases parts : splitAll sep cs with
    | nil => exact absurd parts (splitAll_ne_nil sep cs)
    | cons part rest =>
      rw [parts] at ih
      by_cases eq : c = sep
      · rw [if_pos eq, List.intercalate_cons_cons, ih, eq]
        rfl
      · rw [if_neg eq]
        show [sep].intercalate ((c :: part) :: rest) = c :: cs
        rw [← ih]
        cases rest <;> rfl

theorem splitAll_injective {sep : Char} {xs ys : List Char}
    (eq : splitAll sep xs = splitAll sep ys) : xs = ys := by
  rw [← intercalate_splitAll sep xs, eq, intercalate_splitAll]

/-- The parts of `ys` end those of `xs` when `xs` is `ys` or ends in it after a
separator. -/
theorem splitAll_suffix {sep : Char} {xs ys : List Char} :
    splitAll sep ys <:+ splitAll sep xs ↔ xs = ys ∨ sep :: ys <:+ xs := by
  constructor
  · intro suffix
    induction xs with
    | nil =>
      left
      rcases List.suffix_cons_iff.mp suffix with eq | suffix
      · exact (splitAll_injective eq).symm
      · exact absurd (List.suffix_nil.mp suffix) (splitAll_ne_nil sep ys)
    | cons x xs ih =>
      have whole : splitAll sep (x :: xs) = splitAll sep ys → x :: xs = ys := splitAll_injective
      rw [splitAll_cons] at suffix whole
      by_cases eq : x = sep
      · rw [if_pos eq] at suffix whole
        rcases List.suffix_cons_iff.mp suffix with same | suffix
        · exact .inl (whole same.symm)
        · rcases ih suffix with rfl | later
          · exact .inr (eq ▸ List.suffix_refl _)
          · exact .inr (later.trans (List.suffix_cons x xs))
      · rw [if_neg eq] at suffix whole
        cases parts : splitAll sep xs with
        | nil => exact absurd parts (splitAll_ne_nil sep xs)
        | cons part rest =>
          rw [parts] at suffix whole ih
          rcases List.suffix_cons_iff.mp suffix with same | suffix
          · exact .inl (whole same.symm)
          · rcases ih (suffix.trans (List.suffix_cons part rest)) with rfl | later
            · have short := suffix.length_le
              rw [parts, List.length_cons] at short
              omega
            · exact .inr (later.trans (List.suffix_cons x xs))
  · rintro (rfl | ⟨zs, rfl⟩)
    · exact List.suffix_refl _
    · rw [splitAll_append]
      exact List.suffix_append _ _

/-- Without one trailing `c`, when there is one. -/
def stripSuffix (c : Char) (cs : List Char) : List Char :=
  if cs.getLast? = some c then cs.dropLast else cs

def trim (cs : List Char) : List Char :=
  ((cs.dropWhile isWhiteSpace).reverse.dropWhile isWhiteSpace).reverse

/-- A text that begins and ends with something else has nothing to trim. -/
theorem trim_eq_self {first last : Char} {cs : List Char} (begins : cs.head? = some first)
    (ends : cs.getLast? = some last) (plain : isWhiteSpace first = false)
    (plain' : isWhiteSpace last = false) : trim cs = cs := by
  have kept : ∀ {c : Char} {ds : List Char}, ds.head? = some c → isWhiteSpace c = false →
      ds.dropWhile isWhiteSpace = ds := by
    intro c ds head plain
    cases ds with
    | nil => cases head
    | cons d ds =>
      cases head
      rw [List.dropWhile_cons, plain]
      rfl
  unfold trim
  rw [kept begins plain, kept (by rw [List.head?_reverse, ends]) plain', List.reverse_reverse]

def toAsciiLowercase (cs : List Char) : List Char := cs.map Char.toLower

/-- The value of decimal digits. -/
def decimal (cs : List Char) : Nat :=
  cs.foldl (fun n c => n * 10 + (c.toNat - 48)) 0

/-- `cs` as a decimal number below `bound`: digits only, at least one. -/
def parseDecimal (bound : Nat) (cs : List Char) : Option Nat :=
  if cs ≠ [] ∧ cs.all Char.isDigit then
    if decimal cs < bound then some (decimal cs) else none
  else none

/-! ## Address parsers -/

namespace Parser

/-- The digits of `cs` in `radix`, as many as there are, and the rest. -/
def takeDigits (radix : Nat) : List Char → List Nat × List Char
  | [] => ([], [])
  | c :: cs =>
    match digitIn radix c with
    | none => ([], c :: cs)
    | some d => let (ds, rest) := takeDigits radix cs; (d :: ds, rest)

/-- A number of at most `maxDigits` digits and at most `limit`; a leading zero
of a longer one only when allowed. -/
def readNumber (radix maxDigits limit : Nat) (zeroPrefix : Bool) (cs : List Char) :
    Option (Nat × List Char) :=
  let (ds, rest) := takeDigits radix cs
  let n := ds.foldl (fun n d => n * radix + d) 0
  if ds = [] ∨ maxDigits < ds.length then none
  else if !zeroPrefix ∧ ds.head? = some 0 ∧ 1 < ds.length then none
  else if limit < n then none
  else some (n, rest)

def readChar (c : Char) : List Char → Option (List Char)
  | [] => none
  | d :: cs => if d = c then some cs else none

/-- `read` after `sep`, which the first of a sequence goes without. -/
def readSeparator {α : Type} (sep : Char) (index : Nat)
    (read : List Char → Option (α × List Char)) (cs : List Char) :
    Option (α × List Char) :=
  if index = 0 then read cs else (readChar sep cs).bind read

def readIpv4Addr (cs : List Char) : Option (BitVec 32 × List Char) := do
  let octet := readNumber 10 3 255 false
  let (a, cs) ← readSeparator '.' 0 octet cs
  let (b, cs) ← readSeparator '.' 1 octet cs
  let (c, cs) ← readSeparator '.' 2 octet cs
  let (d, cs) ← readSeparator '.' 3 octet cs
  return (BitVec.ofNat 32 (((a * 256 + b) * 256 + c) * 256 + d), cs)

/-- At most `limit` groups from group `i` on; the last two may be an IPv4
address, which ends them. Returns the groups, whether such an address was
read, and the rest. -/
def readGroups : (limit i : Nat) → List Char → List Nat × Bool × List Char
  | 0, _, cs => ([], false, cs)
  | limit + 1, i, cs =>
    let v4 := if 0 < limit then readSeparator ':' i readIpv4Addr cs else none
    match v4 with
    | some (addr, cs) => ([addr.toNat / 65536, addr.toNat % 65536], true, cs)
    | none =>
      match readSeparator ':' i (readNumber 16 4 65535 true) cs with
      | none => ([], false, cs)
      | some (group, cs) =>
        let (groups, v4, cs) := readGroups limit (i + 1) cs
        (group :: groups, v4, cs)

/-- Eight groups as one address. -/
def ofGroups (groups : List Nat) : BitVec 128 :=
  BitVec.ofNat 128 (groups.foldl (fun n g => n * 65536 + g) 0)

def readIpv6Addr (cs : List Char) : Option (BitVec 128 × List Char) := do
  let (head, v4, cs) := readGroups 8 0 cs
  if head.length = 8 then return (ofGroups head, cs)
  -- No IPv4 part before `::`.
  if v4 then none
  let cs ← readChar ':' cs
  let cs ← readChar ':' cs
  let (tail, _, cs) := readGroups (7 - head.length) 0 cs
  return (ofGroups (head ++ List.replicate (8 - head.length - tail.length) 0 ++ tail), cs)

/-- The whole of `cs`. -/
def parseWith {α : Type} (read : List Char → Option (α × List Char)) (cs : List Char) : Option α :=
  (read cs).bind fun (a, rest) => if rest = [] then some a else none

end Parser

end Lib
