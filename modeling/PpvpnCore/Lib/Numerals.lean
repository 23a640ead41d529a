import PpvpnCore.Lib.Text

/-!
# Numerals

Numbers as they are printed and read.

* `readNumeral_toDigits`: a number is read back, in any radix up to sixteen.
* `padded`, `readNumeral_padded`: also with zeros before it.
* `padded_lt_padded`: numbers of one width are ordered as their texts.
-/

namespace Lib

/-- The value of the digits of a text, all of which must be digits. -/
def readDigits (radix : Nat) (cs : List Char) : Option Nat :=
  cs.foldlM (fun n c => (digitIn radix c).map (n * radix + ·)) 0

/-- A text of at least one digit. -/
def readNumeral (radix : Nat) (cs : List Char) : Option Nat :=
  if cs = [] then none else readDigits radix cs

theorem hexDigit_digitChar : ∀ d < 16, hexDigit (Nat.digitChar d) = some d := by decide

theorem digitIn_digitChar {radix d : Nat} (sixteen : radix ≤ 16) (below : d < radix) :
    digitIn radix (Nat.digitChar d) = some d := by
  unfold digitIn
  rw [hexDigit_digitChar d (by omega)]
  simp [below]

theorem readDigits_append (radix : Nat) (front back : List Char) :
    readDigits radix (front ++ back) = (readDigits radix front).bind fun n =>
      back.foldlM (fun n c => (digitIn radix c).map (n * radix + ·)) n :=
  List.foldlM_append

theorem readDigits_concat (radix : Nat) (front : List Char) (last : Char) :
    readDigits radix (front ++ [last]) = (readDigits radix front).bind fun n =>
      (digitIn radix last).map (n * radix + ·) := by
  rw [readDigits_append]
  simp

/-- A number is read back as it was printed. -/
theorem readDigits_toDigits {radix : Nat} (two : 1 < radix) (sixteen : radix ≤ 16) (n : Nat) :
    readDigits radix (Nat.toDigits radix n) = some n := by
  induction n using Nat.strongRecOn with
  | ind n ih =>
    rw [Nat.toDigits_eq_if two]
    have below : n % radix < radix := Nat.mod_lt n (by omega)
    by_cases small : n < radix
    · rw [if_pos small, ← List.nil_append [_], readDigits_concat,
        digitIn_digitChar sixteen small]
      simp [readDigits]
    · rw [if_neg small, readDigits_concat, ih _ (Nat.div_lt_self (by omega) two),
        digitIn_digitChar sixteen below]
      have whole := Nat.div_add_mod' n radix
      simp [whole]

theorem readNumeral_toDigits {radix : Nat} (two : 1 < radix) (sixteen : radix ≤ 16) (n : Nat) :
    readNumeral radix (Nat.toDigits radix n) = some n := by
  unfold readNumeral
  rw [if_neg Nat.toDigits_ne_nil, readDigits_toDigits two sixteen]

/-! ## Numbers of a width -/

/-- With zeros before it up to a width. -/
def padded (width n : Nat) : List Char :=
  List.replicate (width - (Nat.toDigits 10 n).length) '0' ++ Nat.toDigits 10 n

theorem readDigits_zeros (k : Nat) (cs : List Char) :
    readDigits 10 (List.replicate k '0' ++ cs) = readDigits 10 cs := by
  have zeros : readDigits 10 (List.replicate k '0') = some 0 := by
    induction k with
    | zero => rfl
    | succ k ih =>
      rw [List.replicate_succ', readDigits_concat, ih]
      rfl
  rw [readDigits_append, zeros]
  rfl

theorem padded_ne_nil (width n : Nat) : padded width n ≠ [] := by
  unfold padded
  intro empty
  exact Nat.toDigits_ne_nil (List.append_eq_nil_iff.1 empty).2

theorem readNumeral_padded (width n : Nat) : readNumeral 10 (padded width n) = some n := by
  unfold readNumeral
  rw [if_neg (padded_ne_nil width n)]
  unfold padded
  rw [readDigits_zeros, readDigits_toDigits (by decide) (by decide)]

theorem isDigit_padded {width n : Nat} {c : Char} (mem : c ∈ padded width n) : c.isDigit = true := by
  unfold padded at mem
  rcases List.mem_append.1 mem with zero | digit
  · rw [List.eq_of_mem_replicate zero]
    rfl
  · exact Nat.isDigit_of_mem_toDigits (by decide) (by decide) digit

/-- What is no digit is not in a number. -/
theorem absent_padded {c : Char} (other : c.isDigit = false) (width n : Nat) : c ∉ padded width n := by
  intro mem
  rw [isDigit_padded mem] at other
  cases other

/-- Three numbers between separators. -/
theorem splitAll_padded {sep : Char} (other : sep.isDigit = false) (a b c i j k : Nat) :
    splitAll sep (padded a i ++ sep :: padded b j ++ sep :: padded c k) =
      [padded a i, padded b j, padded c k] := by
  rw [List.append_assoc, List.cons_append, splitAll_append, splitAll_append,
    splitAll_absent (absent_padded other a i), splitAll_absent (absent_padded other b j),
    splitAll_absent (absent_padded other c k)]
  rfl

/-- The digits of a number, as many as there are places. -/
def places : Nat → Nat → List Char
  | 0, _ => []
  | width + 1, n => places width (n / 10) ++ [Nat.digitChar (n % 10)]

@[simp]
theorem length_places (width n : Nat) : (places width n).length = width := by
  induction width generalizing n with
  | zero => rfl
  | succ width ih => simp [places, ih]

theorem places_zero (width : Nat) : places width 0 = List.replicate width '0' := by
  induction width with
  | zero => rfl
  | succ width ih =>
    rw [places, List.replicate_succ', ih]
    rfl

theorem padded_eq_places {width n : Nat} (some : 0 < width) (small : n < 10 ^ width) :
    padded width n = places width n := by
  induction width generalizing n with
  | zero => omega
  | succ width ih =>
    unfold padded
    rw [places, Nat.toDigits_eq_if (by decide)]
    by_cases digit : n < 10
    · rw [if_pos digit, Nat.div_eq_of_lt digit, Nat.mod_eq_of_lt digit, places_zero]
      rfl
    · have pos : 0 < width := by
        by_contra zero
        have zero : width = 0 := by omega
        rw [zero] at small
        omega
      have less : n / 10 < 10 ^ width := by
        rw [Nat.pow_succ] at small
        omega
      rw [if_neg digit, ← ih pos less]
      unfold padded
      rw [List.length_append, List.length_singleton, Nat.add_sub_add_right, List.append_assoc]

theorem length_padded {width n : Nat} (some : 0 < width) (small : n < 10 ^ width) :
    (padded width n).length = width := by
  rw [padded_eq_places some small, length_places]

/-- Texts are compared by their first parts, and then by the rest. -/
theorem append_lt_append {as bs cs ds : List Char} (length : as.length = bs.length) :
    as ++ cs < bs ++ ds ↔ as < bs ∨ as = bs ∧ cs < ds := by
  induction as generalizing bs with
  | nil =>
    rw [List.length_nil, eq_comm, List.length_eq_zero_iff] at length
    simp [length]
  | cons a as ih =>
    cases bs with
    | nil => cases length
    | cons b bs =>
      have rest := ih (Nat.succ.inj length)
      simp only [List.cons_append, List.cons_lt_cons_iff, rest, List.cons.injEq]
      grind

theorem digitChar_lt : ∀ m < 10, ∀ n < 10, Nat.digitChar m < Nat.digitChar n ↔ m < n := by decide

theorem places_inj {width m n : Nat} (small : m < 10 ^ width) (small' : n < 10 ^ width) :
    places width m = places width n ↔ m = n := by
  refine ⟨fun eq => ?_, fun eq => by rw [eq]⟩
  induction width generalizing m n with
  | zero =>
    rw [Nat.pow_zero] at small small'
    omega
  | succ width ih =>
    rw [Nat.pow_succ] at small small'
    obtain ⟨high, low⟩ := List.append_inj' eq rfl
    have high := ih (by omega) (by omega) high
    have low : m % 10 = n % 10 := by
      by_contra ne
      have digits := List.singleton_inj.1 low
      rcases Nat.lt_or_gt_of_ne ne with less | more
      · have lt := (digitChar_lt (m % 10) (by omega) (n % 10) (by omega)).2 less
        exact absurd digits (ne_of_lt lt)
      · have lt := (digitChar_lt (n % 10) (by omega) (m % 10) (by omega)).2 more
        exact absurd digits.symm (ne_of_lt lt)
    omega

theorem places_lt_places {width m n : Nat} (small : m < 10 ^ width) (small' : n < 10 ^ width) :
    places width m < places width n ↔ m < n := by
  induction width generalizing m n with
  | zero =>
    rw [Nat.pow_zero] at small small'
    rw [places, places]
    simp
    omega
  | succ width ih =>
    rw [Nat.pow_succ] at small small'
    rw [places, places, append_lt_append (by simp), ih (by omega) (by omega),
      places_inj (by omega) (by omega)]
    have digits := digitChar_lt (m % 10) (by omega) (n % 10) (by omega)
    have last : [Nat.digitChar (m % 10)] < [Nat.digitChar (n % 10)] ↔ m % 10 < n % 10 := by
      rw [← digits, List.cons_lt_cons_iff]
      simp
    rw [last]
    omega

/-- Texts of numbers of one width are ordered as the numbers. -/
theorem padded_lt_padded {width m n : Nat} (some : 0 < width) (small : m < 10 ^ width)
    (small' : n < 10 ^ width) : padded width m < padded width n ↔ m < n := by
  rw [padded_eq_places some small, padded_eq_places some small', places_lt_places small small']

end Lib
