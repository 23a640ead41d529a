import Mathlib.Algebra.Ring.Nat
import Mathlib.Data.List.Infix

/-!
# Readers of binary formats

A reader takes the beginning of some bytes, or fails; a language says which
byte strings stand for which values. A reader is exact for a language when it
succeeds precisely on what begins with a string of it.

* `Scan`, `Exact`: readers, and the language a reader is exact for.
* `Exact.bind`, `Exact.loop`: one after the other, and a number of times.
* `Leb128`, `bigEndian`: numbers.
-/

namespace Lib

/-! ## Readers and languages -/

def Scan (ε β α : Type) : Type := List β → Except ε (α × List β)

namespace Scan

variable {ε β α γ : Type}

def done (a : α) : Scan ε β α := fun data => .ok (a, data)

def fail (e : ε) : Scan ε β α := fun _ => .error e

def andThen (p : Scan ε β α) (f : α → Scan ε β γ) : Scan ε β γ := fun data =>
  match p data with
  | .error e => .error e
  | .ok (a, rest) => f a rest

instance scanMonad : Monad (Scan ε β) where
  pure := done
  bind := andThen

end Scan

/-- The byte strings that stand for a value. -/
abbrev Lang (β α : Type) : Type := List β → α → Prop

/-- The reader succeeds where the data begins with a string of the language. -/
def Exact {ε β α : Type} (p : Scan ε β α) (g : Lang β α) : Prop :=
  ∀ data a rest, p data = .ok (a, rest) ↔ ∃ used, data = used ++ rest ∧ g used a

section Exact

variable {ε β α γ : Type} {p : Scan ε β α} {g : Lang β α}

theorem Exact.of_iff {g' : Lang β α} (exact : Exact p g) (same : ∀ used a, g used a ↔ g' used a) :
    Exact p g' := by
  intro data a rest
  rw [exact]
  simp only [same]

theorem Exact.done (a : α) : Exact (pure a : Scan ε β α) fun used b => used = [] ∧ b = a := by
  intro data b rest
  constructor
  · intro eq
    cases eq
    exact ⟨[], rfl, rfl, rfl⟩
  · rintro ⟨_, rfl, rfl, rfl⟩
    rfl

theorem Exact.fail (e : ε) : Exact (Scan.fail e : Scan ε β α) fun _ _ => False := by
  intro data b rest
  constructor
  · intro eq
    cases eq
  · rintro ⟨_, _, impossible⟩
    exact impossible.elim

theorem bind_ok {f : α → Scan ε β γ} {data rest : List β} {c : γ} :
    (p >>= f) data = .ok (c, rest) ↔ ∃ a mid, p data = .ok (a, mid) ∧ f a mid = .ok (c, rest) := by
  show Scan.andThen p f data = _ ↔ _
  rw [Scan.andThen]
  cases p data with
  | error e =>
    constructor
    · intro eq
      cases eq
    · rintro ⟨_, _, eq, _⟩
      cases eq
  | ok both =>
    constructor
    · intro eq
      exact ⟨both.1, both.2, rfl, eq⟩
    · rintro ⟨_, _, eq, later⟩
      cases eq
      exact later

/-- One string after the other. -/
def Lang.next (g : Lang β α) (h : α → Lang β γ) : Lang β γ := fun used c =>
  ∃ front back a, used = front ++ back ∧ g front a ∧ h a back c

/-- The second reader has to be exact only after a string of the first language. -/
theorem Exact.bind_of {f : α → Scan ε β γ} {h : α → Lang β γ} (first : Exact p g)
    (second : ∀ used a, g used a → Exact (f a) (h a)) : Exact (p >>= f) (g.next h) := by
  intro data c rest
  rw [bind_ok]
  constructor
  · rintro ⟨a, mid, one, other⟩
    obtain ⟨front, rfl, here⟩ := (first data a mid).1 one
    obtain ⟨back, rfl, there⟩ := (second front a here mid c rest).1 other
    exact ⟨front ++ back, (List.append_assoc _ _ _).symm, front, back, a, rfl, here, there⟩
  · rintro ⟨_, rfl, front, back, a, rfl, here, there⟩
    refine ⟨a, back ++ rest, (first _ _ _).2 ⟨front, List.append_assoc _ _ _, here⟩, ?_⟩
    exact (second front a here _ c rest).2 ⟨back, rfl, there⟩

theorem Exact.bind {f : α → Scan ε β γ} {h : α → Lang β γ} (first : Exact p g)
    (second : ∀ a, Exact (f a) (h a)) : Exact (p >>= f) (g.next h) :=
  first.bind_of fun _ a _ => second a

theorem Exact.map (exact : Exact p g) (f : α → γ) :
    Exact (p >>= fun a => pure (f a)) fun used c => ∃ a, g used a ∧ c = f a := by
  refine (exact.bind fun a => Exact.done (f a)).of_iff ?_
  intro used c
  constructor
  · rintro ⟨front, back, a, rfl, here, rfl, rfl⟩
    exact ⟨a, by rwa [List.append_nil], rfl⟩
  · rintro ⟨a, here, rfl⟩
    exact ⟨used, [], a, (List.append_nil used).symm, here, rfl, rfl⟩

theorem Exact.guard {bad : Prop} [Decidable bad] (e : ε) (a : α) :
    Exact (if bad then Scan.fail e else pure a : Scan ε β α) fun used b =>
      used = [] ∧ ¬ bad ∧ b = a := by
  by_cases fails : bad
  · rw [if_pos fails]
    exact (Exact.fail e).of_iff (by simp [fails])
  · rw [if_neg fails]
    exact (Exact.done a).of_iff (by simp [fails])

/-- A step a number of times, with what is kept between. -/
def loop {σ : Type} (p : σ → Scan ε β σ) : Nat → σ → Scan ε β σ
  | 0, s => pure s
  | n + 1, s => p s >>= loop p n

/-- Strings of one language, one for each value. -/
def Row (each : Lang β α) : Lang β (List α)
  | used, [] => used = []
  | used, a :: values => ∃ front back, used = front ++ back ∧ each front a ∧ Row each back values

theorem Exact.loop {σ : Type} {p : σ → Scan ε β σ} {each : Lang β α} {step : σ → α → σ}
    (exact : ∀ s, Exact (p s) fun used t => ∃ a, each used a ∧ t = step s a) (n : Nat) (s : σ) :
    Exact (loop p n s) fun used t =>
      ∃ values, Row each used values ∧ values.length = n ∧ t = values.foldl step s := by
  induction n generalizing s with
  | zero =>
    refine (Exact.done s).of_iff ?_
    intro used t
    constructor
    · rintro ⟨rfl, rfl⟩
      exact ⟨[], rfl, rfl, rfl⟩
    · rintro ⟨values, row, none, rfl⟩
      obtain rfl := List.length_eq_zero_iff.1 none
      exact ⟨row, rfl⟩
  | succ n ih =>
    refine ((exact s).bind ih).of_iff ?_
    intro used t
    constructor
    · rintro ⟨front, back, _, rfl, ⟨a, here, rfl⟩, values, row, length, rfl⟩
      exact ⟨a :: values, ⟨front, back, rfl, here, row⟩, by rw [List.length_cons, length], rfl⟩
    · rintro ⟨values, row, length, rfl⟩
      cases values with
      | nil => cases length
      | cons a values =>
        obtain ⟨front, back, rfl, here, row⟩ := row
        exact ⟨front, back, _, rfl, ⟨a, here, rfl⟩, values, row, Nat.succ.inj length, rfl⟩

theorem Row.mono {each each' : Lang β α} (some : ∀ used a, each used a → each' used a)
    {used : List β} {values : List α} (row : Row each used values) : Row each' used values := by
  induction values generalizing used with
  | nil => exact row
  | cons a values ih =>
    obtain ⟨front, back, rfl, here, row⟩ := row
    exact ⟨front, back, rfl, some front a here, ih row⟩

theorem Row.each {each : Lang β α} {used : List β} {values : List α} (row : Row each used values) :
    ∀ a ∈ values, ∃ piece, each piece a := by
  induction values generalizing used with
  | nil => intro a mem; cases mem
  | cons a values ih =>
    obtain ⟨front, back, rfl, here, row⟩ := row
    intro b mem
    rcases List.mem_cons.1 mem with rfl | mem
    · exact ⟨front, here⟩
    · exact ih row b mem

/-- Strings of at least so many bytes each. -/
theorem Row.length {each : Lang β α} {least : Nat} (long : ∀ used a, each used a → least ≤ used.length)
    {used : List β} {values : List α} (row : Row each used values) :
    values.length * least ≤ used.length := by
  induction values generalizing used with
  | nil => simp
  | cons a values ih =>
    obtain ⟨front, back, rfl, here, row⟩ := row
    have head := long front a here
    have tail := ih row
    rw [List.length_cons, List.length_append, Nat.succ_mul]
    omega

end Exact

/-! ## Numbers -/

/-- Seven bits a byte, the lowest first; the last byte has no high bit. -/
inductive Leb128 : List UInt8 → Nat → Prop where
  | last (b : UInt8) (low : b.toNat < 128) : Leb128 [b] b.toNat
  | more (b : UInt8) (high : 128 ≤ b.toNat) {bytes : List UInt8} {n : Nat} (rest : Leb128 bytes n) :
    Leb128 (b :: bytes) (b.toNat - 128 + 128 * n)

/-- What begins with a number begins with one number only. -/
theorem Leb128.unique {used used' rest rest' : List UInt8} {v w : Nat} (one : Leb128 used v)
    (other : Leb128 used' w) (same : used ++ rest = used' ++ rest') : v = w := by
  induction one generalizing used' w with
  | last b low =>
    cases other with
    | last =>
      cases same
      rfl
    | more c high =>
      cases same
      omega
  | more b high tail ih =>
    cases other with
    | last c low =>
      cases same
      omega
    | more c high' tail' =>
      obtain ⟨rfl, tails⟩ := List.cons.inj same
      rw [ih tail' tails]

/-- A number in so many bytes, the highest first. -/
def bigEndian : (width : Nat) → Nat → List UInt8
  | 0, _ => []
  | width + 1, n => bigEndian width (n / 256) ++ [UInt8.ofNat (n % 256)]

def ofBigEndian (bytes : List UInt8) : Nat := bytes.foldl (fun n b => n * 256 + b.toNat) 0

theorem length_bigEndian (width n : Nat) : (bigEndian width n).length = width := by
  induction width generalizing n with
  | zero => rfl
  | succ width ih => rw [bigEndian, List.length_append, ih]; rfl

theorem ofBigEndian_concat (bytes : List UInt8) (b : UInt8) :
    ofBigEndian (bytes ++ [b]) = ofBigEndian bytes * 256 + b.toNat := by
  rw [ofBigEndian, List.foldl_append]
  rfl

theorem ofBigEndian_lt (bytes : List UInt8) : ofBigEndian bytes < 256 ^ bytes.length := by
  induction bytes using List.reverseRecOn with
  | nil => decide
  | append_singleton bytes b ih =>
    have byte : b.toNat < 256 := b.toNat_lt
    rw [ofBigEndian_concat, List.length_append, List.length_singleton, Nat.pow_succ]
    omega

theorem ofBigEndian_bigEndian {width n : Nat} (fits : n < 256 ^ width) :
    ofBigEndian (bigEndian width n) = n := by
  induction width generalizing n with
  | zero =>
    rw [Nat.pow_zero] at fits
    rw [bigEndian, ofBigEndian, List.foldl_nil]
    omega
  | succ width ih =>
    rw [Nat.pow_succ] at fits
    rw [bigEndian, ofBigEndian_concat, ih (by omega), UInt8.toNat_ofNat']
    omega

theorem bigEndian_ofBigEndian (bytes : List UInt8) :
    bigEndian bytes.length (ofBigEndian bytes) = bytes := by
  induction bytes using List.reverseRecOn with
  | nil => rfl
  | append_singleton bytes b ih =>
    have byte : b.toNat < 256 := b.toNat_lt
    have high : (ofBigEndian bytes * 256 + b.toNat) / 256 = ofBigEndian bytes := by omega
    have low : (ofBigEndian bytes * 256 + b.toNat) % 256 = b.toNat := by omega
    rw [List.length_append, List.length_singleton, bigEndian, ofBigEndian_concat, high, low, ih,
      UInt8.ofNat_toNat]

end Lib
