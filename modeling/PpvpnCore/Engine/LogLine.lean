import PpvpnCore.Lib.Calendar
import PpvpnCore.Lib.Numerals

/-!
Log lines (`core/src/logfmt.rs`): a time, a level, a message and fields.

Times are nanoseconds since the epoch; an earlier one is printed as the epoch.
-/

namespace PpvpnCore.LogLine

open Lib

/-- `SystemTime`, in nanoseconds since the epoch. -/
abbrev SystemTime := Int

/-! ## Times -/

/-- Days since 1970-01-01 to year, month and day. The sum `days + 719468` fits in
64 bits, and only non-negative numbers are divided. -/
def civilFromDays (days : Int) : Int × Nat × Nat :=
  let z := days + 719468
  let era := z / 146097
  let doe := z % 146097
  let yoe := (doe - doe / 1460 + doe / 36524 - doe / 146096) / 365
  let doy := doe - (365 * yoe + yoe / 4 - yoe / 100)
  let mp := (5 * doy + 2) / 153
  let day := (doy - (153 * mp + 2) / 5 + 1).toNat
  let month := (if mp < 10 then mp + 3 else mp - 9).toNat
  (yoe + era * 400 + (if month ≤ 2 then 1 else 0), month, day)

/-- `YYYY-MM-DD` of a year from 0 on. -/
def dateText (date : Int × Nat × Nat) : List Char :=
  padded 4 date.1.toNat ++ '-' :: padded 2 date.2.1 ++ '-' :: padded 2 date.2.2

/-- `.` and the nanoseconds, trailing zeros dropped; nothing when it is zero. -/
def fraction (nanos : Nat) : List Char :=
  if nanos = 0 then [] else '.' :: (padded 9 nanos).rdropWhile (· == '0')

def rfc3339Nano (at_ : SystemTime) : List Char :=
  let since := at_.toNat
  let secs := since / 1000000000
  let days := secs / 86400
  let rem := secs % 86400
  dateText (civilFromDays days) ++ 'T' :: padded 2 (rem / 3600) ++ ':' :: padded 2 (rem / 60 % 60) ++
    ':' :: padded 2 (rem % 60) ++ fraction (since % 1000000000) ++ ['Z']

/-- The date of a day. -/
theorem civilFromDays_eq (days : Int) : civilFromDays days =
    ((Date.fromDays days).year, (Date.fromDays days).month, (Date.fromDays days).day) := by
  have early : ∀ m : Int, (if m.toNat ≤ 2 then (1 : Int) else 0) = if m ≤ 2 then 1 else 0 := by
    intro m
    by_cases small : m ≤ 2
    · rw [if_pos small, if_pos (by omega)]
    · rw [if_neg small, if_neg (by omega)]
  unfold civilFromDays Date.fromDays Date.eraYear
  dsimp only
  rw [early]

theorem civilFromDays_of (n : Nat) :
    civilFromDays n = ((Date.of n).year, (Date.of n).month, (Date.of n).day) := by
  rw [civilFromDays_eq, Date.fromDays_of]

/-- The day of a time, and the seconds of the day. -/
def dayOf (at_ : SystemTime) : Nat := at_.toNat / 1000000000 / 86400

def secondOf (at_ : SystemTime) : Nat := at_.toNat / 1000000000 % 86400

theorem rfc3339Nano_eq (at_ : SystemTime) : rfc3339Nano at_ =
    dateText (civilFromDays (dayOf at_)) ++ 'T' ::
      ((padded 2 (secondOf at_ / 3600) ++ ':' :: padded 2 (secondOf at_ / 60 % 60) ++
          ':' :: padded 2 (secondOf at_ % 60)) ++
        (fraction (at_.toNat % 1000000000) ++ ['Z'])) := by
  unfold rfc3339Nano dayOf secondOf
  simp

/-! ## A time is what was printed -/

theorem padded_injective {width m n : Nat} (eq : padded width m = padded width n) : m = n := by
  have read := readNumeral_padded width m
  rw [eq, readNumeral_padded] at read
  exact (Option.some.inj read).symm

theorem absent_dateText {c : Char} (notDash : c ≠ '-') (plain : c.isDigit = false)
    (date : Int × Nat × Nat) : c ∉ dateText date := by
  unfold dateText
  simp [absent_padded plain, notDash]

/-- A printed date is of one day. -/
theorem dateText_injective {m n : Nat}
    (eq : dateText (civilFromDays m) = dateText (civilFromDays n)) : m = n := by
  have start : ∀ k : Nat, 1970 ≤ (Date.of k).year := fun k => Date.year_of_le (Nat.zero_le k)
  have parts := congrArg (splitAll '-') eq
  rw [civilFromDays_of, civilFromDays_of, dateText, dateText, splitAll_padded (by decide),
    splitAll_padded (by decide)] at parts
  simp only [List.cons.injEq, and_true] at parts
  obtain ⟨year, month, day⟩ := parts
  have year := padded_injective year
  have same : Date.of m = Date.of n := by
    have years : (Date.of m).year = (Date.of n).year := by
      have from_ := start m
      have from_' := start n
      omega
    exact Date.ext years (padded_injective month) (padded_injective day)
  have days := Date.days_of m
  rw [same, Date.days_of] at days
  exact Int.ofNat_inj.1 days.symm

theorem rdropWhile_zeros (cs : List Char) :
    ∃ k, cs = cs.rdropWhile (· == '0') ++ List.replicate k '0' := by
  induction cs using List.reverseRecOn with
  | nil => exact ⟨0, rfl⟩
  | append_singleton cs c ih =>
    obtain ⟨k, whole⟩ := ih
    by_cases zero : c = '0'
    · refine ⟨k + 1, ?_⟩
      rw [List.rdropWhile_concat_pos _ _ _ (by simp [zero]), List.replicate_succ', ← List.append_assoc,
        ← whole, zero]
    · refine ⟨0, ?_⟩
      rw [List.rdropWhile_concat_neg _ _ _ (by simp [zero])]
      simp

theorem fraction_injective {m n : Nat} (small : m < 1000000000) (small' : n < 1000000000)
    (eq : fraction m = fraction n) : m = n := by
  unfold fraction at eq
  split at eq
  next zero =>
    split at eq
    next zero' => rw [zero, zero']
    next => cases eq
  next =>
    split at eq
    next => cases eq
    next =>
      obtain ⟨k, whole⟩ := rdropWhile_zeros (padded 9 m)
      obtain ⟨k', whole'⟩ := rdropWhile_zeros (padded 9 n)
      rw [(List.cons.inj eq).2] at whole
      have length := length_padded (show 0 < 9 by decide) small
      have length' := length_padded (show 0 < 9 by decide) small'
      rw [whole, List.length_append, List.length_replicate] at length
      rw [whole', List.length_append, List.length_replicate] at length'
      have zeros : k = k' := by omega
      rw [zeros, ← whole'] at whole
      exact padded_injective whole

/-- Times from the epoch on are printed differently. -/
theorem rfc3339Nano_injective {s t : SystemTime} (eq : rfc3339Nano s = rfc3339Nano t) :
    s.toNat = t.toNat := by
  have noT : ∀ n : Nat, 'T' ∉ dateText (civilFromDays n) := fun n =>
    absent_dateText (by decide) (by decide) _
  have seconds : ∀ u : SystemTime, secondOf u < 86400 := fun u => Nat.mod_lt _ (by decide)
  rw [rfc3339Nano_eq, rfc3339Nano_eq] at eq
  have split := congrArg (splitOnce 'T') eq
  rw [splitOnce_eq_some.2 ⟨noT _, rfl⟩, splitOnce_eq_some.2 ⟨noT _, rfl⟩] at split
  obtain ⟨date, rest⟩ := Prod.mk.inj (Option.some.inj split)
  have day := dateText_injective date
  have length : ∀ u : SystemTime, (padded 2 (secondOf u / 3600) ++ ':' ::
      padded 2 (secondOf u / 60 % 60) ++ ':' :: padded 2 (secondOf u % 60)).length = 8 := by
    intro u
    have bound := seconds u
    simp only [List.length_append, List.length_cons]
    rw [length_padded (by decide) (by omega), length_padded (by decide) (by omega),
      length_padded (by decide) (by omega)]
  obtain ⟨clock, zone⟩ := List.append_inj rest ((length s).trans (length t).symm)
  have parts := congrArg (splitAll ':') clock
  rw [splitAll_padded (by decide), splitAll_padded (by decide)] at parts
  simp only [List.cons.injEq, and_true] at parts
  obtain ⟨hour, minute, second⟩ := parts
  have hour := padded_injective hour
  have minute := padded_injective minute
  have second := padded_injective second
  have nanos := fraction_injective (Nat.mod_lt _ (by decide)) (Nat.mod_lt _ (by decide))
    (List.append_cancel_right zone)
  unfold dayOf secondOf at *
  omega

/-! ## Lines -/

/-- As Go's corelog: bare unless empty or holding a space, tab, newline, `"` or
`=`. -/
def needsQuotes (s : List Char) : Bool :=
  s.isEmpty || s.any fun c => c == ' ' || c == '\t' || c == '\n' || c == '"' || c == '='

/-- Two hexadecimal digits. -/
def hex2 (n : Nat) : List Char :=
  List.replicate (2 - (Nat.toDigits 16 n).length) '0' ++ Nat.toDigits 16 n

def escape (c : Char) : List Char :=
  if c = '"' then ['\\', '"']
  else if c = '\\' then ['\\', '\\']
  else if c = '\n' then ['\\', 'n']
  else if c = '\r' then ['\\', 'r']
  else if c = '\t' then ['\\', 't']
  else if c.toNat < 0x20 ∨ c.toNat = 0x7f then '\\' :: 'x' :: hex2 c.toNat
  else [c]

def quote (s : List Char) : List Char :=
  if needsQuotes s then '"' :: s.flatMap escape ++ ['"'] else s

inductive Level where
  | trace | debug | info | warn | error
  deriving DecidableEq

def Level.name : Level → List Char
  | .trace => "trace".toList
  | .debug => "debug".toList
  | .info => "info".toList
  | .warn => "warn".toList
  | .error => "error".toList

/-- A field, as it is displayed. -/
@[ext]
structure Field where
  key : List Char
  value : List Char
  deriving DecidableEq

def Field.text (field : Field) : List Char := ' ' :: field.key ++ '=' :: quote field.value

/-- What follows the time. -/
def body (level : List Char) (msg : List Char) (fields : List Field) : List Char :=
  " level=".toList ++ level ++ " msg=".toList ++ quote msg ++ fields.flatMap Field.text

/-- One line, without its newline. -/
def line (at_ : SystemTime) (level msg : List Char) (fields : List Field) : List Char :=
  rfc3339Nano at_ ++ body level msg fields

example : String.ofList (line 951782400000000000 "warn".toList ['x'] [⟨['k'], "a=b\"c\n".toList⟩]) =
    "2000-02-29T00:00:00Z level=warn msg=x k=\"a=b\\\"c\\n\"" := by decide +kernel

end PpvpnCore.LogLine
