import Mathlib.Algebra.Order.Ring.Int
import Mathlib.Order.Basic
import Mathlib.Tactic.NormNum

/-!
# The proleptic Gregorian calendar

Dates from one to the next: `Date.tomorrow` goes by the lengths of the months,
and `Date.of n` is `n` days after the first of January 1970.

* `days_tomorrow`: the number of a day (`Date.days`) grows by one a day.
* `Date.fromDays`: a date from its number, by 400-year eras and years that begin
  in March; `fromDays_days` and `fromDays_of` say that it is right.
* `earlier_of`: later days have later dates, compared by year, month and day.
-/

namespace Lib

@[ext]
structure Date where
  year : Int
  month : Nat
  day : Nat
  deriving DecidableEq, Repr

namespace Date

/-! ## The calendar -/

def Leap (year : Int) : Prop := year % 4 = 0 ∧ (year % 100 ≠ 0 ∨ year % 400 = 0)

instance Leap.decidable (year : Int) : Decidable (Leap year) :=
  inferInstanceAs (Decidable (year % 4 = 0 ∧ (year % 100 ≠ 0 ∨ year % 400 = 0)))

def monthLength (year : Int) (month : Nat) : Nat :=
  if month = 2 then if Leap year then 29 else 28
  else if month = 4 ∨ month = 6 ∨ month = 9 ∨ month = 11 then 30
  else 31

structure Valid (d : Date) : Prop where
  month : 1 ≤ d.month ∧ d.month ≤ 12
  day : 1 ≤ d.day ∧ d.day ≤ monthLength d.year d.month

def tomorrow (d : Date) : Date :=
  if d.day < monthLength d.year d.month then { d with day := d.day + 1 }
  else if d.month < 12 then { d with month := d.month + 1, day := 1 }
  else { year := d.year + 1, month := 1, day := 1 }

def epoch : Date := { year := 1970, month := 1, day := 1 }

/-- The date `n` days after the epoch. -/
def of : Nat → Date
  | 0 => epoch
  | n + 1 => (of n).tomorrow

variable {d e : Date}

theorem one_le_monthLength (year : Int) (month : Nat) : 1 ≤ monthLength year month := by
  unfold monthLength
  split
  · split <;> omega
  · split <;> omega

theorem Valid.tomorrow (valid : d.Valid) : d.tomorrow.Valid := by
  obtain ⟨month, day⟩ := valid
  unfold Date.tomorrow
  split
  next more => exact ⟨month, by dsimp only; omega, more⟩
  next =>
    split
    next more => exact ⟨by dsimp only; omega, le_rfl, one_le_monthLength _ _⟩
    next => exact ⟨⟨le_rfl, Nat.le_of_ble_eq_true rfl⟩, le_rfl, one_le_monthLength _ _⟩

theorem valid_of (n : Nat) : (of n).Valid := by
  induction n with
  | zero => exact ⟨by decide, by decide⟩
  | succ n ih => exact ih.tomorrow

/-! ## The number of a day -/

/-- The year that began in March. -/
def marchYear (d : Date) : Int := if d.month ≤ 2 then d.year - 1 else d.year

/-- The day's place in it. -/
def marchDay (d : Date) : Nat := (153 * ((d.month + 9) % 12) + 2) / 5 + d.day - 1

/-- The days before a year that begins in March. -/
def yearStart (year : Int) : Int := 365 * year + year / 4 - year / 100 + year / 400

/-- The number of a day, zero at the epoch. -/
def days (d : Date) : Int := yearStart d.marchYear + d.marchDay - 719468

theorem yearStart_succ (year : Int) :
    yearStart (year + 1) = yearStart year + if Leap (year + 1) then 366 else 365 := by
  unfold yearStart
  by_cases four : (year + 1) % 4 = 0
  · by_cases hundred : (year + 1) % 100 = 0
    · by_cases all : (year + 1) % 400 = 0
      · rw [if_pos ⟨four, .inr all⟩]
        omega
      · rw [if_neg fun leap => leap.2.elim (· hundred) all]
        omega
    · rw [if_pos ⟨four, .inl hundred⟩]
      omega
  · rw [if_neg fun leap => four leap.1]
    omega

/-- Where a month begins in the March year. -/
theorem marchDay_next (month : Nat) (one : 1 ≤ month) (small : month < 12) (notFeb : month ≠ 2)
    (year : Int) : (153 * ((month + 1 + 9) % 12) + 2) / 5 =
      (153 * ((month + 9) % 12) + 2) / 5 + monthLength year month := by
  unfold monthLength
  rw [if_neg notFeb]
  have cases : month = 1 ∨ month = 3 ∨ month = 4 ∨ month = 5 ∨ month = 6 ∨ month = 7 ∨ month = 8 ∨
      month = 9 ∨ month = 10 ∨ month = 11 := by omega
  rcases cases with rfl | rfl | rfl | rfl | rfl | rfl | rfl | rfl | rfl | rfl <;> rfl

theorem days_tomorrow (valid : d.Valid) : d.tomorrow.days = d.days + 1 := by
  obtain ⟨⟨one, twelve⟩, first, last⟩ := valid
  unfold tomorrow
  split
  next more =>
    unfold days marchYear marchDay
    dsimp only
    omega
  next full =>
    have end_ : d.day = monthLength d.year d.month := by omega
    split
    next more =>
      by_cases feb : d.month = 2
      · -- the March year ends
        have leap := yearStart_succ (d.year - 1)
        rw [sub_add_cancel] at leap
        unfold days marchYear marchDay
        dsimp only
        rw [end_, feb, if_neg (by decide), if_pos le_rfl, leap]
        unfold monthLength
        by_cases leap : Leap d.year
        · simp only [if_pos leap]
          norm_num
          omega
        · simp only [if_neg leap]
          norm_num
          omega
      · have next := marchDay_next d.month one more feb d.year
        have same : d.month + 1 ≤ 2 ↔ d.month ≤ 2 := by omega
        unfold days marchYear marchDay
        dsimp only
        simp only [next, same]
        omega
    next december =>
      have twelve : d.month = 12 := by omega
      unfold days marchYear marchDay
      dsimp only
      rw [end_, twelve]
      unfold monthLength
      norm_num
      omega

theorem days_of (n : Nat) : (of n).days = n := by
  induction n with
  | zero => decide
  | succ n ih =>
    rw [of, days_tomorrow (valid_of n), ih]
    rfl

/-! ## A date from its number -/

/-- The day's place in an era of 400 years, from the year of the era and the day
of that year. -/
def eraDay (yoe doy : Int) : Int := 365 * yoe + yoe / 4 - yoe / 100 + doy

/-- The year of the era, from the day of the era. -/
def eraYear (doe : Int) : Int := (doe - doe / 1460 + doe / 36524 - doe / 146096) / 365

/-- By the day's number. -/
def fromDays (n : Int) : Date :=
  let z := n + 719468
  let doe := z % 146097
  let yoe := eraYear doe
  let doy := doe - (365 * yoe + yoe / 4 - yoe / 100)
  let mp := (5 * doy + 2) / 153
  let month := if mp < 10 then mp + 3 else mp - 9
  { year := yoe + z / 146097 * 400 + if month ≤ 2 then 1 else 0
    month := month.toNat
    day := (doy - (153 * mp + 2) / 5 + 1).toNat }

section Era

variable {yoe doy : Int}

theorem eraDay_bound (low : 0 ≤ yoe) (high : yoe < 400) (first : 0 ≤ doy) (last : doy ≤ 365)
    (leap : doy = 365 → Leap (yoe + 1)) : 0 ≤ eraDay yoe doy ∧ eraDay yoe doy < 146097 := by
  unfold eraDay
  by_cases end_ : doy = 365
  · obtain ⟨four, -⟩ := leap end_
    omega
  · omega

/-- The divisions by 36524 and 146096 add the centuries. -/
theorem century_part {n c a : Int} (place : n = 36524 * c + a) (low : 0 ≤ c) (high : c ≤ 3)
    (first : 0 ≤ a) (last : a ≤ 36524) (end_ : a = 36524 → c = 3) :
    n / 36524 - n / 146096 = c := by
  by_cases over_ : a = 36524
  · have three := end_ over_
    omega
  · have hundred : n / 36524 = c := by omega
    have era : n / 146096 = 0 := by omega
    omega

/-- The division by 1460 takes off the leap days, and one more late in a leap
year. -/
theorem four_part {n m k : Int} (place : n = 1460 * m + k) (low : 0 ≤ k) (high : k < 2920) :
    n / 1460 = m + if 1460 ≤ k then 1 else 0 := by
  split
  · omega
  · omega

/-- By centuries, four years and years of the era. -/
theorem eraYear_eraDay (low : 0 ≤ yoe) (high : yoe < 400) (first : 0 ≤ doy) (last : doy ≤ 365)
    (leap : doy = 365 → Leap (yoe + 1)) : eraYear (eraDay yoe doy) = yoe := by
  obtain ⟨c, q, r, whole, ⟨c0, c3⟩, ⟨q0, q24⟩, r0, r3⟩ : ∃ c q r : Int,
      yoe = 100 * c + 4 * q + r ∧ (0 ≤ c ∧ c ≤ 3) ∧ (0 ≤ q ∧ q ≤ 24) ∧ 0 ≤ r ∧ r ≤ 3 :=
    ⟨yoe / 100, yoe % 100 / 4, yoe % 100 % 4, by omega, by omega, by omega, by omega⟩
  have four : yoe / 4 = 25 * c + q := by omega
  have hundred : yoe / 100 = c := by omega
  have doe : eraDay yoe doy = 36524 * c + 1461 * q + 365 * r + doy := by
    unfold eraDay
    rw [four, hundred, whole]
    omega
  -- the last day of a leap year is in the last of four years
  have late : doy = 365 → r = 3 ∧ (q = 24 → c = 3) := by
    intro end_
    obtain ⟨multiple, century⟩ := leap end_
    constructor
    · omega
    · intro last
      rcases century with hundred | all
      · omega
      · omega
  have year : 1461 * q + 365 * r + doy ≤ 36524 ∧ (1461 * q + 365 * r + doy = 36524 → c = 3) := by
    by_cases end_ : doy = 365
    · obtain ⟨three, century⟩ := late end_
      constructor
      · omega
      · intro full
        exact century (by omega)
    · constructor
      · omega
      · omega
  have added := century_part (n := eraDay yoe doy) (c := c) (a := 1461 * q + 365 * r + doy)
    (by omega) c0 c3 (by omega) year.1 year.2
  have taken := four_part (n := eraDay yoe doy) (m := 25 * c + q)
    (k := 24 * c + q + 365 * r + doy) (by omega) (by omega) (by omega)
  unfold eraYear
  generalize eraDay yoe doy / 1460 = x at taken ⊢
  generalize eraDay yoe doy / 36524 = y at added ⊢
  generalize eraDay yoe doy / 146096 = z at added ⊢
  rw [doe, taken, whole]
  clear four hundred leap doe year
  split
  next more => omega
  next less =>
    have notLast : doy ≠ 365 := by
      intro end_
      have three := (late end_).1
      omega
    clear late
    omega

end Era

/-- The months, with where they begin in the March year and how long they are. -/
theorem month_cases (valid : d.Valid) : ∃ start : Nat, d.marchDay + 1 = start + d.day ∧
    ((d.month = 1 ∧ start = 306 ∧ d.day ≤ 31) ∨
      (d.month = 2 ∧ start = 337 ∧ d.day ≤ 29 ∧ (d.day = 29 → Leap d.year)) ∨
      (d.month = 3 ∧ start = 0 ∧ d.day ≤ 31) ∨ (d.month = 4 ∧ start = 31 ∧ d.day ≤ 30) ∨
      (d.month = 5 ∧ start = 61 ∧ d.day ≤ 31) ∨ (d.month = 6 ∧ start = 92 ∧ d.day ≤ 30) ∨
      (d.month = 7 ∧ start = 122 ∧ d.day ≤ 31) ∨ (d.month = 8 ∧ start = 153 ∧ d.day ≤ 31) ∨
      (d.month = 9 ∧ start = 184 ∧ d.day ≤ 30) ∨ (d.month = 10 ∧ start = 214 ∧ d.day ≤ 31) ∨
      (d.month = 11 ∧ start = 245 ∧ d.day ≤ 30) ∨ (d.month = 12 ∧ start = 275 ∧ d.day ≤ 31)) := by
  obtain ⟨⟨one, twelve⟩, first, last⟩ := valid
  refine ⟨(153 * ((d.month + 9) % 12) + 2) / 5, ?_, ?_⟩
  · unfold marchDay
    omega
  · unfold monthLength at last
    have cases : d.month = 1 ∨ d.month = 2 ∨ d.month = 3 ∨ d.month = 4 ∨ d.month = 5 ∨ d.month = 6 ∨
        d.month = 7 ∨ d.month = 8 ∨ d.month = 9 ∨ d.month = 10 ∨ d.month = 11 ∨ d.month = 12 := by
      omega
    rcases cases with m | m | m | m | m | m | m | m | m | m | m | m <;> rw [m] at last ⊢
    case inr.inl =>
      by_cases leap : Leap d.year
      · simp [leap] at last ⊢
        exact last
      · simp [leap] at last ⊢
        omega
    all_goals simpa using last

theorem marchDay_bound (valid : d.Valid) :
    d.marchDay ≤ 365 ∧ (d.marchDay = 365 → Leap (d.marchYear + 1)) := by
  obtain ⟨start, place, months⟩ := month_cases valid
  constructor
  · omega
  · intro end_
    have feb : d.month = 2 ∧ d.day = 29 := by omega
    have leap : d.day = 29 → Leap d.year := by
      rcases months with m | m | m | m | m | m | m | m | m | m | m | m
      case inr.inl => exact m.2.2.2
      all_goals omega
    unfold marchYear
    rw [if_pos (by omega), sub_add_cancel]
    exact leap feb.2

/-- The month counted from March, from the day of the March year. -/
theorem marchMonth (valid : d.Valid) : (5 * (d.marchDay : Int) + 2) / 153 = ((d.month + 9) % 12 : Nat) := by
  have first := valid.day.1
  obtain ⟨start, place, months⟩ := month_cases valid
  rcases months with m | m | m | m | m | m | m | m | m | m | m | m <;> rw [m.1] <;> omega

theorem yearStart_era (year : Int) : yearStart year =
    146097 * (year / 400) + (365 * (year % 400) + year % 400 / 4 - year % 400 / 100) := by
  unfold yearStart
  omega

/-- A date is found by its number. -/
theorem fromDays_days (valid : d.Valid) : fromDays d.days = d := by
  obtain ⟨last, leap⟩ := marchDay_bound valid
  have month := marchMonth valid
  have low : 0 ≤ d.marchYear % 400 := by omega
  have high : d.marchYear % 400 < 400 := by omega
  have leap' : (d.marchDay : Int) = 365 → Leap (d.marchYear % 400 + 1) := by
    intro end_
    obtain ⟨four, century⟩ := leap (by omega)
    exact ⟨by omega, by omega⟩
  obtain ⟨bound, bound'⟩ := eraDay_bound low high (Int.natCast_nonneg _) (by omega) leap'
  have z : d.days + 719468 = eraDay (d.marchYear % 400) d.marchDay + 146097 * (d.marchYear / 400) := by
    unfold days eraDay
    rw [yearStart_era]
    omega
  have era : (d.days + 719468) / 146097 = d.marchYear / 400 := by
    rw [z, Int.add_mul_ediv_left _ _ (by decide), Int.ediv_eq_zero_of_lt bound bound', zero_add]
  have doe : (d.days + 719468) % 146097 = eraDay (d.marchYear % 400) d.marchDay := by
    rw [z, Int.add_mul_emod_self_left, Int.emod_eq_of_lt bound bound']
  have doy : eraDay (d.marchYear % 400) d.marchDay - (365 * (d.marchYear % 400) +
      d.marchYear % 400 / 4 - d.marchYear % 400 / 100) = d.marchDay := by
    unfold eraDay
    omega
  unfold fromDays
  dsimp only
  rw [doe, era, eraYear_eraDay low high (Int.natCast_nonneg _) (by omega) leap', doy, month]
  obtain ⟨⟨one, twelve⟩, first, -⟩ := valid
  have march : (if (((d.month + 9) % 12 : Nat) : Int) < 10 then (((d.month + 9) % 12 : Nat) : Int) + 3
      else (((d.month + 9) % 12 : Nat) : Int) - 9) = d.month := by
    split <;> omega
  rw [march]
  have year : d.marchYear % 400 + d.marchYear / 400 * 400 + (if (d.month : Int) ≤ 2 then 1 else 0) =
      d.year := by
    unfold marchYear
    by_cases early : d.month ≤ 2
    · rw [if_pos early, if_pos (by omega)]
      omega
    · rw [if_neg early, if_neg (by omega)]
      omega
  have day : ((d.marchDay : Int) - (153 * ((d.month + 9) % 12 : Nat) + 2) / 5 + 1).toNat = d.day := by
    unfold marchDay
    omega
  rw [year, day]
  rfl

theorem fromDays_of (n : Nat) : fromDays n = of n := by
  rw [← days_of n, fromDays_days (valid_of n)]

/-! ## Later days have later dates -/

/-- By year, month and day. -/
def Earlier (d e : Date) : Prop :=
  d.year < e.year ∨ d.year = e.year ∧ (d.month < e.month ∨ d.month = e.month ∧ d.day < e.day)

theorem Earlier.trans {f : Date} (de : Earlier d e) (ef : Earlier e f) : Earlier d f := by
  unfold Earlier at *
  omega

theorem earlier_tomorrow (d : Date) : Earlier d d.tomorrow := by
  unfold Earlier tomorrow
  split
  · exact .inr ⟨rfl, .inr ⟨rfl, Nat.lt_succ_self _⟩⟩
  · split
    · exact .inr ⟨rfl, .inl (Nat.lt_succ_self _)⟩
    · exact .inl (Int.lt_succ _)

theorem earlier_of {m n : Nat} (later : m < n) : Earlier (of m) (of n) := by
  induction n with
  | zero => omega
  | succ n ih =>
    have last := earlier_tomorrow (of n)
    by_cases same : m = n
    · rw [same]
      exact last
    · exact (ih (by omega)).trans last

/-- Years only grow. -/
theorem year_of_le {m n : Nat} (le : m ≤ n) : (of m).year ≤ (of n).year := by
  by_cases same : m = n
  · rw [same]
  · have later := earlier_of (show m < n by omega)
    unfold Earlier at later
    omega

end Date

end Lib
