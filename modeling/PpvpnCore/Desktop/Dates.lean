import PpvpnCore.Lib.Checked
import PpvpnCore.Engine.LogLine

/-!
Dates of log files and of push messages (`desktop/src/standard.rs`,
`desktop/src/logging.rs`, `desktop/src/push_agent.rs`).
-/

namespace PpvpnCore.Desktop

open Lib PpvpnCore.LogLine

/-- `YYYY-MM-DD` in UTC (log file names). -/
def utcDate (now : SystemTime) : List Char :=
  let days : Int := (now.toNat / 1000000000 / 86400 : Nat)
  let z := days + 719468
  let era := z / 146097
  let doe := z % 146097
  let yoe := (doe - doe / 1460 + doe / 36524 - doe / 146096) / 365
  let doy := doe - (365 * yoe + yoe / 4 - yoe / 100)
  let mp := (5 * doy + 2) / 153
  let day := doy - (153 * mp + 2) / 5 + 1
  let month := if mp < 10 then mp + 3 else mp - 9
  let year := yoe + era * 400 + (if month ≤ 2 then 1 else 0)
  padded 4 year.toNat ++ '-' :: padded 2 month.toNat ++ '-' :: padded 2 day.toNat

/-- Days since the epoch of a date, in 64 bits. -/
def daysFromCivil (year month day : Int) : Except Halt Int := do
  let year ← if month ≤ 2 then checked (year - 1) else .ok year
  let era := year / 400
  let yoe := year % 400
  let mp := (← checked (month + 9)).tmod 12
  let doy ← checked ((← checked ((153 * mp + 2).tdiv 5 + day)) - 1)
  let doe ← checked (yoe * 365 + yoe / 4 - yoe / 100 + doy)
  checked ((← checked ((← checked (era * 146097)) + doe)) - 719468)

/-- `str::parse::<i64>`. -/
def parseI64 (cs : List Char) : Option Int :=
  match cs with
  | '-' :: digits => (readNumeral 10 digits).bind fun n => if n ≤ 9223372036854775808 then some (-n) else none
  | '+' :: digits => (readNumeral 10 digits).bind fun n => if n ≤ 9223372036854775807 then some ↑n else none
  | digits => (readNumeral 10 digits).bind fun n => if n ≤ 9223372036854775807 then some ↑n else none

/-- A part of a split text as a number. -/
def number (part : Option (List Char)) : Except Halt Int := given (part.bind parseI64)

/-- At the first of `T`, `t` and a space. -/
def splitDate (cs : List Char) : Option (List Char × List Char) :=
  match cs.span fun c => c != 'T' && c != 't' && c != ' ' with
  | (date, _ :: rest) => some (date, rest)
  | (_, []) => none

/-- The seconds of `Z` or `±HH:MM`. -/
def zoneOffset (zone : List Char) : Except Halt Int :=
  match zone with
  | ['Z'] | ['z'] | [] => .ok 0
  | first :: rest => do
    let sign : Int := if first = '-' then -1 else 1
    -- no boundary after the first byte of a longer character
    let (h, m) ← given (if first.toNat < 128 then splitOnce ':' rest else none)
    let hours ← checked ((← number (some h)) * 3600)
    let minutes ← checked ((← number (some m)) * 60)
    checked (sign * (← checked (hours + minutes)))

/-- Seconds since the epoch of an RFC 3339 timestamp. -/
def parseRfc3339 (value : List Char) : Except Halt Nat := do
  let (date, rest) ← given (splitDate (trim value))
  let date := splitAll '-' date
  let year ← number date[0]?
  let month ← number date[1]?
  let day ← number date[2]?
  let timed (c : Char) : Bool := c.isDigit || c == ':'
  let time := splitAll ':' (rest.takeWhile timed)
  let hour ← number time[0]?
  let minute ← number time[1]?
  let second ← number time[2]?
  let zone := match rest.dropWhile timed with
    | '.' :: fraction => fraction.dropWhile Char.isDigit
    | zone => zone
  let offset ← zoneOffset zone
  let days ← daysFromCivil year month day
  let seconds ← checked (days * 86400)
  let seconds ← checked (seconds + (← checked (hour * 3600)))
  let seconds ← checked (seconds + (← checked (minute * 60)))
  let seconds ← checked (seconds + second)
  let seconds ← checked (seconds - offset)
  given (if 0 ≤ seconds then some seconds.toNat else none)

/-- Our log files' names begin so. -/
def prefixes : List (List Char) :=
  ["ppvpn-client".toList, "ppvpn-core".toList, "ppvpn-push-agent".toList]

def stripPrefix (front cs : List Char) : Option (List Char) :=
  if front <+: cs then some (cs.drop front.length) else none

def stripEnd (back cs : List Char) : Option (List Char) :=
  if back <:+ cs then some (cs.take (cs.length - back.length)) else none

/-- The day in `<prefix>.YYYY-MM-DD.log`, for our prefixes only. -/
def logFileDay (name : List Char) : Except Halt Int := do
  let date ← given (prefixes.findSome? fun front => do
    stripEnd ".log".toList (← stripPrefix ['.'] (← stripPrefix front name)))
  let (year, month, day) ← given (match splitAll '-' date with
    | [year, month, day] => some (year, month, day)
    | _ => none)
  let (year, month, day) ← given (
    if year.length = 4 ∧ month.length = 2 ∧ day.length = 2 then some (year, month, day) else none)
  let year ← number (some year)
  let month ← number (some month)
  let day ← number (some day)
  let _ ← given (if (1 ≤ month ∧ month ≤ 12) ∧ 1 ≤ day ∧ day ≤ 31 then some () else none)
  daysFromCivil year month day

/-! ## The calendar -/

theorem utcDate_eq (now : SystemTime) : utcDate now =
    dateText (civilFromDays (now.toNat / 1000000000 / 86400 : Nat)) := by
  rw [civilFromDays_eq]
  rfl

theorem checked_of_not_fits {z : Int} (outside : ¬ Fits z) : checked z = .error .overflow :=
  if_neg outside

section Valid

variable {d : Date}

theorem day_le_of_valid (valid : d.Valid) : d.day ≤ 31 := by
  have last := valid.day.2
  unfold Date.monthLength at last
  split at last
  · split at last <;> omega
  · split at last <;> omega

theorem checked_march (valid : d.Valid) :
    checked ((d.month : Int) + 9) = .ok ((d.month + 9 : Nat) : Int) := by
  have month := valid.month
  exact checked_of_fits (by omega)

theorem march_start (month : Nat) : (153 * ((month + 9 : Nat) : Int).tmod 12 + 2).tdiv 5 =
    ((153 * ((month + 9) % 12) + 2) / 5 : Nat) := by
  rw [Int.tmod_eq_emod_of_nonneg (by omega), Int.tdiv_eq_ediv_of_nonneg (by omega)]
  omega

theorem march_place (valid : d.Valid) :
    (((153 * ((d.month + 9) % 12) + 2) / 5 : Nat) : Int) + d.day = d.marchDay + 1 := by
  have first := valid.day.1
  unfold Date.marchDay
  omega

theorem checked_eraDay (valid : d.Valid) (year : Int) :
    checked (year % 400 * 365 + year % 400 / 4 - year % 400 / 100 + d.marchDay) =
      .ok (Date.eraDay (year % 400) d.marchDay) := by
  have bound := (Date.marchDay_bound valid).1
  rw [Date.eraDay, mul_comm 365, checked_of_fits (by omega)]

/-- The year that began in March, and the day in its era. -/
theorem daysFromCivil_march (valid : d.Valid) : daysFromCivil d.year d.month d.day =
    (do
      let year ← if d.month ≤ 2 then checked (d.year - 1) else .ok d.year
      let n ← checked (year / 400 * 146097)
      let n ← checked (n + Date.eraDay (year % 400) d.marchDay)
      checked (n - 719468)) := by
  have bound := (Date.marchDay_bound valid).1
  have doy : checked ((d.marchDay : Int) + 1) = .ok ((d.marchDay : Int) + 1) :=
    checked_of_fits (by omega)
  have doy' : checked ((d.marchDay : Int) + 1 - 1) = .ok (d.marchDay : Int) := by
    rw [add_sub_cancel_right, checked_of_fits (by omega)]
  have early : (d.month : Int) ≤ 2 ↔ d.month ≤ 2 := by omega
  unfold daysFromCivil
  simp only [checked_march valid, march_start, march_place valid, doy, doy', checked_eraDay valid,
    early, ok_bind]

/-- The last three operations halt just when the day does not fit. -/
theorem lastSteps_eq (era doe : Int) (low : 0 ≤ doe) (high : doe < 146097) :
    (do
      let n ← checked (era * 146097)
      let n ← checked (n + doe)
      checked (n - 719468)) =
    if Fits (era * 146097 + doe - 719468) ∧ Fits (era * 146097 + doe) then
      .ok (era * 146097 + doe - 719468)
    else .error .overflow := by
  by_cases first : Fits (era * 146097)
  · rw [checked_of_fits first, ok_bind]
    by_cases second : Fits (era * 146097 + doe)
    · rw [checked_of_fits second, ok_bind]
      unfold checked
      by_cases third : Fits (era * 146097 + doe - 719468)
      · rw [if_pos third, if_pos ⟨third, second⟩]
      · rw [if_neg third, if_neg fun both => third both.1]
    · rw [checked_of_not_fits second, error_bind, if_neg fun both => second both.2]
  · rw [checked_of_not_fits first, error_bind, if_neg]
    omega

/-- A date whose day fits in 64 bits has the right number, and any other halts. -/
theorem daysFromCivil_eq (valid : d.Valid) : daysFromCivil d.year d.month d.day =
    if Fits d.days ∧ Fits (d.days + 719468) then .ok d.days else .error .overflow := by
  have leap : (d.marchDay : Int) = 365 → Date.Leap (d.marchYear % 400 + 1) := by
    intro end_
    obtain ⟨four, century⟩ := (Date.marchDay_bound valid).2 (by omega)
    exact ⟨by omega, by omega⟩
  obtain ⟨low, high⟩ := Date.eraDay_bound (by omega) (by omega)
    (Int.natCast_nonneg _) (by have bound := (Date.marchDay_bound valid).1; omega) leap
  have total : d.marchYear / 400 * 146097 + Date.eraDay (d.marchYear % 400) d.marchDay =
      d.days + 719468 := by
    unfold Date.days Date.eraDay
    rw [Date.yearStart_era]
    omega
  have last := lastSteps_eq (d.marchYear / 400) _ low high
  rw [total, add_sub_cancel_right] at last
  rw [daysFromCivil_march valid]
  by_cases jan : d.month ≤ 2
  · have march : d.marchYear = d.year - 1 := if_pos jan
    rw [if_pos jan, ← march]
    by_cases fits : Fits d.marchYear
    · rw [checked_of_fits fits, ok_bind]
      exact last
    · rw [checked_of_not_fits fits, error_bind, if_neg]
      omega
  · have march : d.marchYear = d.year := if_neg jan
    rw [if_neg jan, ← march, ok_bind]
    exact last

end Valid

/-! ## A printed time is read back -/

theorem span_append {p : Char → Bool} {xs ys : List Char} {x : Char} (all : ∀ c ∈ xs, p c = true)
    (stop : p x = false) : (xs ++ x :: ys).span p = (xs, x :: ys) := by
  rw [List.span_eq_takeWhile_dropWhile, List.takeWhile_append_of_pos all,
    List.dropWhile_append_of_pos all, List.takeWhile_cons, List.dropWhile_cons, stop]
  simp

theorem parseI64_padded {n : Nat} (fits : n ≤ 9223372036854775807) (width : Nat) :
    parseI64 (padded width n) = some ↑n := by
  unfold parseI64
  split
  next digits eq => exact absurd (eq ▸ List.mem_cons_self) (absent_padded (by decide) width n)
  next digits eq => exact absurd (eq ▸ List.mem_cons_self) (absent_padded (by decide) width n)
  next =>
    rw [readNumeral_padded, Option.bind_some, if_pos fits]

theorem number_padded {n : Nat} (fits : n ≤ 9223372036854775807) (width : Nat) :
    number (some (padded width n)) = .ok ↑n := by
  unfold number
  rw [Option.bind_some, parseI64_padded fits]
  rfl

theorem mem_dateText {date : Int × Nat × Nat} {c : Char} (mem : c ∈ dateText date) :
    c.isDigit = true ∨ c = '-' := by
  unfold dateText at mem
  simp only [List.mem_append, List.mem_cons] at mem
  rcases mem with (year | rfl | month) | rfl | day
  · exact .inl (isDigit_padded year)
  · exact .inr rfl
  · exact .inl (isDigit_padded month)
  · exact .inr rfl
  · exact .inl (isDigit_padded day)

theorem not_separator {c : Char} (mem : c.isDigit = true ∨ c = '-') :
    (c != 'T' && c != 't' && c != ' ') = true := by
  have ne : ∀ d : Char, d.isDigit = false → d ≠ '-' → c ≠ d := by
    rintro d plain notDash rfl
    rcases mem with digit | dash
    · rw [digit] at plain
      cases plain
    · exact notDash dash
  simp [ne 'T' (by decide) (by decide), ne 't' (by decide) (by decide),
    ne ' ' (by decide) (by decide)]

theorem splitDate_dateText (date : Int × Nat × Nat) (rest : List Char) :
    splitDate (dateText date ++ 'T' :: rest) = some (dateText date, rest) := by
  unfold splitDate
  rw [span_append (fun c mem => not_separator (mem_dateText mem)) rfl]

/-- What ends the time of day: nothing or a fraction, and `Z`. -/
theorem zone_fraction (nanos : Nat) : ∃ first rest, fraction nanos ++ ['Z'] = first :: rest ∧
    (first.isDigit || first == ':') = false ∧
    (match first :: rest with
      | '.' :: fraction => fraction.dropWhile Char.isDigit
      | zone => zone) = ['Z'] := by
  unfold fraction
  by_cases zero : nanos = 0
  · rw [if_pos zero]
    exact ⟨'Z', [], rfl, rfl, rfl⟩
  · rw [if_neg zero]
    refine ⟨'.', _, rfl, rfl, ?_⟩
    have digits : ∀ c ∈ (padded 9 nanos).rdropWhile (· == '0'), c.isDigit = true := fun c mem =>
      isDigit_padded ((List.rdropWhile_prefix _ _).subset mem)
    show ((padded 9 nanos).rdropWhile (· == '0') ++ ['Z']).dropWhile Char.isDigit = ['Z']
    rw [List.dropWhile_append_of_pos digits]
    rfl

/-- It begins with a digit and ends with `Z`. -/
theorem trim_rfc3339Nano (at_ : SystemTime) : trim (rfc3339Nano at_) = rfc3339Nano at_ := by
  obtain ⟨first, rest, begins⟩ := List.exists_cons_of_ne_nil
    (padded_ne_nil 4 (civilFromDays (dayOf at_)).1.toNat)
  have digit : first.isDigit = true := by
    have mem : first ∈ padded 4 (civilFromDays (dayOf at_)).1.toNat := by
      rw [begins]
      exact List.mem_cons_self
    exact isDigit_padded mem
  have plain : isWhiteSpace first = false := by
    simp only [Char.isDigit, Bool.and_eq_true, decide_eq_true_eq] at digit
    obtain ⟨low, high⟩ := digit
    have low : 48 ≤ first.toNat := low
    have high : first.toNat ≤ 57 := high
    unfold isWhiteSpace
    simp only [Bool.or_eq_false_iff, Bool.and_eq_false_iff, decide_eq_false_iff_not, beq_eq_false_iff_ne]
    omega
  have head : (rfc3339Nano at_).head? = some first := by
    rw [rfc3339Nano_eq, dateText, begins]
    rfl
  have last : (rfc3339Nano at_).getLast? = some 'Z' := by
    simp only [rfc3339Nano, List.getLast?_append, List.getLast?_cons, List.getLast?_nil]
    rfl
  exact trim_eq_self head last plain (by decide)

/-- The numbers of a date of at most four digits, and its day. -/
theorem dayOf_small {n : Nat} (year : (Date.of n).year ≤ 9999) : n ≤ 2932896 := by
  have number := Date.days_of n
  have bound := (Date.marchDay_bound (Date.valid_of n)).1
  by_contra later
  have last : (Date.of 2932896).days = 2932896 := Date.days_of 2932896
  have known : Date.fromDays 2932897 = ⟨10000, 1, 1⟩ := by decide
  have next : Date.of 2932897 = ⟨10000, 1, 1⟩ := by
    rw [← Date.fromDays_of]
    exact known
  have le := Date.year_of_le (show 2932897 ≤ n by omega)
  rw [next] at le
  have le : (10000 : Int) ≤ (Date.of n).year := le
  omega

/-- The sum of a timestamp stays far from the bounds. -/
theorem seconds_checked {days hour minute second : Int} (days_ : 0 ≤ days ∧ days ≤ 2932896)
    (hour_ : 0 ≤ hour ∧ hour < 24) (minute_ : 0 ≤ minute ∧ minute < 60)
    (second_ : 0 ≤ second ∧ second < 60) :
    (do
      let seconds ← checked (days * 86400)
      let seconds ← checked (seconds + (← checked (hour * 3600)))
      let seconds ← checked (seconds + (← checked (minute * 60)))
      let seconds ← checked (seconds + second)
      let seconds ← checked (seconds - 0)
      given (if 0 ≤ seconds then some seconds.toNat else none)) =
      .ok (days * 86400 + hour * 3600 + minute * 60 + second - 0).toNat := by
  simp (disch := omega) only [checked_of_fits, ok_bind, if_pos]
  rfl

theorem zoneOffset_utc : zoneOffset ['Z'] = .ok 0 := rfl

theorem parseRfc3339_rfc3339Nano {at_ : SystemTime} (year : (Date.of (dayOf at_)).year ≤ 9999) :
    parseRfc3339 (rfc3339Nano at_) = .ok (at_.toNat / 1000000000) := by
  have valid := Date.valid_of (dayOf at_)
  have month := valid.month
  have day := day_le_of_valid valid
  have small := dayOf_small year
  have start : 1970 ≤ (Date.of (dayOf at_)).year := Date.year_of_le (Nat.zero_le _)
  obtain ⟨first, rest, ends, stop, zone⟩ := zone_fraction (at_.toNat % 1000000000)
  have time : ∀ c ∈ padded 2 (secondOf at_ / 3600) ++ ':' :: padded 2 (secondOf at_ / 60 % 60) ++
      ':' :: padded 2 (secondOf at_ % 60), (c.isDigit || c == ':') = true := by
    intro c mem
    simp only [List.mem_append, List.mem_cons] at mem
    rcases mem with (hour | rfl | minute) | rfl | second
    · simp [isDigit_padded hour]
    · rfl
    · simp [isDigit_padded minute]
    · rfl
    · simp [isDigit_padded second]
  have secs : secondOf at_ < 86400 := Nat.mod_lt _ (by decide)
  have number := fun {n : Nat} (small : n ≤ 100000) (width : Nat) =>
    number_padded (n := n) (by omega) width
  have days : daysFromCivil ((Date.of (dayOf at_)).year.toNat : Nat) (Date.of (dayOf at_)).month
      (Date.of (dayOf at_)).day = .ok (dayOf at_ : Int) := by
    rw [Int.toNat_of_nonneg (by omega), daysFromCivil_eq valid, Date.days_of, if_pos (by omega)]
  unfold parseRfc3339
  rw [trim_rfc3339Nano, rfc3339Nano_eq, splitDate_dateText, civilFromDays_of, ends]
  simp only [given, ok_bind, dateText]
  rw [splitAll_padded (by decide), List.takeWhile_append_of_pos time,
    List.dropWhile_append_of_pos time, List.takeWhile_cons, List.dropWhile_cons, stop]
  simp only [Bool.false_eq_true, if_false, List.append_nil]
  rw [splitAll_padded (by decide)]
  simp only [List.getElem?_cons_zero, List.getElem?_cons_succ]
  rw [number (by omega), number (by omega), number (by omega), number (by omega), number (by omega),
    number (by omega)]
  simp only [ok_bind]
  rw [zone]
  rw [zoneOffset_utc, ok_bind, days, ok_bind]
  refine (seconds_checked ?_ ?_ ?_ ?_).trans ?_
  · omega
  · omega
  · omega
  · omega
  have whole : dayOf at_ * 86400 + secondOf at_ = at_.toNat / 1000000000 := Nat.div_add_mod' _ _
  refine congrArg Except.ok ?_
  rw [← whole]
  omega

/-! ## Dates in file names -/

theorem stripPrefix_append (front rest : List Char) : stripPrefix front (front ++ rest) = some rest := by
  unfold stripPrefix
  rw [if_pos (List.prefix_append _ _), List.drop_left]

theorem stripEnd_append (front back : List Char) : stripEnd back (front ++ back) = some front := by
  unfold stripEnd
  rw [if_pos (List.suffix_append _ _), List.length_append, Nat.add_sub_cancel, List.take_left]

/-- The date of a file of ours is found. -/
theorem findSome_front {front : List Char} (ours : front ∈ prefixes) (date : List Char) :
    (prefixes.findSome? fun p => do
      stripEnd ".log".toList (← stripPrefix ['.'] (← stripPrefix p (front ++ '.' :: date ++ ".log".toList)))) =
        some date := by
  have rest : stripPrefix ['.'] ('.' :: (date ++ ".log".toList)) = some (date ++ ".log".toList) :=
    stripPrefix_append ['.'] _
  have own : ∀ p : List Char, stripPrefix p (p ++ '.' :: (date ++ ".log".toList)) =
      some ('.' :: (date ++ ".log".toList)) := fun p => stripPrefix_append p _
  have other : ∀ p q : List Char, ¬ p <+: q ++ '.' :: (date ++ ".log".toList) →
      stripPrefix p (q ++ '.' :: (date ++ ".log".toList)) = none := fun p q h => if_neg h
  rw [List.append_assoc, List.cons_append]
  unfold prefixes at ours ⊢
  simp only [List.mem_cons, List.not_mem_nil, or_false] at ours
  rcases ours with rfl | rfl | rfl
  · simp only [List.findSome?_cons, own, rest, stripEnd_append, Option.bind_eq_bind, Option.bind_some]
  · have first := other "ppvpn-client".toList "ppvpn-core".toList (by simp)
    simp only [List.findSome?_cons, first, own, rest, stripEnd_append, Option.bind_eq_bind,
      Option.bind_none, Option.bind_some]
  · have first := other "ppvpn-client".toList "ppvpn-push-agent".toList (by simp)
    have second := other "ppvpn-core".toList "ppvpn-push-agent".toList (by simp)
    simp only [List.findSome?_cons, first, second, own, rest, stripEnd_append, Option.bind_eq_bind,
      Option.bind_none, Option.bind_some]

/-- A log file's day is the day it was named after. -/
theorem logFileDay_utcDate {front : List Char} (ours : front ∈ prefixes) {now : SystemTime}
    (year : (Date.of (dayOf now)).year ≤ 9999) :
    logFileDay (front ++ '.' :: utcDate now ++ ".log".toList) = .ok (dayOf now) := by
  have valid := Date.valid_of (dayOf now)
  have month := valid.month
  have day := day_le_of_valid valid
  have small := dayOf_small year
  have start : 1970 ≤ (Date.of (dayOf now)).year := Date.year_of_le (Nat.zero_le _)
  have number := fun {n : Nat} (small : n ≤ 100000) (width : Nat) =>
    number_padded (n := n) (by omega) width
  have days : daysFromCivil ((Date.of (dayOf now)).year.toNat : Nat) (Date.of (dayOf now)).month
      (Date.of (dayOf now)).day = .ok (dayOf now : Int) := by
    rw [Int.toNat_of_nonneg (by omega), daysFromCivil_eq valid, Date.days_of, if_pos (by omega)]
  unfold logFileDay
  rw [findSome_front ours, utcDate_eq, show now.toNat / 1000000000 / 86400 = dayOf now from rfl,
    civilFromDays_of]
  simp only [given, ok_bind, dateText]
  rw [splitAll_padded (by decide)]
  simp only [ok_bind]
  rw [length_padded (by decide) (by omega), length_padded (by decide) (by omega),
    length_padded (by decide) (by omega), if_pos (by decide)]
  simp only [ok_bind]
  rw [number (by omega), number (by omega), number (by omega)]
  simp only [ok_bind]
  have first := valid.day.1
  rw [if_pos (by omega), days]
  rfl

/-! ## The order of printed dates -/

theorem dateText_lt {d e : Date} (valid : d.Valid) (valid' : e.Valid) (low : 0 ≤ d.year)
    (low' : 0 ≤ e.year) (high : d.year ≤ 9999) (high' : e.year ≤ 9999) :
    dateText (d.year, d.month, d.day) < dateText (e.year, e.month, e.day) ↔ d.Earlier e := by
  have month := valid.month
  have month' := valid'.month
  have day := day_le_of_valid valid
  have day' := day_le_of_valid valid'
  have inj : ∀ {w m n : Nat}, 0 < w → m < 10 ^ w → n < 10 ^ w → (padded w m = padded w n ↔ m = n) := by
    intro w m n some small small'
    rw [padded_eq_places some small, padded_eq_places some small', places_inj small small']
  unfold dateText Date.Earlier
  dsimp only
  rw [List.append_assoc, List.append_assoc, append_lt_append (by
      rw [length_padded (by decide) (by omega), length_padded (by decide) (by omega)]),
    padded_lt_padded (by decide) (by omega) (by omega), inj (by decide) (by omega) (by omega)]
  simp only [List.cons_append, List.cons_lt_cons_iff, lt_self_iff_false, false_or, true_and]
  rw [append_lt_append (by
      rw [length_padded (by decide) (by omega), length_padded (by decide) (by omega)]),
    padded_lt_padded (by decide) (by omega) (by omega), inj (by decide) (by omega) (by omega)]
  simp only [List.cons_lt_cons_iff, lt_self_iff_false, false_or, true_and]
  rw [padded_lt_padded (by decide) (by omega) (by omega)]
  omega

/-- Dates of four digits are ordered as their days. -/
theorem dateText_order {m n : Nat} (small : (Date.of m).year ≤ 9999) (small' : (Date.of n).year ≤ 9999) :
    dateText (civilFromDays m) < dateText (civilFromDays n) ↔ m < n := by
  have low : 0 ≤ (Date.of m).year := le_trans (by decide) (Date.year_of_le (Nat.zero_le m))
  have low' : 0 ≤ (Date.of n).year := le_trans (by decide) (Date.year_of_le (Nat.zero_le n))
  rw [civilFromDays_of, civilFromDays_of,
    dateText_lt (Date.valid_of m) (Date.valid_of n) low low' small small']
  constructor
  · intro earlier
    by_contra notLess
    rcases Nat.lt_or_eq_of_le (Nat.le_of_not_lt notLess) with later | same
    · have other := Date.earlier_of later
      unfold Date.Earlier at earlier other
      omega
    · rw [same] at earlier
      unfold Date.Earlier at earlier
      omega
  · exact Date.earlier_of

/-! ## The three calendars -/

/-- Within 64 bits `civil_from_days`, `utc_date` and `days_from_civil` are the
calendar and its inverse; a time from the epoch on is read back as printed, one
before it as the epoch; printed dates are ordered as their days. -/
theorem calendars_agree :
    (∀ n : Nat, Fits (n + 719468) →
      civilFromDays n = ((Date.of n).year, (Date.of n).month, (Date.of n).day)) ∧
    (∀ now : SystemTime, (Date.of (dayOf now)).year ≤ 9999 → utcDate now =
      dateText ((Date.of (dayOf now)).year, (Date.of (dayOf now)).month, (Date.of (dayOf now)).day)) ∧
    (∀ d : Date, d.Valid → Fits d.days → Fits (d.days + 719468) →
      daysFromCivil d.year d.month d.day = .ok d.days ∧
        civilFromDays d.days = (d.year, d.month, d.day)) ∧
    (∀ n : Nat, Fits (n + 719468) →
      daysFromCivil (civilFromDays n).1 (civilFromDays n).2.1 (civilFromDays n).2.2 = .ok n) ∧
    (∀ at_ : SystemTime, (Date.of (dayOf at_)).year ≤ 9999 →
      ∃ secs : Nat, (secs : Int) = (if 0 ≤ at_ then at_ / 1000000000 else 0) ∧
        parseRfc3339 (rfc3339Nano at_) = .ok secs) ∧
    ∀ m n : Nat, (Date.of m).year ≤ 9999 → (Date.of n).year ≤ 9999 →
      (dateText (civilFromDays m) < dateText (civilFromDays n) ↔ m < n) := by
  refine ⟨fun n _ => civilFromDays_of n, ?_, ?_, ?_, ?_, ?_⟩
  · intro now _
    rw [utcDate_eq, ← civilFromDays_of]
    rfl
  · intro d valid fits fits'
    rw [daysFromCivil_eq valid, if_pos ⟨fits, fits'⟩, civilFromDays_eq, Date.fromDays_days valid]
    exact ⟨rfl, rfl⟩
  · intro n fits
    rw [civilFromDays_of, daysFromCivil_eq (Date.valid_of n), Date.days_of, if_pos ⟨by omega, fits⟩]
  · intro at_ year
    refine ⟨at_.toNat / 1000000000, ?_, parseRfc3339_rfc3339Nano year⟩
    split
    next from_ =>
      have from_ : (0 : Int) ≤ at_ := from_
      omega
    next before =>
      have before : ¬ (0 : Int) ≤ at_ := before
      omega
  · intro m n small small'
    exact dateText_order small small'

/-- The leap day of the year 2000. -/
theorem calendars_agree_leap_day :
    civilFromDays 11016 = (2000, 2, 29) ∧ daysFromCivil 2000 2 29 = .ok 11016 ∧
      (∃ secs : Nat, (secs : Int) = 951782400 ∧
        parseRfc3339 (rfc3339Nano 951782400000000000) = .ok secs) ∧
      (dateText (civilFromDays (11015 : Nat)) < dateText (civilFromDays (11016 : Nat)) ↔
        11015 < 11016) := by
  have date : Date.of 11016 = ⟨2000, 2, 29⟩ := by
    rw [← Date.fromDays_of]
    decide
  have before : Date.of 11015 = ⟨2000, 2, 28⟩ := by
    rw [← Date.fromDays_of]
    decide
  have day : dayOf 951782400000000000 = 11016 := by decide
  obtain ⟨civil, -, inverse, -, read, order⟩ := calendars_agree
  refine ⟨?_, ?_, ?_, ?_⟩
  · have known := civil 11016 (by decide)
    rw [date] at known
    exact known
  · have valid : Date.Valid ⟨2000, 2, 29⟩ := by
      rw [← date]
      exact Date.valid_of 11016
    exact (inverse ⟨2000, 2, 29⟩ valid (by decide) (by decide)).1
  · have back := read 951782400000000000 (by rw [day, date]; decide)
    rw [if_pos (by decide)] at back
    exact back
  · exact order 11015 11016 (by rw [before]; decide) (by rw [date]; decide)

/-- A time before the epoch is printed as the epoch, and the day of a date may
not fit in 64 bits. -/
theorem before_epoch_and_past_i64 :
    (¬ ∀ at_ : SystemTime, (Date.fromDays (at_ / 86400000000000)).year ≤ 9999 →
      ∃ secs : Nat, (secs : Int) = at_ / 1000000000 ∧ parseRfc3339 (rfc3339Nano at_) = .ok secs) ∧
    ¬ ∀ d : Date, d.Valid → Fits d.year → daysFromCivil d.year d.month d.day = .ok d.days := by
  constructor
  · intro always
    obtain ⟨secs, second, -⟩ := always (-1000000000) (by decide)
    have second : (secs : Int) = -1 := second
    omega
  · intro always
    have halts : daysFromCivil 4611686018427387904 1 1 = .error .overflow := by decide +kernel
    have fits := always ⟨4611686018427387904, 1, 1⟩ ⟨by decide, by decide⟩ (by decide)
    have fits : daysFromCivil 4611686018427387904 1 1 = .ok _ := fits
    rw [halts] at fits
    cases fits

end PpvpnCore.Desktop
