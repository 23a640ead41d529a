import PpvpnCore.Account.Clocks
import PpvpnCore.Desktop.Dates

/-!
The clocks of the backend's answers: when a time in a push message fits in 64
bits, and with it everything the client adds up.

`Stamp` is what `parse_rfc3339` reads before it computes, in exact integers.
-/

namespace PpvpnCore.Desktop

open Lib

/-- At most the largest `i64`. -/
abbrev Below (z : Int) : Prop := z ≤ 9223372036854775807

inductive Zone where
  | utc
  /-- The hours are multiplied before the minutes are read. -/
  | offset (sign hours : Int) (minutes : Option Int)
  deriving DecidableEq

structure Stamp where
  year : Int
  month : Int
  day : Int
  hour : Int
  minute : Int
  second : Int
  zone : Zone
  deriving DecidableEq

def readZone (zone : List Char) : Option Zone :=
  match zone with
  | ['Z'] | ['z'] | [] => some .utc
  | first :: rest => do
    let (h, m) ← (if first.toNat < 128 then splitOnce ':' rest else none)
    return .offset (if first = '-' then -1 else 1) (← parseI64 h) (parseI64 m)

/-- What a text says, none where a part is missing. -/
def readStamp (value : List Char) : Option Stamp := do
  let (date, rest) ← splitDate (trim value)
  let date := splitAll '-' date
  let year ← date[0]?.bind parseI64
  let month ← date[1]?.bind parseI64
  let day ← date[2]?.bind parseI64
  let timed (c : Char) : Bool := c.isDigit || c == ':'
  let time := splitAll ':' (rest.takeWhile timed)
  let hour ← time[0]?.bind parseI64
  let minute ← time[1]?.bind parseI64
  let second ← time[2]?.bind parseI64
  let zone ← readZone (match rest.dropWhile timed with
    | '.' :: fraction => fraction.dropWhile Char.isDigit
    | zone => zone)
  return { year, month, day, hour, minute, second, zone }

/-! ## What fits -/

def marchYear (year month : Int) : Int := if month ≤ 2 then year - 1 else year

/-- The days of the year that begins in March before a month's first. -/
def monthStart (month : Int) : Int := (153 * (month + 9).tmod 12 + 2).tdiv 5

def eraDay (year month day : Int) : Int :=
  marchYear year month % 400 * 365 + marchYear year month % 400 / 4 -
    marchYear year month % 400 / 100 + (monthStart month + day - 1)

/-- The days from March 1 of the year 0 on. -/
def dayCount (year month day : Int) : Int :=
  marchYear year month / 400 * 146097 + eraDay year month day

/-- The bounds of `days_from_civil`. -/
structure DaysFit (year month day : Int) : Prop where
  shifted : Below (month + 9)
  place : Below (monthStart month + day)
  inEra : Below (eraDay year month day)
  count : Below (dayCount year month day)

namespace Zone

/-- Seconds, none where the minutes are missing. -/
def value : Zone → Option Int
  | .utc => some 0
  | .offset sign hours minutes => minutes.map fun minutes => sign * (hours * 3600 + minutes * 60)

def Within : Zone → Prop
  | .utc => True
  | .offset sign hours minutes => Fits (hours * 3600) ∧ ∀ m, minutes = some m →
    Fits (m * 60) ∧ Fits (hours * 3600 + m * 60) ∧ Fits (sign * (hours * 3600 + m * 60))

end Zone

namespace Stamp

def seconds (s : Stamp) : Int :=
  (dayCount s.year s.month s.day - 719468) * 86400 + s.hour * 3600 + s.minute * 60 + s.second

/-- The bounds of `parse_rfc3339`. -/
structure Within (s : Stamp) : Prop where
  zone : s.zone.Within
  rest : ∀ offset, s.zone.value = some offset →
    Below (s.month + 9) ∧ Below (s.hour * 3600) ∧ Below (s.minute * 60) ∧
      Below s.seconds ∧ Fits (s.seconds - offset)

/-- What the texts of a date and a time can say. -/
structure Plain (s : Stamp) : Prop where
  year : 0 ≤ s.year ∧ Below s.year
  month : 0 ≤ s.month ∧ Below s.month
  day : 0 ≤ s.day ∧ Below s.day
  hour : 0 ≤ s.hour ∧ Below s.hour
  minute : 0 ≤ s.minute ∧ Below s.minute
  second : 0 ≤ s.second ∧ Below s.second

end Stamp

/-! ## Reading, then adding up -/

theorem parseI64_plain {cs : List Char} {n : Int} (dash : '-' ∉ cs) (read : parseI64 cs = some n) :
    0 ≤ n ∧ Below n := by
  have small : ∀ {n : Int} {digits : List Char}, ((readNumeral 10 digits).bind fun n =>
      if n ≤ 9223372036854775807 then some (n : Int) else none) = some n → 0 ≤ n ∧ Below n := by
    intro n digits read
    obtain ⟨k, -, read⟩ := Option.bind_eq_some_iff.1 read
    split at read
    · cases read
      omega
    · cases read
  unfold parseI64 at read
  split at read
  · exact absurd List.mem_cons_self dash
  · exact small read
  · exact small read

/-- A part of a split text is a number from 0 on. -/
theorem part_plain {sep : Char} {cs : List Char} {i : Nat} {n : Int}
    (dash : sep = '-' ∨ '-' ∉ cs) (read : (splitAll sep cs)[i]?.bind parseI64 = some n) :
    0 ≤ n ∧ Below n := by
  obtain ⟨part, here, read⟩ := Option.bind_eq_some_iff.1 read
  refine parseI64_plain (fun inside => ?_) read
  have mem := mem_of_splitAll (List.mem_of_getElem? here) inside
  rcases dash with rfl | absent
  · exact mem.2 rfl
  · exact absent mem.1

theorem readStamp_plain {value : List Char} {s : Stamp} (read : readStamp value = some s) :
    s.Plain := by
  unfold readStamp at read
  obtain ⟨⟨date, rest⟩, -, read⟩ := Option.bind_eq_some_iff.1 read
  obtain ⟨year, y, read⟩ := Option.bind_eq_some_iff.1 read
  obtain ⟨month, mo, read⟩ := Option.bind_eq_some_iff.1 read
  obtain ⟨day, d, read⟩ := Option.bind_eq_some_iff.1 read
  obtain ⟨hour, h, read⟩ := Option.bind_eq_some_iff.1 read
  obtain ⟨minute, mi, read⟩ := Option.bind_eq_some_iff.1 read
  obtain ⟨second, sec, read⟩ := Option.bind_eq_some_iff.1 read
  obtain ⟨zone, -, read⟩ := Option.bind_eq_some_iff.1 read
  have timed : '-' ∉ rest.takeWhile fun c => c.isDigit || c == ':' := by
    intro mem
    have digit := List.mem_takeWhile_imp mem
    revert digit
    decide
  cases read
  exact ⟨part_plain (.inl rfl) y, part_plain (.inl rfl) mo, part_plain (.inl rfl) d,
    part_plain (.inr timed) h, part_plain (.inr timed) mi, part_plain (.inr timed) sec⟩

/-- The computation of an offset, in 64 bits. -/
def Zone.computed : Zone → Except Halt Int
  | .utc => .ok 0
  | .offset sign hours minutes => do
    let hours ← checked (hours * 3600)
    let minutes ← checked ((← given minutes) * 60)
    checked (sign * (← checked (hours + minutes)))

/-- The computation of a time, in 64 bits. -/
def Stamp.computed (s : Stamp) : Except Halt Nat := do
  let offset ← s.zone.computed
  let days ← daysFromCivil s.year s.month s.day
  let seconds ← checked (days * 86400)
  let seconds ← checked (seconds + (← checked (s.hour * 3600)))
  let seconds ← checked (seconds + (← checked (s.minute * 60)))
  let seconds ← checked (seconds + s.second)
  let seconds ← checked (seconds - offset)
  given (if 0 ≤ seconds then some seconds.toNat else none)

theorem given_bind {α β : Type} (a : Option α) (f : α → Option β) :
    given (a >>= f) = given a >>= fun a => given (f a) := by
  cases a <;> rfl

theorem zoneOffset_eq (zone : List Char) :
    zoneOffset zone = given (readZone zone) >>= Zone.computed := by
  unfold zoneOffset readZone
  split
  · rfl
  · rfl
  · rfl
  · simp only [given_bind, bind_assoc]
    rfl

theorem parseRfc3339_eq (value : List Char) :
    parseRfc3339 value = given (readStamp value) >>= Stamp.computed := by
  unfold parseRfc3339 readStamp
  simp only [given_bind, bind_assoc, zoneOffset_eq, number]
  rfl

/-! ## When it overflows -/

theorem Zone.computed_within {z : Zone} (within : z.Within) : z.computed = given z.value := by
  cases z with
  | utc => rfl
  | offset sign hours minutes =>
    obtain ⟨hoursFit, rest⟩ := within
    unfold Zone.computed Zone.value
    dsimp only
    rw [checked_of_fits hoursFit, ok_bind]
    cases minutes with
    | none => rfl
    | some m =>
      obtain ⟨minutesFit, sum, signed⟩ := rest m rfl
      rw [given, ok_bind, checked_of_fits minutesFit, ok_bind, checked_of_fits sum, ok_bind,
        checked_of_fits signed]
      rfl

theorem Zone.computed_overflow {z : Zone} (outside : ¬ z.Within) : z.computed = .error .overflow :=
    by
  cases z with
  | utc => exact absurd trivial outside
  | offset sign hours minutes =>
    unfold Zone.computed
    dsimp only
    rw [checked_bind_overflow]
    intro hoursFit
    rw [given_bind_overflow]
    by_contra none
    refine outside ⟨hoursFit, fun m some => ?_⟩
    by_contra outside
    refine none ⟨m, some, ?_⟩
    rw [checked_bind_overflow]
    intro minutesFit
    rw [checked_bind_overflow]
    intro sum
    rw [checked_overflow]
    exact fun signed => outside ⟨minutesFit, sum, signed⟩

theorem monthStart_bound {month : Int} (low : 0 ≤ month) :
    0 ≤ monthStart month ∧ monthStart month ≤ 337 := by
  unfold monthStart
  rw [Int.tmod_eq_emod_of_nonneg (by omega), Int.tdiv_eq_ediv_of_nonneg (by omega)]
  omega

/-- The steps of `days_from_civil` from the year that began in March on. -/
def daysFromMarch (year month day : Int) : Except Halt Int := do
  let era := year / 400
  let yoe := year % 400
  let mp := (← checked (month + 9)).tmod 12
  let doy ← checked ((← checked ((153 * mp + 2).tdiv 5 + day)) - 1)
  let doe ← checked (yoe * 365 + yoe / 4 - yoe / 100 + doy)
  checked ((← checked ((← checked (era * 146097)) + doe)) - 719468)

section Days

variable {year month day : Int}

theorem daysFromCivil_march' (low : 0 ≤ year) (high : Below year) :
    daysFromCivil year month day = daysFromMarch (marchYear year month) month day := by
  unfold daysFromCivil marchYear
  split
  · show (checked (year - 1) >>= (daysFromMarch · month day)) = _
    rw [checked_of_fits (by omega), ok_bind]
  · rfl

theorem daysFromCivil_within (years : 0 ≤ year ∧ Below year) (months : 0 ≤ month)
    (days : 0 ≤ day) (fit : DaysFit year month day) :
    daysFromCivil year month day = .ok (dayCount year month day - 719468) := by
  obtain ⟨shifted, place, inEra, count⟩ := fit
  obtain ⟨low, high⟩ := monthStart_bound months
  have era : -1 ≤ marchYear year month / 400 ∧ Below (marchYear year month / 400) := by
    unfold marchYear
    split <;> omega
  unfold dayCount at count ⊢
  unfold eraDay at inEra count ⊢
  rw [daysFromCivil_march' years.1 years.2]
  unfold daysFromMarch
  rw [checked_of_fits (by omega), ok_bind]
  show (checked (monthStart month + day) >>= _) = _
  rw [checked_of_fits (by omega), ok_bind, checked_of_fits (by omega), ok_bind,
    add_sub_assoc (monthStart month)]
  generalize marchYear year month = march at *
  rw [checked_of_fits (by omega), ok_bind, checked_of_fits (by omega), ok_bind,
    checked_of_fits (by omega), ok_bind, checked_of_fits (by omega)]

theorem daysFromCivil_overflow (years : 0 ≤ year ∧ Below year) (months : 0 ≤ month)
    (outside : ¬ DaysFit year month day) :
    daysFromCivil year month day = .error .overflow := by
  obtain ⟨low, high⟩ := monthStart_bound months
  rw [daysFromCivil_march' years.1 years.2]
  unfold daysFromMarch
  rw [checked_bind_overflow]
  intro shifted
  show (checked (monthStart month + day) >>= _) = _
  rw [checked_bind_overflow]
  intro place
  rw [checked_bind_overflow]
  intro place'
  rw [add_sub_assoc (monthStart month), checked_bind_overflow]
  intro inEra
  rw [checked_bind_overflow]
  intro eras
  rw [checked_bind_overflow]
  intro count
  rw [checked_overflow]
  intro final
  refine outside ⟨shifted.2, place.2, ?_, ?_⟩
  · unfold eraDay
    omega
  · unfold dayCount eraDay
    omega

theorem eraDay_low (year month day : Int) :
    monthStart month + day - 1 ≤ eraDay year month day := by
  unfold eraDay
  omega

theorem dayCount_eraDay (month day : Int) (years : 0 ≤ year) :
    eraDay year month day - 146097 ≤ dayCount year month day := by
  have era : -1 ≤ marchYear year month / 400 := by
    unfold marchYear
    split <;> omega
  unfold dayCount
  omega

end Days

namespace Stamp

variable {s : Stamp}

/-- Where the seconds fit the days do. -/
theorem Plain.daysFit (plain : s.Plain) (shifted : Below (s.month + 9)) (total : Below s.seconds) :
    DaysFit s.year s.month s.day := by
  obtain ⟨years, months, days, hours, minutes, seconds⟩ := plain
  have start := monthStart_bound months.1
  have low := eraDay_low s.year s.month s.day
  have count := dayCount_eraDay s.month s.day years.1
  unfold Stamp.seconds at total
  exact ⟨shifted, by omega, by omega, by omega⟩

theorem computed_overflow (plain : s.Plain) : s.computed = .error .overflow ↔ ¬ s.Within := by
  unfold computed
  by_cases zone : s.zone.Within
  · rw [Zone.computed_within zone]
    cases value : s.zone.value with
    | none =>
      have within : s.Within := ⟨zone, fun offset some => by rw [value] at some; cases some⟩
      refine ⟨fun absent => (by cases absent), fun outside => absurd within outside⟩
    | some offset =>
      rw [given, ok_bind]
      by_cases fit : DaysFit s.year s.month s.day
      · rw [daysFromCivil_within plain.year plain.month.1 plain.day.1 fit, ok_bind]
        obtain ⟨years, months, days, hours, minutes, seconds⟩ := plain
        have start := monthStart_bound months.1
        have low := eraDay_low s.year s.month s.day
        have count := dayCount_eraDay s.month s.day years.1
        have shifted := fit.shifted
        have known : s.Within ↔ Below (s.hour * 3600) ∧ Below (s.minute * 60) ∧ Below s.seconds ∧
            Fits (s.seconds - offset) := by
          constructor
          · intro within
            exact (within.rest offset value).2
          · intro bounds
            refine ⟨zone, fun other same => ?_⟩
            rw [value] at same
            cases same
            exact ⟨shifted, bounds⟩
        rw [known]
        unfold Stamp.seconds
        simp only [checked_bind_overflow]
        constructor
        · intro halts bounds
          exact given_ne_overflow (halts (by omega) (by omega) (by omega) (by omega) (by omega)
            (by omega) bounds.2.2.2)
        · intro outside days hour _ minute _ sum signed
          exact absurd ⟨hour.2, minute.2, sum.2, signed⟩ outside
      · rw [daysFromCivil_overflow plain.year plain.month.1 fit, error_bind]
        refine ⟨fun _ within => fit ?_, fun _ => rfl⟩
        have bounds := within.rest offset value
        exact plain.daysFit bounds.1 bounds.2.2.2.1
  · rw [Zone.computed_overflow zone, error_bind]
    exact ⟨fun _ within => zone within.zone, fun _ => rfl⟩

end Stamp

theorem parseRfc3339_overflow {value : List Char} : parseRfc3339 value = .error .overflow ↔
    ∃ s, readStamp value = some s ∧ ¬ s.Within := by
  rw [parseRfc3339_eq, given_bind_overflow]
  constructor
  · rintro ⟨s, read, halts⟩
    exact ⟨s, read, (Stamp.computed_overflow (readStamp_plain read)).1 halts⟩
  · rintro ⟨s, read, outside⟩
    exact ⟨s, read, (Stamp.computed_overflow (readStamp_plain read)).2 outside⟩

/-! ## Every answer -/

section Answers

open PpvpnCore.Account.Clocks
open PpvpnCore.Service (Value)

/-- When the backend's answers fit in the client's clocks: a login's time, the
answers that slow it down, a token's time, a message's date and time. -/
theorem answers_fit (host : Host) :
    (∀ trustsLocal validateUrl generation (created : DeviceCodeResponse) now (flow : FlowState),
      Accepted trustsLocal created →
      (validateUrl created.verificationUriComplete created.userCode).isSome →
      flow.generation = generation →
      (start host trustsLocal validateUrl generation created now flow ≠ .error .overflow ↔
        host.Holds now created.expiresIn.toNat)) ∧
    (∀ pending : PendingAuthorization,
      pending.slowDown ≠ .error .overflow ↔ pending.interval + 5 ≤ u64Max) ∧
    (∀ trustsLocal validateUrl generation created now flow started flow' first later pending,
      start host trustsLocal validateUrl generation created now flow = .ok (started, flow') →
      flow'.pending = some first → host = .unix ∨ 5000000000 ≤ now →
      Polls now first later pending → pending.slowDown ≠ .error .overflow) ∧
    (∀ payload audience token expiresIn now unix,
      accessTokenFrom host payload audience token expiresIn now unix ≠ .error .overflow ↔
        ∀ exp, validateAccessToken payload audience token = .ok exp →
          TokenFits host now expiresIn unix exp) ∧
    (∀ value s, readStamp value = some s →
      (daysFromCivil s.year s.month s.day ≠ .error .overflow ↔ DaysFit s.year s.month s.day)) ∧
    ∀ value, parseRfc3339 value ≠ .error .overflow ↔
      ∀ s, readStamp value = some s → s.Within := by
  refine ⟨?_, ?_, ?_, ?_, ?_, ?_⟩
  · intro trustsLocal validateUrl generation created now flow accepted trusted current
    rw [Ne, start_overflow accepted trusted current, not_not]
  · intro pending
    rw [Ne, slowDown_overflow, not_lt]
  · intro trustsLocal validateUrl generation created now flow started flow' first later pending done
      waiting running polls
    obtain ⟨holds, expires⟩ := start_pending done waiting
    refine polls.slowDown ?_ running
    rw [expires]
    exact holds
  · intro payload audience token expiresIn now unix
    rw [Ne, accessTokenFrom_overflow]
    simp only [not_exists, not_and, not_not]
  · intro value s read
    have plain := readStamp_plain read
    by_cases fit : DaysFit s.year s.month s.day
    · rw [daysFromCivil_within plain.year plain.month.1 plain.day.1 fit]
      exact ⟨fun _ => fit, fun _ halts => by cases halts⟩
    · rw [daysFromCivil_overflow plain.year plain.month.1 fit]
      exact ⟨fun other => absurd rfl other, fun fit' => absurd fit' fit⟩
  · intro value
    rw [Ne, parseRfc3339_overflow]
    simp only [not_exists, not_and, not_not]

/-- Ten minutes to log in, and a message of September 2026. -/
theorem answers_fit_ordinary :
    start .unix true (fun url _ => some url) 1 ⟨"code", "user", "page", 600, 5⟩ 0 ⟨1, none⟩ ≠
        .error .overflow ∧
      parseRfc3339 "2026-09-29T08:00:00.123+08:00".toList ≠ .error .overflow := by
  obtain ⟨login, -, -, -, -, message⟩ := answers_fit .unix
  refine ⟨(login true _ 1 _ 0 ⟨1, none⟩ (by decide) rfl rfl).2 (by decide), ?_⟩
  refine (message _).2 fun s read => ?_
  have known : readStamp "2026-09-29T08:00:00.123+08:00".toList =
      some ⟨2026, 9, 29, 8, 0, 0, .offset 1 8 (some 0)⟩ := by decide +kernel
  rw [known] at read
  cases read
  refine ⟨⟨by decide, ?_⟩, ?_⟩
  · rintro m ⟨⟩
    decide
  · rintro offset ⟨⟩
    decide

/-- A login that expires in `u64::MAX` seconds, a token that does, and a message
of the year `i64::MAX`. -/
theorem answers_overflow :
    start .unix true (fun url _ => some url) 1
        ⟨"code", "user", "page", 18446744073709551615, 5⟩ 0 ⟨1, none⟩ = .error .overflow ∧
      accessTokenFrom .unix (fun _ => some (.object [("aud",
      .string "ppvpn")])) "ppvpn" "a.b.c".toList
        (some 18446744073709551615) 0 none = .error .overflow ∧
      parseRfc3339 "9223372036854775807-01-01T00:00:00Z".toList = .error .overflow ∧
      ¬ ∀ value s, readStamp value = some s →
        daysFromCivil s.year s.month s.day ≠ .error .overflow := by
  refine ⟨by decide +kernel, by decide +kernel, by decide +kernel, fun always => ?_⟩
  have read : readStamp "9223372036854775807-01-01T00:00:00Z".toList =
      some ⟨9223372036854775807, 1, 1, 0, 0, 0, .utc⟩ := by decide +kernel
  exact always _ _ read (by decide +kernel)

end Answers

end PpvpnCore.Desktop
