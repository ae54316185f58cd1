/-
The forms in which timestamps are written, and what each of them denotes.

A moment is a date, a time of day and the offset of that time from UTC.  The seconds of the time
may be missing, and they may have a fraction.  A date alone, and a month, stand for the first
midnight in them, in UTC.  Every number but the fraction fills a field of its own.

What a text of such a form denotes is said by counting: the days from 1 January 1970 to the date,
counted on the calendar, the time since midnight, and the offset taken off.  A text is read as
just that, or refused where its date is none of the calendar or its time or offset is out of
bounds.
-/
import Criteria.Proofs.Instant

namespace Criteria.Timestamp

open Criteria.Text

/-! ### Forms -/

/-- The offset of a local time from UTC, as it is written. -/
inductive Zone where
  | utc
  | shifted (sign : Sign) (hours minutes : Numeral 2)

namespace Zone

/-- How an offset is written. -/
def chars : Zone → List Char
  | .utc => ['Z']
  | .shifted sign hours minutes => sign.char :: (hours.digits ++ ':' :: minutes.digits)

/-- How many seconds the local time is ahead of UTC. -/
def seconds : Zone → Int
  | .utc => 0
  | .shifted sign hours minutes => sign.factor * (hours.value * 3600 + minutes.value * 60)

/-- Whether an offset has less than twenty-four hours, and less than sixty minutes. -/
def InBounds : Zone → Prop
  | .utc => True
  | .shifted _ hours minutes => hours.value < 24 ∧ minutes.value < 60

instance : (zone : Zone) → Decidable zone.InBounds
  | .utc => .isTrue trivial
  | .shifted .. => inferInstanceAs (Decidable (_ ∧ _))

end Zone

/-- The seconds of a time of day, as they are written. -/
inductive Seconds where
  | missing
  | whole (second : Numeral 2)
  | fractional (second : Numeral 2) {places : Nat} (fraction : Numeral (places + 1))

namespace Seconds

/-- How seconds are written. -/
def chars : Seconds → List Char
  | .missing => []
  | .whole second => ':' :: second.digits
  | .fractional second fraction => ':' :: (second.digits ++ '.' :: fraction.digits)

/-- The whole seconds. -/
def second : Seconds → Nat
  | .missing => 0
  | .whole second => second.value
  | .fractional second _ => second.value

/-- The first three digits of the fraction, zeros standing in for those that are missing. -/
def millis : Seconds → Nat
  | .missing => 0
  | .whole _ => 0
  | .fractional _ fraction => readDigits ((fraction.digits ++ ['0', '0', '0']).take 3)

end Seconds

/-- A text that is to denote a point in time, by its fields. -/
inductive Form where
  | moment (year : Numeral 4) (month day hour minute : Numeral 2) (seconds : Seconds) (zone : Zone)
  | day (year : Numeral 4) (month day : Numeral 2)
  | month (year : Numeral 4) (month : Numeral 2)

namespace Form

/-- How a form is written. -/
def chars : Form → List Char
  | .moment y m d hour minute seconds zone =>
    y.digits ++ '-' :: (m.digits ++ '-' :: (d.digits ++ 'T' :: (hour.digits ++
      ':' :: (minute.digits ++ seconds.chars)))) ++ zone.chars
  | .day y m d => y.digits ++ '-' :: (m.digits ++ '-' :: d.digits)
  | .month y m => y.digits ++ '-' :: m.digits

def text (f : Form) : String := String.ofList f.chars

/-- The date that is written, or the first of the month. -/
def date : Form → Calendar.Date
  | .moment y m d _ _ _ _ => ⟨y.value, m.value, d.value⟩
  | .day y m d => ⟨y.value, m.value, d.value⟩
  | .month y m => ⟨y.value, m.value, 1⟩

/-- Whether time and offset are within bounds.  A minute may have a second 60. -/
def InBounds : Form → Prop
  | .moment _ _ _ hour minute seconds zone =>
    hour.value < 24 ∧ minute.value < 60 ∧ seconds.second ≤ 60 ∧ zone.InBounds
  | .day .. => True
  | .month .. => True

instance : (f : Form) → Decidable f.InBounds
  | .moment .. => inferInstanceAs (Decidable (_ ∧ _))
  | .day .. => .isTrue trivial
  | .month .. => .isTrue trivial

/-- Whether a form denotes a point in time: its date is one of the calendar, and time and offset
are within bounds. -/
def Denotes (f : Form) : Prop := f.date.isReal = true ∧ f.InBounds

instance (f : Form) : Decidable f.Denotes := inferInstanceAs (Decidable (_ ∧ _))

/-- The milliseconds from midnight UTC of the date to the point in time. -/
def millisFromMidnight : Form → Int
  | .moment _ _ _ hour minute seconds zone =>
    (hour.value * 3600 + minute.value * 60 + seconds.second - zone.seconds) * 1000 + seconds.millis
  | .day .. => 0
  | .month .. => 0

end Form

/-! ### Dates -/

theorem dateOf?_year (y : Numeral 4) (m d : Nat) :
    Calendar.Date.of? y.value m d =
      if Calendar.Date.isReal ⟨y.value, m, d⟩ = true then some ⟨y.value, m, d⟩ else none := by
  have hyear := y.value_lt
  have hfirst : Calendar.firstYear ≤ (y.value : Int) := by
    show -262143 ≤ (y.value : Int)
    omega
  have hlast : (y.value : Int) ≤ Calendar.lastYear := by
    show (y.value : Int) ≤ 262142
    omega
  simp only [Calendar.Date.of?, hfirst, hlast, decide_true, Bool.and_true]

/-- A date in figures is read if the calendar has it. -/
theorem readDate_digits (y : Numeral 4) (m d : Numeral 2) (rest : List Char) :
    readDate (y.digits ++ '-' :: (m.digits ++ '-' :: (d.digits ++ rest))) =
      if Calendar.Date.isReal ⟨y.value, m.value, d.value⟩ = true then
        some (⟨y.value, m.value, d.value⟩, rest) else none := by
  have hreal : Calendar.Date.isReal ⟨y.value, m.value, d.value⟩ = true →
      (1 ≤ m.value ∧ m.value ≤ 12) ∧ 1 ≤ d.value ∧ d.value ≤ 31 := by
    intro h
    obtain ⟨hm, hd, hd'⟩ := Calendar.isReal_iff.mp h
    exact ⟨hm, hd, Nat.le_trans hd' (Calendar.monthLength_le_max _ _)⟩
  simp only [readDate, year_numeral, Option.bind_eq_bind, Option.bind_some, expect_cons,
    field_numeral]
  by_cases hm : 1 ≤ m.value ∧ m.value ≤ 12
  · by_cases hd : 1 ≤ d.value ∧ d.value ≤ 31
    · simp only [if_pos hm, if_pos hd, Option.bind_some, expect_cons, field_numeral, dateOf?_year]
      split
      · rfl
      · rfl
    · rw [if_neg (fun h => hd (hreal h).2)]
      simp only [if_pos hm, if_neg hd, Option.bind_some, expect_cons, field_numeral,
        Option.bind_none]
  · rw [if_neg (fun h => hm (hreal h).1), if_neg hm, Option.bind_none]

/-! ### Times of day -/

/-- The nanoseconds that are read of a fraction. -/
def Seconds.nanos : Seconds → Nat
  | .missing => 0
  | .whole _ => 0
  | .fractional _ fraction => fractionNanos (fraction.digits.take 9)

/-- The time of day that is read.  A second 60 is a second more of the one before. -/
def clockOf (hour minute : Numeral 2) (seconds : Seconds) : Clock where
  second := hour.value * 3600 + minute.value * 60 + min seconds.second 59
  nano := (seconds.second - 59) * 1000000000 + seconds.nanos

theorem readSeconds_chars (start : Nat) (seconds : Seconds) :
    readSeconds start seconds.chars =
      if seconds.second ≤ 60 then
        some (⟨start + min seconds.second 59,
          (seconds.second - 59) * 1000000000 + seconds.nanos⟩, [])
      else none := by
  cases seconds with
  | missing => rfl
  | whole second =>
      have hread := readSeconds_numeral start second (show readFraction [] = some (0, []) from rfl)
      rw [List.append_nil] at hread
      exact hread
  | fractional second fraction =>
      exact readSeconds_numeral start second
        (readFraction_digits fraction.digits_ne_nil fraction.isDigit)

/-- A time of day in figures is read if it is within bounds. -/
theorem readClock_digits (hour minute : Numeral 2) (seconds : Seconds) :
    readClock (hour.digits ++ ':' :: (minute.digits ++ seconds.chars)) =
      if hour.value < 24 ∧ minute.value < 60 ∧ seconds.second ≤ 60 then
        some (clockOf hour minute seconds, []) else none := by
  rw [readClock_eq, readSeconds_chars]
  by_cases hclock : hour.value < 24 ∧ minute.value < 60
  · simp only [hclock.1, hclock.2, true_and]
    rfl
  · rw [if_neg hclock, if_neg (fun hall => hclock ⟨hall.1, hall.2.1⟩)]

/-! ### Offsets -/

/-- An offset in figures is read if it is within bounds. -/
theorem readOffset_digits (sign : Sign) (hours minutes : Numeral 2) :
    readOffset (offsetChars sign (.plain hours) (.plain minutes)) =
      if (Zone.shifted sign hours minutes).InBounds then
        some (Zone.shifted sign hours minutes).seconds else none := by
  have hbounds : ((minutes.value : Int) < 60 ∧
      -dayLength < sign.factor * ((hours.value : Int) * 3600 + (minutes.value : Int) * 60) ∧
      sign.factor * ((hours.value : Int) * 3600 + (minutes.value : Int) * 60) < dayLength) ↔
      (Zone.shifted sign hours minutes).InBounds := by
    simp only [dayLength, Zone.InBounds]
    cases sign with
    | plus =>
        simp only [Sign.factor]
        omega
    | minus =>
        simp only [Sign.factor]
        omega
  rw [readOffset_places]
  simp only [Places.value, hbounds, Zone.seconds]

theorem splitOffset_chars (s : List Char) (zone : Zone) :
    splitOffset (s ++ zone.chars) = if zone.InBounds then some (s, zone.seconds) else none := by
  cases zone with
  | utc => exact splitOffset_letter s
  | shifted sign hours minutes =>
      have hsplit := splitOffset_places s sign (.plain hours) (.plain minutes)
      rw [readOffset_digits] at hsplit
      refine hsplit.trans ?_
      by_cases hzone : (Zone.shifted sign hours minutes).InBounds
      · rw [if_pos hzone, if_pos hzone]
        rfl
      · rw [if_neg hzone, if_neg hzone]
        rfl

/-! ### Whole texts -/

private theorem readDateTime_moment (y : Numeral 4) (m d hour minute : Numeral 2)
    (seconds : Seconds) (zone : Zone) :
    readDateTime (Form.moment y m d hour minute seconds zone).chars =
      if (Form.moment y m d hour minute seconds zone).Denotes then
        Instant.at? (Calendar.dayNumber ⟨y.value, m.value, d.value⟩ * dayLength +
          (clockOf hour minute seconds).second - zone.seconds) (clockOf hour minute seconds).nano
      else none := by
  simp only [readDateTime, Form.chars, splitOffset_chars, Option.bind_eq_bind]
  by_cases hdenotes : (Form.moment y m d hour minute seconds zone).Denotes
  · obtain ⟨hdate, hhour, hminute, hsecond, hzone⟩ := hdenotes
    have hclock := And.intro hhour (And.intro hminute hsecond)
    simp only [Form.date] at hdate
    simp only [if_pos hzone, Option.bind_some, readDate_digits, if_pos hdate, expect_cons,
      readClock_digits, if_pos hclock, List.isEmpty_nil, if_true]
    exact (if_pos ⟨hdate, hhour, hminute, hsecond, hzone⟩).symm
  · rw [if_neg hdenotes]
    by_cases hzone : zone.InBounds
    · by_cases hdate : Calendar.Date.isReal ⟨y.value, m.value, d.value⟩ = true
      · have hclock : ¬ (hour.value < 24 ∧ minute.value < 60 ∧ seconds.second ≤ 60) :=
          fun hall => hdenotes ⟨hdate, hall.1, hall.2.1, hall.2.2, hzone⟩
        simp only [if_pos hzone, Option.bind_some, readDate_digits, if_pos hdate, expect_cons,
          readClock_digits, if_neg hclock, Option.bind_none]
      · simp only [if_pos hzone, Option.bind_some, readDate_digits, if_neg hdate,
          Option.bind_none]
    · simp only [if_neg hzone, Option.bind_none]

/-- A month has no second hyphen, as a date would have. -/
theorem readDate_month (y : Numeral 4) (m : Numeral 2) :
    readDate (y.digits ++ '-' :: m.digits) = none := by
  have hend : field 1 12 (m.digits ++ []) = none ∨
      ∃ n, field 1 12 (m.digits ++ []) = some (n, []) := by
    rw [field_numeral]
    split
    · exact Or.inr ⟨m.value, rfl⟩
    · exact Or.inl rfl
  rw [List.append_nil] at hend
  simp only [readDate, year_numeral, Option.bind_eq_bind, Option.bind_some, expect_cons]
  rcases hend with h | ⟨n, h⟩
  · rw [h, Option.bind_none]
  · rw [h, Option.bind_some]
    rfl

/-- A text is parted before its first hyphen. -/
theorem readMonth_eq {before rest : List Char} (h : '-' ∉ before) :
    readMonth (before ++ '-' :: rest) =
      if before.length = 4 ∧ rest.length = 2 then
        (readSigned? before).bind fun y => (readSigned? rest).bind fun m =>
          if 0 ≤ m ∧ rest.head? ≠ some '-' then Calendar.Date.of? y m.toNat 1 else none
      else none := by
  have hbefore : ∀ c ∈ before, decide (c ≠ '-') = true :=
    fun c hc => decide_eq_true (fun heq => h (heq ▸ hc))
  have hstop : Stops (fun c => decide (c ≠ '-')) ('-' :: rest) := stops_cons.mpr rfl
  simp only [readMonth, takeWhile_append_of_stops hbefore hstop,
    dropWhile_append_of_stops hbefore hstop, expect_cons, Option.bind_eq_bind, Option.bind_some]

private theorem readMonth_digits (y : Numeral 4) (m : Numeral 2) :
    readMonth (y.digits ++ '-' :: m.digits) =
      if Calendar.Date.isReal ⟨y.value, m.value, 1⟩ = true then some ⟨y.value, m.value, 1⟩
      else none := by
  have hfirst : m.digits.head? ≠ some '-' :=
    fun h => m.not_mem_digits (by decide) (List.mem_of_head? h)
  have hmonth : 0 ≤ (m.value : Int) ∧ m.digits.head? ≠ some '-' := ⟨by omega, hfirst⟩
  rw [readMonth_eq (y.not_mem_digits (by decide)), if_pos ⟨y.length_eq, m.length_eq⟩]
  simp only [readSigned?_numeral, Option.bind_some, if_pos hmonth, Int.toNat_natCast, dateOf?_year]

/-- A day has a hyphen more than a month. -/
theorem readMonth_day (y : Numeral 4) (m d : Numeral 2) :
    readMonth (y.digits ++ '-' :: (m.digits ++ '-' :: d.digits)) = none := by
  rw [readMonth_eq (y.not_mem_digits (by decide)), if_neg]
  simp [m.length_eq, d.length_eq]

private theorem readDay_day (y : Numeral 4) (m d : Numeral 2) :
    readDay (Form.day y m d).chars =
      if (Form.day y m d).Denotes then
        Instant.at? (Calendar.dayNumber ⟨y.value, m.value, d.value⟩ * dayLength) 0 else none := by
  have hread := readDate_digits y m d []
  rw [List.append_nil] at hread
  simp only [readDay, Form.chars, hread, Form.Denotes, Form.date, Form.InBounds, and_true,
    readMonth_day, Option.bind_eq_bind]
  by_cases hdate : Calendar.Date.isReal ⟨y.value, m.value, d.value⟩ = true
  · simp only [if_pos hdate, Option.bind_some]
  · simp only [if_neg hdate, Option.bind_none]

private theorem readDay_month (y : Numeral 4) (m : Numeral 2) :
    readDay (Form.month y m).chars =
      if (Form.month y m).Denotes then
        Instant.at? (Calendar.dayNumber ⟨y.value, m.value, 1⟩ * dayLength) 0 else none := by
  simp only [readDay, Form.chars, readDate_month, readMonth_digits, Form.Denotes, Form.date,
    Form.InBounds, and_true, Option.bind_eq_bind]
  by_cases hdate : Calendar.Date.isReal ⟨y.value, m.value, 1⟩ = true
  · simp only [if_pos hdate, Option.bind_some]
  · simp only [if_neg hdate, Option.bind_none]

/-- The instant that is read from a form. -/
def Form.instant? : Form → Option Instant
  | .moment y m d hour minute seconds zone =>
    Instant.at? (Calendar.dayNumber ⟨y.value, m.value, d.value⟩ * dayLength +
      (clockOf hour minute seconds).second - zone.seconds) (clockOf hour minute seconds).nano
  | .day y m d => Instant.at? (Calendar.dayNumber ⟨y.value, m.value, d.value⟩ * dayLength) 0
  | .month y m => Instant.at? (Calendar.dayNumber ⟨y.value, m.value, 1⟩ * dayLength) 0

/-- A form with a time is told from one without by the letter. -/
theorem read_chars (f : Form) :
    (if f.chars.contains 'T' = true then readDateTime f.chars else readDay f.chars) =
      if f.Denotes then f.instant? else none := by
  cases f with
  | moment y m d hour minute seconds zone =>
      have hletter : 'T' ∈ (Form.moment y m d hour minute seconds zone).chars := by
        simp [Form.chars]
      rw [if_pos (List.contains_iff_mem.mpr hletter), readDateTime_moment]
      rfl
  | day y m d =>
      have hletter : 'T' ∉ (Form.day y m d).chars := by
        simp [Form.chars, Numeral.not_mem_digits]
      rw [if_neg (mt List.contains_iff_mem.mp hletter), readDay_day]
      rfl
  | month y m =>
      have hletter : 'T' ∉ (Form.month y m).chars := by
        simp [Form.chars, Numeral.not_mem_digits]
      rw [if_neg (mt List.contains_iff_mem.mp hletter), readDay_month]
      rfl

/-! ### Milliseconds -/

private theorem Seconds.nanos_lt (seconds : Seconds) : seconds.nanos < 1000000000 := by
  cases seconds with
  | missing => exact Nat.zero_lt_succ 999999999
  | whole second => exact Nat.zero_lt_succ 999999999
  | fractional second fraction =>
      exact fractionNanos_lt (fun c hc => fraction.isDigit c (List.mem_of_mem_take hc))
        (List.length_take_le 9 _)

theorem Seconds.nanos_div (seconds : Seconds) : seconds.nanos / 1000000 = seconds.millis := by
  cases seconds with
  | missing => exact Nat.zero_div 1000000
  | whole second => exact Nat.zero_div 1000000
  | fractional second fraction => exact fractionNanos_div fraction.isDigit

/-- An offset is a number of minutes, of which a day has more. -/
theorem Zone.seconds_eq {zone : Zone} (h : zone.InBounds) :
    ∃ minutes : Int, zone.seconds = minutes * 60 ∧ -1440 < minutes ∧ minutes < 1440 := by
  cases zone with
  | utc => exact ⟨0, rfl, by decide, by decide⟩
  | shifted sign hours minutes =>
      obtain ⟨hhours, hminutes⟩ := h
      refine ⟨sign.factor * (hours.value * 60 + minutes.value), ?_⟩
      cases sign with
      | plus =>
          simp only [Zone.seconds, Sign.factor]
          omega
      | minus =>
          simp only [Zone.seconds, Sign.factor]
          omega

/-- Midnight of a date with a year of four digits. -/
theorem midnight_bounds {d : Calendar.Date} (h : d.isReal = true) (hfirst : 0 ≤ d.year)
    (hlast : d.year ≤ 9999) :
    firstSecond ≤ Calendar.dayNumber d * dayLength ∧
      Calendar.dayNumber d * dayLength ≤ lastSecond := by
  have hday := Calendar.dayNumber_bounds h hfirst hlast
  simp only [firstSecond, lastSecond, dayLength]
  omega

theorem moment_bounds {d : Calendar.Date} {hour minute : Numeral 2} {seconds : Seconds}
    {zone : Zone} (h : d.isReal = true) (hfirst : 0 ≤ d.year) (hlast : d.year ≤ 9999)
    (hhour : hour.value < 24) (hminute : minute.value < 60) (hsecond : seconds.second ≤ 60)
    (hzone : zone.InBounds) :
    (firstSecond ≤ Calendar.dayNumber d * dayLength + (clockOf hour minute seconds).second -
        zone.seconds ∧
      Calendar.dayNumber d * dayLength + (clockOf hour minute seconds).second - zone.seconds ≤
        lastSecond) ∧ (clockOf hour minute seconds).nano < 2000000000 := by
  have hday := Calendar.dayNumber_bounds h hfirst hlast
  have hnanos := seconds.nanos_lt
  obtain ⟨offset, hoffset, hbehind, hahead⟩ := Zone.seconds_eq hzone
  simp only [firstSecond, lastSecond, dayLength, clockOf, hoffset]
  omega

private theorem Form.year_bounds (f : Form) : 0 ≤ f.date.year ∧ f.date.year ≤ 9999 := by
  have hyear : ∀ y : Numeral 4, 0 ≤ (y.value : Int) ∧ (y.value : Int) ≤ 9999 := by
    intro y
    have hlt := y.value_lt
    omega
  cases f with
  | moment y => exact hyear y
  | day y => exact hyear y
  | month y => exact hyear y

/-- The milliseconds of the instant are those of its day and those from midnight. -/
theorem Form.exists_instant {f : Form} (h : f.Denotes) :
    ∃ i, f.instant? = some i ∧
      (ofInstant i).epochMillis =
        Calendar.dayNumber f.date * millisOfDay + f.millisFromMidnight := by
  obtain ⟨hdate, hbounds⟩ := h
  obtain ⟨hfirst, hlast⟩ := f.year_bounds
  cases f with
  | moment y m d hour minute seconds zone =>
      obtain ⟨hhour, hminute, hsecond, hzone⟩ := hbounds
      have hmillis := seconds.nanos_div
      refine ⟨_, dif_pos (moment_bounds hdate hfirst hlast hhour hminute hsecond hzone), ?_⟩
      simp only [epochMillis, ofInstant, clockOf, millisFromMidnight, millisOfDay, dayLength, date]
      omega
  | day y m d =>
      refine ⟨_, dif_pos ⟨midnight_bounds hdate hfirst hlast, by decide⟩, ?_⟩
      simp only [epochMillis, ofInstant, millisFromMidnight, millisOfDay, dayLength, date]
      omega
  | month y m =>
      refine ⟨_, dif_pos ⟨midnight_bounds hdate hfirst hlast, by decide⟩, ?_⟩
      simp only [epochMillis, ofInstant, millisFromMidnight, millisOfDay, dayLength, date]
      omega

/-- **A timestamp in one of the forms is read as the instant that it denotes.**  Its milliseconds
are those of the days counted off on the calendar to its date, and those from midnight, of the
fraction the first three digits, the offset taken off.  If the calendar does not have the date,
or time or offset are out of bounds, the text is refused. -/
theorem parse_form (f : Form) :
    (f.Denotes → ∃ t n, parse f.text = .ok t ∧ Calendar.Counted n f.date ∧
        t.epochMillis = n * millisOfDay + f.millisFromMidnight) ∧
      (¬ f.Denotes → parse f.text = .error (.invalidTimestamp f.text)) := by
  constructor
  · intro h
    obtain ⟨i, hinstant, hmillis⟩ := f.exists_instant h
    refine ⟨ofInstant i, Calendar.dayNumber f.date, ?_,
      Calendar.counted_iff.mpr (Calendar.ofDayNumber_dayNumber h.1), hmillis⟩
    simp only [parse, Form.text, String.toList_ofList, read_chars, if_pos h, hinstant]
  · intro h
    simp only [parse, Form.text, String.toList_ofList, read_chars, if_neg h]

/-- A moment of a leap day, so far behind UTC that there it falls on the day after. -/
def leapDay : Form :=
  .moment (.padded 2000 (by decide)) (.padded 2 (by decide)) (.padded 29 (by decide))
    (.padded 23 (by decide)) (.padded 59 (by decide))
    (.fractional (.padded 59 (by decide)) (.padded 9999 (by decide) : Numeral (3 + 1)))
    (.shifted .minus (.padded 23 (by decide)) (.padded 59 (by decide)))

/-- A day that a full century does not have. -/
def noLeapDay : Form :=
  .day (.padded 1900 (by decide)) (.padded 2 (by decide)) (.padded 29 (by decide))

/-- The offset adds nearly a day, and of four digits three are read. -/
theorem parse_form_leapDay :
    leapDay.text = "2000-02-29T23:59:59.9999-23:59" ∧ leapDay.Denotes ∧
      (∃ t n, parse leapDay.text = .ok t ∧ Calendar.Counted n ⟨2000, 2, 29⟩ ∧
        t.epochMillis = n * millisOfDay + 172739999) ∧
      noLeapDay.text = "1900-02-29" ∧ ¬ noLeapDay.Denotes ∧
      parse noLeapDay.text = .error (.invalidTimestamp "1900-02-29") := by
  have hdenotes : leapDay.Denotes := by decide
  have hrefused : ¬ noLeapDay.Denotes := by decide
  have hmillis : leapDay.millisFromMidnight = 172739999 := by decide
  obtain ⟨t, n, hread, hcounted, hepoch⟩ := (parse_form leapDay).1 hdenotes
  rw [hmillis] at hepoch
  exact ⟨rfl, hdenotes, ⟨t, n, hread, hcounted, hepoch⟩, rfl, hrefused,
    (parse_form noLeapDay).2 hrefused⟩

end Criteria.Timestamp
