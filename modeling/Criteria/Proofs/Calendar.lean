/-
The date of a day is a date of the calendar, and has the number of that day.

Four hundred years are four centuries, a century is twenty-five cycles of four years, and
a cycle is four years; the last of each is a day longer or shorter than the others.  Where
a day falls in these is found by division with remainder, and the one formula for its year
is checked against that.

The other way round a date has a day of its own, for it says which year that begins with March
it belongs to, and which day of that year it is.  So days and dates follow one another in step,
and the date of a day is the one that is come to when that many days are counted off on the
calendar.
-/
import Criteria.Calendar
import Mathlib.Data.Int.Init

namespace Criteria.Calendar

/-! ### The year of a day -/

/-- Day `d` of four hundred years is day `t` of year `k` in cycle `q` of century `c`. -/
structure Falls (d c q k t : Nat) : Prop where
  century : c ≤ 3
  cycle : q ≤ 24
  year : k ≤ 3
  /-- a year has a last day more at the end of a cycle, but not of every century -/
  day : t < 365 ∨ (t = 365 ∧ k = 3 ∧ (q < 24 ∨ c = 3))
  eq : d = 36524 * c + 1461 * q + 365 * k + t

private theorem exists_falls {d : Nat} (hd : d < 146097) : ∃ c q k t, Falls d c q k t := by
  have hcentury : ∃ c r, c ≤ 3 ∧ d = 36524 * c + r ∧ (r < 36524 ∨ (c = 3 ∧ r = 36524)) :=
    ⟨min (d / 36524) 3, d - 36524 * min (d / 36524) 3, by omega, by omega, by omega⟩
  obtain ⟨c, r, hc, rfl, hr⟩ := hcentury
  have hcycle : ∃ q s, r = 1461 * q + s ∧ s < 1461 := ⟨r / 1461, r % 1461, by omega, by omega⟩
  obtain ⟨q, s, rfl, hs⟩ := hcycle
  have hyear : ∃ k t, k ≤ 3 ∧ s = 365 * k + t ∧ (t < 365 ∨ (k = 3 ∧ t = 365)) :=
    ⟨min (s / 365) 3, s - 365 * min (s / 365) 3, by omega, by omega, by omega⟩
  obtain ⟨k, t, hk, rfl, ht⟩ := hyear
  have hq : q ≤ 24 := by omega
  refine ⟨c, q, k, t, hc, hq, hk, ?_, by omega⟩
  rcases ht with ht | ⟨rfl, rfl⟩
  · exact Or.inl ht
  · refine Or.inr ⟨rfl, rfl, ?_⟩
    omega

namespace Falls

variable {d c q k t : Nat}

private theorem day_le (h : Falls d c q k t) : t ≤ 365 := by
  have := h.day
  omega

/-- The last day of four hundred years would begin a fifth century. -/
private theorem div_century (h : Falls d c q k t) : d / 36524 = c + d / 146096 := by
  obtain ⟨hc, hq, hk, hday, hd⟩ := h
  have hrest : 1461 * q + 365 * k + t < 36524 ∨
      (1461 * q + 365 * k + t = 36524 ∧ c = 3) := by omega
  rcases hrest with hrest | ⟨hrest, rfl⟩
  · have hquot : d / 36524 = c := by
      rw [Nat.div_eq_iff (by decide)]
      omega
    have hzero : d / 146096 = 0 := Nat.div_eq_of_lt (by omega)
    rw [hquot, hzero, Nat.add_zero]
  · obtain rfl : d = 146096 := by omega
    rfl

/-- Cycles of 1460 days run ahead of the calendar by one at most, and at the last day of
a cycle they do. -/
private theorem div_cycle (h : Falls d c q k t) :
    ∃ b, d / 1460 = 25 * c + q + b ∧ b ≤ t ∧ t ≤ b + 364 := by
  obtain ⟨hc, hq, hk, hday, hd⟩ := h
  have hquot : d / 1460 = 25 * c + q + (24 * c + q + 365 * k + t) / 1460 := by
    rw [show d = 1460 * (25 * c + q) + (24 * c + q + 365 * k + t) by omega,
      Nat.mul_add_div (by decide)]
  have hlt : (24 * c + q + 365 * k + t) / 1460 < 2 := Nat.div_lt_of_lt_mul (by omega)
  refine ⟨(24 * c + q + 365 * k + t) / 1460, hquot, ?_, ?_⟩
  · cases t with
    | zero => exact Nat.le_of_eq (Nat.div_eq_of_lt (by omega))
    | succ t => omega
  · rcases hday with hday | ⟨rfl, rfl, _⟩
    · omega
    · have : 1 ≤ (24 * c + q + 365 * 3 + 365) / 1460 :=
        (Nat.le_div_iff_mul_le (by decide)).mpr (by omega)
      omega

/-- The formula for the year finds the year. -/
theorem yearOfEra (h : Falls d c q k t) :
    (d - d / 1460 + d / 36524 - d / 146096) / 365 = 100 * c + 4 * q + k := by
  obtain ⟨b, hcycle, hle, hday⟩ := h.div_cycle
  have hcentury := h.div_century
  have hd := h.eq
  have hdays : d - d / 1460 + d / 36524 - d / 146096 =
      365 * (100 * c + 4 * q + k) + (t - b) := by
    rw [hcentury, hcycle]
    omega
  rw [hdays, Nat.mul_add_div (by decide), Nat.div_eq_of_lt (by omega), Nat.add_zero]

/-- What is left of a day once the years before its own are gone. -/
theorem dayOfYear (h : Falls d c q k t) :
    d - (365 * (100 * c + 4 * q + k) + (100 * c + 4 * q + k) / 4 -
      (100 * c + 4 * q + k) / 100) = t := by
  obtain ⟨hc, hq, hk, -, hd⟩ := h
  have hfour : (100 * c + 4 * q + k) / 4 = 25 * c + q := by omega
  have hhundred : (100 * c + 4 * q + k) / 100 = c := by omega
  rw [hfour, hhundred]
  omega

/-- A year with a last day more ends in a leap day. -/
theorem isLeap (h : Falls d c q k t) (ht : t = 365) (era : Int) :
    isLeap (era * 400 + ((100 * c + 4 * q + k : Nat) : Int) + 1) = true := by
  obtain ⟨hc, hq, hk, hday, -⟩ := h
  rcases hday with hday | ⟨-, rfl, hcycle⟩
  · omega
  · have hfour : (era * 400 + ((100 * c + 4 * q + 3 : Nat) : Int) + 1) % 4 = 0 := by omega
    have hlong : (era * 400 + ((100 * c + 4 * q + 3 : Nat) : Int) + 1) % 100 ≠ 0 ∨
        (era * 400 + ((100 * c + 4 * q + 3 : Nat) : Int) + 1) % 400 = 0 := by omega
    simp only [Calendar.isLeap, hfour, Bool.and_eq_true, Bool.or_eq_true, bne_iff_ne,
      beq_iff_eq]
    exact ⟨trivial, hlong⟩

end Falls

/-! ### Month and day -/

/-- The month of a day of a year that begins with March. -/
def monthOfYearDay (t : Nat) : Nat :=
  if (5 * t + 2) / 153 < 10 then (5 * t + 2) / 153 + 3 else (5 * t + 2) / 153 - 9

/-- The day of the month. -/
def dayOfYearDay (t : Nat) : Nat := t - daysBeforeMonth ((5 * t + 2) / 153) + 1

/-- Month and day say which day of the year it is, and only the last day needs a leap
year. -/
theorem month_day_spec {t : Nat} (ht : t ≤ 365) :
    (1 ≤ monthOfYearDay t ∧ monthOfYearDay t ≤ 12) ∧
      (1 ≤ dayOfYearDay t ∧ dayOfYearDay t ≤ monthLength 2000 (monthOfYearDay t)) ∧
      (t ≠ 365 → dayOfYearDay t ≤ monthLength 2001 (monthOfYearDay t)) ∧
      (monthOfYearDay t ≤ 2 ↔ 306 ≤ t) ∧
      daysBeforeMonth ((monthOfYearDay t + 9) % 12) + (dayOfYearDay t - 1) = t := by
  have htable : ∀ t < 366,
      (1 ≤ monthOfYearDay t ∧ monthOfYearDay t ≤ 12) ∧
        (1 ≤ dayOfYearDay t ∧ dayOfYearDay t ≤ monthLength 2000 (monthOfYearDay t)) ∧
        (t ≠ 365 → dayOfYearDay t ≤ monthLength 2001 (monthOfYearDay t)) ∧
        (monthOfYearDay t ≤ 2 ↔ 306 ≤ t) ∧
        daysBeforeMonth ((monthOfYearDay t + 9) % 12) + (dayOfYearDay t - 1) = t := by
    decide +kernel
  exact htable t (by omega)

theorem monthLength_of_isLeap {year : Int} (h : isLeap year = true) (month : Nat) :
    monthLength year month = monthLength 2000 month := by
  simp only [monthLength, h]
  rfl

private theorem monthLength_le (year : Int) (month : Nat) :
    monthLength 2001 month ≤ monthLength year month := by
  cases h : isLeap year with
  | true =>
      simp only [monthLength, h]
      split <;> decide
  | false =>
      simp only [monthLength, h]
      exact Nat.le_refl _

/-- No month is longer than thirty-one days. -/
theorem monthLength_le_max (year : Int) (month : Nat) : monthLength year month ≤ 31 := by
  unfold monthLength
  split
  · split <;> decide
  all_goals decide

/-! ### Days and dates -/

/-- The days before the year that begins with March of a year. -/
def daysBeforeYear (year : Int) : Int :=
  365 * year + year / 4 - year / 100 + year / 400 - epochDay

/-- A day is some day of a year that begins with March, and its date says which. -/
structure InYear (n year : Int) (t : Nat) : Prop where
  day : t ≤ 365
  leap : t = 365 → isLeap (year + 1) = true
  eq : n = daysBeforeYear year + t
  date : ofDayNumber n =
    ⟨year + (if monthOfYearDay t ≤ 2 then 1 else 0), monthOfYearDay t, dayOfYearDay t⟩

theorem exists_inYear (n : Int) : ∃ year t, InYear n year t := by
  obtain ⟨c, q, k, t, h⟩ : ∃ c q k t, Falls ((n + epochDay) % 146097).toNat c q k t :=
    exists_falls (by omega)
  refine ⟨(n + epochDay) / 146097 * 400 + ((100 * c + 4 * q + k : Nat) : Int), t, h.day_le,
    fun ht => h.isLeap ht _, ?_, ?_⟩
  · have hera : (n + epochDay) / 146097 * 146097 +
        (((n + epochDay) % 146097).toNat : Int) = n + epochDay := by omega
    obtain ⟨hc, hq, hk, -, hd⟩ := h
    generalize (n + epochDay) / 146097 = era at hera ⊢
    generalize ((n + epochDay) % 146097).toNat = d at hera hd
    have hfour : (era * 400 + ((100 * c + 4 * q + k : Nat) : Int)) / 4 =
        era * 100 + 25 * c + q := by omega
    have hhundred : (era * 400 + ((100 * c + 4 * q + k : Nat) : Int)) / 100 =
        era * 4 + c := by omega
    have hmost : (era * 400 + ((100 * c + 4 * q + k : Nat) : Int)) / 400 = era := by omega
    rw [daysBeforeYear, hfour, hhundred, hmost]
    omega
  · simp only [ofDayNumber, h.yearOfEra, h.dayOfYear]
    rfl

/-- The date of a day has that day's number. -/
theorem dayNumber_ofDayNumber (n : Int) : dayNumber (ofDayNumber n) = n := by
  obtain ⟨year, t, h⟩ := exists_inYear n
  obtain ⟨-, -, -, -, hday⟩ := month_day_spec h.day
  have hyear : (if monthOfYearDay t ≤ 2 then
      year + (if monthOfYearDay t ≤ 2 then 1 else 0) - 1
      else year + (if monthOfYearDay t ≤ 2 then 1 else 0)) = year := by
    split <;> omega
  rw [h.date, h.eq]
  simp only [dayNumber, daysBeforeYear, hyear, hday]
  omega

/-- The date of a day is one that the calendar has. -/
theorem isReal_ofDayNumber (n : Int) : (ofDayNumber n).isReal = true := by
  obtain ⟨year, t, h⟩ := exists_inYear n
  obtain ⟨⟨hfirst, hlast⟩, ⟨hday, hlong⟩, hshort, hmonth, -⟩ := month_day_spec h.day
  rw [h.date]
  simp only [Date.isReal, Bool.and_eq_true, decide_eq_true_eq]
  refine ⟨⟨⟨hfirst, hlast⟩, hday⟩, ?_⟩
  by_cases ht : t = 365
  · rw [if_pos (hmonth.mpr (by omega)), monthLength_of_isLeap (h.leap ht)]
    exact hlong
  · exact Nat.le_trans (hshort ht) (monthLength_le _ _)

/-- The days from the first to the last are those with a date in the years that may be
written. -/
theorem year_ofDayNumber_iff (n : Int) :
    (firstYear ≤ (ofDayNumber n).year ∧ (ofDayNumber n).year ≤ lastYear) ↔
      dayNumber ⟨firstYear, 1, 1⟩ ≤ n ∧ n ≤ dayNumber ⟨lastYear, 12, 31⟩ := by
  obtain ⟨year, t, h⟩ := exists_inYear n
  have hmonth := (month_day_spec h.day).2.2.2.1
  have hn := h.eq
  have hday := h.day
  rw [h.date, show dayNumber ⟨firstYear, 1, 1⟩ = -96465292 from rfl,
    show dayNumber ⟨lastYear, 12, 31⟩ = 95026236 from rfl]
  show -262143 ≤ year + _ ∧ year + _ ≤ 262142 ↔ _
  simp only [daysBeforeYear, epochDay] at hn
  -- the years at either end begin before the first day, or end after the last one
  split
  · have hlast : year = 262142 → 95026236 < n := by omega
    omega
  · have hfirst : year = -262144 → n < -96465292 := by omega
    omega

/-! ### Dates by their days -/

/-- The number of a day within its year, which begins with March. -/
def dayFromMarch (month day : Nat) : Nat := daysBeforeMonth ((month + 9) % 12) + (day - 1)

/-- The year that begins with March and that a month belongs to. -/
def yearFromMarch (year : Int) (month : Nat) : Int := if month ≤ 2 then year - 1 else year

theorem dayNumber_eq (year : Int) (month day : Nat) :
    dayNumber ⟨year, month, day⟩ =
      daysBeforeYear (yearFromMarch year month) + dayFromMarch month day := by
  simp only [dayNumber, daysBeforeYear, yearFromMarch, dayFromMarch]
  omega

theorem isReal_iff {year : Int} {month day : Nat} : Date.isReal ⟨year, month, day⟩ = true ↔
    (1 ≤ month ∧ month ≤ 12) ∧ 1 ≤ day ∧ day ≤ monthLength year month := by
  simp only [Date.isReal, Bool.and_eq_true, decide_eq_true_eq]
  omega

theorem isLeap_iff (year : Int) :
    isLeap year = true ↔ year % 4 = 0 ∧ (year % 100 ≠ 0 ∨ year % 400 = 0) := by
  simp [isLeap]

theorem daysBeforeYear_succ (year : Int) :
    daysBeforeYear (year + 1) =
      daysBeforeYear year + (if isLeap (year + 1) = true then 366 else 365) := by
  have hleap := isLeap_iff (year + 1)
  simp only [daysBeforeYear]
  split
  · next hlong =>
    have hdivides := hleap.mp hlong
    omega
  · next hshort =>
    have hdivides := mt hleap.mpr hshort
    omega

private theorem daysBeforeYear_mono {y z : Int} (h : y ≤ z) :
    daysBeforeYear y ≤ daysBeforeYear z := by
  simp only [daysBeforeYear]
  omega

private theorem daysBeforeYear_lt {y z : Int} {t u : Nat} (h : y < z) (ht : t ≤ 365)
    (hleap : t = 365 → isLeap (y + 1) = true) :
    daysBeforeYear y + t < daysBeforeYear z + u := by
  have hsucc := daysBeforeYear_succ y
  have hmono := daysBeforeYear_mono (show y + 1 ≤ z by omega)
  split at hsucc
  · omega
  · next hshort =>
    have hne : t ≠ 365 := fun h => hshort (hleap h)
    omega

private theorem monthLength_of_ne {month : Nat} (h : month ≠ 2) (year : Int) :
    monthLength year month = monthLength 2000 month := by
  unfold monthLength
  split
  · exact absurd rfl h
  all_goals rfl

/-- Month and day are found again from the day of the year, and the last one is a leap day. -/
theorem dayFromMarch_spec {month day : Nat} (hm : 1 ≤ month ∧ month ≤ 12)
    (hd : 1 ≤ day ∧ day ≤ monthLength 2000 month) :
    (monthOfYearDay (dayFromMarch month day) = month ∧
      dayOfYearDay (dayFromMarch month day) = day) ∧
      (dayFromMarch month day < 365 ∨ month = 2 ∧ day = 29) := by
  have htable : ∀ month < 13, ∀ day < 32,
      1 ≤ month ∧ 1 ≤ day ∧ day ≤ monthLength 2000 month →
      (monthOfYearDay (dayFromMarch month day) = month ∧
        dayOfYearDay (dayFromMarch month day) = day) ∧
        (dayFromMarch month day < 365 ∨ month = 2 ∧ day = 29) := by
    decide +kernel
  have hmost : ∀ month < 13, monthLength 2000 month ≤ 31 := by decide
  have hday := hmost month (by omega)
  exact htable month (by omega) day (by omega) ⟨hm.1, hd⟩

/-- The day that a date of the calendar has in its year. -/
theorem dayFromMarch_of_isReal {year : Int} {month day : Nat}
    (h : Date.isReal ⟨year, month, day⟩ = true) :
    dayFromMarch month day ≤ 365 ∧
      (dayFromMarch month day = 365 → isLeap (yearFromMarch year month + 1) = true) ∧
      monthOfYearDay (dayFromMarch month day) = month ∧
      dayOfYearDay (dayFromMarch month day) = day := by
  obtain ⟨hm, hd, hd'⟩ := isReal_iff.mp h
  have hlong : monthLength year month ≤ monthLength 2000 month := by
    by_cases hleap : isLeap year = true
    · exact Nat.le_of_eq (monthLength_of_isLeap hleap month)
    · by_cases htwo : month = 2
      · rw [htwo, monthLength, if_neg hleap]
        decide
      · exact Nat.le_of_eq (monthLength_of_ne htwo year)
  obtain ⟨⟨hmonth, hday⟩, hlast⟩ := dayFromMarch_spec hm ⟨hd, Nat.le_trans hd' hlong⟩
  rcases hlast with hlt | ⟨rfl, rfl⟩
  · exact ⟨Nat.le_of_lt hlt, fun heq => absurd heq (Nat.ne_of_lt hlt), hmonth, hday⟩
  · refine ⟨by decide, fun _ => ?_, hmonth, hday⟩
    rw [yearFromMarch, if_pos (Nat.le_refl 2), Int.sub_add_cancel]
    cases hyear : isLeap year with
    | true => rfl
    | false =>
        rw [monthLength, hyear] at hd'
        exact absurd hd' (by decide)

/-- The days of the years that four digits can write. -/
theorem dayNumber_bounds {d : Date} (h : d.isReal = true) (hfirst : 0 ≤ d.year)
    (hlast : d.year ≤ 9999) : -719528 ≤ dayNumber d ∧ dayNumber d ≤ 2932896 := by
  obtain ⟨year, month, day⟩ := d
  obtain ⟨hday, -, hmonth, -⟩ := dayFromMarch_of_isReal h
  have hlate := (month_day_spec hday).2.2.2.1
  rw [hmonth] at hlate
  simp only at hfirst hlast
  rw [dayNumber_eq]
  simp only [daysBeforeYear, yearFromMarch, epochDay]
  split
  · omega
  · omega

/-- A date of the calendar is the date of the day that it numbers. -/
theorem ofDayNumber_dayNumber {d : Date} (h : d.isReal = true) :
    ofDayNumber (dayNumber d) = d := by
  obtain ⟨year, month, day⟩ := d
  obtain ⟨hday, hleap, hmonth, hdayOfMonth⟩ := dayFromMarch_of_isReal h
  obtain ⟨y, t, hin⟩ := exists_inYear (dayNumber ⟨year, month, day⟩)
  have heq := hin.eq
  rw [dayNumber_eq] at heq
  -- A day falls in one year only, since any other begins after it or ends before it.
  have hyear : y = yearFromMarch year month := by
    rcases Int.lt_trichotomy y (yearFromMarch year month) with hlt | heq | hgt
    · have hbefore := daysBeforeYear_lt (u := dayFromMarch month day) hlt hin.day hin.leap
      omega
    · exact heq
    · have hafter := daysBeforeYear_lt (u := t) hgt hday hleap
      omega
  subst hyear
  obtain rfl : t = dayFromMarch month day := by omega
  rw [hin.date, hmonth, hdayOfMonth, yearFromMarch]
  simp only [Date.mk.injEq, and_true]
  split <;> omega

/-! ### One day after another -/

/-- The day after a date: in its month, or the first of the next month, or of the next year. -/
def Date.next : Date → Date
  | ⟨year, month, day⟩ =>
    if day < monthLength year month then ⟨year, month, day + 1⟩
    else if month < 12 then ⟨year, month + 1, 1⟩
    else ⟨year + 1, 1, 1⟩

private theorem one_le_monthLength (year : Int) (month : Nat) : 1 ≤ monthLength year month := by
  unfold monthLength
  split
  · split <;> decide
  all_goals decide

theorem isReal_next {d : Date} (h : d.isReal = true) : d.next.isReal = true := by
  obtain ⟨year, month, day⟩ := d
  obtain ⟨hm, hd, hd'⟩ := isReal_iff.mp h
  rw [Date.next]
  split
  · next hlt => exact isReal_iff.mpr ⟨hm, by omega, hlt⟩
  · split
    · exact isReal_iff.mpr ⟨by omega, Nat.le_refl 1, one_le_monthLength ..⟩
    · exact isReal_iff.mpr ⟨by omega, Nat.le_refl 1, one_le_monthLength ..⟩

/-- A month begins when the one before it is over, and March a year of its own. -/
theorem dayNumber_next_month {month : Nat} (hm : 1 ≤ month) (hm' : month < 12) (year : Int) :
    dayNumber ⟨year, month + 1, 1⟩ = dayNumber ⟨year, month, monthLength year month⟩ + 1 := by
  rw [dayNumber_eq, dayNumber_eq]
  by_cases htwo : month = 2
  · subst htwo
    have hsucc := daysBeforeYear_succ (year - 1)
    rw [Int.sub_add_cancel] at hsucc
    show daysBeforeYear year + 0 =
      daysBeforeYear (year - 1) + (337 + (monthLength year 2 - 1) : Nat) + 1
    rw [monthLength]
    split at hsucc
    · next hleap =>
      rw [if_pos hleap]
      omega
    · next hleap =>
      rw [if_neg hleap]
      omega
  · have htable : ∀ month < 12, 1 ≤ month ∧ month ≠ 2 →
        dayFromMarch (month + 1) 1 = dayFromMarch month (monthLength 2000 month) + 1 := by
      decide
    have hyear : yearFromMarch year (month + 1) = yearFromMarch year month := by
      unfold yearFromMarch
      split <;> split <;> omega
    rw [hyear, monthLength_of_ne htwo, htable month hm' ⟨hm, htwo⟩]
    omega

/-- The day after a date has the next number. -/
theorem dayNumber_next {d : Date} (h : d.isReal = true) :
    dayNumber d.next = dayNumber d + 1 := by
  obtain ⟨year, month, day⟩ := d
  obtain ⟨hm, hd, hd'⟩ := isReal_iff.mp h
  rw [Date.next]
  split
  · rw [dayNumber_eq, dayNumber_eq, dayFromMarch, dayFromMarch]
    omega
  · next hlast =>
    obtain rfl : day = monthLength year month := by omega
    split
    · next hmonth => exact dayNumber_next_month hm.1 hmonth year
    · next hmonth =>
      obtain rfl : month = 12 := by omega
      rw [dayNumber_eq, dayNumber_eq]
      show daysBeforeYear (year + 1 - 1) + 306 = daysBeforeYear year + 305 + 1
      rw [Int.add_sub_cancel]
      omega

/-- The date of the next day is the day after. -/
theorem ofDayNumber_succ (n : Int) : ofDayNumber (n + 1) = (ofDayNumber n).next := by
  have hreal := isReal_ofDayNumber n
  calc
    ofDayNumber (n + 1) = ofDayNumber (dayNumber (ofDayNumber n) + 1) := by
      rw [dayNumber_ofDayNumber]
    _ = ofDayNumber (dayNumber (ofDayNumber n).next) := by rw [dayNumber_next hreal]
    _ = (ofDayNumber n).next := ofDayNumber_dayNumber (isReal_next hreal)

/-- A date is so many days after 1 January 1970, the days being counted off on the calendar:
forward from one date to the next, or back. -/
inductive Counted : Int → Date → Prop where
  | epoch : Counted 0 ⟨1970, 1, 1⟩
  | forth {n : Int} {d : Date} (h : Counted n d) : Counted (n + 1) d.next
  | back {n : Int} {d : Date} (hd : d.isReal = true) (h : Counted (n + 1) d.next) : Counted n d

/-- Counting comes to the date that the number of a day gives, and to no other. -/
theorem counted_iff {n : Int} {d : Date} : Counted n d ↔ ofDayNumber n = d := by
  constructor
  · intro h
    induction h with
    | epoch => rfl
    | forth _ ih => rw [ofDayNumber_succ, ih]
    | @back n d hd _ ih =>
        have hnext := congrArg dayNumber ih
        rw [dayNumber_ofDayNumber, dayNumber_next hd] at hnext
        have hn : n = dayNumber d := by omega
        rw [hn, ofDayNumber_dayNumber hd]
  · rintro rfl
    induction n using Int.induction_on with
    | zero => exact .epoch
    | succ n ih =>
        rw [ofDayNumber_succ]
        exact .forth ih
    | pred n ih =>
        refine .back (isReal_ofDayNumber _) ?_
        rw [← ofDayNumber_succ, Int.sub_add_cancel]
        exact ih

end Criteria.Calendar
