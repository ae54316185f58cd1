/-
The Gregorian calendar, carried on in both directions without end.

A date and the number of its day, counted from 1 January 1970, say the same thing.
Both directions count years from 1 March: the leap day is then the last day of its
year, and the lengths of the months follow one line, 153 days to five months.  Four
hundred years have 146097 days.
-/
namespace Criteria.Calendar

/-- A day by its year, month and day of the month. -/
structure Date where
  year : Int
  month : Nat
  day : Nat
deriving DecidableEq, Repr

/-- Every fourth year, of the full centuries every fourth one. -/
def isLeap (year : Int) : Bool :=
  year % 4 == 0 && (year % 100 != 0 || year % 400 == 0)

def monthLength (year : Int) : Nat → Nat
  | 2 => if isLeap year then 29 else 28
  | 4 => 30
  | 6 => 30
  | 9 => 30
  | 11 => 30
  | _ => 31

/-- Whether the calendar has this date. -/
def Date.isReal (d : Date) : Bool :=
  1 ≤ d.month && d.month ≤ 12 && 1 ≤ d.day && d.day ≤ monthLength d.year d.month

/-- The days from 1 March of year 0 to 1 January 1970. -/
def epochDay : Int := 719468

/-- The months of a year that begins with March, by the days before each. -/
def daysBeforeMonth (monthFromMarch : Nat) : Nat := (153 * monthFromMarch + 2) / 5

/-- The number of a date, that of 1 January 1970 being zero. -/
def dayNumber (d : Date) : Int :=
  let year := if d.month ≤ 2 then d.year - 1 else d.year
  let dayOfYear : Nat := daysBeforeMonth ((d.month + 9) % 12) + (d.day - 1)
  365 * year + year / 4 - year / 100 + year / 400 + dayOfYear - epochDay

/-- The date of a day. -/
def ofDayNumber (n : Int) : Date :=
  let era := (n + epochDay) / 146097
  let dayOfEra := ((n + epochDay) % 146097).toNat
  let yearOfEra := (dayOfEra - dayOfEra / 1460 + dayOfEra / 36524 - dayOfEra / 146096) / 365
  let dayOfYear := dayOfEra - (365 * yearOfEra + yearOfEra / 4 - yearOfEra / 100)
  let monthFromMarch := (5 * dayOfYear + 2) / 153
  let month := if monthFromMarch < 10 then monthFromMarch + 3 else monthFromMarch - 9
  { year := era * 400 + yearOfEra + (if month ≤ 2 then 1 else 0)
    month
    day := dayOfYear - daysBeforeMonth monthFromMarch + 1 }

/-- The least year that a date may have. -/
def firstYear : Int := -262143

/-- The greatest year. -/
def lastYear : Int := 262142

/-- The date of a year, a month and a day, if the calendar has it and the year is
within bounds. -/
def Date.of? (year : Int) (month day : Nat) : Option Date :=
  let d : Date := ⟨year, month, day⟩
  if d.isReal && firstYear ≤ year && year ≤ lastYear then some d else none

end Criteria.Calendar
