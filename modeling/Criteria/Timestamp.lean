/-
Points in time, to the millisecond.

A timestamp is a second of Unix time and the milliseconds within it.  A leap
second has no second of its own: it is written as milliseconds from 1000 on,
within the second before it.  Timestamps are ordered by second and then by
millisecond, so a leap second comes before the second that follows it.

An instant is known to the nanosecond, and a leap second in it is counted on in
the same way.  Its timestamp is the instant cut to the millisecond.
-/
import Criteria.Calendar
import Criteria.Text.Numeral
import Criteria.Value.Error

namespace Criteria

namespace Timestamp

/-- The first second of the first year. -/
def firstSecond : Int := -8334601228800

/-- The last second of the last year. -/
def lastSecond : Int := 8210266876799

/-- Whether a second and a millisecond make a point in time. -/
def isInstant (second : Int) (milli : Nat) : Bool :=
  firstSecond ≤ second && second ≤ lastSecond && milli < 2000

end Timestamp

/-- A point in time: the second of Unix time it falls in and the milliseconds
since that second began. -/
structure Timestamp where
  second : Int
  milli : Nat
  instant : Timestamp.isInstant second milli = true
deriving DecidableEq

/-- A point in time: the second of Unix time it falls in and the nanoseconds since
that second began. -/
structure Instant where
  second : Int
  nano : Nat
  bounds : (Timestamp.firstSecond ≤ second ∧ second ≤ Timestamp.lastSecond) ∧ nano < 2000000000
deriving DecidableEq

/-- The instant at a second and a nanosecond, if it is within bounds. -/
def Instant.at? (second : Int) (nano : Nat) : Option Instant :=
  if h : (Timestamp.firstSecond ≤ second ∧ second ≤ Timestamp.lastSecond) ∧ nano < 2000000000
  then some ⟨second, nano, h⟩ else none

namespace Timestamp

theorem isInstant_iff {second : Int} {milli : Nat} :
    isInstant second milli = true ↔
      (firstSecond ≤ second ∧ second ≤ lastSecond) ∧ milli < 2000 := by
  simp only [isInstant, Bool.and_eq_true, decide_eq_true_eq]

theorem firstSecond_eq :
    firstSecond = Calendar.dayNumber ⟨Calendar.firstYear, 1, 1⟩ * 86400 := rfl

theorem lastSecond_eq :
    lastSecond = Calendar.dayNumber ⟨Calendar.lastYear, 12, 31⟩ * 86400 + 86399 := rfl

/-- The earlier second comes first, within a second the earlier millisecond. -/
def compare (a b : Timestamp) : Ordering :=
  (Ord.compare a.second b.second).then (Ord.compare a.milli b.milli)

instance : Ord Timestamp := ⟨compare⟩

/-- The point in time at a second and a millisecond, if it is within bounds. -/
def at? (second : Int) (milli : Nat) : Option Timestamp :=
  if h : isInstant second milli = true then some ⟨second, milli, h⟩ else none

/-- An instant cut to the millisecond.  A calendar that ends with the last second may
refuse to cut in the leap second after it; that is out of scope. -/
def ofInstant (i : Instant) : Timestamp where
  second := i.second
  milli := i.nano / 1000000
  instant := isInstant_iff.mpr ⟨i.bounds.1, Nat.div_lt_of_lt_mul i.bounds.2⟩

/-- The point in time that many milliseconds after the epoch. -/
def ofEpochMillis (millis : Int) : Except ValueError Timestamp :=
  match at? (millis / 1000) (millis % 1000).toNat with
  | some t => .ok t
  | none => .error (.invalidTimestamp (String.ofList (Text.intChars millis)))

/-- The milliseconds since the epoch. -/
def epochMillis (t : Timestamp) : Int := t.second * 1000 + t.milli

/-- The day a timestamp falls on. -/
def date (t : Timestamp) : Calendar.Date := Calendar.ofDayNumber (t.second / 86400)

/-- The seconds since midnight. -/
def secondOfDay (t : Timestamp) : Nat := (t.second % 86400).toNat

/-! ### The canonical text -/

/-- Four digits from year 0 to 9999; else a sign and four digits at least. -/
def yearChars (year : Int) : List Char :=
  if 0 ≤ year ∧ year ≤ 9999 then Text.paddedChars 4 year.toNat
  else (if year < 0 then '-' else '+') :: Text.paddedChars 4 year.natAbs

/-- The fraction: a single zero for none, else three digits at least. -/
def milliChars (milli : Nat) : List Char :=
  if milli = 0 then ['.', '0'] else '.' :: Text.paddedChars 3 milli

/-- Date and time in UTC.  A leap second is second 60. -/
def chars (t : Timestamp) : List Char :=
  let two := Text.paddedChars 2
  let s := t.secondOfDay
  yearChars t.date.year ++ '-' :: two t.date.month ++ '-' :: two t.date.day ++
    'T' :: two (s / 3600) ++ ':' :: two (s / 60 % 60) ++
    ':' :: two (s % 60 + t.milli / 1000) ++
    milliChars t.milli ++ "+00:00".toList

instance : ToString Timestamp := ⟨fun t => String.ofList t.chars⟩

end Timestamp

end Criteria
