/-
Reading a timestamp.

Two forms are read.  A date and a time are joined by a `T` and followed by the
offset from UTC that they are given in; a date alone, or a month, means its first
midnight in UTC.  Before each number of a date or a time blanks are skipped, and a
month, a day or a time of day may have one digit or two.  A year has up to four
digits, or any number of them after a sign.  Second 60 is a leap second.  A fraction
is read to the nanosecond, so its first nine digits count, and the instant that is
read is cut to the millisecond.

Offset and month form are read number by number, in fields of fixed width, and a
sign may take the place of a field's first digit.
-/
import Criteria.Text.Blank
import Criteria.Timestamp

namespace Criteria.Timestamp

/-! ### Numbers and separators -/

/-- Takes the expected character off a text. -/
def expect (c : Char) : List Char → Option (List Char)
  | d :: rest => if d = c then some rest else none
  | [] => none

/-- Takes the digits at the head of a text, `most` of them at most. -/
def takeDigits : Nat → List Char → List Char × List Char
  | most + 1, c :: rest =>
    if c.isDigit then
      let (digits, rest) := takeDigits most rest
      (c :: digits, rest)
    else ([], c :: rest)
  | _, s => ([], s)

/-- Reads a number of one digit at least and `most` at most. -/
def number (most : Nat) (s : List Char) : Option (Nat × List Char) :=
  let (digits, rest) := takeDigits most s
  if digits.isEmpty then none else some (Text.readDigits digits, rest)

/-- Reads a number between two bounds, blanks before it being skipped. -/
def field (least greatest : Nat) (s : List Char) : Option (Nat × List Char) :=
  match number 2 (Text.skipBlanks s) with
  | some (n, rest) => if least ≤ n ∧ n ≤ greatest then some (n, rest) else none
  | none => none

/-- Reads a year: up to four digits, or any number of them after a sign. -/
def year (s : List Char) : Option (Int × List Char) :=
  match Text.skipBlanks s with
  | '-' :: rest => (number rest.length rest).map fun (n, rest) => (-(n : Int), rest)
  | '+' :: rest => (number rest.length rest).map fun (n, rest) => ((n : Int), rest)
  | rest => (number 4 rest).map fun (n, rest) => ((n : Int), rest)

/-! ### Date and time of day -/

/-- Reads `year-month-day`. -/
def readDate (s : List Char) : Option (Calendar.Date × List Char) := do
  let (y, s) ← year s
  let s ← expect '-' s
  let (m, s) ← field 1 12 s
  let s ← expect '-' s
  let (d, s) ← field 1 31 s
  let date ← Calendar.Date.of? y m d
  return (date, s)

/-- A time of day: the seconds since midnight, and the nanoseconds within the last
of them. -/
structure Clock where
  second : Nat
  nano : Nat
deriving DecidableEq, Repr

/-- The nanoseconds of a fraction with so many digits, nine at most. -/
def fractionNanos (digits : List Char) : Nat :=
  Text.readDigits digits * Nat.pow 10 (9 - digits.length)

/-- Reads the fraction of a second, which may be missing.  Digits after the ninth are
passed over. -/
def readFraction : List Char → Option (Nat × List Char)
  | '.' :: rest =>
    let (digits, rest) := takeDigits 9 rest
    if digits.isEmpty then none else some (fractionNanos digits, rest.dropWhile Char.isDigit)
  | s => some (0, s)

/-- Reads `hour:minute` and, where they follow, `:second` and a fraction. -/
def readClock (s : List Char) : Option (Clock × List Char) := do
  let (h, s) ← field 0 23 s
  let s ← expect ':' s
  let (m, s) ← field 0 59 s
  match expect ':' s with
  | none => return (⟨h * 3600 + m * 60, 0⟩, s)
  | some s =>
    let (sec, s) ← field 0 60 s
    let (nano, s) ← readFraction s
    if sec = 60 then return (⟨h * 3600 + m * 60 + 59, 1000000000 + nano⟩, s)
    else return (⟨h * 3600 + m * 60 + sec, nano⟩, s)

/-! ### Offset -/

/-- The most that an offset may amount to, in seconds: less than a day. -/
def dayLength : Int := 86400

/-- Reads the two characters of an hour or a minute. -/
def twoPlaces (a b : Char) : Option Int := Text.readSigned? [a, b]

/-- Reads a sign, two places, a colon and two places as seconds. -/
def readOffset : List Char → Option Int
  | [sign, a, b, ':', c, d] => do
    let factor : Int ← if sign = '+' then some 1 else if sign = '-' then some (-1) else none
    let hours ← twoPlaces a b
    let minutes ← twoPlaces c d
    let offset := factor * (hours * 3600 + minutes * 60)
    if minutes < 60 ∧ -dayLength < offset ∧ offset < dayLength then some offset else none
  | _ => none

/-- Parts a text with an offset at its end: the local date and time, and the offset
in seconds. -/
def splitOffset (s : List Char) : Option (List Char × Int) :=
  match s.getLast? with
  | some 'Z' => some (s.dropLast, 0)
  | _ =>
    (readOffset (s.drop (s.length - 6))).map fun offset => (s.take (s.length - 6), offset)

/-! ### The whole text -/

/-- Reads a date, a time and an offset. -/
def readDateTime (s : List Char) : Option Instant := do
  let (localTime, offset) ← splitOffset s
  let (date, s) ← readDate localTime
  let s ← expect 'T' s
  let (clock, s) ← readClock s
  if s.isEmpty then
    Instant.at? (Calendar.dayNumber date * dayLength + clock.second - offset) clock.nano
  else none

/-- Reads a month as the first of its days: a year of four places, and a month of
two. -/
def readMonth (s : List Char) : Option Calendar.Date := do
  let yearText := s.takeWhile (· ≠ '-')
  let monthText ← expect '-' (s.dropWhile (· ≠ '-'))
  if yearText.length = 4 ∧ monthText.length = 2 then
    let y ← Text.readSigned? yearText
    let m ← Text.readSigned? monthText
    if 0 ≤ m ∧ monthText.head? ≠ some '-' then Calendar.Date.of? y m.toNat 1 else none
  else none

/-- Reads a date or a month. -/
def readDay (s : List Char) : Option Instant := do
  let date ←
    match readDate s with
    | some (date, []) => some date
    | _ => readMonth s
  Instant.at? (Calendar.dayNumber date * dayLength) 0

/-- The timestamp a text denotes. -/
def parse (text : String) : Except ValueError Timestamp :=
  let s := text.toList
  match if s.contains 'T' then readDateTime s else readDay s with
  | some i => .ok (ofInstant i)
  | none => .error (.invalidTimestamp text)

end Criteria.Timestamp
