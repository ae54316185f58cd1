/-
Timestamps are read back from their canonical text.

The text has fields of fixed width, so a reader that takes two digits at most takes a
whole field and stops before the separator.  Date and time of day then give the day and
the second again that they were made from.  A leap second is apart: its milliseconds
are counted on from a thousand, and a fraction is read by three digits.

What the readers do with a field is said for any digits that fill it, and for an offset for
any two whole numbers of two places.  The same lemmas serve texts that are not canonical.
-/
import Criteria.Proofs.Calendar
import Criteria.Proofs.Numeral
import Criteria.Timestamp.Reading
import Mathlib.Data.List.Basic

namespace Criteria.Timestamp

open Criteria.Text

/-! ### Fields of digits -/

theorem takeDigits_append {most : Nat} {digits rest : List Char}
    (hdigits : ∀ c ∈ digits, c.isDigit = true) (hlen : digits.length ≤ most)
    (hrest : digits.length = most ∨ Stops Char.isDigit rest) :
    takeDigits most (digits ++ rest) = (digits, rest) := by
  induction digits generalizing most with
  | nil =>
      cases most with
      | zero => rw [takeDigits.eq_def]; rfl
      | succ most =>
          have hstop : Stops Char.isDigit rest := by
            rcases hrest with h | h
            · exact absurd h (Nat.succ_ne_zero most).symm
            · exact h
          cases rest with
          | nil => rw [takeDigits.eq_def]; rfl
          | cons c rest =>
              have hc : c.isDigit = false := stops_cons.mp hstop
              rw [List.nil_append, takeDigits, hc]
              rfl
  | cons c digits ih =>
      cases most with
      | zero => exact absurd hlen (by simp)
      | succ most =>
          have hc := hdigits c List.mem_cons_self
          have hrest' : digits.length = most ∨ Stops Char.isDigit rest := by
            rcases hrest with h | h
            · exact Or.inl (Nat.succ.inj h)
            · exact Or.inr h
          rw [List.cons_append, takeDigits, if_pos hc,
            ih (fun d hd => hdigits d (List.mem_cons_of_mem c hd))
              (Nat.le_of_succ_le_succ hlen) hrest']

/-- What is taken is the head of the text, digits only and no more than asked for. -/
theorem takeDigits_spec (most : Nat) (s : List Char) :
    s = (takeDigits most s).1 ++ (takeDigits most s).2 ∧ (takeDigits most s).1.length ≤ most ∧
      ∀ c ∈ (takeDigits most s).1, c.isDigit = true := by
  have hnone : ∀ (most : Nat) (s : List Char), s = [] ++ s ∧ ([] : List Char).length ≤ most ∧
      ∀ c ∈ ([] : List Char), c.isDigit = true :=
    fun most s => ⟨rfl, Nat.zero_le most, fun c hc => absurd hc List.not_mem_nil⟩
  induction s generalizing most with
  | nil =>
      cases most with
      | zero => exact hnone 0 []
      | succ most => exact hnone (most + 1) []
  | cons c s ih =>
      cases most with
      | zero => exact hnone 0 (c :: s)
      | succ most =>
          rw [takeDigits]
          split
          · next hc =>
            obtain ⟨hs, hlen, hdigits⟩ := ih most
            exact ⟨congrArg (c :: ·) hs, Nat.succ_le_succ hlen,
              List.forall_mem_cons.mpr ⟨hc, hdigits⟩⟩
          · exact hnone (most + 1) (c :: s)

/-- Digits are read to their number. -/
theorem number_digits {most : Nat} {digits rest : List Char} (hne : digits ≠ [])
    (hdigits : ∀ c ∈ digits, c.isDigit = true) (hlen : digits.length ≤ most)
    (hrest : digits.length = most ∨ Stops Char.isDigit rest) :
    number most (digits ++ rest) = some (readDigits digits, rest) := by
  rw [number, takeDigits_append hdigits hlen hrest]
  simp only [List.isEmpty_iff, if_neg hne]

/-- A field that is filled up with zeros is read to its number. -/
theorem number_paddedChars {most width n : Nat} {rest : List Char}
    (hlen : (paddedChars width n).length ≤ most)
    (hrest : (paddedChars width n).length = most ∨ Stops Char.isDigit rest) :
    number most (paddedChars width n ++ rest) = some (n, rest) := by
  rw [number_digits (paddedChars_ne_nil width n) (fun _ => isDigit_of_mem_paddedChars) hlen hrest,
    readDigits_paddedChars]

private theorem isBlank_of_isDigit {c : Char} (h : c.isDigit = true) : isBlank c = false := by
  have hlt := toNat_lt_of_isAlphanum (isAlphanum_of_isDigit h)
  refine forall_ascii (P := fun c => c.isDigit = true → isBlank c = false) ?_ c hlt h
  decide

/-- Before digits there are no blanks to be skipped. -/
theorem skipBlanks_digits {digits : List Char} (hne : digits ≠ [])
    (hdigits : ∀ c ∈ digits, c.isDigit = true) (rest : List Char) :
    skipBlanks (digits ++ rest) = digits ++ rest := by
  cases digits with
  | nil => exact absurd rfl hne
  | cons c digits =>
      have hc := isBlank_of_isDigit (hdigits c List.mem_cons_self)
      exact skipBlanks_of_stops (stops_cons.mpr hc)

/-- Two digits are read as a field if their number is within bounds. -/
theorem field_numeral (least greatest : Nat) (n : Numeral 2) (rest : List Char) :
    field least greatest (n.digits ++ rest) =
      if least ≤ n.value ∧ n.value ≤ greatest then some (n.value, rest) else none := by
  rw [field, skipBlanks_digits n.digits_ne_nil n.isDigit,
    number_digits n.digits_ne_nil n.isDigit (Nat.le_of_eq n.length_eq) (Or.inl n.length_eq)]
  rfl

private theorem field_paddedChars {least greatest n : Nat} (hleast : least ≤ n)
    (hgreatest : n ≤ greatest) (hfits : n < 100) (rest : List Char) :
    field least greatest (paddedChars 2 n ++ rest) = some (n, rest) := by
  have hread := field_numeral least greatest (.padded n hfits) rest
  rw [Numeral.value_padded, if_pos ⟨hleast, hgreatest⟩] at hread
  exact hread

@[simp] theorem expect_cons (c : Char) (rest : List Char) : expect c (c :: rest) = some rest :=
  if_pos rfl

/-- Four digits are read as a year. -/
theorem year_numeral (n : Numeral 4) (rest : List Char) :
    year (n.digits ++ rest) = some ((n.value : Int), rest) := by
  have hsign : ∀ sign more, sign.isDigit = false → n.digits ++ rest ≠ sign :: more := by
    intro sign more hsign heq
    obtain ⟨c, digits, hc⟩ := List.exists_cons_of_ne_nil n.digits_ne_nil
    have hdigit := n.isDigit c (by simp [hc])
    rw [hc] at heq
    rw [(List.cons.inj heq).1, hsign] at hdigit
    exact absurd hdigit Bool.false_ne_true
  rw [year, skipBlanks_digits n.digits_ne_nil n.isDigit]
  split
  · next heq => exact absurd heq (hsign '-' _ (by decide))
  · next heq => exact absurd heq (hsign '+' _ (by decide))
  · rw [number_digits n.digits_ne_nil n.isDigit (Nat.le_of_eq n.length_eq) (Or.inl n.length_eq)]
    rfl

/-- A year of any size is read up to the hyphen behind it. -/
theorem year_yearChars (y : Int) (rest : List Char) :
    year (yearChars y ++ '-' :: rest) = some (y, '-' :: rest) := by
  have hhyphen : Stops Char.isDigit ('-' :: rest) := stops_cons.mpr (by decide)
  have hsigned : number (paddedChars 4 y.natAbs ++ '-' :: rest).length
      (paddedChars 4 y.natAbs ++ '-' :: rest) = some (y.natAbs, '-' :: rest) :=
    number_paddedChars (by simp) (Or.inr hhyphen)
  by_cases hplain : 0 ≤ y ∧ y ≤ 9999
  · have hfits : y.toNat < 10 ^ 4 := by omega
    have hread := year_numeral (.padded y.toNat hfits) ('-' :: rest)
    rw [Numeral.value_padded, Int.toNat_of_nonneg hplain.1] at hread
    rw [yearChars, if_pos hplain]
    exact hread
  · rw [yearChars, if_neg hplain, year]
    by_cases hneg : y < 0
    · rw [if_pos hneg]
      show (number (paddedChars 4 y.natAbs ++ '-' :: rest).length
        (paddedChars 4 y.natAbs ++ '-' :: rest)).map _ = _
      rw [hsigned]
      simp only [Option.map_some, Option.some.injEq, Prod.mk.injEq, and_true]
      omega
    · rw [if_neg hneg]
      show (number (paddedChars 4 y.natAbs ++ '-' :: rest).length
        (paddedChars 4 y.natAbs ++ '-' :: rest)).map _ = _
      rw [hsigned]
      simp only [Option.map_some, Option.some.injEq, Prod.mk.injEq, and_true]
      omega

/-! ### Date and time of day -/

private theorem day_bounds (t : Timestamp) :
    Calendar.dayNumber ⟨Calendar.firstYear, 1, 1⟩ ≤ t.second / 86400 ∧
      t.second / 86400 ≤ Calendar.dayNumber ⟨Calendar.lastYear, 12, 31⟩ := by
  obtain ⟨⟨hfirst, hlast⟩, -⟩ := isInstant_iff.mp t.instant
  rw [firstSecond_eq] at hfirst
  rw [lastSecond_eq] at hlast
  constructor
  · omega
  · omega

private theorem date_bounds (t : Timestamp) :
    Calendar.Date.of? t.date.year t.date.month t.date.day = some t.date ∧
      (1 ≤ t.date.month ∧ t.date.month ≤ 12) ∧ (1 ≤ t.date.day ∧ t.date.day ≤ 31) := by
  have hreal : t.date.isReal = true := Calendar.isReal_ofDayNumber _
  obtain ⟨hfirst, hlast⟩ := (Calendar.year_ofDayNumber_iff _).mpr t.day_bounds
  refine ⟨?_, ?_⟩
  · exact if_pos (by
      simp only [Bool.and_eq_true, decide_eq_true_eq]
      exact ⟨⟨hreal, hfirst⟩, hlast⟩)
  · obtain ⟨hm, hd, hd'⟩ := Calendar.isReal_iff.mp hreal
    exact ⟨hm, hd, Nat.le_trans hd' (Calendar.monthLength_le_max _ _)⟩

/-- How a date is written. -/
def dateChars (d : Calendar.Date) : List Char :=
  yearChars d.year ++ '-' :: (paddedChars 2 d.month ++ '-' :: paddedChars 2 d.day)

/-- How the time of day of a timestamp is written.  In a leap second its second is the next one,
and the milliseconds are still counted on. -/
def clockChars (t : Timestamp) : List Char :=
  paddedChars 2 (t.secondOfDay / 3600) ++ ':' :: (paddedChars 2 (t.secondOfDay / 60 % 60) ++
    ':' :: (paddedChars 2 (t.secondOfDay % 60 + t.milli / 1000) ++ milliChars t.milli))

theorem readDate_dateChars (t : Timestamp) (rest : List Char) :
    readDate (dateChars t.date ++ rest) = some (t.date, rest) := by
  obtain ⟨hdate, ⟨hm, hm'⟩, hd, hd'⟩ := t.date_bounds
  simp only [readDate, dateChars, List.append_assoc, List.cons_append, year_yearChars,
    Option.bind_eq_bind, Option.bind_some, expect_cons,
    field_paddedChars hm hm' (by omega), field_paddedChars hd hd' (by omega), hdate]
  rfl

/-- Digits are taken up to so many, whatever their number is. -/
theorem takeDigits_digits (most : Nat) {digits : List Char}
    (hdigits : ∀ c ∈ digits, c.isDigit = true) :
    takeDigits most digits = (digits.take most, digits.drop most) := by
  have hrest : (digits.take most).length = most ∨ Stops Char.isDigit (digits.drop most) := by
    by_cases hlen : most ≤ digits.length
    · exact Or.inl (List.length_take_of_le hlen)
    · rw [List.drop_of_length_le (Nat.le_of_not_le hlen)]
      exact Or.inr (stops_nil _)
  have htake := takeDigits_append (fun c hc => hdigits c (List.mem_of_mem_take hc))
    (List.length_take_le most digits) hrest
  rwa [List.take_append_drop] at htake

/-- All digits of a fraction are passed over, whether they count or not. -/
theorem readFraction_digits {digits : List Char} (hne : digits ≠ [])
    (hdigits : ∀ c ∈ digits, c.isDigit = true) :
    readFraction ('.' :: digits) = some (fractionNanos (digits.take 9), []) := by
  have htake : digits.take 9 ≠ [] := by simpa using hne
  have hdrop := dropWhile_append_of_stops
    (fun c (hc : c ∈ digits.drop 9) => hdigits c (List.mem_of_mem_drop hc)) (stops_nil _)
  rw [List.append_nil] at hdrop
  simp only [readFraction, takeDigits_digits 9 hdigits, List.isEmpty_iff, htake, if_false, hdrop]

/-- A fraction of a second is less than a second. -/
theorem fractionNanos_lt {digits : List Char} (hdigits : ∀ c ∈ digits, c.isDigit = true)
    (hlen : digits.length ≤ 9) : fractionNanos digits < 1000000000 := by
  have hpos : 0 < 10 ^ (9 - digits.length) := Nat.pow_pos (by decide)
  calc
    fractionNanos digits < 10 ^ digits.length * 10 ^ (9 - digits.length) :=
      Nat.mul_lt_mul_of_pos_right (readDigits_lt hdigits) hpos
    _ = 1000000000 := by rw [← Nat.pow_add, Nat.add_sub_cancel' hlen]

/-- **Cutting a fraction to the millisecond leaves its first three digits**, zeros standing in for
those that are missing. -/
theorem fractionNanos_div {digits : List Char} (hdigits : ∀ c ∈ digits, c.isDigit = true) :
    fractionNanos (digits.take 9) / 1000000 =
      readDigits ((digits ++ ['0', '0', '0']).take 3) := by
  obtain ⟨nine, hnine⟩ : ∃ nine, nine = digits.take 9 ++
      List.replicate (9 - (digits.take 9).length) '0' := ⟨_, rfl⟩
  have hlen : nine.length = 9 := by
    simp only [hnine, List.length_append, List.length_replicate, List.length_take]
    omega
  have hall : ∀ c ∈ nine, c.isDigit = true := by
    intro c hc
    rcases List.mem_append.mp (hnine ▸ hc) with hc | hc
    · exact hdigits c (List.mem_of_mem_take hc)
    · rw [List.eq_of_mem_replicate hc]
      rfl
  have hscaled : fractionNanos (digits.take 9) = readDigits nine := by
    rw [hnine, readDigits_append, List.length_replicate, readDigits_replicate_zero, Nat.add_zero]
    rfl
  have hthree : nine.take 3 = (digits ++ ['0', '0', '0']).take 3 := by
    have hzeros : ['0', '0', '0'] = List.replicate 3 '0' := rfl
    rw [hnine, hzeros, List.take_append, List.take_append, List.take_take, List.take_replicate,
      List.take_replicate, List.length_take]
    congr 2
    omega
  have hlow : readDigits (nine.drop 3) < 1000000 := by
    have hlt := readDigits_lt (fun c hc => hall c (List.mem_of_mem_drop hc) : ∀ c ∈ nine.drop 3, _)
    rwa [List.length_drop, hlen] at hlt
  have hsplit : readDigits nine =
      readDigits (nine.take 3) * 1000000 + readDigits (nine.drop 3) := by
    have happend := readDigits_append (nine.take 3) (nine.drop 3)
    rwa [List.take_append_drop, List.length_drop, hlen] at happend
  rw [hscaled, hsplit, ← hthree]
  omega

/-- What is read where milliseconds were written: of four digits each has a tenth of its worth. -/
theorem readFraction_milliChars {milli : Nat} (h : milli < 2000) :
    readFraction (milliChars milli) =
      some (if milli < 1000 then milli * 1000000 else milli * 100000, []) := by
  by_cases hzero : milli = 0
  · subst hzero
    rfl
  · have hdigits : ∀ c ∈ paddedChars 3 milli, c.isDigit = true :=
      fun _ => isDigit_of_mem_paddedChars
    have hlen : (paddedChars 3 milli).length = if milli < 1000 then 3 else 4 := by
      split
      · next hless => exact length_paddedChars (by decide) hless
      · next hmore =>
        have htens : (paddedChars 3 (milli / 10)).length = 3 :=
          length_paddedChars (by decide) (by omega)
        have hunits : (natChars (milli % 10)).length = 1 := by
          rw [natChars, Nat.toDigits_of_lt_base (Nat.mod_lt milli (by decide))]
          rfl
        rw [paddedChars_div_mod (by decide) (Nat.not_lt.mp hmore), List.length_append, htens,
          hunits]
    have hall : (paddedChars 3 milli).take 9 = paddedChars 3 milli :=
      List.take_of_length_le (by rw [hlen]; split <;> decide)
    rw [milliChars, if_neg hzero, readFraction_digits (paddedChars_ne_nil 3 milli) hdigits, hall,
      fractionNanos, readDigits_paddedChars, hlen]
    split
    · rfl
    · rfl

/-- Reads what follows a minute that begins so many seconds after midnight. -/
def readSeconds (start : Nat) (s : List Char) : Option (Clock × List Char) :=
  match expect ':' s with
  | none => some (⟨start, 0⟩, s)
  | some s => do
    let (second, s) ← field 0 60 s
    let (nano, s) ← readFraction s
    if second = 60 then return (⟨start + 59, 1000000000 + nano⟩, s)
    else return (⟨start + second, nano⟩, s)

theorem readClock_eq (hour minute : Numeral 2) (rest : List Char) :
    readClock (hour.digits ++ ':' :: (minute.digits ++ rest)) =
      if hour.value < 24 ∧ minute.value < 60 then
        readSeconds (hour.value * 3600 + minute.value * 60) rest else none := by
  simp only [readClock, field_numeral, Option.bind_eq_bind]
  by_cases hh : hour.value < 24
  · rw [if_pos ⟨Nat.zero_le _, Nat.le_of_lt_succ hh⟩]
    simp only [Option.bind_some, expect_cons, field_numeral]
    by_cases hm : minute.value < 60
    · rw [if_pos ⟨Nat.zero_le _, Nat.le_of_lt_succ hm⟩, if_pos ⟨hh, hm⟩]
      rfl
    · rw [if_neg (fun hall => hm (Nat.lt_succ_of_le hall.2)), if_neg (fun hall => hm hall.2),
        Option.bind_none]
  · rw [if_neg (fun hall => hh (Nat.lt_succ_of_le hall.2)), if_neg (fun hall => hh hall.1),
      Option.bind_none]

theorem readSeconds_numeral (start : Nat) (second : Numeral 2) {fraction : List Char} {nano : Nat}
    (h : readFraction fraction = some (nano, [])) :
    readSeconds start (':' :: (second.digits ++ fraction)) =
      if second.value ≤ 60 then
        some (⟨start + min second.value 59, (second.value - 59) * 1000000000 + nano⟩, [])
      else none := by
  simp only [readSeconds, expect_cons, field_numeral, Option.bind_eq_bind]
  by_cases hs : second.value ≤ 60
  · rw [if_pos ⟨Nat.zero_le _, hs⟩, if_pos hs]
    simp only [Option.bind_some, h]
    split
    · next hlast => simp [hlast]
    · next hother =>
      have hless : second.value ≤ 59 := by omega
      simp [Nat.min_eq_left hless, Nat.sub_eq_zero_of_le hless]
  · rw [if_neg (fun hall => hs hall.2), if_neg hs, Option.bind_none]

/-- Hour, minute and second are read with what follows as the fraction. -/
theorem readClock_fields {h m sec nano : Nat} {fraction : List Char} (hh : h < 24)
    (hm : m < 60) (hsec : sec ≤ 60) (hfraction : readFraction fraction = some (nano, [])) :
    readClock (paddedChars 2 h ++ ':' :: (paddedChars 2 m ++ ':' ::
        (paddedChars 2 sec ++ fraction))) =
      some (⟨h * 3600 + m * 60 + min sec 59, (sec - 59) * 1000000000 + nano⟩, []) := by
  have hclock := readClock_eq (.padded h (by omega)) (.padded m (by omega))
    (':' :: (paddedChars 2 sec ++ fraction))
  have hseconds := readSeconds_numeral (h * 3600 + m * 60) (.padded sec (by omega)) hfraction
  rw [Numeral.value_padded, Numeral.value_padded, if_pos ⟨hh, hm⟩] at hclock
  rw [Numeral.value_padded, if_pos hsec] at hseconds
  exact hclock.trans hseconds

private theorem secondOfDay_lt (t : Timestamp) : t.secondOfDay < 86400 := by
  unfold secondOfDay
  omega

theorem milli_lt (t : Timestamp) : t.milli < 2000 := (isInstant_iff.mp t.instant).2

theorem readClock_clockChars (t : Timestamp) :
    readClock t.clockChars =
      some (⟨t.secondOfDay / 60 * 60 + min (t.secondOfDay % 60 + t.milli / 1000) 59,
        (t.secondOfDay % 60 + t.milli / 1000 - 59) * 1000000000 +
          if t.milli < 1000 then t.milli * 1000000 else t.milli * 100000⟩, []) := by
  have hday := t.secondOfDay_lt
  have hmilli := t.milli_lt
  have hminutes : t.secondOfDay / 3600 * 3600 + t.secondOfDay / 60 % 60 * 60 =
      t.secondOfDay / 60 * 60 := by omega
  rw [clockChars, readClock_fields (by omega) (by omega) (by omega)
    (readFraction_milliChars hmilli), hminutes]

/-! ### Offset

The hours and the minutes of an offset are whole numbers of two places, of which the first may be
a sign.
-/

/-- How an offset is written. -/
def offsetChars (sign : Sign) (hours minutes : Places 2) : List Char :=
  sign.char :: (hours.chars ++ ':' :: minutes.chars)

theorem readOffset_sign (sign : Sign) (a b c d : Char) :
    readOffset [sign.char, a, b, ':', c, d] =
      (twoPlaces a b).bind fun hours => (twoPlaces c d).bind fun minutes =>
        if minutes < 60 ∧ -dayLength < sign.factor * (hours * 3600 + minutes * 60) ∧
            sign.factor * (hours * 3600 + minutes * 60) < dayLength then
          some (sign.factor * (hours * 3600 + minutes * 60)) else none := by
  cases sign with
  | plus => rfl
  | minus => rfl

theorem readOffset_places (sign : Sign) (hours minutes : Places 2) :
    readOffset (offsetChars sign hours minutes) =
      if minutes.value < 60 ∧
          -dayLength < sign.factor * (hours.value * 3600 + minutes.value * 60) ∧
          sign.factor * (hours.value * 3600 + minutes.value * 60) < dayLength then
        some (sign.factor * (hours.value * 3600 + minutes.value * 60)) else none := by
  obtain ⟨a, b, hab⟩ := List.length_eq_two.mp hours.length_chars
  obtain ⟨c, d, hcd⟩ := List.length_eq_two.mp minutes.length_chars
  have hhours : twoPlaces a b = some hours.value :=
    (readSigned?_places rfl).mpr ⟨hours, hab, rfl⟩
  have hminutes : twoPlaces c d = some minutes.value :=
    (readSigned?_places rfl).mpr ⟨minutes, hcd, rfl⟩
  rw [offsetChars, hab, hcd]
  show readOffset [sign.char, a, b, ':', c, d] = _
  rw [readOffset_sign, hhours, hminutes]
  rfl

/-- An offset has no other spelling. -/
theorem exists_of_readOffset {s : List Char} {offset : Int} (h : readOffset s = some offset) :
    ∃ sign hours minutes, s = offsetChars sign hours minutes := by
  have hread := h
  rw [readOffset.eq_def] at h
  split at h
  · next first a b c d =>
    have hsign : ∃ sign : Sign, first = sign.char := by
      by_cases hplus : first = '+'
      · exact ⟨.plus, hplus⟩
      · by_cases hminus : first = '-'
        · exact ⟨.minus, hminus⟩
        · rw [if_neg hplus, if_neg hminus] at h
          exact absurd h.symm (Option.some_ne_none offset)
    obtain ⟨sign, rfl⟩ := hsign
    rw [readOffset_sign] at hread
    obtain ⟨hour, hhour, hrest⟩ := Option.bind_eq_some_iff.mp hread
    obtain ⟨minute, hminute, -⟩ := Option.bind_eq_some_iff.mp hrest
    obtain ⟨hours, hab, -⟩ := (readSigned?_places rfl).mp hhour
    obtain ⟨minutes, hcd, -⟩ := (readSigned?_places rfl).mp hminute
    exact ⟨sign, hours, minutes, by rw [offsetChars, hab, hcd]; rfl⟩
  · exact absurd h.symm (Option.some_ne_none offset)

theorem getLast?_offsetChars (s : List Char) (sign : Sign) (hours minutes : Places 2) :
    (s ++ offsetChars sign hours minutes).getLast? ≠ some 'Z' := by
  obtain ⟨c, d, hcd⟩ := List.length_eq_two.mp minutes.length_chars
  have hd : d.isDigit = true := minutes.isDigit_of_getLast? (by rw [hcd]; rfl)
  simp only [offsetChars, hcd, List.getLast?_append, List.getLast?_cons]
  rintro ⟨⟩
  exact absurd hd (by decide)

theorem length_offsetChars (sign : Sign) (hours minutes : Places 2) :
    (offsetChars sign hours minutes).length = 6 := by
  simp [offsetChars, hours.length_chars, minutes.length_chars]

theorem splitOffset_places (s : List Char) (sign : Sign) (hours minutes : Places 2) :
    splitOffset (s ++ offsetChars sign hours minutes) =
      (readOffset (offsetChars sign hours minutes)).map fun offset => (s, offset) := by
  have hlen : (s ++ offsetChars sign hours minutes).length - 6 = s.length := by
    rw [List.length_append, length_offsetChars, Nat.add_sub_cancel]
  rw [splitOffset]
  split
  · next hZ => exact absurd hZ (getLast?_offsetChars s sign hours minutes)
  · rw [hlen, List.drop_left, List.take_left]

theorem splitOffset_letter (s : List Char) : splitOffset (s ++ ['Z']) = some (s, 0) := by
  have hlast : (s ++ ['Z']).getLast? = some 'Z' := by simp
  have hfront : (s ++ ['Z']).dropLast = s := by simp
  simp only [splitOffset, hlast, hfront]

/-- A text is parted before the letter or before an offset, and in no other place. -/
theorem exists_of_splitOffset {s before : List Char} {offset : Int}
    (h : splitOffset s = some (before, offset)) :
    s = before ++ ['Z'] ∨
      ∃ sign hours minutes, s = before ++ offsetChars sign hours minutes := by
  rw [splitOffset] at h
  split at h
  · next hlast =>
    obtain ⟨rfl, -⟩ := Prod.mk.inj (Option.some.inj h)
    exact Or.inl (List.dropLast_append_getLast? 'Z' hlast).symm
  · obtain ⟨o, hread, heq⟩ := Option.map_eq_some_iff.mp h
    obtain ⟨rfl, -⟩ := Prod.mk.inj heq
    obtain ⟨sign, hours, minutes, hdrop⟩ := exists_of_readOffset hread
    refine Or.inr ⟨sign, hours, minutes, ?_⟩
    rw [← hdrop, List.take_append_drop]

private theorem splitOffset_utc (s : List Char) :
    splitOffset (s ++ "+00:00".toList) = some (s, 0) := by
  have hoffset : "+00:00".toList =
      offsetChars .plus (.plain (.padded 0 (by decide))) (.plain (.padded 0 (by decide))) := rfl
  rw [hoffset, splitOffset_places, ← hoffset]
  rfl

/-! ### The whole text -/

theorem chars_eq (t : Timestamp) :
    t.chars = dateChars t.date ++ 'T' :: t.clockChars ++ "+00:00".toList := by
  simp only [chars, dateChars, clockChars, List.append_assoc, List.cons_append]

theorem at?_eq (t : Timestamp) : at? t.second t.milli = some t := dif_pos t.instant

theorem ext_of_eq {a b : Timestamp} (hsecond : a.second = b.second) (hmilli : a.milli = b.milli) :
    a = b := by
  obtain ⟨s, m, h⟩ := a
  obtain ⟨s', m', h'⟩ := b
  obtain rfl : s = s' := hsecond
  obtain rfl : m = m' := hmilli
  rfl

/-- An instant within bounds is the one that is asked for. -/
theorem instantAt?_eq_some {second : Int} {nano : Nat} {i : Instant} :
    Instant.at? second nano = some i ↔ i.second = second ∧ i.nano = nano := by
  obtain ⟨s, n, hbounds⟩ := i
  rw [Instant.at?]
  split
  · simp only [Option.some.injEq, Instant.mk.injEq]
    constructor
    · rintro ⟨rfl, rfl⟩
      exact ⟨rfl, rfl⟩
    · rintro ⟨rfl, rfl⟩
      exact ⟨rfl, rfl⟩
  · next hnone =>
    constructor
    · intro h
      cases h
    · rintro ⟨rfl, rfl⟩
      exact absurd hbounds hnone

theorem parse_eq_ok {text : String} {t : Timestamp} :
    parse text = .ok t ↔
      ∃ i, (if text.toList.contains 'T' = true then readDateTime text.toList
        else readDay text.toList) = some i ∧ ofInstant i = t := by
  simp only [parse]
  split
  · next i hread => simp only [hread, Except.ok.injEq, Option.some.injEq, exists_eq_left']
  · next hread => simp only [hread, reduceCtorEq, false_and, exists_false]

/-- What is read for the time of day decides what is read for the text, the day being that of the
timestamp. -/
theorem parse_of_readClock {t d : Timestamp} {clock : Clock}
    (htime : readClock t.clockChars = some (clock, []))
    (hsecond : d.second = t.second - t.secondOfDay + clock.second)
    (hmilli : d.milli = clock.nano / 1000000) : parse (String.ofList t.chars) = .ok d := by
  have hbounds := isInstant_iff.mp d.instant
  have hat : Instant.at? (Calendar.dayNumber t.date * dayLength + clock.second - 0) clock.nano =
      some ⟨d.second, clock.nano, hbounds.1, by omega⟩ := by
    refine instantAt?_eq_some.mpr ⟨?_, rfl⟩
    show d.second =
      Calendar.dayNumber (Calendar.ofDayNumber (t.second / 86400)) * 86400 + clock.second - 0
    rw [Calendar.dayNumber_ofDayNumber, hsecond, secondOfDay]
    omega
  have hread : readDateTime t.chars = some ⟨d.second, clock.nano, hbounds.1, by omega⟩ := by
    simp only [readDateTime, chars_eq, splitOffset_utc, Option.bind_eq_bind, Option.bind_some,
      readDate_dateChars, expect_cons, htime, List.isEmpty_nil, if_true]
    exact hat
  have hjoint : t.chars.contains 'T' = true := by simp [chars_eq]
  rw [parse_eq_ok, String.toList_ofList, if_pos hjoint]
  exact ⟨_, hread, ext_of_eq rfl hmilli.symm⟩

/-- The timestamp that is read where a timestamp was written.  Outside a leap second it is the
same.  Of the milliseconds of a leap second, four digits, the last is not read; and the second
that is written with them is read as a leap second only if it is the sixtieth. -/
def reread (t : Timestamp) : Timestamp where
  second := if t.milli < 1000 ∨ t.second % 60 = 59 then t.second else t.second + 1
  milli :=
    if t.milli < 1000 then t.milli
    else if t.second % 60 = 59 then 1000 + t.milli / 10 else t.milli / 10
  instant := by
    obtain ⟨⟨hfirst, hlast⟩, hmilli⟩ := isInstant_iff.mp t.instant
    refine isInstant_iff.mpr ⟨?_, ?_⟩
    · split
      · exact ⟨hfirst, hlast⟩
      · unfold lastSecond at hlast ⊢
        omega
    · split
      · exact hmilli
      · split
        · omega
        · omega

/-- The text of every timestamp is read. -/
theorem parse_toString (t : Timestamp) : parse (toString t) = .ok t.reread := by
  have hmilli := t.milli_lt
  have hsecond : t.secondOfDay % 60 = t.second % 60 := by
    unfold secondOfDay
    omega
  refine parse_of_readClock t.readClock_clockChars ?_ ?_
  · simp only [reread]
    split
    · omega
    · omega
  · simp only [reread]
    by_cases hless : t.milli < 1000
    · rw [if_pos hless, if_pos hless]
      omega
    · rw [if_neg hless, if_neg hless]
      split
      · omega
      · omega

/-- Outside a leap second a timestamp is read back from its text. -/
theorem parse_chars {t : Timestamp} (h : t.milli < 1000) :
    parse (String.ofList t.chars) = .ok t := by
  have hsame : t.reread = t := ext_of_eq (if_pos (Or.inl h)) (if_pos h)
  exact t.parse_toString.trans (congrArg Except.ok hsame)

/-! ### What a timestamp's text is made of

Every text of a date and a time has a colon, and a text of a date alone has nothing but
digits, signs and blanks.
-/

/-- A character of a date without a time. -/
def isDateChar (c : Char) : Bool := isBlank c || c.isDigit || c == '-' || c == '+'

/-- A reader takes a part of a text that has only characters of dates. -/
def TakesDate (s rest : List Char) : Prop := ∃ t, s = t ++ rest ∧ ∀ c ∈ t, isDateChar c = true

theorem isDateChar_of_isDigit {c : Char} (h : c.isDigit = true) : isDateChar c = true := by
  rw [isDateChar, h, Bool.or_true]
  rfl

theorem TakesDate.trans {s mid rest : List Char} (h : TakesDate s mid)
    (h' : TakesDate mid rest) : TakesDate s rest := by
  obtain ⟨t, rfl, ht⟩ := h
  obtain ⟨u, rfl, hu⟩ := h'
  refine ⟨t ++ u, (List.append_assoc t u rest).symm, fun c hc => ?_⟩
  rcases List.mem_append.mp hc with hc | hc
  · exact ht c hc
  · exact hu c hc

private theorem takesDate_cons {c : Char} {s rest : List Char} (hc : isDateChar c = true)
    (h : TakesDate s rest) : TakesDate (c :: s) rest := by
  refine TakesDate.trans ⟨[c], rfl, fun d hd => ?_⟩ h
  rw [List.mem_singleton.mp hd]
  exact hc

private theorem takesDate_skipBlanks (s : List Char) : TakesDate s (skipBlanks s) := by
  obtain ⟨w, hw, hs, -⟩ := exists_blank_append s
  refine ⟨w, hs, fun c hc => ?_⟩
  rw [isDateChar, hw c hc]
  rfl

private theorem takesDate_takeDigits (most : Nat) (s : List Char) :
    TakesDate s (takeDigits most s).2 := by
  obtain ⟨hs, -, hdigits⟩ := takeDigits_spec most s
  exact ⟨_, hs, fun c hc => isDateChar_of_isDigit (hdigits c hc)⟩

private theorem takesDate_number {most n : Nat} {s rest : List Char}
    (h : number most s = some (n, rest)) : TakesDate s rest := by
  have htake := takesDate_takeDigits most s
  rw [number] at h
  generalize takeDigits most s = taken at htake h
  obtain ⟨digits, left⟩ := taken
  simp only at h
  split at h
  · simp at h
  · obtain ⟨-, rfl⟩ := Prod.mk.inj (Option.some.inj h)
    exact htake

theorem takesDate_field {least greatest n : Nat} {s rest : List Char}
    (h : field least greatest s = some (n, rest)) : TakesDate s rest := by
  rw [field] at h
  split at h
  · next m rest' hnumber =>
    split at h
    · obtain ⟨-, rfl⟩ := Prod.mk.inj (Option.some.inj h)
      exact (takesDate_skipBlanks s).trans (takesDate_number hnumber)
    · simp at h
  · simp at h

theorem takesDate_year {y : Int} {s rest : List Char} (h : year s = some (y, rest)) :
    TakesDate s rest := by
  refine (takesDate_skipBlanks s).trans ?_
  rw [year] at h
  split at h
  · next more hskip =>
    obtain ⟨⟨n, rest'⟩, hnumber, heq⟩ := Option.map_eq_some_iff.mp h
    obtain ⟨-, rfl⟩ := Prod.mk.inj heq
    rw [hskip]
    exact takesDate_cons (by decide) (takesDate_number hnumber)
  · next more hskip =>
    obtain ⟨⟨n, rest'⟩, hnumber, heq⟩ := Option.map_eq_some_iff.mp h
    obtain ⟨-, rfl⟩ := Prod.mk.inj heq
    rw [hskip]
    exact takesDate_cons (by decide) (takesDate_number hnumber)
  · obtain ⟨⟨n, rest'⟩, hnumber, heq⟩ := Option.map_eq_some_iff.mp h
    obtain ⟨-, rfl⟩ := Prod.mk.inj heq
    exact takesDate_number hnumber

theorem expect_eq_some {c : Char} {s rest : List Char} :
    expect c s = some rest ↔ s = c :: rest := by
  cases s with
  | nil => simp [expect]
  | cons d s =>
      rw [expect]
      split
      · next hd => simp [hd]
      · next hd => simp [hd]

theorem takesDate_readDate {d : Calendar.Date} {s rest : List Char}
    (h : readDate s = some (d, rest)) : TakesDate s rest := by
  simp only [readDate, Option.bind_eq_bind, Option.bind_eq_some_iff, expect_eq_some] at h
  obtain ⟨⟨y, s₁⟩, hyear, s₂, rfl, ⟨m, s₃⟩, hmonth, s₄, rfl, ⟨day, s₅⟩, hday, date, -, h⟩ := h
  obtain ⟨-, rfl⟩ := Prod.mk.inj (Option.some.inj h)
  exact (takesDate_year hyear).trans (takesDate_cons (by decide) ((takesDate_field hmonth).trans
    (takesDate_cons (by decide) (takesDate_field hday))))

/-- Hour and minute have a colon between them. -/
theorem colon_mem_of_readClock {clock : Clock} {s rest : List Char}
    (h : readClock s = some (clock, rest)) : ':' ∈ s := by
  simp only [readClock, Option.bind_eq_bind, Option.bind_eq_some_iff, expect_eq_some] at h
  obtain ⟨⟨hour, s₁⟩, hhour, s₂, rfl, -⟩ := h
  obtain ⟨t, rfl, -⟩ := takesDate_field hhour
  simp

private theorem splitOffset_subset {s before : List Char} {offset : Int}
    (h : splitOffset s = some (before, offset)) : before ⊆ s := by
  rcases exists_of_splitOffset h with rfl | ⟨sign, hours, minutes, rfl⟩
  · exact List.subset_append_left before _
  · exact List.subset_append_left before _

theorem colon_mem_of_readDateTime {s : List Char} {i : Instant}
    (h : readDateTime s = some i) : ':' ∈ s := by
  simp only [readDateTime, Option.bind_eq_bind, Option.bind_eq_some_iff, expect_eq_some] at h
  obtain ⟨⟨before, offset⟩, hsplit, ⟨d, s₁⟩, hdate, s₂, rfl, ⟨clock, s₃⟩, hclock, -⟩ := h
  obtain ⟨u, hu, -⟩ := takesDate_readDate hdate
  apply splitOffset_subset hsplit
  simp only at hu
  rw [hu]
  exact List.mem_append_right u (List.mem_cons_of_mem 'T' (colon_mem_of_readClock hclock))

private theorem isDateChar_of_places {width : Nat} {p : Places width} :
    ∀ c ∈ p.chars, isDateChar c = true := by
  cases p with
  | plain n => exact fun c hc => isDateChar_of_isDigit (n.isDigit c hc)
  | signed sign n =>
      intro c hc
      rcases List.mem_cons.mp hc with rfl | hc
      · cases sign with
        | plus => decide
        | minus => decide
      · exact isDateChar_of_isDigit (n.isDigit c hc)

/-- What is read as a month are four places, a hyphen and two places. -/
theorem exists_of_readMonth {s : List Char} {d : Calendar.Date} (h : readMonth s = some d) :
    ∃ (y : Places 4) (m : Places 2), s = y.chars ++ '-' :: m.chars := by
  simp only [readMonth, Option.bind_eq_bind, Option.bind_eq_some_iff, expect_eq_some] at h
  obtain ⟨monthText, hdrop, h⟩ := h
  split at h
  · next hlen =>
    simp only [Option.bind_eq_some_iff] at h
    obtain ⟨year, hyear, month, hmonth, -⟩ := h
    obtain ⟨y, hy, -⟩ := (readSigned?_places hlen.1).mp hyear
    obtain ⟨m, hm, -⟩ := (readSigned?_places hlen.2).mp hmonth
    refine ⟨y, m, ?_⟩
    rw [hy, hm, ← hdrop]
    exact (List.takeWhile_append_dropWhile (p := fun c => decide (c ≠ '-')) (l := s)).symm
  · simp at h

private theorem isDateChar_of_readMonth {s : List Char} {d : Calendar.Date}
    (h : readMonth s = some d) : ∀ c ∈ s, isDateChar c = true := by
  obtain ⟨y, m, rfl⟩ := exists_of_readMonth h
  intro c hc
  rcases List.mem_append.mp hc with hc | hc
  · exact isDateChar_of_places c hc
  · rcases List.mem_cons.mp hc with rfl | hc
    · decide
    · exact isDateChar_of_places c hc

private theorem isDateChar_of_readDay {s : List Char} {i : Instant} (h : readDay s = some i) :
    ∀ c ∈ s, isDateChar c = true := by
  rw [readDay, Option.bind_eq_bind] at h
  split at h
  · next date hdate =>
    obtain ⟨u, hu, hchars⟩ := takesDate_readDate hdate
    rw [List.append_nil] at hu
    rw [hu]
    exact hchars
  · obtain ⟨d, hd, -⟩ := Option.bind_eq_some_iff.mp h
    exact isDateChar_of_readMonth hd

/-- A text that is a timestamp has a colon, or else characters of dates only. -/
theorem colon_mem_or_isDateChar {text : String} {t : Timestamp} (h : parse text = .ok t) :
    ':' ∈ text.toList ∨ ∀ c ∈ text.toList, isDateChar c = true := by
  obtain ⟨i, hread, -⟩ := parse_eq_ok.mp h
  split at hread
  · exact Or.inl (colon_mem_of_readDateTime hread)
  · exact Or.inr (isDateChar_of_readDay hread)

end Criteria.Timestamp
