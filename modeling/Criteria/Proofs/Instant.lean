/-
Timestamps as counts of milliseconds and as texts.

Outside leap seconds a timestamp, its milliseconds since the epoch and its canonical text all say
the same: each of them is got back from the others, and timestamps stand in the order of their
milliseconds.  What has a timestamp are the milliseconds of the days that have a date in the
years that may be written.

A leap second is counted on from a thousand milliseconds, and so neither holds there.  Its
milliseconds since the epoch are those of the second after it, which it comes before all the
same.  And they are written with four digits, of which three are read.

An instant is cut to the last timestamp that is not after it.
-/
import Criteria.Proofs.Timestamp

namespace Criteria.Timestamp

open Criteria.Text

/-! ### What a text is read back as -/

private theorem readFraction_lt {s rest : List Char} {nano : Nat}
    (h : readFraction s = some (nano, rest)) : nano < 1000000000 := by
  rw [readFraction.eq_def] at h
  split at h
  · next more =>
    obtain ⟨-, hlen, hdigits⟩ := takeDigits_spec 9 more
    simp only at h
    split at h
    · exact absurd h.symm (Option.some_ne_none _)
    · obtain ⟨rfl, -⟩ := Prod.mk.inj (Option.some.inj h)
      exact fractionNanos_lt hdigits hlen
  · obtain ⟨rfl, -⟩ := Prod.mk.inj (Option.some.inj h)
    decide

/-- A time of day is in a leap second only if its second is the sixtieth of a minute. -/
theorem second_of_readClock {clock : Clock} {s rest : List Char}
    (h : readClock s = some (clock, rest)) :
    clock.nano < 1000000000 ∨ clock.second % 60 = 59 := by
  simp only [readClock, Option.bind_eq_bind, Option.bind_eq_some_iff] at h
  obtain ⟨⟨hour, s₁⟩, -, s₂, -, ⟨minute, s₃⟩, -, h⟩ := h
  split at h
  · obtain ⟨rfl, -⟩ := Prod.mk.inj (Option.some.inj h)
    exact Or.inl (Nat.zero_lt_succ 999999999)
  · simp only [Option.bind_eq_some_iff] at h
    obtain ⟨⟨second, s₄⟩, -, ⟨nano, s₅⟩, hnano, h⟩ := h
    split at h
    · obtain ⟨rfl, -⟩ := Prod.mk.inj (Option.some.inj h)
      right
      simp only
      omega
    · obtain ⟨rfl, -⟩ := Prod.mk.inj (Option.some.inj h)
      exact Or.inl (readFraction_lt hnano)

/-- An offset is a whole number of minutes. -/
theorem offset_of_splitOffset {s before : List Char} {offset : Int}
    (h : splitOffset s = some (before, offset)) : offset % 60 = 0 := by
  rcases exists_of_splitOffset h with rfl | ⟨sign, hours, minutes, rfl⟩
  · rw [splitOffset_letter] at h
    obtain ⟨-, rfl⟩ := Prod.mk.inj (Option.some.inj h)
    rfl
  · rw [splitOffset_places, readOffset_places] at h
    split at h
    · obtain ⟨-, rfl⟩ := Prod.mk.inj (Option.some.inj h)
      cases sign with
      | plus =>
          simp only [Sign.factor]
          omega
      | minus =>
          simp only [Sign.factor]
          omega
    · exact absurd h.symm (Option.some_ne_none _)

/-- A day is read as its first instant. -/
theorem nano_of_readDay {s : List Char} {i : Instant} (h : readDay s = some i) : i.nano = 0 := by
  rw [readDay, Option.bind_eq_bind] at h
  split at h
  · obtain ⟨date, -, hat⟩ := Option.bind_eq_some_iff.mp h
    exact (instantAt?_eq_some.mp hat).2
  · obtain ⟨date, -, hat⟩ := Option.bind_eq_some_iff.mp h
    exact (instantAt?_eq_some.mp hat).2

/-- A text puts a leap second only after the last second of a minute. -/
theorem second_of_leap {text : String} {t : Timestamp} (h : parse text = .ok t)
    (hleap : 1000 ≤ t.milli) : t.second % 60 = 59 := by
  obtain ⟨i, hread, rfl⟩ := parse_eq_ok.mp h
  have hnano : 1000 ≤ i.nano / 1000000 := hleap
  split at hread
  · simp only [readDateTime, Option.bind_eq_bind, Option.bind_eq_some_iff] at hread
    obtain ⟨⟨before, offset⟩, hsplit, ⟨date, s₁⟩, -, s₂, -, ⟨clock, s₃⟩, hclock, hread⟩ := hread
    have hoffset := offset_of_splitOffset hsplit
    have hsecond := second_of_readClock hclock
    simp only at hread
    split at hread
    · obtain ⟨hsum, hfraction⟩ := instantAt?_eq_some.mp hread
      show i.second % 60 = 59
      rw [hsum, dayLength]
      omega
    · exact absurd hread.symm (Option.some_ne_none i)
  · have hmidnight := nano_of_readDay hread
    omega

theorem reread_eq_self_iff {t : Timestamp} :
    t.reread = t ↔ t.milli < 1000 ∨ t.milli = 1111 ∧ t.second % 60 = 59 := by
  have hfields : t.reread = t ↔ t.reread.second = t.second ∧ t.reread.milli = t.milli :=
    ⟨fun h => ⟨congrArg second h, congrArg milli h⟩, fun h => ext_of_eq h.1 h.2⟩
  rw [hfields]
  simp only [reread]
  by_cases hless : t.milli < 1000
  · simp [hless]
  · by_cases hlast : t.second % 60 = 59
    · simp only [hless, hlast, or_true, if_true, if_false, true_and, and_true, false_or]
      omega
    · simp only [hless, hlast, or_false, if_false, and_false, iff_false]
      omega

/-- **A timestamp that a text gives is read back from its own text outside leap seconds**, and in a
leap second at one millisecond alone, where the digit that is lost is made up for.  What is read
is always a timestamp of the same second. -/
theorem read_back_iff_milli {text : String} {t : Timestamp} (h : parse text = .ok t) :
    (∃ d, parse (toString t) = .ok d ∧ d.second = t.second) ∧
      (parse (toString t) = .ok t ↔ t.milli < 1000 ∨ t.milli = 1111) := by
  have hlast : t.milli < 1000 ∨ t.second % 60 = 59 := by
    by_cases hless : t.milli < 1000
    · exact Or.inl hless
    · exact Or.inr (second_of_leap h (Nat.not_lt.mp hless))
  refine ⟨⟨t.reread, t.parse_toString, if_pos hlast⟩, ?_⟩
  rw [parse_toString, Except.ok.injEq, reread_eq_self_iff]
  omega

/-- A ninth of a second into the leap second before midnight. -/
def ninthOfLeapSecond : Timestamp := ⟨1147910399, 1111, by decide⟩

/-- Its text is `2006-05-17T23:59:60.1111+00:00`, and is read as it was written. -/
theorem read_back_ninthOfLeapSecond :
    parse "2006-05-17T23:59:60.111Z" = .ok ninthOfLeapSecond ∧ ninthOfLeapSecond.milli = 1111 ∧
      parse (toString ninthOfLeapSecond) = .ok ninthOfLeapSecond := by
  have hread : parse "2006-05-17T23:59:60.111Z" = .ok ninthOfLeapSecond := rfl
  exact ⟨hread, rfl, (read_back_iff_milli hread).2.mpr (Or.inr rfl)⟩

/-- The leap second before midnight. -/
def leapSecond : Timestamp := ⟨1147910399, 1000, by decide⟩

/-- Its text is `2006-05-17T23:59:60.1000+00:00`, and a tenth of a second more is read. -/
theorem not_read_back_leapSecond :
    parse "2006-05-17T23:59:60Z" = .ok leapSecond ∧
      parse (toString leapSecond) ≠ .ok leapSecond := by
  refine ⟨rfl, ?_⟩
  rw [parse_toString, Ne, Except.ok.injEq]
  decide

/-! ### The order -/

/-- A timestamp in a leap second counts no fewer milliseconds than one that comes after it, in the
second that follows. -/
def Overtakes (a b : Timestamp) : Prop := b.second = a.second + 1 ∧ 1000 + b.milli ≤ a.milli

/-- The two count the same milliseconds. -/
def Meets (a b : Timestamp) : Prop := b.second = a.second + 1 ∧ a.milli = 1000 + b.milli

private theorem compare_eq_lt {a b : Timestamp} (h : a.second < b.second) : a.compare b = .lt := by
  rw [compare, Int.compare_eq_lt.mpr h]
  rfl

private theorem compare_eq_gt {a b : Timestamp} (h : b.second < a.second) : a.compare b = .gt := by
  rw [compare, Int.compare_eq_gt.mpr h]
  rfl

theorem compare_of_second_eq {a b : Timestamp} (h : a.second = b.second) :
    a.compare b = Ord.compare a.epochMillis b.epochMillis := by
  rw [compare, Int.compare_eq_eq.mpr h, epochMillis, epochMillis]
  show Ord.compare a.milli b.milli = _
  rcases Nat.lt_trichotomy a.milli b.milli with hlt | heq | hgt
  · rw [Nat.compare_eq_lt.mpr hlt, Int.compare_eq_lt.mpr (by omega)]
  · rw [Nat.compare_eq_eq.mpr heq, Int.compare_eq_eq.mpr (by omega)]
  · rw [Nat.compare_eq_gt.mpr hgt, Int.compare_eq_gt.mpr (by omega)]

/-- Only a timestamp itself comes neither before it nor after it. -/
theorem compare_eq_eq {a b : Timestamp} : a.compare b = .eq ↔ a = b := by
  rw [compare, Ordering.then_eq_eq, Int.compare_eq_eq, Nat.compare_eq_eq]
  constructor
  · rintro ⟨hsecond, hmilli⟩
    exact ext_of_eq hsecond hmilli
  · rintro rfl
    exact ⟨rfl, rfl⟩

/-- **Timestamps stand in the order of their milliseconds since the epoch, but for a leap second
and the second after it.**  The two orders part exactly where one timestamp is in a leap second
and overtakes another, and equality and equal milliseconds where the two meet. -/
theorem compare_eq_epochMillis_iff (a b : Timestamp) :
    (a.compare b = Ord.compare a.epochMillis b.epochMillis ↔
        ¬ (a.Overtakes b ∨ b.Overtakes a)) ∧
      ((a = b ↔ a.epochMillis = b.epochMillis) ↔ ¬ (a.Meets b ∨ b.Meets a)) := by
  have ha := a.milli_lt
  have hb := b.milli_lt
  unfold Overtakes Meets
  rcases Int.lt_trichotomy a.second b.second with hlt | heq | hgt
  · have hne : a ≠ b := fun h => absurd (congrArg Timestamp.second h) (Int.ne_of_lt hlt)
    rw [compare_eq_lt hlt, eq_comm, Int.compare_eq_lt, epochMillis, epochMillis]
    simp only [hne, false_iff]
    omega
  · have hsame : a = b ↔ a.milli = b.milli := ⟨congrArg Timestamp.milli, ext_of_eq heq⟩
    rw [hsame, compare_of_second_eq heq, epochMillis, epochMillis]
    simp only [true_iff]
    omega
  · have hne : a ≠ b := fun h => absurd (congrArg Timestamp.second h).symm (Int.ne_of_lt hgt)
    rw [compare_eq_gt hgt, eq_comm, Int.compare_eq_gt, epochMillis, epochMillis]
    simp only [hne, false_iff]
    omega

/-- Midnight, after the leap second. -/
def midnight : Timestamp := ⟨1147910400, 0, by decide⟩

/-- The leap second has the milliseconds of midnight, and comes before it. -/
theorem leapSecond_lt_midnight :
    parse "2006-05-17T23:59:60Z" = .ok leapSecond ∧
      parse "2006-05-18T00:00:00Z" = .ok midnight ∧
      leapSecond.epochMillis = midnight.epochMillis ∧ leapSecond ≠ midnight ∧
      leapSecond.compare midnight ≠
        Ord.compare leapSecond.epochMillis midnight.epochMillis := by
  exact ⟨rfl, rfl, by decide, by decide, by decide⟩

/-! ### Instants -/

/-- The instant at which the millisecond of a timestamp begins. -/
def toInstant (t : Timestamp) : Instant where
  second := t.second
  nano := 1000000 * t.milli
  bounds := by
    obtain ⟨hsecond, hmilli⟩ := isInstant_iff.mp t.instant
    exact ⟨hsecond, by omega⟩

/-- One instant is not after another: its second is earlier, or the same with no later
nanosecond. -/
def NotAfter (i j : Instant) : Prop :=
  i.second < j.second ∨ i.second = j.second ∧ i.nano ≤ j.nano

/-- **An instant is cut to the last timestamp that is not after it.** -/
theorem isLE_compare_ofInstant_iff (t : Timestamp) (i : Instant) :
    (t.compare (ofInstant i)).isLE = true ↔ NotAfter t.toInstant i := by
  rw [compare, Ordering.isLE_then_iff_or, Int.compare_eq_lt, Int.compare_eq_eq, Nat.isLE_compare,
    NotAfter]
  simp only [toInstant, ofInstant]
  omega

theorem ofInstant_toInstant (t : Timestamp) : ofInstant t.toInstant = t := by
  refine ext_of_eq rfl ?_
  simp only [ofInstant, toInstant]
  omega

/-- The milliseconds since the epoch are the nanoseconds since then, rounded down. -/
theorem epochMillis_ofInstant (i : Instant) :
    (ofInstant i).epochMillis = (i.second * 1000000000 + i.nano) / 1000000 := by
  simp only [epochMillis, ofInstant]
  omega

/-! ### Milliseconds since the epoch -/

theorem ofEpochMillis_eq_ok {millis : Int} {t : Timestamp} :
    ofEpochMillis millis = .ok t ↔ t.milli < 1000 ∧ t.epochMillis = millis := by
  unfold ofEpochMillis epochMillis
  constructor
  · intro h
    split at h
    · next d hat =>
      cases h
      rw [at?] at hat
      split at hat
      · cases hat
        exact ⟨by simp only; omega, by simp only; omega⟩
      · cases hat
    · cases h
  · rintro ⟨hmilli, rfl⟩
    have hsecond : (t.second * 1000 + (t.milli : Int)) / 1000 = t.second := by omega
    have hrest : ((t.second * 1000 + (t.milli : Int)) % 1000).toNat = t.milli := by omega
    rw [hsecond, hrest, at?_eq]

/-- Milliseconds have a timestamp if their second is none before the first or after the last. -/
theorem exists_ofEpochMillis_iff {millis : Int} :
    (∃ t, ofEpochMillis millis = .ok t) ↔
      firstSecond ≤ millis / 1000 ∧ millis / 1000 ≤ lastSecond := by
  simp only [ofEpochMillis_eq_ok]
  constructor
  · rintro ⟨t, hmilli, rfl⟩
    have hsecond : t.epochMillis / 1000 = t.second := by
      unfold epochMillis
      omega
    rw [hsecond]
    exact (isInstant_iff.mp t.instant).1
  · intro hbounds
    have hinstant : isInstant (millis / 1000) (millis % 1000).toNat = true :=
      isInstant_iff.mpr ⟨hbounds, by omega⟩
    refine ⟨⟨_, _, hinstant⟩, ?_, ?_⟩
    · simp only
      omega
    · simp only [epochMillis]
      omega

/-- The milliseconds of a day. -/
def millisOfDay : Int := 86400000

open Calendar in
/-- **Milliseconds since the epoch and canonical texts are codes of one another.**  What has a
timestamp are the milliseconds of the days that the calendar counts to a date from 1 January
-262143 to 31 December 262142; the timestamp falls on that date, has just these milliseconds, and
is read back from its text.  All timestamps outside leap seconds are reached in this way. -/
theorem ofEpochMillis_codes (millis : Int) :
    (∀ t, ofEpochMillis millis = .ok t →
        t.epochMillis = millis ∧ Counted (millis / millisOfDay) t.date ∧
          parse (toString t) = .ok t) ∧
      ((∃ t, ofEpochMillis millis = .ok t) ↔
        ∃ d, Counted (millis / millisOfDay) d ∧ -262143 ≤ d.year ∧ d.year ≤ 262142) ∧
      ∀ t : Timestamp, t.milli < 1000 → ofEpochMillis t.epochMillis = .ok t := by
  refine ⟨?_, ?_, fun t ht => ofEpochMillis_eq_ok.mpr ⟨ht, rfl⟩⟩
  · intro t ht
    obtain ⟨hmilli, hmillis⟩ := ofEpochMillis_eq_ok.mp ht
    refine ⟨hmillis, counted_iff.mpr ?_, parse_chars hmilli⟩
    have hday : millis / millisOfDay = t.second / 86400 := by
      rw [← hmillis, epochMillis, millisOfDay]
      omega
    rw [hday]
    rfl
  · have hdate : (∃ d, Counted (millis / millisOfDay) d ∧ -262143 ≤ d.year ∧ d.year ≤ 262142) ↔
        firstYear ≤ (ofDayNumber (millis / millisOfDay)).year ∧
          (ofDayNumber (millis / millisOfDay)).year ≤ lastYear := by
      simp only [counted_iff, exists_eq_left']
      rfl
    rw [hdate, year_ofDayNumber_iff, exists_ofEpochMillis_iff, firstSecond_eq, lastSecond_eq,
      millisOfDay]
    omega

/-- A second before the year 0, and five milliseconds. -/
def lastBeforeYearZero : Timestamp := ⟨-62167219201, 5, by decide⟩

/-- Its milliseconds are negative, and its year has a sign. -/
theorem ofEpochMillis_codes_beforeYearZero :
    ofEpochMillis (-62167219200995) = .ok lastBeforeYearZero ∧
      lastBeforeYearZero.epochMillis = -62167219200995 ∧
      Calendar.Counted (-62167219200995 / millisOfDay) ⟨-1, 12, 31⟩ ∧
      toString lastBeforeYearZero = "-0001-12-31T23:59:59.005+00:00" ∧
      parse (toString lastBeforeYearZero) = .ok lastBeforeYearZero ∧
      lastBeforeYearZero.milli < 1000 ∧
      ofEpochMillis lastBeforeYearZero.epochMillis = .ok lastBeforeYearZero := by
  have hok : ofEpochMillis (-62167219200995) = .ok lastBeforeYearZero := rfl
  have hmilli : lastBeforeYearZero.milli < 1000 := by decide
  obtain ⟨hcodes, -, hall⟩ := ofEpochMillis_codes (-62167219200995)
  obtain ⟨hmillis, hdate, hread⟩ := hcodes lastBeforeYearZero hok
  exact ⟨hok, hmillis, hdate, rfl, hread, hmilli, hall lastBeforeYearZero hmilli⟩

end Criteria.Timestamp
