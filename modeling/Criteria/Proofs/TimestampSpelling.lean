/-
How strictly a timestamp is spelled.

The fields of an offset and of a month are read as whole numbers, and of each only the length is
checked.  A whole number may have a sign, so a field may have one in its first place.  Then it has
a digit less, and where the sign is a minus in an offset, the offset is counted the wrong way.

This is the one liberty that is taken.  A text that is read has an offset in figures, or the figures
of a year and a month, exactly when none of these fields has a sign of its own.
-/
import Criteria.Proofs.TimestampForm

namespace Criteria.Timestamp

open Criteria.Text

/-! ### Offsets -/

/-- A text ends in an offset, and in one of its fields a sign takes the first place. -/
def SignInOffset (s : List Char) : Prop :=
  ∃ before sign hours minutes,
    s = before ++ offsetChars sign hours minutes ∧ (hours.IsSigned ∨ minutes.IsSigned)

private theorem isSigned_congr {width : Nat} {p q : Places width} (h : p.chars = q.chars) :
    p.IsSigned ↔ q.IsSigned := by
  rw [Places.isSigned_iff, Places.isSigned_iff, h]

/-- A text ends in one offset only. -/
theorem offsetChars_inj {s s' : List Char} {sign sign' : Sign}
    {hours minutes hours' minutes' : Places 2}
    (h : s ++ offsetChars sign hours minutes = s' ++ offsetChars sign' hours' minutes') :
    hours.chars = hours'.chars ∧ minutes.chars = minutes'.chars := by
  have hlen : (offsetChars sign hours minutes).length =
      (offsetChars sign' hours' minutes').length := by
    rw [length_offsetChars, length_offsetChars]
  obtain ⟨-, hoffset⟩ := List.append_inj' h hlen
  obtain ⟨-, hfields⟩ := List.cons.inj hoffset
  obtain ⟨hhours, hminutes⟩ := List.append_inj hfields
    (hours.length_chars.trans hours'.length_chars.symm)
  exact ⟨hhours, (List.cons.inj hminutes).2⟩

private theorem not_signInOffset_letter (s : List Char) : ¬ SignInOffset (s ++ ['Z']) := by
  rintro ⟨before, sign, hours, minutes, heq, -⟩
  have hlast : (s ++ ['Z']).getLast? = some 'Z' := by simp
  rw [heq] at hlast
  exact getLast?_offsetChars before sign hours minutes hlast

theorem signInOffset_iff (before : List Char) (sign : Sign) (hours minutes : Places 2) :
    SignInOffset (before ++ offsetChars sign hours minutes) ↔
      (hours.IsSigned ∨ minutes.IsSigned) := by
  constructor
  · rintro ⟨before', sign', hours', minutes', heq, hsigned⟩
    obtain ⟨hhours, hminutes⟩ := offsetChars_inj heq
    rwa [isSigned_congr hhours, isSigned_congr hminutes]
  · intro hsigned
    exact ⟨before, sign, hours, minutes, rfl, hsigned⟩

/-- Where an offset is in figures no field has a sign. -/
theorem not_signInOffset_zone (before : List Char) (zone : Zone) :
    ¬ SignInOffset (before ++ zone.chars) := by
  cases zone with
  | utc => exact not_signInOffset_letter before
  | shifted sign hours minutes =>
      show ¬ SignInOffset (before ++ offsetChars sign (.plain hours) (.plain minutes))
      rw [signInOffset_iff]
      exact not_or.mpr ⟨id, id⟩

/-- Of a text that is parted, the end is an offset in figures or has a sign in a field. -/
theorem zone_iff_of_splitOffset {s before : List Char} {offset : Int}
    (h : splitOffset s = some (before, offset)) :
    (∃ before zone, s = before ++ Zone.chars zone) ↔ ¬ SignInOffset s := by
  constructor
  · rintro ⟨before', zone, rfl⟩
    exact not_signInOffset_zone before' zone
  · intro hplain
    rcases exists_of_splitOffset h with rfl | ⟨sign, hours, minutes, rfl⟩
    · exact ⟨before, .utc, rfl⟩
    · rw [signInOffset_iff, not_or] at hplain
      obtain ⟨hour, hhour⟩ := Places.exists_numeral hplain.1
      obtain ⟨minute, hminute⟩ := Places.exists_numeral hplain.2
      refine ⟨before, .shifted sign hour minute, ?_⟩
      rw [offsetChars, ← hhour, ← hminute]
      rfl

/-! ### Months -/

/-- A date has a hyphen on either side of its month. -/
theorem two_le_count_of_readDate {d : Calendar.Date} {s rest : List Char}
    (h : readDate s = some (d, rest)) : 2 ≤ s.count '-' := by
  simp only [readDate, Option.bind_eq_bind, Option.bind_eq_some_iff, expect_eq_some] at h
  obtain ⟨⟨y, s₁⟩, hyear, s₂, rfl, ⟨m, s₃⟩, hmonth, s₄, rfl, -⟩ := h
  obtain ⟨u, rfl, -⟩ := takesDate_year hyear
  obtain ⟨v, rfl, -⟩ := takesDate_field hmonth
  simp only [List.count_append, List.count_cons_self]
  omega

private theorem plus_not_mem_month (y : Numeral 4) (m : Numeral 2) :
    '+' ∉ (Form.month y m).chars := by
  simp [Form.chars, Numeral.not_mem_digits]

/-- Of a text with one hyphen that is read, the fields are figures or one of them has a sign. -/
theorem month_iff_of_readDay {s : List Char} {i : Instant} (h : readDay s = some i)
    (hcount : s.count '-' = 1) : (∃ y m, s = (Form.month y m).chars) ↔ '+' ∉ s := by
  constructor
  · rintro ⟨y, m, rfl⟩
    exact plus_not_mem_month y m
  · intro hplus
    have hmonth : ∃ d, readMonth s = some d := by
      rw [readDay, Option.bind_eq_bind] at h
      split at h
      · next date hdate =>
        have htwo := two_le_count_of_readDate hdate
        omega
      · obtain ⟨d, hd, -⟩ := Option.bind_eq_some_iff.mp h
        exact ⟨d, hd⟩
    obtain ⟨d, hd⟩ := hmonth
    obtain ⟨y, m, rfl⟩ := exists_of_readMonth hd
    rw [List.count_append, List.count_cons_self] at hcount
    have hy : '-' ∉ y.chars := List.count_eq_zero.mp (by omega)
    have hm : '-' ∉ m.chars := List.count_eq_zero.mp (by omega)
    have hplain : ∀ {width : Nat} {p : Places width}, '-' ∉ p.chars → '+' ∉ p.chars →
        ¬ p.IsSigned := by
      intro width p hminus hplus hsigned
      obtain ⟨sign, hmem⟩ := Places.isSigned_iff.mp hsigned
      cases sign with
      | plus => exact hplus hmem
      | minus => exact hminus hmem
    obtain ⟨year, hyear⟩ := Places.exists_numeral
      (hplain hy (fun hmem => hplus (List.mem_append_left _ hmem)))
    obtain ⟨month, hmonth⟩ := Places.exists_numeral
      (hplain hm (fun hmem => hplus (List.mem_append_right _ (List.mem_cons_of_mem _ hmem))))
    refine ⟨year, month, ?_⟩
    rw [Form.chars, hyear, hmonth]

/-! ### Whole texts -/

/-- **Offsets and months are spelled in figures, but for signs in their fields.**  A text with a
time that is read ends in `Z` or in an offset in figures exactly when no field of the offset begins
with a sign, and a text without one that has a single hyphen is a year and a month in figures
exactly when it has no plus. -/
theorem spelled_in_figures_iff {text : String} {t : Timestamp} (h : parse text = .ok t) :
    ('T' ∈ text.toList →
      ((∃ before zone, text.toList = before ++ Zone.chars zone) ↔ ¬ SignInOffset text.toList)) ∧
      ('T' ∉ text.toList → text.toList.count '-' = 1 →
        ((∃ y m, text.toList = (Form.month y m).chars) ↔ '+' ∉ text.toList)) := by
  obtain ⟨i, hread, -⟩ := parse_eq_ok.mp h
  constructor
  · intro hletter
    rw [if_pos (List.contains_iff_mem.mpr hletter)] at hread
    simp only [readDateTime, Option.bind_eq_bind, Option.bind_eq_some_iff] at hread
    obtain ⟨⟨before, offset⟩, hsplit, -⟩ := hread
    exact zone_iff_of_splitOffset hsplit
  · intro hletter hcount
    rw [if_neg (mt List.contains_iff_mem.mp hletter)] at hread
    exact month_iff_of_readDay hread hcount

/-- Six in the evening, UTC, where half past eleven is written five and a half hours ahead. -/
def evening : Timestamp := ⟨1147888800, 0, by decide⟩

/-- The first midnight of May 2006. -/
def firstOfMay : Timestamp := ⟨1146441600, 0, by decide⟩

/-- An offset and a month in figures are read. -/
theorem spelled_in_figures_evening :
    parse "2006-05-17T23:30+05:30" = .ok evening ∧
      'T' ∈ "2006-05-17T23:30+05:30".toList ∧
      ((∃ before zone, "2006-05-17T23:30+05:30".toList = before ++ Zone.chars zone) ↔
        ¬ SignInOffset "2006-05-17T23:30+05:30".toList) ∧
      parse "2006-05" = .ok firstOfMay ∧ 'T' ∉ "2006-05".toList ∧
      "2006-05".toList.count '-' = 1 ∧
      ((∃ y m, "2006-05".toList = (Form.month y m).chars) ↔ '+' ∉ "2006-05".toList) := by
  have hmoment : parse "2006-05-17T23:30+05:30" = .ok evening := by decide +kernel
  have hmonth : parse "2006-05" = .ok firstOfMay := rfl
  have hletter : 'T' ∈ "2006-05-17T23:30+05:30".toList := by decide
  have hnone : 'T' ∉ "2006-05".toList := by decide
  have hcount : "2006-05".toList.count '-' = 1 := by decide
  exact ⟨hmoment, hletter, (spelled_in_figures_iff hmoment).1 hletter, hmonth, hnone, hcount,
    (spelled_in_figures_iff hmonth).2 hnone hcount⟩

/-- Four in the morning of the next day. -/
def morning : Timestamp := ⟨1147924800, 0, by decide⟩

/-- A second sign is read in an offset, which then is four and a half hours behind, and a plus in
a month. -/
theorem not_in_figures_signedHours :
    parse "2006-05-17T23:30+-5:30" = .ok morning ∧
      parse "2006-05-18T04:00Z" = .ok morning ∧
      (¬ ∃ before zone, "2006-05-17T23:30+-5:30".toList = before ++ Zone.chars zone) ∧
      parse "2006-+5" = .ok firstOfMay ∧ parse "2006-05" = .ok firstOfMay ∧
      "2006-+5".toList.count '-' = 1 ∧
      ¬ ∃ y m, "2006-+5".toList = (Form.month y m).chars := by
  refine ⟨rfl, rfl, ?_, rfl, rfl, by decide, ?_⟩
  · rintro ⟨before, zone, heq⟩
    have hplain := not_signInOffset_zone before zone
    rw [← heq] at hplain
    have hsigned : (Places.signed .minus (.padded 5 (by decide)) : Places 2).IsSigned := trivial
    exact hplain ⟨"2006-05-17T23:30".toList, .plus, _, .plain (.padded 30 (by decide)), rfl,
      Or.inl hsigned⟩
  · rintro ⟨y, m, heq⟩
    have hplus := plus_not_mem_month y m
    rw [← heq] at hplus
    exact hplus (by decide)

end Criteria.Timestamp
