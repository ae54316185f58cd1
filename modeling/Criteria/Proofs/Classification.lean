/-
What a token that opens like a number stands for.

Quantities, versions with a dot and timestamps are three kinds of texts, and no text is of two of
them.  A quantity has a hyphen at its head only, where no version has one, and a timestamp has a
colon, which neither of them has, or else a hyphen behind its head and digits and signs alone.

So the order in which a token is tried as one and the other takes nothing away.  A token is given
the value of its kind, whichever that is, and only a timestamp has to open with a year in figures
besides.
-/
import Criteria.Proofs.QuantityForm
import Criteria.Proofs.TimestampSpelling
import Criteria.Proofs.WellFormed

namespace Criteria

open Criteria.Text

/-! ### Characters of quantities -/

/-- A quantity opens with a digit or a minus sign, and then has letters and digits only. -/
theorem Quantity.cons_of_parse {text : String} {q : Quantity} (h : parse text = .ok q) :
    ∃ c rest, text.toList = c :: rest ∧ (c = '-' ∨ c.isDigit = true) ∧
      ∀ d ∈ rest, d.isAlphanum = true := by
  obtain ⟨s, rfl, -⟩ := parse_eq_ok.mp h
  obtain ⟨c, digits, hdigits⟩ := List.exists_cons_of_ne_nil s.digits_ne_nil
  have hunsigned : ∀ d ∈ s.digits ++ s.letters, d.isAlphanum = true := by
    intro d hd
    rcases List.mem_append.mp hd with hd | hd
    · exact isAlphanum_of_isDigit (s.isDigit d hd)
    · exact isAlphanum_of_isAlpha (s.isAlpha d hd)
  rw [Spelling.text, String.toList_ofList, Spelling.chars, Spelling.numberChars, List.append_assoc]
  cases s.negative with
  | true => exact ⟨'-', _, rfl, Or.inl rfl, hunsigned⟩
  | false =>
      rw [hdigits] at hunsigned ⊢
      refine ⟨c, digits ++ s.letters, rfl, Or.inr (s.isDigit c ?_), fun d hd => ?_⟩
      · rw [hdigits]
        exact List.mem_cons_self
      · exact hunsigned d (List.mem_cons_of_mem c hd)

/-- Apart from a minus sign at its head, a sign stands nowhere in a quantity. -/
theorem Quantity.not_mem_of_parse {text : String} {q : Quantity} (h : parse text = .ok q)
    {c : Char} (hsign : c ≠ '-') (hc : c.isAlphanum = false) : c ∉ text.toList := by
  obtain ⟨d, rest, htext, hd, hrest⟩ := cons_of_parse h
  rw [htext]
  intro hmem
  rcases List.mem_cons.mp hmem with rfl | hmem
  · have hdigit := isAlphanum_of_isDigit (hd.resolve_left hsign)
    rw [hc] at hdigit
    exact absurd hdigit Bool.false_ne_true
  · have halpha := hrest c hmem
    rw [hc] at halpha
    exact absurd halpha Bool.false_ne_true

private theorem Quantity.hyphen_not_mem_tail {text : String} {q : Quantity}
    (h : parse text = .ok q) :
    '-' ∉ text.toList.tail := by
  obtain ⟨c, rest, htext, -, hrest⟩ := cons_of_parse h
  rw [htext]
  exact fun hmem => absurd (hrest '-' hmem) (by decide)

/-! ### Characters of versions -/

/-- A version opens with a digit. -/
theorem Version.cons_of_parse {text : String} {v : Version} (h : parse text = .ok v) :
    ∃ c rest, text.toList = c :: rest ∧ c.isDigit = true := by
  have hlead := v.leading
  rw [parse_eq_ok.mp h, String.toList_intercalate]
  obtain ⟨part, parts, hparts⟩ := List.exists_cons_of_ne_nil v.parts_ne_nil
  rw [hparts] at hlead ⊢
  cases hpart : part.toList with
  | nil => simp [leadsWithDigit, hpart] at hlead
  | cons c rest =>
      have hc : c.isDigit = true := by simpa [leadsWithDigit, hpart] using hlead
      cases parts with
      | nil => exact ⟨c, rest, by simp [hpart], hc⟩
      | cons next parts =>
          rw [List.map_cons, List.map_cons, List.intercalate_cons_cons, hpart]
          exact ⟨c, _, rfl, hc⟩

/-- Between its dots a version has letters, digits, underscores and hyphens only. -/
theorem Version.colon_not_mem {text : String} {v : Version} (h : parse text = .ok v) :
    ':' ∉ text.toList := by
  rw [parse_eq_ok.mp h, String.toList_intercalate]
  intro hmem
  rcases eq_or_mem_of_mem_intercalate hmem with heq | ⟨p, hp, hcolon⟩
  · exact absurd heq (by decide)
  · obtain ⟨part, hpart, rfl⟩ := List.mem_map.mp hp
    have hchar := isPartChar_of_isPart (List.all_eq_true.mp v.wellFormed part hpart) hcolon
    exact absurd hchar (by decide)

/-! ### Characters of timestamps -/

/-- A date or a month has a hyphen, and not at its head. -/
theorem Timestamp.hyphen_mem_tail_of_readDay {s : List Char} {i : Instant}
    (h : readDay s = some i) : '-' ∈ s.tail := by
  rw [readDay, Option.bind_eq_bind] at h
  split at h
  · next date hdate =>
    have htwo := two_le_count_of_readDate hdate
    cases s with
    | nil => simp at htwo
    | cons c s =>
        rw [List.count_cons] at htwo
        refine List.count_pos_iff.mp (?_ : 0 < s.count '-')
        split at htwo <;> omega
  · obtain ⟨d, hmonth, -⟩ := Option.bind_eq_some_iff.mp h
    obtain ⟨y, m, rfl⟩ := exists_of_readMonth hmonth
    obtain ⟨c, more, hyear⟩ := List.exists_cons_of_length_eq_add_one y.length_chars
    rw [hyear]
    simp

/-- A timestamp has a colon, or a hyphen behind its head. -/
theorem Timestamp.colon_mem_or_hyphen_mem_tail {text : String} {t : Timestamp}
    (h : parse text = .ok t) : ':' ∈ text.toList ∨ '-' ∈ text.toList.tail := by
  obtain ⟨i, hread, -⟩ := parse_eq_ok.mp h
  split at hread
  · exact Or.inl (colon_mem_of_readDateTime hread)
  · exact Or.inr (hyphen_mem_tail_of_readDay hread)

/-! ### No text is of two kinds -/

theorem not_quantity_and_timestamp {text : String} {q : Quantity} {t : Timestamp}
    (hq : Quantity.parse text = .ok q) : Timestamp.parse text ≠ .ok t := by
  intro ht
  rcases Timestamp.colon_mem_or_hyphen_mem_tail ht with hcolon | hhyphen
  · exact Quantity.not_mem_of_parse hq (by decide) (by decide) hcolon
  · exact Quantity.hyphen_not_mem_tail hq hhyphen

theorem not_quantity_and_version {text : String} {q : Quantity} {v : Version}
    (hq : Quantity.parse text = .ok q) (hdot : '.' ∈ text.toList) :
    Version.parse text ≠ .ok v :=
  absurd hdot (Quantity.not_mem_of_parse hq (by decide) (by decide))

theorem not_timestamp_and_version {text : String} {t : Timestamp} {v : Version}
    (ht : Timestamp.parse text = .ok t) (hdot : '.' ∈ text.toList) :
    Version.parse text ≠ .ok v := by
  intro hv
  rcases Timestamp.colon_mem_or_isDateChar ht with hcolon | hdate
  · exact Version.colon_not_mem hv hcolon
  · exact absurd (hdate '.' hdot) (by decide)

namespace Source

/-! ### Classification -/

/-- Four digits and a hyphen are a year in figures and a hyphen. -/
theorem opensWithYear_iff {cs : List Char} :
    opensWithYear cs = true ↔ ∃ (year : Numeral 4) (rest : List Char),
      cs = year.digits ++ '-' :: rest := by
  constructor
  · intro h
    rw [opensWithYear.eq_def] at h
    split at h
    · next a b c d rest =>
      simp only [Bool.and_eq_true] at h
      refine ⟨⟨[a, b, c, d], rfl, ?_⟩, rest, rfl⟩
      simpa [and_assoc] using h
    · exact absurd h Bool.false_ne_true
  · rintro ⟨year, rest, rfl⟩
    exact opensWithYear_append year.length_eq year.isDigit rest

/-- A quantity is classified as what it is: its hyphen is at the head, and no dot is in it. -/
theorem classify_quantity {token : String} {q : Quantity} (h : Quantity.parse token = .ok q) :
    classify token = .ok (.quantity q) := by
  have hshape : token.toList.head? = some '-' ∨ ('-' ∉ token.toList ∧ '.' ∉ token.toList) := by
    have hdot := Quantity.not_mem_of_parse h (c := '.') (by decide) (by decide)
    obtain ⟨c, rest, htext, hc, hrest⟩ := Quantity.cons_of_parse h
    rcases hc with rfl | hdigit
    · exact Or.inl (by rw [htext]; rfl)
    · refine Or.inr ⟨?_, hdot⟩
      rw [htext]
      intro hmem
      rcases List.mem_cons.mp hmem with rfl | hmem
      · exact absurd hdigit (by decide)
      · exact absurd (hrest '-' hmem) (by decide)
  rw [← token.ofList_toList] at h ⊢
  exact classify_of_quantity h hshape

/-- A version with a dot is classified as what it is, whether it opens like a date or not. -/
theorem classify_version {token : String} {v : Version} (h : Version.parse token = .ok v)
    (hdot : '.' ∈ token.toList) : classify token = .ok (.version v) := by
  have hhead : token.toList.head? ≠ some '-' := by
    obtain ⟨c, rest, htext, hc⟩ := Version.cons_of_parse h
    rw [htext]
    rintro heq
    obtain rfl := Option.some.inj heq
    exact absurd hc (by decide)
  have hcolon := Version.colon_not_mem h
  rw [← token.ofList_toList] at h ⊢
  exact classify_of_version h hhead hdot hcolon

theorem classify_timestamp {token : String} {t : Timestamp} (h : Timestamp.parse token = .ok t)
    (hyear : opensWithYear token.toList = true) : classify token = .ok (.timestamp t) := by
  rw [← token.ofList_toList] at h ⊢
  exact classify_of_timestamp h hyear

/-- Whatever a token is classified as was read as such, a version only where it has a dot and a
timestamp only where it opens with a year. -/
theorem of_classify_eq_ok {token : String} {x : Value} (h : classify token = .ok x) :
    (∃ q, Quantity.parse token = .ok q ∧ x = .quantity q) ∨
      (∃ v, Version.parse token = .ok v ∧ '.' ∈ token.toList ∧ x = .version v) ∨
      ∃ t, Timestamp.parse token = .ok t ∧ opensWithYear token.toList = true ∧
        x = .timestamp t := by
  have hquantity (h : (Quantity.parse token).map .quantity = .ok x) :
      ∃ q, Quantity.parse token = .ok q ∧ x = .quantity q := by
    obtain ⟨q, hq, rfl⟩ := exists_of_map_eq_ok h
    exact ⟨q, hq, rfl⟩
  simp only [classify] at h
  split at h
  · exact Or.inl (hquantity h)
  split at h
  · next hyear =>
    split at h
    · next t ht => exact Or.inr (Or.inr ⟨t, ht, hyear, (Except.ok.inj h).symm⟩)
    · split at h
      · next hdot =>
        split at h
        · next v hv =>
          exact Or.inr (Or.inl ⟨v, hv, List.contains_iff_mem.mp hdot, (Except.ok.inj h).symm⟩)
        · cases h
      · cases h
  · split at h
    · next hdot =>
      obtain ⟨v, hv, rfl⟩ := exists_of_map_eq_ok h
      exact Or.inr (Or.inl ⟨v, hv, List.contains_iff_mem.mp hdot, rfl⟩)
    · exact Or.inl (hquantity h)

/-- **What a token stands for does not depend on what it is tried as first.**  No text is two of
these: a quantity, a timestamp, a version with a dot.  A token is classified just when it is a
quantity, or a version with a dot, or a timestamp that opens with four digits and a hyphen, and
then as the one that it is. -/
theorem classify_unambiguous (token : String) :
    ((∃ q, Quantity.parse token = .ok q) → ¬ ∃ t, Timestamp.parse token = .ok t) ∧
    ((∃ q, Quantity.parse token = .ok q) →
      ¬ ('.' ∈ token.toList ∧ ∃ v, Version.parse token = .ok v)) ∧
    ((∃ t, Timestamp.parse token = .ok t) →
      ¬ ('.' ∈ token.toList ∧ ∃ v, Version.parse token = .ok v)) ∧
    ∀ x, classify token = .ok x ↔
      (∃ q, Quantity.parse token = .ok q ∧ x = .quantity q) ∨
        (∃ v, Version.parse token = .ok v ∧ '.' ∈ token.toList ∧ x = .version v) ∨
        ∃ t, Timestamp.parse token = .ok t ∧
          (∃ (year : Numeral 4) (rest : List Char), token.toList = year.digits ++ '-' :: rest) ∧
          x = .timestamp t := by
  refine ⟨?_, ?_, ?_, fun x => ?_⟩
  · rintro ⟨q, hq⟩ ⟨t, ht⟩
    exact not_quantity_and_timestamp hq ht
  · rintro ⟨q, hq⟩ ⟨hdot, v, hv⟩
    exact not_quantity_and_version hq hdot hv
  · rintro ⟨t, ht⟩ ⟨hdot, v, hv⟩
    exact not_timestamp_and_version ht hdot hv
  · simp only [← opensWithYear_iff]
    constructor
    · exact of_classify_eq_ok
    · rintro (⟨q, hq, rfl⟩ | ⟨v, hv, hdot, rfl⟩ | ⟨t, ht, hyear, rfl⟩)
      · exact classify_quantity hq
      · exact classify_version hv hdot
      · exact classify_timestamp ht hyear

end Source

end Criteria
