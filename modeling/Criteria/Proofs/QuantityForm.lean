/-
The texts of quantities, exactly.

A text is read as a quantity just when it is spelled as one, a sign, digits and letters, and its
number is a magnitude.  The letters are a prefix and a unit name if the first of them is that of a
prefix, and a unit name otherwise.  What is not so spelled is malformed, what has too large a number
overflows, and nothing else can go wrong: letters that are read always make a unit name that could
have been written.

That is also what the parts of a quantity are checked for.  Parts make a quantity just when they
are read back after they were written one behind the other, where a unit name might be taken for a
prefix and a digit for a part of the number.
-/
import Criteria.Proofs.Quantity

namespace Criteria.Quantity

open Criteria.Text

/-! ### Letters -/

theorem splitSuffix_cases (letters : List Char) :
    (∃ p rest, letters = UnitPrefix.toChar p :: rest ∧ splitSuffix letters = (some p, rest)) ∨
      (∀ p rest, letters ≠ UnitPrefix.toChar p :: rest) ∧
        splitSuffix letters = (none, letters) := by
  cases letters with
  | nil => exact Or.inr ⟨nofun, rfl⟩
  | cons c rest =>
      cases hc : UnitPrefix.ofChar? c with
      | some p =>
          rw [← UnitPrefix.toChar_of_ofChar? hc, splitSuffix, UnitPrefix.ofChar?_toChar]
          exact Or.inl ⟨p, rest, rfl, rfl⟩
      | none =>
          refine Or.inr ⟨fun p rest' h => ?_, by simp only [splitSuffix, hc]⟩
          rw [(List.cons.inj h).1, UnitPrefix.ofChar?_toChar] at hc
          cases hc

/-- Letters that are read make a unit name that can be written. -/
theorem writable_splitSuffix {letters : List Char} (h : ∀ c ∈ letters, c.isAlpha = true) :
    writable (splitSuffix letters).1 (splitSuffix letters).2 = true := by
  rcases splitSuffix_cases letters with ⟨p, rest, rfl, hsplit⟩ | ⟨hnone, hsplit⟩
  · rw [hsplit, writable, Bool.and_eq_true_iff]
    exact ⟨List.all_eq_true.mpr fun c hc => h c (List.mem_cons_of_mem _ hc), rfl⟩
  · rw [hsplit, writable, Bool.and_eq_true_iff]
    refine ⟨List.all_eq_true.mpr h, ?_⟩
    cases letters with
    | nil => rfl
    | cons c rest =>
        cases hc : UnitPrefix.ofChar? c with
        | none => simp [opensWithPrefix, hc]
        | some p => exact absurd (UnitPrefix.toChar_of_ofChar? hc ▸ rfl) (hnone p rest)

namespace Spelling

/-- The quantity that a spelling stands for.  Its number is the magnitude.  The first letter is the
prefix where it is that of one, and what is left names the unit; where nothing is left there is
no unit. -/
def Denotes (s : Spelling) (q : Quantity) : Prop :=
  q.magnitude = s.number ∧
    ((∃ p rest, s.letters = UnitPrefix.toChar p :: rest ∧ q.unitPrefix = some p ∧
        q.unit = unitOf rest) ∨
      (∀ p rest, s.letters ≠ UnitPrefix.toChar p :: rest) ∧ q.unitPrefix = none ∧
        q.unit = unitOf s.letters)

theorem denotes_iff {s : Spelling} {q : Quantity} :
    s.Denotes q ↔ q.magnitude = s.number ∧ q.unitPrefix = (splitSuffix s.letters).1 ∧
      q.unit = unitOf (splitSuffix s.letters).2 := by
  rw [Denotes]
  refine and_congr_right fun _ => ?_
  rcases splitSuffix_cases s.letters with ⟨p, rest, hletters, hsplit⟩ | ⟨hnone, hsplit⟩
  · rw [hsplit]
    constructor
    · rintro (⟨p', rest', hletters', hfirst, hunit⟩ | ⟨hnone, -⟩)
      · rw [hletters] at hletters'
        obtain ⟨hchar, rfl⟩ := List.cons.inj hletters'
        obtain rfl := UnitPrefix.toChar_inj hchar
        exact ⟨hfirst, hunit⟩
      · exact absurd hletters (hnone p rest)
    · rintro ⟨hfirst, hunit⟩
      exact Or.inl ⟨p, rest, hletters, hfirst, hunit⟩
  · rw [hsplit]
    constructor
    · rintro (⟨p, rest, hletters, -⟩ | ⟨-, hparts⟩)
      · exact absurd hletters (hnone p rest)
      · exact hparts
    · exact fun hparts => Or.inr ⟨hnone, hparts⟩

/-- A spelling is read as the quantity that it stands for. -/
theorem parse_eq_ok {s : Spelling} {q : Quantity} : parse s.text = .ok q ↔ s.Denotes q := by
  rw [denotes_iff, parse_text]
  split
  · exact ofParts_eq_ok
  · next hfits =>
    simp only [reduceCtorEq, false_iff]
    rintro ⟨hmagnitude, -⟩
    exact hfits (hmagnitude ▸ q.bounded)

/-- Every spelling of a magnitude stands for a quantity. -/
theorem exists_denotes (s : Spelling) (h : isMagnitude s.number = true) : ∃ q, s.Denotes q := by
  have hparts : ∃ q,
      ofParts s.number (splitSuffix s.letters).1 (splitSuffix s.letters).2 = .ok q := by
    rw [ofParts, dif_pos h, dif_pos (writable_splitSuffix s.isAlpha)]
    exact ⟨_, rfl⟩
  obtain ⟨q, hq⟩ := hparts
  exact ⟨q, denotes_iff.mpr (ofParts_eq_ok.mp hq)⟩

end Spelling

/-! ### Texts -/

theorem parse_eq_ok {text : String} {q : Quantity} :
    parse text = .ok q ↔ ∃ s : Spelling, s.text = text ∧ s.Denotes q := by
  constructor
  · intro h
    by_cases hspelled : ∃ s : Spelling, s.text = text
    · obtain ⟨s, rfl⟩ := hspelled
      exact ⟨s, rfl, Spelling.parse_eq_ok.mp h⟩
    · rw [Spelling.parse_of_not_spelled hspelled] at h
      cases h
  · rintro ⟨s, rfl, hdenotes⟩
    exact Spelling.parse_eq_ok.mpr hdenotes

theorem parse_eq_error {text : String} {e : ValueError} :
    parse text = .error e ↔
      (∃ s : Spelling, s.text = text ∧ isMagnitude s.number = false ∧
          e = .magnitudeOverflow (String.ofList s.numberChars)) ∨
        (¬ ∃ s : Spelling, s.text = text) ∧ e = .invalidQuantity text := by
  constructor
  · intro h
    by_cases hspelled : ∃ s : Spelling, s.text = text
    · obtain ⟨s, rfl⟩ := hspelled
      cases hfits : isMagnitude s.number with
      | true =>
          obtain ⟨q, hq⟩ := s.exists_denotes hfits
          rw [Spelling.parse_eq_ok.mpr hq] at h
          cases h
      | false =>
          rw [s.parse_text, if_neg (by rw [hfits]; exact Bool.false_ne_true)] at h
          exact Or.inl ⟨s, rfl, hfits, (Except.error.inj h).symm⟩
    · rw [Spelling.parse_of_not_spelled hspelled] at h
      exact Or.inr ⟨hspelled, (Except.error.inj h).symm⟩
  · rintro (⟨s, rfl, hfits, rfl⟩ | ⟨hspelled, rfl⟩)
    · rw [s.parse_text, if_neg (by rw [hfits]; exact Bool.false_ne_true)]
    · exact Spelling.parse_of_not_spelled hspelled

/-- A text is read just when it spells a magnitude. -/
theorem exists_parse_iff {text : String} :
    (∃ q, parse text = .ok q) ↔ ∃ s : Spelling, s.text = text ∧ isMagnitude s.number = true := by
  constructor
  · rintro ⟨q, h⟩
    obtain ⟨s, htext, hdenotes⟩ := parse_eq_ok.mp h
    exact ⟨s, htext, hdenotes.1 ▸ q.bounded⟩
  · rintro ⟨s, rfl, hfits⟩
    obtain ⟨q, hq⟩ := s.exists_denotes hfits
    exact ⟨q, Spelling.parse_eq_ok.mpr hq⟩

/-! ### Parts -/

/-- The parts of a quantity, written one behind the other. -/
def written (magnitude : Int) (unitPrefix : Option UnitPrefix) (unit : Option String) : String :=
  String.ofList (intChars magnitude ++ (unitPrefix.map UnitPrefix.toChar).toList ++
    unit.elim [] String.toList)

private theorem unitOf_elim (unit : Option String) :
    unitOf (unit.elim [] String.toList) = unit.filter (· != "") := by
  cases unit with
  | none => rfl
  | some u =>
      rw [Option.elim_some, unitOf, String.ofList_toList]
      by_cases hu : u = ""
      · subst hu
        rfl
      · rw [Option.filter_some, if_pos (bne_iff_ne.mpr hu)]
        simp [hu]

/-- Parts make a quantity just when they are read back. -/
theorem ofParts_iff_read_back {magnitude : Int} {unitPrefix : Option UnitPrefix}
    {unit : Option String} {q : Quantity} :
    ofParts magnitude unitPrefix (unit.elim [] String.toList) = .ok q ↔
      parse (written magnitude unitPrefix unit) = .ok q ∧ q.magnitude = magnitude ∧
        q.unitPrefix = unitPrefix ∧ q.unit = unit.filter (· != "") := by
  rw [ofParts_eq_ok, unitOf_elim]
  constructor
  · rintro ⟨rfl, rfl, hunit⟩
    refine ⟨?_, rfl, rfl, hunit⟩
    have hchars : unit.elim [] String.toList = q.unit.elim [] String.toList := by
      rw [hunit, ← unitOf_elim, elim_unitOf]
    rw [written, hchars]
    exact parse_chars q
  · exact And.right

/-- **Reading and writing quantities are exact.**  The texts that are read are a sign, digits and
letters whose number is a magnitude, and they are read as they are spelled; a number that is too
large overflows, everything else is malformed, and no unit name is ever refused.  Parts make a
quantity just when, written one behind the other, they are read back.  And every quantity is read
back from its text. -/
theorem codec_exact :
    (∀ (text : String) (q : Quantity), parse text = .ok q ↔
      ∃ s : Spelling, s.text = text ∧ s.Denotes q) ∧
    (∀ text : String, (∃ q, parse text = .ok q) ↔
      ∃ s : Spelling, s.text = text ∧ isMagnitude s.number = true) ∧
    (∀ (text : String) (e : ValueError), parse text = .error e ↔
      (∃ s : Spelling, s.text = text ∧ isMagnitude s.number = false ∧
          e = .magnitudeOverflow (String.ofList s.numberChars)) ∨
        (¬ ∃ s : Spelling, s.text = text) ∧ e = .invalidQuantity text) ∧
    (∀ text unit : String, parse text ≠ .error (.invalidUnit unit)) ∧
    (∀ (magnitude : Int) (unitPrefix : Option UnitPrefix) (unit : Option String) (q : Quantity),
      ofParts magnitude unitPrefix (unit.elim [] String.toList) = .ok q ↔
        parse (written magnitude unitPrefix unit) = .ok q ∧ q.magnitude = magnitude ∧
          q.unitPrefix = unitPrefix ∧ q.unit = unit.filter (· != "")) ∧
    ∀ q : Quantity, parse (toString q) = .ok q := by
  refine ⟨fun text q => parse_eq_ok, fun text => exists_parse_iff, fun text e => parse_eq_error,
    ?_, fun magnitude unitPrefix unit q => ofParts_iff_read_back, parse_chars⟩
  intro text unit h
  rcases parse_eq_error.mp h with ⟨s, -, -, he⟩ | ⟨-, he⟩
  · cases he
  · cases he

end Criteria.Quantity
