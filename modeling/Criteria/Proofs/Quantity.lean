/-
Quantities are read back from their literals.

The three parts of a literal lie apart: digits and a sign, the letter of a prefix, and
letters that name a unit.  A unit name that would be taken for a prefix is no unit name
unless a prefix stands before it, so nothing is lost where the parts meet.

What the reader does with a text is said once, for every spelling: a sign, digits and letters.
The literal of a quantity is one of them.
-/
import Criteria.Proofs.Numeral
import Criteria.Quantity

namespace Criteria

open Criteria.Text

private theorem UnitPrefix.isAlpha_toChar (p : UnitPrefix) : p.toChar.isAlpha = true := by
  cases p <;> rfl

theorem UnitPrefix.toChar_inj {p p' : UnitPrefix} (h : p.toChar = p'.toChar) : p = p' := by
  have hread := ofChar?_toChar p
  rw [h, ofChar?_toChar] at hread
  exact (Option.some.inj hread).symm

namespace Quantity

/-- What follows the number of a literal. -/
def suffixChars (q : Quantity) : List Char :=
  (q.unitPrefix.map UnitPrefix.toChar).toList ++ q.unit.elim [] String.toList

theorem chars_eq (q : Quantity) : q.chars = intChars q.magnitude ++ q.suffixChars :=
  List.append_assoc _ _ _

theorem writable_unit (q : Quantity) :
    writable q.unitPrefix (q.unit.elim [] String.toList) = true := by
  cases hu : q.unit with
  | none => simp [writable, opensWithPrefix]
  | some u => exact q.readsBack u hu

theorem isAlpha_of_mem_suffixChars {q : Quantity} {c : Char} (h : c ∈ q.suffixChars) :
    c.isAlpha = true := by
  rcases List.mem_append.mp h with h | h
  · cases hp : q.unitPrefix with
    | none => simp [hp] at h
    | some p =>
        rw [hp] at h
        rw [List.mem_singleton.mp h]
        exact UnitPrefix.isAlpha_toChar p
  · have hall := (Bool.and_eq_true_iff.mp q.writable_unit).1
    exact List.all_eq_true.mp hall c h

/-- Where prefix and unit meet they are told apart. -/
theorem splitSuffix_suffixChars (q : Quantity) :
    splitSuffix q.suffixChars = (q.unitPrefix, q.unit.elim [] String.toList) := by
  have hwritable := (Bool.and_eq_true_iff.mp q.writable_unit).2
  unfold suffixChars
  cases hp : q.unitPrefix with
  | some p =>
      show splitSuffix (p.toChar :: _) = _
      simp only [splitSuffix, UnitPrefix.ofChar?_toChar]
      rfl
  | none =>
      rw [hp] at hwritable
      show splitSuffix (q.unit.elim [] String.toList) = _
      generalize q.unit.elim [] String.toList = unit at hwritable ⊢
      cases unit with
      | nil => rfl
      | cons c unit =>
          cases hc : UnitPrefix.ofChar? c with
          | none => simp only [splitSuffix, hc]
          | some p => simp [opensWithPrefix, hc] at hwritable

/-- Naming no unit and naming the empty one are the same. -/
theorem elim_unitOf (unit : List Char) : (unitOf unit).elim [] String.toList = unit := by
  rw [unitOf]
  split
  · next h => exact (List.isEmpty_iff.mp h).symm
  · exact String.toList_ofList

/-- The parts of a quantity make it again. -/
theorem ofParts_self (q : Quantity) :
    ofParts q.magnitude q.unitPrefix (q.unit.elim [] String.toList) = .ok q := by
  have hunit : unitOf (q.unit.elim [] String.toList) = q.unit := by
    cases hu : q.unit with
    | none => rfl
    | some u =>
        have hne : u.toList ≠ [] := by
          intro h
          apply q.named
          rw [hu, ← String.ofList_toList (s := u), h]
        rw [Option.elim_some, unitOf, if_neg (by simpa using hne), String.ofList_toList]
  simp only [ofParts, dif_pos q.bounded, dif_pos q.writable_unit, hunit]

/-- Parts make the quantity that has them, if there is one. -/
theorem ofParts_eq_ok {magnitude : Int} {unitPrefix : Option UnitPrefix} {unit : List Char}
    {q : Quantity} :
    ofParts magnitude unitPrefix unit = .ok q ↔
      q.magnitude = magnitude ∧ q.unitPrefix = unitPrefix ∧ q.unit = unitOf unit := by
  constructor
  · intro h
    rw [ofParts] at h
    split at h
    · split at h
      · cases h
        exact ⟨rfl, rfl, rfl⟩
      · cases h
    · cases h
  · rintro ⟨rfl, rfl, hunit⟩
    have hself := ofParts_self q
    rwa [hunit, elim_unitOf] at hself

/-! ### What is read -/

/-- A minus sign, or none. -/
def minus (negative : Bool) : List Char := if negative then ['-'] else []

private theorem exists_splitSign (s : List Char) :
    ∃ negative body, splitSign s = (minus negative, body) ∧ s = minus negative ++ body := by
  rw [splitSign.eq_def]
  split
  · next rest => exact ⟨true, rest, rfl, rfl⟩
  · exact ⟨false, s, rfl, rfl⟩

private theorem splitSign_minus {digits : List Char} (hne : digits ≠ [])
    (h : ∀ c ∈ digits, c.isDigit = true) (negative : Bool) (rest : List Char) :
    splitSign (minus negative ++ (digits ++ rest)) = (minus negative, digits ++ rest) := by
  cases negative with
  | true => rfl
  | false =>
      cases digits with
      | nil => exact absurd rfl hne
      | cons d digits =>
          have hd : d ≠ '-' := by
            rintro rfl
            exact absurd (h '-' List.mem_cons_self) (by decide)
          show splitSign (d :: (digits ++ rest)) = ([], d :: (digits ++ rest))
          rw [splitSign.eq_def]
          split
          · next hopen => exact absurd (List.cons.inj hopen).1 hd
          · rfl

/-- What may be written for a quantity: a minus sign or none, digits, and letters or none. -/
structure Spelling where
  negative : Bool
  digits : List Char
  letters : List Char
  digits_ne_nil : digits ≠ []
  isDigit : ∀ c ∈ digits, c.isDigit = true
  isAlpha : ∀ c ∈ letters, c.isAlpha = true

namespace Spelling

/-- The sign and the digits. -/
def numberChars (s : Spelling) : List Char := minus s.negative ++ s.digits

def chars (s : Spelling) : List Char := s.numberChars ++ s.letters

def text (s : Spelling) : String := String.ofList s.chars

/-- The whole number that the sign and the digits stand for. -/
def number (s : Spelling) : Int :=
  if s.negative then -(readDigits s.digits : Int) else readDigits s.digits

private theorem stops_letters (s : Spelling) : Stops Char.isDigit s.letters := by
  intro c hc
  have halpha := s.isAlpha c (List.mem_of_mem_head? hc)
  have hlt := toNat_lt_of_isAlphanum (isAlphanum_of_isAlpha halpha)
  refine forall_ascii (P := fun c => c.isAlpha = true → c.isDigit = false) ?_ c hlt halpha
  decide

/-- A spelling is read as its number and the parts of its letters, if the number is a magnitude. -/
theorem parse_text (s : Spelling) :
    parse s.text =
      if isMagnitude s.number = true then
        ofParts s.number (splitSuffix s.letters).1 (splitSuffix s.letters).2
      else .error (.magnitudeOverflow (String.ofList s.numberChars)) := by
  have hsplit : splitSign s.chars = (minus s.negative, s.digits ++ s.letters) := by
    rw [chars, numberChars, List.append_assoc]
    exact splitSign_minus s.digits_ne_nil s.isDigit s.negative s.letters
  have hnonempty : s.digits.isEmpty = false := by simpa using s.digits_ne_nil
  have hletters : s.letters.all Char.isAlpha = true := List.all_eq_true.mpr s.isAlpha
  have hnumber : (if (minus s.negative).isEmpty then (readDigits s.digits : Int)
      else -(readDigits s.digits : Int)) = s.number := by
    rw [number]
    cases s.negative <;> rfl
  simp only [parse, text, String.toList_ofList, hsplit,
    takeWhile_append_of_stops s.isDigit s.stops_letters,
    dropWhile_append_of_stops s.isDigit s.stops_letters, hnonempty, hletters, hnumber,
    Bool.not_true, Bool.or_self, Bool.false_eq_true, if_false, numberChars]

/-- What is no spelling is refused as such. -/
theorem parse_of_not_spelled {text : String} (h : ¬ ∃ s : Spelling, s.text = text) :
    parse text = .error (.invalidQuantity text) := by
  obtain ⟨negative, body, hsplit, htext⟩ := exists_splitSign text.toList
  simp only [parse, hsplit]
  refine if_pos (Decidable.byContradiction fun hspelled => ?_)
  simp only [Bool.or_eq_true, not_or, List.isEmpty_iff, Bool.not_eq_true', Bool.not_eq_false]
    at hspelled
  refine h ⟨⟨negative, _, _, hspelled.1, fun c => mem_takeWhile,
    List.all_eq_true.mp hspelled.2⟩, ?_⟩
  rw [Spelling.text, chars, numberChars, List.append_assoc, List.takeWhile_append_dropWhile,
    ← htext, String.ofList_toList]

end Spelling

/-- The quantity as it is written. -/
def spelling (q : Quantity) : Spelling where
  negative := decide (q.magnitude < 0)
  digits := natChars q.magnitude.natAbs
  letters := q.suffixChars
  digits_ne_nil := by
    obtain ⟨d, rest, hopen, -⟩ := natChars_cons q.magnitude.natAbs
    rw [hopen]
    exact List.cons_ne_nil d rest
  isDigit _ hc := isDigit_of_mem_natChars hc
  isAlpha _ hc := isAlpha_of_mem_suffixChars hc

theorem chars_spelling (q : Quantity) : q.spelling.chars = q.chars := by
  rw [chars_eq, intChars, Spelling.chars, Spelling.numberChars, minus]
  by_cases h : q.magnitude < 0
  · simp [spelling, h]
  · simp [spelling, h]

private theorem number_spelling (q : Quantity) : q.spelling.number = q.magnitude := by
  rw [Spelling.number, spelling, readDigits_natChars]
  by_cases h : q.magnitude < 0
  · simp only [h, decide_true, if_true]
    omega
  · simp only [h, decide_false, Bool.false_eq_true, if_false]
    omega

/-- A quantity is read back from its literal. -/
theorem parse_chars (q : Quantity) : parse (String.ofList q.chars) = .ok q := by
  rw [← chars_spelling]
  show parse q.spelling.text = _
  rw [Spelling.parse_text, number_spelling, if_pos q.bounded]
  show ofParts q.magnitude (splitSuffix q.suffixChars).1 (splitSuffix q.suffixChars).2 = _
  rw [splitSuffix_suffixChars]
  exact ofParts_self q

end Quantity

end Criteria
