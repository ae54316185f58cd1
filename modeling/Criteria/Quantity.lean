/-
Quantities: a whole number, a binary prefix and a unit name, as in `42kHz`.

A quantity is a spelling, so `1kHz` and `1024Hz` are two quantities.  They denote
the same amount, and `compare?` is about amounts.  Every quantity that exists can
be written: its magnitude is a 64-bit number, and its unit name reads back from
the text, which a name that opens with a prefix letter would not do unless a
prefix stands before it.
-/
import Criteria.Text.Numeral
import Criteria.Value.Error

namespace Criteria

/-- A binary prefix.  Each step multiplies the magnitude by 1024. -/
inductive UnitPrefix where
  | kilo
  | mega
  | giga
  | tera
  | peta
deriving DecidableEq, Repr

namespace UnitPrefix

def ofChar? : Char → Option UnitPrefix
  | 'k' => some .kilo
  | 'M' => some .mega
  | 'G' => some .giga
  | 'T' => some .tera
  | 'P' => some .peta
  | _ => none

def toChar : UnitPrefix → Char
  | .kilo => 'k'
  | .mega => 'M'
  | .giga => 'G'
  | .tera => 'T'
  | .peta => 'P'

/-- The power of 1024 a prefix stands for. -/
def rank : UnitPrefix → Nat
  | .kilo => 1
  | .mega => 2
  | .giga => 3
  | .tera => 4
  | .peta => 5

theorem ofChar?_toChar (p : UnitPrefix) : ofChar? p.toChar = some p := by cases p <;> rfl

theorem toChar_of_ofChar? {c : Char} {p : UnitPrefix} (h : ofChar? c = some p) :
    p.toChar = c := by
  unfold ofChar? at h
  split at h <;> simp_all [toChar] <;> subst h <;> rfl

end UnitPrefix

namespace Quantity

/-- The least magnitude, that of a signed 64-bit number. -/
def minMagnitude : Int := -9223372036854775808

/-- The greatest magnitude. -/
def maxMagnitude : Int := 9223372036854775807

/-- Whether a magnitude is a signed 64-bit number. -/
def isMagnitude (magnitude : Int) : Bool :=
  decide (minMagnitude ≤ magnitude) && decide (magnitude ≤ maxMagnitude)

theorem isMagnitude_iff {i : Int} :
    isMagnitude i = true ↔ minMagnitude ≤ i ∧ i ≤ maxMagnitude := by
  rw [isMagnitude, Bool.and_eq_true, decide_eq_true_iff, decide_eq_true_iff]

/-- Whether a text opens with the letter of a prefix. -/
def opensWithPrefix : List Char → Bool
  | [] => false
  | c :: _ => (UnitPrefix.ofChar? c).isSome

/-- Whether a unit name reads back after `unitPrefix`: it is made of letters, and
without a prefix before it does not open with one. -/
def writable (unitPrefix : Option UnitPrefix) (unit : List Char) : Bool :=
  unit.all Char.isAlpha && (unitPrefix.isSome || !opensWithPrefix unit)

end Quantity

/-- A magnitude, a prefix and a unit name that can be written as one literal. -/
structure Quantity where
  magnitude : Int
  unitPrefix : Option UnitPrefix
  unit : Option String
  bounded : Quantity.isMagnitude magnitude = true := by rfl
  named : unit ≠ some "" := by simp
  readsBack : ∀ u ∈ unit, Quantity.writable unitPrefix u.toList = true := by simp
deriving DecidableEq

namespace Quantity

/-- The unit a text names; the empty text names none. -/
def unitOf (unit : List Char) : Option String :=
  if unit.isEmpty then none else some (String.ofList unit)

/-- The quantity of these parts, if it can be written. -/
def ofParts (magnitude : Int) (unitPrefix : Option UnitPrefix) (unit : List Char) :
    Except ValueError Quantity :=
  if hf : isMagnitude magnitude = true then
    if hw : writable unitPrefix unit = true then
      .ok {
        magnitude, unitPrefix, unit := unitOf unit, bounded := hf
        named := by
          unfold unitOf
          split
          · simp
          · next h =>
            intro hu
            have := congrArg String.toList (Option.some.inj hu)
            simp_all
        readsBack := by
          unfold unitOf
          split
          · simp
          · intro u hu
            cases hu
            simpa using hw }
    else .error (.invalidUnit (String.ofList unit))
  else .error (.magnitudeOverflow (String.ofList (Text.intChars magnitude)))

/-- The quantity of a magnitude, a prefix letter and a unit name.  A letter that is
no prefix is reported before anything else. -/
def ofLetter (magnitude : Int) (letter : Option Char) (unit : Option String) :
    Except ValueError Quantity :=
  let unit := unit.elim [] String.toList
  match letter with
  | none => ofParts magnitude none unit
  | some c =>
    match UnitPrefix.ofChar? c with
    | none => .error (.invalidPrefix c)
    | some p => ofParts magnitude (some p) unit

/-- What follows the number of a literal: a prefix letter where there is one, and
the unit name after it. -/
def splitSuffix : List Char → Option UnitPrefix × List Char
  | [] => (none, [])
  | c :: rest =>
    match UnitPrefix.ofChar? c with
    | some p => (some p, rest)
    | none => (none, c :: rest)

/-- A minus sign at the head of a text, and the text behind it. -/
def splitSign : List Char → List Char × List Char
  | '-' :: rest => (['-'], rest)
  | s => ([], s)

/-- Reads `-?[0-9]+[kMGTP]?[A-Za-z]*`. -/
def parse (text : String) : Except ValueError Quantity :=
  let (sign, body) := splitSign text.toList
  let digits := body.takeWhile Char.isDigit
  let suffix := body.dropWhile Char.isDigit
  if digits.isEmpty || !suffix.all Char.isAlpha then
    .error (.invalidQuantity text)
  else
    let size : Int := Text.readDigits digits
    let magnitude := if sign.isEmpty then size else -size
    if isMagnitude magnitude then
      let (unitPrefix, unit) := splitSuffix suffix
      ofParts magnitude unitPrefix unit
    else .error (.magnitudeOverflow (String.ofList (sign ++ digits)))

/-- A number without prefix or unit. -/
def plain (magnitude : Int) : Except ValueError Quantity := ofParts magnitude none []

/-- The literal of a quantity. -/
def chars (q : Quantity) : List Char :=
  Text.intChars q.magnitude ++ (q.unitPrefix.map UnitPrefix.toChar).toList ++
    q.unit.elim [] String.toList

instance : ToString Quantity := ⟨fun q => String.ofList q.chars⟩

/-! ### Amounts -/

/-- The power of 1024 that a prefix stands for; the zeroth where there is none. -/
def rank (unitPrefix : Option UnitPrefix) : Nat := unitPrefix.elim 0 UnitPrefix.rank

/-- The amount a quantity denotes, in the bits of a signed number of twice the width of a
magnitude.  Each power of 1024 shifts by ten places. -/
def word (q : Quantity) : BitVec 128 := BitVec.ofInt 128 q.magnitude <<< (10 * rank q.unitPrefix)

/-- The amount a quantity denotes. -/
def amount (q : Quantity) : Int := q.word.toInt

/-- Two quantities compare unless each names a unit and the names differ. -/
def comparable (a b : Quantity) : Bool :=
  match a.unit, b.unit with
  | some u, some v => u == v
  | _, _ => true

/-- Compares two amounts. -/
def compare? (a b : Quantity) : Except ValueError Ordering :=
  if comparable a b then .ok (compare a.amount b.amount)
  else .error (.unitConflict (a.unit.getD "") (b.unit.getD ""))

/-- Whether two amounts are equal. -/
def sameAmount? (a b : Quantity) : Except ValueError Bool :=
  (compare? a b).map Ordering.isEq

end Quantity

end Criteria
