/-
Versions: components between dots, as in `42.43.441_RC-45`.

Two versions compare component by component, and a component that one of them
lacks counts as `0`, so `42` and `42.0` are equal without being the same text.  A
component of digits that stands for a 64-bit number is compared as that number
and comes before every other component; all others compare as texts.
-/
import Criteria.Text.Numeral
import Criteria.Value.Error

namespace Criteria

namespace Version

/-- The characters a component is made of. -/
def isPartChar (c : Char) : Bool := c.isAlphanum || c == '_' || c == '-'

/-- Whether a text is a component. -/
def isPart (part : String) : Bool := !part.toList.isEmpty && part.toList.all isPartChar

/-- Whether the first component opens with a digit. -/
def leadsWithDigit : List String → Bool
  | [] => false
  | part :: _ => part.toList.head?.any Char.isDigit

/-- What a component counts as in a comparison. -/
inductive Key where
  | number (n : Nat)
  | text (s : String)
deriving DecidableEq, Repr

/-- Numbers from here on are compared as texts. -/
def numberBound : Nat := 18446744073709551616

def Key.of (part : String) : Key :=
  match Text.readNat? part.toList with
  | some n => if n < numberBound then .number n else .text part
  | none => .text part

/-- Numbers come first, in their own order; texts follow in theirs. -/
def Key.compare : Key → Key → Ordering
  | .number m, .number n => Ord.compare m n
  | .number _, .text _ => .lt
  | .text _, .number _ => .gt
  | .text s, .text t => Ord.compare s t

/-- The component that counts where a version has none. -/
def zeroPart : String := "0"

/-- Compares component by component, the first difference deciding. -/
def compareParts : List String → List String → Ordering
  | [], [] => .eq
  | [], q :: qs => ((Key.of zeroPart).compare (Key.of q)).then (compareParts [] qs)
  | p :: ps, [] => ((Key.of p).compare (Key.of zeroPart)).then (compareParts ps [])
  | p :: ps, q :: qs => ((Key.of p).compare (Key.of q)).then (compareParts ps qs)

end Version

/-- Components as they are written.  The first opens with a digit. -/
structure Version where
  parts : List String
  leading : Version.leadsWithDigit parts = true
  wellFormed : parts.all Version.isPart = true

namespace Version

/-- Splits at the dots. -/
def parse (text : String) : Except ValueError Version :=
  let parts := (text.toList.splitOn '.').map String.ofList
  if h : leadsWithDigit parts = true ∧ parts.all isPart = true then
    .ok ⟨parts, h.1, h.2⟩
  else .error (.invalidVersion text)

def compare (a b : Version) : Ordering := compareParts a.parts b.parts

instance : Ord Version := ⟨compare⟩

/-- Equality is that of the order, so `1.0` equals `01.0.0`. -/
instance : BEq Version := ⟨fun a b => (compare a b).isEq⟩

/-- The text of a version has two components at least, without which it would
read as a number. -/
def chars (v : Version) : List Char :=
  match v.parts with
  | [only] => only.toList ++ '.' :: zeroPart.toList
  | parts => ['.'].intercalate (parts.map String.toList)

instance : ToString Version := ⟨fun v => String.ofList v.chars⟩

end Version

end Criteria
