/-
Numerals: how whole numbers are written and read in base ten.

Only the digits `0` to `9` count.  Leading zeros are read and mean nothing, and
none is written unless a width asks for it.
-/
namespace Criteria.Text

/-- The number a run of digits stands for. -/
def readDigits (digits : List Char) : Nat := Nat.ofDigitChars 10 digits 0

/-- The digits of a number, without leading zeros. -/
def natChars (n : Nat) : List Char := Nat.toDigits 10 n

/-- The digits of a number, filled up with zeros to `width` places. -/
def paddedChars (width n : Nat) : List Char :=
  List.replicate (width - (natChars n).length) '0' ++ natChars n

/-- A whole number with a minus sign where it needs one. -/
def intChars (i : Int) : List Char :=
  if i < 0 then '-' :: natChars i.natAbs else natChars i.natAbs

/-- Reads a whole text as digits. -/
def readNat? (s : List Char) : Option Nat :=
  if s.isEmpty || !s.all Char.isDigit then none else some (readDigits s)

/-- Reads a whole text as digits after at most one sign. -/
def readSigned? : List Char → Option Int
  | '-' :: s => (readNat? s).map fun n => -(n : Int)
  | '+' :: s => (readNat? s).map Int.ofNat
  | s => (readNat? s).map Int.ofNat

/-- What is written is read back. -/
theorem readDigits_natChars (n : Nat) : readDigits (natChars n) = n :=
  Nat.ofDigitChars_ten_toDigits

theorem isDigit_of_mem_natChars {n : Nat} {c : Char} (h : c ∈ natChars n) : c.isDigit = true :=
  Nat.isDigit_of_mem_toDigits (by decide) (by decide) h

/-- Zeros in front change nothing. -/
theorem readDigits_paddedChars (width n : Nat) : readDigits (paddedChars width n) = n := by
  simp only [readDigits, paddedChars, Nat.ofDigitChars_append, Nat.ofDigitChars_replicate_zero]
  rw [Nat.mul_zero]
  exact readDigits_natChars n

end Criteria.Text
