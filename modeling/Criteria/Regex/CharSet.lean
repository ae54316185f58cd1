/-
Sets of characters, as regular expressions write them.

A set is an expression over ranges of code points, and what counts of it is its
membership test.  To take a set without regard to case is to close it under the
case variants of its members.
-/
import Criteria.Unicode.CaseFolding
import Criteria.Unicode.Named

namespace Criteria.Regex

open Unicode (Ranges)

/-- Which letters are variants of one another: those of Unicode, or the ASCII
letters alone. -/
inductive Folding where
  | unicode
  | ascii
deriving DecidableEq, Repr

/-- The case variants of a code point, itself included. -/
def Folding.variants : Folding → Nat → List Nat
  | .unicode, n => Unicode.caseVariants n
  | .ascii, n =>
    if 0x41 ≤ n ∧ n ≤ 0x5A then [n, n + 32]
    else if 0x61 ≤ n ∧ n ≤ 0x7A then [n, n - 32]
    else [n]

/-- The code points that have variants besides themselves, and maybe others. -/
def Folding.points : Folding → List Nat
  | .unicode => letters ++ Unicode.orbits.flatten
  | .ascii => letters
where
  letters := List.range' 0x41 26 ++ List.range' 0x61 26

/-- A set of code points. -/
inductive CharSet where
  | ranges (ranges : Ranges)
  | union (a b : CharSet)
  | inter (a b : CharSet)
  | complement (a : CharSet)
  | caseless (folding : Folding) (a : CharSet)

namespace CharSet

/-- Whether a set has a code point. -/
def contains : CharSet → Nat → Bool
  | .ranges rs, n => rs.contains n
  | .union a b, n => a.contains n || b.contains n
  | .inter a b, n => a.contains n && b.contains n
  | .complement a, n => n ≤ Unicode.lastCodePoint && !a.contains n
  | .caseless f a, n => (f.variants n).any fun m => a.contains m

/-- The members of a set, in ranges that are in order and apart. -/
def toRanges : CharSet → Ranges
  | .ranges rs => Ranges.addAll rs []
  | .union a b => Ranges.addAll a.toRanges b.toRanges
  | .inter a b => Ranges.addAll (Ranges.common a.toRanges b.toRanges) []
  | .complement a => Unicode.complementFrom 0 a.toRanges
  | .caseless f a =>
    let members := a.toRanges
    let more := f.points.filter fun n => (f.variants n).any members.contains
    Ranges.addAll (more.map fun n => (n, n)) members

def empty : CharSet := .ranges []

/-- The set of one code point. -/
def single (n : Nat) : CharSet := .ranges [(n, n)]

/-- The set of these characters. -/
def ofChars (cs : List Char) : CharSet := .ranges (cs.map fun c => (c.toNat, c.toNat))

/-- The code points from one character to another. -/
def between (first last : Char) : CharSet := .ranges [(first.toNat, last.toNat)]

/-- What is in the first set and not in the second. -/
def difference (a b : CharSet) : CharSet := .inter a (.complement b)

/-- What is in one of the sets only. -/
def symmetricDifference (a b : CharSet) : CharSet :=
  .union (difference a b) (difference b a)

/-! ### Sets with names of their own -/

/-- The ASCII sets that are written between colons. -/
def asciiNamed? : List Char → Option CharSet := fun name =>
  match String.ofList name with
  | "alnum" => some (.ranges [(0x30, 0x39), (0x41, 0x5A), (0x61, 0x7A)])
  | "alpha" => some (.ranges [(0x41, 0x5A), (0x61, 0x7A)])
  | "ascii" => some (.ranges [(0, 0x7F)])
  | "blank" => some (.ranges [(9, 9), (0x20, 0x20)])
  | "cntrl" => some (.ranges [(0, 0x1F), (0x7F, 0x7F)])
  | "digit" => some (.ranges [(0x30, 0x39)])
  | "graph" => some (.ranges [(0x21, 0x7E)])
  | "lower" => some (.ranges [(0x61, 0x7A)])
  | "print" => some (.ranges [(0x20, 0x7E)])
  | "punct" => some (.ranges [(0x21, 0x2F), (0x3A, 0x40), (0x5B, 0x60), (0x7B, 0x7E)])
  | "space" => some (.ranges [(9, 13), (0x20, 0x20)])
  | "upper" => some (.ranges [(0x41, 0x5A)])
  | "word" => some (.ranges [(0x30, 0x39), (0x41, 0x5A), (0x5F, 0x5F), (0x61, 0x7A)])
  | "xdigit" => some (.ranges [(0x30, 0x39), (0x41, 0x46), (0x61, 0x66)])
  | _ => none

/-- Digits: those of Unicode, or the ten of ASCII. -/
def digits (unicode : Bool) : CharSet :=
  if unicode then .ranges Unicode.decimalDigits else .between '0' '9'

/-- White space. -/
def spaces (unicode : Bool) : CharSet :=
  if unicode then .ranges Unicode.whiteSpace else .ranges [(9, 13), (0x20, 0x20)]

/-- The characters of words. -/
def words (unicode : Bool) : CharSet :=
  if unicode then .ranges Unicode.wordCharacters
  else .ranges [(0x30, 0x39), (0x41, 0x5A), (0x5F, 0x5F), (0x61, 0x7A)]

end CharSet

end Criteria.Regex
