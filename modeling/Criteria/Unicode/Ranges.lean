/-
Sets of code points as ranges, and how their tables are written down.

A table is a text of words with blanks between them.  A word is a code point in base
sixteen, or the first and the last code point of a range with a hyphen between
them.
-/
namespace Criteria.Unicode

/-- Ranges of code points, both ends included. -/
abbrev Ranges := List (Nat × Nat)

/-- Whether one of the ranges holds a code point. -/
def Ranges.contains (ranges : Ranges) (codePoint : Nat) : Bool :=
  ranges.any fun (first, last) => first ≤ codePoint && codePoint ≤ last

/-- Puts a range among ranges that are in order, and joins it with those it overlaps or
touches. -/
def Ranges.add (first last : Nat) : Ranges → Ranges
  | [] => [(first, last)]
  | (a, b) :: rest =>
    if last + 1 < a then (first, last) :: (a, b) :: rest
    else if b + 1 < first then (a, b) :: Ranges.add first last rest
    else Ranges.add (min first a) (max last b) rest

/-- Puts ranges in any order among ranges that are in order, leaving out empty ones. -/
def Ranges.addAll (ranges others : Ranges) : Ranges :=
  ranges.foldr (fun (first, last) rs => if first ≤ last then Ranges.add first last rs else rs)
    others

/-- What ranges of two lists have in common, with an empty range where two do not meet. -/
def Ranges.common (ranges others : Ranges) : Ranges :=
  ranges.flatMap fun (first, last) =>
    others.map fun (first', last') => (max first first', min last last')

/-- The value of a digit in base sixteen; other characters count as zero. -/
def hexDigit (c : Char) : Nat :=
  if '0' ≤ c ∧ c ≤ '9' then c.toNat - '0'.toNat
  else if 'A' ≤ c ∧ c ≤ 'F' then c.toNat - 'A'.toNat + 10
  else if 'a' ≤ c ∧ c ≤ 'f' then c.toNat - 'a'.toNat + 10
  else 0

/-- The number written in base sixteen. -/
def readHex (digits : List Char) : Nat := digits.foldl (fun n c => 16 * n + hexDigit c) 0

/-- The words of a table, which may go over several lines. -/
def words (table : String) : List (List Char) :=
  (table.toList.splitOnP fun c => c == ' ' || c == '\n').filter fun word => !word.isEmpty

/-- The range that a word of a table stands for. -/
def readRange (word : List Char) : Nat × Nat :=
  match word.splitOn '-' with
  | [first, last] => (readHex first, readHex last)
  | _ => (readHex word, readHex word)

/-- The ranges that a table stands for. -/
def readRanges (table : String) : Ranges := (words table).map readRange

/-- A set of code points under the names it goes by, in lower case and without
blanks, hyphens and underscores. -/
structure Entry where
  names : List String
  table : String

/-- The set with this name. -/
def rangesOf? (entries : List Entry) (name : String) : Option Ranges :=
  (entries.find? fun e => e.names.contains name).map fun e => readRanges e.table

end Criteria.Unicode
