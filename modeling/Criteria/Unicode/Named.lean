/-
Sets of code points by the names that Unicode gives them.

A name is read loosely: case does not count, nor do blanks, hyphens, underscores
and a leading `is`.  A bare name is tried as a binary property, then as a general
category and then as a script; a name and a value select a property with more than two
values and one of these.
-/
import Criteria.Unicode.Age
import Criteria.Unicode.GeneralCategory
import Criteria.Unicode.Property
import Criteria.Unicode.Script
import Criteria.Unicode.Segmentation

namespace Criteria.Unicode

/-- The last code point. -/
def lastCodePoint : Nat := 0x10FFFF

/-- The code points outside some ranges that are in order. -/
def complementFrom (first : Nat) : Ranges → Ranges
  | [] => if first ≤ lastCodePoint then [(first, lastCodePoint)] else []
  | (a, b) :: rest =>
    if first < a ∧ first ≤ lastCodePoint then
      (first, min (a - 1) lastCodePoint) :: complementFrom (b + 1) rest
    else complementFrom (b + 1) rest

/-- Lower case, without what does not count. -/
def plainName (name : List Char) : List Char :=
  (name.filter fun c => c.toNat < 128 && c != ' ' && c != '_' && c != '-').map Char.toLower

/-- The name that a loosely written one stands for.  A leading `is` goes, but not
where a lone `c` would be left, which would make `isc` a category. -/
def looseName (name : List Char) : String :=
  match name with
  | a :: b :: rest =>
    if a.toLower = 'i' ∧ b.toLower = 's' then
      if plainName rest = ['c'] then "isc" else String.ofList (plainName rest)
    else String.ofList (plainName name)
  | _ => String.ofList (plainName name)

/-- A general category, or one of the three sets that go with them. -/
def generalCategory? (name : String) : Option Ranges :=
  if name = "any" then some [(0, lastCodePoint)]
  else if name = "ascii" then some [(0, 0x7F)]
  else if name = "assigned" then (category? "cn").map (complementFrom 0)
  else category? name

/-- The set with this name. -/
def named? (name : List Char) : Option Ranges :=
  let name := looseName name
  ((property? name).or (generalCategory? name)).or (script? name)

/-- The set that has this value of a property. -/
def valued? (property value : List Char) : Option Ranges :=
  let value := looseName value
  match looseName property with
  | "generalcategory" => generalCategory? value
  | "gc" => generalCategory? value
  | "script" => script? value
  | "sc" => script? value
  | "scriptextensions" => scriptExtension? value
  | "scx" => scriptExtension? value
  | "age" => age? value
  | "graphemeclusterbreak" => rangesOf? graphemeBreaks value
  | "gcb" => rangesOf? graphemeBreaks value
  | "wordbreak" => rangesOf? wordBreaks value
  | "wb" => rangesOf? wordBreaks value
  | "sentencebreak" => rangesOf? sentenceBreaks value
  | "sb" => rangesOf? sentenceBreaks value
  | _ => none

/-- The white space of Unicode. -/
def whiteSpace : Ranges := (property? "whitespace").getD []

/-- The decimal digits of Unicode. -/
def decimalDigits : Ranges := (category? "nd").getD []

/-- The letters of Unicode. -/
def alphabetic : Ranges := (property? "alphabetic").getD []

/-- What letters and numbers of Unicode there are. -/
def alphanumeric : Ranges := alphabetic ++ (category? "n").getD []

/-- The characters of words. -/
def wordCharacters : Ranges :=
  alphabetic ++ (category? "m").getD [] ++ decimalDigits ++ (category? "pc").getD [] ++
    (property? "joincontrol").getD []

end Criteria.Unicode
