/-
The canonical text of a condition.

Joined conditions stand in parentheses, so the text needs no rule about which of two
joins binds tighter.  A join of a single part is written as that part.  No text says
what a disjunction without parts means, and nothing is written for it.
-/
import Criteria.Condition

namespace Criteria.Condition

/-- Texts in parentheses with a sign between them. -/
def joinChars (sign : List Char) (parts : List (List Char)) : List Char :=
  (' ' :: sign ++ [' ']).intercalate (parts.map fun p => '(' :: p ++ [')'])

/-- How a conjunction of parts with these texts is written. -/
def conjunctionChars : List (List Char) → List Char
  | [] => "true".toList
  | [only] => only
  | parts => joinChars ['&', '&'] parts

/-- How a disjunction of parts with these texts is written. -/
def disjunctionChars : List (List Char) → List Char
  | [only] => only
  | parts => joinChars ['|', '|'] parts

mutual

/-- The text of a condition. -/
def chars : Condition → List Char
  | .alwaysTrue => "true".toList
  | .compare name op value =>
    name.toList ++ ' ' :: op.symbol.toList ++ ' ' :: value.chars
  | .conjunction parts => conjunctionChars (charsAll parts)
  | .disjunction parts => disjunctionChars (charsAll parts)
  | .within name body => name.toList ++ [' ', '{', ' '] ++ chars body ++ [' ', '}']

def charsAll : List Condition → List (List Char)
  | [] => []
  | c :: cs => chars c :: charsAll cs

end

/-- The canonical text. -/
def text (c : Condition) : String := String.ofList c.chars

instance : ToString Condition := ⟨text⟩

end Criteria.Condition
