/-
White space between tokens.

A blank is a character of the Unicode property White_Space.  Between two tokens
of a condition any number of them may stand, and none of them ever means
anything.
-/
namespace Criteria.Text

/-- The characters with the property White_Space, twenty-five in all. -/
def isBlank (c : Char) : Bool :=
  let n := c.toNat
  (9 ≤ n && n ≤ 13) || n == 0x20 || n == 0x85 || n == 0xA0 || n == 0x1680 ||
    (0x2000 ≤ n && n ≤ 0x200A) || n == 0x2028 || n == 0x2029 || n == 0x202F ||
    n == 0x205F || n == 0x3000

/-- What is left once the leading blanks are gone. -/
def skipBlanks (s : List Char) : List Char := s.dropWhile isBlank

/-- Skipping blanks loses blanks only. -/
theorem takeWhile_append_skipBlanks (s : List Char) :
    s.takeWhile isBlank ++ skipBlanks s = s :=
  List.takeWhile_append_dropWhile

end Criteria.Text
