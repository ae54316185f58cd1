/-
Regular expressions.

An expression is built from single characters and from assertions about a position
in the text, by putting one after the other, by choice and by repetition.  Which
of several matches is preferred is not kept, nor what a group captured: the only
question put to an expression is whether it matches somewhere in a text.  A group
that captures is kept for the room it takes.
-/
import Criteria.Regex.CharSet

namespace Criteria.Regex

/-- Where a position stands relative to words. -/
inductive WordEdge where
  | boundary
  | inside
  | start
  | stop
  | startHalf
  | stopHalf
deriving DecidableEq, Repr

/-- What is asserted of a position.  `carriage` says that a carriage return ends a
line as well, alone or before a line feed. -/
inductive Assertion where
  | textStart
  | textEnd
  | lineStart (carriage : Bool)
  | lineEnd (carriage : Bool)
  | word (edge : WordEdge) (unicode : Bool)
deriving DecidableEq, Repr

/-- A regular expression.  A repetition says how often at least, and how often more
where there is a bound. -/
inductive Expression where
  | empty
  | one (set : CharSet)
  | assertion (a : Assertion)
  | sequence (first second : Expression)
  | choice (left right : Expression)
  | repetition (body : Expression) (least : Nat) (more : Option Nat)
  | group (body : Expression)

/-! ### Assertions -/

def WordEdge.holds : WordEdge → Bool → Bool → Bool
  | .boundary, before, after => before != after
  | .inside, before, after => before == after
  | .start, before, after => !before && after
  | .stop, before, after => before && !after
  | .startHalf, before, _ => !before
  | .stopHalf, _, after => !after

/-- Whether a character belongs to a word. -/
def isWord (unicode : Bool) : Option Char → Bool
  | none => false
  | some c => (CharSet.words unicode).contains c.toNat

/-- Whether an assertion holds between two characters, or at an end of the text. -/
def Assertion.holds : Assertion → Option Char → Option Char → Bool
  | .textStart, before, _ => before.isNone
  | .textEnd, _, after => after.isNone
  | .lineStart false, before, _ => before.isNone || before == some '\n'
  | .lineEnd false, _, after => after.isNone || after == some '\n'
  | .lineStart true, before, after =>
    before.isNone || before == some '\n' || (before == some '\r' && after != some '\n')
  | .lineEnd true, before, after =>
    after.isNone || after == some '\r' || (after == some '\n' && before != some '\r')
  | .word edge unicode, before, after =>
    edge.holds (isWord unicode before) (isWord unicode after)

end Criteria.Regex
