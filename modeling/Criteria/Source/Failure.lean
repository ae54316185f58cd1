/-
Why a source text is no condition, and where.

Reading stops at the first thing that does not fit.  What is kept of it is the text
that was not read any more and the reason.  A reason is a cause of its own, such as a
literal that denotes nothing, or else a list of what was expected there: each part
of a condition that was being read adds what it wanted, the innermost first.
-/
import Criteria.Value.Error

namespace Criteria.Source

/-- The deepest that parentheses and the braces after a name may be nested. -/
def maxNesting : Nat := 64

/-- What encloses a condition. -/
inductive Enclosure where
  | parentheses
  | braces
deriving DecidableEq, Repr

def Enclosure.opener : Enclosure → Char
  | .parentheses => '('
  | .braces => '{'

def Enclosure.closer : Enclosure → Char
  | .parentheses => ')'
  | .braces => '}'

/-- What may be expected somewhere. -/
inductive Expectation where
  | condition
  | closing (e : Enclosure)
  | literal
  | operator
  /-- a sign that joins conditions, or nothing more -/
  | continuation
deriving DecidableEq, Repr

def Expectation.text : Expectation → String
  | .condition => "condition"
  | .closing .parentheses => "`)`"
  | .closing .braces => "`\x7d`"
  | .literal => "text, regex, number or category literal"
  | .operator => "comparison operator or '\x7b'"
  | .continuation => "'&&', '||' or end of input"

/-- A literal that has no end. -/
inductive Unclosed where
  | text
  | regex
deriving DecidableEq, Repr

def Unclosed.message : Unclosed → String
  | .text => "invalid text"
  | .regex => "invalid regex"

/-- Why reading stopped. -/
inductive Reason where
  /-- a literal denotes no value -/
  | value (e : ValueError)
  /-- an enclosure would be nested too deep -/
  | nesting
  /-- something else was expected -/
  | unexpected (unclosed : Option Unclosed) (expected : List Expectation)
deriving DecidableEq, Repr

/-- The text of a reason. -/
def Reason.message : Reason → String
  | .value e => e.message
  | .nesting => "nesting deeper than " ++ toString maxNesting ++ " levels"
  | .unexpected none [] => "unexpected input"
  | .unexpected (some u) [] => u.message
  | .unexpected none expected =>
    "expected " ++ ", ".intercalate (expected.map Expectation.text)
  | .unexpected (some u) expected =>
    u.message ++ "; expected " ++ ", ".intercalate (expected.map Expectation.text)

/-- Where reading stopped, by the text from there on, and why. -/
structure Failure where
  rest : List Char
  reason : Reason
deriving DecidableEq, Repr

/-- Something else was expected at the head of a text. -/
def Failure.at (rest : List Char) (expected : List Expectation) : Failure :=
  ⟨rest, .unexpected none expected⟩

/-- Adds an expectation after those that are there.  A cause of its own stays as it
is. -/
def Failure.expecting (f : Failure) (e : Expectation) : Failure :=
  match f.reason with
  | .unexpected unclosed expected => { f with reason := .unexpected unclosed (expected ++ [e]) }
  | _ => f

/-- What reading a part of a text comes to: the part, and the text after it. -/
abbrev Reader (α : Type) := List Char → Except Failure (α × List Char)

/-- A reader all of whose failures expect one thing more. -/
def Reader.expecting {α : Type} (read : Reader α) (e : Expectation) : Reader α := fun s =>
  (read s).mapError (·.expecting e)

end Criteria.Source
