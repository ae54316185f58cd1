/-
What reading and evaluating report besides their results.

An event has a level, a message and fields with names.  The values of fields are
texts.  The end of an evaluation carries its verdict as it is: of that there is no
text.
-/
import Criteria.Condition.Text
import Criteria.ParseError
import Criteria.SemanticError

namespace Criteria

/-- How much an event matters. -/
inductive Level where
  | trace
  | debug
deriving DecidableEq, Repr

def Level.name : Level → String
  | .trace => "TRACE"
  | .debug => "DEBUG"

/-- Something that is reported. -/
inductive Event where
  /-- a text was read as a condition -/
  | parsed (c : Condition)
  /-- a text is no condition -/
  | parseFailed (e : ParseError)
  /-- a condition does not fit an item of an array -/
  | itemFailed (array : String) (index : Nat) (e : SemanticError)
  /-- no item of an array fulfils a condition, and the error of one is passed on -/
  | noItemMatched (array : String) (e : SemanticError)
  /-- an evaluation is over, with this verdict -/
  | evaluated (c : Condition) (verdict : Except SemanticError Bool)

namespace Event

def level : Event → Level
  | .parsed _ => .trace
  | .parseFailed _ => .debug
  | .itemFailed _ _ _ => .debug
  | .noItemMatched _ _ => .debug
  | .evaluated _ _ => .trace

def message : Event → String
  | .parsed _ => "parsed condition"
  | .parseFailed _ => "failed to parse condition"
  | .itemFailed _ _ _ => "array item failed to evaluate"
  | .noItemMatched _ _ => "no array item matched, reporting item error"
  | .evaluated _ _ => "evaluated condition"

/-- The fields besides the message that are texts, in order.  A text that is no condition
has its own message as a field. -/
def fields : Event → List (String × String)
  | .parsed c => [("condition", c.text)]
  | .parseFailed e => [("offset", toString e.offset), ("message", e.detail)]
  | .itemFailed array index e =>
    [("array", array), ("index", toString index), ("error", e.message)]
  | .noItemMatched array e => [("array", array), ("error", e.message)]
  | .evaluated c _ => [("condition", c.text)]

end Event

end Criteria
