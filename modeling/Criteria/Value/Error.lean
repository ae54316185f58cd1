/-
What can be wrong with a single value.

Each cause says what was read and why it is no value, or why two values do not
compare.  The wording of every one of them stands here and nowhere else, except
that of a pattern that cannot be read: behind its text would stand a colon and
what the engine found wrong with it, and that diagnosis is left out.
-/
namespace Criteria

/-- Why a text is no value, or why two quantities do not compare. -/
inductive ValueError where
  | invalidPrefix (letter : Char)
  | invalidQuantity (text : String)
  | invalidUnit (unit : String)
  | magnitudeOverflow (number : String)
  | invalidTimestamp (text : String)
  | invalidVersion (text : String)
  | unknownCategory (text : String)
  | invalidPattern (source : String)
  | unitConflict (left right : String)
deriving DecidableEq, Repr

/-- The text of each cause, without an engine's diagnosis of a pattern. -/
def ValueError.message : ValueError → String
  | .invalidPrefix c =>
    "invalid unit prefix '" ++ c.toString ++ "', expected one of k, M, G, T, P"
  | .invalidQuantity s => "malformed quantity '" ++ s ++ "'"
  | .invalidUnit u => "unit '" ++ u ++ "' cannot be written in a quantity literal"
  | .magnitudeOverflow n => "magnitude '" ++ n ++ "' does not fit into a 64-bit integer"
  | .invalidTimestamp s => "malformed timestamp '" ++ s ++ "'"
  | .invalidVersion s => "malformed version '" ++ s ++ "'"
  | .unknownCategory s => "unknown category '" ++ s ++ "'"
  | .invalidPattern s => "invalid regular expression /" ++ s ++ "/"
  | .unitConflict l r => "unit '" ++ l ++ "' is not comparable with unit '" ++ r ++ "'"

end Criteria
