/-
Errors in a source text, and how they are shown.

A position is given three times: in bytes of the text's UTF-8 form from its
beginning, and as a line and a column, both counted from one, a column being a
character.
-/
import Criteria.Source.Grammar

namespace Criteria

/-- Why a text is no condition, and where. -/
structure ParseError where
  offset : Nat
  line : Nat
  column : Nat
  reason : Source.Reason
deriving DecidableEq, Repr

namespace ParseError

/-- The number of bytes of a text. -/
def byteCount : List Char → Nat
  | [] => 0
  | c :: rest => c.utf8Size + byteCount rest

theorem byteCount_append (s t : List Char) :
    byteCount (s ++ t) = byteCount s + byteCount t := by
  induction s with
  | nil => simp [byteCount]
  | cons c rest ih => simp [byteCount, ih, Nat.add_assoc]

/-- The bytes of a string are those of its characters. -/
theorem byteCount_toList (s : String) : byteCount s.toList = s.utf8ByteSize := by
  have spelled (cs : List Char) : byteCount cs = (String.ofList cs).utf8ByteSize := by
    induction cs with
    | nil => simp [byteCount]
    | cons c rest ih =>
      rw [byteCount, ih, show c :: rest = [c] ++ rest from rfl, String.ofList_append,
        String.utf8ByteSize_append, ← String.singleton_eq_ofList, String.utf8ByteSize_singleton]
  rw [spelled, String.ofList_toList]

/-- What follows the last line feed of a text, or all of it. -/
def lastLine (s : List Char) : List Char :=
  (s.reverse.takeWhile (· ≠ '\n')).reverse

/-- A failure in a text, the text before it being given as well. -/
def ofFailure (before : List Char) (reason : Source.Reason) : ParseError where
  offset := byteCount before
  line := before.count '\n' + 1
  column := (lastLine before).length + 1
  reason := reason

/-- What was wrong, without the position. -/
def detail (e : ParseError) : String := e.reason.message

/-- The whole message. -/
def message (e : ParseError) : String :=
  "parse error at line " ++ toString e.line ++ ", column " ++ toString e.column ++ ": " ++
    e.detail

/-- A line without the carriage return at its end. -/
def dropReturn (line : List Char) : List Char :=
  if line.getLast? = some '\r' then line.dropLast else line

/-- The text of a line, counted from zero.  It ends before a line feed and before a
carriage return that the line feed follows. -/
def lineText (source : List Char) (index : Nat) : List Char :=
  let lines := source.splitOn '\n'
  let line := lines.getD index []
  if index + 1 < lines.length then dropReturn line else line

/-- The line of a text where the error is, and below it a caret under the column.  The caret
stands there at every column.  To pad it a formatter may be used whose widths have 16 bits, and
what such a one does with a column above 65535 is out of scope. -/
def render (e : ParseError) (source : String) : String :=
  String.ofList (lineText source.toList (e.line - 1) ++
    '\n' :: List.replicate (e.column - 1) ' ' ++ ['^'])

end ParseError

/-- The condition that a text says. -/
def Condition.parse (source : String) : Except ParseError Condition :=
  let s := source.toList
  match Source.whole s with
  | .ok c => .ok c
  | .error f => .error (.ofFailure (s.take (s.length - f.rest.length)) f.reason)

end Criteria
