/-
Reading a condition.

    disjunction = conjunction ('||' conjunction)*
    conjunction = primary ('&&' primary)*
    primary     = '(' disjunction ')' | name '{' disjunction '}'
                | name operator literal | 'true'

Blanks may stand before every token.  Parentheses leave no trace, one operand
stands for itself, and more make one node.  What a primary may enclose is read one
level down, and below the last level nothing may be enclosed.
-/
import Criteria.Source.Literal

namespace Criteria.Source

/-- Reads the sign that closes an enclosure, with blanks before it. -/
def closing (e : Enclosure) (s : List Char) : Except Failure (List Char) :=
  match Text.skipBlanks s with
  | [] => .error (.at [] [])
  | c :: rest => if c = e.closer then .ok rest else .error (.at (c :: rest) [])

/-- Reads a condition up to the sign that closes its enclosure. -/
def closed (e : Enclosure) (read : Reader Condition) : Reader Condition := fun s =>
  match read s with
  | .error f => .error f
  | .ok (c, rest) =>
    match closing e rest with
    | .error f => .error f
    | .ok left => .ok (c, left)

/-- Reads what an enclosure holds, its opening sign being gone.  Below the last level
there is no reader for that. -/
def enclosed (e : Enclosure) : Option (Reader Condition) → Reader Condition
  | none => fun s => .error ⟨s, .nesting⟩
  | some read => (closed e read).expecting (.closing e)

/-- Reads the literal after the sign of a comparison. -/
def compared (name : String) (op : CompareOp) : Reader Condition := fun s =>
  match Reader.expecting literal .literal (Text.skipBlanks s) with
  | .error f => .error f
  | .ok (v, rest) => .ok (.compare name op v, rest)

/-- Reads what follows a name and the blanks after it. -/
def afterName (inner : Option (Reader Condition)) (name : String) : Reader Condition
  | '{' :: rest =>
    match enclosed .braces inner rest with
    | .error f => .error f
    | .ok (c, left) => .ok (.within name c, left)
  | s =>
    match operator? s with
    | some (op, rest) => compared name op rest
    | none => if name = "true" then .ok (.alwaysTrue, s) else .error (.at s [.operator])

/-- Reads a primary with no blanks before it. -/
def bare (inner : Option (Reader Condition)) : Reader Condition
  | '(' :: rest => enclosed .parentheses inner rest
  | s =>
    match name? s with
    | none => .error (.at s [])
    | some (name, rest) => afterName inner name (Text.skipBlanks rest)

/-- Reads a primary. -/
def primary (inner : Option (Reader Condition)) : Reader Condition := fun s =>
  Reader.expecting (bare inner) .condition (Text.skipBlanks s)

/-- Reads operands with a joining sign between each two.  A sign after an operand that
took no text would be read for ever and is left. -/
def chain {α : Type} (sign : Char) (operand : Reader α) (s : List Char) :
    Except Failure (List α × List Char) :=
  match operand s with
  | .error f => .error f
  | .ok (a, rest) =>
    match joiner? sign rest with
    | none => .ok ([a], rest)
    | some after =>
      if _h : after.length < s.length then
        match chain sign operand after with
        | .error f => .error f
        | .ok (as, left) => .ok (a :: as, left)
      else .ok ([a], rest)
termination_by s.length

/-- One operand stands for itself; more make a node. -/
def join (node : List Condition → Condition) : List Condition → Condition
  | [only] => only
  | parts => node parts

/-- Reads primaries joined by `&&`. -/
def conjunction (operand : Reader Condition) : Reader Condition := fun s =>
  match chain '&' operand s with
  | .error f => .error f
  | .ok (parts, rest) => .ok (join .conjunction parts, rest)

/-- Reads conjunctions joined by `||`. -/
def disjunction (operand : Reader Condition) : Reader Condition := fun s =>
  match chain '|' (conjunction operand) s with
  | .error f => .error f
  | .ok (parts, rest) => .ok (join .disjunction parts, rest)

/-- Reads a condition in which enclosures are nested at most so many levels deep. -/
def condition : Nat → Reader Condition
  | 0 => disjunction (primary none)
  | levels + 1 => disjunction (primary (some (condition levels)))

/-- Reads a whole text.  A blank text asks nothing. -/
def whole (s : List Char) : Except Failure Condition :=
  match Text.skipBlanks s with
  | [] => .ok .alwaysTrue
  | c :: rest =>
    match condition maxNesting (c :: rest) with
    | .error f => .error f
    | .ok (parsed, left) =>
      match Text.skipBlanks left with
      | [] => .ok parsed
      | d :: after => .error (.at (d :: after) [.continuation])

end Criteria.Source
