/-
Literals in a condition's text.

The first character tells what a literal is.  A literal that opens like a number is
taken as one token, and its shape decides between a quantity, a version and a
timestamp.
-/
import Criteria.Source.Failure
import Criteria.Source.Token
import Criteria.Timestamp.Reading

namespace Criteria.Source

/-! ### Texts and patterns -/

/-- Reads up to the closing sign.  A backslash takes away the meaning of the signs that
it may stand before, and stands for itself before anything else. -/
def delimited? (closer : Char) (escapable : Char → Bool) :
    List Char → Option (List Char × List Char)
  | [] => none
  | c :: rest =>
    if c = closer then some ([], rest)
    else if c = '\\' then
      match rest with
      | [] => none
      | d :: rest =>
        (delimited? closer escapable rest).map fun (content, left) =>
          (if escapable d then d :: content else c :: d :: content, left)
    else (delimited? closer escapable rest).map fun (content, left) => (c :: content, left)

/-- Reads up to the closing quote.  A backslash may stand before a quote and before
another backslash. -/
def quoted? : List Char → Option (List Char × List Char) :=
  delimited? '"' fun c => c == '"' || c == '\\'

/-- Reads up to the closing slash.  A backslash may stand before a slash; any other escape
is left to the expression. -/
def slashed? : List Char → Option (List Char × List Char) :=
  delimited? '/' fun c => c == '/'

/-- The flag after a pattern. -/
def caseFlag : List Char → Bool × List Char
  | 'i' :: rest => (true, rest)
  | s => (false, s)

/-! ### Numbers -/

/-- The characters of a literal that opens like a number. -/
def isNumericChar (c : Char) : Bool :=
  c.isAlphanum || c == '_' || c == '.' || c == ':' || c == '+' || c == '-'

/-- Whether a token opens with four digits and a hyphen. -/
def opensWithYear : List Char → Bool
  | a :: b :: c :: d :: '-' :: _ => a.isDigit && b.isDigit && c.isDigit && d.isDigit
  | _ => false

/-- The value of a token.  One that opens like a date and is none may still be a
version, if it has a dot. -/
def classify (token : String) : Except ValueError Value :=
  let cs := token.toList
  if cs.head? = some '-' then (Quantity.parse token).map .quantity
  else if opensWithYear cs then
    match Timestamp.parse token with
    | .ok t => .ok (.timestamp t)
    | .error e =>
      if cs.contains '.' then
        match Version.parse token with
        | .ok v => .ok (.version v)
        | .error _ => .error e
      else .error e
  else if cs.contains '.' then (Version.parse token).map .version
  else (Quantity.parse token).map .quantity

/-! ### Literals -/

/-- The value of a literal, and the text after it; where it denotes nothing, the
failure is at its first character. -/
def located (start rest : List Char) (value : Except ValueError Value) :
    Except Failure (Value × List Char) :=
  match value with
  | .ok v => .ok (v, rest)
  | .error e => .error ⟨start, .value e⟩

/-- Reads a literal. -/
def literal : Reader Value
  | [] => .error (.at [] [])
  | '"' :: rest =>
    match quoted? rest with
    | some (text, left) => .ok (.text (String.ofList text), left)
    | none => .error ⟨[], .unexpected (some .text) []⟩
  | '/' :: rest =>
    match slashed? rest with
    | some (source, left) =>
      let (caseless, left) := caseFlag left
      located ('/' :: rest) left
        ((Pattern.ofSource (String.ofList source) caseless).map .pattern)
    | none => .error ⟨[], .unexpected (some .regex) []⟩
  | c :: rest =>
    let s := c :: rest
    if c.isDigit || c == '-' then
      located s (s.dropWhile isNumericChar)
        (classify (String.ofList (s.takeWhile isNumericChar)))
    else
      match segment? s with
      | some (word, left) => located s left ((Category.parse (String.ofList word)).map .category)
      | none => .error (.at s [])

end Criteria.Source
