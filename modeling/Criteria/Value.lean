/-
Values: the literals of a condition and the contents of simple properties.
-/
import Criteria.Category
import Criteria.Pattern
import Criteria.Quantity
import Criteria.Timestamp
import Criteria.Version

namespace Criteria

/-- The kinds of values. -/
inductive ValueKind where
  | quantity
  | text
  | version
  | timestamp
  | category
  | regex
  | list
deriving DecidableEq, Repr

def ValueKind.name : ValueKind → String
  | .quantity => "quantity"
  | .text => "text"
  | .version => "version"
  | .timestamp => "timestamp"
  | .category => "category"
  | .regex => "regex"
  | .list => "list"

/-- A typed value.  A list of texts is no literal, only the value of a property. -/
inductive Value where
  | quantity (q : Quantity)
  | text (s : String)
  | version (v : Version)
  | timestamp (t : Timestamp)
  | category (c : Category)
  | pattern (p : Pattern)
  | list (items : List String)

namespace Value

def kind : Value → ValueKind
  | .quantity _ => .quantity
  | .text _ => .text
  | .version _ => .version
  | .timestamp _ => .timestamp
  | .category _ => .category
  | .pattern _ => .regex
  | .list _ => .list

/-- Values are equal when they are of one kind and written alike, versions when
their order does not tell them apart. -/
def same : Value → Value → Bool
  | .quantity a, .quantity b => a == b
  | .text a, .text b => a == b
  | .version a, .version b => a == b
  | .timestamp a, .timestamp b => a == b
  | .category a, .category b => a == b
  | .pattern a, .pattern b => a == b
  | .list a, .list b => a == b
  | _, _ => false

instance : BEq Value := ⟨same⟩

/-! ### The text of a value -/

/-- A text with a backslash before each quote and each backslash. -/
def escapeQuotes : List Char → List Char
  | [] => []
  | c :: rest =>
    if c = '"' ∨ c = '\\' then '\\' :: c :: escapeQuotes rest else c :: escapeQuotes rest

/-- A text between quotes. -/
def quotedChars (s : String) : List Char := '"' :: escapeQuotes s.toList ++ ['"']

/-- The literal of a value; a list stands between square brackets. -/
def chars : Value → List Char
  | .quantity q => q.chars
  | .text s => quotedChars s
  | .version v => v.chars
  | .timestamp t => t.chars
  | .category c => c.name.toList
  | .pattern p => p.chars
  | .list items => '[' :: [',', ' '].intercalate (items.map quotedChars) ++ [']']

instance : ToString Value := ⟨fun v => String.ofList v.chars⟩

end Value

end Criteria
