/-
Patterns: a regular expression, written between slashes, and a flag for case.

A pattern matches a text when its expression matches some part of it.  Two patterns
are equal when they are written alike, and then their expressions are the same.
-/
import Criteria.Regex.Matching
import Criteria.Regex.Reading
import Criteria.Value.Error

namespace Criteria

/-- A source that is a regular expression, and the expression. -/
structure Pattern where
  source : String
  caseless : Bool
  expression : Regex.Expression
  reads : Regex.Expression.read source.toList caseless = some expression

namespace Pattern

/-- The pattern of a source. -/
def ofSource (source : String) (caseless : Bool) : Except ValueError Pattern :=
  match h : Regex.Expression.read source.toList caseless with
  | some e => .ok ⟨source, caseless, e, h⟩
  | none => .error (.invalidPattern source)

theorem ext_source {p q : Pattern} (hs : p.source = q.source) (hc : p.caseless = q.caseless) :
    p = q := by
  obtain ⟨s, c, e, he⟩ := p
  obtain ⟨s', c', e', he'⟩ := q
  dsimp only at hs hc
  subst hs hc
  cases Option.some.inj (he.symm.trans he')
  rfl

instance : DecidableEq Pattern := fun p q =>
  if h : p.source = q.source ∧ p.caseless = q.caseless then .isTrue (ext_source h.1 h.2)
  else .isFalse fun e => h (e ▸ ⟨rfl, rfl⟩)

/-- Whether a part of the text matches. -/
def matchesIn (p : Pattern) (text : String) : Bool := p.expression.matchesIn text.toList

/-- The source with a backslash before each slash. -/
def escapeSlashes : List Char → List Char
  | [] => []
  | c :: rest => if c = '/' then '\\' :: '/' :: escapeSlashes rest else c :: escapeSlashes rest

/-- The literal of a pattern. -/
def chars (p : Pattern) : List Char :=
  '/' :: escapeSlashes p.source.toList ++ '/' :: (if p.caseless then ['i'] else [])

instance : ToString Pattern := ⟨fun p => String.ofList p.chars⟩

end Pattern

end Criteria
