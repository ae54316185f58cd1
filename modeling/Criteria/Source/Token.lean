/-
The small parts of a condition's text: names, comparison signs and joining signs.

A name is read as far as it goes.  A dot belongs to it only where another segment
follows the dot.
-/
import Criteria.Condition
import Criteria.Text.Blank

namespace Criteria.Source

/-! ### Names -/

/-- What a segment of a name opens with. -/
def isSegmentStart (c : Char) : Bool := c.isAlpha || c == '_'

/-- What a segment goes on with. -/
def isSegmentChar (c : Char) : Bool := c.isAlphanum || c == '_'

/-- Reads one segment. -/
def segment? : List Char → Option (List Char × List Char)
  | [] => none
  | c :: rest =>
    if isSegmentStart c then
      some (c :: rest.takeWhile isSegmentChar, rest.dropWhile isSegmentChar)
    else none

theorem segment?_length {s seg rest : List Char} (h : segment? s = some (seg, rest)) :
    rest.length < s.length := by
  cases s with
  | nil => simp [segment?] at h
  | cons c s =>
    simp only [segment?] at h
    split at h
    · obtain ⟨rfl, rfl⟩ := Prod.mk.inj (Option.some.inj h)
      have := (List.dropWhile_sublist (l := s) isSegmentChar).length_le
      simp only [List.length_cons]
      omega
    · simp at h

/-- Reads the segments that follow a first one, each after a dot. -/
def moreSegments : List Char → List Char × List Char
  | '.' :: rest =>
    match _h : segment? rest with
    | some (seg, after) =>
      let (more, left) := moreSegments after
      ('.' :: seg ++ more, left)
    | none => ([], '.' :: rest)
  | s => ([], s)
termination_by s => s.length
decreasing_by
  have := segment?_length _h
  simp only [List.length_cons]
  omega

/-- Reads a name: segments with dots between them. -/
def name? (s : List Char) : Option (String × List Char) :=
  match segment? s with
  | none => none
  | some (first, rest) =>
    let (more, left) := moreSegments rest
    some (String.ofList (first ++ more), left)

/-! ### Signs -/

/-- Reads the sign of a comparison, the longer of two signs first. -/
def operator? : List Char → Option (CompareOp × List Char)
  | '=' :: '=' :: rest => some (.eq, rest)
  | '=' :: '~' :: rest => some (.like, rest)
  | '!' :: '=' :: rest => some (.ne, rest)
  | '<' :: '=' :: rest => some (.le, rest)
  | '>' :: '=' :: rest => some (.ge, rest)
  | '<' :: rest => some (.lt, rest)
  | '>' :: rest => some (.gt, rest)
  | 'c' :: 'o' :: 'n' :: 't' :: 'a' :: 'i' :: 'n' :: 's' :: rest => some (.contains, rest)
  | _ => none

/-- Reads a joining sign, which is a character twice, with blanks before it. -/
def joiner? (c : Char) (s : List Char) : Option (List Char) :=
  match Text.skipBlanks s with
  | a :: b :: rest => if a = c ∧ b = c then some rest else none
  | _ => none

end Criteria.Source
