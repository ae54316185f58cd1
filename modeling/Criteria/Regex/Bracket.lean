/-
Bracketed sets of a regular expression, as `[a-z&&[^b]]`.

Within the brackets stand characters, ranges, escapes, sets with names and further
brackets, all of which are joined; between two joins may stand the signs for
intersection and difference, which are worked off from left to right.  How deep
the parts are nested is found along the way.
-/
import Criteria.Regex.Escape

namespace Criteria.Regex

/-- A part of an expression, and how deep it is nested. -/
structure Nested (α : Type) where
  part : α
  depth : Nat

/-- What has been joined so far within one pair of brackets: the set, the number of
its parts, and the depth of the deepest. -/
structure Joined where
  set : CharSet := .empty
  count : Nat := 0
  deepest : Nat := 0

def Joined.add (j : Joined) (set : CharSet) (depth : Nat) : Joined :=
  ⟨.union j.set set, j.count + 1, max j.deepest depth⟩

/-- The join of all; two parts or more make one level. -/
def Joined.finish (j : Joined) : Nested CharSet :=
  ⟨j.set, if j.count < 2 then j.deepest else j.deepest + 1⟩

/-- The signs between two joins. -/
inductive SetOperator where
  | intersection
  | difference
  | symmetricDifference
deriving DecidableEq, Repr

def SetOperator.apply : SetOperator → CharSet → CharSet → CharSet
  | .intersection, a, b => .inter a b
  | .difference, a, b => .difference a b
  | .symmetricDifference, a, b => .symmetricDifference a b

/-- The left operand that waits for its right one. -/
structure Waiting where
  left : Nested CharSet
  operator : SetOperator

/-- Works off the sign that waits, if there is one. -/
def resolve (flags : Flags) (waiting : Option Waiting) (right : Nested CharSet) :
    Nested CharSet :=
  match waiting with
  | none => right
  | some w =>
    let side (s : CharSet) := if flags.caseless then .caseless flags.folding s else s
    ⟨w.operator.apply (side w.left.part) (side right.part), max w.left.depth right.depth + 1⟩

/-! ### Parts -/

/-- Reads the name of an ASCII set after the bracket: `:name:]` or `:^name:]`. -/
def namedSet? (flags : Flags) (s : List Char) : Option (Option CharSet × List Char) :=
  match s with
  | ':' :: s =>
    let (negated, s) :=
      match s with
      | '^' :: s => (true, s)
      | s => (false, s)
    match s.dropWhile (· ≠ ':') with
    | ':' :: ']' :: rest =>
      (CharSet.asciiNamed? (s.takeWhile (· ≠ ':'))).map fun set =>
        (flags.finish negated set, rest)
    | _ => none
  | _ => none

/-- A character as a member of a set.  Without Unicode only ASCII is. -/
def memberOf? (flags : Flags) (codePoint : Nat) : Option Nat :=
  if flags.unicode || codePoint < 128 then some codePoint else none

/-- Reads a character or an escape within brackets. -/
def bracketAtom (flags : Flags) : List Char → Option (Atom × List Char)
  | [] => none
  | '\\' :: rest => escape flags rest
  | c :: rest => some (.char c.toNat false, rest)

/-- Reads a character, a set or a range.  A hyphen makes a range unless a closing
bracket or another hyphen follows it. -/
def bracketItem (flags : Flags) (s : List Char) : Option (CharSet × List Char) := do
  let (first, s) ← bracketAtom flags s
  let alone : Option CharSet :=
    match first with
    | .char n _ => (memberOf? flags n).map CharSet.single
    | .set set => some set
    | .assertion _ => none
  match flags.skip s with
  | [] => none
  | '-' :: rest =>
    let rest := flags.skip rest
    if rest.head? = some ']' ∨ rest.head? = some '-' then
      return (← alone, '-' :: rest)
    else
      let (last, s) ← bracketAtom flags rest
      match first, last with
      | .char a _, .char b _ =>
        let a ← memberOf? flags a
        let b ← memberOf? flags b
        if a ≤ b then return (.ranges [(a, b)], s) else none
      | _, _ => none
  | s => return (← alone, s)

/-- Adds the hyphens at the head of a text, which are members there. -/
def leadingHyphens (flags : Flags) (j : Joined) : List Char → Joined × List Char
  | '-' :: rest =>
    leadingHyphens flags (j.add (.single '-'.toNat) 0) (flags.skip rest)
  | s => (j, s)
termination_by s => s.length
decreasing_by
  have := flags.skip_length_le rest
  simp only [List.length_cons]
  omega

/-- Reads what may follow an opening bracket: `^`, hyphens, and a closing bracket
that is a member when nothing stands before it. -/
def openBracket (flags : Flags) (s : List Char) : Bool × Joined × List Char :=
  let s := flags.skip s
  let (negated, s) :=
    match s with
    | '^' :: rest => (true, flags.skip rest)
    | s => (false, s)
  let (j, s) := leadingHyphens flags {} s
  match s with
  | ']' :: rest =>
    if j.count = 0 then (negated, j.add (.single ']'.toNat) 0, flags.skip rest)
    else (negated, j, s)
  | s => (negated, j, s)

/-! ### The whole of it -/

/-- Reads up to the closing bracket.  Each step takes a character at least, so that
many steps are enough as there are characters. -/
def bracketBody (flags : Flags) :
    Nat → Joined → Option Waiting → List Char → Option (Nested CharSet × List Char)
  | 0, _, _, _ => none
  | fuel + 1, j, waiting, s =>
    let operator (op : SetOperator) (rest : List Char) :=
      bracketBody flags fuel {} (some ⟨resolve flags waiting j.finish, op⟩) rest
    match flags.skip s with
    | [] => none
    | ']' :: rest => some (resolve flags waiting j.finish, rest)
    | '[' :: rest =>
      match namedSet? flags rest with
      | some (none, _) => none
      | some (some set, rest) => bracketBody flags fuel (j.add set 0) waiting rest
      | none =>
        let (negated, inner, rest) := openBracket flags rest
        match bracketBody flags fuel inner none rest with
        | none => none
        | some (inner, rest) =>
          match flags.finish negated inner.part with
          | none => none
          | some set => bracketBody flags fuel (j.add set (inner.depth + 1)) waiting rest
    | '&' :: '&' :: rest => operator .intersection rest
    | '-' :: '-' :: rest => operator .difference rest
    | '~' :: '~' :: rest => operator .symmetricDifference rest
    | s =>
      match bracketItem flags s with
      | none => none
      | some (set, rest) => bracketBody flags fuel (j.add set 0) waiting rest

/-- Reads a bracketed set, its opening bracket being gone. -/
def bracket (flags : Flags) (s : List Char) : Option (Nested CharSet × List Char) :=
  let (negated, j, s) := openBracket flags s
  match bracketBody flags (s.length + 1) j none s with
  | none => none
  | some (n, rest) => (flags.finish negated n.part).map fun set => (⟨set, n.depth + 1⟩, rest)

end Criteria.Regex
