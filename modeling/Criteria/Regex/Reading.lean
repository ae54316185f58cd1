/-
Reading a regular expression.

An expression is a choice of sequences.  A group holds an expression of its own, and
a change of flags holds to the end of the group it stands in, over all branches of
its choice.  What is read is refused where it is nested too deep, or would become too
large.
-/
import Criteria.Regex.Bracket
import Criteria.Regex.Size

namespace Criteria.Regex

/-- The deepest nesting of groups, brackets, repetitions, sequences and choices. -/
def nestingLimit : Nat := 250

/-- What is left to read, and the names that groups have been given. -/
structure Cursor where
  rest : List Char
  names : List (List Char) := []

/-! ### Sequences and choices -/

/-- The branches of a choice that are done, and the items of the one that is not,
both with the last one first.  A change of flags is an item, but none that could be
repeated. -/
structure Branches where
  done : List (Nested Expression) := []
  items : List (Option (Nested Expression)) := []

def deepest (parts : List (Nested Expression)) : Nat :=
  parts.foldl (fun d p => max d p.depth) 0

/-- Puts parts one after the other, the last one first in the list. -/
def sequenceOf (parts : List (Nested Expression)) : Expression :=
  parts.foldl (fun tail p => .sequence p.part tail) .empty

/-- The items of the branch that is not done, as one part. -/
def Branches.current (b : Branches) : Nested Expression :=
  let parts := b.items.filterMap id
  match b.items with
  | [] => ⟨.empty, 0⟩
  | [_] => ⟨sequenceOf parts, deepest parts⟩
  | _ => ⟨sequenceOf parts, deepest parts + 1⟩

/-- Ends the branch. -/
def Branches.nextBranch (b : Branches) : Branches := ⟨b.current :: b.done, []⟩

/-- All branches as one part. -/
def Branches.finish (b : Branches) : Nested Expression :=
  let last := b.current
  if b.done.isEmpty then last
  else
    ⟨b.done.foldl (fun right p => .choice p.part right) last.part,
      max (deepest b.done) last.depth + 1⟩

def Branches.add (b : Branches) (e : Expression) (depth : Nat) : Branches :=
  { b with items := some ⟨e, depth⟩ :: b.items }

/-- Repeats the item that was added last. -/
def Branches.repeatLast (b : Branches) (least : Nat) (most : Option Nat) :
    Option Branches :=
  match b.items with
  | some last :: before =>
    let part := Expression.repetition last.part least (most.map (· - least))
    some { b with items := some ⟨part, last.depth + 1⟩ :: before }
  | _ => none

/-! ### Repetitions -/

/-- A question mark after a repetition says which match is preferred, and no more. -/
def skipLazy : List Char → List Char
  | '?' :: rest => rest
  | s => s

/-- Numbers from here on are no repetition. -/
def countBound : Nat := 4294967296

/-- Reads the number of a repetition with blanks around it. -/
def count (flags : Flags) (s : List Char) : Option (Nat × List Char) :=
  let (digits, rest) := takeSpaced flags Char.isDigit (Text.skipBlanks s)
  let n := Text.readDigits digits
  if digits.isEmpty || n ≥ countBound then none else some (n, Text.skipBlanks rest)

/-- Reads the numbers of a repetition, its opening brace being gone. -/
def counts (flags : Flags) (s : List Char) : Option ((Nat × Option Nat) × List Char) := do
  let (least, s) ← count flags (flags.skip s)
  let ((least, most), s) ←
    match s with
    | ',' :: rest =>
      let rest := flags.skip rest
      if rest.head? = some '}' then some ((least, none), rest)
      else (count flags rest).map fun (most, s) => ((least, some most), s)
    | s => some ((least, some least), s)
  match s with
  | '}' :: rest =>
    if most.all (least ≤ ·) then some ((least, most), skipLazy (flags.skip rest)) else none
  | _ => none

/-! ### Groups -/

/-- The name of a group: letters, numbers and a few signs, a letter or an underscore
first. -/
def isNameChar (first : Bool) (c : Char) : Bool :=
  c == '_' ||
    (if first then Unicode.alphabetic.contains c.toNat
     else c == '.' || c == '[' || c == ']' || Unicode.alphanumeric.contains c.toNat)

/-- Reads the name of a group, which no other group may have. -/
def groupName (cursor : Cursor) (s : List Char) : Option Cursor :=
  let name := s.takeWhile (· ≠ '>')
  match s.dropWhile (· ≠ '>'), name with
  | '>' :: rest, first :: others =>
    if isNameChar true first && others.all (isNameChar false) && !cursor.names.contains name
    then some ⟨rest, name :: cursor.names⟩
    else none
  | _, _ => none

/-- Sets one flag.  The letter `U` is a flag that changes no match. -/
def Flags.set (flags : Flags) (value : Bool) : Char → Option Flags
  | 'i' => some { flags with caseless := value }
  | 'm' => some { flags with multiLine := value }
  | 's' => some { flags with dotAll := value }
  | 'R' => some { flags with carriage := value }
  | 'u' => some { flags with unicode := value }
  | 'x' => some { flags with spaced := value }
  | 'U' => some flags
  | _ => none

/-- Reads flags up to a colon or a closing parenthesis, neither of which is taken.
No letter may come twice, and a minus sign only once and not last. -/
def readFlags (seen : List Char) (flags : Flags) : List Char → Option (Flags × List Char)
  | [] => none
  | c :: rest =>
    if c = ':' ∨ c = ')' then
      if seen.head? = some '-' then none else some (flags, c :: rest)
    else if seen.contains c then none
    else if c = '-' then readFlags ('-' :: seen) flags rest
    else
      match flags.set (!seen.contains '-') c with
      | some flags => readFlags (c :: seen) flags rest
      | none => none

/-- What an opening parenthesis begins. -/
inductive Opening where
  /-- a change of flags for the rest of the group it stands in -/
  | change (flags : Flags)
  /-- a group, with the flags that hold inside it, which may capture what it matches -/
  | group (flags : Flags) (captures : Bool)

/-- Reads what follows an opening parenthesis. -/
def opening (flags : Flags) (cursor : Cursor) : Option (Opening × Cursor) :=
  let s := flags.skip cursor.rest
  let named (s : List Char) := (groupName cursor s).map fun c => (Opening.group flags true, c)
  match s with
  | '?' :: '=' :: _ => none
  | '?' :: '!' :: _ => none
  | '?' :: '<' :: '=' :: _ => none
  | '?' :: '<' :: '!' :: _ => none
  | '?' :: 'P' :: '<' :: rest => named rest
  | '?' :: '<' :: rest => named rest
  | '?' :: rest =>
    match readFlags [] flags rest with
    | some (inner, ')' :: left) =>
      if rest.head? = some ')' then none
      else some (.change inner, { cursor with rest := left })
    | some (inner, _ :: left) => some (.group inner false, { cursor with rest := left })
    | _ => none
  | s => some (.group flags true, { cursor with rest := s })

/-! ### Single characters -/

/-- The set of a character that stands for itself. -/
def literal (flags : Flags) (codePoint : Nat) : CharSet :=
  if flags.caseless then
    .ranges ((flags.folding.variants codePoint).map fun n => (n, n))
  else .single codePoint

/-- The set that a full stop stands for; without Unicode it would match parts of
characters, and there is none. -/
def anyChar (flags : Flags) : Option CharSet :=
  if !flags.unicode then none
  else if flags.dotAll then some (.complement .empty)
  else if flags.carriage then some (.complement (.ofChars ['\r', '\n']))
  else some (.complement (.ofChars ['\n']))

/-- An atom as an expression.  Without Unicode a byte must be ASCII. -/
def Atom.expression (flags : Flags) : Atom → Option Expression
  | .char n byte =>
    if !flags.unicode && byte && n ≥ 128 then none else some (.one (literal flags n))
  | .set members => some (.one members)
  | .assertion a => some (.assertion a)

/-- Reads one character or one escape. -/
def single (flags : Flags) : List Char → Option (Expression × List Char)
  | [] => none
  | '\\' :: rest => do
    let (atom, rest) ← escape flags rest
    return (← atom.expression flags, rest)
  | '.' :: rest => (anyChar flags).map fun set => (.one set, rest)
  | '^' :: rest =>
    let a : Assertion := if flags.multiLine then .lineStart flags.carriage else .textStart
    some (.assertion a, rest)
  | '$' :: rest =>
    let a : Assertion := if flags.multiLine then .lineEnd flags.carriage else .textEnd
    some (.assertion a, rest)
  | c :: rest => some (.one (literal flags c.toNat), rest)

/-! ### The whole of it -/

/-- Reads up to the end of a group, or of the text.  Each step takes a character at
least, so that many steps are enough as there are characters. -/
def body : Nat → Flags → Branches → Cursor → Option (Nested Expression × Cursor)
  | 0, _, _, _ => none
  | fuel + 1, flags, b, cursor =>
    let goOn (b : Branches) (rest : List Char) :=
      body fuel flags b { cursor with rest := rest }
    let again (least : Nat) (most : Option Nat) (rest : List Char) :=
      match b.repeatLast least most with
      | some b => goOn b rest
      | none => none
    match flags.skip cursor.rest with
    | [] => some (b.finish, { cursor with rest := [] })
    | ')' :: rest => some (b.finish, { cursor with rest := ')' :: rest })
    | '|' :: rest => goOn b.nextBranch rest
    | '?' :: rest => again 0 (some 1) (skipLazy rest)
    | '*' :: rest => again 0 none (skipLazy rest)
    | '+' :: rest => again 1 none (skipLazy rest)
    | '{' :: rest =>
      match counts flags rest with
      | some ((least, most), rest) => again least most rest
      | none => none
    | '[' :: rest =>
      match bracket flags rest with
      | some (n, rest) => goOn (b.add (.one n.part) n.depth) rest
      | none => none
    | '(' :: rest =>
      match opening flags { cursor with rest := rest } with
      | none => none
      | some (.change flags, cursor) =>
        body fuel flags { b with items := none :: b.items } cursor
      | some (.group inner captures, cursor) =>
        match body fuel inner {} cursor with
        | some (n, ⟨')' :: rest, names⟩) =>
          let part := if captures then .group n.part else n.part
          body fuel flags (b.add part (n.depth + 1)) ⟨rest, names⟩
        | _ => none
    | s =>
      match single flags s with
      | some (e, rest) => goOn (b.add e 0) rest
      | none => none

/-- The expression that a text says, with or without regard to case. -/
def Expression.read (text : List Char) (caseless : Bool) : Option Expression :=
  match body (text.length + 1) { caseless } {} ⟨text, []⟩ with
  | some (n, ⟨[], _⟩) => if n.depth ≤ nestingLimit && n.part.fits then some n.part else none
  | _ => none

end Criteria.Regex
