/-
The smallest parts of a regular expression as they are written: single characters,
escapes, and the blanks and comments that a flag lets stand between them.
-/
import Criteria.Regex.Expression
import Criteria.Text.Blank
import Criteria.Text.Numeral

namespace Criteria.Regex

/-- What an expression may switch on and off within itself. -/
structure Flags where
  caseless : Bool := false
  multiLine : Bool := false
  dotAll : Bool := false
  carriage : Bool := false
  unicode : Bool := true
  spaced : Bool := false
deriving DecidableEq, Repr

/-- The variants that count where case does not. -/
def Flags.folding (flags : Flags) : Folding := if flags.unicode then .unicode else .ascii

/-- A set as the flags would have it: without regard to case, and complemented if it
is written so.  Without Unicode a complement would have parts of characters in it,
and there is none. -/
def Flags.finish (flags : Flags) (negated : Bool) (set : CharSet) : Option CharSet :=
  let set := if flags.caseless then .caseless flags.folding set else set
  if negated then if flags.unicode then some (.complement set) else none
  else some set

/-! ### Blanks and comments -/

/-- Skips blanks and comments; a comment begins with `#` and ends with its line. -/
def skipRemarks : Bool → List Char → List Char
  | _, [] => []
  | true, c :: rest => skipRemarks (c != '\n') rest
  | false, c :: rest =>
    if Text.isBlank c then skipRemarks false rest
    else if c = '#' then skipRemarks true rest
    else c :: rest

/-- Skips what the flags allow to be skipped. -/
def Flags.skip (flags : Flags) (s : List Char) : List Char :=
  if flags.spaced then skipRemarks false s else s

private theorem skipRemarks_length_le (inComment : Bool) (s : List Char) :
    (skipRemarks inComment s).length ≤ s.length := by
  fun_induction skipRemarks inComment s <;> simp <;> omega

theorem Flags.skip_length_le (flags : Flags) (s : List Char) :
    (flags.skip s).length ≤ s.length := by
  unfold Flags.skip
  split
  · exact skipRemarks_length_le false s
  · exact Nat.le_refl _

/-- Takes the characters of a class off a text, skipping between them. -/
def takeSpaced (flags : Flags) (p : Char → Bool) : List Char → List Char × List Char
  | [] => ([], [])
  | c :: rest =>
    if p c then
      let (cs, left) := takeSpaced flags p (flags.skip rest)
      (c :: cs, left)
    else ([], c :: rest)
termination_by s => s.length
decreasing_by
  have := flags.skip_length_le rest
  simp only [List.length_cons]
  omega

/-! ### Escapes -/

/-- A character, a set, or an assertion.  A character may be given as a byte. -/
inductive Atom where
  | char (codePoint : Nat) (byte : Bool)
  | set (set : CharSet)
  | assertion (a : Assertion)

def isHexDigit (c : Char) : Bool :=
  c.isDigit || ('a' ≤ c && c ≤ 'f') || ('A' ≤ c && c ≤ 'F')

/-- The character with this number, if there is one. -/
def charOf? (n : Nat) (byte : Bool) : Option Atom :=
  if n.isValidChar then some (.char n byte) else none

/-- Reads exactly `n` digits of base sixteen. -/
def fixedHex (flags : Flags) : Nat → List Char → List Char → Option (Nat × List Char)
  | 0, digits, s => some (Unicode.readHex digits.reverse, s)
  | _ + 1, _, [] => none
  | n + 1, digits, c :: rest =>
    if isHexDigit c then fixedHex flags n (c :: digits) (flags.skip rest) else none

/-- Reads the number of a character, `places` digits or any number between braces. -/
def hexEscape (flags : Flags) (places : Nat) (s : List Char) : Option (Atom × List Char) :=
  match flags.skip s with
  | '{' :: rest =>
    match takeSpaced flags (· ≠ '}') (flags.skip rest) with
    | (digits, '}' :: rest) =>
      if digits.isEmpty || !digits.all isHexDigit then none
      else (charOf? (Unicode.readHex digits) false).map fun a => (a, flags.skip rest)
    | _ => none
  | s =>
    match fixedHex flags places [] s with
    | some (n, rest) => (charOf? n (places == 2)).map fun a => (a, rest)
    | none => none

/-- The place of a text in another one. -/
def splitAtText? (mark : List Char) : List Char → Option (List Char × List Char)
  | [] => none
  | c :: rest =>
    if mark.isPrefixOf (c :: rest) then some ([], (c :: rest).drop mark.length)
    else (splitAtText? mark rest).map fun (before, after) => (c :: before, after)

/-- The set that the name in `\p` selects, and whether it is negated by it. -/
def propertySet? (name : List Char) : Option (CharSet × Bool) :=
  let valued (parts : List Char × List Char) (negated : Bool) :=
    (Unicode.valued? parts.1 parts.2).map fun rs => (CharSet.ranges rs, negated)
  match splitAtText? ['!', '='] name with
  | some parts => valued parts true
  | none =>
    match (splitAtText? [':'] name).or (splitAtText? ['='] name) with
    | some parts => valued parts false
    | none => (Unicode.named? name).map fun rs => (CharSet.ranges rs, false)

/-- Reads what follows `\p` or `\P`: one letter, or a name between braces. -/
def propertyEscape (flags : Flags) (negated : Bool) (s : List Char) :
    Option (Atom × List Char) :=
  let named : Option (List Char × List Char) :=
    match flags.skip s with
    | '{' :: rest =>
      match takeSpaced flags (· ≠ '}') (flags.skip rest) with
      | (name, '}' :: rest) => some (name, rest)
      | _ => none
    | '\\' :: _ => none
    | c :: rest => some ([c], flags.skip rest)
    | [] => none
  match named with
  | none => none
  | some (name, rest) =>
    if flags.unicode then do
      let (set, unequal) ← propertySet? name
      let set ← flags.finish (negated != unequal) set
      return (.set set, rest)
    else none

/-- One of the three short sets, or its complement. -/
def shortSet (flags : Flags) (negated : Bool) (set : CharSet) : Option CharSet :=
  ({ flags with caseless := false }).finish negated set

/-- The edges of words that have names. -/
def namedEdge? (name : List Char) : Option WordEdge :=
  match String.ofList name with
  | "start" => some .start
  | "end" => some .stop
  | "start-half" => some .startHalf
  | "end-half" => some .stopHalf
  | _ => none

/-- Reads what follows `\b`.  A brace after it may name an edge; if no letter or
hyphen comes first in the brace, it is a repetition and none of this. -/
def boundaryEscape (flags : Flags) (s : List Char) : Option (WordEdge × List Char) :=
  let isNameChar (c : Char) := c.isAlpha || c == '-'
  match s with
  | '{' :: rest =>
    match flags.skip rest with
    | [] => none
    | c :: inside =>
      if isNameChar c then
        match takeSpaced flags isNameChar (c :: inside) with
        | (name, '}' :: rest) => (namedEdge? name).map fun edge => (edge, rest)
        | _ => none
      else some (.boundary, '{' :: rest)
  | s => some (.boundary, s)

/-- Characters that mean something of their own unless they are escaped. -/
def isMeta (c : Char) : Bool := "\\.+*?()|[]\x7b\x7d^$#&-~".toList.contains c

/-- Characters that stand for themselves when escaped: all of ASCII but letters,
digits and the two angle brackets. -/
def isEscapable (c : Char) : Bool :=
  isMeta c || (c.toNat < 128 && !c.isAlphanum && c != '<' && c != '>')

/-- The characters that a letter stands for when escaped. -/
def controlEscape? : Char → Option Nat
  | 'a' => some 7
  | 'f' => some 12
  | 't' => some 9
  | 'n' => some 10
  | 'r' => some 13
  | 'v' => some 11
  | _ => none

/-- Reads what follows a backslash. -/
def escape (flags : Flags) : List Char → Option (Atom × List Char)
  | [] => none
  | c :: rest =>
    let short (negated : Bool) (set : CharSet) :=
      (shortSet flags negated set).map fun set => (Atom.set set, rest)
    let edge (e : WordEdge) := some (Atom.assertion (.word e flags.unicode), rest)
    match c with
    | 'x' => hexEscape flags 2 rest
    | 'u' => hexEscape flags 4 rest
    | 'U' => hexEscape flags 8 rest
    | 'p' => propertyEscape flags false rest
    | 'P' => propertyEscape flags true rest
    | 'd' => short false (.digits flags.unicode)
    | 'D' => short true (.digits flags.unicode)
    | 's' => short false (.spaces flags.unicode)
    | 'S' => short true (.spaces flags.unicode)
    | 'w' => short false (.words flags.unicode)
    | 'W' => short true (.words flags.unicode)
    | 'A' => some (.assertion .textStart, rest)
    | 'z' => some (.assertion .textEnd, rest)
    | 'b' =>
      (boundaryEscape flags rest).map fun (e, rest) =>
        (.assertion (.word e flags.unicode), rest)
    | 'B' => edge .inside
    | '<' => edge .start
    | '>' => edge .stop
    | c =>
      if isEscapable c then some (.char c.toNat false, rest)
      else (controlEscape? c).map fun n => (.char n false, rest)

end Criteria.Regex
