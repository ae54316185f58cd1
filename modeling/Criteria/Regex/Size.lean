/-
How large an expression becomes.

An expression is compiled to two automata over the bytes of UTF-8, one that reads a
text forward and one that reads it backward.  If one of them takes more than ten
mebibytes, the expression is refused.  A state takes 32 bytes; one with several ways on
takes eight bytes more for each range of bytes it tells apart, or four for each branch
that it tries.

A set of characters becomes the byte sequences of its members.  Read forward they are
joined wherever what is left to read is the same, read backward only where what has been
read is the same, so the second automaton is mostly the larger one.  A repetition is
written out, one copy of its body for each round that is counted.

Out of scope are the states that branches of a choice share where they begin alike,
choices of thousands of texts, which no automaton is made for, and states made twice
because a bounded cache has forgotten the first.  By so much an expression near the limit
may be refused or not.
-/
import Criteria.Regex.Expression

namespace Criteria.Regex

open Unicode (Ranges)

/-! ### Byte sequences -/

/-- The bytes from a first to a last one. -/
structure ByteRange where
  first : Nat
  last : Nat
deriving DecidableEq, Repr

/-- Ranges of bytes, one for each byte of a character. -/
abbrev ByteSequence := List ByteRange

/-- The byte that a number of six bits continues a character with. -/
def continuation (n : Nat) : Nat := 0x80 + n

/-- Any byte that continues a character. -/
def anyContinuation : ByteRange := ⟨continuation 0, continuation 63⟩

/-- What the first digit of a number in base 64 is worth when so many digits follow it. -/
def worth : Nat → Nat
  | 0 => 1
  | more + 1 => 64 * worth more

theorem worth_pos (more : Nat) : 0 < worth more := by
  induction more with
  | zero => exact Nat.one_pos
  | succ more ih => exact Nat.mul_pos (by decide) ih

/-- The numbers from `a` to `b`, each as a first byte with a mark added and so many
continuations. -/
def byteSequences : Nat → Nat → Nat → Nat → List ByteSequence
  | 0, mark, a, b => [[⟨mark + a, mark + b⟩]]
  | more + 1, mark, a, b =>
    let unit := worth (more + 1)
    let under (digit a b : Nat) :=
      (byteSequences more (continuation 0) a b).map (⟨mark + digit, mark + digit⟩ :: ·)
    let digit := a / unit
    let digit' := b / unit
    if digit = digit' then under digit (a % unit) (b % unit)
    else
      let start := if a % unit = 0 then digit else digit + 1
      let stop := if b % unit = unit - 1 then digit' + 1 else digit'
      (if a % unit = 0 then [] else under digit (a % unit) (unit - 1)) ++
        (if start < stop then
          [⟨mark + start, mark + (stop - 1)⟩ :: List.replicate (more + 1) anyContinuation]
         else []) ++
        (if b % unit = unit - 1 then [] else under digit' 0 (b % unit))

/-- The code points of one length in UTF-8: how many bytes follow the first, and what marks
the first. -/
structure Block where
  first : Nat
  last : Nat
  more : Nat
  mark : Nat

/-- All code points but the surrogates, which have no bytes. -/
def blocks : List Block :=
  [⟨0, 0x7F, 0, 0⟩, ⟨0x80, 0x7FF, 1, 0xC0⟩, ⟨0x800, 0xD7FF, 2, 0xE0⟩,
    ⟨0xE000, 0xFFFF, 2, 0xE0⟩, ⟨0x10000, 0x10FFFF, 3, 0xF0⟩]

/-- The byte sequences of the code points in some ranges. -/
def sequencesOf (ranges : Ranges) : List ByteSequence :=
  ranges.flatMap fun (a, b) => blocks.flatMap fun block =>
    let first := max a block.first
    let last := min b block.last
    if first ≤ last then byteSequences block.more block.mark first last else []

/-! ### Sets of characters -/

/-- The bytes that a state takes. -/
def stateSize : Nat := 32

/-- The bytes that a way on over a range of bytes takes. -/
def moveSize : Nat := 8

/-- The bytes that a way on without a byte takes. -/
def branchSize : Nat := 4

/-- The bytes of several parts. -/
def total (sizes : List Nat) : Nat := sizes.foldl (· + ·) 0

/-- Which way a text is read. -/
inductive Direction where
  | forward
  | backward
deriving DecidableEq, Repr

/-- The ways that sequences begin, each with what may follow. -/
def beginnings : List ByteSequence → List (ByteRange × List ByteSequence)
  | [] => []
  | [] :: rest => beginnings rest
  | (r :: s) :: rest =>
    match beginnings rest with
    | [] => [(r, [s])]
    | (r', more) :: others =>
      if r = r' then (r, s :: more) :: others else (r, [s]) :: (r', more) :: others

/-- The states of so many levels, a state being what is left to read in it. -/
def levels : Nat → List (List ByteSequence) → List (List ByteSequence)
  | 0, _ => []
  | depth + 1, states =>
    let next := states.flatMap fun s => (beginnings s).map Prod.snd
    states ++ levels depth ((next.filter fun s => s.any (!·.isEmpty)).eraseDups)

/-- The bytes of the automaton that reads sequences forward. -/
def forwardSize (sequences : List ByteSequence) : Nat :=
  let states := (levels 4 [sequences]).eraseDups
  stateSize + total (states.map fun s => stateSize + moveSize * (beginnings s).length)

/-- How many bytes two sequences share from the first on. -/
def sharedLength : ByteSequence → ByteSequence → Nat
  | r :: s, r' :: s' => if r = r' then sharedLength s s' + 1 else 0
  | _, _ => 0

/-- The states of sequences in order, each going on where it parts from the one before. -/
def backwardStates : ByteSequence → List ByteSequence → Nat
  | _, [] => 0
  | before, s :: rest => s.length - sharedLength before s + backwardStates s rest

/-- The bytes of the automaton that reads sequences backward. -/
def backwardSize (sequences : List ByteSequence) : Nat :=
  2 * stateSize + branchSize * sequences.length + stateSize * backwardStates [] sequences

/-- The bytes that a set takes.  A single character is read byte by byte, and ASCII
characters in one step. -/
def CharSet.size (direction : Direction) (set : CharSet) : Nat :=
  let ranges := set.toRanges
  let sequences := sequencesOf ranges
  let single : Bool := match ranges with
    | [] => true
    | [(first, last)] => first == last
    | _ => false
  if single then max 1 (total (sequences.map List.length)) * stateSize
  else if ranges.all (·.2 < 0x80) then 2 * stateSize + moveSize * ranges.length
  else
    match direction with
    | .forward => forwardSize sequences
    | .backward => backwardSize sequences

/-! ### Expressions -/

namespace Expression

/-- Whether every match takes a character at least. -/
def takesSome : Expression → Bool
  | .empty => false
  | .one _ => true
  | .assertion _ => false
  | .sequence e f => e.takesSome || f.takesSome
  | .choice e f => e.takesSome && f.takesSome
  | .repetition e least _ => 0 < least && e.takesSome
  | .group e => e.takesSome

/-- Whether no match takes a character. -/
def takesNone : Expression → Bool
  | .empty => true
  | .one _ => false
  | .assertion _ => true
  | .sequence e f => e.takesNone && f.takesNone
  | .choice e f => e.takesNone && f.takesNone
  | .repetition e least more => (least == 0 && more == some 0) || e.takesNone
  | .group e => e.takesNone

/-- The set that an expression is, if it is one.  A choice of sets is their union. -/
def set? : Expression → Option CharSet
  | .one set => some set
  | .sequence e .empty => e.set?
  | .choice e f =>
    match e.set?, f.set? with
    | some a, some b => some (.union a b)
    | _, _ => none
  | _ => none

/-- Whether an expression is a choice and no set. -/
def isChoice : Expression → Bool
  | .choice e f => e.set?.isNone || f.set?.isNone
  | .sequence e .empty => e.isChoice
  | _ => false

/-- What takes no bytes in a sequence has a state where it is on its own. -/
def alone (size : Nat) : Nat := max size stateSize

/-- The bytes of a repetition, by those of its body and whether a round takes a character. -/
def repeatedSize (body : Nat) (takesSome : Bool) (least : Nat) : Option Nat → Nat
  | none =>
    if 0 < least then least * body + stateSize + 2 * branchSize
    else if takesSome then body + stateSize + 2 * branchSize
    else body + 3 * stateSize + 4 * branchSize
  | some more =>
    if least = 0 ∧ more = 1 then body + 2 * stateSize + 2 * branchSize
    else if more = 0 then least * body
    else
      alone (least * body) + stateSize + more * (body + stateSize + 2 * branchSize)

/-- The bytes of an expression in a sequence.  An empty one has none, and what takes no
character is not repeated more than once. -/
def size (direction : Direction) : Expression → Nat
  | .empty => 0
  | .one set => set.size direction
  | .assertion _ => stateSize
  | .sequence e f => e.size direction + f.size direction
  | .choice e f =>
    match e.set?, f.set? with
    | some a, some b => (CharSet.union a b).size direction
    | _, _ =>
      let branch (e : Expression) (size : Nat) :=
        if e.isChoice then size - 2 * stateSize else alone size + branchSize
      2 * stateSize + branch e (e.size direction) + branch f (f.size direction)
  | .repetition e least more =>
    let body := e.size direction
    if least = 0 ∧ more = some 0 then 0
    else if e.takesNone then
      if least = 0 then repeatedSize (alone body) false 0 (some 1) else body
    else repeatedSize body e.takesSome least more
  | .group e =>
    alone (e.size direction) + match direction with
      | .forward => 2 * stateSize
      | .backward => 0

/-- The bytes of the whole automaton.  It may begin anywhere in a text and notes where a
match ends, and forward where it begins as well. -/
def programSize (direction : Direction) (e : Expression) : Nat :=
  let search := 3 * stateSize + 2 * moveSize
  let whole := (Expression.group e).size direction
  search + whole + stateSize

/-- The most bytes that an automaton may take: ten mebibytes. -/
def sizeLimit : Nat := 10 * 1024 * 1024

/-- Whether both automata are within the limit. -/
def fits (e : Expression) : Bool :=
  e.programSize .forward ≤ sizeLimit && e.programSize .backward ≤ sizeLimit

end Expression

end Criteria.Regex
