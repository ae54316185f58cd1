/-
Whether an expression matches somewhere in a text.

A match is a walk over the positions of the text, and all walks are taken at once:
an expression carries the set of positions where it may begin to the set of those
where it may end.  Sets of positions are numbers, a position being a bit.  For one
text each set of characters and each assertion is the same set of positions
throughout, so these are found first.
-/
import Criteria.Regex.Expression

namespace Criteria.Regex

/-- A set of positions, position `i` being bit `i`. -/
abbrev Positions := Nat

/-- An expression over one text.  `stay` keeps the positions of a set, `step` moves
them one on, and a repetition has its bounds in numbers. -/
inductive Walk where
  | stay (places : Positions)
  | step (places : Positions)
  | sequence (first second : Walk)
  | choice (left right : Walk)
  | repetition (body : Walk) (least more : Nat)

/-- The number with this lowest bit and these bits above it. -/
def pushBit (bit : Bool) (rest : Positions) : Positions := 2 * rest + bit.toNat

theorem testBit_pushBit_zero (bit : Bool) (rest : Positions) :
    (pushBit bit rest).testBit 0 = bit := by
  cases bit <;> simp [pushBit, Nat.testBit_zero]

theorem testBit_pushBit_succ (bit : Bool) (rest : Positions) (i : Nat) :
    (pushBit bit rest).testBit (i + 1) = rest.testBit i := by
  rw [Nat.testBit_succ]
  congr 1
  have := bit.toNat_lt
  simp only [pushBit]
  omega

/-- The positions before a character of a set. -/
def positionsOf (set : CharSet) : List Char → Positions
  | [] => 0
  | c :: rest => pushBit (set.contains c.toNat) (positionsOf set rest)

/-- The positions where an assertion holds, from the one after `before` on. -/
def positionsWhere (a : Assertion) : Option Char → List Char → Positions
  | before, [] => pushBit (a.holds before none) 0
  | before, c :: rest =>
    pushBit (a.holds before (some c)) (positionsWhere a (some c) rest)

/-- All positions of a text of this length. -/
def allPositions (length : Nat) : Positions := Nat.pow 2 (length + 1) - 1

/-- The walk that an expression is on a text.  Without a bound, as many rounds are
made as there are positions: each but the last finds a new one. -/
def Expression.walk (text : List Char) : Expression → Walk
  | .empty => .stay (allPositions text.length)
  | .one set => .step (positionsOf set text)
  | .assertion a => .stay (positionsWhere a none text)
  | .sequence e f => .sequence (e.walk text) (f.walk text)
  | .choice e f => .choice (e.walk text) (f.walk text)
  | .repetition e least more =>
    .repetition (e.walk text) least (more.getD (text.length + 1))
  | .group e => e.walk text

/-- Repeats a step `n` times, or until it changes nothing. -/
def exactly (step : Positions → Positions) : Nat → Positions → Positions
  | 0, s => s
  | n + 1, s =>
    let t := step s
    if t = s then s else exactly step n t

/-- Collects what up to `n` steps reach, stopping when a step finds nothing new. -/
def upTo (step : Positions → Positions) : Nat → Positions → Positions
  | 0, s => s
  | n + 1, s =>
    let t := s ||| step s
    if t = s then s else upTo step n t

/-- The positions that a walk from one of `s` ends at. -/
def Walk.run : Walk → Positions → Positions
  | .stay p, s => s &&& p
  | .step p, s => (s &&& p) <<< 1
  | .sequence v w, s => w.run (v.run s)
  | .choice v w, s => v.run s ||| w.run s
  | .repetition w least more, s => upTo w.run more (exactly w.run least s)

/-- Whether an expression matches a part of a text. -/
def Expression.matchesIn (e : Expression) (text : List Char) : Bool :=
  (e.walk text).run (allPositions text.length) != 0

end Criteria.Regex
