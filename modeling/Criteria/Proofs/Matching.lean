/-
The walk over a text finds just the matches.

What it is for a part of a text to match an expression is said by recursion on the expression, a
part being given by the positions where it begins and ends.  The walk carries a set of positions
along this relation, and that is shown for each expression by induction.

Repetition is where the two are furthest apart.  A walk stops making rounds when a round finds
nothing new, and without a bound it makes no more rounds than the text has positions.  Both lose
nothing: a set that a round leaves as it is stays so, and since no match goes back in the text,
the rounds that do not move can be left out.
-/
import Criteria.Comparison
import Mathlib.Logic.Function.Iterate

namespace Criteria.Regex

/-! ### What matches -/

/-- So many steps of a relation, one after the other. -/
def Rounds (r : Nat → Nat → Prop) : Nat → Nat → Nat → Prop
  | 0, i, j => i = j
  | n + 1, i, k => ∃ j, r i j ∧ Rounds r n j k

/-- The character before a position. -/
def charBefore (before : Option Char) (text : List Char) : Nat → Option Char
  | 0 => before
  | i + 1 => text[i]?

/-- The part of a text from one position to another matches an expression. -/
def Expression.Matches (text : List Char) : Expression → Nat → Nat → Prop
  | .empty, i, j => i = j
  | .one set, i, j => j = i + 1 ∧ ∃ c, text[i]? = some c ∧ set.contains c.toNat = true
  | .assertion a, i, j => i = j ∧ a.holds (charBefore none text i) text[i]? = true
  | .sequence e f, i, k => ∃ j, e.Matches text i j ∧ f.Matches text j k
  | .choice e f, i, j => e.Matches text i j ∨ f.Matches text i j
  | .repetition e least more, i, j =>
    ∃ n, least ≤ n ∧ (∀ m, more = some m → n ≤ least + m) ∧ Rounds (e.Matches text) n i j
  | .group e, i, j => e.Matches text i j

section

variable {r : Nat → Nat → Prop} {n i j k : Nat}

theorem rounds_add {m : Nat} :
    Rounds r (m + n) i k ↔ ∃ j, Rounds r m i j ∧ Rounds r n j k := by
  induction m generalizing i with
  | zero => simp [Rounds]
  | succ m ih =>
      rw [Nat.succ_add]
      simp only [Rounds, ih]
      constructor
      · rintro ⟨j, hstep, l, hfirst, hsecond⟩
        exact ⟨l, ⟨j, hstep, hfirst⟩, hsecond⟩
      · rintro ⟨l, ⟨j, hstep, hfirst⟩, hsecond⟩
        exact ⟨j, hstep, l, hfirst, hsecond⟩

/-- What a step keeps, all rounds keep. -/
theorem Rounds.keeps {p : Nat → Prop} (hstep : ∀ i j, p i → r i j → p j) (hi : p i)
    (h : Rounds r n i j) : p j := by
  induction n generalizing i with
  | zero => exact h ▸ hi
  | succ n ih =>
      obtain ⟨k, hfirst, hrest⟩ := h
      exact ih (hstep i k hi hfirst) hrest

theorem Rounds.le (hforward : ∀ i j, r i j → i ≤ j) (h : Rounds r n i j) : i ≤ j :=
  h.keeps (p := fun k => i ≤ k) (fun k l hik hkl => Nat.le_trans hik (hforward k l hkl))
    (Nat.le_refl i)

theorem Rounds.within {length : Nat} (hwithin : ∀ i j, i ≤ length → r i j → j ≤ length)
    (hi : i ≤ length) (h : Rounds r n i j) : j ≤ length :=
  h.keeps (p := fun k => k ≤ length) hwithin hi

/-- Rounds that do not move can be left out, and then there are no more of them than positions
passed. -/
theorem Rounds.exists_le (hforward : ∀ i j, r i j → i ≤ j) (h : Rounds r n i k) :
    ∃ m, m ≤ k - i ∧ Rounds r m i k := by
  induction n generalizing i with
  | zero => exact ⟨0, Nat.zero_le _, h⟩
  | succ n ih =>
      obtain ⟨j, hfirst, hrest⟩ := h
      obtain ⟨m, hm, hrounds⟩ := ih hrest
      have hij := hforward i j hfirst
      have hjk := hrest.le hforward
      by_cases hmoves : i = j
      · subst hmoves
        exact ⟨m, hm, hrounds⟩
      · exact ⟨m + 1, by omega, j, hfirst, hrounds⟩

end

theorem Expression.Matches.le {e : Expression} {text : List Char} {i j : Nat}
    (h : e.Matches text i j) : i ≤ j := by
  induction e generalizing i j with
  | empty => exact Nat.le_of_eq h
  | one set => exact h.1 ▸ Nat.le_succ i
  | assertion a => exact Nat.le_of_eq h.1
  | sequence e f ihe ihf =>
      obtain ⟨k, he, hf⟩ := h
      exact Nat.le_trans (ihe he) (ihf hf)
  | choice e f ihe ihf => exact h.elim ihe ihf
  | repetition e least more ih =>
      obtain ⟨n, -, -, hrounds⟩ := h
      exact hrounds.le fun i j => ih
  | group e ih => exact ih h

theorem Expression.Matches.le_length {e : Expression} {text : List Char} {i j : Nat}
    (hi : i ≤ text.length) (h : e.Matches text i j) : j ≤ text.length := by
  induction e generalizing i j with
  | empty => exact h ▸ hi
  | one set =>
      obtain ⟨rfl, c, hc, -⟩ := h
      exact (List.getElem?_eq_some_iff.mp hc).1
  | assertion a => exact h.1 ▸ hi
  | sequence e f ihe ihf =>
      obtain ⟨k, he, hf⟩ := h
      exact ihf (ihe hi he) hf
  | choice e f ihe ihf => exact h.elim (ihe hi) (ihf hi)
  | repetition e least more ih =>
      obtain ⟨n, -, -, hrounds⟩ := h
      exact hrounds.within (fun i j hi hij => ih hi hij) hi
  | group e ih => exact ih hi h

/-! ### Sets of positions -/

theorem testBit_allPositions {length i : Nat} :
    (allPositions length).testBit i = true ↔ i ≤ length := by
  show (2 ^ (length + 1) - 1).testBit i = true ↔ _
  rw [Nat.testBit_two_pow_sub_one, decide_eq_true_eq, Nat.lt_succ_iff]

theorem testBit_positionsOf {set : CharSet} {text : List Char} {i : Nat} :
    (positionsOf set text).testBit i = true ↔
      ∃ c, text[i]? = some c ∧ set.contains c.toNat = true := by
  induction text generalizing i with
  | nil => simp [positionsOf]
  | cons c rest ih =>
      cases i with
      | zero => rw [positionsOf, testBit_pushBit_zero]; simp
      | succ i => rw [positionsOf, testBit_pushBit_succ, ih]; simp

theorem testBit_positionsWhere {a : Assertion} {before : Option Char} {text : List Char}
    {i : Nat} :
    (positionsWhere a before text).testBit i = true ↔
      i ≤ text.length ∧ a.holds (charBefore before text i) text[i]? = true := by
  induction text generalizing before i with
  | nil =>
      cases i with
      | zero => rw [positionsWhere, testBit_pushBit_zero]; simp [charBefore]
      | succ i => rw [positionsWhere, testBit_pushBit_succ]; simp
  | cons c rest ih =>
      cases i with
      | zero => rw [positionsWhere, testBit_pushBit_zero]; simp [charBefore]
      | succ i =>
          rw [positionsWhere, testBit_pushBit_succ, ih, List.getElem?_cons_succ,
            List.length_cons, Nat.succ_le_succ_iff]
          cases i with
          | zero => rfl
          | succ i => rfl

/-! ### Steps -/

/-- All positions of a set are positions of a text of this length. -/
def Within (length : Nat) (s : Positions) : Prop := ∀ i, s.testBit i = true → i ≤ length

/-- A step takes a set of positions of a text to those that a relation leads to from one of
them. -/
def Carries (length : Nat) (step : Positions → Positions) (r : Nat → Nat → Prop) : Prop :=
  ∀ s, Within length s → ∀ j, (step s).testBit j = true ↔ ∃ i, s.testBit i = true ∧ r i j

section

variable {length : Nat} {step : Positions → Positions} {r : Nat → Nat → Prop} {s : Positions}

theorem Carries.within (hcarries : Carries length step r)
    (hwithin : ∀ i j, i ≤ length → r i j → j ≤ length) (hs : Within length s) :
    Within length (step s) := by
  intro j hj
  obtain ⟨i, hi, hij⟩ := (hcarries s hs j).mp hj
  exact hwithin i j (hs i hi) hij

theorem Within.or {t : Positions} (hs : Within length s) (ht : Within length t) :
    Within length (s ||| t) := by
  intro i hi
  rw [Nat.testBit_or, Bool.or_eq_true] at hi
  exact hi.elim (hs i) (ht i)

/-- To stop where a step changes nothing makes no difference. -/
theorem exactly_eq_iterate (step : Positions → Positions) (n : Nat) (s : Positions) :
    exactly step n s = step^[n] s := by
  induction n generalizing s with
  | zero => rfl
  | succ n ih =>
      rw [exactly]
      split
      · next hsame => exact (Function.iterate_fixed hsame (n + 1)).symm
      · rw [ih, Function.iterate_succ_apply]

theorem carries_exactly (hcarries : Carries length step r)
    (hwithin : ∀ i j, i ≤ length → r i j → j ≤ length) (n : Nat) :
    Carries length (exactly step n) (Rounds r n) := by
  intro s hs j
  rw [exactly_eq_iterate]
  induction n generalizing s with
  | zero => simp [Rounds]
  | succ n ih =>
      rw [Function.iterate_succ_apply, ih (step s) (hcarries.within hwithin hs)]
      simp only [hcarries s hs, Rounds]
      constructor
      · rintro ⟨k, ⟨i, hi, hik⟩, hrest⟩
        exact ⟨i, hi, k, hik, hrest⟩
      · rintro ⟨i, hi, k, hik, hrest⟩
        exact ⟨k, ⟨i, hi, hik⟩, hrest⟩

/-- A set that a step adds nothing to holds all that rounds lead to. -/
theorem testBit_of_rounds (hcarries : Carries length step r) (hs : Within length s)
    (hclosed : s ||| step s = s) {n i j : Nat} (hi : s.testBit i = true) (h : Rounds r n i j) :
    s.testBit j = true := by
  refine h.keeps (p := fun k => s.testBit k = true) (fun k l hk hkl => ?_) hi
  rw [← hclosed, Nat.testBit_or, (hcarries s hs l).mpr ⟨k, hk, hkl⟩, Bool.or_true]

theorem carries_upTo (hcarries : Carries length step r)
    (hwithin : ∀ i j, i ≤ length → r i j → j ≤ length) (n : Nat) :
    Carries length (upTo step n) fun i j => ∃ m ≤ n, Rounds r m i j := by
  intro s hs j
  induction n generalizing s with
  | zero => simp [upTo, Rounds]
  | succ n ih =>
      rw [upTo]
      split
      · next hclosed =>
        constructor
        · exact fun hj => ⟨j, hj, 0, Nat.zero_le _, rfl⟩
        · rintro ⟨i, hi, m, -, hrounds⟩
          exact testBit_of_rounds hcarries hs hclosed hi hrounds
      · rw [ih _ (hs.or (hcarries.within hwithin hs))]
        simp only [Nat.testBit_or, Bool.or_eq_true, hcarries s hs]
        constructor
        · rintro ⟨i, hi | ⟨k, hk, hki⟩, m, hm, hrounds⟩
          · exact ⟨i, hi, m, Nat.le_succ_of_le hm, hrounds⟩
          · exact ⟨k, hk, m + 1, Nat.succ_le_succ hm, i, hki, hrounds⟩
        · rintro ⟨i, hi, m, hm, hrounds⟩
          cases m with
          | zero => exact ⟨i, Or.inl hi, 0, Nat.zero_le n, hrounds⟩
          | succ m =>
              obtain ⟨k, hik, hrest⟩ := hrounds
              exact ⟨k, Or.inr ⟨i, hi, hik⟩, m, Nat.le_of_succ_le_succ hm, hrest⟩

end

/-! ### Walks -/

/-- A walk carries positions to where matches from them end. -/
theorem Expression.carries_walk (e : Expression) (text : List Char) :
    Carries text.length (e.walk text).run (e.Matches text) := by
  induction e with
  | empty =>
      intro s hs j
      rw [walk, Walk.run, Nat.testBit_and, Bool.and_eq_true, testBit_allPositions]
      simp only [Matches, exists_eq_right]
      exact and_iff_left_of_imp (hs j)
  | one set =>
      intro s hs j
      rw [walk, Walk.run, Nat.testBit_shiftLeft, Bool.and_eq_true, decide_eq_true_eq,
        Nat.testBit_and, Bool.and_eq_true, testBit_positionsOf]
      simp only [Matches]
      constructor
      · rintro ⟨hj, hi, hc⟩
        exact ⟨j - 1, hi, (Nat.sub_add_cancel hj).symm, hc⟩
      · rintro ⟨i, hi, rfl, hc⟩
        exact ⟨Nat.le_add_left 1 i, hi, hc⟩
  | assertion a =>
      intro s hs j
      rw [walk, Walk.run, Nat.testBit_and, Bool.and_eq_true, testBit_positionsWhere]
      simp only [Matches]
      constructor
      · rintro ⟨hj, -, hholds⟩
        exact ⟨j, hj, rfl, hholds⟩
      · rintro ⟨i, hi, rfl, hholds⟩
        exact ⟨hi, hs i hi, hholds⟩
  | sequence e f ihe ihf =>
      intro s hs j
      rw [walk, Walk.run, ihf _ (ihe.within (fun i j hi h => h.le_length hi) hs)]
      simp only [ihe s hs, Matches]
      constructor
      · rintro ⟨k, ⟨i, hi, hik⟩, hkj⟩
        exact ⟨i, hi, k, hik, hkj⟩
      · rintro ⟨i, hi, k, hik, hkj⟩
        exact ⟨k, ⟨i, hi, hik⟩, hkj⟩
  | choice e f ihe ihf =>
      intro s hs j
      rw [walk, Walk.run, Nat.testBit_or, Bool.or_eq_true, ihe s hs, ihf s hs]
      simp only [Matches, and_or_left, exists_or]
  | repetition e least more ih =>
      intro s hs j
      have hwithin : ∀ i j, i ≤ text.length → e.Matches text i j → j ≤ text.length :=
        fun i j hi h => h.le_length hi
      have hforward : ∀ i j, e.Matches text i j → i ≤ j := fun i j h => h.le
      have hleast := carries_exactly ih hwithin least
      have hnext := hleast.within (fun i j hi h => h.within hwithin hi) hs
      rw [walk, Walk.run, carries_upTo ih hwithin _ _ hnext]
      simp only [hleast s hs, Matches]
      constructor
      · rintro ⟨k, ⟨i, hi, hfirst⟩, m, hm, hrest⟩
        refine ⟨i, hi, least + m, Nat.le_add_right least m, ?_, rounds_add.mpr ⟨k, hfirst, hrest⟩⟩
        rintro bound rfl
        exact Nat.add_le_add_left hm least
      · rintro ⟨i, hi, n, hn, hbound, hrounds⟩
        obtain ⟨m, rfl⟩ := Nat.exists_eq_add_of_le hn
        obtain ⟨k, hfirst, hrest⟩ := rounds_add.mp hrounds
        refine ⟨k, ⟨i, hi, hfirst⟩, ?_⟩
        cases more with
        | some bound => exact ⟨m, Nat.le_of_add_le_add_left (hbound bound rfl), hrest⟩
        | none =>
            obtain ⟨m', hm', hrest'⟩ := hrest.exists_le hforward
            have hj : j ≤ text.length :=
              hrest.within hwithin (hfirst.within hwithin (hs i hi))
            exact ⟨m', by simp only [Option.getD_none]; omega, hrest'⟩
  | group e ih => exact ih

/-- **An expression matches a part of a text exactly when the walk over the text ends
somewhere.** -/
theorem Expression.matchesIn_iff (e : Expression) (text : List Char) :
    e.matchesIn text = true ↔ ∃ i ≤ text.length, ∃ j, e.Matches text i j := by
  have hall : Within text.length (allPositions text.length) := fun i => testBit_allPositions.mp
  have hsome : e.matchesIn text = true ↔
      ∃ j, ((e.walk text).run (allPositions text.length)).testBit j = true := by
    rw [matchesIn, bne_iff_ne]
    constructor
    · exact Nat.exists_testBit_of_ne_zero
    · rintro ⟨j, hj⟩ hzero
      rw [hzero, Nat.zero_testBit] at hj
      exact Bool.false_ne_true hj
  rw [hsome]
  simp only [e.carries_walk text _ hall, testBit_allPositions]
  exact exists_comm.trans (exists_congr fun i => exists_and_left)

end Criteria.Regex

namespace Criteria.Comparison

/-- A text is like a pattern when a part of it matches the pattern's expression. -/
theorem compare_like_iff {name s : String} {p : Pattern} :
    compare name .like (.text s) (.pattern p) = .ok true ↔
      ∃ i ≤ s.toList.length, ∃ j, p.expression.Matches s.toList i j := by
  show Except.ok (p.matchesIn s) = Except.ok true ↔ _
  rw [Except.ok.injEq, Pattern.matchesIn, Regex.Expression.matchesIn_iff]

end Criteria.Comparison
