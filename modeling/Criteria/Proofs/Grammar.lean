/-
The grammar of conditions.

The relations below say which texts are conditions and which condition each of them says.
They know nothing of a reader: no order in which alternatives are tried, no text that is
left over, no limit on nesting.  What a text encloses is measured apart from them, and
every text of the grammar closes what it opens.
-/
import Criteria.Proofs.Literal
import Criteria.Source.Grammar

namespace Criteria.Source

open Criteria.Text

mutual

/-- A single operand.  Blanks may stand between any two of its tokens.  What follows a
name is part of the rule only for a comparison: `contains` could go on with a name. -/
inductive Primary : List Char → Condition → Prop where
  | alwaysTrue : Primary "true".toList .alwaysTrue
  | compare {n w w' t : List Char} {v : Value} (op : CompareOp)
      (hn : LongestName n (w ++ (op.symbol.toList ++ (w' ++ t)))) (hw : Blank w)
      (hw' : Blank w') (ht : literal t = .ok (v, [])) :
      Primary (n ++ (w ++ (op.symbol.toList ++ (w' ++ t)))) (.compare (String.ofList n) op v)
  | within {n w w' t w'' : List Char} {cs : List Condition} (hn : isName n = true)
      (hw : Blank w) (hw' : Blank w') (ht : Disjuncts t cs) (hw'' : Blank w'') :
      Primary (n ++ (w ++ ('{' :: (w' ++ t ++ w'') ++ ['}'])))
        (.within (String.ofList n) (join .disjunction cs))
  | group {w t w' : List Char} {cs : List Condition} (hw : Blank w) (ht : Disjuncts t cs)
      (hw' : Blank w') : Primary ('(' :: (w ++ t ++ w') ++ [')']) (join .disjunction cs)

/-- Primaries joined by `&&`, in the order they are written. -/
inductive Conjuncts : List Char → List Condition → Prop where
  | one {t : List Char} {c : Condition} (ht : Primary t c) : Conjuncts t [c]
  | more {t w w' u : List Char} {c : Condition} {cs : List Condition} (ht : Primary t c)
      (hw : Blank w) (hw' : Blank w') (hu : Conjuncts u cs) :
      Conjuncts (t ++ (w ++ '&' :: '&' :: (w' ++ u))) (c :: cs)

/-- Conjunctions joined by `||`.  A conjunction of one part is that part. -/
inductive Disjuncts : List Char → List Condition → Prop where
  | one {t : List Char} {cs : List Condition} (ht : Conjuncts t cs) :
      Disjuncts t [join .conjunction cs]
  | more {t w w' u : List Char} {cs ds : List Condition} (ht : Conjuncts t cs)
      (hw : Blank w) (hw' : Blank w') (hu : Disjuncts u ds) :
      Disjuncts (t ++ (w ++ '|' :: '|' :: (w' ++ u))) (join .conjunction cs :: ds)

end

/-- A whole text says a condition: disjuncts with blanks around them. -/
inductive Derives : List Char → Condition → Prop where
  | intro {w t w' : List Char} {cs : List Condition} (hw : Blank w) (ht : Disjuncts t cs)
      (hw' : Blank w') : Derives (w ++ t ++ w') (join .disjunction cs)

/-! ### How the texts open -/

theorem isBlank_of_isSegmentStart {c : Char} (h : isSegmentStart c = true) :
    isBlank c = false ∧ c ≠ '(' := by
  have hnum := isNumericChar_of_isSegmentChar (isSegmentChar_of_isSegmentStart h)
  refine ⟨(isNumericChar_spec hnum).2.2.1, ?_⟩
  rintro rfl
  exact absurd h (by decide)

theorem Primary.cons {t : List Char} {c : Condition} (h : Primary t c) :
    ∃ a rest, t = a :: rest ∧ isBlank a = false := by
  cases h with
  | alwaysTrue => exact ⟨'t', _, rfl, by decide⟩
  | compare op hn =>
      obtain ⟨a, rest, rfl, ha⟩ := isName_cons hn.isName
      exact ⟨a, _, rfl, (isBlank_of_isSegmentStart ha).1⟩
  | within hn =>
      obtain ⟨a, rest, rfl, ha⟩ := isName_cons hn
      exact ⟨a, _, rfl, (isBlank_of_isSegmentStart ha).1⟩
  | group => exact ⟨'(', _, rfl, by decide⟩

theorem Conjuncts.cons {t : List Char} {cs : List Condition} (h : Conjuncts t cs) :
    ∃ a rest, t = a :: rest ∧ isBlank a = false := by
  cases h with
  | one ht => exact ht.cons
  | more ht =>
      obtain ⟨a, rest, rfl, ha⟩ := ht.cons
      exact ⟨a, _, rfl, ha⟩

theorem Disjuncts.cons {t : List Char} {cs : List Condition} (h : Disjuncts t cs) :
    ∃ a rest, t = a :: rest ∧ isBlank a = false := by
  cases h with
  | one ht => exact ht.cons
  | more ht =>
      obtain ⟨a, rest, rfl, ha⟩ := ht.cons
      exact ⟨a, _, rfl, ha⟩

/-- Blanks in front of an operand are skipped, and no more than these. -/
theorem skipBlanks_append_cons {w t rest : List Char} (hw : Blank w)
    (ht : ∃ a more, t = a :: more ∧ isBlank a = false) :
    skipBlanks (w ++ (t ++ rest)) = t ++ rest := by
  obtain ⟨a, more, rfl, ha⟩ := ht
  rw [skipBlanks_append hw]
  exact skipBlanks_of_stops (stops_cons.mpr ha)

/-! ### What the texts open they close -/

private theorem isQuiet_of_isBlank {c : Char} (h : isBlank c = true) : isQuiet c = true := by
  cases hq : isQuiet c with
  | true => rfl
  | false =>
      simp only [isQuiet, Bool.not_eq_false', Bool.or_eq_true, beq_iff_eq] at hq
      rcases hq with ((((rfl | rfl) | rfl) | rfl) | rfl) | rfl <;> exact absurd h (by decide)

theorem balanced_of_blank {w : List Char} (h : Blank w) : Balanced w 0 :=
  balanced_of_quiet fun c hc => isQuiet_of_isBlank (h c hc)

theorem balanced_of_isName {n : List Char} (h : isName n = true) : Balanced n 0 := by
  refine balanced_of_quiet fun c hc => ?_
  rcases mem_name h hc with hc | rfl
  · exact (isNumericChar_spec (isNumericChar_of_isSegmentChar hc)).2.1
  · decide

theorem balanced_symbol (op : CompareOp) : Balanced op.symbol.toList 0 :=
  balanced_of_quiet (List.all_eq_true.mp (by cases op <;> decide))

/-- An enclosure with blanks inside it. -/
theorem Balanced.enclose_blank {t w w' : List Char} {d : Nat} (h : Balanced t d)
    (hw : Blank w) (hw' : Blank w') (e : Enclosure) :
    Balanced (e.opener :: (w ++ t ++ w') ++ [e.closer]) (d + 1) :=
  (((balanced_of_blank hw).zero_append h).append_zero (balanced_of_blank hw')).enclose e

/-- Two operands with a joining sign between them are as deep as the deeper one. -/
theorem Balanced.joined {t u w w' : List Char} {d e : Nat} (ht : Balanced t d)
    (hu : Balanced u e) (hw : Blank w) (hw' : Blank w') {sign : Char}
    (hs : isQuiet sign = true) :
    Balanced (t ++ (w ++ sign :: sign :: (w' ++ u))) (max d e) := by
  have hsigns : Balanced [sign, sign] 0 := by
    refine balanced_of_quiet fun c hc => ?_
    rcases List.mem_cons.mp hc with rfl | hc
    · exact hs
    · rw [List.mem_singleton.mp hc]
      exact hs
  exact ht.append ((balanced_of_blank hw).zero_append
    (hsigns.zero_append ((balanced_of_blank hw').zero_append hu)))

theorem balanced_compare {n w w' t : List Char} {v : Value} (op : CompareOp)
    (hn : isName n = true) (hw : Blank w) (hw' : Blank w') (ht : IsLiteral t v) :
    Balanced (n ++ (w ++ (op.symbol.toList ++ (w' ++ t)))) 0 :=
  (balanced_of_isName hn).zero_append ((balanced_of_blank hw).zero_append
    ((balanced_symbol op).zero_append ((balanced_of_blank hw').zero_append ht.balanced)))

theorem balanced_within {n w w' t w'' : List Char} {d : Nat} (hn : isName n = true)
    (hw : Blank w) (hw' : Blank w') (ht : Balanced t d) (hw'' : Blank w'') :
    Balanced (n ++ (w ++ ('{' :: (w' ++ t ++ w'') ++ ['}']))) (d + 1) :=
  (balanced_of_isName hn).zero_append ((balanced_of_blank hw).zero_append
    (ht.enclose_blank hw' hw'' .braces))

end Criteria.Source
