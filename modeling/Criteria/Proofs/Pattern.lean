/-
Which sources a pattern literal can hold.

A slash in a source is written with a backslash before it, and a backslash is written as
it stands.  So a slash that has an odd number of backslashes before it, or an end that
has, would be read as something else, and no other source would.
-/
import Criteria.Pattern

namespace Criteria.Pattern

/-- The number of backslashes that a text ends in. -/
def finalBackslashes (s : List Char) : Nat := (s.reverse.takeWhile (· == '\\')).length

/-- Before every slash, and before the end, stands an even number of backslashes. -/
def EvenlyEscaped (s : List Char) : Prop :=
  ∀ before after, s = before ++ after → (after = [] ∨ ∃ more, after = '/' :: more) →
    finalBackslashes before % 2 = 0

/-- The same, found in one pass: each backslash takes the next character with it, which
must be there and must be no slash. -/
def isEvenlyEscaped : List Char → Bool
  | '\\' :: d :: rest => d != '/' && isEvenlyEscaped rest
  | ['\\'] => false
  | _ :: rest => isEvenlyEscaped rest
  | [] => true

theorem finalBackslashes_cons (c : Char) (s : List Char) :
    finalBackslashes (c :: s) =
      if finalBackslashes s = s.length then s.length + (if c = '\\' then 1 else 0)
      else finalBackslashes s := by
  have hlast : ([c].takeWhile (· == '\\')).length = if c = '\\' then 1 else 0 := by
    by_cases hc : c = '\\'
    · simp [hc]
    · simp [hc]
  rw [finalBackslashes, List.reverse_cons, List.takeWhile_append, List.length_reverse,
    apply_ite List.length, List.length_append, List.length_reverse, hlast]
  rfl

private theorem finalBackslashes_of_ne {c : Char} (hc : c ≠ '\\') (s : List Char) :
    finalBackslashes (c :: s) = finalBackslashes s := by
  rw [finalBackslashes_cons, if_neg hc]
  split
  · next h => rw [h, Nat.add_zero]
  · rfl

private theorem finalBackslashes_le (s : List Char) : finalBackslashes s ≤ s.length := by
  have h := (List.takeWhile_sublist (l := s.reverse) (· == '\\')).length_le
  rwa [List.length_reverse] at h

/-- A backslash and the character that it takes with it leave the parity as it is. -/
theorem finalBackslashes_pair (d : Char) (s : List Char) :
    finalBackslashes ('\\' :: d :: s) % 2 = finalBackslashes s % 2 := by
  have hle := finalBackslashes_le s
  rw [finalBackslashes_cons, finalBackslashes_cons, if_pos rfl, List.length_cons]
  split
  · split
    · split <;> omega
    · split <;> omega
  · split
    · omega
    · rfl

private theorem evenlyEscaped_cons {c : Char} (hc : c ≠ '\\') {s : List Char} :
    EvenlyEscaped (c :: s) ↔ EvenlyEscaped s := by
  constructor
  · intro h before after hs hafter
    have := h (c :: before) after (by rw [hs]; rfl) hafter
    rwa [finalBackslashes_of_ne hc] at this
  · intro h before after hs hafter
    cases before with
    | nil => rfl
    | cons b before =>
        obtain ⟨rfl, rfl⟩ := List.cons.inj hs
        rw [finalBackslashes_of_ne hc]
        exact h before after rfl hafter

private theorem evenlyEscaped_pair {d : Char} {s : List Char} :
    EvenlyEscaped ('\\' :: d :: s) ↔ d ≠ '/' ∧ EvenlyEscaped s := by
  constructor
  · intro h
    refine ⟨?_, ?_⟩
    · rintro rfl
      exact absurd (h ['\\'] ('/' :: s) rfl (Or.inr ⟨s, rfl⟩)) (by decide)
    · intro before after hs hafter
      have := h ('\\' :: d :: before) after (by rw [hs]; rfl) hafter
      rwa [finalBackslashes_pair] at this
  · rintro ⟨hd, h⟩ before after hs hafter
    match before, hs with
    | [], _ => rfl
    | [b], hs =>
        obtain ⟨rfl, rfl⟩ := List.cons.inj hs
        rcases hafter with hnil | ⟨more, hmore⟩
        · exact absurd hnil (List.cons_ne_nil d s)
        · exact absurd (List.cons.inj hmore).1 hd
    | b :: e :: before, hs =>
        have htail := (List.cons.inj hs).2
        rw [← (List.cons.inj hs).1, finalBackslashes_pair]
        exact h before after (List.cons.inj htail).2 hafter

theorem evenlyEscaped_iff {s : List Char} : EvenlyEscaped s ↔ isEvenlyEscaped s = true := by
  fun_induction isEvenlyEscaped s with
  | case1 d rest ih =>
      rw [evenlyEscaped_pair, ih, Bool.and_eq_true_iff, bne_iff_ne]
  | case2 =>
      refine ⟨fun h => ?_, fun h => absurd h Bool.false_ne_true⟩
      exact absurd (h ['\\'] [] rfl (Or.inl rfl)) (by decide)
  | case3 c rest hpair hlast ih =>
      have hc : c ≠ '\\' := by
        rintro rfl
        cases rest with
        | nil => exact hlast rfl rfl
        | cons d rest => exact hpair d rest rfl rfl
      rw [evenlyEscaped_cons hc, ih]
  | case4 =>
      refine ⟨fun _ => rfl, fun _ before after hs _ => ?_⟩
      obtain ⟨rfl, -⟩ := List.append_eq_nil_iff.mp hs.symm
      rfl

/-- A pattern is the pattern of its source. -/
theorem ofSource_source (p : Pattern) : ofSource p.source p.caseless = .ok p := by
  rw [ofSource.eq_def]
  split
  · next e h =>
    exact congrArg Except.ok (ext_source rfl rfl)
  · next h => exact absurd (p.reads.symm.trans h) (Option.some_ne_none _)

end Criteria.Pattern
