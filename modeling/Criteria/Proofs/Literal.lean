/-
How much of a text a literal takes.

A literal is read off the head of a text, and what it takes is a literal text by itself:
it opens and closes nothing around it, and in front of anything that may follow an operand
it is read to the same value again.
-/
import Criteria.Proofs.Enclosing
import Criteria.Proofs.Name
import Criteria.Source.Literal

namespace Criteria.Source

open Criteria.Text

/-! ### What follows an operand -/

/-- A blank, the first character of a joining sign, or a sign that closes an enclosure. -/
def isOperandEnd (c : Char) : Bool :=
  isBlank c || c == '&' || c == '|' || c == ')' || c == '}'

/-- Nothing follows, or something that may follow an operand. -/
def OperandEnds (rest : List Char) : Prop := Stops (fun c => !isOperandEnd c) rest

theorem operandEnds_nil : OperandEnds [] := stops_nil _

theorem operandEnds_cons {c : Char} {rest : List Char} (h : isOperandEnd c = true) :
    OperandEnds (c :: rest) :=
  stops_cons.mpr (by rw [h]; rfl)

/-- After blanks as well. -/
theorem OperandEnds.blank_append {w rest : List Char} (hw : Blank w) (h : OperandEnds rest) :
    OperandEnds (w ++ rest) := by
  cases w with
  | nil => exact h
  | cons c w =>
      apply operandEnds_cons
      rw [isOperandEnd, hw c List.mem_cons_self]
      rfl

private theorem toNat_lt_of_isNumericChar {c : Char} (h : isNumericChar c = true) :
    c.toNat < 128 := by
  simp only [isNumericChar, Bool.or_eq_true, beq_iff_eq] at h
  rcases h with ((((h | rfl) | rfl) | rfl) | rfl) | rfl
  · exact toNat_lt_of_isAlphanum h
  all_goals decide

theorem isNumericChar_of_isAlphanum {c : Char} (h : c.isAlphanum = true) :
    isNumericChar c = true := by
  rw [isNumericChar, h]
  rfl

theorem isNumericChar_of_isSegmentChar {c : Char} (h : isSegmentChar c = true) :
    isNumericChar c = true := by
  simp only [isSegmentChar, isNumericChar, Bool.or_eq_true] at h ⊢
  rcases h with h | h
  · simp only [h, true_or]
  · simp only [h, or_true, true_or]

/-- No character of a number or a name ends an operand, or means anything to a scan. -/
theorem isNumericChar_spec {c : Char} (h : isNumericChar c = true) :
    isOperandEnd c = false ∧ isQuiet c = true ∧ isBlank c = false ∧ c ≠ '=' := by
  refine forall_ascii
    (P := fun c => isNumericChar c = true →
      isOperandEnd c = false ∧ isQuiet c = true ∧ isBlank c = false ∧ c ≠ '=')
    ?_ c (toNat_lt_of_isNumericChar h) h
  decide

theorem OperandEnds.numeric {rest : List Char} (h : OperandEnds rest) :
    Stops isNumericChar rest :=
  h.of_imp fun c hc => by rw [(isNumericChar_spec hc).1]; rfl

theorem OperandEnds.segment {rest : List Char} (h : OperandEnds rest) :
    Stops isSegmentChar rest :=
  h.numeric.of_imp fun _ hc => isNumericChar_of_isSegmentChar hc

/-- A name ends where its operand does. -/
theorem OperandEnds.nameEnds {rest : List Char} (h : OperandEnds rest) : NameEnds rest where
  segment := h.segment
  dot more hmore := by
    subst hmore
    exact absurd (stops_cons.mp h) (by decide)

/-! ### Texts and patterns -/

section

variable {closer : Char} {escapable : Char → Bool}

theorem delimited?_closer (rest : List Char) :
    delimited? closer escapable (closer :: rest) = some ([], rest) := by
  rw [delimited?.eq_def]
  exact if_pos rfl

theorem delimited?_escaped (h : '\\' ≠ closer) {d : Char} {rest content left : List Char}
    (hrest : delimited? closer escapable rest = some (content, left)) :
    delimited? closer escapable ('\\' :: d :: rest) =
      some (if escapable d then d :: content else '\\' :: d :: content, left) := by
  rw [delimited?.eq_def]
  simp only [if_neg h, if_true, hrest, Option.map_some]

theorem delimited?_plain {c : Char} (h : c ≠ closer) (hback : c ≠ '\\')
    {rest content left : List Char}
    (hrest : delimited? closer escapable rest = some (content, left)) :
    delimited? closer escapable (c :: rest) = some (c :: content, left) := by
  rw [delimited?.eq_def]
  simp only [if_neg h, if_neg hback, hrest, Option.map_some]

/-- What is read up to a closing sign is all that is read, whatever comes after. -/
theorem delimited?_eq_some {s content left : List Char}
    (h : delimited? closer escapable s = some (content, left)) :
    ∃ t, Closing closer t ∧ s = t ++ left ∧
      ∀ rest, delimited? closer escapable (t ++ rest) = some (content, rest) := by
  fun_induction delimited? closer escapable s generalizing content left with
  | case1 => simp at h
  | case2 s =>
      obtain ⟨rfl, rfl⟩ := Prod.mk.inj (Option.some.inj h)
      exact ⟨[closer], .close, rfl, delimited?_closer⟩
  | case3 => simp at h
  | case4 d s hne ih =>
      obtain ⟨⟨inner, left'⟩, hinner, heq⟩ := Option.map_eq_some_iff.mp h
      obtain ⟨rfl, rfl⟩ := Prod.mk.inj heq
      obtain ⟨t, ht, rfl, hread⟩ := ih hinner
      exact ⟨'\\' :: d :: t, .escaped d ht, rfl, fun rest =>
        delimited?_escaped hne (hread rest)⟩
  | case5 c s hne hback ih =>
      obtain ⟨⟨inner, left'⟩, hinner, heq⟩ := Option.map_eq_some_iff.mp h
      obtain ⟨rfl, rfl⟩ := Prod.mk.inj heq
      obtain ⟨t, ht, rfl, hread⟩ := ih hinner
      exact ⟨c :: t, .plain hback hne ht, rfl, fun rest =>
        delimited?_plain hne hback (hread rest)⟩

end

private theorem caseFlag_eq {s left : List Char} {flag : Bool} (h : caseFlag s = (flag, left)) :
    ∃ t, s = t ++ left ∧ (∀ c ∈ t, c = 'i') ∧
      ∀ rest, Stops (· == 'i') rest → caseFlag (t ++ rest) = (flag, rest) := by
  rw [caseFlag.eq_def] at h
  split at h
  · obtain ⟨rfl, rfl⟩ := Prod.mk.inj h
    exact ⟨['i'], rfl, fun c hc => List.mem_singleton.mp hc, fun rest _ => rfl⟩
  · obtain ⟨rfl, rfl⟩ := Prod.mk.inj h
    refine ⟨[], rfl, fun c hc => absurd hc List.not_mem_nil, fun rest hrest => ?_⟩
    rw [List.nil_append, caseFlag.eq_def]
    split
    · exact absurd (stops_cons.mp hrest) (by decide)
    · rfl

/-! ### Literals -/

theorem located_eq_ok {start rest left : List Char} {value : Except ValueError Value}
    {v : Value} : located start rest value = .ok (v, left) ↔ value = .ok v ∧ rest = left := by
  cases value with
  | error e => simp [located]
  | ok w => simp [located]

/-- A literal that opens with no quote and no slash is a number or a word. -/
theorem literal_cons {c : Char} (hquote : c ≠ '"') (hslash : c ≠ '/') (rest : List Char) :
    literal (c :: rest) =
      if c.isDigit || c == '-' then
        located (c :: rest) ((c :: rest).dropWhile isNumericChar)
          (classify (String.ofList ((c :: rest).takeWhile isNumericChar)))
      else
        match segment? (c :: rest) with
        | some (word, left) =>
          located (c :: rest) left ((Category.parse (String.ofList word)).map .category)
        | none => .error (.at (c :: rest) []) := by
  rw [literal.eq_def]
  split
  · next h => exact absurd h (List.cons_ne_nil c rest)
  · next h => exact absurd (List.cons.inj h).1 hquote
  · next h => exact absurd (List.cons.inj h).1 hslash
  · next d s _ _ h =>
    obtain ⟨rfl, rfl⟩ := List.cons.inj h
    rfl

/-- A token of characters of numbers is one literal text. -/
theorem literal_numeric {c : Char} {t rest : List Char} (hc : (c.isDigit || c == '-') = true)
    (ht : ∀ d ∈ c :: t, isNumericChar d = true) (hr : Stops isNumericChar rest) :
    literal (c :: t ++ rest) =
      located (c :: t ++ rest) rest (classify (String.ofList (c :: t))) := by
  have hquote : c ≠ '"' := by rintro rfl; exact absurd hc (by decide)
  have hslash : c ≠ '/' := by rintro rfl; exact absurd hc (by decide)
  rw [List.cons_append, literal_cons hquote hslash, if_pos hc, ← List.cons_append,
    takeWhile_append_of_stops ht hr, dropWhile_append_of_stops ht hr]

/-- A word is one literal text. -/
theorem literal_word {w rest : List Char} (hw : isSegment w = true)
    (hr : Stops isSegmentChar rest) :
    literal (w ++ rest) =
      located (w ++ rest) rest ((Category.parse (String.ofList w)).map .category) := by
  cases w with
  | nil => exact absurd hw Bool.false_ne_true
  | cons c w =>
      have hstart : isSegmentStart c = true := (Bool.and_eq_true_iff.mp hw).1
      have hclass : (c.isDigit || c == '-') = false ∧ c ≠ '"' ∧ c ≠ '/' := by
        have hlt := toNat_lt_of_isNumericChar
          (isNumericChar_of_isSegmentChar (isSegmentChar_of_isSegmentStart hstart))
        refine forall_ascii
          (P := fun c => isSegmentStart c = true →
            (c.isDigit || c == '-') = false ∧ c ≠ '"' ∧ c ≠ '/') ?_ c hlt hstart
        decide
      rw [List.cons_append, literal_cons hclass.2.1 hclass.2.2, hclass.1,
        if_neg Bool.false_ne_true, ← List.cons_append, segment?_append hw hr]

/-- A text that is one literal of a value: it is read to that value wherever its operand
may end behind it, and it opens and closes nothing. -/
structure IsLiteral (t : List Char) (v : Value) : Prop where
  reads : ∀ rest, OperandEnds rest → literal (t ++ rest) = .ok (v, rest)
  balanced : Balanced t 0
  opens : ∃ c rest, t = c :: rest ∧ isBlank c = false ∧ c ≠ '='

theorem isLiteral_text {s text left : List Char} (h : quoted? s = some (text, left)) :
    ∃ t, s = t ++ left ∧ IsLiteral ('"' :: t) (.text (String.ofList text)) := by
  obtain ⟨t, ht, rfl, hagain⟩ := delimited?_eq_some h
  refine ⟨t, rfl, ?_, ht.balanced (Or.inl rfl), ⟨_, _, rfl, by decide⟩⟩
  intro rest _
  have hread : quoted? (t ++ rest) = some (text, rest) := hagain rest
  rw [List.cons_append, literal.eq_2, hread]

theorem isLiteral_pattern {s source after left : List Char} {caseless : Bool} {v : Value}
    (h : slashed? s = some (source, after)) (hflag : caseFlag after = (caseless, left))
    (hv : (Pattern.ofSource (String.ofList source) caseless).map .pattern = .ok v) :
    ∃ t, s = t ++ left ∧ IsLiteral ('/' :: t) v := by
  obtain ⟨t, ht, rfl, hagain⟩ := delimited?_eq_some h
  obtain ⟨f, rfl, hf, hflagged⟩ := caseFlag_eq hflag
  have hquiet : ∀ d ∈ f, isQuiet d = true := fun d hd => by rw [hf d hd]; decide
  refine ⟨t ++ f, (List.append_assoc t f left).symm, ?_,
    (ht.balanced (Or.inr rfl)).append_zero (balanced_of_quiet hquiet), ⟨_, _, rfl, by decide⟩⟩
  intro rest hrest
  have hread : slashed? (t ++ (f ++ rest)) = some (source, f ++ rest) := hagain (f ++ rest)
  have hstop : Stops (· == 'i') rest := by
    refine hrest.of_imp fun d hd => ?_
    rw [beq_iff_eq.mp hd]
    decide
  rw [List.cons_append, List.append_assoc, literal.eq_3, hread]
  simp only [hflagged rest hstop]
  exact located_eq_ok.mpr ⟨hv, rfl⟩

theorem isLiteral_number {c : Char} {t : List Char} {v : Value}
    (hc : (c.isDigit || c == '-') = true) (ht : ∀ d ∈ c :: t, isNumericChar d = true)
    (hv : classify (String.ofList (c :: t)) = .ok v) : IsLiteral (c :: t) v where
  reads rest hrest := by
    rw [literal_numeric hc ht hrest.numeric]
    exact located_eq_ok.mpr ⟨hv, rfl⟩
  balanced := balanced_of_quiet fun d hd => (isNumericChar_spec (ht d hd)).2.1
  opens := ⟨c, t, rfl, (isNumericChar_spec (ht c List.mem_cons_self)).2.2⟩

theorem isLiteral_word {w : List Char} {v : Value} (hw : isSegment w = true)
    (hv : (Category.parse (String.ofList w)).map .category = .ok v) : IsLiteral w v where
  reads rest hrest := by
    rw [literal_word hw hrest.segment]
    exact located_eq_ok.mpr ⟨hv, rfl⟩
  balanced := balanced_of_quiet fun d hd =>
    (isNumericChar_spec (isNumericChar_of_isSegmentChar (isSegmentChar_of_mem hw hd))).2.1
  opens := by
    obtain ⟨d, rest, rfl, hd⟩ := isName_cons (isName_of_isSegment hw)
    have hnum := isNumericChar_of_isSegmentChar (isSegmentChar_of_isSegmentStart hd)
    exact ⟨d, rest, rfl, (isNumericChar_spec hnum).2.2⟩

/-- What a literal takes of a text is a literal by itself. -/
theorem literal_eq_ok {s left : List Char} {v : Value} (h : literal s = .ok (v, left)) :
    ∃ t, s = t ++ left ∧ IsLiteral t v := by
  cases s with
  | nil => simp [literal] at h
  | cons c s =>
      by_cases hquote : c = '"'
      · subst hquote
        rw [literal.eq_2] at h
        split at h
        · next text left' hread =>
          obtain ⟨rfl, rfl⟩ := Prod.mk.inj (Except.ok.inj h)
          obtain ⟨t, rfl, ht⟩ := isLiteral_text hread
          exact ⟨'"' :: t, rfl, ht⟩
        · simp at h
      by_cases hslash : c = '/'
      · subst hslash
        rw [literal.eq_3] at h
        split at h
        · next source after hread =>
          generalize hflag : caseFlag after = flagged at h
          obtain ⟨caseless, left'⟩ := flagged
          obtain ⟨hvalue, rfl⟩ := located_eq_ok.mp h
          obtain ⟨t, rfl, ht⟩ := isLiteral_pattern hread hflag hvalue
          exact ⟨'/' :: t, rfl, ht⟩
        · simp at h
      rw [literal_cons hquote hslash] at h
      split at h
      · next hc =>
        obtain ⟨hvalue, rfl⟩ := located_eq_ok.mp h
        have hnum : isNumericChar c = true := by
          rcases Bool.or_eq_true_iff.mp hc with hdigit | hminus
          · exact isNumericChar_of_isAlphanum (isAlphanum_of_isDigit hdigit)
          · rw [beq_iff_eq.mp hminus]
            decide
        have htake : (c :: s).takeWhile isNumericChar = c :: s.takeWhile isNumericChar :=
          List.takeWhile_cons_of_pos hnum
        rw [htake] at hvalue
        refine ⟨c :: s.takeWhile isNumericChar, ?_, isLiteral_number hc ?_ hvalue⟩
        · rw [← htake, List.takeWhile_append_dropWhile]
        · rw [← htake]
          exact fun d hd => mem_takeWhile hd
      · split at h
        · next word left' hread =>
          obtain ⟨hvalue, rfl⟩ := located_eq_ok.mp h
          obtain ⟨hs, hword, _⟩ := segment?_eq_some hread
          exact ⟨word, hs, isLiteral_word hword hvalue⟩
        · simp at h

/-- A literal is a text of which the reader leaves nothing. -/
theorem isLiteral_iff {t : List Char} {v : Value} : IsLiteral t v ↔ literal t = .ok (v, []) := by
  constructor
  · intro h
    have := h.reads [] operandEnds_nil
    rwa [List.append_nil] at this
  · intro h
    obtain ⟨t', ht, hlit⟩ := literal_eq_ok h
    rw [List.append_nil] at ht
    rwa [ht]

end Criteria.Source
