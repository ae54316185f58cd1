/-
The message of an error is a single line, unless it quotes a pattern of several.

What is wrong with a literal is said by quoting it, and most literals are of characters among which
no line break is: letters, digits and a few signs.  The one exception is a pattern.  Anything may
stand between its slashes, and what does not compile is quoted as it stands, line breaks and all.
-/
import Criteria.Log
import Criteria.Proofs.QuantityForm
import Criteria.Proofs.Stopping

namespace Criteria

open Criteria.Text

/-- The characters that begin a new line wherever they stand. -/
def lineBreaks : List Char := ['\n', '\x0b', '\x0c', '\r', '\u0085', '\u2028', '\u2029']

/-- A text without a line break. -/
def SingleLine (s : String) : Prop := ∀ c ∈ s.toList, c ∉ lineBreaks

instance (s : String) : Decidable (SingleLine s) := List.decidableBAll _ s.toList

section

variable {s t : String}

theorem singleLine_append : SingleLine (s ++ t) ↔ SingleLine s ∧ SingleLine t := by
  simp only [SingleLine, String.toList_append, List.forall_mem_append]

/-- What is put around a text makes no line break. -/
theorem singleLine_quote {opening closing : String} (hopening : SingleLine opening)
    (hclosing : SingleLine closing) : SingleLine (opening ++ s ++ closing) ↔ SingleLine s := by
  simp only [singleLine_append, hopening, hclosing, true_and, and_true]

theorem append_ne_empty (h : s ≠ "") : s ++ t ≠ "" :=
  fun hempty => h (String.append_eq_empty_iff.mp hempty).1

/-- No text of letters, digits and the signs of numbers has a line break. -/
theorem singleLine_of_isNumericChar (h : ∀ c ∈ s.toList, Source.isNumericChar c = true) :
    SingleLine s := by
  have hbreaks : lineBreaks.all (fun c => !Source.isNumericChar c) = true := by decide
  intro c hc hmem
  have hbreak := List.all_eq_true.mp hbreaks c hmem
  rw [h c hc] at hbreak
  exact absurd hbreak Bool.false_ne_true

theorem singleLine_toString (n : Nat) : SingleLine (toString n) := by
  refine singleLine_of_isNumericChar fun c hc => ?_
  rw [Nat.toString_eq_repr, Nat.toList_repr] at hc
  exact Source.isNumericChar_of_isAlphanum (isAlphanum_of_isDigit (isDigit_of_mem_natChars hc))

private theorem singleLine_intercalate {parts : List String} (hs : SingleLine s)
    (hparts : ∀ part ∈ parts, SingleLine part) : SingleLine (s.intercalate parts) := by
  induction parts with
  | nil => exact nofun
  | cons part parts ih =>
      obtain ⟨hpart, hmore⟩ := List.forall_mem_cons.mp hparts
      cases parts with
      | nil => rwa [String.intercalate_singleton]
      | cons next parts =>
          rw [String.intercalate_cons_cons, singleLine_append, singleLine_append]
          exact ⟨⟨hpart, hs⟩, ih hmore⟩

end

/-! ### What is wrong with a literal -/

private theorem ValueError.singleLine_invalidPattern {p : String} :
    SingleLine (invalidPattern p).message ↔ SingleLine p :=
  singleLine_quote (by decide) (by decide)

/-- What is wrong with a number is said by quoting the token, or the figures in it. -/
theorem Quantity.singleLine_of_parse {text : String} {e : ValueError}
    (h : parse text = .error e) (htext : ∀ c ∈ text.toList, Source.isNumericChar c = true) :
    SingleLine e.message := by
  rcases parse_eq_error.mp h with ⟨s, rfl, -, rfl⟩ | ⟨-, rfl⟩
  · refine (singleLine_quote (by decide) (by decide)).mpr (singleLine_of_isNumericChar ?_)
    intro c hc
    rw [String.toList_ofList] at hc
    refine htext c ?_
    rw [Spelling.text, String.toList_ofList]
    exact List.mem_append_left _ hc
  · exact (singleLine_quote (by decide) (by decide)).mpr (singleLine_of_isNumericChar htext)

private theorem Timestamp.eq_of_parse_eq_error {text : String} {e : ValueError}
    (h : parse text = .error e) : e = .invalidTimestamp text := by
  simp only [parse] at h
  split at h
  · cases h
  · exact (Except.error.inj h).symm

private theorem Version.eq_of_parse_eq_error {text : String} {e : ValueError}
    (h : parse text = .error e) : e = .invalidVersion text := by
  simp only [parse] at h
  split at h
  · cases h
  · exact (Except.error.inj h).symm

private theorem Category.eq_of_parse_eq_error {text : String} {e : ValueError}
    (h : parse text = .error e) : e = .unknownCategory text := by
  rw [parse] at h
  split at h
  · cases h
  · exact (Except.error.inj h).symm

private theorem Pattern.eq_of_ofSource_eq_error {text : String} {caseless : Bool} {e : ValueError}
    (h : ofSource text caseless = .error e) : e = .invalidPattern text := by
  rw [ofSource] at h
  split at h
  · cases h
  · exact (Except.error.inj h).symm

namespace Source

theorem singleLine_of_classify {token : String} {e : ValueError}
    (h : classify token = .error e) (htoken : ∀ c ∈ token.toList, isNumericChar c = true) :
    SingleLine e.message := by
  have hquoted : SingleLine token := singleLine_of_isNumericChar htoken
  have hquantity (h : (Quantity.parse token).map Value.quantity = .error e) :
      SingleLine e.message :=
    Quantity.singleLine_of_parse (map_eq_error.mp h) htoken
  have htimestamp (h : Timestamp.parse token = .error e) : SingleLine e.message := by
    rw [Timestamp.eq_of_parse_eq_error h]
    exact (singleLine_quote (by decide) (by decide)).mpr hquoted
  simp only [classify] at h
  split at h
  · exact hquantity h
  split at h
  · split at h
    · cases h
    · next f hf =>
      -- where it is no version either, it is as a date that the token is refused
      have hfallback : f = e := by
        split at h
        · split at h
          · cases h
          · exact Except.error.inj h
        · exact Except.error.inj h
      exact htimestamp (hfallback ▸ hf)
  split at h
  · rw [Version.eq_of_parse_eq_error (map_eq_error.mp h)]
    exact (singleLine_quote (by decide) (by decide)).mpr hquoted
  · exact hquantity h

private theorem eq_error_of_located {start after rest : List Char} {value : Except ValueError Value}
    {e : ValueError} (h : located start after value = .error ⟨rest, .value e⟩) :
    value = .error e := by
  cases value with
  | ok v => cases h
  | error d =>
      obtain ⟨-, hreason⟩ := Failure.mk.inj (Except.error.inj h)
      rw [Reason.value.inj hreason]

/-- A literal that denotes nothing is quoted on one line, or it is a pattern. -/
theorem singleLine_or_invalidPattern {s rest : List Char} {e : ValueError}
    (h : literal s = .error ⟨rest, .value e⟩) :
    SingleLine e.message ∨ ∃ p, e = .invalidPattern p := by
  rw [literal.eq_def] at h
  split at h
  · cases h
  · split at h
    · cases h
    · cases h
  · split at h
    · have hvalue := eq_error_of_located h
      exact Or.inr ⟨_, Pattern.eq_of_ofSource_eq_error (map_eq_error.mp hvalue)⟩
    · cases h
  · simp only at h
    split at h
    · refine Or.inl (singleLine_of_classify (eq_error_of_located h) fun c hc => ?_)
      rw [String.toList_ofList] at hc
      exact mem_takeWhile hc
    · split at h
      · next word left hword =>
        rw [Category.eq_of_parse_eq_error (map_eq_error.mp (eq_error_of_located h))]
        refine Or.inl ((singleLine_quote (by decide) (by decide)).mpr ?_)
        refine singleLine_of_isNumericChar fun c hc => ?_
        rw [String.toList_ofList] at hc
        exact isNumericChar_of_isSegmentChar (isSegmentChar_of_mem (segment?_eq_some hword).2.1 hc)
      · cases h

/-! ### Reasons -/

private theorem singleLine_unexpected (unclosed : Option Unclosed) (expected : List Expectation) :
    SingleLine (Reason.unexpected unclosed expected).message := by
  have hlist : SingleLine (", ".intercalate (expected.map Expectation.text)) := by
    refine singleLine_intercalate (by decide) ?_
    rw [List.forall_mem_map]
    intro e he
    cases e with
    | closing o => cases o <;> decide
    | _ => decide
  cases unclosed with
  | none =>
      cases expected with
      | nil => decide
      | cons e expected => exact singleLine_append.mpr ⟨by decide, hlist⟩
  | some u =>
      have hunclosed : SingleLine u.message := by cases u <;> decide
      cases expected with
      | nil => exact hunclosed
      | cons e expected =>
          refine singleLine_append.mpr ⟨singleLine_append.mpr ⟨hunclosed, by decide⟩, hlist⟩

private theorem Failure.ExplainedBy.singleLine_iff {f : Failure} {before : List Char}
    (h : f.ExplainedBy before) :
    SingleLine f.reason.message ↔ ∀ p, f.reason = .value (.invalidPattern p) → SingleLine p := by
  obtain ⟨rest, reason⟩ := f
  cases reason with
  | value e =>
      rcases singleLine_or_invalidPattern h.2 with hquoted | ⟨p, rfl⟩
      · refine iff_of_true hquoted fun p hp => ?_
        obtain rfl := Reason.value.inj hp
        exact ValueError.singleLine_invalidPattern.mp hquoted
      · refine ValueError.singleLine_invalidPattern.trans ⟨fun hp q hq => ?_, fun hp => hp p rfl⟩
        obtain rfl := ValueError.invalidPattern.inj (Reason.value.inj hq)
        exact hp
  | nesting =>
      refine iff_of_true ?_ nofun
      exact (singleLine_quote (by decide) (by decide)).mpr (singleLine_toString maxNesting)
  | unexpected unclosed expected =>
      exact iff_of_true (singleLine_unexpected unclosed expected) nofun

/-- Every message says something. -/
theorem Reason.message_ne_empty (r : Reason) : r.message ≠ "" := by
  cases r with
  | value e =>
      cases e with
      | unitConflict l r =>
          exact append_ne_empty (append_ne_empty (append_ne_empty (append_ne_empty (by decide))))
      | _ => exact append_ne_empty (append_ne_empty (by decide))
  | nesting => exact append_ne_empty (append_ne_empty (by decide))
  | unexpected unclosed expected =>
      cases unclosed with
      | none =>
          cases expected with
          | nil => decide
          | cons e expected => exact append_ne_empty (by decide)
      | some u =>
          have hunclosed : u.message ≠ "" := by cases u <;> decide
          cases expected with
          | nil => exact hunclosed
          | cons e expected => exact append_ne_empty (append_ne_empty hunclosed)

end Source

namespace Condition

open Source

/-- **The message of an error says something, and on one line, unless it quotes a pattern.**  It has
a line break just when a pattern that does not compile has one in its source.  The same goes for
the whole message with the position, and for what is logged. -/
theorem singleLine_detail_iff {source : String} {e : ParseError} (h : parse source = .error e) :
    e.detail ≠ "" ∧ e.message ≠ "" ∧
      (SingleLine e.detail ↔ ∀ p, e.reason = .value (.invalidPattern p) → SingleLine p) ∧
      (SingleLine e.message ↔ SingleLine e.detail) ∧
      ((∀ field ∈ (Event.parseFailed e).fields, SingleLine field.2) ↔ SingleLine e.detail) := by
  obtain ⟨before, rest, -, -, hexplained⟩ := exists_explained h
  have hopening : SingleLine "parse error at line " := by decide
  have hcolumn : SingleLine ", column " := by decide
  have hcolon : SingleLine ": " := by decide
  refine ⟨e.reason.message_ne_empty, ?_, hexplained.singleLine_iff, ?_, ?_⟩
  · unfold ParseError.message
    iterate 5 refine append_ne_empty ?_
    decide
  · unfold ParseError.message
    simp only [singleLine_append, singleLine_toString, hopening, hcolumn, hcolon, true_and]
  · rw [Event.fields, List.forall_mem_cons, List.forall_mem_singleton]
    exact and_iff_right (singleLine_toString e.offset)

/-- What is wrong with a month that no year has, on the second line of a text. -/
def monthThirteen : ParseError where
  offset := 5
  line := 2
  column := 1
  reason := .value (.invalidTimestamp "2006-13")

/-- The line break in the text is not in what is quoted. -/
theorem singleLine_detail_monthThirteen :
    parse "x ==\n2006-13" = .error monthThirteen ∧ SingleLine monthThirteen.detail ∧
      monthThirteen.detail ≠ "" ∧ monthThirteen.message ≠ "" ∧
      (SingleLine monthThirteen.detail ↔
        ∀ p, monthThirteen.reason = .value (.invalidPattern p) → SingleLine p) ∧
      (SingleLine monthThirteen.message ↔ SingleLine monthThirteen.detail) ∧
      ((∀ field ∈ (Event.parseFailed monthThirteen).fields, SingleLine field.2) ↔
        SingleLine monthThirteen.detail) := by
  have hparse : parse "x ==\n2006-13" = .error monthThirteen := by
    -- errors compare, conditions do not
    refine (map_eq_error (g := fun _ => ())).mp ?_
    decide +kernel
  exact ⟨hparse, by decide, singleLine_detail_iff hparse⟩

/-- What is wrong with a pattern of two lines whose group is not closed. -/
def groupUnclosed : ParseError where
  offset := 5
  line := 1
  column := 6
  reason := .value (.invalidPattern "(\n")

/-- The pattern is quoted with its line break. -/
theorem not_singleLine_groupUnclosed :
    parse "x =~ /(\n/" = .error groupUnclosed ∧
      groupUnclosed.detail = "invalid regular expression /(\n/" ∧
      ¬ SingleLine groupUnclosed.detail ∧ ¬ SingleLine groupUnclosed.message := by
  refine ⟨?_, rfl, by decide, by decide +kernel⟩
  -- errors compare, conditions do not
  refine (map_eq_error (g := fun _ => ())).mp ?_
  decide +kernel

end Condition

end Criteria
