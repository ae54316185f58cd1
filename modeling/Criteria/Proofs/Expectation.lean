/-
What a message says is expected.

The closing signs that it names, between back quotes, are those of the enclosures that are open
where reading stopped, the innermost first.  Nothing else in a message is quoted so.
-/
import Criteria.Proofs.Stopping
import Mathlib.Data.List.Basic

namespace Criteria.Source

/-! ### Quoted signs -/

/-- The signs that stand between back quotes, from left to right. -/
def quotedSigns : List Char → List Char
  | '\x60' :: c :: '\x60' :: rest => c :: quotedSigns rest
  | _ :: rest => quotedSigns rest
  | [] => []

theorem quotedSigns_append_of_not_mem {s : List Char} (h : '\x60' ∉ s) (t : List Char) :
    quotedSigns (s ++ t) = quotedSigns t := by
  induction s with
  | nil => rfl
  | cons c s ih =>
      obtain ⟨hc, hs⟩ := not_or.mp (mt List.mem_cons.mpr h)
      rw [List.cons_append, quotedSigns.eq_2 c (s ++ t) fun _ _ heq _ => hc heq.symm]
      exact ih hs

private theorem quotedSigns_of_not_mem {s : List Char} (h : '\x60' ∉ s) : quotedSigns s = [] := by
  have hsigns := quotedSigns_append_of_not_mem h []
  rwa [List.append_nil] at hsigns

/-- Of what may be expected, only a closing sign is quoted. -/
theorem quotedSigns_text_append (e : Expectation) (t : List Char) :
    quotedSigns (e.text.toList ++ t) =
      (e.enclosure?.map Enclosure.closer).toList ++ quotedSigns t := by
  cases e with
  | closing e => cases e <;> rfl
  | condition => exact quotedSigns_append_of_not_mem (by decide) t
  | literal => exact quotedSigns_append_of_not_mem (by decide) t
  | operator => exact quotedSigns_append_of_not_mem (by decide) t
  | continuation => exact quotedSigns_append_of_not_mem (by decide) t

/-- The closing signs of a list of expectations. -/
theorem quotedSigns_list (expected : List Expectation) :
    quotedSigns (", ".intercalate (expected.map Expectation.text)).toList =
      (expected.filterMap Expectation.enclosure?).map Enclosure.closer := by
  rw [String.toList_intercalate, List.map_map, List.map_filterMap, List.filterMap_eq_flatMap_toList]
  induction expected with
  | nil => rfl
  | cons e expected ih =>
      rw [List.flatMap_cons, ← ih]
      cases expected with
      | nil =>
          have hlast := quotedSigns_text_append e []
          rw [List.append_nil] at hlast
          rw [List.map_singleton, List.intercalate_singleton]
          exact hlast
      | cons next expected =>
          rw [List.map_cons, List.map_cons, List.intercalate_cons_cons, List.append_assoc,
            Function.comp_apply, quotedSigns_text_append,
            quotedSigns_append_of_not_mem (by decide)]

theorem quotedSigns_message (unclosed : Option Unclosed) (expected : List Expectation) :
    quotedSigns (Reason.unexpected unclosed expected).message.toList =
      (expected.filterMap Expectation.enclosure?).map Enclosure.closer := by
  have hunclosed : ∀ u : Unclosed, '\x60' ∉ u.message.toList := by
    intro u
    cases u <;> decide
  cases expected with
  | nil =>
      cases unclosed with
      | none =>
          show quotedSigns "unexpected input".toList = []
          exact quotedSigns_of_not_mem (by decide)
      | some u => exact quotedSigns_of_not_mem (hunclosed u)
  | cons e expected =>
      have hlist := quotedSigns_list (e :: expected)
      cases unclosed with
      | none =>
          show quotedSigns ("expected " ++ _ : String).toList = _
          rw [String.toList_append, quotedSigns_append_of_not_mem (by decide), hlist]
      | some u =>
          show quotedSigns (u.message ++ "; expected " ++ _ : String).toList = _
          rw [String.toList_append, String.toList_append, List.append_assoc,
            quotedSigns_append_of_not_mem (hunclosed u),
            quotedSigns_append_of_not_mem (by decide), hlist]

end Criteria.Source

namespace Criteria.Condition

open Criteria.Source

/-- A text that says a condition leaves nothing open. -/
theorem enclosing_of_derives {s : List Char} {c : Condition} (h : Derives s c) :
    enclosing s = [] := by
  obtain ⟨hw, ht, hw'⟩ := h
  obtain ⟨d, hbal, -⟩ := ht.taken
  have hwhole := ((balanced_of_blank hw).zero_append hbal).append_zero (balanced_of_blank hw')
  exact hwhole.opens.enclosing_eq

/-- **The closing signs that are expected mirror what is open.**  Unless a literal denotes nothing
or too much was nested, the closing signs that a message names are those of the parentheses and the
bodies that are open at the place of the error, the innermost first.  Behind a text that is a
condition by itself it names none. -/
theorem quotedSigns_detail {source : String} {e : ParseError} (h : parse source = .error e)
    (hvalue : ∀ v, e.reason ≠ .value v) (hnesting : e.reason ≠ .nesting) :
    ∃ before rest, source = before ++ rest ∧ before.utf8ByteSize = e.offset ∧
      quotedSigns e.detail.toList = (enclosing before.toList).map Enclosure.closer ∧
      ∀ c, Derives before.toList c → quotedSigns e.detail.toList = [] := by
  obtain ⟨before, rest, hs, he, hbefore⟩ := exists_explained h
  have hsigns : quotedSigns e.detail.toList = (enclosing before).map Enclosure.closer := by
    rw [ParseError.detail]
    cases hreason : e.reason with
    | value v => exact absurd hreason (hvalue v)
    | nesting => exact absurd hreason hnesting
    | unexpected unclosed expected =>
        rw [hreason] at hbefore
        rw [quotedSigns_message, hbefore.2.enclosing_eq]
  refine ⟨.ofList before, .ofList rest, ?_, ?_, ?_, fun c hc => ?_⟩
  · rw [← String.ofList_append, ← hs, String.ofList_toList]
  · rw [← ParseError.byteCount_toList, String.toList_ofList, he, ParseError.ofFailure]
  · rw [String.toList_ofList, hsigns]
  · rw [String.toList_ofList] at hc
    rw [hsigns, enclosing_of_derives hc]
    rfl

/-- A body in a group in a body, all of them open, and literals with brackets in them. -/
def leftOpen : String := "a \x7b ( b == \"(\x7d\" || c \x7b d =~ /[)]\\// && ?"

/-- What is wrong where the last operand should stand. -/
def operandMissing : ParseError where
  offset := 39
  line := 1
  column := 40
  reason := .unexpected none [.condition, .closing .braces, .condition, .closing .parentheses,
    .condition, .closing .braces, .condition]

/-- The brackets in the literals are not open. -/
theorem quotedSigns_detail_leftOpen :
    parse leftOpen = .error operandMissing ∧ (∀ v, operandMissing.reason ≠ .value v) ∧
      operandMissing.reason ≠ .nesting ∧
      operandMissing.detail =
        "expected condition, `\x7d`, condition, `)`, condition, `\x7d`, condition" ∧
      quotedSigns operandMissing.detail.toList = ['\x7d', ')', '\x7d'] ∧
      ∃ before rest, leftOpen = before ++ rest ∧ before.utf8ByteSize = operandMissing.offset ∧
        quotedSigns operandMissing.detail.toList =
          (enclosing before.toList).map Enclosure.closer ∧
        ∀ c, Derives before.toList c → quotedSigns operandMissing.detail.toList = [] := by
  have hparse : parse leftOpen = .error operandMissing := by
    -- errors compare, conditions do not
    refine (map_eq_error (g := fun _ => ())).mp ?_
    decide +kernel
  exact ⟨hparse, nofun, nofun, rfl, rfl, quotedSigns_detail hparse nofun nofun⟩

end Criteria.Condition
