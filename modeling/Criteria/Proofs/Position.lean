/-
The position of an error, which is given in bytes, as a line and a column, and by a picture.

All three are about one place.  A text is cut there in two, so that the place is between two
characters, and the line around the place is what no line feed is in.  Line feeds and what they end
are counted before the place only; the picture is drawn from the whole text.  They agree because
reading never stops between a carriage return and the line feed that ends a line with it: blanks
are skipped before it stops, and behind the sign of an enclosure there is no carriage return.
-/
import Mathlib.Data.List.GetD
import Mathlib.Data.List.Induction
import Criteria.Proofs.Stopping

namespace Criteria.ParseError

/-! ### Lines -/

/-- A text of lines that a line feed ends, each of them. -/
def WholeLines (s : List Char) : Prop := s = [] ∨ s.getLast? = some '\n'

/-- What a line may be followed by: nothing, a line feed, or both characters that end a line.  A
carriage return that a line feed follows is not in the line. -/
inductive EndsLine : List Char → List Char → Prop
  | text (line : List Char) : EndsLine line []
  | feed (line : List Char) (below : List Char) (h : line.getLast? ≠ some '\r') :
      EndsLine line ('\n' :: below)
  | returnFeed (line : List Char) (below : List Char) : EndsLine line ('\r' :: '\n' :: below)

/-- A text that is cut at a place, with the line around the place. -/
structure LineAround (s above left right below : List Char) : Prop where
  text_eq : s = above ++ left ++ (right ++ below)
  above_whole : WholeLines above
  not_mem_line : '\n' ∉ left ++ right
  line_ends : EndsLine (left ++ right) below

/-- The place between the two characters that end a line together. -/
def SplitsReturn (before rest : List Char) : Prop :=
  before.getLast? = some '\r' ∧ rest.head? = some '\n'

private theorem exists_wholeLines (s : List Char) :
    ∃ above left, s = above ++ left ∧ WholeLines above ∧ '\n' ∉ left := by
  induction s using List.reverseRecOn with
  | nil => exact ⟨[], [], rfl, Or.inl rfl, List.not_mem_nil⟩
  | append_singleton s c ih =>
      by_cases hc : c = '\n'
      · subst hc
        exact ⟨s ++ ['\n'], [], (List.append_nil _).symm, Or.inr List.getLast?_concat,
          List.not_mem_nil⟩
      · obtain ⟨above, left, rfl, habove, hleft⟩ := ih
        refine ⟨above, left ++ [c], List.append_assoc .., habove, ?_⟩
        rw [List.mem_append, not_or]
        exact ⟨hleft, fun h => hc (List.mem_singleton.mp h).symm⟩

/-- What is behind a place is the rest of its line, and what ends the line. -/
theorem exists_endsLine {left rest : List Char} (h : ¬ SplitsReturn left rest) :
    ∃ right below, rest = right ++ below ∧ '\n' ∉ right ∧ EndsLine (left ++ right) below := by
  by_cases hmem : '\n' ∈ rest
  · obtain ⟨right, below, rfl, hright⟩ := List.eq_append_cons_of_mem hmem
    by_cases hreturn : right.getLast? = some '\r'
    · obtain ⟨init, rfl⟩ := List.getLast?_eq_some_iff.mp hreturn
      exact ⟨init, '\r' :: '\n' :: below, List.append_assoc ..,
        fun hfeed => hright (List.mem_append_left _ hfeed), .returnFeed _ _⟩
    · refine ⟨right, '\n' :: below, rfl, hright, .feed _ _ fun hlast => ?_⟩
      -- where nothing is left of the line, it ends as the text before the place does
      rw [List.getLast?_append] at hlast
      cases right with
      | nil => exact h ⟨hlast, rfl⟩
      | cons c right =>
          rw [List.getLast?_cons] at hlast hreturn
          exact hreturn hlast
  · exact ⟨rest, [], (List.append_nil _).symm, hmem, .text _⟩

private theorem exists_lineAround {s before rest : List Char} (hs : s = before ++ rest)
    (h : ¬ SplitsReturn before rest) :
    ∃ above left right below, before = above ++ left ∧ LineAround s above left right below := by
  obtain ⟨above, left, rfl, habove, hleft⟩ := exists_wholeLines before
  have hleftmost : ¬ SplitsReturn left rest := by
    rintro ⟨hreturn, hfeed⟩
    exact h ⟨by rw [List.getLast?_append, hreturn]; rfl, hfeed⟩
  obtain ⟨right, below, rfl, hright, hends⟩ := exists_endsLine hleftmost
  refine ⟨above, left, right, below, rfl, hs, habove, ?_, hends⟩
  rw [List.mem_append, not_or]
  exact ⟨hleft, hright⟩

/-! ### The line and the column -/

section

variable {above left : List Char}

private theorem lastLine_append (habove : WholeLines above) (hleft : '\n' ∉ left) :
    lastLine (above ++ left) = left := by
  have hall : ∀ c ∈ left.reverse, decide (c ≠ '\n') = true := by
    intro c hc
    exact decide_eq_true fun h => hleft (h ▸ List.mem_reverse.mp hc)
  have hnone : above.reverse.takeWhile (· ≠ '\n') = [] := by
    obtain rfl | hlast := habove
    · rfl
    · obtain ⟨init, rfl⟩ := List.getLast?_eq_some_iff.mp hlast
      simp
  rw [lastLine, List.reverse_append, List.takeWhile_append_of_pos hall, hnone, List.append_nil,
    List.reverse_reverse]

private theorem count_append_line (hleft : '\n' ∉ left) :
    (above ++ left).count '\n' = above.count '\n' := by
  rw [List.count_append, List.count_eq_zero.mpr hleft, Nat.add_zero]

/-- Lines more are line feeds more. -/
theorem WholeLines.eq_nil_of_count {d : List Char} (h : WholeLines (above ++ d))
    (hcount : (above ++ d).count '\n' = above.count '\n') : d = [] := by
  have hnone : '\n' ∉ d := by
    rw [← List.count_eq_zero]
    rw [List.count_append] at hcount
    omega
  obtain hnil | hlast := h
  · exact (List.append_eq_nil_iff.mp hnil).2
  · refine List.getLast?_eq_none_iff.mp ?_
    cases hd : d.getLast? with
    | none => rfl
    | some c =>
        rw [List.getLast?_append, hd] at hlast
        obtain rfl : c = '\n' := Option.some.inj hlast
        exact absurd (List.mem_of_getLast? hd) hnone

/-- The lines above a place are those that the line feeds are counted of. -/
theorem WholeLines.eq_of_count {above' s s' : List Char} (h : WholeLines above)
    (h' : WholeLines above') (heq : above ++ s = above' ++ s')
    (hcount : above.count '\n' = above'.count '\n') : above = above' := by
  -- the longer of the two would have a line feed more
  obtain ⟨d, rfl, -⟩ | ⟨d, rfl, -⟩ := List.append_eq_append_iff.mp heq
  · rw [h'.eq_nil_of_count hcount.symm, List.append_nil]
  · rw [h.eq_nil_of_count hcount, List.append_nil]

end

/-! ### The picture -/

private theorem length_splitOn (s : List Char) : (s.splitOn '\n').length = s.count '\n' + 1 := by
  induction s with
  | nil => rfl
  | cons c s ih =>
      rw [List.splitOn_cons_eq_if_modifyHead, List.count_cons]
      split
      · rw [List.length_cons, ih]
      · rw [List.length_modifyHead, ih, Nat.add_zero]

theorem WholeLines.exists_splitOn {above : List Char} (h : WholeLines above) :
    ∃ lines : List (List Char), lines.length = above.count '\n' ∧
      ∀ s, (above ++ s).splitOn '\n' = lines ++ s.splitOn '\n' := by
  obtain rfl | hlast := h
  · exact ⟨[], rfl, fun s => rfl⟩
  · obtain ⟨init, rfl⟩ := List.getLast?_eq_some_iff.mp hlast
    refine ⟨init.splitOn '\n', ?_, fun s => ?_⟩
    · rw [length_splitOn, List.count_append]
      rfl
    · rw [List.append_assoc, List.singleton_append, List.splitOn_append_cons_self]

/-- A line loses the carriage return at its end if other lines are below it. -/
theorem lineText_of_splitOn {s line : List Char} {lines more : List (List Char)}
    (h : s.splitOn '\n' = lines ++ line :: more) :
    lineText s lines.length = if more = [] then line else dropReturn line := by
  have hline : (lines ++ line :: more).getD lines.length [] = line := by
    rw [List.getD_append_right _ _ _ _ (Nat.le_refl _), Nat.sub_self, List.getD_cons_zero]
  have hlast : lines.length + 1 < (lines ++ line :: more).length ↔ more ≠ [] := by
    rw [List.length_append, List.length_cons, ← List.length_pos_iff]
    omega
  simp only [lineText, h, hline, hlast, ite_not]

/-- The line that is shown is the line around the place, whatever ends it. -/
theorem LineAround.lineText_eq {s above left right below : List Char}
    (h : LineAround s above left right below) :
    lineText s (above.count '\n') = left ++ right := by
  obtain ⟨rfl, habove, hline, hends⟩ := h
  obtain ⟨lines, hcount, hsplit⟩ := habove.exists_splitOn
  rw [← hcount]
  have htext : above ++ left ++ (right ++ below) = above ++ (left ++ right ++ below) := by
    simp only [List.append_assoc]
  rw [htext]
  cases hends with
  | text =>
      have hlines := hsplit (left ++ right ++ [])
      rw [List.append_nil (left ++ right), List.splitOn_eq_singleton hline] at hlines
      rw [List.append_nil (left ++ right), lineText_of_splitOn hlines, if_pos rfl]
  | feed below hlast =>
      have hlines := hsplit (left ++ right ++ '\n' :: below)
      rw [List.splitOn_append_cons_self_of_not_mem hline] at hlines
      rw [lineText_of_splitOn hlines, if_neg (List.splitOn_ne_nil _ _)]
      exact if_neg hlast
  | returnFeed below =>
      have hreturn : '\n' ∉ left ++ right ++ ['\r'] := by simpa using hline
      have hlines := hsplit (left ++ right ++ ['\r'] ++ '\n' :: below)
      rw [List.splitOn_append_cons_self_of_not_mem hreturn, List.append_assoc (left ++ right)]
        at hlines
      have hends : '\r' :: '\n' :: below = ['\r'] ++ '\n' :: below := rfl
      rw [hends, lineText_of_splitOn hlines, if_neg (List.splitOn_ne_nil _ _), dropReturn,
        if_pos List.getLast?_concat, List.dropLast_concat]

theorem render_eq (e : ParseError) (source : String) :
    e.render source = String.ofList (lineText source.toList (e.line - 1)) ++ "\n" ++
      String.ofList (List.replicate (e.column - 1) ' ') ++ "^" := by
  rw [render, ← String.toList_inj]
  simp

/-! ### Bytes -/

theorem byteCount_eq (s : List Char) : byteCount s = (String.ofList s).utf8ByteSize := by
  rw [← byteCount_toList, String.toList_ofList]

/-- A place that a text is cut at is no place inside a character. -/
theorem isValid_byteCount {source : String} {before rest : List Char}
    (h : source.toList = before ++ rest) :
    String.Pos.Raw.IsValid source ⟨byteCount before⟩ := by
  refine String.Pos.Raw.isValid_iff_exists_append.mpr
    ⟨String.ofList before, String.ofList rest, ?_, ?_⟩
  · rw [← String.ofList_append, ← h, String.ofList_toList]
  · rw [byteCount_eq]
    rfl

private theorem byteCount_le {source : String} {before rest : List Char}
    (h : source.toList = before ++ rest) : byteCount before ≤ source.utf8ByteSize := by
  rw [← byteCount_toList, h, byteCount_append]
  exact Nat.le_add_right _ _

end Criteria.ParseError

namespace Criteria.Source

open Criteria.Text Criteria.ParseError

/-- Reading stops at no place that splits the end of a line. -/
theorem Failure.ExplainedBy.not_splitsReturn {f : Failure} {before : List Char}
    (h : f.ExplainedBy before) : ¬ SplitsReturn before f.rest := by
  rintro ⟨hreturn, hfeed⟩
  have hstopped (hstop : Stops isBlank f.rest) : False :=
    absurd (hstop '\n' hfeed) (by decide)
  rw [Failure.ExplainedBy] at h
  split at h
  · exact hstopped h.1
  · obtain ⟨e, he⟩ := h
    rw [he] at hreturn
    cases e <;> exact absurd (Option.some.inj hreturn) (by decide)
  · exact hstopped h.1

end Criteria.Source

namespace Criteria.Condition

open Criteria.Source Criteria.ParseError

/-- **The position of an error is one place, and every part of it is about that place.**  The place
is between two characters of the source.  The offset is the bytes before it, the line one more than
the line feeds before it and the column one more than the characters of its line before it, so that
no other place has the same line and column.  The picture is the line around the place, without
what ends it, and a caret below that is under a character of the line or just behind the last. -/
theorem position_consistent {source : String} {e : ParseError} (h : parse source = .error e) :
    ∃ above left right below : List Char,
      LineAround source.toList above left right below ∧
      e.offset = (String.ofList (above ++ left)).utf8ByteSize ∧
      e.offset ≤ source.utf8ByteSize ∧ String.Pos.Raw.IsValid source ⟨e.offset⟩ ∧
      e.line = (above ++ left).count '\n' + 1 ∧ e.column = left.length + 1 ∧
      (∀ above' left' rest', source.toList = above' ++ left' ++ rest' → WholeLines above' →
        '\n' ∉ left' → e.line = (above' ++ left').count '\n' + 1 → e.column = left'.length + 1 →
        e.offset = (String.ofList (above' ++ left')).utf8ByteSize) ∧
      e.render source = String.ofList (left ++ right) ++ "\n" ++
        String.ofList (List.replicate (e.column - 1) ' ') ++ "^" ∧
      e.column ≤ (left ++ right).length + 1 := by
  obtain ⟨before, rest, hsource, he, hexplained⟩ := exists_explained h
  obtain ⟨above, left, right, below, rfl, hplace⟩ :=
    exists_lineAround hsource hexplained.not_splitsReturn
  have hleft : '\n' ∉ left := fun hfeed => hplace.not_mem_line (List.mem_append_left _ hfeed)
  have hcolumn : (lastLine (above ++ left)).length = left.length := by
    rw [lastLine_append hplace.above_whole hleft]
  rw [he]
  refine ⟨above, left, right, below, hplace, byteCount_eq _, byteCount_le hsource,
    isValid_byteCount hsource, rfl, congrArg (· + 1) hcolumn, ?_, ?_, ?_⟩
  · -- as many line feeds are the same lines above, and then as many characters the same place
    intro above' left' rest' hsource' habove' hleft' hfeeds hchars
    have hfeeds := Nat.succ.inj hfeeds
    rw [count_append_line hleft, count_append_line hleft'] at hfeeds
    rw [hplace.text_eq, List.append_assoc, List.append_assoc] at hsource'
    obtain rfl := hplace.above_whole.eq_of_count habove' hsource' hfeeds
    have hlength : left.length = left'.length := hcolumn.symm.trans (Nat.succ.inj hchars)
    obtain ⟨rfl, -⟩ := List.append_inj (List.append_cancel_left hsource') hlength
    exact byteCount_eq _
  · have hshown : lineText source.toList ((above ++ left).count '\n') = left ++ right := by
      rw [count_append_line hleft, hplace.lineText_eq]
    rw [render_eq]
    simp only [ofFailure, Nat.add_sub_cancel, hshown]
  · rw [List.length_append]
    exact Nat.succ_le_succ (Nat.le_trans (Nat.le_of_eq hcolumn) (Nat.le_add_right _ _))

/-- Two lines that end in both characters, with a letter of two bytes in the first. -/
def twoLines : String := "a == \"é\" &&\r\n b == §\r\n"

/-- What is wrong where the second line has no literal. -/
def literalMissing : ParseError where
  offset := 20
  line := 2
  column := 7
  reason := .unexpected none [.literal, .condition]

/-- The offset is one more than the characters, and the picture has no carriage return. -/
theorem position_consistent_twoLines :
    parse twoLines = .error literalMissing ∧
      literalMissing.render twoLines = " b == §\n      ^" ∧
      ∃ above left right below : List Char,
        LineAround twoLines.toList above left right below ∧
        literalMissing.offset = (String.ofList (above ++ left)).utf8ByteSize ∧
        literalMissing.offset ≤ twoLines.utf8ByteSize ∧
        String.Pos.Raw.IsValid twoLines ⟨literalMissing.offset⟩ ∧
        literalMissing.line = (above ++ left).count '\n' + 1 ∧
        literalMissing.column = left.length + 1 ∧
        (∀ above' left' rest', twoLines.toList = above' ++ left' ++ rest' → WholeLines above' →
          '\n' ∉ left' → literalMissing.line = (above' ++ left').count '\n' + 1 →
          literalMissing.column = left'.length + 1 →
          literalMissing.offset = (String.ofList (above' ++ left')).utf8ByteSize) ∧
        literalMissing.render twoLines = String.ofList (left ++ right) ++ "\n" ++
          String.ofList (List.replicate (literalMissing.column - 1) ' ') ++ "^" ∧
        literalMissing.column ≤ (left ++ right).length + 1 := by
  have hparse : parse twoLines = .error literalMissing := by
    -- errors compare, conditions do not
    refine (map_eq_error (g := fun _ => ())).mp ?_
    decide +kernel
  exact ⟨hparse, by decide +kernel, position_consistent hparse⟩

end Criteria.Condition
