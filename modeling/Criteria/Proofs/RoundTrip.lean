/-
Round trips through text.

What is printed can be read.  A condition whose names and values have a text is read back
from it as itself but for joins that join nothing, as long as the text is not nested too
deep; and evaluating cannot tell the two apart.

A condition that was read is printed with parentheses that its source need not have had.
Each join in it is then a level of nesting, so a source that uses all the levels there are
may have a text that uses more.  And a literal that was read is printed in UTC: its year
then may have a sign, which no timestamp literal opens with.

A condition that was built may hold a pattern that was never read.  Where its source has an
escaped slash, or ends in a backslash, the slash that is printed for it ends the literal too
early, or not at all.
-/
import Criteria.Proofs.Equality
import Criteria.Proofs.WellFormed
import Criteria.Stored

namespace Criteria.Condition

open Criteria.Text Criteria.Source

/-! ### Printed and read -/

/-- A condition that has a text is read back from it, if the text is not nested too deep:
joins of fewer than two parts are gone, and nothing else is lost.  What is read has the
verdict, or the error, of what was printed. -/
theorem parse_text_collapse {c : Condition} (h : c.Every HasText)
    (hnest : nesting c.chars ≤ maxNesting) :
    ∃ d, parse c.text = .ok d ∧ (d == c.collapse) = true ∧
      (c.Every Branches → (d == c) = true) ∧
      ∀ {α : Type} [Container α] (scope : α) (config : EvalConfig),
        d.evaluate scope config = c.evaluate scope config := by
  have hsame : same c.written c.collapse = true := same_written_collapse c
  rw [nesting_chars h] at hnest
  refine ⟨c.written, (parse_text h).mpr ⟨hnest, rfl⟩, hsame, ?_, ?_⟩
  · intro hbranches
    rw [collapse_eq_self hbranches] at hsame
    exact hsame
  · intro α _ scope config
    have hrun : run config.arrayErrors c.written scope = run config.arrayErrors c scope :=
      (run_congr config.arrayErrors hsame scope).trans (run_collapse config.arrayErrors c scope)
    exact congrArg Run.verdict hrun

/-- A body that asks for one thing out of one, which asks for all of nothing and for a
quote. -/
def degenerate : Condition :=
  .within "files.all" (.disjunction
    [.conjunction [.conjunction [], .compare "name" .eq (.text "\"")]])

theorem every_hasText_degenerate : degenerate.Every HasText := by
  have hbody : isName "files.all".toList = true := by decide
  have hname : isName "name".toList = true := by decide
  refine every_within.mpr ⟨hbody, every_disjunction.mpr ⟨List.cons_ne_nil _ _, ?_⟩⟩
  refine List.forall_mem_singleton.mpr (every_conjunction.mpr ⟨trivial, ?_⟩)
  refine List.forall_mem_cons.mpr ⟨?_, List.forall_mem_singleton.mpr ?_⟩
  · exact every_conjunction.mpr ⟨trivial, fun c hc => absurd hc List.not_mem_nil⟩
  · exact every_compare.mpr ⟨hname, trivial⟩

theorem parse_text_degenerate :
    degenerate.Every HasText ∧ nesting degenerate.chars ≤ maxNesting ∧
      ∃ d, parse degenerate.text = .ok d ∧ (d == degenerate.collapse) = true ∧
        (degenerate.Every Branches → (d == degenerate) = true) ∧
        ∀ {α : Type} [Container α] (scope : α) (config : EvalConfig),
          d.evaluate scope config = degenerate.evaluate scope config := by
  have hnest : nesting degenerate.chars ≤ maxNesting := by decide +kernel
  exact ⟨every_hasText_degenerate, hnest, parse_text_collapse every_hasText_degenerate hnest⟩

/-! ### Read, printed and read -/

/-- No literal of a comparison is a timestamp. -/
def Timeless (c : Condition) : Prop := ∀ name op t, c ≠ .compare name op (.timestamp t)

theorem every_hasText_of_parse {source : String} {c : Condition} (h : parse source = .ok c)
    (htime : c.Every Timeless) : c.Every HasText := by
  have hwell := every_wellFormed_of_parse h
  intro d hd
  exact (hwell d hd).hasText fun name op t heq => absurd heq (htime d hd name op t)

theorem written_beq_of_parse {source : String} {c : Condition} (h : parse source = .ok c) :
    (c.written == c) = true := by
  have hbranches := (every_wellFormed_of_parse h).imp fun _ => WellFormed.branches
  have hsame := same_written_collapse c
  rw [collapse_eq_self hbranches] at hsame
  exact hsame

theorem parse_text_of_parse {source : String} {c : Condition} (h : parse source = .ok c)
    (htime : c.Every Timeless) :
    (∃ d, parse c.text = .ok d ∧ (d == c) = true) ↔ c.depth ≤ maxNesting := by
  have htext := every_hasText_of_parse h htime
  constructor
  · rintro ⟨d, hd, -⟩
    exact ((parse_text htext).mp hd).1
  · intro hdepth
    exact ⟨c.written, (parse_text htext).mpr ⟨hdepth, rfl⟩, written_beq_of_parse h⟩

/-- A stored condition is read back when its canonical text is. -/
theorem ofStored_stored_eq_ok {c d : Condition} :
    ofStored c.stored = .ok d ↔ parse c.text = .ok d := by
  rw [ofStored_stored]
  exact mapError_eq_ok

/-- A condition that was read and has no timestamps is read back, from its canonical text
and from how it is stored, just when bodies and joins are nested in it no deeper than
enclosures may be nested in a text. -/
theorem read_back_iff_depth {source : String} {c : Condition} (h : parse source = .ok c)
    (htime : c.Every Timeless) :
    ((∃ d, parse c.text = .ok d ∧ (d == c) = true) ↔ c.depth ≤ maxNesting) ∧
      ((∃ d, ofStored c.stored = .ok d ∧ (d == c) = true) ↔ c.depth ≤ maxNesting) := by
  have htext := parse_text_of_parse h htime
  refine ⟨htext, ?_⟩
  simp only [ofStored_stored_eq_ok]
  exact htext

/-- Two comparisons, joined. -/
def pair : Condition :=
  .conjunction [.compare "a" .eq (.category .task), .compare "b" .eq (.category .data)]

/-- A condition inside so many bodies. -/
def inBodies : Nat → Condition → Condition
  | 0, c => c
  | n + 1, c => .within "x" (inBodies n c)

/-- A text inside so many bodies, without a blank. -/
def bodiesChars : Nat → List Char → List Char
  | 0, t => t
  | n + 1, t => 'x' :: '{' :: bodiesChars n t ++ ['}']

theorem longestName_symbol {n : List Char} (h : isName n = true) (op : CompareOp) (rest : List Char)
    (hop : op ≠ .contains) : LongestName n (op.symbol.toList ++ rest) := by
  refine longestName_iff.mpr ⟨h, ?_, ?_⟩
  · cases op <;> first | exact absurd rfl hop | exact stops_cons.mpr (by decide)
  · intro more hmore
    cases op <;> first | exact absurd rfl hop | exact absurd (List.cons.inj hmore).1 (by decide)

theorem primary_category {n : List Char} (h : isName n = true) (c : Category) :
    Primary (n ++ ([] ++ (CompareOp.eq.symbol.toList ++ ([] ++ c.name.toList))))
      (.compare (String.ofList n) .eq (.category c)) :=
  .compare .eq (longestName_symbol h .eq _ (by decide)) blank_nil blank_nil
    (isLiteral_iff.mp (isLiteral_of_category c))

theorem says_pair : Says "a==task&&b==data".toList pair := by
  have ha := primary_category (n := ['a']) (by decide) .task
  have hb := primary_category (n := ['b']) (by decide) .data
  exact says_of_conjuncts (.more ha blank_nil blank_nil (.one hb)) (by decide)

theorem says_inBodies {t : List Char} {c : Condition} (h : Says t c) (n : Nat) :
    Says (bodiesChars n t) (inBodies n c) := by
  induction n with
  | zero => exact h
  | succ n ih =>
      obtain ⟨cs, ht, hjoin⟩ := ih
      have hbody := Primary.within (n := ['x']) (by decide) blank_nil blank_nil ht blank_nil
      rw [hjoin, List.append_nil] at hbody
      exact says_of_primary hbody

theorem balanced_inBodies {t : List Char} {d : Nat} (h : Balanced t d) (n : Nat) :
    Balanced (bodiesChars n t) (d + n) := by
  induction n with
  | zero => exact h
  | succ n ih =>
      have hbody := balanced_within (n := ['x']) (by decide) blank_nil blank_nil ih blank_nil
      rw [List.append_nil] at hbody
      exact hbody

theorem every_inBodies {p : Condition → Prop} {c : Condition} (h : c.Every p)
    (hp : ∀ d, p (.within "x" d)) (n : Nat) : (inBodies n c).Every p := by
  induction n with
  | zero => exact h
  | succ n ih => exact every_within.mpr ⟨hp _, ih⟩

theorem depth_inBodies (c : Condition) (n : Nat) : (inBodies n c).depth = c.depth + n := by
  induction n with
  | zero => rfl
  | succ n ih =>
      rw [inBodies, depth, ih]
      rfl

theorem every_timeless_pair : pair.Every Timeless := by
  refine every_conjunction.mpr ⟨fun _ _ _ => by simp, ?_⟩
  refine List.forall_mem_cons.mpr ⟨?_, List.forall_mem_singleton.mpr ?_⟩
  · exact every_compare.mpr fun _ _ _ => by simp
  · exact every_compare.mpr fun _ _ _ => by simp

/-- As many bodies as there may be around a pair are read. -/
theorem parse_bodiesChars {n : Nat} (h : n ≤ maxNesting) :
    parse (String.ofList (bodiesChars n "a==task&&b==data".toList)) = .ok (inBodies n pair) := by
  have hflat : Balanced "a==task&&b==data".toList 0 :=
    balanced_of_quiet (List.all_eq_true.mp (by decide))
  have hbal := balanced_inBodies hflat n
  rw [Nat.zero_add] at hbal
  exact parse_of_says (says_inBodies says_pair n) hbal h

/-- Around a pair in all the bodies there may be, the canonical text has parentheses too
many. -/
theorem not_read_back_bodies :
    parse (String.ofList (bodiesChars 64 "a==task&&b==data".toList)) = .ok (inBodies 64 pair) ∧
      (inBodies 64 pair).Every Timeless ∧
      ¬ ∃ d, parse (inBodies 64 pair).text = .ok d ∧ (d == inBodies 64 pair) = true := by
  have hread := parse_bodiesChars (n := 64) (Nat.le_refl 64)
  have htime := every_inBodies every_timeless_pair (fun d _ _ _ => by simp) 64
  refine ⟨hread, htime, ?_⟩
  rw [parse_text_of_parse hread htime, depth_inBodies]
  decide

/-- With one body less it is read back. -/
theorem read_back_bodies :
    parse (String.ofList (bodiesChars 63 "a==task&&b==data".toList)) = .ok (inBodies 63 pair) ∧
      (inBodies 63 pair).Every Timeless ∧ (inBodies 63 pair).depth = maxNesting ∧
      ((∃ d, parse (inBodies 63 pair).text = .ok d ∧ (d == inBodies 63 pair) = true) ↔
        (inBodies 63 pair).depth ≤ maxNesting) ∧
      ((∃ d, ofStored (inBodies 63 pair).stored = .ok d ∧ (d == inBodies 63 pair) = true) ↔
        (inBodies 63 pair).depth ≤ maxNesting) := by
  have hread := parse_bodiesChars (n := 63) (by decide)
  have htime := every_inBodies every_timeless_pair (fun d _ _ _ => by simp) 63
  exact ⟨hread, htime, depth_inBodies pair 63, read_back_iff_depth hread htime⟩

/-! ### Literals -/

/-- A source that compares a property with a literal. -/
def comparing (literal : String) : String := "x == " ++ literal

theorem toList_comparing (literal : String) :
    (comparing literal).toList =
      ['x'] ++ ([' '] ++ (CompareOp.eq.symbol.toList ++ ([' '] ++ literal.toList))) := by
  rw [comparing, String.toList_append]
  rfl

/-- The source is read where the literal is. -/
theorem parse_comparing {t : String} {v : Value} (h : IsLiteral t.toList v) :
    parse (comparing t) = .ok (.compare "x" .eq v) := by
  have hname : isName ['x'] = true := by decide
  have hlong := longestName_iff.mpr
    ⟨hname, nameEnds_space (CompareOp.eq.symbol.toList ++ ([' '] ++ t.toList))⟩
  have hprimary := Primary.compare .eq hlong blank_space blank_space (isLiteral_iff.mp h)
  have hbal := balanced_compare .eq hname blank_space blank_space h
  have hread := parse_of_says (says_of_primary hprimary) hbal (Nat.zero_le _)
  rwa [← toList_comparing, String.ofList_toList] at hread

/-- And not elsewhere. -/
theorem exists_literal_of_parse {t : String} {d : Condition} (h : parse (comparing t) = .ok d) :
    ∃ v rest, literal (skipBlanks t.toList) = .ok (v, rest) := by
  have hname : isName ['x'] = true := by decide
  have hskip : skipBlanks ([' '] ++ (CompareOp.eq.symbol.toList ++ ([' '] ++ t.toList))) =
      CompareOp.eq.symbol.toList ++ ([' '] ++ t.toList) :=
    skipBlanks_append_cons blank_space (symbol_cons .eq)
  have hread := parse_eq_ok.mp h
  rw [toList_comparing] at hread
  obtain ⟨c, rest, hbare⟩ := exists_bare_of_whole hread (stops_isBlank_name hname)
    (List.cons_ne_nil _ _)
  rw [bare_of_name (name?_append hname (nameEnds_space _)), hskip,
    afterName_of_operator (operator?_append .eq (by simp)), compared_eq_ok,
    skipBlanks_append blank_space] at hbare
  obtain ⟨v, hliteral, -⟩ := hbare
  exact ⟨v, rest, hliteral⟩

theorem toList_toString (v : Value) : (toString v).toList = v.chars := String.toList_ofList

/-- What is written for a timestamp whose year needs a sign is no literal. -/
theorem not_parse_of_sign {t : Timestamp}
    (hyear : ¬ (0 ≤ t.date.year ∧ t.date.year ≤ 9999)) (d : Condition) :
    parse (comparing (toString (Value.timestamp t))) ≠ .ok d := by
  intro hread
  obtain ⟨v, rest, hliteral⟩ := exists_literal_of_parse hread
  have hopen : Stops isBlank t.chars := by
    intro c hc
    have hnumeric := t.isNumericChar_of_mem_chars c (List.mem_of_mem_head? hc)
    exact (isNumericChar_spec hnumeric).2.2.1
  rw [toList_toString, show (Value.timestamp t).chars = t.chars from rfl,
    skipBlanks_of_stops hopen] at hliteral
  exact literal_timestamp_of_sign hyear v rest hliteral

/-- What is written for a literal that was read, and that lies in no leap second, is read as
an equal value of its kind, unless it is a timestamp with a year that needs a sign. -/
theorem literal_read_back_iff {source : String} {c : Condition} (h : parse source = .ok c)
    {name : String} {op : CompareOp} {v : Value} (hv : Part (.compare name op v) c)
    (hleap : ∀ t, v = .timestamp t → t.milli < 1000) :
    (∃ w, parse (comparing (toString v)) = .ok (.compare "x" .eq w) ∧ w.kind = v.kind ∧
      (w == v) = true) ↔
      ∀ t, v = .timestamp t → 0 ≤ t.date.year ∧ t.date.year ≤ 9999 := by
  have hliteral : v.OfLiteral := (every_wellFormed_of_parse h _ hv).2
  constructor
  · rintro ⟨w, hread, -, -⟩ t rfl
    apply Classical.byContradiction
    intro hyear
    exact not_parse_of_sign hyear _ hread
  · intro hyear
    have hwritable := hliteral.writable fun t ht => ⟨hleap t ht, hyear t ht⟩
    have hchars := hwritable.isLiteral
    rw [← toList_toString] at hchars
    exact ⟨v.written, parse_comparing hchars, v.kind_written, v.written_beq⟩

/-- The last minute before the year 0, in UTC. -/
def beforeYearZero : Timestamp := ⟨-62167219260, 0, by decide⟩

theorem isLiteral_beforeYearZero :
    IsLiteral "0000-01-01T00:00+00:01".toList (.timestamp beforeYearZero) := by
  apply isLiteral_number (c := '0')
  · rfl
  · exact List.all_eq_true.mp (by decide)
  · rfl

/-- Read in its own zone it has a literal, and none is written for it in UTC. -/
theorem not_read_back_beforeYearZero :
    parse (comparing "0000-01-01T00:00+00:01") =
        .ok (.compare "x" .eq (.timestamp beforeYearZero)) ∧
      beforeYearZero.milli < 1000 ∧
      ¬ ∃ w, parse (comparing (toString (Value.timestamp beforeYearZero))) =
          .ok (.compare "x" .eq w) ∧ w.kind = (Value.timestamp beforeYearZero).kind ∧
        (w == Value.timestamp beforeYearZero) = true := by
  refine ⟨parse_comparing isLiteral_beforeYearZero, by decide, ?_⟩
  rintro ⟨w, hread, -, -⟩
  exact not_parse_of_sign (by decide) _ hread

/-- The first minute of the year 0. -/
def yearZero : Timestamp := ⟨-62167219200, 0, by decide⟩

theorem read_back_yearZero :
    parse (comparing "0000-01-01T00:01+00:01") = .ok (.compare "x" .eq (.timestamp yearZero)) ∧
      ((∃ w, parse (comparing (toString (Value.timestamp yearZero))) =
          .ok (.compare "x" .eq w) ∧ w.kind = (Value.timestamp yearZero).kind ∧
        (w == Value.timestamp yearZero) = true) ↔
        ∀ t, Value.timestamp yearZero = .timestamp t →
          0 ≤ t.date.year ∧ t.date.year ≤ 9999) := by
  have hliteral : IsLiteral "0000-01-01T00:01+00:01".toList (.timestamp yearZero) := by
    apply isLiteral_number (c := '0')
    · rfl
    · exact List.all_eq_true.mp (by decide)
    · rfl
  have hread := parse_comparing hliteral
  refine ⟨hread, literal_read_back_iff hread (.self _) ?_⟩
  rintro t ht
  rw [← Value.timestamp.inj ht]
  decide

/-! ### Patterns -/

theorem every_hasText_like {name : String} {p : Pattern} (hname : isName name.toList = true)
    (hp : Pattern.EvenlyEscaped p.source.toList) : ((property name).like p).Every HasText :=
  every_compare.mpr ⟨hname, hp⟩

/-- A pattern that was read has a source that can be written. -/
theorem evenlyEscaped_of_parse {text name : String} {d : Condition} {p : Pattern}
    (h : parse text = .ok d) (hsame : (d == (property name).like p) = true) :
    Pattern.EvenlyEscaped p.source.toList := by
  have hback : same ((property name).like p) d = true := BEq.symm hsame
  obtain ⟨v, rfl, hv⟩ := same_compare.mp hback
  have hwell := (every_wellFormed_of_parse h).self
  rcases Value.eq_or_versions_of_beq hv with rfl | ⟨a, b, hne, -, -⟩
  · exact hwell.2
  · cases hne

/-- **A condition that asks for a pattern is read back from its text exactly when every slash of
the source, and its end, has an even number of backslashes before it.** -/
theorem like_read_back_iff {source name : String} {caseless : Bool} {p : Pattern}
    (h : Pattern.ofSource source caseless = .ok p) (hname : isName name.toList = true) :
    (∃ d, parse ((property name).like p).text = .ok d ∧
        (d == (property name).like p) = true) ↔
      Pattern.EvenlyEscaped source.toList := by
  have hsource : p.source = source := Pattern.source_of_ofSource h
  rw [← hsource]
  constructor
  · rintro ⟨d, hread, hsame⟩
    exact evenlyEscaped_of_parse hread hsame
  · intro hp
    have hread : parse ((property name).like p).text = .ok ((property name).like p) :=
      (parse_text (every_hasText_like hname hp)).mpr ⟨Nat.zero_le _, rfl⟩
    exact ⟨_, hread, BEq.rfl⟩

/-- The pattern `a\\/b`, without regard to case: a backslash that is escaped, and a slash. -/
def escapedBackslash : Pattern := ⟨"a\\\\/b", true, _, rfl⟩

/-- Its literal is `/a\\\/b/i`, which is read to the end. -/
theorem like_read_back_escapedBackslash :
    Pattern.ofSource "a\\\\/b" true = .ok escapedBackslash ∧
      isName "os.name".toList = true ∧
      Pattern.EvenlyEscaped "a\\\\/b".toList ∧
      ((∃ d, parse ((property "os.name").like escapedBackslash).text = .ok d ∧
          (d == (property "os.name").like escapedBackslash) = true) ↔
        Pattern.EvenlyEscaped "a\\\\/b".toList) := by
  have hread : Pattern.ofSource "a\\\\/b" true = .ok escapedBackslash := rfl
  have hname : isName "os.name".toList = true := by decide
  have heven : Pattern.EvenlyEscaped "a\\\\/b".toList :=
    Pattern.evenlyEscaped_iff.mpr (by decide)
  exact ⟨hread, hname, heven, like_read_back_iff hread hname⟩

/-- The pattern of an escaped slash. -/
def escapedSlash : Pattern := ⟨"\\/", false, _, rfl⟩

/-- The pattern of a comment that ends in a backslash. -/
def comment : Pattern := ⟨"(?x)#\\", false, _, rfl⟩

/-- The literal of an escaped slash ends before the slash, and that of a comment does not end. -/
theorem not_read_back_escapedSlash :
    isName "x".toList = true ∧
      Pattern.ofSource "\\/" false = .ok escapedSlash ∧
      ((property "x").like escapedSlash).text = "x =~ /\\\\//" ∧
      (¬ ∃ d, parse ((property "x").like escapedSlash).text = .ok d ∧
        (d == (property "x").like escapedSlash) = true) ∧
      Pattern.ofSource "(?x)#\\" false = .ok comment ∧
      ((property "x").like comment).text = "x =~ /(?x)#\\/" ∧
      ¬ ∃ d, parse ((property "x").like comment).text = .ok d ∧
        (d == (property "x").like comment) = true := by
  have huneven : ∀ p : Pattern, Pattern.isEvenlyEscaped p.source.toList = false →
      ¬ ∃ d, parse ((property "x").like p).text = .ok d ∧
        (d == (property "x").like p) = true := by
    rintro p hp ⟨d, hread, hsame⟩
    have heven := Pattern.evenlyEscaped_iff.mp (evenlyEscaped_of_parse hread hsame)
    rw [hp] at heven
    exact absurd heven Bool.false_ne_true
  exact ⟨by decide, rfl, rfl, huneven _ (by decide), rfl, rfl, huneven _ (by decide)⟩

end Criteria.Condition
