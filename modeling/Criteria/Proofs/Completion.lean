/-
A text goes wrong no earlier than where reading stops.

Whatever stands before the place of an error is the beginning of some text that reads: what
was missing there can be put in, and what was still open be closed behind it.  Each reader puts
in what it misses itself.  A comparison takes an empty text for the literal that it has not got,
a text its quote, an enclosure its closing sign, and an operand that has not begun is `true`.

Two reasons are left out.  Below the last level what was opened can never be closed, and a
pattern without an end may not be one with any end.
-/
import Criteria.Proofs.Reading
import Mathlib.Control.Monad.Basic

namespace Criteria.Source

open Criteria.Text

/-! ### Reasons and failures -/

/-- A reason that says nothing against the text before it. -/
def Reason.Mendable : Reason → Prop
  | .value _ => True
  | .nesting => False
  | .unexpected unclosed _ => unclosed ≠ some .regex

private theorem mendable_iff {reason : Reason} :
    reason.Mendable ↔
      reason ≠ .nesting ∧ ∀ expected, reason ≠ .unexpected (some .regex) expected := by
  cases reason with
  | value e => simp [Reason.Mendable]
  | nesting => simp [Reason.Mendable]
  | unexpected unclosed expected => simp [Reason.Mendable]

@[simp] theorem Failure.expecting_rest (f : Failure) (e : Expectation) :
    (f.expecting e).rest = f.rest := by
  rw [Failure.expecting.eq_def]
  split <;> rfl

/-- What is expected besides does not matter. -/
@[simp] theorem Failure.mendable_expecting (f : Failure) (e : Expectation) :
    (f.expecting e).reason.Mendable ↔ f.reason.Mendable := by
  rw [Failure.expecting.eq_def]
  split
  · next unclosed expected hreason => rw [hreason]; exact Iff.rfl
  · exact Iff.rfl

theorem mapError_eq_error {ε ε' α : Type} {result : Except ε α} {g : ε → ε'} {e : ε'} :
    result.mapError g = .error e ↔ ∃ d, result = .error d ∧ g d = e := by
  cases result with
  | error d => simp [Except.mapError]
  | ok a => simp [Except.mapError]

theorem map_eq_error {ε α β : Type} {result : Except ε α} {g : α → β} {e : ε} :
    result.map g = .error e ↔ result = .error e := by
  cases result with
  | error d => simp [Except.map]
  | ok a => simp [Except.map]

theorem conjunction_eq_error {operand : Reader Condition} {s : List Char} {f : Failure} :
    conjunction operand s = .error f ↔ chain '&' operand s = .error f := by
  rw [conjunction]
  cases chain '&' operand s <;> simp

theorem disjunction_eq_error {operand : Reader Condition} {s : List Char} {f : Failure} :
    disjunction operand s = .error f ↔ chain '|' (conjunction operand) s = .error f := by
  rw [disjunction]
  cases chain '|' (conjunction operand) s <;> simp

theorem compared_eq_error {name : String} {op : CompareOp} {s : List Char} {f : Failure} :
    compared name op s = .error f ↔
      Reader.expecting literal .literal (skipBlanks s) = .error f := by
  rw [compared]
  cases Reader.expecting literal .literal (skipBlanks s) <;> simp

/-- A closing sign is missed behind the blanks. -/
theorem closing_eq_error {e : Enclosure} {s : List Char} {f : Failure} :
    closing e s = .error f → f = .at (skipBlanks s) [] := by
  intro h
  rw [closing.eq_def] at h
  split at h
  · next hskip =>
    rw [hskip]
    exact (Except.error.inj h).symm
  · next c rest hskip =>
    split at h
    · simp at h
    · rw [hskip]
      exact (Except.error.inj h).symm

private theorem located_eq_error {start rest : List Char} {value : Except ValueError Value}
    {f : Failure} : located start rest value = .error f → f.rest = start := by
  cases value with
  | error e =>
      intro h
      obtain rfl := Except.error.inj h
      rfl
  | ok v => exact nofun

/-! ### Texts that go on -/

/-- What stands before the rest goes on to a text that holds an item and nothing else. -/
def Completes {α : Type} (Item : List Char → α → Prop) (levels : Nat)
    (s rest : List Char) : Prop :=
  ∃ before t a, s = before ++ rest ∧ Found Item levels (before ++ t) a []

/-- Wherever a reader fails and the failure can be mended, the text before goes on to one that
it takes. -/
def Mends {α : Type} (Item : List Char → α → Prop) (levels : Nat) (read : Reader α) : Prop :=
  ∀ s f, read s = .error f → f.reason.Mendable → Completes Item levels s f.rest

section

variable {α β : Type} {Item : List Char → α → Prop} {Item' : List Char → β → Prop}
  {levels : Nat} {s rest : List Char} {a : α}

/-- What was taken is taken in front of anything else as well. -/
theorem Found.exists_front (h : Found Item levels s a rest) :
    ∃ front, s = front ++ rest ∧ ∀ rest', Found Item levels (front ++ rest') a rest' := by
  obtain @⟨w, t, w', d, hs, hw, hw', ht, hbal, hd⟩ := h
  refine ⟨w ++ (t ++ w'), ?_, fun rest' => ⟨?_, hw, hw', ht, hbal, hd⟩⟩
  · rw [hs, List.append_assoc, List.append_assoc]
  · rw [List.append_assoc, List.append_assoc]

theorem Found.append (h : Found Item levels s a []) (rest : List Char) :
    Found Item levels (s ++ rest) a rest := by
  obtain ⟨front, hs, hfront⟩ := h.exists_front
  rw [hs, List.append_nil]
  exact hfront rest

/-- What was taken needs no completion. -/
theorem Found.completes (h : Found Item levels s a rest) : Completes Item levels s rest := by
  obtain ⟨front, hs, hfront⟩ := h.exists_front
  exact ⟨front, [], a, hs, hfront []⟩

theorem Completes.map {f : α → β} (h : Completes Item levels s rest)
    (himp : ∀ t a, Item t a → Item' t (f a)) : Completes Item' levels s rest := by
  obtain ⟨before, t, a, hs, hfound⟩ := h
  exact ⟨before, t, f a, hs, hfound.map fun u hu => himp u a hu⟩

/-- Blanks that were skipped stand before a text that goes on. -/
theorem Completes.of_skipBlanks (h : Completes Item levels (skipBlanks s) rest) :
    Completes Item levels s rest := by
  obtain ⟨before, t, a, hskip, hfound⟩ := h
  obtain ⟨w, hw, hs, _⟩ := exists_blank_append s
  rw [hskip, ← List.append_assoc] at hs
  refine ⟨w ++ before, t, a, hs, ?_⟩
  rw [List.append_assoc]
  exact hfound.blank_append hw

theorem Mends.expecting {read : Reader α} (h : Mends Item levels read) (e : Expectation) :
    Mends Item levels (read.expecting e) := by
  intro s f hread hmend
  obtain ⟨g, hfail, rfl⟩ := mapError_eq_error.mp hread
  rw [Failure.expecting_rest]
  exact h s g hfail ((Failure.mendable_expecting g e).mp hmend)

end

/-! ### Literals -/

/-- A run that is not closed can be, even where it ends in a backslash. -/
theorem exists_closing_of_unclosed {closer : Char} {escapable : Char → Bool}
    (hclose : closer ≠ '\\') {s : List Char} (h : delimited? closer escapable s = none) :
    ∃ t content, delimited? closer escapable (s ++ t) = some (content, []) := by
  fun_induction delimited? closer escapable s with
  | case1 => exact ⟨[closer], [], delimited?_closer []⟩
  | case2 s => simp at h
  | case3 =>
      -- the backslash takes away the meaning of the first sign and not of the second
      exact ⟨[closer, closer], _, delimited?_escaped hclose.symm (delimited?_closer [])⟩
  | case4 d s hne ih =>
      obtain ⟨t, content, hread⟩ := ih (Option.map_eq_none_iff.mp h)
      exact ⟨t, _, delimited?_escaped hne hread⟩
  | case5 c s hne hback ih =>
      obtain ⟨t, content, hread⟩ := ih (Option.map_eq_none_iff.mp h)
      exact ⟨t, _, delimited?_plain hne hback hread⟩

theorem isLiteral_quoted {s text : List Char} (h : quoted? s = some (text, [])) :
    IsLiteral ('"' :: s) (.text (String.ofList text)) := by
  obtain ⟨t, ht, hlit⟩ := isLiteral_text h
  rw [List.append_nil] at ht
  rwa [ht]

/-- In place of a literal an empty text may stand. -/
theorem completes_literal (levels : Nat) (s : List Char) : Completes IsLiteral levels s s := by
  have hempty : quoted? ['"'] = some ([], []) := delimited?_closer []
  have hlit := isLiteral_quoted hempty
  exact ⟨[], ['"', '"'], _, rfl, rfl, blank_nil, blank_nil, hlit, hlit.balanced, Nat.zero_le _⟩

private theorem completes_unclosed (levels : Nat) {s : List Char} (h : quoted? s = none) :
    Completes IsLiteral levels ('"' :: s) [] := by
  obtain ⟨t, content, hread⟩ := exists_closing_of_unclosed (by decide) h
  have hlit := isLiteral_quoted hread
  refine ⟨'"' :: s, t, _, (List.append_nil _).symm, .intro ?_ blank_nil blank_nil hlit
    hlit.balanced (Nat.zero_le levels)⟩
  rw [List.nil_append, List.append_nil, List.append_nil]
  rfl

theorem mends_literal (levels : Nat) : Mends IsLiteral levels literal := by
  intro s f h hmend
  -- apart from an open text, a literal fails where it begins
  suffices hrest : f.rest = s ∨ ∃ inner, s = '"' :: inner ∧ quoted? inner = none ∧
      f.rest = [] by
    rcases hrest with hrest | ⟨inner, rfl, hopen, hrest⟩
    · rw [hrest]
      exact completes_literal levels s
    · rw [hrest]
      exact completes_unclosed levels hopen
  cases s with
  | nil =>
      obtain rfl := Except.error.inj h
      exact Or.inl rfl
  | cons c s =>
      by_cases hquote : c = '"'
      · subst hquote
        rw [literal.eq_2] at h
        split at h
        · simp at h
        · next hopen =>
          obtain rfl := Except.error.inj h
          exact Or.inr ⟨s, rfl, hopen, rfl⟩
      by_cases hslash : c = '/'
      · subst hslash
        rw [literal.eq_3] at h
        split at h
        · exact Or.inl (located_eq_error h)
        · obtain rfl := Except.error.inj h
          exact absurd rfl hmend
      rw [literal_cons hquote hslash] at h
      split at h
      · exact Or.inl (located_eq_error h)
      · split at h
        · exact Or.inl (located_eq_error h)
        · obtain rfl := Except.error.inj h
          exact Or.inl rfl

/-! ### Primaries -/

/-- A name that ends in front of a text ends so whatever the text goes on with. -/
theorem NameEnds.replace {s rest : List Char} (h : NameEnds (s ++ rest)) (hne : s ≠ [])
    (hdot : '.' ∉ s) (rest' : List Char) : NameEnds (s ++ rest') := by
  cases s with
  | nil => exact absurd rfl hne
  | cons c s =>
      refine ⟨stops_cons.mpr (stops_cons.mp h.segment), fun more hmore => ?_⟩
      obtain rfl : c = '.' := (List.cons.inj hmore).1
      exact absurd List.mem_cons_self hdot

private theorem dot_not_mem_symbol {v : List Char} (hv : Blank v) (op : CompareOp) :
    '.' ∉ v ++ op.symbol.toList := by
  intro hmem
  rcases List.mem_append.mp hmem with hmem | hmem
  · exact absurd (hv '.' hmem) (by decide)
  · revert hmem
    cases op <;> decide

section

variable {n v s rest : List Char} {levels : Nat}

/-- A comparison goes on as its literal does. -/
theorem Completes.compare (op : CompareOp) (h : Completes IsLiteral levels s rest)
    (hn : isName n = true) (hv : Blank v) (hends : NameEnds (v ++ (op.symbol.toList ++ s))) :
    Completes Primary levels (n ++ (v ++ (op.symbol.toList ++ s))) rest := by
  obtain ⟨before, t, x, hs, hfound⟩ := h
  have hsign : v ++ op.symbol.toList ≠ [] := by
    obtain ⟨c, more, hsym, _⟩ := symbol_cons op
    rw [hsym]
    exact List.append_ne_nil_of_right_ne_nil v (List.cons_ne_nil c more)
  rw [← List.append_assoc] at hends
  have hends' := hends.replace hsign (dot_not_mem_symbol hv op) (before ++ t)
  rw [List.append_assoc] at hends'
  refine ⟨n ++ (v ++ (op.symbol.toList ++ before)), t, .compare (String.ofList n) op x, ?_, ?_⟩
  · rw [hs]
    simp only [List.append_assoc]
  · have hprimary := hfound.compare op hn hv hends'
    simpa only [List.append_assoc] using hprimary

/-- A body goes on as what it holds does, and is closed then. -/
theorem Completes.within (h : Completes Says levels s rest) (hn : isName n = true)
    (hv : Blank v) : Completes Primary (levels + 1) (n ++ (v ++ '{' :: s)) rest := by
  obtain ⟨before, t, c, hs, hfound⟩ := h
  refine ⟨n ++ (v ++ '{' :: before), t ++ ['}'], .within (String.ofList n) c, ?_, ?_⟩
  · rw [hs]
    simp only [List.append_assoc, List.cons_append]
  · have hprimary := (hfound.append ['}']).within hn hv
    simpa only [List.append_assoc, List.cons_append] using hprimary

/-- A group goes on as what it holds does, and is closed then. -/
theorem Completes.group (h : Completes Says levels s rest) :
    Completes Primary (levels + 1) ('(' :: s) rest := by
  obtain ⟨before, t, c, hs, hfound⟩ := h
  refine ⟨'(' :: before, t ++ [')'], c, ?_, ?_⟩
  · rw [hs, List.cons_append]
  · have hprimary := (hfound.append [')']).group
    simpa only [List.append_assoc, List.cons_append] using hprimary

/-- In place of an operand `true` may stand. -/
theorem completes_primary (levels : Nat) (s : List Char) : Completes Primary levels s s := by
  have htrue : isName "true".toList = true := by decide
  exact ⟨[], "true".toList, _, rfl, .intro rfl blank_nil blank_nil .alwaysTrue
    (balanced_of_isName htrue) (Nat.zero_le levels)⟩

/-- Behind a name a comparison may stand. -/
theorem completes_name (levels : Nat) (hn : isName n = true) (hv : Blank v) :
    Completes Primary levels (n ++ (v ++ s)) s := by
  obtain ⟨before, t, x, hempty, hfound⟩ := completes_literal levels []
  obtain ⟨rfl, -⟩ := List.append_eq_nil_iff.mp hempty.symm
  have hends : NameEnds (v ++ (CompareOp.eq.symbol.toList ++ ([] ++ t))) :=
    nameEnds_blank_cons hv (by decide) (by decide)
  refine ⟨n ++ v, CompareOp.eq.symbol.toList ++ ([] ++ t), .compare (String.ofList n) .eq x,
    ?_, ?_⟩
  · rw [List.append_assoc]
  · rw [List.append_assoc]
    exact hfound.compare .eq hn hv hends

end

/-! ### Readers -/

/-- Whatever is read with a level less goes on wherever reading stops. -/
def MendsInside (levels : Nat) : Prop :=
  ∀ k, levels = k + 1 → Mends Says k (condition k)

/-- What an enclosure holds stops where reading it does, or else where the closing sign is
missing. -/
theorem mends_closed {e : Enclosure} {levels : Nat} {read : Reader Condition}
    (hfound : ∀ s c rest, read s = .ok (c, rest) → Found Says levels s c rest)
    (hmends : Mends Says levels read) : Mends Says levels (closed e read) := by
  intro s f h hmend
  rw [closed] at h
  split at h
  · next g hread =>
    obtain rfl := Except.error.inj h
    exact hmends s g hread hmend
  · next c rest hread =>
    split at h
    · next g hclose =>
      obtain rfl := Except.error.inj h
      rw [closing_eq_error hclose]
      exact (hfound s c rest hread).skip.completes
    · simp at h

/-- An enclosure for which there is no level left cannot be mended. -/
theorem mends_enclosed {e : Enclosure} {levels : Nat} {s : List Char} {f : Failure}
    (hmends : MendsInside levels) (h : enclosed e (inside levels) s = .error f)
    (hmend : f.reason.Mendable) : ∃ k, levels = k + 1 ∧ Completes Says k s f.rest := by
  cases levels with
  | zero =>
      obtain rfl := Except.error.inj h
      exact absurd hmend id
  | succ k =>
      have hclosed := mends_closed (e := e) (found_condition k) (hmends k rfl)
      exact ⟨k, rfl, hclosed.expecting (.closing e) s f h hmend⟩

theorem mends_afterName {n left : List Char} {levels : Nat} {f : Failure}
    (hmends : MendsInside levels) (hn : isName n = true) (hends : NameEnds left)
    (h : afterName (inside levels) (String.ofList n) (skipBlanks left) = .error f)
    (hmend : f.reason.Mendable) : Completes Primary levels (n ++ left) f.rest := by
  obtain ⟨v, hv, hleft, _⟩ := exists_blank_append left
  rw [afterName.eq_def] at h
  split at h
  · next after hskip =>
    rw [hskip] at hleft
    split at h
    · next g hread =>
      obtain rfl := Except.error.inj h
      obtain ⟨k, rfl, hbody⟩ := mends_enclosed hmends hread hmend
      rw [hleft]
      exact hbody.within hn hv
    · simp at h
  · split at h
    · next op after hop =>
      rw [operator?_eq_some hop] at hleft
      rw [hleft] at hends ⊢
      have hliteral := ((mends_literal levels).expecting .literal) (skipBlanks after) f
        (compared_eq_error.mp h) hmend
      exact hliteral.of_skipBlanks.compare op hn hv hends
    · split at h
      · simp at h
      · obtain rfl := Except.error.inj h
        have hname := completes_name (s := skipBlanks left) levels hn hv
        rwa [← hleft] at hname

theorem mends_bare {levels : Nat} (hmends : MendsInside levels) :
    Mends Primary levels (bare (inside levels)) := by
  intro s f h hmend
  rw [bare.eq_def] at h
  split at h
  · obtain ⟨k, rfl, hbody⟩ := mends_enclosed hmends h hmend
    exact hbody.group
  · split at h
    · obtain rfl := Except.error.inj h
      exact completes_primary levels s
    · next name left hname =>
      obtain ⟨n, rfl, rfl, hn, hends⟩ := name?_eq_some hname
      exact mends_afterName hmends hn hends h hmend

theorem mends_primary {levels : Nat} (hmends : MendsInside levels) :
    Mends Primary levels (primaryAt levels) := fun s f h hmend =>
  ((mends_bare hmends).expecting .condition (skipBlanks s) f h hmend).of_skipBlanks

/-- A chain stops where an operand of it does.  The operands before it stay as they are. -/
theorem mends_chain {α : Type} {sign : Char} {operand : Reader α} {levels : Nat}
    {Item : List Char → α → Prop} {Items : List Char → List α → Prop}
    (hquiet : isQuiet sign = true)
    (one : ∀ t a, Item t a → Items t [a])
    (more : ∀ t w w' u a as, Item t a → Blank w → Blank w' → Items u as →
      Items (t ++ (w ++ sign :: sign :: (w' ++ u))) (a :: as))
    (hfound : ∀ s a rest, operand s = .ok (a, rest) → Found Item levels s a rest)
    (hmends : Mends Item levels operand) : Mends Items levels (chain sign operand) := by
  intro s f h hmend
  fun_induction chain sign operand s with
  | case1 s g hread =>
      obtain rfl := Except.error.inj h
      exact (hmends s g hread hmend).map one
  | case2 s a left hread hnone => simp at h
  | case3 s a left hread after hsome hlt g hmore ih =>
      obtain rfl := Except.error.inj h
      obtain ⟨before, t, as, hafter, hitems⟩ := ih hmore
      obtain ⟨v, hv, rfl⟩ := joiner?_eq_some hsome
      obtain ⟨front, hs, hfront⟩ := (hfound s a _ hread).exists_front
      refine ⟨front ++ (v ++ sign :: sign :: before), t, a :: as, ?_, ?_⟩
      · rw [hs, hafter]
        simp only [List.append_assoc, List.cons_append]
      · have hchain := (hfront (v ++ sign :: sign :: (before ++ t))).joined hquiet more hv hitems
        simpa only [List.append_assoc, List.cons_append] using hchain
  | case4 s a left hread after hsome hlt as left' hmore ih => simp at h
  | case5 s a left hread after hsome hlt => simp at h

theorem mends_conjuncts {levels : Nat} (hmends : MendsInside levels) :
    Mends Conjuncts levels (conjunctsAt levels) :=
  mends_chain (by decide) (fun _ _ ht => .one ht)
    (fun _ _ _ _ _ _ ht hw hw' hu => .more ht hw hw' hu)
    (found_primary fun k _ => found_condition k) (mends_primary hmends)

theorem mends_conjunction {levels : Nat} (hmends : MendsInside levels) :
    Mends SaysJoined levels (conjunction (primaryAt levels)) := by
  intro s f h hmend
  have hconjuncts := mends_conjuncts hmends s f (conjunction_eq_error.mp h) hmend
  exact hconjuncts.map fun t cs ht => ⟨cs, ht, rfl⟩

theorem mends_disjuncts {levels : Nat} (hmends : MendsInside levels) :
    Mends Disjuncts levels (disjunctsAt levels) := by
  refine mends_chain (by decide) ?_ ?_ (found_conjunction fun k _ => found_condition k)
    (mends_conjunction hmends)
  · exact fun _ _ => disjuncts_one
  · exact fun _ _ _ _ _ _ => disjuncts_more

theorem mends_step {levels : Nat} (hmends : MendsInside levels) :
    Mends Says levels (condition levels) := by
  intro s f h hmend
  rw [condition_eq] at h
  have hdisjuncts := mends_disjuncts hmends s f (disjunction_eq_error.mp h) hmend
  exact hdisjuncts.map fun t cs ht => ⟨cs, ht, rfl⟩

/-- Wherever reading a condition stops, at whatever depth, the text before goes on to one that
says a condition. -/
theorem mends_condition (levels : Nat) : Mends Says levels (condition levels) := by
  induction levels with
  | zero => exact mends_step fun k hk => absurd hk (Nat.succ_ne_zero k).symm
  | succ levels ih =>
      refine mends_step fun k hk => ?_
      obtain rfl : levels = k := Nat.succ.inj hk
      exact ih

/-! ### Whole texts -/

/-- A whole text stops where its condition does, or behind it where something else follows. -/
theorem completes_of_whole {s : List Char} {f : Failure} (h : whole s = .error f)
    (hmend : f.reason.Mendable) : Completes Says maxNesting s f.rest := by
  apply Completes.of_skipBlanks
  rw [whole.eq_def] at h
  split at h
  · simp at h
  · next c after hskip =>
    rw [hskip]
    split at h
    · next g hread =>
      obtain rfl := Except.error.inj h
      exact mends_condition maxNesting (c :: after) g hread hmend
    · next parsed left hread =>
      split at h
      · simp at h
      · next d more hleft =>
        obtain rfl := Except.error.inj h
        have hfound := (found_condition maxNesting (c :: after) parsed left hread).skip
        rw [hleft] at hfound
        exact hfound.completes

end Criteria.Source

namespace Criteria.Condition

open Criteria.Source

theorem parse_eq_error {source : String} {e : ParseError} :
    parse source = .error e ↔
      ∃ f, whole source.toList = .error f ∧
        .ofFailure (source.toList.take (source.toList.length - f.rest.length)) f.reason = e := by
  simp only [parse]
  cases whole source.toList with
  | ok c => simp
  | error f => simp

/-- An error never points too far: the text before it is the beginning of some text that reads,
unless too much was nested or a pattern has no end. -/
theorem exists_completion_of_parse_error {source : String} {e : ParseError}
    (h : parse source = .error e) (hnesting : e.reason ≠ .nesting)
    (hpattern : ∀ expected, e.reason ≠ .unexpected (some .regex) expected) :
    ∃ before rest completion c, source = before ++ rest ∧ before.utf8ByteSize = e.offset ∧
      parse (before ++ completion) = .ok c := by
  obtain ⟨f, hwhole, rfl⟩ := parse_eq_error.mp h
  have hmend : f.reason.Mendable := mendable_iff.mpr ⟨hnesting, hpattern⟩
  obtain ⟨before, t, c, hs, hfound⟩ := completes_of_whole hwhole hmend
  have htake : source.toList.take (source.toList.length - f.rest.length) = before := by
    rw [hs, List.length_append, Nat.add_sub_cancel, List.take_left]
  refine ⟨.ofList before, .ofList f.rest, .ofList t, c, ?_, ?_, ?_⟩
  · rw [← String.ofList_append, ← hs, String.ofList_toList]
  · rw [← ParseError.byteCount_toList, String.toList_ofList, ParseError.ofFailure, htake]
  · rw [← String.ofList_append, parse_eq_ok, String.toList_ofList, whole_eq_ok]
    exact Or.inr hfound.derives

/-- A text that ends in a backslash, in a group, in a body. -/
theorem exists_completion_of_parse_error_backslash :
    parse "a \x7b ( b == \"é\\" = .error ⟨15, 1, 15, .unexpected (some .text) [.literal,
        .condition, .closing .parentheses, .condition, .closing .braces, .condition]⟩ ∧
      ∃ before rest completion c, "a \x7b ( b == \"é\\" = before ++ rest ∧
        before.utf8ByteSize = 15 ∧ parse (before ++ completion) = .ok c := by
  have hparse : parse "a \x7b ( b == \"é\\" = .error ⟨15, 1, 15, .unexpected (some .text)
      [.literal, .condition, .closing .parentheses, .condition, .closing .braces,
        .condition]⟩ := by
    -- errors compare, conditions do not
    refine (map_eq_error (g := fun _ => ())).mp ?_
    decide +kernel
  exact ⟨hparse, exists_completion_of_parse_error hparse nofun nofun⟩

end Criteria.Condition
