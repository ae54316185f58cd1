/-
Where reading stops, and what the text before that place has to do with the reason.

There are three cases.  A literal that denotes nothing is where reading stops, and reading it by
itself fails in the same way.  Behind a sign that opens an enclosure too many nothing is read.  And
where something is missing, the enclosures that the text before leaves open are those whose closing
sign is expected, the innermost first: each enclosure adds its own to what its inside expects.

But for the sign of an enclosure, blanks are skipped before reading stops.
-/
import Criteria.Proofs.Limit

namespace Criteria.Source

open Criteria.Text

/-! ### What a text leaves open -/

/-- Whatever is open around it, a text leaves these enclosures open, the innermost first.  It may
end inside a literal. -/
def Leaves (t : List Char) (opened : List Enclosure) : Prop :=
  ∀ around, ((Scan.mk .between around).run t).opened = opened ++ around

theorem Opens.leaves {t : List Char} {opened : List Enclosure} (h : Opens t opened) :
    Leaves t opened := by
  intro around
  rw [h]

theorem Opens.append_leaves {s t : List Char} {outer inner : List Enclosure} (hs : Opens s outer)
    (ht : Leaves t inner) : Leaves (s ++ t) (inner ++ outer) := by
  intro around
  rw [Scan.run_append, hs, ht, List.append_assoc]

theorem Leaves.enclosing_eq {t : List Char} {opened : List Enclosure} (h : Leaves t opened) :
    enclosing t = opened := by
  have hrun := h []
  rwa [List.append_nil] at hrun

/-- A literal that is not closed leaves open what was open where it began. -/
theorem opened_run_unclosed {closer : Char} {escapable : Char → Bool} {s : List Char}
    (h : delimited? closer escapable s = none) (opened : List Enclosure) :
    ((Scan.mk (.inside closer false) opened).run s).opened = opened := by
  fun_induction delimited? closer escapable s with
  | case1 => rfl
  | case2 s => cases h
  | case3 => rfl
  | case4 d s hne ih => exact ih (Option.map_eq_none_iff.mp h)
  | case5 c s hne hback ih =>
      have hstep : (Scan.mk (.inside closer false) opened).step c =
          ⟨.inside closer false, opened⟩ := by
        rw [Scan.step, if_neg hback, if_neg hne]
      rw [Scan.run_cons, hstep]
      exact ih (Option.map_eq_none_iff.mp h)

private theorem leaves_unclosed {closer : Char} {escapable : Char → Bool} {s : List Char}
    (hq : closer = '"' ∨ closer = '/') (h : delimited? closer escapable s = none) :
    Leaves (closer :: s) [] := by
  intro around
  have hstep : (Scan.mk .between around).step closer = ⟨.inside closer false, around⟩ := if_pos hq
  rw [Scan.run_cons, hstep]
  exact opened_run_unclosed h around

/-! ### Failures and the text before them -/

/-- The enclosure whose closing sign is expected. -/
def Expectation.enclosure? : Expectation → Option Enclosure
  | .closing e => some e
  | _ => none

/-- What a failure has to do with the text before it. -/
def Failure.ExplainedBy (f : Failure) (before : List Char) : Prop :=
  match f.reason with
  | .value _ => Stops isBlank f.rest ∧ literal f.rest = .error f
  | .nesting => ∃ e : Enclosure, before.getLast? = some e.opener
  | .unexpected _ expected =>
    Stops isBlank f.rest ∧ Leaves before (expected.filterMap Expectation.enclosure?)

/-- A failure is in a text, and the text before it explains it. -/
def Explained (s : List Char) (f : Failure) : Prop :=
  ∃ before, s = before ++ f.rest ∧ f.ExplainedBy before

/-- Whenever a reader fails, the text before explains it. -/
def Explains {α : Type} (read : List Char → Except Failure α) : Prop :=
  ∀ s f, read s = .error f → Explained s f

section

variable {p s before rest : List Char} {f : Failure}

/-- Blanks, names, signs and whole operands in front make no difference. -/
theorem Explained.lift (h : Explained s f) (hp : Opens p []) : Explained (p ++ s) f := by
  obtain ⟨before, hs, hbefore⟩ := h
  refine ⟨p ++ before, by rw [hs, List.append_assoc], ?_⟩
  obtain ⟨rest, reason⟩ := f
  cases reason with
  | value v => exact hbefore
  | nesting =>
      obtain ⟨e, he⟩ := hbefore
      exact ⟨e, by rw [List.getLast?_append, he]; rfl⟩
  | unexpected unclosed expected =>
      have hleaves := hp.append_leaves hbefore.2
      rw [List.append_nil] at hleaves
      exact ⟨hbefore.1, hleaves⟩

/-- An expectation more explains the enclosure in front that it is to close, or none. -/
theorem Explained.expecting (h : Explained s f) (e : Expectation)
    (hp : Opens p e.enclosure?.toList) : Explained (p ++ s) (f.expecting e) := by
  obtain ⟨before, hs, hbefore⟩ := h
  refine ⟨p ++ before, by rw [Failure.expecting_rest, hs, List.append_assoc], ?_⟩
  obtain ⟨rest, reason⟩ := f
  cases reason with
  | value v => exact hbefore
  | nesting =>
      obtain ⟨o, ho⟩ := hbefore
      exact ⟨o, by rw [List.getLast?_append, ho]; rfl⟩
  | unexpected unclosed expected =>
      have hleaves := hp.append_leaves hbefore.2
      refine ⟨hbefore.1, ?_⟩
      rw [List.filterMap_append]
      cases he : e.enclosure? with
      | none => simpa [he] using hleaves
      | some o => simpa [he] using hleaves

/-- Where nothing is open and something other than a closing sign is missing. -/
theorem explained_at {expected : List Expectation} (hbefore : Opens before [])
    (hrest : Stops isBlank rest) (hnone : expected.filterMap Expectation.enclosure? = []) :
    Explained (before ++ rest) (.at rest expected) := by
  refine ⟨before, rfl, hrest, ?_⟩
  rw [hnone]
  exact hbefore.leaves

end

/-! ### Literals -/

private theorem explained_unclosed {closer : Char} {escapable : Char → Bool} {s : List Char}
    (hq : closer = '"' ∨ closer = '/') (h : delimited? closer escapable s = none) (u : Unclosed) :
    Explained (closer :: s) ⟨[], .unexpected (some u) []⟩ :=
  ⟨closer :: s, (List.append_nil _).symm, stops_nil isBlank, leaves_unclosed hq h⟩

theorem explained_located {start rest : List Char} {value : Except ValueError Value} {f : Failure}
    (hstart : Stops isBlank start) (hread : literal start = .error f)
    (h : located start rest value = .error f) : Explained start f := by
  cases value with
  | ok v => cases h
  | error e =>
      obtain rfl := Except.error.inj h
      exact ⟨[], rfl, hstart, hread⟩

theorem explained_literal {s : List Char} {f : Failure} (hs : Stops isBlank s)
    (h : literal s = .error f) : Explained s f := by
  have hmissing : Explained s (.at s []) := explained_at opens_nil hs rfl
  have hread := h
  cases s with
  | nil =>
      obtain rfl := Except.error.inj h
      exact hmissing
  | cons c s =>
      by_cases hquote : c = '"'
      · subst hquote
        rw [literal.eq_2] at h
        split at h
        · cases h
        · next hopen =>
          obtain rfl := Except.error.inj h
          exact explained_unclosed (Or.inl rfl) hopen .text
      by_cases hslash : c = '/'
      · subst hslash
        rw [literal.eq_3] at h
        split at h
        · exact explained_located hs hread h
        · next hopen =>
          obtain rfl := Except.error.inj h
          exact explained_unclosed (Or.inr rfl) hopen .regex
      rw [literal_cons hquote hslash] at h
      split at h
      · exact explained_located hs hread h
      · split at h
        · exact explained_located hs hread h
        · obtain rfl := Except.error.inj h
          exact hmissing

theorem explains_compared (name : String) (op : CompareOp) : Explains (compared name op) := by
  intro s f h
  obtain ⟨w, hw, hs, hstop⟩ := exists_blank_append s
  obtain ⟨g, hfail, rfl⟩ := mapError_eq_error.mp (compared_eq_error.mp h)
  rw [hs]
  exact (explained_literal hstop hfail).expecting .literal (balanced_of_blank hw).opens

/-! ### Enclosures -/

/-- What a reader takes closes all that it opens. -/
theorem Found.exists_opens {α : Type} {Item : List Char → α → Prop} {levels : Nat}
    {s rest : List Char} {a : α} (h : Found Item levels s a rest) :
    ∃ front, s = front ++ rest ∧ Opens front [] := by
  obtain @⟨w, t, w', d, hs, hw, hw', -, hbal, -⟩ := h
  refine ⟨w ++ (t ++ w'), by rw [hs]; simp only [List.append_assoc], ?_⟩
  exact ((balanced_of_blank hw).zero_append (hbal.append_zero (balanced_of_blank hw'))).opens

/-- Whatever is read with a level less explains its failures. -/
def ExplainsInside (levels : Nat) : Prop := ∀ k, levels = k + 1 → Explains (condition k)

/-- Where the closing sign is missing, what an enclosure holds has been taken. -/
theorem explains_closed {e : Enclosure} {levels : Nat} {read : Reader Condition}
    (hfound : ∀ s c rest, read s = .ok (c, rest) → Found Says levels s c rest)
    (hread : Explains read) : Explains (closed e read) := by
  intro s f h
  rw [closed] at h
  split at h
  · next g hfail =>
    obtain rfl := Except.error.inj h
    exact hread s g hfail
  · next c rest hok =>
    split at h
    · next g hclose =>
      obtain rfl := Except.error.inj h
      obtain ⟨front, hs, hopens⟩ := (hfound s c rest hok).skip.exists_opens
      rw [closing_eq_error hclose, hs]
      exact explained_at hopens (stops_dropWhile isBlank rest) rfl
    · cases h

/-- An enclosure is open where its inside fails, and its closing sign is expected there. -/
theorem explained_enclosed {e : Enclosure} {levels : Nat} {s : List Char} {f : Failure}
    (hinner : ExplainsInside levels) (h : enclosed e (inside levels) s = .error f) :
    Explained (e.opener :: s) f := by
  cases levels with
  | zero =>
      obtain rfl := Except.error.inj h
      exact ⟨[e.opener], rfl, e, rfl⟩
  | succ k =>
      obtain ⟨g, hfail, rfl⟩ := mapError_eq_error.mp h
      have hclosed := explains_closed (found_condition k) (hinner k rfl) s g hfail
      exact hclosed.expecting (p := [e.opener]) (.closing e) (opens_nil.opener_cons e)

/-! ### Primaries -/

theorem explained_afterName {n left : List Char} {levels : Nat} {f : Failure}
    (hinner : ExplainsInside levels) (hn : isName n = true)
    (h : afterName (inside levels) (String.ofList n) (skipBlanks left) = .error f) :
    Explained (n ++ left) f := by
  obtain ⟨v, hv, hleft, hstop⟩ := exists_blank_append left
  have hopens : Opens (n ++ v) [] :=
    ((balanced_of_isName hn).append_zero (balanced_of_blank hv)).opens
  rw [hleft, ← List.append_assoc]
  rw [afterName.eq_def] at h
  split at h
  · next after hskip =>
    rw [hskip]
    split at h
    · next g hfail =>
      obtain rfl := Except.error.inj h
      exact (explained_enclosed hinner hfail).lift hopens
    · cases h
  · split at h
    · next op after hop =>
      rw [operator?_eq_some hop]
      exact ((explains_compared _ op after f h).lift (balanced_symbol op).opens).lift hopens
    · split at h
      · cases h
      · obtain rfl := Except.error.inj h
        exact explained_at hopens hstop rfl

theorem explained_bare {levels : Nat} {s : List Char} {f : Failure}
    (hinner : ExplainsInside levels) (hs : Stops isBlank s)
    (h : bare (inside levels) s = .error f) : Explained s f := by
  rw [bare.eq_def] at h
  split at h
  · exact explained_enclosed hinner h
  · split at h
    · obtain rfl := Except.error.inj h
      exact explained_at opens_nil hs rfl
    · next name left hname =>
      obtain ⟨n, rfl, rfl, hn, -⟩ := name?_eq_some hname
      exact explained_afterName hinner hn h

theorem explains_primary {levels : Nat} (hinner : ExplainsInside levels) :
    Explains (primaryAt levels) := by
  intro s f h
  obtain ⟨w, hw, hs, hstop⟩ := exists_blank_append s
  obtain ⟨g, hfail, rfl⟩ := mapError_eq_error.mp h
  rw [hs]
  exact (explained_bare hinner hstop hfail).expecting .condition (balanced_of_blank hw).opens

/-! ### Chains -/

/-- A chain fails where an operand of it does, and the operands before it are closed. -/
theorem explains_chain {α : Type} {sign : Char} {operand : Reader α} {levels : Nat}
    {Item : List Char → α → Prop} (hquiet : isQuiet sign = true)
    (hfound : ∀ s a rest, operand s = .ok (a, rest) → Found Item levels s a rest)
    (hoperand : Explains operand) : Explains (chain sign operand) := by
  intro s f h
  fun_induction chain sign operand s with
  | case1 s g hfail =>
      obtain rfl := Except.error.inj h
      exact hoperand s g hfail
  | case2 s a left hread hnone => cases h
  | case3 s a left hread after hsome hlt g hmore ih =>
      obtain rfl := Except.error.inj h
      -- the operand and the sign that have been taken leave nothing open
      obtain ⟨v, hv, rfl⟩ := joiner?_eq_some hsome
      obtain ⟨front, hs, hopens⟩ := (hfound s a _ hread).exists_opens
      have hsigns : Opens (v ++ [sign, sign]) [] :=
        ((balanced_of_blank hv).append_zero (balanced_of_quiet (by simpa using hquiet))).opens
      have htext : s = front ++ (v ++ [sign, sign] ++ after) := by simp [hs]
      rw [htext]
      exact ((ih hmore).lift hsigns).lift hopens
  | case4 s a left hread after hsome hlt as left' hmore ih => cases h
  | case5 s a left hread after hsome hlt => cases h

theorem explains_conjunction {levels : Nat} (hinner : ExplainsInside levels) :
    Explains (conjunction (primaryAt levels)) := by
  intro s f h
  exact explains_chain (by decide) (found_primary fun k _ => found_condition k)
    (explains_primary hinner) s f (conjunction_eq_error.mp h)

theorem explains_step {levels : Nat} (hinner : ExplainsInside levels) :
    Explains (condition levels) := by
  intro s f h
  rw [condition_eq] at h
  exact explains_chain (by decide) (found_conjunction fun k _ => found_condition k)
    (explains_conjunction hinner) s f (disjunction_eq_error.mp h)

/-- Reading a condition explains its failures, at whatever depth it is read. -/
theorem explains_condition (levels : Nat) : Explains (condition levels) := by
  induction levels with
  | zero => exact explains_step fun k hk => absurd hk (Nat.succ_ne_zero k).symm
  | succ levels ih =>
      refine explains_step fun k hk => ?_
      obtain rfl : levels = k := Nat.succ.inj hk
      exact ih

/-! ### Whole texts -/

/-- Whatever is wrong with a whole text, what stands before the place explains it. -/
theorem explains_whole : Explains whole := by
  intro s f h
  obtain ⟨w, hw, hs, -⟩ := exists_blank_append s
  rw [hs]
  refine Explained.lift ?_ (balanced_of_blank hw).opens
  rw [whole.eq_def] at h
  split at h
  · cases h
  · next c after hskip =>
    rw [hskip]
    split at h
    · next g hfail =>
      obtain rfl := Except.error.inj h
      exact explains_condition maxNesting (c :: after) g hfail
    · next parsed left hread =>
      split at h
      · cases h
      · next d more hleft =>
        obtain rfl := Except.error.inj h
        have hstop : Stops isBlank (d :: more) := hleft ▸ stops_dropWhile isBlank left
        obtain ⟨front, hfront, hopens⟩ :=
          (found_condition maxNesting (c :: after) parsed left hread).skip.exists_opens
        rw [hfront, hleft]
        exact explained_at hopens hstop rfl

end Criteria.Source

namespace Criteria.Condition

open Criteria.Source

/-- An error has a place in its source, and the text before the place explains its reason. -/
theorem exists_explained {source : String} {e : ParseError} (h : parse source = .error e) :
    ∃ before rest, source.toList = before ++ rest ∧ e = .ofFailure before e.reason ∧
      Failure.ExplainedBy ⟨rest, e.reason⟩ before := by
  obtain ⟨f, hwhole, rfl⟩ := parse_eq_error.mp h
  obtain ⟨before, hs, hbefore⟩ := explains_whole source.toList f hwhole
  refine ⟨before, f.rest, hs, ?_, hbefore⟩
  rw [hs, List.length_append, Nat.add_sub_cancel, List.take_left]
  rfl

end Criteria.Condition
