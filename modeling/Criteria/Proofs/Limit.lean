/-
The limit on nesting.

Where an enclosure would be nested too deep, reading stops just behind the sign that opens it.
That this sign is inside as many enclosures as there may be is told by the text before it: what
the readers have taken of it is blanks, names, signs and operands that close what they open, and
the signs of the enclosures they are in.  Nothing behind the sign has been looked at by then, for
each operand before it was ended by a joining sign, each name by the sign of its body.
-/
import Criteria.Proofs.Completion

namespace Criteria.Source

open Criteria.Text

/-! ### Texts that are left open -/

/-- Whatever is open around it, a text opens these enclosures, the innermost first, and leaves
them open. -/
def Opens (t : List Char) (opened : List Enclosure) : Prop :=
  ∀ around, (Scan.mk .between around).run t = ⟨.between, opened ++ around⟩

theorem opens_nil : Opens [] [] := fun _ => rfl

theorem Opens.append {s t : List Char} {outer inner : List Enclosure} (hs : Opens s outer)
    (ht : Opens t inner) : Opens (s ++ t) (inner ++ outer) := by
  intro around
  rw [Scan.run_append, hs, ht, List.append_assoc]

theorem Balanced.opens {t : List Char} {d : Nat} (h : Balanced t d) : Opens t [] := h.run

theorem Opens.opener_cons {t : List Char} {opened : List Enclosure} (e : Enclosure)
    (h : Opens t opened) : Opens (e.opener :: t) (opened ++ [e]) := by
  intro around
  rw [Scan.run_cons, Scan.step_opener, h, List.append_assoc]
  rfl

theorem Opens.enclosing_eq {t : List Char} {opened : List Enclosure} (h : Opens t opened) :
    enclosing t = opened := by
  have hrun := h []
  rw [List.append_nil] at hrun
  rw [enclosing, Scan.start, hrun]

/-! ### Failures that are no nesting errors -/

@[simp] theorem Failure.expecting_eq_nesting {f : Failure} {e : Expectation} :
    (f.expecting e).reason = .nesting ↔ f.reason = .nesting := by
  rw [Failure.expecting.eq_def]
  split
  · next hreason => simp [hreason]
  · exact Iff.rfl

private theorem located_ne_nesting {start rest : List Char} {value : Except ValueError Value}
    {f : Failure} (h : located start rest value = .error f) : f.reason ≠ .nesting := by
  cases value with
  | ok v => cases h
  | error e =>
      obtain rfl := Except.error.inj h
      exact Reason.noConfusion

private theorem literal_ne_nesting {s : List Char} {f : Failure} (h : literal s = .error f) :
    f.reason ≠ .nesting := by
  rw [literal.eq_def] at h
  split at h
  · obtain rfl := Except.error.inj h
    exact Reason.noConfusion
  · split at h
    · cases h
    · obtain rfl := Except.error.inj h
      exact Reason.noConfusion
  · split at h
    · exact located_ne_nesting h
    · obtain rfl := Except.error.inj h
      exact Reason.noConfusion
  · simp only at h
    split at h
    · exact located_ne_nesting h
    · split at h
      · exact located_ne_nesting h
      · obtain rfl := Except.error.inj h
        exact Reason.noConfusion

private theorem compared_ne_nesting {name : String} {op : CompareOp} {s : List Char} {f : Failure}
    (h : compared name op s = .error f) : f.reason ≠ .nesting := by
  obtain ⟨g, hread, rfl⟩ := mapError_eq_error.mp (compared_eq_error.mp h)
  rw [ne_eq, Failure.expecting_eq_nesting]
  exact literal_ne_nesting hread

private theorem closing_ne_nesting {e : Enclosure} {s : List Char} {f : Failure}
    (h : closing e s = .error f) : f.reason ≠ .nesting := by
  rw [closing_eq_error h]
  exact Reason.noConfusion

/-! ### Where readers stop at the limit -/

section

variable {α β : Type}

/-- What a reader took before it stopped at the limit: a text that leaves as many enclosures open
as there are levels, and the sign of one more.  Whatever stands behind that sign, the reader stops
there. -/
inductive StopsBehind (read : List Char → Except Failure α) (levels : Nat)
    (s rest : List Char) : Prop where
  | intro {before : List Char} {opened : List Enclosure} (e : Enclosure)
      (hs : s = before ++ e.opener :: rest) (hopens : Opens before opened)
      (hlength : opened.length = levels)
      (hread : ∀ rest', read (before ++ e.opener :: rest') = .error ⟨rest', .nesting⟩)

/-- Whenever a reader fails for the nesting, it has stopped behind an opening sign that is inside
as many enclosures as there are levels. -/
def StopsAtLimit (levels : Nat) (read : List Char → Except Failure α) : Prop :=
  ∀ s f, read s = .error f → f.reason = .nesting → StopsBehind read levels s f.rest

/-- A reader that takes a text and leaves the rest to another reader stops where the other one
does. -/
theorem StopsBehind.lift {read : List Char → Except Failure α}
    {outer : List Char → Except Failure β} {k levels : Nat} {p s rest : List Char}
    {opened : List Enclosure} (h : StopsBehind read k s rest) (hp : Opens p opened)
    (hlevels : k + opened.length = levels)
    (hpass : ∀ before e rest', s = before ++ Enclosure.opener e :: rest →
      read (before ++ e.opener :: rest') = .error ⟨rest', .nesting⟩ →
      outer (p ++ (before ++ e.opener :: rest')) = .error ⟨rest', .nesting⟩) :
    StopsBehind outer levels (p ++ s) rest := by
  obtain ⟨e, hs, hopens, hlength, hread⟩ := h
  refine ⟨e, ?_, hp.append hopens, ?_, fun rest' => ?_⟩
  · rw [hs, List.append_assoc]
  · rw [List.length_append, hlength, hlevels]
  · rw [List.append_assoc]
    exact hpass _ e rest' hs (hread rest')

/-- A reader that fails wherever another one does stops where the other one does. -/
theorem StopsBehind.same {read : List Char → Except Failure α}
    {outer : List Char → Except Failure β} {levels : Nat} {s rest : List Char}
    (h : StopsBehind read levels s rest)
    (hpass : ∀ s' rest', read s' = .error ⟨rest', .nesting⟩ →
      outer s' = .error ⟨rest', .nesting⟩) : StopsBehind outer levels s rest :=
  h.lift opens_nil rfl fun _ _ _ _ => hpass _ _

theorem StopsAtLimit.expecting {levels : Nat} {read : Reader α}
    (h : StopsAtLimit levels read) (e : Expectation) :
    StopsAtLimit levels (read.expecting e) := by
  intro s f hread hnesting
  obtain ⟨g, hfail, rfl⟩ := mapError_eq_error.mp hread
  rw [Failure.expecting_eq_nesting] at hnesting
  rw [Failure.expecting_rest]
  refine (h s g hfail hnesting).same fun s' rest' hagain => ?_
  rw [Reader.expecting, hagain]
  rfl

end

/-! ### Enclosures -/

/-- Whatever is read with a level less stops at the limit. -/
def StopsInside (levels : Nat) : Prop :=
  ∀ k, levels = k + 1 → StopsAtLimit k (condition k)

private theorem closed_of_error {e : Enclosure} {read : Reader Condition} {s : List Char}
    {f : Failure} (h : read s = .error f) : closed e read s = .error f := by
  rw [closed, h]

/-- What an enclosure holds stops at the limit; that its closing sign is missing is no matter of
nesting. -/
theorem stops_closed {e : Enclosure} {levels : Nat} {read : Reader Condition}
    (h : StopsAtLimit levels read) : StopsAtLimit levels (closed e read) := by
  intro s f hread hnesting
  cases hinner : read s with
  | error g =>
      rw [closed_of_error hinner] at hread
      obtain rfl := Except.error.inj hread
      exact (h s g hinner hnesting).same fun s' rest' => closed_of_error
  | ok r =>
      obtain ⟨c, left⟩ := r
      rw [closed, hinner] at hread
      simp only at hread
      split at hread
      · next hclose =>
        obtain rfl := Except.error.inj hread
        exact absurd hnesting (closing_ne_nesting hclose)
      · cases hread

/-- The sign of an enclosure for which no level is left is where reading stops.  If there is a
level left, what the enclosure holds stops at the limit. -/
theorem stops_enclosed {α : Type} {read : Reader α} {levels : Nat} {p s : List Char} {f : Failure}
    (hinner : StopsInside levels) (e : Enclosure) (hp : Opens p [])
    (hpass : ∀ s' g, enclosed e (inside levels) s' = .error g →
      read (p ++ e.opener :: s') = .error g)
    (h : enclosed e (inside levels) s = .error f) (hnesting : f.reason = .nesting) :
    StopsBehind read levels (p ++ e.opener :: s) f.rest := by
  cases levels with
  | zero =>
      obtain rfl := Except.error.inj h
      exact ⟨e, rfl, hp, rfl, fun rest' => hpass rest' _ rfl⟩
  | succ k =>
      have hstops := (stops_closed (hinner k rfl)).expecting (.closing e) s f h hnesting
      have hopener : Opens (p ++ [e.opener]) [e] := by
        have hsign : Opens [e.opener] [e] := opens_nil.opener_cons e
        exact hp.append hsign
      rw [← List.singleton_append, ← List.append_assoc]
      refine hstops.lift hopener rfl fun before o rest' _ hagain => ?_
      rw [List.append_assoc, List.singleton_append]
      exact hpass _ _ hagain

/-! ### Primaries -/

private theorem afterName_braces_of_error {inner : Option (Reader Condition)} {name : String}
    {s : List Char} {f : Failure} (h : enclosed .braces inner s = .error f) :
    afterName inner name ('{' :: s) = .error f := by
  rw [afterName.eq_1, h]

/-- What follows a name is nested too deep only inside its body. -/
theorem exists_braces_of_nesting {inner : Option (Reader Condition)} {name : String}
    {s : List Char} {f : Failure} (h : afterName inner name s = .error f)
    (hnesting : f.reason = .nesting) :
    ∃ after, s = '{' :: after ∧ enclosed .braces inner after = .error f := by
  rw [afterName.eq_def] at h
  split at h
  · next after =>
    split at h
    · next g hread =>
      obtain rfl := Except.error.inj h
      exact ⟨after, rfl, hread⟩
    · cases h
  · split at h
    · exact absurd hnesting (compared_ne_nesting h)
    · split at h
      · cases h
      · obtain rfl := Except.error.inj h
        cases hnesting

theorem stops_bare {levels : Nat} (hinner : StopsInside levels) :
    StopsAtLimit levels (bare (inside levels)) := by
  intro s f h hnesting
  rw [bare.eq_def] at h
  split at h
  · next after =>
    exact stops_enclosed (p := []) hinner .parentheses opens_nil
      (fun s' g hread => (bare.eq_1 (inside levels) s').trans hread) h hnesting
  · split at h
    · obtain rfl := Except.error.inj h
      cases hnesting
    · next name left hname =>
      obtain ⟨n, rfl, rfl, hn, -⟩ := name?_eq_some hname
      obtain ⟨after, hskip, hread⟩ := exists_braces_of_nesting h hnesting
      obtain ⟨v, hv, hleft, -⟩ := exists_blank_append left
      have hopens : Opens (n ++ v) [] :=
        ((balanced_of_isName hn).append_zero (balanced_of_blank hv)).opens
      rw [hleft, hskip, ← List.append_assoc]
      refine stops_enclosed hinner .braces hopens (fun s' g hbody => ?_) hread hnesting
      have hbrace : skipBlanks (v ++ '{' :: s') = '{' :: s' := by
        rw [skipBlanks_append hv, skipBlanks_of_stops (stops_cons.mpr (by decide))]
      show bare (inside levels) (n ++ v ++ '{' :: s') = .error g
      rw [List.append_assoc, bare_of_name (name?_blank_cons hn hv (by decide) (by decide)), hbrace]
      exact afterName_braces_of_error hbody

/-- Only the head of a text settles whether a run goes on with it. -/
theorem stops_append_cons {p : Char → Bool} {s rest : List Char} {c : Char}
    (h : Stops p (s ++ c :: rest)) (rest' : List Char) : Stops p (s ++ c :: rest') := by
  cases s with
  | nil => exact stops_cons.mpr (stops_cons.mp h)
  | cons d s => exact stops_cons.mpr (stops_cons.mp h)

theorem stops_primary {levels : Nat} (hinner : StopsInside levels) :
    StopsAtLimit levels (primaryAt levels) := by
  intro s f h hnesting
  obtain ⟨w, hw, hs, hstop⟩ := exists_blank_append s
  have hbare := (stops_bare hinner).expecting .condition (skipBlanks s) f h hnesting
  rw [hs]
  refine hbare.lift (balanced_of_blank hw).opens rfl fun before e rest' hskip hagain => ?_
  rw [hskip] at hstop
  rw [primaryAt, primary, skipBlanks_append hw,
    skipBlanks_of_stops (stops_append_cons hstop rest')]
  exact hagain

/-! ### Chains -/

/-- An operand that a joining sign follows is the same operand whatever stands behind the sign. -/
def Steady {α : Type} (sign : Char) (operand : Reader α) : Prop :=
  ∀ s a left after, operand s = .ok (a, left) → joiner? sign left = some after →
    ∃ front, s = front ++ sign :: sign :: after ∧ Opens front [] ∧
      ∀ after', ∃ left', operand (front ++ sign :: sign :: after') = .ok (a, left') ∧
        joiner? sign left' = some after'

theorem steady_of_taken {α : Type} {sign : Char} {signs : List Char} {levels : Nat}
    {operand : Nat → Reader α} {Item : List Char → α → Prop} (hsign : sign ∈ signs)
    (hblank : isBlank sign = false)
    (hfound : ∀ s a rest, operand levels s = .ok (a, rest) → Found Item levels s a rest)
    (htaken : ∀ t a, Item t a → Taken signs operand t a) : Steady sign (operand levels) := by
  intro s a left after hread hjoiner
  obtain ⟨v, hv, rfl⟩ := joiner?_eq_some hjoiner
  obtain @⟨w, t, w', d, hs, hw, hw', ht, hbal, hd⟩ := hfound s a _ hread
  obtain ⟨d', hbal', htake⟩ := htaken t a ht
  have hdepth : d' ≤ levels := by
    have hnest := hbal'.nesting_eq
    rw [hbal.nesting_eq] at hnest
    omega
  have hfront : Balanced (w ++ (t ++ (w' ++ v))) d :=
    (balanced_of_blank hw).zero_append (hbal.append_zero (balanced_of_blank (hw'.append hv)))
  refine ⟨w ++ (t ++ (w' ++ v)), ?_, hfront.opens, fun after' => ?_⟩
  · rw [hs]
    simp only [List.append_assoc]
  · have hfollows : Follows signs ((w' ++ v) ++ sign :: sign :: after') :=
      follows_blank_cons (hw'.append hv) hblank hsign
    obtain ⟨left', hagain, hskip⟩ := htake levels hdepth w _ hw hfollows
    refine ⟨left', ?_, ?_⟩
    · simpa only [List.append_assoc] using hagain
    · rw [joiner?_of_skipBlanks hskip, joiner?_blank_append hblank (hw'.append hv)]

private theorem chain_of_error {α : Type} {sign : Char} {operand : Reader α} {s : List Char}
    {f : Failure} (h : operand s = .error f) : chain sign operand s = .error f := by
  rw [chain, h]

private theorem chain_next_error {α : Type} {sign : Char} {operand : Reader α}
    {s rest after : List Char} {a : α} {f : Failure} (h : operand s = .ok (a, rest))
    (hsome : joiner? sign rest = some after) (hlt : after.length < s.length)
    (hmore : chain sign operand after = .error f) : chain sign operand s = .error f := by
  rw [chain, h]
  simp only [hsome, dif_pos hlt, hmore]

/-- A chain stops at the limit where an operand of it does. -/
theorem stops_chain {α : Type} {sign : Char} {operand : Reader α} {levels : Nat}
    (hquiet : isQuiet sign = true) (hsteady : Steady sign operand)
    (hstops : StopsAtLimit levels operand) : StopsAtLimit levels (chain sign operand) := by
  intro s f h hnesting
  fun_induction chain sign operand s with
  | case1 s g hread =>
      obtain rfl := Except.error.inj h
      exact (hstops s g hread hnesting).same fun s' rest' => chain_of_error
  | case2 s a left hread hnone => cases h
  | case3 s a left hread after hsome hlt g hmore ih =>
      obtain rfl := Except.error.inj h
      obtain ⟨front, hs, hopens, hagain⟩ := hsteady s a left after hread hsome
      have hsigns : Opens [sign, sign] [] := (balanced_of_quiet (by simpa using hquiet)).opens
      have hfront : Opens (front ++ [sign, sign]) [] := hopens.append hsigns
      have htext : ∀ more, front ++ [sign, sign] ++ more = front ++ sign :: sign :: more :=
        fun more => by simp
      rw [hs, ← htext]
      refine (ih hmore).lift hfront rfl fun before e rest' _ hmore' => ?_
      obtain ⟨left', hread', hsome'⟩ := hagain (before ++ e.opener :: rest')
      rw [htext]
      refine chain_next_error hread' hsome' ?_ hmore'
      simp only [List.length_append, List.length_cons]
      omega
  | case4 s a left hread after hsome hlt as left' hmore ih => cases h
  | case5 s a left hread after hsome hlt => cases h

theorem stops_conjuncts {levels : Nat} (hinner : StopsInside levels) :
    StopsAtLimit levels (conjunctsAt levels) := by
  have hsteady : Steady '&' (primaryAt levels) :=
    steady_of_taken (by decide) (by decide) (found_primary fun k _ => found_condition k)
      fun _ _ => Primary.taken
  exact stops_chain (by decide) hsteady (stops_primary hinner)

theorem stops_conjunction {levels : Nat} (hinner : StopsInside levels) :
    StopsAtLimit levels (conjunction (primaryAt levels)) := by
  intro s f h hnesting
  have hconjuncts := stops_conjuncts hinner s f (conjunction_eq_error.mp h) hnesting
  exact hconjuncts.same fun s' rest' => conjunction_eq_error.mpr

theorem stops_disjuncts {levels : Nat} (hinner : StopsInside levels) :
    StopsAtLimit levels (disjunctsAt levels) := by
  have htaken : ∀ t c, SaysJoined t c →
      Taken afterConjunction (fun levels => conjunction (primaryAt levels)) t c := by
    rintro t c ⟨cs, ht, rfl⟩
    exact ht.taken.conjunction
  have hsign : '|' ∈ afterConjunction := by decide
  have hblank : isBlank '|' = false := by decide
  have hsteady := steady_of_taken hsign hblank
    (found_conjunction fun k (_ : levels = k + 1) => found_condition k) htaken
  exact stops_chain (by decide) hsteady (stops_conjunction hinner)

theorem stops_step {levels : Nat} (hinner : StopsInside levels) :
    StopsAtLimit levels (condition levels) := by
  intro s f h hnesting
  rw [condition_eq] at h
  have hdisjuncts := stops_disjuncts hinner s f (disjunction_eq_error.mp h) hnesting
  refine hdisjuncts.same fun s' rest' hagain => ?_
  rw [condition_eq]
  exact disjunction_eq_error.mpr hagain

/-- Reading a condition stops at the limit, at whatever depth it is read. -/
theorem stops_condition (levels : Nat) : StopsAtLimit levels (condition levels) := by
  induction levels with
  | zero => exact stops_step fun k hk => absurd hk (Nat.succ_ne_zero k).symm
  | succ levels ih =>
      refine stops_step fun k hk => ?_
      obtain rfl : levels = k := Nat.succ.inj hk
      exact ih

/-! ### Whole texts -/

private theorem whole_of_error {w s : List Char} {f : Failure} (hw : Blank w) (hs : Stops isBlank s)
    (hne : s ≠ []) (h : condition maxNesting s = .error f) : whole (w ++ s) = .error f := by
  have hskip : skipBlanks (w ++ s) = s := by
    rw [skipBlanks_append hw, skipBlanks_of_stops hs]
  cases s with
  | nil => exact absurd rfl hne
  | cons c s =>
      rw [whole, hskip]
      simp only [h]

theorem stops_whole : StopsAtLimit maxNesting whole := by
  intro s f h hnesting
  obtain ⟨w, hw, hs, hstop⟩ := exists_blank_append s
  rw [whole.eq_def] at h
  split at h
  · cases h
  · next c after hskip =>
    split at h
    · next g hread =>
      obtain rfl := Except.error.inj h
      have hcondition := stops_condition maxNesting (c :: after) g hread hnesting
      rw [hskip] at hs hstop
      rw [hs]
      refine hcondition.lift (balanced_of_blank hw).opens rfl ?_
      intro before e rest' hbefore hagain
      rw [hbefore] at hstop
      exact whole_of_error hw (stops_append_cons hstop rest') (by simp) hagain
    · split at h
      · cases h
      · obtain rfl := Except.error.inj h
        cases hnesting

end Criteria.Source

namespace Criteria.Condition

open Criteria.Source

/-- An error is told by the text before it and the reason. -/
theorem parse_of_whole_error {before rest : List Char} {reason : Reason}
    (h : whole (before ++ rest) = .error ⟨rest, reason⟩) :
    parse (String.ofList (before ++ rest)) = .error (.ofFailure before reason) := by
  refine parse_eq_error.mpr ⟨⟨rest, reason⟩, ?_, ?_⟩
  · rwa [String.toList_ofList]
  · rw [String.toList_ofList, List.length_append, Nat.add_sub_cancel, List.take_left]

/-- What a source that is refused for its nesting is: a text, the sign that opens an enclosure too
many, and anything. -/
theorem exists_of_nesting {source : String} {e : ParseError} (h : parse source = .error e)
    (hnesting : e.reason = .nesting) :
    ∃ before opened opener after, source.toList = before ++ Enclosure.opener opener :: after ∧
      Opens before opened ∧ opened.length = maxNesting ∧
      (∀ after', parse (String.ofList (before ++ opener.opener :: after')) = .error e) ∧
      e.offset = ParseError.byteCount before + 1 := by
  obtain ⟨f, hwhole, rfl⟩ := parse_eq_error.mp h
  obtain @⟨before, opened, opener, hs, hopens, hlength, hagain⟩ :=
    stops_whole source.toList f hwhole hnesting
  have htext : ∀ after', before ++ [opener.opener] ++ after' = before ++ opener.opener :: after' :=
    fun after' => by simp
  have hagain' : ∀ after', parse (String.ofList (before ++ opener.opener :: after')) =
      .error (.ofFailure (before ++ [opener.opener]) .nesting) := by
    intro after'
    have hread := hagain after'
    rw [← htext] at hread ⊢
    exact parse_of_whole_error hread
  have hsame : parse source = .error (.ofFailure (before ++ [opener.opener]) .nesting) := by
    rw [← hagain' f.rest, ← hs, String.ofList_toList]
  rw [h] at hsame
  rw [Except.error.inj hsame]
  refine ⟨before, opened, opener, f.rest, hs, hopens, hlength, hagain', ?_⟩
  have hbyte : opener.opener.utf8Size = 1 := by cases opener <;> rfl
  rw [ParseError.ofFailure, ParseError.byteCount_append, ParseError.byteCount,
    ParseError.byteCount, hbyte]

/-- **The limit on nesting is exact and final.**  A source that is refused for its nesting is
refused just behind a sign that would open an enclosure inside as many as there may be; whatever
stands behind that sign, the error is the same.  A source no point of which is enclosed by more
is never refused for its nesting. -/
theorem parse_nesting_error (source : String) :
    (∀ e, parse source = .error e → e.reason = .nesting →
      ∃ before opener after,
        source = before ++ (String.singleton (Enclosure.opener opener) ++ after) ∧
          before.utf8ByteSize + 1 = e.offset ∧
          (enclosing before.toList).length = maxNesting ∧
          ∀ other, parse (before ++ (String.singleton opener.opener ++ other)) = .error e) ∧
      ((∀ before after, source.toList = before ++ after →
          (enclosing before).length ≤ maxNesting) →
        ∀ e, parse source = .error e → e.reason ≠ .nesting) := by
  refine ⟨?_, ?_⟩
  · intro e h hnesting
    obtain ⟨before, opened, opener, after, hs, hopens, hlength, hagain, hoffset⟩ :=
      exists_of_nesting h hnesting
    have htext : ∀ rest, String.ofList before ++ (String.singleton opener.opener ++ rest) =
        String.ofList (before ++ opener.opener :: rest.toList) := by
      intro rest
      rw [← String.toList_inj]
      simp
    refine ⟨.ofList before, opener, .ofList after, ?_, ?_, ?_, ?_⟩
    · rw [htext, String.toList_ofList, ← hs, String.ofList_toList]
    · rw [← ParseError.byteCount_toList, String.toList_ofList, hoffset]
    · rw [String.toList_ofList, hopens.enclosing_eq, hlength]
    · intro other
      rw [htext]
      exact hagain other.toList
  · intro hdepth e h hnesting
    obtain ⟨before, opened, opener, after, hs, hopens, hlength, -, -⟩ :=
      exists_of_nesting h hnesting
    have hinside : Opens (before ++ [opener.opener]) (opener :: opened) :=
      hopens.append (opens_nil.opener_cons opener)
    have hpoint := hdepth (before ++ [opener.opener]) after (by simpa using hs)
    rw [hinside.enclosing_eq, List.length_cons, hlength] at hpoint
    exact absurd hpoint (Nat.not_succ_le_self maxNesting)

/-- A text with brackets in it, so many bodies with a group in each, and what is behind them. -/
def crowded (n : Nat) (rest : String) : String :=
  "a == \"(\x7b\" || " ++ (String.ofList (List.replicate n ['b', '{', '(']).flatten ++ rest)

/-- Thirty-two bodies and thirty-two groups are as many as there may be. -/
theorem parse_nesting_error_crowded :
    parse (crowded 32 "(\"") = .error ⟨110, 1, 111, .nesting⟩ ∧
      (∃ before opener after,
        crowded 32 "(\"" = before ++ (String.singleton (Enclosure.opener opener) ++ after) ∧
          before.utf8ByteSize + 1 = 110 ∧ (enclosing before.toList).length = maxNesting ∧
          ∀ other, parse (before ++ (String.singleton opener.opener ++ other)) =
            .error ⟨110, 1, 111, .nesting⟩) ∧
      (∀ before after, (crowded 32 "\"").toList = before ++ after →
        (enclosing before).length ≤ maxNesting) ∧
      ∀ e, parse (crowded 32 "\"") = .error e → e.reason ≠ .nesting := by
  have hparse : parse (crowded 32 "(\"") = .error ⟨110, 1, 111, .nesting⟩ := by
    -- errors compare, conditions do not
    refine (map_eq_error (g := fun _ => ())).mp ?_
    decide +kernel
  have hnesting : nesting (crowded 32 "\"").toList ≤ maxNesting := by decide +kernel
  have hpoints := nesting_le_iff.mp hnesting
  exact ⟨hparse, (parse_nesting_error _).1 _ hparse rfl, hpoints,
    (parse_nesting_error _).2 hpoints⟩

end Criteria.Condition
