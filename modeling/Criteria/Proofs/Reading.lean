/-
Reading decides the grammar.

Every text of the grammar is read to the condition that it says, wherever it may stand
and with as many levels as it is nested deep; and whatever a reader takes is a text of
the grammar that is nested no deeper than there are levels.  So a whole text reads just
when the grammar derives it and nothing in it is enclosed too often.

Readers differ in the blanks they leave: the keyword leaves what comes after it with its
blanks gone, every other primary leaves them.  Nothing that reads on can tell.
-/
import Criteria.Proofs.Grammar
import Criteria.ParseError

namespace Criteria.Source

open Criteria.Text

/-! ### What may follow -/

/-- Blanks, and then nothing or one of these signs. -/
def Follows (signs rest : List Char) : Prop :=
  ∀ c, (skipBlanks rest).head? = some c → c ∈ signs

private theorem Follows.mono {signs signs' rest : List Char} (h : Follows signs rest)
    (hsub : signs ⊆ signs') : Follows signs' rest :=
  fun c hc => hsub (h c hc)

/-- Blanks do not count. -/
theorem Follows.of_skipBlanks {signs rest rest' : List Char} (h : Follows signs rest)
    (heq : skipBlanks rest' = skipBlanks rest) : Follows signs rest' := by
  rw [Follows, heq]
  exact h

theorem follows_blank_cons {signs w rest : List Char} {c : Char} (hw : Blank w)
    (hc : isBlank c = false) (hmem : c ∈ signs) : Follows signs (w ++ c :: rest) := by
  intro d hd
  rw [skipBlanks_append hw, skipBlanks_of_stops (stops_cons.mpr hc)] at hd
  obtain rfl : c = d := Option.some.inj hd
  exact hmem

/-- What may follow a primary. -/
def afterPrimary : List Char := ['&', '|', ')', '}']

/-- What may follow a conjunction. -/
def afterConjunction : List Char := ['|', ')', '}']

/-- What may follow a disjunction. -/
def afterDisjunction : List Char := [')', '}']

theorem Follows.operandEnds {rest : List Char} (h : Follows afterPrimary rest) :
    OperandEnds rest := by
  obtain ⟨w, hw, hrest, _⟩ := exists_blank_append rest
  rw [hrest]
  apply OperandEnds.blank_append hw
  intro c hc
  have hall : afterPrimary.all isOperandEnd = true := rfl
  have hends : ∀ d ∈ afterPrimary, (!isOperandEnd d) = false := fun d hd =>
    congrArg not (List.all_eq_true.mp hall d hd)
  exact hends c (h c hc)

private theorem Follows.joiner?_eq_none {signs rest : List Char} {sign : Char}
    (h : Follows signs rest) (hsign : sign ∉ signs) : joiner? sign rest = none := by
  rw [joiner?.eq_def]
  split
  · next a b more hskip =>
    have ha : a ∈ signs := h a (by rw [hskip]; rfl)
    refine if_neg ?_
    rintro ⟨rfl, _⟩
    exact hsign ha
  · rfl

theorem joiner?_of_skipBlanks {sign : Char} {rest rest' : List Char}
    (h : skipBlanks rest' = skipBlanks rest) : joiner? sign rest' = joiner? sign rest := by
  rw [joiner?, joiner?, h]

theorem joiner?_blank_append {sign : Char} (hsign : isBlank sign = false) {w : List Char}
    (hw : Blank w) (after : List Char) :
    joiner? sign (w ++ sign :: sign :: after) = some after := by
  rw [joiner?, skipBlanks_append hw, skipBlanks_of_stops (stops_cons.mpr hsign)]
  exact if_pos ⟨rfl, rfl⟩

theorem joiner?_eq_some {sign : Char} {rest after : List Char}
    (h : joiner? sign rest = some after) :
    ∃ w, Blank w ∧ rest = w ++ sign :: sign :: after := by
  obtain ⟨w, hw, hrest, _⟩ := exists_blank_append rest
  rw [joiner?.eq_def] at h
  split at h
  · next a b more hskip =>
    split at h
    · next hab =>
      obtain ⟨rfl, rfl⟩ := hab
      obtain rfl : more = after := Option.some.inj h
      exact ⟨w, hw, by rw [← hskip]; exact hrest⟩
    · simp at h
  · simp at h

/-! ### Signs of comparisons -/

/-- A sign is read off the text that it opens, unless the text goes on with the second
character of a longer sign. -/
theorem operator?_append (op : CompareOp) {s : List Char} (hs : s.head? ≠ some '=') :
    operator? (op.symbol.toList ++ s) = some (op, s) := by
  cases op with
  | lt =>
      show operator? ('<' :: s) = _
      rw [operator?.eq_def]
      split <;> simp_all
  | gt =>
      show operator? ('>' :: s) = _
      rw [operator?.eq_def]
      split <;> simp_all
  | _ => rfl

theorem operator?_eq_some {op : CompareOp} {s rest : List Char}
    (h : operator? s = some (op, rest)) : s = op.symbol.toList ++ rest := by
  rw [operator?.eq_def] at h
  split at h <;> simp only [Option.some.injEq, Prod.mk.injEq, reduceCtorEq] at h <;>
    obtain ⟨rfl, rfl⟩ := h <;> rfl

/-! ### One step of a reader -/

/-- What stands inside an enclosure is read with one level less, where there is one. -/
def inside : Nat → Option (Reader Condition)
  | 0 => none
  | levels + 1 => some (condition levels)

theorem condition_eq (levels : Nat) :
    condition levels = disjunction (primary (inside levels)) := by
  cases levels <;> rfl

theorem mapError_eq_ok {ε ε' α : Type} {result : Except ε α} {f : ε → ε'} {a : α} :
    result.mapError f = .ok a ↔ result = .ok a := by
  cases result with
  | error e => exact ⟨nofun, nofun⟩
  | ok b => exact ⟨fun h => congrArg _ (Except.ok.inj h), fun h => congrArg _ (Except.ok.inj h)⟩

theorem expecting_eq_ok {α : Type} {read : Reader α} {e : Expectation} {s rest : List Char}
    {a : α} : read.expecting e s = .ok (a, rest) ↔ read s = .ok (a, rest) :=
  mapError_eq_ok

theorem closing_eq_ok {e : Enclosure} {s rest : List Char} :
    closing e s = .ok rest ↔ skipBlanks s = e.closer :: rest := by
  rw [closing.eq_def]
  split
  · next hskip => simp [hskip]
  · next c after hskip =>
    rw [hskip]
    split
    · next hc => simp [hc]
    · next hc => simp [hc]

theorem closed_eq_ok {e : Enclosure} {read : Reader Condition} {s left : List Char}
    {c : Condition} :
    closed e read s = .ok (c, left) ↔
      ∃ rest, read s = .ok (c, rest) ∧ skipBlanks rest = e.closer :: left := by
  simp only [← closing_eq_ok, closed]
  cases read s with
  | error f => simp
  | ok r =>
      obtain ⟨d, rest⟩ := r
      constructor
      · intro h
        cases hclose : closing e rest with
        | error f => simp [hclose] at h
        | ok left' =>
            simp only [hclose, Except.ok.injEq, Prod.mk.injEq] at h
            obtain ⟨rfl, rfl⟩ := h
            exact ⟨rest, rfl, hclose⟩
      · rintro ⟨rest', h, hclose⟩
        obtain ⟨rfl, rfl⟩ := Prod.mk.inj (Except.ok.inj h)
        simp only [hclose]

/-- An enclosure is read when there is a level left for it, what it holds is read, and the
closing sign comes next. -/
theorem enclosed_eq_ok {e : Enclosure} {inner : Option (Reader Condition)}
    {s left : List Char} {c : Condition} :
    enclosed e inner s = .ok (c, left) ↔
      ∃ read rest, inner = some read ∧ read s = .ok (c, rest) ∧
        skipBlanks rest = e.closer :: left := by
  cases inner with
  | none => simp [enclosed]
  | some read => simp [enclosed, expecting_eq_ok, closed_eq_ok]

/-- What is made of something that was read. -/
theorem map_eq_ok {α β : Type} {r : Except Failure (α × List Char)} {f : α → β} {b : β}
    {rest : List Char} :
    r.map (Prod.map f id) = .ok (b, rest) ↔ ∃ a, r = .ok (a, rest) ∧ f a = b := by
  cases r with
  | error e => simp [Except.map]
  | ok r =>
      obtain ⟨a, left⟩ := r
      constructor
      · intro h
        obtain ⟨rfl, rfl⟩ := Prod.mk.inj (Except.ok.inj h)
        exact ⟨a, rfl, rfl⟩
      · rintro ⟨_, h, rfl⟩
        obtain ⟨rfl, rfl⟩ := Prod.mk.inj (Except.ok.inj h)
        rfl

theorem conjunction_eq_ok {operand : Reader Condition} {s rest : List Char} {c : Condition} :
    conjunction operand s = .ok (c, rest) ↔
      ∃ parts, chain '&' operand s = .ok (parts, rest) ∧ join .conjunction parts = c := by
  rw [← map_eq_ok, conjunction]
  cases chain '&' operand s <;> rfl

theorem disjunction_eq_ok {operand : Reader Condition} {s rest : List Char} {c : Condition} :
    disjunction operand s = .ok (c, rest) ↔
      ∃ parts, chain '|' (conjunction operand) s = .ok (parts, rest) ∧
        join .disjunction parts = c := by
  rw [← map_eq_ok, disjunction]
  cases chain '|' (conjunction operand) s <;> rfl

section

variable {α : Type} {sign : Char} {operand : Reader α} {s rest : List Char} {a : α}

private theorem chain_last (h : operand s = .ok (a, rest)) (hnone : joiner? sign rest = none) :
    chain sign operand s = .ok ([a], rest) := by
  rw [chain, h]
  simp only [hnone]

private theorem chain_next {after left : List Char} {as : List α} (h : operand s = .ok (a, rest))
    (hsome : joiner? sign rest = some after) (hlt : after.length < s.length)
    (hmore : chain sign operand after = .ok (as, left)) :
    chain sign operand s = .ok (a :: as, left) := by
  rw [chain, h]
  simp only [hsome, dif_pos hlt, hmore]

/-- A chain has a first operand. -/
theorem exists_operand_of_chain {left : List Char} {as : List α}
    (h : chain sign operand s = .ok (as, left)) : ∃ a rest, operand s = .ok (a, rest) := by
  rw [chain] at h
  split at h
  · simp at h
  · next a rest hread => exact ⟨a, rest, hread⟩

end

theorem bare_of_name {inner : Option (Reader Condition)} {s rest : List Char} {name : String}
    (h : name? s = some (name, rest)) :
    bare inner s = afterName inner name (skipBlanks rest) := by
  rw [bare.eq_def]
  split
  · exact absurd h (by rw [name?, segment?_eq_none (stops_cons.mpr (by decide))]; simp)
  · simp only [h]

theorem afterName_of_operator {inner : Option (Reader Condition)} {name : String}
    {s rest : List Char} {op : CompareOp} (h : operator? s = some (op, rest)) :
    afterName inner name s = compared name op rest := by
  rw [afterName.eq_def]
  split
  · exact absurd h (by rw [operator?.eq_def]; simp)
  · simp only [h]

theorem compared_eq_ok {name : String} {op : CompareOp} {s rest : List Char} {c : Condition} :
    compared name op s = .ok (c, rest) ↔
      ∃ v, literal (skipBlanks s) = .ok (v, rest) ∧ .compare name op v = c := by
  have h : compared name op s =
      (Reader.expecting literal .literal (skipBlanks s)).map (Prod.map (.compare name op) id) := by
    rw [compared]
    cases Reader.expecting literal .literal (skipBlanks s) <;> rfl
  rw [h, map_eq_ok]
  simp only [expecting_eq_ok]

/-! ### Every text of the grammar is read -/

/-- A text closes what it opens, and wherever one of these signs or nothing follows it, a
reader with enough levels takes it, blanks before it and maybe blanks after it. -/
def Taken {α : Type} (signs : List Char) (read : Nat → Reader α) (t : List Char) (a : α) :
    Prop :=
  ∃ d, Balanced t d ∧ ∀ levels, d ≤ levels → ∀ w rest, Blank w → Follows signs rest →
    ∃ rest', read levels (w ++ (t ++ rest)) = .ok (a, rest') ∧
      skipBlanks rest' = skipBlanks rest

/-- Reads a primary with so many levels. -/
def primaryAt (levels : Nat) : Reader Condition := primary (inside levels)

/-- Reads primaries joined by `&&`. -/
def conjunctsAt (levels : Nat) : Reader (List Condition) := chain '&' (primaryAt levels)

/-- Reads conjunctions joined by `||`. -/
def disjunctsAt (levels : Nat) : Reader (List Condition) :=
  chain '|' (conjunction (primaryAt levels))

theorem primaryAt_eq_ok {levels : Nat} {w s rest : List Char} {c : Condition}
    (hw : Blank w) (hs : Stops isBlank s) :
    primaryAt levels (w ++ s) = .ok (c, rest) ↔ bare (inside levels) s = .ok (c, rest) := by
  rw [primaryAt, primary, expecting_eq_ok, skipBlanks_append hw, skipBlanks_of_stops hs]

theorem condition_eq_ok {levels : Nat} {s rest : List Char} {c : Condition} :
    condition levels s = .ok (c, rest) ↔
      ∃ cs, disjunctsAt levels s = .ok (cs, rest) ∧ join .disjunction cs = c := by
  rw [condition_eq, disjunction_eq_ok]
  rfl

/-- A name ends before blanks and a character that no name goes on with. -/
theorem nameEnds_blank_cons {w rest : List Char} {c : Char} (hw : Blank w)
    (hc : isSegmentChar c = false) (hdot : c ≠ '.') : NameEnds (w ++ c :: rest) := by
  cases w with
  | nil =>
      refine ⟨stops_cons.mpr hc, fun more hmore => ?_⟩
      exact absurd (List.cons.inj hmore).1 hdot
  | cons b w =>
      have hb := hw b List.mem_cons_self
      refine ⟨stops_cons.mpr ?_, fun more hmore => ?_⟩
      · cases hseg : isSegmentChar b with
        | false => rfl
        | true =>
            have := (isNumericChar_spec (isNumericChar_of_isSegmentChar hseg)).2.2.1
            rw [hb] at this
            exact absurd this.symm Bool.false_ne_true
      · obtain rfl : b = '.' := (List.cons.inj hmore).1
        exact absurd hb (by decide)

/-- Behind a name, blanks and a character that no name goes on with. -/
theorem name?_blank_cons {n w rest : List Char} {c : Char} (hn : isName n = true)
    (hw : Blank w) (hc : isSegmentChar c = false) (hdot : c ≠ '.') :
    name? (n ++ (w ++ c :: rest)) = some (String.ofList n, w ++ c :: rest) :=
  name?_append hn (nameEnds_blank_cons hw hc hdot)

theorem stops_isBlank_name {n rest : List Char} (hn : isName n = true) :
    Stops isBlank (n ++ rest) := by
  obtain ⟨c, more, rfl, hc⟩ := isName_cons hn
  exact stops_cons.mpr (isBlank_of_isSegmentStart hc).1

theorem taken_alwaysTrue : Taken afterPrimary primaryAt "true".toList .alwaysTrue := by
  have hname : isName "true".toList = true := by decide
  refine ⟨0, balanced_of_isName hname, ?_⟩
  intro levels _ w rest hw hrest
  refine ⟨skipBlanks rest, ?_, skipBlanks_of_stops (exists_blank_append rest).choose_spec.2.2⟩
  rw [primaryAt_eq_ok hw (stops_isBlank_name hname),
    bare_of_name (name?_append hname hrest.operandEnds.nameEnds)]
  -- nothing that may follow a primary opens an enclosure or a comparison
  generalize hs : skipBlanks rest = s
  rw [Follows, hs] at hrest
  cases s with
  | nil => rfl
  | cons c s =>
      have hc : c ∈ afterPrimary := hrest c rfl
      simp only [afterPrimary, List.mem_cons, List.not_mem_nil, or_false] at hc
      rcases hc with rfl | rfl | rfl | rfl <;> rfl

theorem symbol_cons (op : CompareOp) :
    ∃ c rest, op.symbol.toList = c :: rest ∧ isBlank c = false := by
  cases op <;> exact ⟨_, _, rfl, by decide⟩

theorem taken_compare {n w w' t : List Char} {v : Value} (op : CompareOp)
    (hn : LongestName n (w ++ (op.symbol.toList ++ (w' ++ t)))) (hw : Blank w)
    (hw' : Blank w') (ht : IsLiteral t v) :
    Taken afterPrimary primaryAt (n ++ (w ++ (op.symbol.toList ++ (w' ++ t))))
      (.compare (String.ofList n) op v) := by
  obtain ⟨hname, hends⟩ := longestName_iff.mp hn
  refine ⟨0, balanced_compare op hname hw hw' ht, ?_⟩
  intro levels _ w₀ rest hw₀ hrest
  refine ⟨rest, ?_, rfl⟩
  obtain ⟨c, more, hopen, hc, heq⟩ := ht.opens
  obtain ⟨a, sym, hsym, ha⟩ := symbol_cons op
  have hends' : NameEnds (w ++ (op.symbol.toList ++ (w' ++ t)) ++ rest) := by
    apply hends.append
    simp only [hopen, hsym, List.length_append, List.length_cons]
    omega
  have hop : operator? (op.symbol.toList ++ (w' ++ t ++ rest)) =
      some (op, w' ++ t ++ rest) := by
    apply operator?_append
    intro hhead
    cases w' with
    | nil =>
        rw [hopen] at hhead
        exact heq (Option.some.inj hhead)
    | cons b w' =>
        have hb := hw' b List.mem_cons_self
        rw [show b = '=' from Option.some.inj hhead] at hb
        exact absurd hb (by decide)
  have hafter : skipBlanks (w ++ (op.symbol.toList ++ (w' ++ t)) ++ rest) =
      op.symbol.toList ++ (w' ++ t ++ rest) := by
    rw [List.append_assoc, List.append_assoc]
    exact skipBlanks_append_cons hw ⟨a, sym, hsym, ha⟩
  rw [List.append_assoc, primaryAt_eq_ok hw₀ (stops_isBlank_name hname),
    bare_of_name (name?_append hname hends'), hafter, afterName_of_operator hop,
    compared_eq_ok]
  refine ⟨v, ?_, rfl⟩
  rw [List.append_assoc, skipBlanks_append_cons hw' ⟨c, more, hopen, hc⟩]
  exact ht.reads rest hrest.operandEnds

/-- What an enclosure holds is read with the levels that are left. -/
theorem enclosed_of_taken {t w w' : List Char} {cs : List Condition}
    {d levels : Nat} (e : Enclosure) (rest : List Char)
    (htake : ∀ levels, d ≤ levels → ∀ w rest, Blank w → Follows afterDisjunction rest →
      ∃ rest', disjunctsAt levels (w ++ (t ++ rest)) = .ok (cs, rest') ∧
        skipBlanks rest' = skipBlanks rest)
    (hd : d + 1 ≤ levels) (hw : Blank w) (hw' : Blank w') :
    enclosed e (inside levels) (w ++ t ++ w' ++ e.closer :: rest) =
      .ok (join .disjunction cs, rest) := by
  have hclose : isBlank e.closer = false ∧ e.closer ∈ afterDisjunction := by
    cases e <;> decide
  obtain ⟨levels, rfl⟩ : ∃ n, levels = n + 1 := ⟨levels - 1, by omega⟩
  obtain ⟨rest', hread, hskip⟩ := htake levels (by omega) w (w' ++ e.closer :: rest) hw
    (follows_blank_cons hw' hclose.1 hclose.2)
  rw [skipBlanks_append hw', skipBlanks_of_stops (stops_cons.mpr hclose.1)] at hskip
  rw [enclosed_eq_ok]
  refine ⟨condition levels, rest', rfl, ?_, hskip⟩
  rw [condition_eq_ok, List.append_assoc, List.append_assoc]
  exact ⟨cs, hread, rfl⟩

theorem taken_within {n w w' t w'' : List Char} {cs : List Condition} (hn : isName n = true)
    (hw : Blank w) (hw' : Blank w') (ht : Taken afterDisjunction disjunctsAt t cs)
    (hw'' : Blank w'') :
    Taken afterPrimary primaryAt (n ++ (w ++ ('{' :: (w' ++ t ++ w'') ++ ['}'])))
      (.within (String.ofList n) (join .disjunction cs)) := by
  obtain ⟨d, hbal, htake⟩ := ht
  refine ⟨d + 1, balanced_within hn hw hw' hbal hw'', ?_⟩
  intro levels hd w₀ rest hw₀ _
  refine ⟨rest, ?_, rfl⟩
  have hinner := enclosed_of_taken .braces rest htake hd hw' hw''
  have htext : n ++ (w ++ ('{' :: (w' ++ t ++ w'') ++ ['}'])) ++ rest =
      n ++ (w ++ '{' :: (w' ++ t ++ w'' ++ '}' :: rest)) := by simp
  rw [htext, primaryAt_eq_ok hw₀ (stops_isBlank_name hn),
    bare_of_name (name?_blank_cons hn hw (by decide) (by decide)),
    skipBlanks_append hw, skipBlanks_of_stops (stops_cons.mpr (by decide)), afterName.eq_1,
    show '}' = Enclosure.braces.closer from rfl, hinner]

theorem taken_group {w t w' : List Char} {cs : List Condition} (hw : Blank w)
    (ht : Taken afterDisjunction disjunctsAt t cs) (hw' : Blank w') :
    Taken afterPrimary primaryAt ('(' :: (w ++ t ++ w') ++ [')']) (join .disjunction cs) := by
  obtain ⟨d, hbal, htake⟩ := ht
  refine ⟨d + 1, hbal.enclose_blank hw hw' .parentheses, ?_⟩
  intro levels hd w₀ rest hw₀ _
  refine ⟨rest, ?_, rfl⟩
  have hinner := enclosed_of_taken .parentheses rest htake hd hw hw'
  have htext : '(' :: (w ++ t ++ w') ++ [')'] ++ rest =
      '(' :: (w ++ t ++ w' ++ ')' :: rest) := by simp
  rw [htext, primaryAt_eq_ok hw₀ (stops_cons.mpr (by decide)), bare.eq_1]
  exact hinner

section

variable {α : Type} {sign : Char} {signs signs' : List Char} {operand : Nat → Reader α}

/-- The last operand of a chain. -/
theorem Taken.chain_one {t : List Char} {a : α} (h : Taken signs operand t a)
    (hsub : signs' ⊆ signs) (hsign : sign ∉ signs') :
    Taken signs' (fun levels => chain sign (operand levels)) t [a] := by
  obtain ⟨d, hbal, htake⟩ := h
  refine ⟨d, hbal, ?_⟩
  intro levels hd w rest hw hrest
  obtain ⟨rest', hread, hskip⟩ := htake levels hd w rest hw (hrest.mono hsub)
  exact ⟨rest', chain_last hread ((hrest.of_skipBlanks hskip).joiner?_eq_none hsign), hskip⟩

/-- An operand that a joining sign and the rest of the chain follow. -/
theorem Taken.chain_more {t w w' u : List Char} {a : α} {as : List α}
    (ht : Taken signs operand t a) (hsign : sign ∈ signs) (hblank : isBlank sign = false)
    (hquiet : isQuiet sign = true) (hw : Blank w) (hw' : Blank w')
    (hu : Taken signs' (fun levels => chain sign (operand levels)) u as) :
    Taken signs' (fun levels => chain sign (operand levels))
      (t ++ (w ++ sign :: sign :: (w' ++ u))) (a :: as) := by
  obtain ⟨d, hbal, htake⟩ := ht
  obtain ⟨e, hbal', htake'⟩ := hu
  refine ⟨max d e, hbal.joined hbal' hw hw' hquiet, ?_⟩
  intro levels hlevels w₀ rest hw₀ hrest
  obtain ⟨mid, hread, hmid⟩ := htake levels (by omega) w₀
    (w ++ sign :: sign :: (w' ++ (u ++ rest))) hw₀ (follows_blank_cons hw hblank hsign)
  obtain ⟨rest', hmore, hskip⟩ := htake' levels (by omega) w' rest hw' hrest
  have htext : w₀ ++ (t ++ (w ++ sign :: sign :: (w' ++ u)) ++ rest) =
      w₀ ++ (t ++ (w ++ sign :: sign :: (w' ++ (u ++ rest)))) := by simp
  refine ⟨rest', ?_, hskip⟩
  rw [htext]
  apply chain_next hread ((joiner?_of_skipBlanks hmid).trans (joiner?_blank_append hblank hw _))
  · simp only [List.length_append, List.length_cons]
    omega
  · exact hmore

end

theorem Taken.conjunction {t : List Char} {cs : List Condition}
    (h : Taken afterConjunction conjunctsAt t cs) :
    Taken afterConjunction (fun levels => conjunction (primaryAt levels)) t
      (join .conjunction cs) := by
  obtain ⟨d, hbal, htake⟩ := h
  refine ⟨d, hbal, ?_⟩
  intro levels hd w rest hw hrest
  obtain ⟨rest', hread, hskip⟩ := htake levels hd w rest hw hrest
  exact ⟨rest', conjunction_eq_ok.mpr ⟨cs, hread, rfl⟩, hskip⟩

mutual

theorem Primary.taken {t : List Char} {c : Condition} :
    Primary t c → Taken afterPrimary primaryAt t c
  | .alwaysTrue => taken_alwaysTrue
  | .compare op hn hw hw' ht => taken_compare op hn hw hw' (isLiteral_iff.mpr ht)
  | .within hn hw hw' ht hw'' => taken_within hn hw hw' ht.taken hw''
  | .group hw ht hw' => taken_group hw ht.taken hw'

theorem Conjuncts.taken {t : List Char} {cs : List Condition} :
    Conjuncts t cs → Taken afterConjunction conjunctsAt t cs
  | .one ht => ht.taken.chain_one (by decide) (by decide)
  | .more ht hw hw' hu =>
      ht.taken.chain_more (by decide) (by decide) (by decide) hw hw' hu.taken

theorem Disjuncts.taken {t : List Char} {cs : List Condition} :
    Disjuncts t cs → Taken afterDisjunction disjunctsAt t cs
  | .one ht => ht.taken.conjunction.chain_one (by decide) (by decide)
  | .more ht hw hw' hu =>
      ht.taken.conjunction.chain_more (by decide) (by decide) (by decide) hw hw' hu.taken

end

/-! ### Whatever is read is a text of the grammar -/

/-- What a reader takes of a text: a part that the grammar knows, nested no deeper than
there are levels, with blanks before it and maybe after it. -/
inductive Found {α : Type} (Item : List Char → α → Prop) (levels : Nat) (s : List Char)
    (a : α) (rest : List Char) : Prop where
  | intro {w t w' : List Char} {d : Nat} (hs : s = w ++ (t ++ (w' ++ rest))) (hw : Blank w)
      (hw' : Blank w') (ht : Item t a) (hbal : Balanced t d) (hd : d ≤ levels)

theorem Found.map {α β : Type} {Item : List Char → α → Prop} {Item' : List Char → β → Prop}
    {levels : Nat} {s rest : List Char} {a : α} {b : β} (h : Found Item levels s a rest)
    (himp : ∀ t, Item t a → Item' t b) : Found Item' levels s b rest := by
  obtain ⟨hs, hw, hw', ht, hbal, hd⟩ := h
  exact ⟨hs, hw, hw', himp _ ht, hbal, hd⟩

/-- Blanks in front. -/
theorem Found.blank_append {α : Type} {Item : List Char → α → Prop} {levels : Nat}
    {v s rest : List Char} {a : α} (h : Found Item levels s a rest) (hv : Blank v) :
    Found Item levels (v ++ s) a rest := by
  obtain ⟨hs, hw, hw', ht, hbal, hd⟩ := h
  refine ⟨?_, hv.append hw, hw', ht, hbal, hd⟩
  rw [hs, List.append_assoc]

/-- Blanks that were left may be taken as well. -/
theorem Found.skip {α : Type} {Item : List Char → α → Prop} {levels : Nat}
    {s rest : List Char} {a : α} (h : Found Item levels s a rest) :
    Found Item levels s a (skipBlanks rest) := by
  obtain ⟨hs, hw, hw', ht, hbal, hd⟩ := h
  obtain ⟨v, hv, hrest, _⟩ := exists_blank_append rest
  refine ⟨?_, hw, hw'.append hv, ht, hbal, hd⟩
  rw [hs, List.append_assoc _ v, ← hrest]

/-- An operand of a chain, a joining sign, and the rest of the chain. -/
theorem Found.joined {α : Type} {sign : Char} {levels : Nat} {Item : List Char → α → Prop}
    {Items : List Char → List α → Prop} (hquiet : isQuiet sign = true)
    (more : ∀ t w w' u a as, Item t a → Blank w → Blank w' → Items u as →
      Items (t ++ (w ++ sign :: sign :: (w' ++ u))) (a :: as))
    {s v after rest : List Char} {a : α} {as : List α}
    (h : Found Item levels s a (v ++ sign :: sign :: after)) (hv : Blank v)
    (hafter : Found Items levels after as rest) : Found Items levels s (a :: as) rest := by
  obtain ⟨hs, hw, hw', ht, hbal, hd⟩ := h
  obtain ⟨htext, hu, hu', hitems, hbal', hd'⟩ := hafter
  refine ⟨?_, hw, hu', more _ _ _ _ a as ht (hw'.append hv) hu hitems,
    hbal.joined hbal' (hw'.append hv) hu hquiet, Nat.max_le.mpr ⟨hd, hd'⟩⟩
  rw [hs, htext]
  simp

/-- A chain of what a reader finds, where operands and what they make satisfy the two rules
of a chain. -/
theorem found_chain {α : Type} {sign : Char} {operand : Reader α} {levels : Nat}
    {Item : List Char → α → Prop} {Items : List Char → List α → Prop}
    (hquiet : isQuiet sign = true)
    (one : ∀ t a, Item t a → Items t [a])
    (more : ∀ t w w' u a as, Item t a → Blank w → Blank w' → Items u as →
      Items (t ++ (w ++ sign :: sign :: (w' ++ u))) (a :: as))
    (hoperand : ∀ s a rest, operand s = .ok (a, rest) → Found Item levels s a rest)
    {s rest : List Char} {as : List α} (h : chain sign operand s = .ok (as, rest)) :
    Found Items levels s as rest := by
  fun_induction chain sign operand s generalizing as rest with
  | case1 s f hread => simp at h
  | case2 s a left hread hnone =>
      obtain ⟨rfl, rfl⟩ := Prod.mk.inj (Except.ok.inj h)
      exact (hoperand s a left hread).map fun t ht => one t a ht
  | case3 s a left hread after hsome hlt f hmore ih => simp at h
  | case4 s a left hread after hsome hlt as' left' hmore ih =>
      obtain ⟨rfl, rfl⟩ := Prod.mk.inj (Except.ok.inj h)
      obtain ⟨v, hv, rfl⟩ := joiner?_eq_some hsome
      exact (hoperand s a _ hread).joined hquiet more hv (ih hmore)
  | case5 s a left hread after hsome hlt =>
      obtain ⟨rfl, rfl⟩ := Prod.mk.inj (Except.ok.inj h)
      exact (hoperand s a left hread).map fun t ht => one t a ht

/-- A text says a condition by its disjuncts. -/
def Says (t : List Char) (c : Condition) : Prop :=
  ∃ cs, Disjuncts t cs ∧ join .disjunction cs = c

/-- A text says a condition by its conjuncts alone. -/
def SaysJoined (t : List Char) (c : Condition) : Prop :=
  ∃ cs, Conjuncts t cs ∧ join .conjunction cs = c

theorem disjuncts_one {t : List Char} {c : Condition} (h : SaysJoined t c) :
    Disjuncts t [c] := by
  obtain ⟨cs, ht, rfl⟩ := h
  exact .one ht

theorem disjuncts_more {t w w' u : List Char} {c : Condition} {ds : List Condition}
    (h : SaysJoined t c) (hw : Blank w) (hw' : Blank w') (hu : Disjuncts u ds) :
    Disjuncts (t ++ (w ++ '|' :: '|' :: (w' ++ u))) (c :: ds) := by
  obtain ⟨cs, ht, rfl⟩ := h
  exact .more ht hw hw' hu

/-- Whatever is read with a level less says the condition that it is read to. -/
def FoundInside (levels : Nat) : Prop :=
  ∀ k, levels = k + 1 → ∀ s c rest, condition k s = .ok (c, rest) → Found Says k s c rest

theorem found_enclosed {e : Enclosure} {levels : Nat} {s left : List Char} {c : Condition}
    (hinner : FoundInside levels) (h : enclosed e (inside levels) s = .ok (c, left)) :
    ∃ k, levels = k + 1 ∧ Found Says k s c (e.closer :: left) := by
  obtain ⟨read, rest, hlevel, hread, hskip⟩ := enclosed_eq_ok.mp h
  cases levels with
  | zero => simp [inside] at hlevel
  | succ k =>
      obtain rfl : condition k = read := Option.some.inj hlevel
      refine ⟨k, rfl, ?_⟩
      rw [← hskip]
      exact (hinner k rfl s c rest hread).skip

section

variable {n v s rest : List Char} {levels : Nat} {c : Condition}

/-- A name, a sign and a literal are a primary. -/
theorem Found.compare {x : Value} (op : CompareOp) (h : Found IsLiteral levels s x rest)
    (hn : isName n = true) (hv : Blank v) (hends : NameEnds (v ++ (op.symbol.toList ++ s))) :
    Found Primary levels (n ++ (v ++ (op.symbol.toList ++ s)))
      (.compare (String.ofList n) op x) rest := by
  obtain @⟨w, t, w', d, hs, hw, hw', ht, -, -⟩ := h
  have htext : v ++ (op.symbol.toList ++ s) =
      v ++ (op.symbol.toList ++ (w ++ t)) ++ (w' ++ rest) := by simp [hs]
  rw [htext] at hends ⊢
  have hlong := longestName_iff.mpr ⟨hn, hends.of_append⟩
  refine ⟨?_, blank_nil, hw', .compare op hlong hv hw (isLiteral_iff.mp ht),
    balanced_compare op hn hv hw ht, Nat.zero_le _⟩
  simp

/-- A name and what braces hold are a primary, one level up. -/
theorem Found.within (h : Found Says levels s c ('}' :: rest)) (hn : isName n = true)
    (hv : Blank v) :
    Found Primary (levels + 1) (n ++ (v ++ '{' :: s)) (.within (String.ofList n) c) rest := by
  obtain ⟨hs, hw, hw', ⟨cs, ht, rfl⟩, hbal, hd⟩ := h
  refine ⟨?_, blank_nil, blank_nil, .within hn hv hw ht hw',
    balanced_within hn hv hw hbal hw', Nat.succ_le_succ hd⟩
  simp [hs]

/-- What parentheses hold is a primary, one level up. -/
theorem Found.group (h : Found Says levels s c (')' :: rest)) :
    Found Primary (levels + 1) ('(' :: s) c rest := by
  obtain ⟨hs, hw, hw', ⟨cs, ht, rfl⟩, hbal, hd⟩ := h
  refine ⟨?_, blank_nil, blank_nil, .group hw ht hw',
    hbal.enclose_blank hw hw' .parentheses, Nat.succ_le_succ hd⟩
  simp [hs]

end

/-- What follows a name, and with the name is a primary. -/
theorem found_afterName {n left rest : List Char} {levels : Nat} {c : Condition}
    (hinner : FoundInside levels) (hn : isName n = true) (hends : NameEnds left)
    (h : afterName (inside levels) (String.ofList n) (skipBlanks left) = .ok (c, rest)) :
    Found Primary levels (n ++ left) c rest := by
  obtain ⟨v, hv, hleft, _⟩ := exists_blank_append left
  rw [afterName.eq_def] at h
  split at h
  · next after hskip =>
    rw [hskip] at hleft
    split at h
    · simp at h
    · next body left' hread =>
      obtain ⟨rfl, rfl⟩ := Prod.mk.inj (Except.ok.inj h)
      obtain ⟨k, rfl, hbody⟩ := found_enclosed hinner hread
      rw [hleft]
      exact hbody.within hn hv
  · split at h
    · next op after hop =>
      obtain ⟨x, hread, rfl⟩ := compared_eq_ok.mp h
      obtain ⟨t, hafter, ht⟩ := literal_eq_ok hread
      obtain ⟨w, hw, hspace, _⟩ := exists_blank_append after
      rw [operator?_eq_some hop] at hleft
      rw [hafter] at hspace
      rw [hleft] at hends ⊢
      exact Found.compare op ⟨hspace, hw, blank_nil, ht, ht.balanced, Nat.zero_le _⟩ hn hv hends
    · split at h
      · next htrue =>
        obtain ⟨rfl, rfl⟩ := Prod.mk.inj (Except.ok.inj h)
        have hn' : n = "true".toList := by rw [← htrue, String.toList_ofList]
        subst hn'
        refine ⟨?_, blank_nil, hv, .alwaysTrue, balanced_of_isName hn, Nat.zero_le _⟩
        rw [← hleft]
        rfl
      · simp at h

theorem found_primary {levels : Nat} (hinner : FoundInside levels)
    (s : List Char) (c : Condition) (rest : List Char)
    (h : primaryAt levels s = .ok (c, rest)) : Found Primary levels s c rest := by
  obtain ⟨w, hw, hs, hstop⟩ := exists_blank_append s
  rw [hs] at h ⊢
  refine Found.blank_append ?_ hw
  have hbare := (primaryAt_eq_ok hw hstop).mp h
  rw [bare.eq_def] at hbare
  split at hbare
  · next after hskip =>
    obtain ⟨k, rfl, hbody⟩ := found_enclosed hinner hbare
    rw [hskip]
    exact hbody.group
  · split at hbare
    · simp at hbare
    · next name left hname =>
      obtain ⟨n, rfl, hskip, hn, hends⟩ := name?_eq_some hname
      rw [hskip]
      exact found_afterName hinner hn hends hbare

/-- What is read as primaries joined by `&&`. -/
theorem found_conjuncts {levels : Nat} (hinner : FoundInside levels) (s : List Char)
    (cs : List Condition) (rest : List Char) (h : conjunctsAt levels s = .ok (cs, rest)) :
    Found Conjuncts levels s cs rest :=
  found_chain (by decide) (fun _ _ ht => .one ht)
    (fun _ _ _ _ _ _ ht hw hw' hu => .more ht hw hw' hu) (found_primary hinner) h

theorem found_conjunction {levels : Nat} (hinner : FoundInside levels) (s : List Char)
    (c : Condition) (rest : List Char)
    (h : conjunction (primaryAt levels) s = .ok (c, rest)) :
    Found SaysJoined levels s c rest := by
  obtain ⟨cs, hread, hjoin⟩ := conjunction_eq_ok.mp h
  exact (found_conjuncts hinner s cs rest hread).map fun t ht => ⟨cs, ht, hjoin⟩

/-- What is read as conjunctions joined by `||`. -/
theorem found_disjuncts {levels : Nat} (hinner : FoundInside levels) (s : List Char)
    (cs : List Condition) (rest : List Char) (h : disjunctsAt levels s = .ok (cs, rest)) :
    Found Disjuncts levels s cs rest := by
  refine found_chain (by decide) ?_ ?_ (found_conjunction hinner) h
  · exact fun _ _ => disjuncts_one
  · exact fun _ _ _ _ _ _ => disjuncts_more

/-- One level more: what is read says what it is read to, if this holds inside of it. -/
theorem found_step {levels : Nat} (hinner : FoundInside levels)
    (s : List Char) (c : Condition) (rest : List Char)
    (h : condition levels s = .ok (c, rest)) : Found Says levels s c rest := by
  obtain ⟨ds, hread, rfl⟩ := condition_eq_ok.mp h
  exact (found_disjuncts hinner s ds rest hread).map fun t ht => ⟨ds, ht, rfl⟩

/-- Whatever is read with so many levels says the condition that it is read to. -/
theorem found_condition (levels : Nat) (s : List Char) (c : Condition) (rest : List Char)
    (h : condition levels s = .ok (c, rest)) : Found Says levels s c rest := by
  induction levels generalizing s c rest with
  | zero => exact found_step (fun k hk => absurd hk (Nat.succ_ne_zero k).symm) s c rest h
  | succ levels ih =>
      refine found_step (fun k hk => ?_) s c rest h
      obtain rfl : levels = k := Nat.succ.inj hk
      exact ih

/-! ### Whole texts -/

/-- A text that the grammar derives is read with as many levels as it is nested deep. -/
theorem Derives.condition_eq_ok {s : List Char} {c : Condition} (h : Derives s c)
    {levels : Nat} (hlevels : nesting s ≤ levels) :
    ∃ left, condition levels (skipBlanks s) = .ok (c, left) ∧ Blank left := by
  obtain ⟨hw, ht, hw'⟩ := h
  rename_i w t w' cs
  obtain ⟨d, hbal, htake⟩ := ht.taken
  have hwhole := ((balanced_of_blank hw).zero_append hbal).append_zero (balanced_of_blank hw')
  rw [hwhole.nesting_eq] at hlevels
  have hfollows : Follows afterDisjunction w' := by
    intro c hc
    rw [skipBlanks_eq_nil hw'] at hc
    simp at hc
  obtain ⟨left, hread, hskip⟩ := htake levels hlevels [] w' blank_nil hfollows
  rw [List.append_assoc, skipBlanks_append_cons hw ht.cons]
  refine ⟨left, Source.condition_eq_ok.mpr ⟨cs, hread, rfl⟩, ?_⟩
  obtain ⟨v, hv, hleft, _⟩ := exists_blank_append left
  rw [hskip, skipBlanks_eq_nil hw', List.append_nil] at hleft
  rw [hleft]
  exact hv

theorem Says.derives {t : List Char} {c : Condition} (h : Says t c) : Derives t c := by
  obtain ⟨cs, ht, rfl⟩ := h
  have hwhole := Derives.intro blank_nil ht blank_nil
  rwa [List.nil_append, List.append_nil] at hwhole

/-- What is found with nothing left is a whole text. -/
theorem Found.derives {levels : Nat} {s : List Char} {c : Condition}
    (h : Found Says levels s c []) : Derives s c ∧ nesting s ≤ levels := by
  obtain ⟨rfl, hw, hw', ⟨cs, ht, rfl⟩, hbal, hd⟩ := h
  rename_i w t w' d
  have hnest := ((balanced_of_blank hw).zero_append hbal).append_zero (balanced_of_blank hw')
  rw [List.append_nil, ← List.append_assoc, hnest.nesting_eq]
  exact ⟨.intro hw ht hw', hd⟩

theorem Derives.skipBlanks_ne_nil {s : List Char} {c : Condition} (h : Derives s c) :
    skipBlanks s ≠ [] := by
  obtain ⟨hw, ht, _⟩ := h
  rw [List.append_assoc, skipBlanks_append_cons hw ht.cons]
  obtain ⟨a, rest, rfl, _⟩ := ht.cons
  exact List.cons_ne_nil a _

/-- A whole text reads when it is blank, or when the grammar derives it within the limit
on nesting. -/
theorem whole_eq_ok {s : List Char} {c : Condition} :
    whole s = .ok c ↔
      (Blank s ∧ c = .alwaysTrue) ∨ (Derives s c ∧ nesting s ≤ maxNesting) := by
  obtain ⟨w, hw, hs, _⟩ := exists_blank_append s
  constructor
  · intro h
    rw [whole.eq_def] at h
    split at h
    · next hnil =>
      rw [hnil, List.append_nil] at hs
      exact Or.inl ⟨hs ▸ hw, (Except.ok.inj h).symm⟩
    · next a after hskip =>
      right
      split at h
      · simp at h
      · next parsed left hread =>
        split at h
        · next hnil =>
          obtain rfl : parsed = c := Except.ok.inj h
          have hfound := ((found_condition maxNesting _ _ _ hread).skip).blank_append hw
          rw [← hskip, ← hs, hnil] at hfound
          exact hfound.derives
        · simp at h
  · rintro (⟨hblank, rfl⟩ | ⟨hderives, hnest⟩)
    · rw [whole, skipBlanks_eq_nil hblank]
    · obtain ⟨left, hread, hleft⟩ := hderives.condition_eq_ok hnest
      rw [whole.eq_def]
      split
      · next hnil => exact absurd hnil hderives.skipBlanks_ne_nil
      · next a after hskip =>
        rw [← hskip, hread]
        simp only [skipBlanks_eq_nil hleft]

/-- A whole text opens with a primary. -/
theorem exists_bare_of_whole {s : List Char} {c : Condition} (h : whole s = .ok c)
    (hs : Stops isBlank s) (hne : s ≠ []) :
    ∃ d rest, bare (inside maxNesting) s = .ok (d, rest) := by
  rw [whole.eq_def, skipBlanks_of_stops hs] at h
  cases s with
  | nil => exact absurd rfl hne
  | cons a s =>
      simp only at h
      split at h
      · simp at h
      · next parsed left hread =>
        obtain ⟨ds, hdisjuncts, -⟩ := condition_eq_ok.mp hread
        obtain ⟨_, _, hoperand⟩ := exists_operand_of_chain hdisjuncts
        obtain ⟨cs, hconjuncts, -⟩ := conjunction_eq_ok.mp hoperand
        obtain ⟨d, rest, hprimary⟩ := exists_operand_of_chain hconjuncts
        exact ⟨d, rest, (primaryAt_eq_ok blank_nil hs).mp hprimary⟩

end Criteria.Source

namespace Criteria.Condition

open Criteria.Source Criteria.Text

theorem parse_eq_ok {source : String} {c : Condition} :
    parse source = .ok c ↔ whole source.toList = .ok c := by
  simp only [parse]
  cases whole source.toList with
  | ok d => simp
  | error f => simp

/-- A text that says a condition is read to it, where its nesting is known. -/
theorem parse_of_says {t : List Char} {c : Condition} {d : Nat} (h : Says t c)
    (hbal : Balanced t d) (hd : d ≤ maxNesting) : parse (String.ofList t) = .ok c := by
  rw [parse_eq_ok, String.toList_ofList, whole_eq_ok, hbal.nesting_eq]
  exact Or.inr ⟨h.derives, hd⟩

end Criteria.Condition
