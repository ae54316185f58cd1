/-
Grouping does not change what a chain comes to.

Joined conditions have the first verdict that is not the one to go on with.  This is a law of
lists of verdicts, and a part of such a list may be put in its place by what it comes to.  So a
conjunction may be spliced into the one around it and a chain may be built from the left, all at
once, or be written with parentheses around any part of it: the verdict is that of the one flat
conjunction, and so is the error.  The same holds of disjunctions.
-/
import Criteria.Proofs.RoundTrip
import Criteria.Proofs.Verdict

namespace Criteria

namespace Verdict

/-! ### Lists of verdicts -/

theorem joined_singleton (neutral : Bool) (v : Verdict) : joined neutral [v] = v := by
  cases v with
  | error e => rfl
  | ok b =>
      by_cases hb : b = neutral
      · simp [joined, hb]
      · simp [joined, hb]

/-- What verdicts come to is the first of them that is not the one to go on with. -/
theorem joined_eq_find? (neutral : Bool) (verdicts : List Verdict) :
    joined neutral verdicts = (verdicts.find? (· ≠ .ok neutral)).getD (.ok neutral) := by
  induction verdicts with
  | nil => rfl
  | cons v verdicts ih =>
      cases v with
      | error e => simp [joined]
      | ok b =>
          by_cases hb : b = neutral
          · simp [joined, hb, ih]
          · simp [joined, hb]

/-- The first of some verdicts may be put in their place. -/
theorem joined_append (neutral : Bool) (verdicts more : List Verdict) :
    joined neutral (verdicts ++ more) = joined neutral (joined neutral verdicts :: more) := by
  induction verdicts with
  | nil => simp [joined]
  | cons v verdicts ih =>
      cases v with
      | error e => rfl
      | ok b =>
          by_cases hb : b = neutral
          · simp [joined, hb, ih]
          · simp [joined, hb]

/-- Also where others stand before them. -/
theorem joined_splice (neutral : Bool) (before inner after : List Verdict) :
    joined neutral (before ++ joined neutral inner :: after) =
      joined neutral (before ++ inner ++ after) := by
  induction before with
  | nil => exact (joined_append neutral inner after).symm
  | cons v before ih =>
      cases v with
      | error e => rfl
      | ok b => simp only [List.cons_append, joined, ih]

end Verdict

/-! ### Chains in a source -/

namespace Source

open Text

/-- A text that joins operands by a sign, in their order, with parentheses around any part of
the chain, and blanks around each. -/
inductive Chained (sign : Char) (Operand : List Char → Condition → Prop) :
    List Char → List Condition → Prop where
  | operand {t : List Char} {c : Condition} (ht : Operand t c) : Chained sign Operand t [c]
  | joined {t u : List Char} {cs ds : List Condition} (ht : Chained sign Operand t cs)
      (hu : Chained sign Operand u ds) :
      Chained sign Operand (t ++ sign :: sign :: u) (cs ++ ds)
  | parenthesized {t : List Char} {cs : List Condition} (ht : Chained sign Operand t cs) :
      Chained sign Operand ('(' :: t ++ [')']) cs
  | padded {w t w' : List Char} {cs : List Condition} (hw : Blank w)
      (ht : Chained sign Operand t cs) (hw' : Blank w') :
      Chained sign Operand (w ++ t ++ w') cs

theorem Conjuncts.append {t w w' u : List Char} {cs ds : List Condition} (ht : Conjuncts t cs)
    (hw : Blank w) (hw' : Blank w') (hu : Conjuncts u ds) :
    Conjuncts (t ++ (w ++ '&' :: '&' :: (w' ++ u))) (cs ++ ds) := by
  cases ht with
  | one ht => exact .more ht hw hw' hu
  | more ht hv hv' hrest =>
      have hall := Conjuncts.more ht hv hv' (hrest.append hw hw' hu)
      simpa using hall

theorem Disjuncts.append {t w w' u : List Char} {cs ds : List Condition} (ht : Disjuncts t cs)
    (hw : Blank w) (hw' : Blank w') (hu : Disjuncts u ds) :
    Disjuncts (t ++ (w ++ '|' :: '|' :: (w' ++ u))) (cs ++ ds) := by
  cases ht with
  | one ht => exact .more ht hw hw' hu
  | more ht hv hv' hrest =>
      have hall := Disjuncts.more ht hv hv' (hrest.append hw hw' hu)
      simpa using hall

end Source

/-! ### Conditions with the verdict of a chain -/

namespace Condition

open Source Text

section

variable {α : Type} [Container α] {scope : α} {config : EvalConfig} {neutral : Bool}

theorem evaluate_allOf (parts : List Condition) :
    evaluate (allOf parts) scope config =
      Verdict.joined true (parts.map fun c => evaluate c scope config) := by
  rw [evaluate, run_allOf, runAll_verdict]
  rfl

/-- A conjunction that is extended comes to what it came to before and then the new part. -/
theorem evaluate_and (c d : Condition) :
    evaluate (c.and d) scope config =
      Verdict.joined true [evaluate c scope config, evaluate d scope config] := by
  cases c with
  | conjunction parts =>
      rw [and, evaluate_conjunction, evaluate_conjunction, List.map_append,
        Verdict.joined_append]
      rfl
  | _ => exact evaluate_conjunction scope config [_, d]

theorem evaluate_or (c d : Condition) :
    evaluate (c.or d) scope config =
      Verdict.joined false [evaluate c scope config, evaluate d scope config] := by
  cases c with
  | disjunction parts =>
      rw [or, evaluate_disjunction, evaluate_disjunction, List.map_append,
        Verdict.joined_append]
      rfl
  | _ => exact evaluate_disjunction scope config [_, d]

/-- A chain that is built from the left, one condition after another. -/
theorem evaluate_foldl {link : Condition → Condition → Condition}
    (hlink : ∀ c d, evaluate (link c d) scope config =
      Verdict.joined neutral [evaluate c scope config, evaluate d scope config])
    (c : Condition) (cs : List Condition) :
    evaluate (cs.foldl link c) scope config =
      Verdict.joined neutral ((c :: cs).map fun d => evaluate d scope config) := by
  induction cs generalizing c with
  | nil => exact (Verdict.joined_singleton neutral _).symm
  | cons d cs ih =>
      rw [List.foldl_cons, ih, List.map_cons, hlink, ← Verdict.joined_append]
      rfl

/-- One operand stands for itself. -/
theorem evaluate_join {node : List Condition → Condition}
    (hnode : ∀ parts, evaluate (node parts) scope config =
      Verdict.joined neutral (parts.map fun c => evaluate c scope config))
    {cs : List Condition} (hne : cs ≠ []) :
    evaluate (join node cs) scope config =
      Verdict.joined neutral (cs.map fun c => evaluate c scope config) := by
  match cs, hne with
  | [c], _ => exact (Verdict.joined_singleton neutral _).symm
  | c :: d :: cs, _ => exact hnode _

/-- Whatever parentheses a chain is written with, its text is one of operands in a row, some of
which may be parts of the chain; and these come to what the chain comes to. -/
theorem exists_items_of_chained {sign : Char} {node : List Condition → Condition}
    {Operand : List Char → Condition → Prop} {Items : List Char → List Condition → Prop}
    (one : ∀ t c, Operand t c → Items t [c])
    (append : ∀ t w w' u cs ds, Items t cs → Blank w → Blank w' → Items u ds →
      Items (t ++ (w ++ sign :: sign :: (w' ++ u))) (cs ++ ds))
    (group : ∀ w t w' cs, Blank w → Items t cs → Blank w' →
      Items ('(' :: (w ++ t ++ w') ++ [')']) [join node cs])
    (hjoin : ∀ t cs, Items t cs → evaluate (join node cs) scope config =
      Verdict.joined neutral (cs.map fun c => evaluate c scope config))
    {t : List Char} {cs : List Condition} (h : Chained sign Operand t cs) :
    ∃ w u w' ds, t = w ++ u ++ w' ∧ Blank w ∧ Blank w' ∧ Items u ds ∧
      Verdict.joined neutral (ds.map fun c => evaluate c scope config) =
        Verdict.joined neutral (cs.map fun c => evaluate c scope config) := by
  induction h with
  | @operand t c ht =>
      exact ⟨[], t, [], [c], by simp, blank_nil, blank_nil, one t c ht, rfl⟩
  | @joined t u cs ds _ _ iht ihu =>
      obtain ⟨v, t, v', cs', rfl, hv, hv', hcs, heq⟩ := iht
      obtain ⟨w, u, w', ds', rfl, hw, hw', hds, heq'⟩ := ihu
      refine ⟨v, _, w', cs' ++ ds', ?_, hv, hw', append t v' w u cs' ds' hcs hv' hw hds, ?_⟩
      · simp
      · -- Either part of the chain may be taken as one verdict.
        have hright := Verdict.joined_splice neutral
          (cs.map fun c => evaluate c scope config) (ds'.map fun c => evaluate c scope config) []
        rw [heq', Verdict.joined_splice] at hright
        simp only [List.append_nil] at hright
        rw [List.map_append, List.map_append, Verdict.joined_append, heq,
          ← Verdict.joined_append, hright]
  | @parenthesized t cs _ ih =>
      obtain ⟨w, u, w', ds, rfl, hw, hw', hds, heq⟩ := ih
      refine ⟨[], _, [], [join node ds], ?_, blank_nil, blank_nil, group w u w' ds hw hds hw', ?_⟩
      · simp
      · exact (Verdict.joined_singleton neutral _).trans ((hjoin u ds hds).trans heq)
  | @padded v t v' cs hv _ hv' ih =>
      obtain ⟨w, u, w', ds, rfl, hw, hw', hds, heq⟩ := ih
      refine ⟨v ++ w, u, w' ++ v', ds, ?_, hv.append hw, hw'.append hv', hds, heq⟩
      simp

/-- A source that says a condition between blanks is read to it, if it is not nested too deep. -/
theorem parse_of_padded {source : String} {w t w' : List Char} {c : Condition}
    (hs : source.toList = w ++ t ++ w') (hw : Blank w) (ht : Says t c) (hw' : Blank w')
    (hnest : nesting source.toList ≤ maxNesting) : parse source = .ok c := by
  obtain ⟨cs, ht, rfl⟩ := ht
  refine parse_eq_ok.mpr (whole_eq_ok.mpr (Or.inr ⟨?_, hnest⟩))
  rw [hs]
  exact .intro hw ht hw'

theorem exists_parse_of_conjunction {source : String} {cs : List Condition}
    (h : Chained '&' Primary source.toList cs) (hnest : nesting source.toList ≤ maxNesting) :
    ∃ c, parse source = .ok c ∧
      evaluate c scope config = evaluate (.conjunction cs) scope config := by
  have hjoin : ∀ t ds, Conjuncts t ds → evaluate (join .conjunction ds) scope config =
      Verdict.joined true (ds.map fun c => evaluate c scope config) := fun t ds hds =>
    evaluate_join (evaluate_conjunction scope config) hds.ne_nil
  have hgroup : ∀ w t w' ds, Blank w → Conjuncts t ds → Blank w' →
      Conjuncts ('(' :: (w ++ t ++ w') ++ [')']) [join .conjunction ds] :=
    fun w t w' ds hw hds hw' => .one (.group hw (.one hds) hw')
  obtain ⟨w, u, w', ds, hs, hw, hw', hds, heq⟩ := exists_items_of_chained
    (fun t c ht => .one ht) (fun t w w' u cs ds ht hw hw' hu => ht.append hw hw' hu) hgroup
    hjoin h
  refine ⟨join .conjunction ds, parse_of_padded hs hw ⟨_, .one hds, rfl⟩ hw' hnest, ?_⟩
  rw [hjoin u ds hds, heq, evaluate_conjunction]

theorem exists_parse_of_disjunction {source : String} {cs : List Condition}
    (h : Chained '|' SaysJoined source.toList cs) (hnest : nesting source.toList ≤ maxNesting) :
    ∃ c, parse source = .ok c ∧
      evaluate c scope config = evaluate (.disjunction cs) scope config := by
  have hjoin : ∀ t ds, Disjuncts t ds → evaluate (join .disjunction ds) scope config =
      Verdict.joined false (ds.map fun c => evaluate c scope config) := fun t ds hds =>
    evaluate_join (evaluate_disjunction scope config) hds.ne_nil
  have hgroup : ∀ w t w' ds, Blank w → Disjuncts t ds → Blank w' →
      Disjuncts ('(' :: (w ++ t ++ w') ++ [')']) [join .disjunction ds] :=
    fun w t w' ds hw hds hw' => disjuncts_one ⟨_, .one (.group hw hds hw'), rfl⟩
  obtain ⟨w, u, w', ds, hs, hw, hw', hds, heq⟩ := exists_items_of_chained
    (fun t c ht => disjuncts_one ht) (fun t w w' u cs ds ht hw hw' hu => ht.append hw hw' hu)
    hgroup hjoin h
  refine ⟨join .disjunction ds, parse_of_padded hs hw ⟨ds, hds, rfl⟩ hw' hnest, ?_⟩
  rw [hjoin u ds hds, heq, evaluate_disjunction]

end

/-! ### One verdict for all of them -/

/-- **A chain has the first verdict that is not the one to go on with, however it is grouped.**
A conjunction inside a conjunction may be spliced into it, a chain may be built from the left or
from a list, and a source may put parentheses around any part of it: each has the verdict, or the
error, of the one flat node. -/
theorem evaluate_grouping {α : Type} [Container α] (scope : α) (config : EvalConfig) :
    (∀ cs, evaluate (.conjunction cs) scope config =
      ((cs.map fun c => evaluate c scope config).find? (· ≠ .ok true)).getD (.ok true)) ∧
    (∀ cs, evaluate (.disjunction cs) scope config =
      ((cs.map fun c => evaluate c scope config).find? (· ≠ .ok false)).getD (.ok false)) ∧
    (∀ before inner after,
      evaluate (.conjunction (before ++ .conjunction inner :: after)) scope config =
        evaluate (.conjunction (before ++ inner ++ after)) scope config) ∧
    (∀ before inner after,
      evaluate (.disjunction (before ++ .disjunction inner :: after)) scope config =
        evaluate (.disjunction (before ++ inner ++ after)) scope config) ∧
    (∀ c cs, evaluate (cs.foldl and c) scope config =
      evaluate (.conjunction (c :: cs)) scope config) ∧
    (∀ c cs, evaluate (cs.foldl or c) scope config =
      evaluate (.disjunction (c :: cs)) scope config) ∧
    (∀ cs, evaluate (allOf cs) scope config = evaluate (.conjunction cs) scope config) ∧
    (∀ (source : String) (cs : List Condition), Chained '&' Primary source.toList cs →
      nesting source.toList ≤ maxNesting →
        ∃ c, parse source = .ok c ∧
          evaluate c scope config = evaluate (.conjunction cs) scope config) ∧
    (∀ (source : String) (cs : List Condition), Chained '|' SaysJoined source.toList cs →
      nesting source.toList ≤ maxNesting →
        ∃ c, parse source = .ok c ∧
          evaluate c scope config = evaluate (.disjunction cs) scope config) := by
  refine ⟨?_, ?_, ?_, ?_, ?_, ?_, ?_, ?_, ?_⟩
  · intro cs
    rw [evaluate_conjunction, Verdict.joined_eq_find?]
  · intro cs
    rw [evaluate_disjunction, Verdict.joined_eq_find?]
  · intro before inner after
    simp only [evaluate_conjunction, List.map_append, List.map_cons, Verdict.joined_splice]
  · intro before inner after
    simp only [evaluate_disjunction, List.map_append, List.map_cons, Verdict.joined_splice]
  · intro c cs
    rw [evaluate_foldl evaluate_and, evaluate_conjunction]
  · intro c cs
    rw [evaluate_foldl evaluate_or, evaluate_disjunction]
  · intro cs
    rw [evaluate_allOf, evaluate_conjunction]
  · exact fun source cs => exists_parse_of_conjunction
  · exact fun source cs => exists_parse_of_disjunction

/-- The second of three operands has an error, and parentheses stand around the last two. -/
theorem evaluate_grouping_parentheses :
    let a := Condition.compare "a" .eq (.category .task)
    let b := Condition.compare "b" .eq (.category .data)
    let tree := PropertyTree.empty.withValue "a" (.category .task)
    let source := "a==task && (b==data&&a==task)"
    let other := "(a==task ||b==data)||a==task"
    Chained '&' Primary source.toList [a, b, a] ∧ nesting source.toList ≤ maxNesting ∧
      (∃ c, parse source = .ok c ∧ evaluate c tree = evaluate (.conjunction [a, b, a]) tree ∧
        evaluate c tree = .error (.invalidProperty "b" .missing)) ∧
      Chained '|' SaysJoined other.toList [a, b, a] ∧ nesting other.toList ≤ maxNesting ∧
      ∃ c, parse other = .ok c ∧ evaluate c tree = evaluate (.disjunction [a, b, a]) tree ∧
        evaluate c tree = .ok true := by
  intro a b tree source other
  have ha := primary_category (n := ['a']) (by decide) .task
  have hb := primary_category (n := ['b']) (by decide) .data
  have hright : Chained '&' Primary "(b==data&&a==task)".toList [b, a] :=
    .parenthesized (.joined (.operand hb) (.operand ha))
  have hsource : Chained '&' Primary "a==task && (b==data&&a==task)".toList [a, b, a] :=
    .joined (.padded blank_nil (.operand ha) blank_space) (.padded blank_space hright blank_nil)
  have hsa : SaysJoined "a==task".toList a := ⟨[a], .one ha, rfl⟩
  have hsb : SaysJoined "b==data".toList b := ⟨[b], .one hb, rfl⟩
  have hleft : Chained '|' SaysJoined "(a==task ||b==data)".toList [a, b] :=
    .parenthesized (.joined (.padded blank_nil (.operand hsa) blank_space) (.operand hsb))
  have hother : Chained '|' SaysJoined "(a==task ||b==data)||a==task".toList [a, b, a] :=
    .joined hleft (.operand hsa)
  have hnest : nesting source.toList ≤ maxNesting := by decide +kernel
  have hnest' : nesting other.toList ≤ maxNesting := by decide +kernel
  have herror : evaluate (.conjunction [a, b, a]) tree =
      .error (.invalidProperty "b" .missing) := by decide +kernel
  have htrue : evaluate (.disjunction [a, b, a]) tree = .ok true := by decide +kernel
  obtain ⟨-, -, -, -, -, -, -, hand, hor⟩ := evaluate_grouping tree {}
  obtain ⟨c, hread, heq⟩ := hand source [a, b, a] hsource hnest
  obtain ⟨d, hread', heq'⟩ := hor other [a, b, a] hother hnest'
  exact ⟨hsource, hnest, ⟨c, hread, heq, heq.trans herror⟩, hother, hnest', d, hread', heq',
    heq'.trans htrue⟩

end Condition

end Criteria
