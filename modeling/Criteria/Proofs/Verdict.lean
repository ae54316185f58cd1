/-
What a verdict is made of.

A verdict does not depend on what is logged on the way to it.  Of joined conditions the
first verdict counts that is not the one to go on with.  Of the items of an array one that
fulfils the condition counts, wherever it stands; if there is none, the error that the
policy has held back.  Evaluating is these two functions on the verdicts of the parts.

Two policies differ in what they hold back.  Where the first error is kept, an array has a
plain `false` only if every item has one, and then the other policy holds nothing back
either.  So the policy that keeps the last item's error settles all that the other settles.
-/
import Criteria.Evaluation
import Criteria.Proofs.Condition
import Criteria.PropertyTree
import Mathlib.Data.List.Forall2

namespace Criteria

namespace Verdict

/-- The verdict on joined conditions that are put in order until one has a verdict other
than `neutral`. -/
def joined (neutral : Bool) : List Verdict → Verdict
  | [] => .ok neutral
  | .error e :: _ => .error e
  | .ok b :: verdicts => if b = neutral then joined neutral verdicts else .ok b

/-- The verdict on an array none of whose items fulfils the condition. -/
def ofHeld : Option SemanticError → Verdict
  | none => .ok false
  | some e => .error e

/-- The verdict on an array from those on its items, `held` being the error that is held
back. -/
def ofItems (policy : ArrayErrorPolicy) : Option SemanticError → List Verdict → Verdict
  | held, [] => ofHeld held
  | _, .ok true :: _ => .ok true
  | held, .ok false :: verdicts => ofItems policy (policy.afterFalse held) verdicts
  | held, .error e :: verdicts => ofItems policy (policy.afterError held e) verdicts

/-! ### Where there are no errors -/

theorem joined_true_ok (answers : List Bool) :
    joined true (answers.map .ok) = .ok (answers.all id) := by
  induction answers with
  | nil => rfl
  | cons b answers ih => cases b <;> simp [joined, ih]

theorem joined_false_ok (answers : List Bool) :
    joined false (answers.map .ok) = .ok (answers.any id) := by
  induction answers with
  | nil => rfl
  | cons b answers ih => cases b <;> simp [joined, ih]

/-- Without errors nothing is ever held back. -/
theorem ofItems_ok (policy : ArrayErrorPolicy) (answers : List Bool) :
    ofItems policy none (answers.map .ok) = .ok (answers.any id) := by
  have hnone : policy.afterFalse none = none := by cases policy <;> rfl
  induction answers with
  | nil => rfl
  | cons b answers ih => cases b <;> simp [ofItems, hnone, ih]

/-! ### Where an error comes from -/

theorem mem_of_joined_error {neutral : Bool} {verdicts : List Verdict} {e : SemanticError}
    (h : joined neutral verdicts = .error e) : .error e ∈ verdicts := by
  induction verdicts with
  | nil => cases h
  | cons v verdicts ih =>
      cases v with
      | error d =>
          rw [joined] at h
          rw [h]
          exact List.mem_cons_self
      | ok b =>
          rw [joined] at h
          split at h
          · exact List.mem_cons_of_mem _ (ih h)
          · cases h

/-- An array reports what was held back before, or the error of an item. -/
theorem held_or_mem_of_ofItems_error {policy : ArrayErrorPolicy} {held : Option SemanticError}
    {verdicts : List Verdict} {e : SemanticError} (h : ofItems policy held verdicts = .error e) :
    held = some e ∨ .error e ∈ verdicts := by
  induction verdicts generalizing held with
  | nil =>
      cases held with
      | none => cases h
      | some d =>
          cases h
          exact Or.inl rfl
  | cons v verdicts ih =>
      match v with
      | .ok true => cases h
      | .ok false =>
          rw [ofItems] at h
          rcases ih h with hheld | hmem
          · cases policy with
            | lastItem => cases hheld
            | firstError => exact Or.inl hheld
          · exact Or.inr (List.mem_cons_of_mem _ hmem)
      | .error d =>
          rw [ofItems] at h
          rcases ih h with hheld | hmem
          · cases policy with
            | lastItem =>
                cases hheld
                exact Or.inr List.mem_cons_self
            | firstError =>
                cases held with
                | none =>
                    cases hheld
                    exact Or.inr List.mem_cons_self
                | some _ => exact Or.inl hheld
          · exact Or.inr (List.mem_cons_of_mem _ hmem)

/-! ### Verdicts that settle no less -/

/-- What one verdict settles the other settles alike. -/
def Settles (v w : Verdict) : Prop := ∀ b, v = .ok b → w = .ok b

private theorem forall₂_settles {β : Type} {f g : β → Verdict} {members : List β}
    (h : ∀ x ∈ members, Settles (f x) (g x)) :
    List.Forall₂ Settles (members.map f) (members.map g) := by
  rw [List.forall₂_map_left_iff, List.forall₂_map_right_iff, List.forall₂_same]
  exact h

theorem joined_settles {neutral : Bool} {verdicts others : List Verdict}
    (h : List.Forall₂ Settles verdicts others) :
    Settles (joined neutral verdicts) (joined neutral others) := by
  induction h with
  | nil => exact fun _ hb => hb
  | @cons v w verdicts others hvw _ ih =>
      cases v with
      | error e =>
          intro b hb
          cases hb
      | ok a =>
          rw [hvw a rfl, joined, joined]
          split
          · exact ih
          · exact fun _ hb => hb

/-- The first error is never dropped again, so an array with one has no plain `false`. -/
theorem ofItems_firstError_ne_false (e : SemanticError) (verdicts : List Verdict) :
    ofItems .firstError (some e) verdicts ≠ .ok false := by
  induction verdicts with
  | nil => exact fun h => nomatch h
  | cons v verdicts ih =>
      match v with
      | .ok true => exact fun h => nomatch h
      | .ok false => exact ih
      | .error _ => exact ih

/-- An array's verdict where the first error is kept is also that where the last item's is.
The error that the latter holds back is of no account as long as the former holds one. -/
theorem ofItems_settles {verdicts others : List Verdict}
    (h : List.Forall₂ Settles verdicts others) {held kept : Option SemanticError}
    (hkept : held = none → kept = none) :
    Settles (ofItems .firstError held verdicts) (ofItems .lastItem kept others) := by
  induction h generalizing held kept with
  | nil =>
      cases held with
      | none =>
          rw [hkept rfl]
          exact fun _ hb => hb
      | some e =>
          intro b hb
          cases hb
  | @cons v w verdicts others hvw _ ih =>
      match v with
      | .ok true =>
          rw [hvw true rfl]
          exact fun _ hb => hb
      | .ok false =>
          rw [hvw false rfl]
          exact ih fun _ => rfl
      | .error e =>
          obtain ⟨first, hfirst⟩ : ∃ d, held.or (some e) = some d := by cases held <;> simp
          intro b hb
          rw [ofItems, ArrayErrorPolicy.afterError, hfirst] at hb
          -- Some later item fulfils the condition, whatever the other policy makes of this one.
          have hsettled : ∀ later, ofItems .lastItem later others = .ok b := by
            intro later
            have hlater : some first = none → later = none := fun h => nomatch h
            exact ih hlater b hb
          cases b with
          | false => exact absurd hb (ofItems_firstError_ne_false first verdicts)
          | true =>
              match w with
              | .ok true => rfl
              | .ok false => exact hsettled none
              | .error d => exact hsettled (some d)

end Verdict

/-! ### The verdicts on conditions -/

theorem scanItems_verdict {α : Type} (policy : ArrayErrorPolicy) (array : String)
    (item : α → Run) (index : Nat) (held : Option SemanticError) (items : List α) :
    (scanItems policy array item index held items).verdict =
      Verdict.ofItems policy held (items.map fun x => (item x).verdict) := by
  induction items generalizing index held with
  | nil => cases held <;> rfl
  | cons x items ih =>
      rw [scanItems, List.map_cons]
      match hx : (item x).verdict with
      | .ok true => simp only [hx, Verdict.ofItems]
      | .ok false => simp only [Run.before, ih, Verdict.ofItems]
      | .error e => simp only [Run.before, ih, Verdict.ofItems]

namespace Condition

variable {α : Type} [Container α]

theorem runAll_verdict (policy : ArrayErrorPolicy) (parts : List Condition) (scope : α) :
    (runAll policy parts scope).verdict =
      Verdict.joined true (parts.map fun c => (run policy c scope).verdict) := by
  induction parts with
  | nil => rfl
  | cons c parts ih =>
      rw [runAll, List.map_cons]
      match hc : (run policy c scope).verdict with
      | .ok true => simp only [Run.before, ih, Verdict.joined, if_true]
      | .ok false => simp [hc, Verdict.joined]
      | .error e => simp only [hc, Verdict.joined]

theorem runAny_verdict (policy : ArrayErrorPolicy) (parts : List Condition) (scope : α) :
    (runAny policy parts scope).verdict =
      Verdict.joined false (parts.map fun c => (run policy c scope).verdict) := by
  induction parts with
  | nil => rfl
  | cons c parts ih =>
      rw [runAny, List.map_cons]
      match hc : (run policy c scope).verdict with
      | .ok false => simp only [Run.before, ih, Verdict.joined, if_true]
      | .ok true => simp [hc, Verdict.joined]
      | .error e => simp only [hc, Verdict.joined]

variable (scope : α) (config : EvalConfig)

theorem evaluate_alwaysTrue : evaluate .alwaysTrue scope config = .ok true := by
  rw [evaluate, run, Run.quiet]

theorem evaluate_compare (name : String) (op : CompareOp) (literal : Value) :
    evaluate (.compare name op literal) scope config = compareIn scope name op literal := by
  rw [evaluate, run, Run.quiet]

theorem evaluate_conjunction (parts : List Condition) :
    evaluate (.conjunction parts) scope config =
      Verdict.joined true (parts.map fun c => evaluate c scope config) := by
  rw [evaluate, run, runAll_verdict]
  rfl

theorem evaluate_disjunction (parts : List Condition) :
    evaluate (.disjunction parts) scope config =
      Verdict.joined false (parts.map fun c => evaluate c scope config) := by
  rw [evaluate, run, runAny_verdict]
  rfl

theorem evaluate_within (name : String) (body : Condition) :
    evaluate (.within name body) scope config =
      match resolve scope name with
      | .error e => .error e
      | .ok (.simple _) => .error (.invalidProperty name .notQualifiable)
      | .ok (.container inner) => evaluate body inner config
      | .ok (.array items) =>
        Verdict.ofItems config.arrayErrors none
          (items.map fun item => evaluate body item config) := by
  rw [evaluate, run]
  match resolve scope name with
  | .error e => rfl
  | .ok (.simple _) => rfl
  | .ok (.container inner) => rfl
  | .ok (.array items) => exact scanItems_verdict ..

/-! ### The two policies -/

/-- What a condition settles where the first error is kept it settles where the last item's
is. -/
theorem evaluate_settles (c : Condition) (scope : α) :
    Verdict.Settles (evaluate c scope ⟨.firstError⟩) (evaluate c scope ⟨.lastItem⟩) := by
  induction c generalizing scope with
  | alwaysTrue =>
      rw [evaluate_alwaysTrue, evaluate_alwaysTrue]
      exact fun _ hb => hb
  | compare name op literal =>
      rw [evaluate_compare, evaluate_compare]
      exact fun _ hb => hb
  | conjunction parts ih =>
      rw [evaluate_conjunction, evaluate_conjunction]
      exact Verdict.joined_settles (Verdict.forall₂_settles fun c hc => ih c hc scope)
  | disjunction parts ih =>
      rw [evaluate_disjunction, evaluate_disjunction]
      exact Verdict.joined_settles (Verdict.forall₂_settles fun c hc => ih c hc scope)
  | within name body ih =>
      rw [evaluate_within, evaluate_within]
      match resolve scope name with
      | .error e => exact fun _ hb => hb
      | .ok (.simple _) => exact fun _ hb => hb
      | .ok (.container inner) => exact ih inner
      | .ok (.array items) =>
          have hitems := Verdict.forall₂_settles fun item (_ : item ∈ items) => ih item
          exact Verdict.ofItems_settles hitems fun hnone => hnone

/-- **Keeping the last item's error settles all that keeping the first error settles**, and
to the same end; so there is an error under the latter policy wherever there is one under
the former. -/
theorem evaluate_lastItem_of_firstError (c : Condition) (scope : α) :
    (∀ b, evaluate c scope ⟨.firstError⟩ = .ok b → evaluate c scope ⟨.lastItem⟩ = .ok b) ∧
      ∀ e, evaluate c scope ⟨.lastItem⟩ = .error e →
        ∃ d, evaluate c scope ⟨.firstError⟩ = .error d := by
  refine ⟨evaluate_settles c scope, ?_⟩
  intro e he
  match hfirst : evaluate c scope ⟨.firstError⟩ with
  | .error d => exact ⟨d, rfl⟩
  | .ok b =>
      have hlast := evaluate_settles c scope b hfirst
      rw [he] at hlast
      cases hlast

/-- An array of scopes in which one name stands for these values. -/
def valuesTree (values : List Value) : PropertyTree :=
  PropertyTree.empty.withArray "part"
    (values.map fun v => PropertyTree.empty.withValue "kind" v)

/-- Some part is of a kind. -/
def somePart (kind : String) : Condition := .within "part" (.compare "kind" .eq (.text kind))

theorem evaluate_lastItem_of_firstError_parts :
    evaluate (somePart "disk") (valuesTree [.category .task, .text "disk"]) ⟨.firstError⟩ =
        .ok true ∧
      evaluate (somePart "disk") (valuesTree [.category .task, .text "disk"]) ⟨.lastItem⟩ =
        .ok true ∧
      evaluate (somePart "disk") (valuesTree [.text "tape", .category .task]) ⟨.lastItem⟩ =
        .error (.invalidValueType "kind" .category .text) ∧
      ∃ d, evaluate (somePart "disk") (valuesTree [.text "tape", .category .task])
        ⟨.firstError⟩ = .error d := by
  have hfirst : evaluate (somePart "disk") (valuesTree [.category .task, .text "disk"])
      ⟨.firstError⟩ = .ok true := by decide +kernel
  have hlast : evaluate (somePart "disk") (valuesTree [.text "tape", .category .task])
      ⟨.lastItem⟩ = .error (.invalidValueType "kind" .category .text) := by decide +kernel
  exact ⟨hfirst, (evaluate_lastItem_of_firstError _ _).1 true hfirst, hlast,
    (evaluate_lastItem_of_firstError _ _).2 _ hlast⟩

/-- Not the other way round: a later item without an error lets the error of an earlier one
be forgotten. -/
example :
    evaluate (somePart "disk") (valuesTree [.category .task, .text "tape"]) ⟨.lastItem⟩ =
        .ok false ∧
      evaluate (somePart "disk") (valuesTree [.category .task, .text "tape"]) ⟨.firstError⟩ =
        .error (.invalidValueType "kind" .category .text) := by
  decide

end Condition

end Criteria
