/-
What an array comes to.

A scan goes over the items of an array with an error held back.  As long as no item fulfils the
condition, all that the scan knows of the items behind it is that error: the policy that keeps
the last item's error holds what the last of them had, if it had one, and the policy that keeps
the first error holds the first that any of them had.  At the end of the array this is the
verdict, and an item that fulfils the condition is the end as well, whatever stands behind it.
-/
import Criteria.Proofs.Verdict

namespace Criteria

/-! ### The error that is held back -/

/-- The error there is in place of a verdict. -/
def Verdict.error? : Verdict → Option SemanticError
  | .ok _ => none
  | .error e => some e

theorem Verdict.error?_eq_some {v : Verdict} {e : SemanticError} :
    v.error? = some e ↔ v = .error e := by
  cases v <;> simp [error?]

theorem Verdict.error?_eq_none {v : Verdict} : v.error? = none ↔ ∀ e, v ≠ .error e := by
  cases v <;> simp [error?]

namespace ArrayErrorPolicy

/-- What is held back after one more item, which does not fulfil the condition. -/
def after (policy : ArrayErrorPolicy) (held : Option SemanticError) : Verdict →
    Option SemanticError
  | .ok _ => policy.afterFalse held
  | .error e => policy.afterError held e

private theorem after_lastItem (held : Option SemanticError) (v : Verdict) :
    after .lastItem held v = v.error? := by
  cases v <;> rfl

private theorem after_firstError (held : Option SemanticError) (v : Verdict) :
    after .firstError held v = held.or v.error? := by
  cases v with
  | ok b => exact (Option.or_none).symm
  | error e => rfl

/-- The last item's error is all that is kept of the items so far. -/
theorem foldl_after_lastItem (held : Option SemanticError) (verdicts : List Verdict) :
    verdicts.foldl (after .lastItem) held =
      (verdicts.getLast?.map Verdict.error?).getD held := by
  induction verdicts generalizing held with
  | nil => rfl
  | cons v verdicts ih =>
      rw [List.foldl_cons, ih, after_lastItem, List.getLast?_cons]
      cases verdicts.getLast? <;> rfl

/-- The first error is kept, whatever comes after it. -/
theorem foldl_after_firstError (held : Option SemanticError) (verdicts : List Verdict) :
    verdicts.foldl (after .firstError) held = held.or (verdicts.findSome? Verdict.error?) := by
  induction verdicts generalizing held with
  | nil => exact (Option.or_none).symm
  | cons v verdicts ih =>
      rw [List.foldl_cons, ih, after_firstError, Option.or_assoc, List.findSome?_cons]
      cases v.error? <;> rfl

end ArrayErrorPolicy

/-! ### The verdict from those on the items -/

namespace Verdict

variable {policy : ArrayErrorPolicy} {held : Option SemanticError} {verdicts : List Verdict}

/-- An item that does not fulfil the condition changes what is held back and nothing else. -/
theorem ofItems_cons {v : Verdict} (h : v ≠ .ok true) (verdicts : List Verdict) :
    ofItems policy held (v :: verdicts) = ofItems policy (policy.after held v) verdicts := by
  match v, h with
  | .ok false, _ => rfl
  | .error e, _ => rfl

/-- Behind items none of which fulfils the condition the scan knows of them what it holds
back. -/
theorem ofItems_append {before : List Verdict} (h : ∀ v ∈ before, v ≠ .ok true)
    (verdicts : List Verdict) :
    ofItems policy held (before ++ verdicts) =
      ofItems policy (before.foldl policy.after held) verdicts := by
  induction before generalizing held with
  | nil => rfl
  | cons v before ih =>
      have hv : v ≠ .ok true := h v List.mem_cons_self
      have hbefore : ∀ w ∈ before, w ≠ .ok true := fun w hw => h w (List.mem_cons_of_mem v hw)
      rw [List.cons_append, ofItems_cons hv, ih hbefore, List.foldl_cons]

theorem ofItems_of_unfulfilled (h : ∀ v ∈ verdicts, v ≠ .ok true) :
    ofItems policy held verdicts = ofHeld (verdicts.foldl policy.after held) := by
  have happend : ofItems policy held (verdicts ++ []) =
      ofItems policy (verdicts.foldl policy.after held) [] := ofItems_append h []
  rwa [List.append_nil] at happend

theorem ofItems_eq_true : ofItems policy held verdicts = .ok true ↔ .ok true ∈ verdicts := by
  induction verdicts generalizing held with
  | nil => cases held <;> simp [ofItems, ofHeld]
  | cons v verdicts ih =>
      by_cases hv : v = .ok true
      · simp [hv, ofItems]
      · have hne : Except.ok true ≠ v := fun h => hv h.symm
        rw [ofItems_cons hv, ih, List.mem_cons]
        simp [hne]

theorem ofHeld_eq_error {e : SemanticError} : ofHeld held = .error e ↔ held = some e := by
  cases held <;> simp [ofHeld]

theorem ofHeld_eq_false : ofHeld held = .ok false ↔ held = none := by
  cases held <;> simp [ofHeld]

/-- Where no item fulfils the condition and the last item's error is kept, the last item has
the only say. -/
theorem ofItems_lastItem (h : ∀ v ∈ verdicts, v ≠ .ok true) :
    ofItems .lastItem none verdicts = ofHeld (verdicts.getLast?.bind error?) := by
  rw [ofItems_of_unfulfilled h, ArrayErrorPolicy.foldl_after_lastItem]
  cases verdicts.getLast? <;> rfl

/-- Where no item fulfils the condition and the first error is kept, the first item that has
one has the only say. -/
theorem ofItems_firstError (h : ∀ v ∈ verdicts, v ≠ .ok true) :
    ofItems .firstError none verdicts = ofHeld (verdicts.findSome? error?) := by
  rw [ofItems_of_unfulfilled h, ArrayErrorPolicy.foldl_after_firstError, Option.none_or]

end Verdict

/-! ### What is not put any more -/

/-- A scan ends at an item that fulfils the condition: neither what stands behind it nor what
the condition would come to there has a part in it. -/
theorem scanItems_of_fulfilled {α : Type} {put put' : α → Run} {before : List α} {item : α}
    (hput : ∀ x ∈ before ++ [item], put' x = put x) (hitem : (put item).verdict = .ok true)
    (policy : ArrayErrorPolicy) (array : String) (index : Nat) (held : Option SemanticError)
    (rest rest' : List α) :
    scanItems policy array put' index held (before ++ item :: rest') =
      scanItems policy array put index held (before ++ item :: rest) := by
  induction before generalizing index held with
  | nil =>
      have hsame : put' item = put item := hput item List.mem_cons_self
      simp only [List.nil_append, scanItems, hsame, hitem]
  | cons x before ih =>
      have hsame : put' x = put x := hput x List.mem_cons_self
      have hmore : ∀ y ∈ before ++ [item], put' y = put y := fun y hy =>
        hput y (List.mem_cons_of_mem x hy)
      simp only [List.cons_append, scanItems, hsame, ih hmore]

/-! ### Conditions on an array -/

namespace Condition

variable {α : Type} [Container α] {name : String} {scope : α} {items : List α}

theorem evaluate_within_array (h : resolve scope name = .ok (.array items)) (body : Condition)
    (config : EvalConfig) :
    evaluate (.within name body) scope config =
      Verdict.ofItems config.arrayErrors none
        (items.map fun item => evaluate body item config) := by
  rw [evaluate_within, h]

private theorem run_within_array (h : resolve scope name = .ok (.array items)) (body : Condition)
    (policy : ArrayErrorPolicy) :
    run policy (.within name body) scope =
      scanItems policy name (fun item => run policy body item) 0 none items := by
  rw [run, h]

private theorem unfulfilled_map {body : Condition} {config : EvalConfig}
    (h : ∀ item ∈ items, evaluate body item config ≠ .ok true) :
    ∀ v ∈ items.map (fun item => evaluate body item config), v ≠ .ok true := by
  intro v hv
  obtain ⟨item, hitem, rfl⟩ := List.mem_map.mp hv
  exact h item hitem

private theorem evaluate_array_lastItem (h : resolve scope name = .ok (.array items))
    {body : Condition} {config : EvalConfig} (hpolicy : config.arrayErrors = .lastItem)
    (hnone : ∀ item ∈ items, evaluate body item config ≠ .ok true) :
    (∀ e, evaluate (.within name body) scope config = .error e ↔
        ∃ item, items.getLast? = some item ∧ evaluate body item config = .error e) ∧
      (evaluate (.within name body) scope config = .ok false ↔
        ¬ ∃ item e, items.getLast? = some item ∧ evaluate body item config = .error e) := by
  rw [evaluate_within_array h body config, hpolicy,
    Verdict.ofItems_lastItem (unfulfilled_map hnone), List.getLast?_map]
  refine ⟨?_, ?_⟩
  · intro e
    rw [Verdict.ofHeld_eq_error]
    cases items.getLast? <;> simp [Verdict.error?_eq_some]
  · rw [Verdict.ofHeld_eq_false]
    cases items.getLast? <;> simp [Verdict.error?_eq_none]

private theorem evaluate_array_firstError (h : resolve scope name = .ok (.array items))
    {body : Condition} {config : EvalConfig} (hpolicy : config.arrayErrors = .firstError)
    (hnone : ∀ item ∈ items, evaluate body item config ≠ .ok true) :
    (∀ e, evaluate (.within name body) scope config = .error e ↔
        ∃ before item after, items = before ++ item :: after ∧
          evaluate body item config = .error e ∧
          ∀ x ∈ before, ∀ d, evaluate body x config ≠ .error d) ∧
      (evaluate (.within name body) scope config = .ok false ↔
        ∀ item ∈ items, ∀ e, evaluate body item config ≠ .error e) := by
  rw [evaluate_within_array h body config, hpolicy,
    Verdict.ofItems_firstError (unfulfilled_map hnone), List.findSome?_map]
  refine ⟨?_, ?_⟩
  · intro e
    rw [Verdict.ofHeld_eq_error, List.findSome?_eq_some_iff]
    simp only [Function.comp_apply, Verdict.error?_eq_some, Verdict.error?_eq_none]
  · rw [Verdict.ofHeld_eq_false, List.findSome?_eq_none_iff]
    simp [Verdict.error?_eq_none]

/-- **What a condition on an array comes to**, from what its body comes to on the items.  One
item that fulfils the body is enough, whatever the others do.  If there is none, the last item
has the say under the one policy and the first error under the other.  Behind an item that
fulfils the body nothing is put any more: the run is the same whatever stands there and whatever
the body would come to there. -/
theorem evaluate_array (h : resolve scope name = .ok (.array items)) (body : Condition)
    (config : EvalConfig) :
    (evaluate (.within name body) scope config = .ok true ↔
        ∃ item ∈ items, evaluate body item config = .ok true) ∧
      ((∀ item ∈ items, evaluate body item config ≠ .ok true) →
        (config.arrayErrors = .lastItem →
          (∀ e, evaluate (.within name body) scope config = .error e ↔
            ∃ item, items.getLast? = some item ∧ evaluate body item config = .error e) ∧
          (evaluate (.within name body) scope config = .ok false ↔
            ¬ ∃ item e, items.getLast? = some item ∧ evaluate body item config = .error e)) ∧
        (config.arrayErrors = .firstError →
          (∀ e, evaluate (.within name body) scope config = .error e ↔
            ∃ before item after, items = before ++ item :: after ∧
              evaluate body item config = .error e ∧
              ∀ x ∈ before, ∀ d, evaluate body x config ≠ .error d) ∧
          (evaluate (.within name body) scope config = .ok false ↔
            ∀ item ∈ items, ∀ e, evaluate body item config ≠ .error e))) ∧
      ∀ before item after, items = before ++ item :: after →
        evaluate body item config = .ok true →
        ∀ (put : α → Run) (others : List α),
          (∀ x ∈ before ++ [item], put x = run config.arrayErrors body x) →
          scanItems config.arrayErrors name put 0 none (before ++ item :: others) =
            run config.arrayErrors (.within name body) scope := by
  refine ⟨?_, ?_, ?_⟩
  · rw [evaluate_within_array h body config, Verdict.ofItems_eq_true, List.mem_map]
  · intro hnone
    refine ⟨?_, ?_⟩
    · intro hpolicy
      exact evaluate_array_lastItem h hpolicy hnone
    · intro hpolicy
      exact evaluate_array_firstError h hpolicy hnone
  · intro before item after hitems hitem put others hput
    rw [run_within_array h, hitems]
    exact scanItems_of_fulfilled hput hitem config.arrayErrors name 0 none after others

/-- A part of each kind of outcome: one that is no disk, one that is, and two that are of no kind
that a text could be. -/
def tapePart : PropertyTree := PropertyTree.empty.withValue "kind" (.text "tape")
def diskPart : PropertyTree := PropertyTree.empty.withValue "kind" (.text "disk")
def taskPart : PropertyTree := PropertyTree.empty.withValue "kind" (.category .task)
def listPart : PropertyTree := PropertyTree.empty.withValue "kind" (.list [])

/-- Each policy on its own: what stands behind the disk has no say, nor do the errors before it. -/
theorem evaluate_array_parts :
    let body := Condition.compare "kind" .eq (.text "disk")
    let tree := fun parts => PropertyTree.empty.withArray "part" parts
    let onTask := SemanticError.invalidValueType "kind" .category .text
    let onList := SemanticError.invalidOperator "kind" .eq .list
    evaluate (.within "part" body) (tree [taskPart, tapePart, diskPart, listPart]) = .ok true ∧
      evaluate (.within "part" body) (tree [taskPart, tapePart, listPart]) ⟨.lastItem⟩ =
        .error onList ∧
      evaluate (.within "part" body) (tree [listPart, tapePart]) ⟨.lastItem⟩ = .ok false ∧
      evaluate (.within "part" body) (tree [tapePart, taskPart, listPart, tapePart])
        ⟨.firstError⟩ = .error onTask ∧
      scanItems .firstError "part"
          (fun part => if part == listPart then .quiet (.ok false) else run .firstError body part)
          0 none [taskPart, diskPart, listPart, tapePart] =
        run .firstError (.within "part" body) (tree [taskPart, diskPart]) := by
  intro body tree onTask onList
  have hresolve : ∀ parts, resolve (tree parts) "part" = .ok (.array parts) := fun _ => rfl
  have htask : ∀ config, evaluate body taskPart config = .error onTask := fun _ => rfl
  have hlist : ∀ config, evaluate body listPart config = .error onList := fun _ => rfl
  have htape : ∀ config, evaluate body tapePart config = .ok false := fun _ => rfl
  have hdisk : ∀ config, evaluate body diskPart config = .ok true := fun _ => rfl
  have htaskOther : (taskPart == listPart) = false := rfl
  have hdiskOther : (diskPart == listPart) = false := rfl
  refine ⟨?_, ?_, ?_, ?_, ?_⟩
  · refine (evaluate_array (hresolve _) body {}).1.mpr ⟨diskPart, ?_, hdisk _⟩
    simp
  · have hnone := (evaluate_array (hresolve [taskPart, tapePart, listPart]) body ⟨.lastItem⟩).2.1
    refine ((hnone ?_).1 rfl).1 onList |>.mpr ⟨listPart, rfl, hlist _⟩
    simp [htask, htape, hlist]
  · have hnone := (evaluate_array (hresolve [listPart, tapePart]) body ⟨.lastItem⟩).2.1
    refine ((hnone ?_).1 rfl).2.mpr ?_
    · simp [htape, hlist]
    · simp [htape]
  · have hnone := (evaluate_array (hresolve [tapePart, taskPart, listPart, tapePart]) body
      ⟨.firstError⟩).2.1
    refine ((hnone ?_).2 rfl).1 onTask |>.mpr ⟨[tapePart], taskPart, _, rfl, htask _, ?_⟩
    · simp [htask, htape, hlist]
    · simp [htape]
  · refine (evaluate_array (hresolve [taskPart, diskPart]) body ⟨.firstError⟩).2.2 [taskPart]
      diskPart [] rfl (hdisk _) _ [listPart, tapePart] ?_
    simp [htaskOther, hdiskOther]

end Condition

end Criteria
