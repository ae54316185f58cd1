/-
What a check finds.

The faults of a condition are all the places at which it does not fit a scope, in the order
of the source, every part being put to every scope that it is about.  A check stops at the
first of them.  An evaluation passes over what it does not reach, holds errors back and drops
them, but has none of its own: whatever it reports is a fault.
-/
import Criteria.Proofs.Verdict
import Criteria.PropertyTree

namespace Criteria

/-! ### The first of some faults -/

/-- What a check makes of faults: the first of them, if there is one. -/
def firstFault : List SemanticError → Except SemanticError Unit
  | [] => .ok ()
  | e :: _ => .error e

theorem firstFault_eq_ok {es : List SemanticError} : firstFault es = .ok () ↔ es = [] := by
  cases es <;> simp [firstFault]

private theorem firstFault_eq_error {es : List SemanticError} {e : SemanticError} :
    firstFault es = .error e ↔ es.head? = some e := by
  cases es <;> simp [firstFault]

private theorem checkItems_firstFault {α : Type} {item : α → Except SemanticError Unit}
    {faults : α → List SemanticError} (h : ∀ x, item x = firstFault (faults x))
    (items : List α) : checkItems item items = firstFault (items.flatMap faults) := by
  induction items with
  | nil => rfl
  | cons x items ih =>
      rw [checkItems, List.flatMap_cons, h, ih]
      cases faults x <;> rfl

/-! ### Faults -/

section

variable {α : Type} [Container α]

mutual

/-- All that does not fit, in the order of the source. -/
def Condition.faults : Condition → α → List SemanticError
  | .alwaysTrue, _ => []
  | .compare name op literal, scope =>
    match compareIn scope name op literal with
    | .error e => [e]
    | .ok _ => []
  | .conjunction parts, scope => Condition.faultsAll parts scope
  | .disjunction parts, scope => Condition.faultsAll parts scope
  | .within name body, scope =>
    match resolve scope name with
    | .error e => [e]
    | .ok (.simple _) => [.invalidProperty name .notQualifiable]
    | .ok (.container inner) => Condition.faults body inner
    | .ok (.array items) => items.flatMap fun item => Condition.faults body item

def Condition.faultsAll : List Condition → α → List SemanticError
  | [], _ => []
  | c :: cs, scope => Condition.faults c scope ++ Condition.faultsAll cs scope

end

namespace Condition

theorem faultsAll_eq_flatMap (parts : List Condition) (scope : α) :
    faultsAll parts scope = parts.flatMap fun c => faults c scope := by
  induction parts with
  | nil => rfl
  | cons c parts ih => rw [faultsAll, ih, List.flatMap_cons]

theorem faultsAll_eq_nil {parts : List Condition} {scope : α} :
    faultsAll parts scope = [] ↔ ∀ c ∈ parts, faults c scope = [] := by
  rw [faultsAll_eq_flatMap, List.flatMap_eq_nil_iff]

private theorem checkAll_firstFault {parts : List Condition} {scope : α}
    (h : ∀ c ∈ parts, check c scope = firstFault (faults c scope)) :
    checkAll parts scope = firstFault (faultsAll parts scope) := by
  induction parts with
  | nil => rfl
  | cons c parts ih =>
      have hmore := ih fun d hd => h d (List.mem_cons_of_mem c hd)
      rw [checkAll, faultsAll, h c List.mem_cons_self, hmore]
      cases faults c scope <;> rfl

/-- A check stops at the first fault. -/
theorem check_firstFault (c : Condition) (scope : α) :
    check c scope = firstFault (faults c scope) := by
  induction c generalizing scope with
  | alwaysTrue => rfl
  | compare name op literal =>
      rw [check, faults]
      cases compareIn scope name op literal <;> rfl
  | conjunction parts ih =>
      rw [check, faults]
      exact checkAll_firstFault fun c hc => ih c hc scope
  | disjunction parts ih =>
      rw [check, faults]
      exact checkAll_firstFault fun c hc => ih c hc scope
  | within name body ih =>
      rw [check, faults]
      match resolve scope name with
      | .error e => rfl
      | .ok (.simple _) => rfl
      | .ok (.container inner) => exact ih inner
      | .ok (.array items) => exact checkItems_firstFault ih items

/-- Whatever evaluating reports is a fault. -/
theorem mem_faults_of_evaluate {c : Condition} {scope : α} {config : EvalConfig}
    {e : SemanticError} (h : evaluate c scope config = .error e) : e ∈ faults c scope := by
  induction c generalizing scope with
  | alwaysTrue =>
      rw [evaluate_alwaysTrue] at h
      cases h
  | compare name op literal =>
      rw [evaluate_compare] at h
      rw [faults, h]
      exact List.mem_singleton_self e
  | conjunction parts ih =>
      rw [evaluate_conjunction] at h
      obtain ⟨c, hc, he⟩ := List.mem_map.mp (Verdict.mem_of_joined_error h)
      rw [faults, faultsAll_eq_flatMap]
      exact List.mem_flatMap.mpr ⟨c, hc, ih c hc he⟩
  | disjunction parts ih =>
      rw [evaluate_disjunction] at h
      obtain ⟨c, hc, he⟩ := List.mem_map.mp (Verdict.mem_of_joined_error h)
      rw [faults, faultsAll_eq_flatMap]
      exact List.mem_flatMap.mpr ⟨c, hc, ih c hc he⟩
  | within name body ih =>
      rw [evaluate_within] at h
      rw [faults]
      match resolve scope name, h with
      | .error d, h =>
          cases h
          exact List.mem_singleton_self e
      | .ok (.simple _), h =>
          cases h
          exact List.mem_singleton_self _
      | .ok (.container inner), h => exact ih h
      | .ok (.array items), h =>
          rcases Verdict.held_or_mem_of_ofItems_error h with hheld | hmem
          · cases hheld
          · obtain ⟨item, hitem, he⟩ := List.mem_map.mp hmem
            exact List.mem_flatMap.mpr ⟨item, hitem, ih he⟩

/-- **A check reports the first fault, and evaluating reports only faults.** -/
theorem check_iff_faults (c : Condition) (scope : α) :
    (check c scope = .ok () ↔ faults c scope = []) ∧
      (∀ e, check c scope = .error e ↔ (faults c scope).head? = some e) ∧
      ∀ config e, evaluate c scope config = .error e →
        e ∈ faults c scope ∧ check c scope ≠ .ok () := by
  rw [check_firstFault]
  refine ⟨firstFault_eq_ok, fun e => firstFault_eq_error, ?_⟩
  intro config e h
  have hmem := mem_faults_of_evaluate h
  exact ⟨hmem, fun hok => List.ne_nil_of_mem hmem (firstFault_eq_ok.mp hok)⟩

/-- An array of a scope with a text and a scope with nothing, under a comparison that fits
neither.  The check reports the one fault and evaluating the other. -/
theorem faults_of_both_items :
    let body := Condition.compare "kind" .eq (.category .task)
    let items := [PropertyTree.empty.withValue "kind" (.text "task"), .empty]
    let tree := PropertyTree.empty.withArray "part" items
    let missing := SemanticError.invalidProperty "kind" .missing
    evaluate (.within "part" body) tree = .error missing ∧
      missing ∈ faults (.within "part" body) tree ∧
      check (.within "part" body) tree = .error (.invalidValueType "kind" .text .category) := by
  intro body items tree missing
  have hevaluate : evaluate (.within "part" body) tree = .error missing := by decide +kernel
  have hfaults := (check_iff_faults (.within "part" body) tree).2
  exact ⟨hevaluate, (hfaults.2 {} missing hevaluate).1,
    (hfaults.1 (.invalidValueType "kind" .text .category)).mpr (by decide +kernel)⟩

end Condition

end

end Criteria
