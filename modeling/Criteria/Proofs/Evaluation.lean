/-
What evaluating does not tell apart.

Conditions that are the same have the same runs: the same verdict or the same error, and
the same log on the way to it.  A comparison looks at its operands only by comparing them, so
spellings of one version do not differ in it.  And a join of one part is that part, a
conjunction of none asks nothing.
-/
import Criteria.Evaluation
import Criteria.Proofs.Condition

namespace Criteria

/-! ### Equal operands -/

namespace Comparison

variable {name : String} {op : CompareOp} {property literal property' literal' : Value}

/-- All comparisons come out alike where equality, the order, patterns and items do. -/
theorem compare_eq (hequal : equal name op property literal = equal name op property' literal')
    (horder : order name op property literal = order name op property' literal')
    (hlike : like name property literal = like name property' literal')
    (hcontains : contains name property literal = contains name property' literal') :
    compare name op property literal = compare name op property' literal' := by
  cases op with
  | eq => exact hequal
  | ne => exact congrArg (Except.map (!·)) hequal
  | lt => exact congrArg (Except.map Ordering.isLT) horder
  | le => exact congrArg (Except.map Ordering.isLE) horder
  | gt => exact congrArg (Except.map Ordering.isGT) horder
  | ge => exact congrArg (Except.map Ordering.isGE) horder
  | like => exact hlike
  | contains => exact hcontains

/-- A comparison does not tell equal literals apart. -/
theorem compare_congr {v w : Value} (h : (v == w) = true) (name : String)
    (op : CompareOp) (property : Value) :
    compare name op property v = compare name op property w := by
  rcases Value.eq_or_versions_of_beq h with rfl | ⟨a, b, rfl, rfl, hab⟩
  · rfl
  · cases property with
    | version u =>
        have hcompare : u.compare a = u.compare b := Std.TransCmp.congr_right hab
        have hbeq : (u == a) = (u == b) := congrArg Ordering.isEq hcompare
        exact compare_eq (by simp only [equal, hbeq]) (by simp only [order, hcompare]) rfl rfl
    | _ => exact compare_eq rfl rfl rfl rfl

/-- Nor does it tell equal properties apart. -/
theorem compare_congr_left {v w : Value} (h : (v == w) = true) (name : String)
    (op : CompareOp) (literal : Value) :
    compare name op v literal = compare name op w literal := by
  rcases Value.eq_or_versions_of_beq h with rfl | ⟨a, b, rfl, rfl, hab⟩
  · rfl
  · cases literal with
    | version u =>
        have hcompare : a.compare u = b.compare u := Std.TransCmp.congr_left hab
        have hbeq : (a == u) = (b == u) := congrArg Ordering.isEq hcompare
        exact compare_eq (by simp only [equal, hbeq]) (by simp only [order, hcompare]) rfl rfl
    | _ => exact compare_eq rfl rfl rfl rfl

end Comparison

section

variable {α : Type} [Container α]

theorem compareIn_congr {v w : Value} (h : (v == w) = true) (scope : α) (name : String)
    (op : CompareOp) : compareIn scope name op v = compareIn scope name op w := by
  simp only [compareIn, Comparison.compare_congr h]

/-! ### Equal conditions -/

namespace Condition

/-- Joined conditions run alike if each runs like the one in its place. -/
theorem runAll_eq {β : Type} [Container β] {policy : ArrayErrorPolicy} {cs ds : List Condition}
    {s : α} {t : β} (h : List.Forall₂ (fun c d => run policy c s = run policy d t) cs ds) :
    runAll policy cs s = runAll policy ds t := by
  induction h with
  | nil => rfl
  | cons hcd _ ih => simp only [runAll, hcd, ih]

theorem runAny_eq {β : Type} [Container β] {policy : ArrayErrorPolicy} {cs ds : List Condition}
    {s : α} {t : β} (h : List.Forall₂ (fun c d => run policy c s = run policy d t) cs ds) :
    runAny policy cs s = runAny policy ds t := by
  induction h with
  | nil => rfl
  | cons hcd _ ih => simp only [runAny, hcd, ih]

variable (policy : ArrayErrorPolicy)

/-- Conditions that are the same run alike, whatever they are put to. -/
theorem run_congr {c d : Condition} (h : same c d = true) (scope : α) :
    run policy c scope = run policy d scope := by
  induction c generalizing d scope with
  | alwaysTrue => rw [same_alwaysTrue.mp h]
  | compare name op v =>
      obtain ⟨w, rfl, hvw⟩ := same_compare.mp h
      simp only [run, compareIn_congr hvw]
  | conjunction parts ih =>
      obtain ⟨others, rfl, hparts⟩ := same_conjunction.mp h
      simp only [run]
      exact runAll_eq (forall₂_of_sameAll (fun c hc d hd => ih c hc hd scope) hparts)
  | disjunction parts ih =>
      obtain ⟨others, rfl, hparts⟩ := same_disjunction.mp h
      simp only [run]
      exact runAny_eq (forall₂_of_sameAll (fun c hc d hd => ih c hc hd scope) hparts)
  | within name body ih =>
      obtain ⟨other, rfl, hbody⟩ := same_within.mp h
      have hitems : (fun item : α => run policy body item) = fun item => run policy other item :=
        funext fun item => ih hbody item
      simp only [run, hitems]

/-! ### Joins of fewer than two parts -/

/-- A disjunction of one part is that part. -/
def anyOf : List Condition → Condition
  | [only] => only
  | parts => .disjunction parts

mutual

/-- A condition without joins that join nothing: a conjunction of no parts asks nothing,
and a join of one part is that part. -/
def collapse : Condition → Condition
  | .alwaysTrue => .alwaysTrue
  | .compare name op value => .compare name op value
  | .conjunction parts => allOf (collapseAll parts)
  | .disjunction parts => anyOf (collapseAll parts)
  | .within name body => .within name (collapse body)

def collapseAll : List Condition → List Condition
  | [] => []
  | c :: cs => collapse c :: collapseAll cs

end

theorem collapseAll_eq_map (cs : List Condition) : collapseAll cs = cs.map collapse := by
  induction cs with
  | nil => rw [collapseAll, List.map_nil]
  | cons c cs ih => rw [collapseAll, ih, List.map_cons]

private theorem allOf_of_two {parts : List Condition} (h : 2 ≤ parts.length) :
    allOf parts = .conjunction parts := by
  match parts, h with
  | _ :: _ :: _, _ => rfl

private theorem anyOf_of_two {parts : List Condition} (h : 2 ≤ parts.length) :
    anyOf parts = .disjunction parts := by
  match parts, h with
  | _ :: _ :: _, _ => rfl

/-- Where every join has two parts at least, nothing collapses. -/
theorem collapse_eq_self {c : Condition} (h : c.Every Branches) : collapse c = c := by
  induction c with
  | alwaysTrue => rw [collapse]
  | compare name op v => rw [collapse]
  | conjunction parts ih =>
      obtain ⟨htwo, hparts⟩ := every_conjunction.mp h
      have hmap : parts.map collapse = parts :=
        (List.map_congr_left fun c hc => ih c hc (hparts c hc)).trans (List.map_id' parts)
      rw [collapse, collapseAll_eq_map, hmap, allOf_of_two htwo]
  | disjunction parts ih =>
      obtain ⟨htwo, hparts⟩ := every_disjunction.mp h
      have hmap : parts.map collapse = parts :=
        (List.map_congr_left fun c hc => ih c hc (hparts c hc)).trans (List.map_id' parts)
      rw [collapse, collapseAll_eq_map, hmap, anyOf_of_two htwo]
  | within name body ih =>
      rw [collapse, ih (every_within.mp h).2]

/-- Nothing comes after the last of conditions that are put in order. -/
theorem runAll_singleton (c : Condition) (scope : α) :
    runAll policy [c] scope = run policy c scope := by
  simp only [runAll]
  cases h : run policy c scope with
  | mk events verdict =>
      cases verdict with
      | error e => rfl
      | ok b =>
          cases b with
          | false => rfl
          | true => simp [Run.before, Run.quiet]

theorem runAny_singleton (c : Condition) (scope : α) :
    runAny policy [c] scope = run policy c scope := by
  simp only [runAny]
  cases h : run policy c scope with
  | mk events verdict =>
      cases verdict with
      | error e => rfl
      | ok b =>
          cases b with
          | true => rfl
          | false => simp [Run.before, Run.quiet]

theorem run_allOf (parts : List Condition) (scope : α) :
    run policy (allOf parts) scope = runAll policy parts scope := by
  match parts with
  | [] => simp only [allOf, run, runAll]
  | [c] => exact (runAll_singleton policy c scope).symm
  | _ :: _ :: _ => simp only [allOf, run]

theorem run_anyOf (parts : List Condition) (scope : α) :
    run policy (anyOf parts) scope = runAny policy parts scope := by
  match parts with
  | [] => simp only [anyOf, run]
  | [c] => exact (runAny_singleton policy c scope).symm
  | _ :: _ :: _ => simp only [anyOf, run]

/-- Collapsing a condition leaves its runs as they are. -/
theorem run_collapse (c : Condition) (scope : α) :
    run policy c.collapse scope = run policy c scope := by
  induction c generalizing scope with
  | alwaysTrue => rw [collapse]
  | compare name op v => rw [collapse]
  | conjunction parts ih =>
      rw [collapse, collapseAll_eq_map, run_allOf, run]
      induction parts with
      | nil => rfl
      | cons c cs ihcs =>
          have hmore := ihcs fun d hd => ih d (List.mem_cons_of_mem c hd)
          simp only [List.map_cons, runAll, ih c List.mem_cons_self, hmore]
  | disjunction parts ih =>
      rw [collapse, collapseAll_eq_map, run_anyOf, run]
      induction parts with
      | nil => rfl
      | cons c cs ihcs =>
          have hmore := ihcs fun d hd => ih d (List.mem_cons_of_mem c hd)
          simp only [List.map_cons, runAny, ih c List.mem_cons_self, hmore]
  | within name body ih =>
      have hitems : (fun item : α => run policy body.collapse item) =
          fun item => run policy body item := funext ih
      rw [collapse]
      simp only [run, hitems]

end Condition

end

end Criteria
