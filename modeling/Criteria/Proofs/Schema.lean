/-
Checking looks at the schema alone.

Two trees have one schema when they bind the same names, to values of one kind, to trees of one
schema or to arrays of as many items, each of one schema with the other in its place; and where
the values are quantities, they name the same unit or both name none.  A comparison fails or
does not fail by the kinds of its operands and the units they name, and what it reports is made
of these as well.  So a check finds the same in trees of one schema, and what passes it on one
tree has a verdict on all of them.
-/
import Criteria.Proofs.Meaning

namespace Criteria

/-! ### Values of one sort -/

/-- The unit that a value names.  Only quantities name one. -/
def Value.unit? : Value → Option String
  | .quantity q => q.unit
  | _ => none

/-- Values of one kind that name the same unit, or both none. -/
structure Value.SameSort (v w : Value) : Prop where
  kind : v.kind = w.kind
  unit : v.unit? = w.unit?

/-- Whether a result is an error, and which. -/
def faultOf {ε α : Type} (r : Except ε α) : Except ε Unit := r.map fun _ => ()

@[simp] theorem faultOf_map {ε α β : Type} (r : Except ε α) (f : α → β) :
    faultOf (r.map f) = faultOf r := by
  cases r <;> rfl

namespace Comparison

variable {name : String} {op : CompareOp} {v w literal : Value}

/-- Units alone decide whether amounts compare. -/
theorem faultOf_quantities {a b : Quantity} (h : a.unit = b.unit) (name : String)
    (literal : Quantity) :
    faultOf (quantities name a literal) = faultOf (quantities name b literal) := by
  have hcomparable : a.comparable literal = b.comparable literal := by
    rw [Quantity.comparable, Quantity.comparable, h]
  unfold quantities
  simp only [h, Quantity.compare?, hcomparable]
  by_cases hmissing : (b.unit.isNone && literal.unit.isSome) = true
  · simp only [hmissing, if_true]
  · by_cases hunits : b.comparable literal = true
    · simp [hmissing, hunits, faultOf, Except.map]
    · simp [hmissing, hunits, faultOf, Except.map]

private theorem faultOf_equal (h : v.SameSort w) :
    faultOf (equal name op v literal) = faultOf (equal name op w literal) := by
  obtain ⟨hkind, hunit⟩ := h
  cases v <;> cases w <;> first | exact ValueKind.noConfusion hkind | skip
  case quantity.quantity a b =>
    cases literal with
    | quantity q =>
        simp only [equal, faultOf_map]
        exact faultOf_quantities hunit name q
    | _ => rfl
  all_goals cases literal <;> rfl

private theorem faultOf_order (h : v.SameSort w) :
    faultOf (order name op v literal) = faultOf (order name op w literal) := by
  obtain ⟨hkind, hunit⟩ := h
  cases v <;> cases w <;> first | exact ValueKind.noConfusion hkind | skip
  case quantity.quantity a b =>
    cases literal with
    | quantity q => exact faultOf_quantities hunit name q
    | _ => rfl
  all_goals cases literal <;> rfl

private theorem faultOf_like (h : v.SameSort w) :
    faultOf (like name v literal) = faultOf (like name w literal) := by
  obtain ⟨hkind, -⟩ := h
  cases v <;> cases w <;> first | exact ValueKind.noConfusion hkind | skip
  all_goals cases literal <;> rfl

private theorem faultOf_contains (h : v.SameSort w) :
    faultOf (contains name v literal) = faultOf (contains name w literal) := by
  obtain ⟨hkind, -⟩ := h
  cases v <;> cases w <;> first | exact ValueKind.noConfusion hkind | skip
  all_goals cases literal <;> rfl

/-- Every comparison fails alike on values of one sort. -/
theorem faultOf_compare (h : v.SameSort w) :
    faultOf (compare name op v literal) = faultOf (compare name op w literal) := by
  cases op with
  | eq => exact faultOf_equal h
  | ne => simpa only [compare, faultOf_map] using faultOf_equal h
  | lt => simpa only [compare, faultOf_map] using faultOf_order h
  | le => simpa only [compare, faultOf_map] using faultOf_order h
  | gt => simpa only [compare, faultOf_map] using faultOf_order h
  | ge => simpa only [compare, faultOf_map] using faultOf_order h
  | like => exact faultOf_like h
  | contains => exact faultOf_contains h

end Comparison

/-! ### Trees of one schema -/

namespace PropertyTree

mutual

/-- The same names are bound in both trees, each to nodes of one schema. -/
inductive SameSchema : PropertyTree → PropertyTree → Prop where
  | intro {s t : PropertyTree}
      (h : ∀ name, Option.Rel SameNodeSchema (s.node? name) (t.node? name)) : SameSchema s t

/-- Both nodes are values of one sort, or trees of one schema, or arrays of as many of these. -/
inductive SameNodeSchema : Node → Node → Prop where
  | simple {v w : Value} (h : v.SameSort w) : SameNodeSchema (.simple v) (.simple w)
  | container {s t : PropertyTree} (h : SameSchema s t) :
      SameNodeSchema (.container s) (.container t)
  | array {ss ts : List PropertyTree} (h : List.Forall₂ SameSchema ss ts) :
      SameNodeSchema (.array ss) (.array ts)

end

/-- Trees of one schema answer alike, with values of one sort. -/
theorem alike_sameSchema : Alike Value.SameSort SameSchema (List.Forall₂ SameSchema) := by
  rintro s t ⟨h⟩ name
  have hbound := h name
  rw [resolve_eq, resolve_eq]
  generalize s.node? name = p, t.node? name = q at hbound ⊢
  cases hbound with
  | none => exact .refused _
  | some hnode =>
      cases hnode with
      | simple h => exact .simple h
      | container h => exact .container h
      | array h => exact .array h

theorem sameSchema_empty : SameSchema .empty .empty := .intro fun _ => .none

/-- Binding a name to nodes of one schema leaves trees of one schema. -/
theorem SameSchema.insert {s t : PropertyTree} (h : SameSchema s t) (name : String)
    {x y : Node} (hxy : SameNodeSchema x y) : SameSchema (s.insert name x) (t.insert name y) := by
  obtain ⟨h⟩ := h
  refine .intro fun n => ?_
  by_cases hn : name = n
  · rw [← hn, node?_insert_self, node?_insert_self]
    exact .some hxy
  · rw [node?_insert_of_ne hn, node?_insert_of_ne hn]
    exact h n

end PropertyTree

/-! ### Checks -/

namespace Condition

open PropertyTree

/-- **A check finds the same in trees of one schema**, whatever the values are; and what passes
it on one tree has a verdict on every tree of the schema, under either policy. -/
theorem check_of_sameSchema (c : Condition) {s t : PropertyTree} (h : SameSchema s t) :
    check c s = check c t ∧
      (check c s = .ok () → ∀ config, ∃ b, evaluate c t config = .ok b) := by
  have hcheck : check c s = check c t :=
    check_eq_of_alike alike_sameSchema (fun _ _ hvw _ _ _ => Comparison.faultOf_compare hvw) c h
  refine ⟨hcheck, fun hok config => ?_⟩
  rw [hcheck, check_firstFault, firstFault_eq_ok] at hok
  exact ⟨holds c t, evaluate_eq_holds hok config⟩

/-- So many megahertz. -/
def megahertz (n : Nat) (h : Quantity.isMagnitude n = true) : Quantity where
  magnitude := n
  unitPrefix := some .mega
  unit := some "Hz"
  bounded := h
  readsBack := by decide +kernel

/-- A scope with an array of two cores, of these clocks. -/
def cores (first second : Quantity) : PropertyTree :=
  PropertyTree.empty.withArray "core"
    [PropertyTree.empty.withValue "clock" (.quantity first),
      PropertyTree.empty.withValue "clock" (.quantity second)]

theorem sameSchema_cores {p q p' q' : Quantity} (hp : p.unit = p'.unit) (hq : q.unit = q'.unit) :
    SameSchema (cores p q) (cores p' q') := by
  have hcore : ∀ {a b : Quantity}, a.unit = b.unit →
      SameSchema (PropertyTree.empty.withValue "clock" (.quantity a))
        (PropertyTree.empty.withValue "clock" (.quantity b)) := fun h =>
    sameSchema_empty.insert "clock" (.simple ⟨rfl, h⟩)
  exact sameSchema_empty.insert "core" (.array (.cons (hcore hp) (.cons (hcore hq) .nil)))

/-- Two cores of other clocks: the check finds the same, be it nothing or a unit that is none of
theirs, and the verdicts differ. -/
theorem check_of_sameSchema_cores :
    let slow := megahertz 800 rfl
    let fast := megahertz 2400 rfl
    let s := cores slow fast
    let t := cores slow slow
    let c := Condition.within "core" (.compare "clock" .gt (.quantity (megahertz 2000 rfl)))
    let other := Condition.within "core" (.compare "clock" .gt
      (.quantity ⟨2, some .giga, some "B", rfl, by simp, by decide +kernel⟩))
    SameSchema s t ∧ check c s = .ok () ∧ check c s = check c t ∧
      (∀ config, ∃ b, evaluate c t config = .ok b) ∧
      evaluate c s = .ok true ∧ evaluate c t = .ok false ∧
      check other t = .error (.invalidValueUnit "clock" "Hz" "B") := by
  intro slow fast s t c other
  have hschema : SameSchema s t := sameSchema_cores rfl rfl
  have hok : check c s = .ok () := by decide +kernel
  have hunit : check other s = .error (.invalidValueUnit "clock" "Hz" "B") := by decide +kernel
  obtain ⟨hcheck, hverdict⟩ := check_of_sameSchema c hschema
  exact ⟨hschema, hok, hcheck, hverdict hok, by decide +kernel, by decide +kernel,
    (check_of_sameSchema other hschema).1.symm.trans hunit⟩

end Condition

end Criteria
