/-
The comparisons of one property with one literal go together.

Equality and its negation are answered by one table, and what needs an order by another.  Both
refuse an operator by the kind of the property alone, and within a family they refuse alike.
Where there is an order there is equality as well, and it is that of the order: what is compared
is equal just when neither comes first, whether equality is that of amounts, of components, of
instants or of what is written.  So one place in the order decides all six comparisons.
-/
import Criteria.Comparison
import Criteria.Proofs.Instant

namespace Criteria

namespace CompareOp

/-- Whether a comparison is equality or its negation. -/
def isEquality : CompareOp → Bool
  | .eq => true
  | .ne => true
  | _ => false

/-- Comparisons of one family: two of equality, or two that need an order. -/
def Akin (op other : CompareOp) : Prop :=
  op.isEquality = true ∧ other.isEquality = true ∨ op.isOrdering = true ∧ other.isOrdering = true

instance (op other : CompareOp) : Decidable (op.Akin other) := inferInstanceAs (Decidable (_ ∨ _))

/-- The places in an order that a comparison is true of.  A pattern and an item have nothing to do
with an order. -/
def accepts? : CompareOp → Option (Ordering → Bool)
  | .eq => some Ordering.isEq
  | .ne => some Ordering.isNe
  | .lt => some Ordering.isLT
  | .le => some Ordering.isLE
  | .gt => some Ordering.isGT
  | .ge => some Ordering.isGE
  | .like => none
  | .contains => none

/-- The comparisons that there are for properties of a kind. -/
def supports : CompareOp → ValueKind → Bool
  | .like, kind => kind == .text
  | .contains, kind => kind == .list
  | op, kind => match kind with
    | .quantity => true
    | .version => true
    | .timestamp => true
    | .text => op.isEquality
    | .category => op.isEquality
    | .regex => false
    | .list => false

end CompareOp

theorem CompareOp.supports_of_isEquality {op : CompareOp} (h : op.isEquality = true)
    (kind : ValueKind) : op.supports kind = CompareOp.supports .eq kind := by
  cases op with
  | eq => rfl
  | ne => rfl
  | _ => cases h

theorem CompareOp.supports_of_isOrdering {op : CompareOp} (h : op.isOrdering = true)
    (kind : ValueKind) : op.supports kind = CompareOp.supports .lt kind := by
  cases op with
  | lt => rfl
  | le => rfl
  | gt => rfl
  | ge => rfl
  | _ => cases h

theorem CompareOp.supports_of_akin {op other : CompareOp} (h : op.Akin other) (kind : ValueKind) :
    op.supports kind = other.supports kind := by
  rcases h with ⟨hop, hother⟩ | ⟨hop, hother⟩
  · rw [supports_of_isEquality hop, supports_of_isEquality hother]
  · rw [supports_of_isOrdering hop, supports_of_isOrdering hother]

/-- The same cause where another comparison was asked for. -/
def SemanticError.withOperator (op : CompareOp) : SemanticError → SemanticError
  | .invalidOperator name _ kind => .invalidOperator name op kind
  | e => e

namespace Comparison

variable {name : String} {op other : CompareOp} {v w : Value} {e : SemanticError} {o : Ordering}

/-! ### The two tables -/

/-- Amounts are refused for their units and for nothing else. -/
theorem quantities_eq_error {a b : Quantity} (h : quantities name a b = .error e) :
    e = .invalidValueUnit name (a.unit.getD "") (b.unit.getD "") := by
  simp only [quantities] at h
  split at h
  · exact (Except.error.inj h).symm
  · split at h
    · cases h
    · exact (Except.error.inj h).symm

theorem equal_of_not_supports (h : CompareOp.supports .eq v.kind = false) :
    equal name op v w = .error (.invalidOperator name op v.kind) := by
  cases v with
  | pattern p => rfl
  | list items => rfl
  | _ => cases h

/-- Where there is equality, the operator it is asked for does not matter. -/
theorem equal_congr (h : CompareOp.supports .eq v.kind = true) (op other : CompareOp) :
    equal name op v w = equal name other v w := by
  cases v with
  | pattern p => cases h
  | list items => cases h
  | _ => cases w <;> rfl

theorem order_of_not_supports (h : CompareOp.supports .lt v.kind = false) :
    order name op v w = .error (.invalidOperator name op v.kind) := by
  cases v with
  | quantity q => cases h
  | version u => cases h
  | timestamp t => cases h
  | _ => rfl

/-- Nor does it where there is an order. -/
theorem order_congr (h : CompareOp.supports .lt v.kind = true) (op other : CompareOp) :
    order name op v w = order name other v w := by
  cases v with
  | quantity q => cases w <;> rfl
  | version u => cases w <;> rfl
  | timestamp t => cases w <;> rfl
  | _ => cases h

private theorem order_of_order (h : order name op v w = .ok o) : order name other v w = .ok o := by
  cases hs : CompareOp.supports .lt v.kind with
  | false =>
      rw [order_of_not_supports hs] at h
      cases h
  | true => rw [order_congr hs other op, h]

/-- What is ordered is equal where neither comes first. -/
theorem equal_of_order (h : order name op v w = .ok o) :
    equal name other v w = .ok o.isEq := by
  cases v with
  | quantity a =>
      cases w with
      | quantity b => exact congrArg (Except.map Ordering.isEq) h
      | _ => cases h
  | version a =>
      cases w with
      | version b =>
          cases h
          rfl
      | _ => cases h
  | timestamp a =>
      cases w with
      | timestamp b =>
          cases h
          have hsame : (a == b) = (a.compare b).isEq := by
            rw [Bool.eq_iff_iff, beq_iff_eq, Ordering.isEq_iff_eq_eq, Timestamp.compare_eq_eq]
          exact congrArg Except.ok hsame
      | _ => cases h
  | _ => cases h

/-! ### The families -/

theorem compare_of_not_supports (h : op.supports v.kind = false) :
    compare name op v w = .error (.invalidOperator name op v.kind) := by
  cases op with
  | eq => exact equal_of_not_supports h
  | ne => exact congrArg (Except.map (!·)) (equal_of_not_supports h)
  | lt => exact congrArg (Except.map Ordering.isLT) (order_of_not_supports h)
  | le => exact congrArg (Except.map Ordering.isLE) (order_of_not_supports h)
  | gt => exact congrArg (Except.map Ordering.isGT) (order_of_not_supports h)
  | ge => exact congrArg (Except.map Ordering.isGE) (order_of_not_supports h)
  | like =>
      cases v with
      | text s => cases h
      | _ => rfl
  | contains =>
      cases v with
      | list items => cases h
      | _ => rfl

private theorem equal_ne_invalidOperator (h : CompareOp.supports .eq v.kind = true) {n : String}
    {p : CompareOp} {k : ValueKind} : equal name op v w ≠ .error (.invalidOperator n p k) := by
  cases v with
  | pattern p => cases h
  | list items => cases h
  | quantity a =>
      cases w with
      | quantity b =>
          rw [equal]
          cases hq : quantities name a b with
          | ok o => nofun
          | error e =>
              rw [quantities_eq_error hq]
              nofun
      | _ => nofun
  | _ => cases w <;> nofun

private theorem order_ne_invalidOperator (h : CompareOp.supports .lt v.kind = true) {n : String}
    {p : CompareOp} {k : ValueKind} : order name op v w ≠ .error (.invalidOperator n p k) := by
  cases v with
  | quantity a =>
      cases w with
      | quantity b =>
          intro herror
          cases quantities_eq_error herror
      | _ => nofun
  | version a => cases w <;> nofun
  | timestamp a => cases w <;> nofun
  | _ => cases h

theorem compare_of_isEquality (h : op.isEquality = true) (name : String) (v w : Value) :
    ∃ f, compare name op v w = (equal name op v w).map f := by
  cases op with
  | eq => exact ⟨id, (congrFun Except.map_id _).symm⟩
  | ne => exact ⟨_, rfl⟩
  | _ => cases h

theorem compare_of_isOrdering (h : op.isOrdering = true) (name : String) (v w : Value) :
    ∃ f, compare name op v w = (order name op v w).map f := by
  cases op with
  | lt => exact ⟨_, rfl⟩
  | le => exact ⟨_, rfl⟩
  | gt => exact ⟨_, rfl⟩
  | ge => exact ⟨_, rfl⟩
  | _ => cases h

/-- Comparisons of one family read one result, and it refuses no operator. -/
theorem exists_map_of_akin (h : op.Akin other) (hs : op.supports v.kind = true) (name : String)
    (w : Value) :
    ∃ (α : Type) (r : Except SemanticError α) (f g : α → Bool),
      compare name op v w = r.map f ∧ compare name other v w = r.map g ∧
        ∀ n p k, r ≠ .error (.invalidOperator n p k) := by
  rcases h with ⟨hop, hother⟩ | ⟨hop, hother⟩
  · rw [CompareOp.supports_of_isEquality hop] at hs
    obtain ⟨f, hf⟩ := compare_of_isEquality hop name v w
    obtain ⟨g, hg⟩ := compare_of_isEquality hother name v w
    rw [equal_congr hs other op] at hg
    exact ⟨Bool, _, f, g, hf, hg, fun n p k => equal_ne_invalidOperator hs⟩
  · rw [CompareOp.supports_of_isOrdering hop] at hs
    obtain ⟨f, hf⟩ := compare_of_isOrdering hop name v w
    obtain ⟨g, hg⟩ := compare_of_isOrdering hother name v w
    rw [order_congr hs other op] at hg
    exact ⟨Ordering, _, f, g, hf, hg, fun n p k => order_ne_invalidOperator hs⟩

/-- What is not refused for its kind is refused for nothing but its literal. -/
theorem compare_ne_invalidOperator (h : op.supports v.kind = true) {n : String} {p : CompareOp}
    {k : ValueKind} : compare name op v w ≠ .error (.invalidOperator n p k) := by
  by_cases hakin : op.Akin op
  · obtain ⟨α, r, f, -, hf, -, hr⟩ := exists_map_of_akin hakin h name w
    rw [hf]
    intro herror
    cases r with
    | ok a => cases herror
    | error d =>
        cases herror
        exact hr n p k rfl
  · cases op with
    | like =>
        cases v with
        | text s => cases w <;> nofun
        | _ => cases h
    | contains =>
        cases v with
        | list items => cases w <;> nofun
        | _ => cases h
    | _ => exact absurd (by decide) hakin

theorem compare_eq_invalidOperator {n : String} {p : CompareOp} {k : ValueKind} :
    compare name op v w = .error (.invalidOperator n p k) ↔
      op.supports v.kind = false ∧ n = name ∧ p = op ∧ k = v.kind := by
  constructor
  · intro h
    cases hs : op.supports v.kind with
    | true => exact absurd h (compare_ne_invalidOperator hs)
    | false =>
        rw [compare_of_not_supports hs] at h
        cases h
        exact ⟨rfl, rfl, rfl, rfl⟩
  · rintro ⟨hs, rfl, rfl, rfl⟩
    exact compare_of_not_supports hs

/-- Comparisons of one family are refused alike. -/
theorem compare_eq_error_of_akin (hakin : op.Akin other) (h : compare name op v w = .error e) :
    compare name other v w = .error (e.withOperator other) := by
  cases hs : op.supports v.kind with
  | false =>
      rw [compare_of_not_supports hs] at h
      cases h
      exact compare_of_not_supports (CompareOp.supports_of_akin hakin v.kind ▸ hs)
  | true =>
      obtain ⟨α, r, f, g, hf, hg, hr⟩ := exists_map_of_akin hakin hs name w
      rw [hf] at h
      rw [hg]
      cases r with
      | ok a => cases h
      | error d =>
          cases h
          cases e with
          | invalidOperator n p k => exact absurd rfl (hr n p k)
          | _ => rfl

/-- Where there is an order, the place of the property in it decides. -/
theorem compare_of_order (h : order name op v w = .ok o) {f : Ordering → Bool}
    (hf : other.accepts? = some f) : compare name other v w = .ok (f o) := by
  have horder : order name other v w = .ok o := order_of_order h
  cases other with
  | eq =>
      cases hf
      exact equal_of_order h
  | ne =>
      cases hf
      rw [compare, equal_of_order h]
      cases o <;> rfl
  | like => cases hf
  | contains => cases hf
  | _ =>
      cases hf
      rw [compare, horder]
      rfl

/-- Inequality is the negation of equality. -/
theorem compare_ne_eq_ok {b : Bool} :
    compare name .ne v w = .ok b ↔ compare name .eq v w = .ok (!b) := by
  rw [compare, compare]
  cases hs : CompareOp.supports .eq v.kind with
  | false => simp only [equal_of_not_supports hs, Except.map, reduceCtorEq]
  | true =>
      rw [equal_congr hs .ne .eq]
      cases equal name .eq v w with
      | error e => simp only [Except.map, reduceCtorEq]
      | ok c => simp only [Except.map, Except.ok.injEq, Bool.not_eq_eq_eq_not]

/-- What needs an order and has a result is in an order. -/
theorem exists_order_of_compare (hop : op.isOrdering = true) {b : Bool}
    (h : compare name op v w = .ok b) : ∃ o, order name op v w = .ok o := by
  obtain ⟨f, hf⟩ := compare_of_isOrdering hop name v w
  rw [hf] at h
  cases ho : order name op v w with
  | error e =>
      rw [ho] at h
      cases h
  | ok o => exact ⟨o, rfl⟩

/-- **The comparisons of one property with one literal are coherent.**  Inequality is the negation
of equality, and the comparisons of a family are refused together, with errors that differ in the
operator at most.  Where one that needs an order has a result, so has equality; one of less,
equal and greater holds, and the others are put together from them.  An operator is refused by
the kind of the property alone. -/
theorem comparisons_coherent (name : String) (v w : Value) :
    (∀ b, compare name .ne v w = .ok b ↔ compare name .eq v w = .ok (!b)) ∧
      (∀ op other e, CompareOp.Akin op other → compare name op v w = .error e →
        compare name other v w = .error (e.withOperator other)) ∧
      (∀ op b, CompareOp.isOrdering op = true → compare name op v w = .ok b →
        ∃ less equal greater, compare name .lt v w = .ok less ∧
          compare name .eq v w = .ok equal ∧ compare name .gt v w = .ok greater ∧
          [less, equal, greater].count true = 1 ∧
          compare name .le v w = .ok (less || equal) ∧ compare name .ge v w = .ok (!less) ∧
          greater = !(less || equal)) ∧
      ∀ op n p k, compare name op v w = .error (.invalidOperator n p k) ↔
        CompareOp.supports op v.kind = false ∧ n = name ∧ p = op ∧ k = v.kind := by
  refine ⟨fun b => compare_ne_eq_ok, fun op other e => compare_eq_error_of_akin, ?_,
    fun op n p k => compare_eq_invalidOperator⟩
  intro op b hop hb
  obtain ⟨o, ho⟩ := exists_order_of_compare hop hb
  have hall : ∀ other f, CompareOp.accepts? other = some f →
      compare name other v w = .ok (f o) := fun other f hf => compare_of_order ho hf
  refine ⟨o.isLT, o.isEq, o.isGT, hall _ _ rfl, hall _ _ rfl, hall _ _ rfl, ?_⟩
  have hle := hall .le _ rfl
  have hge := hall .ge _ rfl
  cases o with
  | lt => exact ⟨rfl, hle, hge, rfl⟩
  | eq => exact ⟨rfl, hle, hge, rfl⟩
  | gt => exact ⟨rfl, hle, hge, rfl⟩

/-- An amount that is just above the limit, and a text that has no order. -/
theorem comparisons_coherent_clock :
    let clock : Value := .quantity ⟨1025, none, some "Hz", rfl, by simp, by decide +kernel⟩
    let limit : Value := .quantity ⟨1, some .kilo, none, rfl, by simp, by simp⟩
    CompareOp.isOrdering .ge = true ∧ compare "clock" .ge clock limit = .ok true ∧
      (∃ less equal greater, compare "clock" .lt clock limit = .ok less ∧
        compare "clock" .eq clock limit = .ok equal ∧
        compare "clock" .gt clock limit = .ok greater ∧
        [less, equal, greater].count true = 1 ∧
        compare "clock" .le clock limit = .ok (less || equal) ∧
        compare "clock" .ge clock limit = .ok (!less) ∧ greater = !(less || equal)) ∧
      CompareOp.Akin .lt .ge ∧
      compare "os" .lt (.text "linux") limit = .error (.invalidOperator "os" .lt .text) ∧
      compare "os" .ge (.text "linux") limit = .error (.invalidOperator "os" .ge .text) := by
  intro clock limit
  obtain ⟨-, -, hplace, -⟩ := comparisons_coherent "clock" clock limit
  obtain ⟨-, hakin, -, -⟩ := comparisons_coherent "os" (.text "linux") limit
  have hge : compare "clock" .ge clock limit = .ok true := by decide +kernel
  have hlt : compare "os" .lt (.text "linux") limit =
      .error (.invalidOperator "os" .lt .text) := rfl
  exact ⟨rfl, hge, hplace .ge true rfl hge, by decide, hlt, hakin .lt .ge _ (by decide) hlt⟩

end Comparison

end Criteria
