/-
Amounts are compared as whole numbers.

A magnitude is widened before it is shifted, and the widest prefix shifts it by fifty places, so
the word that holds an amount has room for every one of them and says exactly the magnitude times
a power of 1024.  Units decide whether two amounts compare, amounts alone decide how.

A quantity without a unit compares with all others, and so two of them may compare with a third and
not with each other.  Where all three do, they stand in the order of their amounts.  The evaluator
is stricter in one direction: it asks that the property names the unit that the literal names.
-/
import Criteria.Proofs.Operator
import Mathlib.Algebra.Order.Ring.Int
import Mathlib.Tactic.IntervalCases

namespace Criteria

namespace Quantity

/-! ### The word of an amount -/

/-- Shifting multiplies by a power of two, whatever is lost on the way. -/
private theorem ofInt_shiftLeft (width : Nat) (i : Int) (n : Nat) :
    BitVec.ofInt width i <<< n = BitVec.ofInt width (i * 2 ^ n) := by
  have hpower : BitVec.ofInt width (2 ^ n) = BitVec.twoPow width n := by
    apply BitVec.eq_of_toNat_eq
    rw [BitVec.toNat_ofInt, BitVec.toNat_twoPow]
    exact_mod_cast Int.toNat_natCast (2 ^ n % 2 ^ width)
  rw [BitVec.ofInt_mul, hpower, BitVec.shiftLeft_eq_mul_twoPow]

private theorem rank_le (unitPrefix : Option UnitPrefix) : rank unitPrefix ≤ 5 := by
  cases unitPrefix with
  | none => decide
  | some p => cases p <;> decide

/-- Every amount has room in its word. -/
theorem amount_bounds (q : Quantity) :
    -2 ^ 127 ≤ q.magnitude * 1024 ^ rank q.unitPrefix ∧
      q.magnitude * 1024 ^ rank q.unitPrefix < 2 ^ 127 := by
  obtain ⟨hlow, hhigh⟩ := isMagnitude_iff.mp q.bounded
  have hrank := rank_le q.unitPrefix
  unfold minMagnitude at hlow
  unfold maxMagnitude at hhigh
  interval_cases rank q.unitPrefix <;> omega

theorem amount_eq (q : Quantity) : q.amount = q.magnitude * 1024 ^ rank q.unitPrefix := by
  obtain ⟨hlow, hhigh⟩ := q.amount_bounds
  have hpower : (2 : Int) ^ (10 * rank q.unitPrefix) = 1024 ^ rank q.unitPrefix := by
    rw [pow_mul]
    rfl
  rw [amount, word, ofInt_shiftLeft, hpower]
  exact BitVec.toInt_ofInt_eq_self (by decide) hlow hhigh

/-! ### Units -/

/-- Both name a unit, and not the same one. -/
def InConflict (a b : Quantity) : Prop := ∃ u v, a.unit = some u ∧ b.unit = some v ∧ u ≠ v

theorem InConflict.symm {a b : Quantity} (h : a.InConflict b) : b.InConflict a := by
  obtain ⟨u, v, hu, hv, hne⟩ := h
  exact ⟨v, u, hv, hu, hne.symm⟩

private theorem comparable_eq_false {a b : Quantity} : comparable a b = false ↔ a.InConflict b := by
  rw [comparable.eq_def]
  split
  · next u v hu hv => simp [InConflict, hu, hv]
  · next h =>
    simp only [Bool.true_eq_false, false_iff]
    rintro ⟨u, v, hu, hv, -⟩
    exact h u v hu hv

/-- Two quantities are refused for the units that they name, and for nothing else. -/
theorem compare?_eq_error {a b : Quantity} {e : ValueError} :
    a.compare? b = .error e ↔
      ∃ u v, a.unit = some u ∧ b.unit = some v ∧ u ≠ v ∧ e = .unitConflict u v := by
  rw [compare?]
  split
  · next h =>
    simp only [reduceCtorEq, false_iff]
    rintro ⟨u, v, hu, hv, hne, -⟩
    rw [comparable_eq_false.mpr ⟨u, v, hu, hv, hne⟩] at h
    exact absurd h Bool.false_ne_true
  · next h =>
    obtain ⟨u, v, hu, hv, hne⟩ := comparable_eq_false.mp (Bool.eq_false_of_not_eq_true h)
    simp [hu, hv, hne, eq_comm]

theorem compare?_eq_ok {a b : Quantity} {o : Ordering} :
    a.compare? b = .ok o ↔ ¬ a.InConflict b ∧ o = compare a.amount b.amount := by
  rw [compare?, ← comparable_eq_false, Bool.not_eq_false]
  split
  · next h => simp [h, eq_comm]
  · next h => simp [h]

theorem compare?_swap {a b : Quantity} {o : Ordering} :
    a.compare? b = .ok o ↔ b.compare? a = .ok o.swap := by
  have hswap : compare b.amount a.amount = (compare a.amount b.amount).swap :=
    Std.OrientedCmp.eq_swap
  rw [compare?_eq_ok, compare?_eq_ok, hswap, Ordering.swap_inj]
  exact and_congr_left fun _ => not_congr ⟨InConflict.symm, InConflict.symm⟩

private theorem compare?_conflict_symm {a b : Quantity} {u v : String}
    (h : a.compare? b = .error (.unitConflict u v)) :
    b.compare? a = .error (.unitConflict v u) := by
  obtain ⟨u, v, hu, hv, hne, he⟩ := compare?_eq_error.mp h
  cases he
  exact compare?_eq_error.mpr ⟨v, u, hv, hu, hne.symm, rfl⟩

theorem compare?_self (a : Quantity) : a.compare? a = .ok .eq := by
  refine compare?_eq_ok.mpr ⟨?_, Std.ReflCmp.compare_self.symm⟩
  rintro ⟨u, v, hu, hv, hne⟩
  exact hne (Option.some.inj (hu.symm.trans hv))

/-- Of two steps that do not go down, the one that goes up decides. -/
private theorem compare_eq_then {x y z : Int} (hxy : (compare x y).isLE = true)
    (hyz : (compare y z).isLE = true) : compare x z = (compare x y).then (compare y z) := by
  cases h : compare x y with
  | lt => exact Std.TransCmp.lt_of_lt_of_isLE h hyz
  | eq =>
      rw [Std.LawfulEqOrd.eq_of_compare h]
      rfl
  | gt =>
      rw [h] at hxy
      cases hxy

/-- The literal names a unit that the property is not measured in. -/
def Mismeasured (property literal : Quantity) : Prop :=
  ∃ u, literal.unit = some u ∧ property.unit ≠ some u

end Quantity

/-! ### Amounts in the evaluator -/

namespace Comparison

variable {name : String} {property literal : Quantity}

private theorem quantities_of_mismeasured (h : property.Mismeasured literal) :
    quantities name property literal =
      .error (.invalidValueUnit name (property.unit.getD "") (literal.unit.getD "")) := by
  obtain ⟨v, hv, hne⟩ := h
  cases hu : property.unit with
  | none => simp [quantities, hu, hv]
  | some u =>
      have hconflict : property.compare? literal = .error (.unitConflict u v) :=
        Quantity.compare?_eq_error.mpr ⟨u, v, hu, hv, fun huv => hne (huv ▸ hu), rfl⟩
      simp [quantities, hu, hv, hconflict]

theorem compare?_of_not_mismeasured (h : ¬ property.Mismeasured literal) :
    property.compare? literal = .ok (Ord.compare property.amount literal.amount) := by
  refine Quantity.compare?_eq_ok.mpr ⟨?_, rfl⟩
  rintro ⟨u, v, hu, hv, hne⟩
  exact h ⟨v, hv, fun huv => hne (Option.some.inj (hu.symm.trans huv))⟩

private theorem quantities_of_not_mismeasured (h : ¬ property.Mismeasured literal) :
    quantities name property literal = .ok (Ord.compare property.amount literal.amount) := by
  have hunit : (property.unit.isNone && literal.unit.isSome) = false := by
    cases hv : literal.unit with
    | none => exact Bool.and_false _
    | some v =>
        cases hu : property.unit with
        | none => exact absurd ⟨v, hv, by simp [hu]⟩ h
        | some u => rfl
  simp only [quantities, hunit, compare?_of_not_mismeasured h, Bool.false_eq_true, if_false]

/-- Every comparison of amounts reads the one result. -/
theorem compare_quantities {op : CompareOp} {f : Ordering → Bool} (hf : op.accepts? = some f) :
    compare name op (.quantity property) (.quantity literal) =
      (quantities name property literal).map f := by
  cases op with
  | ne =>
      cases hf
      rw [compare, equal]
      cases quantities name property literal with
      | error e => rfl
      | ok o => cases o <;> rfl
  | like => cases hf
  | contains => cases hf
  | _ =>
      cases hf
      rfl

end Comparison

namespace Quantity

/-- **Amounts are exact, and they are compared as whole numbers wherever units allow it.**  No
amount leaves its word, by a shift or by a sign.  Two quantities are refused exactly when they name
different units, either way round, and compare by their amounts otherwise, a quantity with itself
as equal; and where three of them compare with one another the order is transitive.  The evaluator
refuses a literal exactly when it names a unit that the property does not name, and compares in the
same way otherwise. -/
theorem amounts_compared :
    (∀ q : Quantity, 10 * rank q.unitPrefix < 128 ∧
      -2 ^ 127 ≤ q.magnitude * 1024 ^ rank q.unitPrefix ∧
      q.magnitude * 1024 ^ rank q.unitPrefix < 2 ^ 127 ∧
      q.amount = q.magnitude * 1024 ^ rank q.unitPrefix) ∧
    (∀ (a b : Quantity) (e : ValueError), a.compare? b = .error e ↔
      ∃ u v, a.unit = some u ∧ b.unit = some v ∧ u ≠ v ∧ e = .unitConflict u v) ∧
    (∀ (a b : Quantity) (o : Ordering), a.compare? b = .ok o ↔
      ¬ a.InConflict b ∧ o = compare a.amount b.amount) ∧
    (∀ (a b : Quantity) (o : Ordering), a.compare? b = .ok o ↔ b.compare? a = .ok o.swap) ∧
    (∀ (a b : Quantity) (u v : String), a.compare? b = .error (.unitConflict u v) ↔
      b.compare? a = .error (.unitConflict v u)) ∧
    (∀ a : Quantity, a.compare? a = .ok .eq) ∧
    (∀ (a b c : Quantity) (o o' o'' : Ordering), a.compare? b = .ok o → b.compare? c = .ok o' →
      a.compare? c = .ok o'' → o.isLE = true → o'.isLE = true → o'' = o.then o') ∧
    ∀ (name : String) (op : CompareOp) (f : Ordering → Bool) (p l : Quantity),
      op.accepts? = some f →
      (p.Mismeasured l → Comparison.compare name op (.quantity p) (.quantity l) =
        .error (.invalidValueUnit name (p.unit.getD "") (l.unit.getD ""))) ∧
      (¬ p.Mismeasured l → p.compare? l = .ok (compare p.amount l.amount) ∧
        Comparison.compare name op (.quantity p) (.quantity l) =
          .ok (f (compare p.amount l.amount))) := by
  refine ⟨?_, fun a b e => compare?_eq_error, fun a b o => compare?_eq_ok,
    fun a b o => compare?_swap,
    fun a b u v => ⟨compare?_conflict_symm, compare?_conflict_symm⟩, compare?_self, ?_, ?_⟩
  · intro q
    have hrank := rank_le q.unitPrefix
    exact ⟨by omega, q.amount_bounds.1, q.amount_bounds.2, q.amount_eq⟩
  · intro a b c o o' o'' hab hbc hac ho ho'
    obtain ⟨-, rfl⟩ := compare?_eq_ok.mp hab
    obtain ⟨-, rfl⟩ := compare?_eq_ok.mp hbc
    obtain ⟨-, rfl⟩ := compare?_eq_ok.mp hac
    exact compare_eq_then ho ho'
  · intro name op f p l hf
    rw [Comparison.compare_quantities hf]
    refine ⟨fun h => ?_, fun h => ⟨Comparison.compare?_of_not_mismeasured h, ?_⟩⟩
    · rw [Comparison.quantities_of_mismeasured h]
      rfl
    · rw [Comparison.quantities_of_not_mismeasured h]
      rfl

/-- The least magnitude with the widest prefix. -/
def leastBytes : Quantity := ⟨minMagnitude, some .peta, some "B", rfl, by simp, by decide +kernel⟩

/-- Minus one kilo, of no unit. -/
def minusKilo : Quantity := ⟨-1, some .kilo, none, rfl, by simp, by simp⟩

/-- The same amount, in bytes. -/
def minusBytes : Quantity := ⟨-1024, none, some "B", rfl, by simp, by decide +kernel⟩

/-- From the least amount there is to one that is spelled in two ways; a property without a unit
is not compared with bytes, though the two amounts are equal. -/
theorem amounts_compared_least :
    leastBytes.compare? minusKilo = .ok .lt ∧ minusKilo.compare? minusBytes = .ok .eq ∧
      leastBytes.compare? minusBytes = .ok .lt ∧ Ordering.lt = Ordering.lt.then .eq ∧
      CompareOp.accepts? .ge = some Ordering.isGE ∧ minusKilo.Mismeasured minusBytes ∧
      Comparison.compare "free" .ge (.quantity minusKilo) (.quantity minusBytes) =
        .error (.invalidValueUnit "free" "" "B") ∧
      ¬ minusBytes.Mismeasured minusKilo ∧
      Comparison.compare "free" .ge (.quantity minusBytes) (.quantity minusKilo) = .ok true := by
  obtain ⟨-, -, -, -, -, -, htrans, hevaluator⟩ := amounts_compared
  have hleast : leastBytes.compare? minusKilo = .ok .lt := by decide +kernel
  have hequal : minusKilo.compare? minusBytes = .ok .eq := by decide +kernel
  have hfirst : leastBytes.compare? minusBytes = .ok .lt := by decide +kernel
  have hunit : minusKilo.Mismeasured minusBytes := ⟨"B", rfl, by decide⟩
  have hnone : ¬ minusBytes.Mismeasured minusKilo := by
    rintro ⟨u, hu, -⟩
    cases hu
  refine ⟨hleast, hequal, hfirst, htrans _ _ _ _ _ _ hleast hequal hfirst rfl rfl, rfl, hunit,
    (hevaluator "free" .ge _ minusKilo minusBytes rfl).1 hunit, hnone, ?_⟩
  rw [((hevaluator "free" .ge _ minusBytes minusKilo rfl).2 hnone).2]
  decide +kernel

end Quantity

end Criteria
