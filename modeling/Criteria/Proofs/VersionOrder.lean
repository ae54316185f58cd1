/-
Versions stand in an order.

It is total, it goes from one version to the next, and the versions that it does not tell apart
are the equal ones, spellings of one another.  Two spellings are always at hand: a version with
components `0` added behind it, and a version as it is written.
-/
import Criteria.Proofs.Version

namespace Criteria.Version

/-! ### Spellings of one version -/

theorem leadsWithDigit_append {parts : List String} (h : leadsWithDigit parts = true)
    (more : List String) : leadsWithDigit (parts ++ more) = true := by
  cases parts with
  | nil => exact absurd h Bool.false_ne_true
  | cons part parts => exact h

theorem all_isPart_append_zero {parts : List String} (h : parts.all isPart = true) :
    (parts ++ [zeroPart]).all isPart = true := by
  rw [List.all_append, h]
  decide

/-- The version with a component `0` added behind it. -/
def extended (v : Version) : Version :=
  ⟨v.parts ++ [zeroPart], leadsWithDigit_append v.leading _, all_isPart_append_zero v.wellFormed⟩

private theorem extended_beq (v : Version) : (v.extended == v) = true :=
  beq_iff.mpr (compareParts_append_zero v.parts)

private theorem parse_append_zero {text : String} {v : Version} (h : parse text = .ok v) :
    parse (text ++ ".0") = .ok v.extended := by
  rw [parse_eq_ok] at h ⊢
  rw [h, extended, String.intercalate_append_of_ne_nil v.parts_ne_nil (List.cons_ne_nil _ _),
    String.intercalate_singleton, String.append_assoc]
  rfl

/-- A text with so many components `0` behind it. -/
def withZeros (text : String) : Nat → String
  | 0 => text
  | n + 1 => withZeros text n ++ ".0"

/-- However many zeros there are behind a version, they count as nothing. -/
theorem exists_parse_withZeros {text : String} {v : Version} (h : parse text = .ok v) (n : Nat) :
    ∃ w, parse (withZeros text n) = .ok w ∧ (w == v) = true := by
  induction n with
  | zero => exact ⟨v, h, BEq.rfl⟩
  | succ n ih =>
      obtain ⟨w, hread, hequal⟩ := ih
      exact ⟨w.extended, parse_append_zero hread, BEq.trans w.extended_beq hequal⟩

/-! ### The order -/

theorem isLE_total (v w : Version) : (v.compare w).isLE = true ∨ (w.compare v).isLE = true := by
  have hswap : w.compare v = (v.compare w).swap := Std.OrientedCmp.eq_swap
  rw [hswap]
  cases v.compare w <;> decide

/-- **Versions stand in a total order, up to how they are spelled.**  Comparing the other way round
turns the result round, the order is total and transitive, and versions are equal just when
neither comes first; equal versions compare alike with every other one.  Zeros behind a version
make an equal one, and what is written for a version is read as an equal one. -/
theorem order_laws :
    (∀ v w : Version, v.compare w = (w.compare v).swap) ∧
      (∀ v w : Version, (v.compare w).isLE = true ∨ (w.compare v).isLE = true) ∧
      (∀ u v w : Version, (u.compare v).isLE = true → (v.compare w).isLE = true →
        (u.compare w).isLE = true) ∧
      (Equivalence fun v w : Version => (v == w) = true) ∧
      (∀ v w : Version, (v == w) = true ↔ v.compare w = .eq) ∧
      (∀ u v w : Version, (v == w) = true →
        v.compare u = w.compare u ∧ u.compare v = u.compare w) ∧
      (∀ (text : String) (v : Version) (n : Nat), parse text = .ok v →
        ∃ w, parse (withZeros text n) = .ok w ∧ (w == v) = true) ∧
      ∀ v : Version, ∃ w, parse (toString v) = .ok w ∧ (w == v) = true := by
  refine ⟨fun v w => Std.OrientedCmp.eq_swap, isLE_total, ?_, ?_, fun v w => beq_iff, ?_, ?_, ?_⟩
  · intro u v w huv hvw
    exact Std.TransCmp.isLE_trans huv hvw
  · exact ⟨fun _ => BEq.rfl, BEq.symm, BEq.trans⟩
  · intro u v w hvw
    have hcompare := beq_iff.mp hvw
    exact ⟨Std.TransCmp.congr_left hcompare, Std.TransCmp.congr_right hcompare⟩
  · intro text v n hread
    exact exists_parse_withZeros hread n
  · intro v
    exact ⟨v.written, v.parse_chars, v.written_beq⟩

/-- The version `9.10`. -/
def numbered : Version := ⟨["9", "10"], by decide +kernel, by decide +kernel⟩

/-- The version `9.99999999999999999999`, whose last number is too long to be compared as one. -/
def overlong : Version := ⟨["9", "99999999999999999999"], by decide +kernel, by decide +kernel⟩

/-- The version `9.9z`. -/
def lettered : Version := ⟨["9", "9z"], by decide +kernel, by decide +kernel⟩

/-- The version `09.10.0`. -/
def respelled : Version := ⟨["09", "10", "0"], by decide +kernel, by decide +kernel⟩

/-- Numbers, numbers that are too long and texts in one row, and a version in two spellings. -/
theorem order_laws_mixed :
    (numbered.compare overlong).isLE = true ∧ (overlong.compare lettered).isLE = true ∧
      (numbered.compare lettered).isLE = true ∧ (respelled == numbered) = true ∧
      respelled.compare lettered = numbered.compare lettered ∧
      parse "9.10" = .ok numbered ∧
      ∃ w, parse "9.10.0.0.0" = .ok w ∧ (w == numbered) = true := by
  obtain ⟨-, -, htrans, -, -, hcongr, hzeros, -⟩ := order_laws
  have hfirst : (numbered.compare overlong).isLE = true := by
    simp only [compare, numbered, overlong, compareParts]
    decide +kernel
  have hsecond : (overlong.compare lettered).isLE = true := by
    simp only [compare, overlong, lettered, compareParts]
    decide +kernel
  have hequal : (respelled == numbered) = true := by
    rw [beq_iff]
    simp only [compare, respelled, numbered, compareParts]
    decide +kernel
  have hread : parse "9.10" = .ok numbered := rfl
  exact ⟨hfirst, hsecond, htrans _ _ _ hfirst hsecond, hequal,
    (hcongr lettered respelled numbered hequal).1, hread, hzeros "9.10" numbered 3 hread⟩

end Criteria.Version
