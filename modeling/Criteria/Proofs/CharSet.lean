/-
Sets of characters as ranges.

Ranges are in order when each begins at least two code points behind the one before, so that none
overlap or touch.  A range that is added keeps them so, and what is left between them is in order
as well.  So every set has ranges in order, and these hold the code points that the set has.
-/
import Criteria.Regex.CharSet

namespace Criteria

open Unicode

namespace Unicode

/-- The ranges are not empty, begin at `least` or later, and leave out a code point between each
two. -/
def Ranges.InOrder : Nat → Ranges → Prop
  | _, [] => True
  | least, (first, last) :: rest =>
    least ≤ first ∧ first ≤ last ∧ Ranges.InOrder (last + 2) rest

namespace Ranges

theorem InOrder.mono {least least' : Nat} {rs : Ranges} (h : InOrder least rs)
    (hle : least' ≤ least) : InOrder least' rs := by
  cases rs with
  | nil => trivial
  | cons r rest => exact ⟨Nat.le_trans hle h.1, h.2⟩

theorem contains_cons (first last : Nat) (rs : Ranges) (n : Nat) :
    Ranges.contains ((first, last) :: rs) n = true ↔
      first ≤ n ∧ n ≤ last ∨ rs.contains n = true := by
  simp [Ranges.contains]

theorem contains_iff {rs : Ranges} {n : Nat} :
    rs.contains n = true ↔ ∃ r ∈ rs, r.1 ≤ n ∧ n ≤ r.2 := by
  simp [Ranges.contains]

theorem contains_common {rs ss : Ranges} {n : Nat} :
    (common rs ss).contains n = true ↔ rs.contains n = true ∧ ss.contains n = true := by
  simp only [contains_iff, common, List.mem_flatMap, List.mem_map]
  constructor
  · rintro ⟨-, ⟨r, hr, r', hr', rfl⟩, hfirst, hlast⟩
    exact ⟨⟨r, hr, by omega⟩, r', hr', by omega⟩
  · rintro ⟨⟨r, hr, hn⟩, r', hr', hn'⟩
    exact ⟨_, ⟨r, hr, r', hr', rfl⟩, by omega⟩

private theorem contains_nil (n : Nat) : Ranges.contains [] n = false := rfl

private theorem InOrder.le_of_contains {least n : Nat} {rs : Ranges} (h : InOrder least rs)
    (hn : rs.contains n = true) : least ≤ n := by
  induction rs generalizing least with
  | nil => exact absurd hn Bool.false_ne_true
  | cons r rest ih =>
      rcases (contains_cons r.1 r.2 rest n).mp hn with hhead | hrest
      · exact Nat.le_trans h.1 hhead.1
      · exact ih (h.2.2.mono (by have := h.1; have := h.2.1; omega)) hrest

/-- A range that is added keeps the order, and its code points are added and no others. -/
theorem add_spec {least first last : Nat} {rs : Ranges} (hleast : least ≤ first)
    (hrange : first ≤ last) (h : InOrder least rs) :
    InOrder least (add first last rs) ∧
      ∀ n, (add first last rs).contains n = true ↔
        first ≤ n ∧ n ≤ last ∨ rs.contains n = true := by
  fun_induction add first last rs generalizing least with
  | case1 first last => exact ⟨⟨hleast, hrange, trivial⟩, contains_cons first last []⟩
  | case2 first last a b rest hbefore =>
      exact ⟨⟨hleast, hrange, by omega, h.2⟩, contains_cons first last _⟩
  | case3 first last a b rest hbefore hafter ih =>
      obtain ⟨horder, hcontains⟩ := ih (by omega) hrange h.2.2
      refine ⟨⟨h.1, h.2.1, horder⟩, fun n => ?_⟩
      rw [contains_cons, contains_cons, hcontains]
      exact or_left_comm
  | case4 first last a b rest hbefore hafter ih =>
      obtain ⟨hfirst, hlast, hrest⟩ := h
      have hmerged : InOrder least rest := hrest.mono (by omega)
      obtain ⟨horder, hcontains⟩ := ih (by omega) (by omega) hmerged
      refine ⟨horder, fun n => ?_⟩
      rw [hcontains, contains_cons, ← or_assoc]
      refine or_congr_left ?_
      omega

theorem addAll_spec {others : Ranges} (h : InOrder 0 others) (rs : Ranges) :
    InOrder 0 (addAll rs others) ∧
      ∀ n, (addAll rs others).contains n = true ↔
        rs.contains n = true ∨ others.contains n = true := by
  induction rs with
  | nil => exact ⟨h, fun n => by simp [addAll, contains_nil]⟩
  | cons r rs ih =>
      obtain ⟨first, last⟩ := r
      obtain ⟨horder, hcontains⟩ := ih
      show InOrder 0 (if first ≤ last then add first last (addAll rs others)
        else addAll rs others) ∧ ∀ n, (if first ≤ last then add first last (addAll rs others)
        else addAll rs others).contains n = true ↔ _
      split
      · next hrange =>
        obtain ⟨hadded, hmember⟩ := add_spec (Nat.zero_le first) hrange horder
        refine ⟨hadded, fun n => ?_⟩
        rw [hmember, hcontains, contains_cons, or_assoc]
      · next hempty =>
        refine ⟨horder, fun n => ?_⟩
        rw [hcontains, contains_cons]
        have hnone : ¬ (first ≤ n ∧ n ≤ last) := by omega
        rw [or_iff_right hnone]

end Ranges

open Ranges in
/-- What is left between ranges in order is in order. -/
theorem complementFrom_spec {first : Nat} {rs : Ranges} (h : InOrder first rs) :
    InOrder first (complementFrom first rs) ∧
      ∀ n, (complementFrom first rs).contains n = true ↔
        first ≤ n ∧ n ≤ lastCodePoint ∧ ¬ rs.contains n = true := by
  fun_induction complementFrom first rs with
  | case1 first hfirst =>
      refine ⟨⟨Nat.le_refl first, hfirst, trivial⟩, fun n => ?_⟩
      simp [contains_cons, contains_nil]
  | case2 first hfirst =>
      refine ⟨trivial, fun n => ?_⟩
      simp only [contains_nil, Bool.false_eq_true, not_false_iff, and_true, false_iff]
      omega
  | case3 first a b rest hgap ih =>
      obtain ⟨hfirst, hrange, hrest⟩ := h
      obtain ⟨horder, hcontains⟩ := ih (hrest.mono (by omega))
      refine ⟨⟨Nat.le_refl first, by omega, horder.mono (by omega)⟩, fun n => ?_⟩
      rw [contains_cons, hcontains, contains_cons]
      by_cases hn : Ranges.contains rest n = true
      · have hbehind := hrest.le_of_contains hn
        simp only [hn, not_true, and_false, or_true, or_false, iff_false]
        omega
      · simp only [hn, not_false_eq_true, Bool.false_eq_true, and_true, or_false]
        omega
  | case4 first a b rest hnone ih =>
      obtain ⟨hfirst, hrange, hrest⟩ := h
      obtain ⟨horder, hcontains⟩ := ih (hrest.mono (by omega))
      refine ⟨horder.mono (by omega), fun n => ?_⟩
      rw [hcontains, contains_cons]
      by_cases hn : Ranges.contains rest n = true
      · simp only [hn, not_true, and_false, or_true]
      · simp only [hn, not_false_eq_true, Bool.false_eq_true, and_true, or_false]
        omega

end Unicode

/-! ### Sets -/

namespace Regex

open Ranges

private theorem mem_orbitOf (table : List (List Nat)) (n : Nat) :
    n ∈ (table.find? fun orbit => orbit.contains n).getD [n] := by
  cases horbit : table.find? fun orbit => orbit.contains n with
  | none => exact List.mem_singleton_self n
  | some orbit =>
      have hn := List.find?_some horbit
      exact List.contains_iff_mem.mp hn

private theorem orbitOf_eq_singleton {table : List (List Nat)} {n : Nat} (h : n ∉ table.flatten) :
    (table.find? fun orbit => orbit.contains n).getD [n] = [n] := by
  have hnone : table.find? (fun orbit => orbit.contains n) = none := by
    rw [List.find?_eq_none]
    intro orbit horbit hn
    exact h (List.mem_flatten.mpr ⟨orbit, horbit, List.contains_iff_mem.mp hn⟩)
  rw [hnone]
  rfl

theorem Folding.mem_variants (f : Folding) (n : Nat) : n ∈ f.variants n := by
  cases f with
  | ascii =>
      simp only [variants]
      split
      · exact List.mem_cons_self
      · split
        · exact List.mem_cons_self
        · exact List.mem_cons_self
  | unicode =>
      simp only [variants, caseVariants]
      split
      · simp only [asciiVariants]
        grind
      · exact mem_orbitOf orbits n

/-- A code point that is not listed has no variant but itself. -/
theorem Folding.variants_eq_singleton {f : Folding} {n : Nat} (h : n ∉ f.points) :
    f.variants n = [n] := by
  have hletters : n ∉ Folding.points.letters := by
    cases f with
    | ascii => exact h
    | unicode => exact fun hn => h (List.mem_append_left _ hn)
  have hcases : ¬ (0x41 ≤ n ∧ n ≤ 0x5A) ∧ ¬ (0x61 ≤ n ∧ n ≤ 0x7A) := by
    simp only [Folding.points.letters, List.mem_append, List.mem_range'_1] at hletters
    omega
  cases f with
  | ascii => simp only [variants, hcases.1, hcases.2, if_false]
  | unicode =>
      simp only [variants, caseVariants, asciiVariants]
      split
      · grind
      · exact orbitOf_eq_singleton fun hn => h (List.mem_append_right _ hn)

/-- **The ranges of a set are in order, and hold just what the set has.** -/
theorem CharSet.toRanges_spec (set : CharSet) :
    InOrder 0 set.toRanges ∧ ∀ n, set.toRanges.contains n = true ↔ set.contains n = true := by
  induction set with
  | ranges rs =>
      have hnone : InOrder 0 ([] : Ranges) := trivial
      obtain ⟨horder, hcontains⟩ := addAll_spec hnone rs
      refine ⟨horder, fun n => ?_⟩
      rw [toRanges, hcontains, contains_nil, contains]
      simp
  | union a b iha ihb =>
      obtain ⟨horder, hcontains⟩ := addAll_spec ihb.1 a.toRanges
      refine ⟨horder, fun n => ?_⟩
      rw [toRanges, hcontains, iha.2, ihb.2, contains, Bool.or_eq_true]
  | inter a b iha ihb =>
      have hnone : InOrder 0 ([] : Ranges) := trivial
      obtain ⟨horder, hcontains⟩ := addAll_spec hnone (common a.toRanges b.toRanges)
      refine ⟨horder, fun n => ?_⟩
      rw [toRanges, hcontains, contains_common, iha.2, ihb.2, contains_nil, contains,
        Bool.and_eq_true]
      simp
  | complement a ih =>
      obtain ⟨horder, hcontains⟩ := complementFrom_spec ih.1
      refine ⟨horder, fun n => ?_⟩
      rw [toRanges, hcontains, ih.2, contains, Bool.and_eq_true, decide_eq_true_eq]
      simp
  | caseless f a ih =>
      obtain ⟨horder, hcontains⟩ := addAll_spec ih.1
        ((f.points.filter fun n => (f.variants n).any a.toRanges.contains).map fun n => (n, n))
      refine ⟨horder, fun n => ?_⟩
      have hsame : a.toRanges.contains = a.contains :=
        funext fun m => Bool.eq_iff_iff.mpr (ih.2 m)
      rw [toRanges, hcontains, contains, contains_iff, hsame]
      simp only [List.mem_map, List.mem_filter]
      constructor
      · rintro (⟨-, ⟨m, ⟨-, hm⟩, rfl⟩, hle, hge⟩ | hn)
        · rwa [Nat.le_antisymm hge hle]
        · exact List.any_eq_true.mpr ⟨n, f.mem_variants n, hn⟩
      · intro hn
        by_cases hpoint : n ∈ f.points
        · exact Or.inl ⟨_, ⟨n, ⟨hpoint, hn⟩, rfl⟩, Nat.le_refl n, Nat.le_refl n⟩
        · rw [Folding.variants_eq_singleton hpoint, List.any_cons, List.any_nil,
            Bool.or_false] at hn
          exact Or.inr hn

end Regex

end Criteria
