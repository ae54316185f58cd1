/-
Conditions that a text says are well formed.

Names are read as names, values are those that literals denote, and a node joins two
conditions at least, one operand standing for itself.  All of this is seen on the grammar,
one rule at a time.
-/
import Criteria.Proofs.Canonical

namespace Criteria

open Criteria.Text Criteria.Source

/-! ### The values of literals -/

/-- Whether some literal denotes a value: no literal does a list, nor a pattern whose source
a slash would end too early. -/
def Value.OfLiteral : Value → Prop
  | .pattern p => Pattern.EvenlyEscaped p.source.toList
  | .list _ => False
  | _ => True

/-- Apart from timestamps, what literals denote has a literal. -/
theorem Value.OfLiteral.writable {v : Value} (h : v.OfLiteral)
    (htime : ∀ t, v = .timestamp t → t.Writable) : v.Writable := by
  cases v with
  | timestamp t => exact htime t rfl
  | pattern p => exact h
  | list items => exact absurd h id
  | _ => trivial

theorem Source.exists_of_map_eq_ok {α ε : Type} {r : Except ε α} {f : α → Value} {v : Value}
    (h : r.map f = .ok v) : ∃ a, r = .ok a ∧ f a = v := by
  cases r with
  | error e => simp [Except.map] at h
  | ok a => exact ⟨a, rfl, Except.ok.inj h⟩

theorem Pattern.source_of_ofSource {source : String} {caseless : Bool} {p : Pattern}
    (h : ofSource source caseless = .ok p) : p.source = source := by
  rw [ofSource.eq_def] at h
  split at h
  · rw [← Except.ok.inj h]
  · simp at h

private theorem Source.ofLiteral_of_classify {token : String} {v : Value}
    (h : classify token = .ok v) : v.OfLiteral := by
  have hquantity : ∀ r : Except ValueError Quantity,
      r.map Value.quantity = .ok v → v.OfLiteral := by
    intro r hr
    obtain ⟨q, -, rfl⟩ := exists_of_map_eq_ok hr
    trivial
  have hversion : ∀ r : Except ValueError Version,
      r.map Value.version = .ok v → v.OfLiteral := by
    intro r hr
    obtain ⟨w, -, rfl⟩ := exists_of_map_eq_ok hr
    trivial
  simp only [classify] at h
  split at h
  · exact hquantity _ h
  split at h
  · split at h
    · rw [← Except.ok.inj h]
      trivial
    · split at h
      · split at h
        · rw [← Except.ok.inj h]
          trivial
        · simp at h
      · simp at h
  split at h
  · exact hversion _ h
  · exact hquantity _ h

theorem Source.ofLiteral_of_literal {s left : List Char} {v : Value}
    (h : literal s = .ok (v, left)) : v.OfLiteral := by
  rw [literal.eq_def] at h
  split at h
  · simp at h
  · split at h
    · obtain ⟨rfl, -⟩ := Prod.mk.inj (Except.ok.inj h)
      trivial
    · simp at h
  · split at h
    · next source after hread =>
      simp only at h
      obtain ⟨hvalue, -⟩ := located_eq_ok.mp h
      obtain ⟨p, hp, rfl⟩ := exists_of_map_eq_ok hvalue
      show Pattern.EvenlyEscaped p.source.toList
      rw [Pattern.source_of_ofSource hp, String.toList_ofList, Pattern.evenlyEscaped_iff]
      exact isEvenlyEscaped_of_slashed? hread
    · simp at h
  · simp only at h
    split at h
    · exact ofLiteral_of_classify (located_eq_ok.mp h).1
    · split at h
      · obtain ⟨c, -, rfl⟩ := exists_of_map_eq_ok (located_eq_ok.mp h).1
        trivial
      · simp at h

/-! ### The conditions of texts -/

namespace Condition

/-- Whether a condition is well formed, apart from its parts. -/
def WellFormed : Condition → Prop
  | .alwaysTrue => True
  | .compare name _ value => isName name.toList = true ∧ value.OfLiteral
  | .conjunction parts => 2 ≤ parts.length
  | .disjunction parts => 2 ≤ parts.length
  | .within name _ => isName name.toList = true

theorem WellFormed.branches {c : Condition} (h : c.WellFormed) : c.Branches := by
  cases c with
  | conjunction parts => exact h
  | disjunction parts => exact h
  | _ => trivial

/-- A timestamp is all that can keep a well-formed condition from having a text. -/
theorem WellFormed.hasText {c : Condition} (h : c.WellFormed)
    (htime : ∀ name op t, c = .compare name op (.timestamp t) → t.Writable) : c.HasText := by
  cases c with
  | compare name op v =>
      refine ⟨h.1, h.2.writable fun t ht => ?_⟩
      exact htime name op t (by rw [ht])
  | within name body => exact h
  | disjunction parts =>
      rintro rfl
      exact absurd (show 2 ≤ 0 from h) (by decide)
  | _ => trivial

end Condition

namespace Source

open Condition

/-- Joined parts are well formed when each of them is. -/
theorem every_join {node : List Condition → Condition} {cs : List Condition}
    (hnode : ∀ parts, 2 ≤ parts.length → (∀ c ∈ parts, c.Every WellFormed) →
      (node parts).Every WellFormed)
    (hne : cs ≠ []) (h : ∀ c ∈ cs, c.Every WellFormed) :
    (join node cs).Every WellFormed := by
  match cs, hne, h with
  | [c], _, h => exact h c List.mem_cons_self
  | c :: d :: cs, _, h => exact hnode _ (by simp) h

theorem every_join_conjunction {cs : List Condition} (hne : cs ≠ [])
    (h : ∀ c ∈ cs, c.Every WellFormed) : (join .conjunction cs).Every WellFormed :=
  every_join (fun _ htwo hparts => every_conjunction.mpr ⟨htwo, hparts⟩) hne h

theorem every_join_disjunction {cs : List Condition} (hne : cs ≠ [])
    (h : ∀ c ∈ cs, c.Every WellFormed) : (join .disjunction cs).Every WellFormed :=
  every_join (fun _ htwo hparts => every_disjunction.mpr ⟨htwo, hparts⟩) hne h

theorem Conjuncts.ne_nil {t : List Char} {cs : List Condition} (h : Conjuncts t cs) :
    cs ≠ [] := by
  cases h <;> exact List.cons_ne_nil _ _

theorem Disjuncts.ne_nil {t : List Char} {cs : List Condition} (h : Disjuncts t cs) :
    cs ≠ [] := by
  cases h <;> exact List.cons_ne_nil _ _

mutual

theorem Primary.every {t : List Char} {c : Condition} : Primary t c → c.Every WellFormed
  | .alwaysTrue => every_alwaysTrue.mpr trivial
  | .compare op hn _ _ ht => every_compare.mpr
      ⟨by rw [String.toList_ofList]; exact hn.isName, ofLiteral_of_literal ht⟩
  | .within hn _ _ ht _ => every_within.mpr
      ⟨by show isName _ = true; rw [String.toList_ofList]; exact hn,
        every_join_disjunction ht.ne_nil ht.every⟩
  | .group _ ht _ => every_join_disjunction ht.ne_nil ht.every

theorem Conjuncts.every {t : List Char} {cs : List Condition} :
    Conjuncts t cs → ∀ c ∈ cs, c.Every WellFormed
  | .one ht => List.forall_mem_singleton.mpr ht.every
  | .more ht _ _ hu => List.forall_mem_cons.mpr ⟨ht.every, hu.every⟩

theorem Disjuncts.every {t : List Char} {cs : List Condition} :
    Disjuncts t cs → ∀ c ∈ cs, c.Every WellFormed
  | .one ht => List.forall_mem_singleton.mpr (every_join_conjunction ht.ne_nil ht.every)
  | .more ht _ _ hu =>
      List.forall_mem_cons.mpr ⟨every_join_conjunction ht.ne_nil ht.every, hu.every⟩

end

theorem Derives.every {s : List Char} {c : Condition} (h : Derives s c) :
    c.Every WellFormed := by
  obtain ⟨-, ht, -⟩ := h
  exact every_join_disjunction ht.ne_nil ht.every

end Source

namespace Condition

/-- What a text says is well formed in all its parts. -/
theorem every_wellFormed_of_parse {source : String} {c : Condition}
    (h : parse source = .ok c) : c.Every WellFormed := by
  rcases whole_eq_ok.mp (parse_eq_ok.mp h) with ⟨-, rfl⟩ | ⟨hderives, -⟩
  · exact every_alwaysTrue.mpr trivial
  · exact hderives.every

end Condition

end Criteria
