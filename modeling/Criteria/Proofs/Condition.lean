/-
Conditions by their parts.

A condition holds lists of conditions, so what is shown of every condition is shown by one
induction in which all members of a list are smaller.  What holds of every part of a
condition, itself included, is said by its parts and not by recursion.

Two conditions are the same when they differ at most in values that compare as equal.
Among values only versions can be equal without being one.
-/
import Criteria.Condition
import Criteria.Proofs.Version
import Mathlib.Data.List.Forall2

namespace Criteria

namespace Condition

/-! ### Induction -/

/-- What holds of a join when it holds of all that it joins holds of every condition. -/
@[induction_eliminator]
theorem induction {motive : Condition → Prop} (alwaysTrue : motive .alwaysTrue)
    (compare : ∀ name op value, motive (.compare name op value))
    (conjunction : ∀ parts, (∀ c ∈ parts, motive c) → motive (.conjunction parts))
    (disjunction : ∀ parts, (∀ c ∈ parts, motive c) → motive (.disjunction parts))
    (within : ∀ name body, motive body → motive (.within name body)) (c : Condition) :
    motive c := by
  refine @Condition.rec motive (fun parts => ∀ c ∈ parts, motive c) alwaysTrue compare
    conjunction disjunction within (fun c hc => absurd hc List.not_mem_nil) ?_ c
  intro c parts hc hparts d hd
  rcases List.mem_cons.mp hd with rfl | hd
  · exact hc
  · exact hparts d hd

/-! ### Parts -/

/-- A condition is a part of itself and of every condition around it. -/
inductive Part : Condition → Condition → Prop where
  | self (c : Condition) : Part c c
  | conjunct {d c : Condition} {parts : List Condition} (hc : c ∈ parts) (hd : Part d c) :
      Part d (.conjunction parts)
  | disjunct {d c : Condition} {parts : List Condition} (hc : c ∈ parts) (hd : Part d c) :
      Part d (.disjunction parts)
  | body {d c : Condition} {name : String} (hd : Part d c) : Part d (.within name c)

/-- A property of every part. -/
def Every (p : Condition → Prop) (c : Condition) : Prop := ∀ d, Part d c → p d

theorem Every.self {p : Condition → Prop} {c : Condition} (h : Every p c) : p c :=
  h c (.self c)

theorem Every.imp {p q : Condition → Prop} {c : Condition} (h : Every p c)
    (hpq : ∀ d, p d → q d) : Every q c :=
  fun d hd => hpq d (h d hd)

theorem every_alwaysTrue {p : Condition → Prop} : Every p .alwaysTrue ↔ p .alwaysTrue := by
  constructor
  · exact Every.self
  · intro h d hd
    cases hd
    exact h

theorem every_compare {p : Condition → Prop} {name : String} {op : CompareOp} {v : Value} :
    Every p (.compare name op v) ↔ p (.compare name op v) := by
  constructor
  · exact Every.self
  · intro h d hd
    cases hd
    exact h

theorem every_conjunction {p : Condition → Prop} {parts : List Condition} :
    Every p (.conjunction parts) ↔ p (.conjunction parts) ∧ ∀ c ∈ parts, Every p c := by
  constructor
  · intro h
    exact ⟨h.self, fun c hc d hd => h d (.conjunct hc hd)⟩
  · rintro ⟨hself, hparts⟩ d hd
    cases hd with
    | self => exact hself
    | conjunct hc hd => exact hparts _ hc d hd

theorem every_disjunction {p : Condition → Prop} {parts : List Condition} :
    Every p (.disjunction parts) ↔ p (.disjunction parts) ∧ ∀ c ∈ parts, Every p c := by
  constructor
  · intro h
    exact ⟨h.self, fun c hc d hd => h d (.disjunct hc hd)⟩
  · rintro ⟨hself, hparts⟩ d hd
    cases hd with
    | self => exact hself
    | disjunct hc hd => exact hparts _ hc d hd

theorem every_within {p : Condition → Prop} {name : String} {body : Condition} :
    Every p (.within name body) ↔ p (.within name body) ∧ Every p body := by
  constructor
  · intro h
    exact ⟨h.self, fun d hd => h d (.body hd)⟩
  · rintro ⟨hself, hbody⟩ d hd
    cases hd with
    | self => exact hself
    | body hd => exact hbody d hd

/-- Every join has two parts at least. -/
def Branches : Condition → Prop
  | .conjunction parts => 2 ≤ parts.length
  | .disjunction parts => 2 ≤ parts.length
  | _ => True

end Condition

/-! ### Equal values -/

/-- Equal values are one value, or two spellings of one version. -/
theorem Value.eq_or_versions_of_beq {v w : Value} (h : (v == w) = true) :
    v = w ∨ ∃ a b, v = .version a ∧ w = .version b ∧ a.compare b = .eq := by
  cases v <;> cases w <;> first
    | exact absurd h Bool.false_ne_true
    | exact Or.inl (congrArg _ (eq_of_beq h))
    | exact Or.inr ⟨_, _, rfl, rfl, Version.beq_iff.mp h⟩

/-! ### Equal conditions -/

namespace Condition

theorem same_alwaysTrue {d : Condition} : same .alwaysTrue d = true ↔ d = .alwaysTrue := by
  cases d <;> simp [same]

theorem same_compare {name : String} {op : CompareOp} {v : Value} {d : Condition} :
    same (.compare name op v) d = true ↔ ∃ w, d = .compare name op w ∧ (v == w) = true := by
  constructor
  · intro h
    cases d with
    | compare m p w =>
        simp only [same, Bool.and_eq_true, beq_iff_eq] at h
        obtain ⟨⟨rfl, rfl⟩, hv⟩ := h
        exact ⟨w, rfl, hv⟩
    | _ => simp [same] at h
  · rintro ⟨w, rfl, hv⟩
    simp [same, hv]

theorem same_conjunction {parts : List Condition} {d : Condition} :
    same (.conjunction parts) d = true ↔
      ∃ others, d = .conjunction others ∧ sameAll parts others = true := by
  cases d <;> simp [same]

theorem same_disjunction {parts : List Condition} {d : Condition} :
    same (.disjunction parts) d = true ↔
      ∃ others, d = .disjunction others ∧ sameAll parts others = true := by
  cases d <;> simp [same]

theorem same_within {name : String} {body d : Condition} :
    same (.within name body) d = true ↔
      ∃ other, d = .within name other ∧ same body other = true := by
  constructor
  · intro h
    cases d with
    | within m other =>
        simp only [same, Bool.and_eq_true, beq_iff_eq] at h
        obtain ⟨rfl, hbody⟩ := h
        exact ⟨other, rfl, hbody⟩
    | _ => simp [same] at h
  · rintro ⟨other, rfl, hbody⟩
    simp [same, hbody]

theorem sameAll_iff {cs ds : List Condition} :
    sameAll cs ds = true ↔ List.Forall₂ (fun c d => same c d = true) cs ds := by
  induction cs generalizing ds with
  | nil => cases ds <;> simp [sameAll]
  | cons c cs ih => cases ds <;> simp [sameAll, ih]

/-- What holds of each of some conditions and every other that is the same holds along lists
that are the same. -/
theorem forall₂_of_sameAll {p : Condition → Condition → Prop} {cs ds : List Condition}
    (hp : ∀ c ∈ cs, ∀ d, same c d = true → p c d) (h : sameAll cs ds = true) :
    List.Forall₂ p cs ds := by
  have hmembers := (List.forall₂_and_left cs ds).mpr ⟨hp, sameAll_iff.mp h⟩
  exact hmembers.imp fun c d hcd => hcd.1 d hcd.2

/-- Lists that are made from one list are the same when their members are. -/
theorem sameAll_map {f g : Condition → Condition} {cs : List Condition}
    (h : ∀ c ∈ cs, same (f c) (g c) = true) : sameAll (cs.map f) (cs.map g) = true := by
  rw [sameAll_iff, List.forall₂_map_left_iff, List.forall₂_map_right_iff, List.forall₂_same]
  exact h

end Condition

end Criteria
