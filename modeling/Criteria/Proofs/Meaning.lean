/-
What a condition says of a scope that it fits.

Without a fault a condition has a plain meaning: all operands, any operand, what the body
says of the inside, any item.  Every part is put to the scope, and neither an order nor a
policy has a part in it.  Where nothing is at fault evaluating has a verdict, and it is this
meaning, though it stops at the first operand or item that decides.

So the verdict stays the same when operands stand in another order, and when the items of
arrays do, at any depth.
-/
import Criteria.Proofs.Fault
import Criteria.Proofs.PropertyTree

namespace Criteria

section

variable {α : Type} [Container α]

namespace Condition

/-! ### The plain meaning -/

mutual

/-- What a condition says of a scope, every part being put to it. -/
def holds : Condition → α → Bool
  | .alwaysTrue, _ => true
  | .compare name op literal, scope =>
    match compareIn scope name op literal with
    | .ok b => b
    | .error _ => false
  | .conjunction parts, scope => holdsAll parts scope
  | .disjunction parts, scope => holdsAny parts scope
  | .within name body, scope =>
    match resolve scope name with
    | .ok (.container inner) => holds body inner
    | .ok (.array items) => items.any fun item => holds body item
    | _ => false

def holdsAll : List Condition → α → Bool
  | [], _ => true
  | c :: cs, scope => holds c scope && holdsAll cs scope

def holdsAny : List Condition → α → Bool
  | [], _ => false
  | c :: cs, scope => holds c scope || holdsAny cs scope

end

theorem holds_conjunction (parts : List Condition) (scope : α) :
    holds (.conjunction parts) scope = parts.all fun c => holds c scope := by
  rw [holds]
  induction parts with
  | nil => rfl
  | cons c parts ih => rw [holdsAll, ih, List.all_cons]

theorem holds_disjunction (parts : List Condition) (scope : α) :
    holds (.disjunction parts) scope = parts.any fun c => holds c scope := by
  rw [holds]
  induction parts with
  | nil => rfl
  | cons c parts ih => rw [holdsAny, ih, List.any_cons]

/-- Where nothing is at fault, the verdict is the plain meaning. -/
theorem evaluate_eq_holds {c : Condition} {scope : α} (h : faults c scope = [])
    (config : EvalConfig) : evaluate c scope config = .ok (holds c scope) := by
  induction c generalizing scope with
  | alwaysTrue => rw [evaluate_alwaysTrue, holds]
  | compare name op literal =>
      rw [faults] at h
      rw [evaluate_compare, holds]
      cases hcompare : compareIn scope name op literal with
      | ok b => rfl
      | error e => simp [hcompare] at h
  | conjunction parts ih =>
      rw [faults, faultsAll_eq_nil] at h
      have hparts : (parts.map fun c => evaluate c scope config) =
          (parts.map fun c => holds c scope).map .ok := by
        rw [List.map_map]
        exact List.map_congr_left fun c hc => ih c hc (h c hc)
      rw [evaluate_conjunction, hparts, Verdict.joined_true_ok, holds_conjunction, List.all_map]
      rfl
  | disjunction parts ih =>
      rw [faults, faultsAll_eq_nil] at h
      have hparts : (parts.map fun c => evaluate c scope config) =
          (parts.map fun c => holds c scope).map .ok := by
        rw [List.map_map]
        exact List.map_congr_left fun c hc => ih c hc (h c hc)
      rw [evaluate_disjunction, hparts, Verdict.joined_false_ok, holds_disjunction, List.any_map]
      rfl
  | within name body ih =>
      rw [faults] at h
      rw [evaluate_within, holds]
      generalize resolve scope name = p at h ⊢
      cases p with
      | error e => exact absurd h (List.cons_ne_nil e [])
      | ok p =>
          cases p with
          | simple v => exact absurd h (List.cons_ne_nil _ [])
          | container inner => exact ih h
          | array items =>
              have hall := List.flatMap_eq_nil_iff.mp h
              have hitems : (items.map fun item => evaluate body item config) =
                  (items.map fun item => holds body item).map .ok := by
                rw [List.map_map]
                exact List.map_congr_left fun item hitem => ih (hall item hitem)
              simp only [hitems, Verdict.ofItems_ok, List.any_map]
              rfl

/-! ### Operands in another order -/

/-- Conditions that differ at most in the order of operands, at any depth. -/
inductive Reordered : Condition → Condition → Prop where
  | refl (c : Condition) : Reordered c c
  | trans {c d e : Condition} (hcd : Reordered c d) (hde : Reordered d e) : Reordered c e
  | conjunction {cs ds : List Condition} (h : cs.Perm ds) :
      Reordered (.conjunction cs) (.conjunction ds)
  | disjunction {cs ds : List Condition} (h : cs.Perm ds) :
      Reordered (.disjunction cs) (.disjunction ds)
  | conjunct (before after : List Condition) {c d : Condition} (h : Reordered c d) :
      Reordered (.conjunction (before ++ c :: after)) (.conjunction (before ++ d :: after))
  | disjunct (before after : List Condition) {c d : Condition} (h : Reordered c d) :
      Reordered (.disjunction (before ++ c :: after)) (.disjunction (before ++ d :: after))
  | body (name : String) {c d : Condition} (h : Reordered c d) :
      Reordered (.within name c) (.within name d)

/-- The order of operands has no part in the plain meaning, nor in whether there is a fault. -/
theorem Reordered.same_meaning {c d : Condition} (h : Reordered c d) (scope : α) :
    (faults c scope = [] ↔ faults d scope = []) ∧ holds c scope = holds d scope := by
  induction h generalizing scope with
  | refl c => exact ⟨Iff.rfl, rfl⟩
  | trans _ _ ihcd ihde =>
      exact ⟨(ihcd scope).1.trans (ihde scope).1, (ihcd scope).2.trans (ihde scope).2⟩
  | conjunction h =>
      rw [faults, faults, faultsAll_eq_nil, faultsAll_eq_nil, holds_conjunction,
        holds_conjunction]
      exact ⟨by simp only [h.mem_iff], h.all_eq⟩
  | disjunction h =>
      rw [faults, faults, faultsAll_eq_nil, faultsAll_eq_nil, holds_disjunction,
        holds_disjunction]
      exact ⟨by simp only [h.mem_iff], h.any_eq⟩
  | conjunct before after _ ih =>
      rw [faults, faults, faultsAll_eq_nil, faultsAll_eq_nil, holds_conjunction,
        holds_conjunction]
      simp only [List.forall_mem_append, List.forall_mem_cons, List.all_append, List.all_cons,
        (ih scope).1, (ih scope).2, and_self]
  | disjunct before after _ ih =>
      rw [faults, faults, faultsAll_eq_nil, faultsAll_eq_nil, holds_disjunction,
        holds_disjunction]
      simp only [List.forall_mem_append, List.forall_mem_cons, List.any_append, List.any_cons,
        (ih scope).1, (ih scope).2, and_self]
  | body name _ ih =>
      rw [faults, faults, holds, holds]
      cases resolve scope name with
      | error e => exact ⟨Iff.rfl, rfl⟩
      | ok p =>
          cases p with
          | simple v => exact ⟨Iff.rfl, rfl⟩
          | container inner => exact ih inner
          | array items =>
              simp only [List.flatMap_eq_nil_iff, fun item => (ih item).1,
                fun item => (ih item).2, and_self]

end Condition

end

/-! ### Items in another order -/

/-- Related items, in any order. -/
def Permuted {α β : Type} (R : α → β → Prop) (ss : List α) (ts : List β) : Prop :=
  ∃ us, ss.Perm us ∧ List.Forall₂ R us ts

section

variable {α β : Type} {R : α → β → Prop} {ss : List α} {ts : List β}

theorem Permuted.map {γ : Type} {f : α → γ} {g : β → γ} (h : Permuted R ss ts)
    (hfg : ∀ s t, R s t → f s = g t) : (ss.map f).Perm (ts.map g) := by
  obtain ⟨us, hperm, hrelated⟩ := h
  have heq : us.map f = ts.map g := by
    rw [← List.forall₂_eq_eq_eq, List.forall₂_map_left_iff, List.forall₂_map_right_iff]
    exact hrelated.imp hfg
  rw [← heq]
  exact hperm.map f

theorem Permuted.of_perm {R : α → α → Prop} {ss ts : List α} (hR : ∀ s, R s s)
    (h : ss.Perm ts) : Permuted R ss ts :=
  ⟨ts, h, List.forall₂_same.mpr fun s _ => hR s⟩

theorem Permuted.imp {R' : α → β → Prop} (hR : ∀ s t, R s t → R' s t)
    (h : Permuted R ss ts) : Permuted R' ss ts := by
  obtain ⟨us, hperm, hrelated⟩ := h
  exact ⟨us, hperm, hrelated.imp hR⟩

theorem Permuted.any_eq {f : α → Bool} {g : β → Bool} (h : Permuted R ss ts)
    (hfg : ∀ s t, R s t → f s = g t) : ss.any f = ts.any g := by
  have hany : (ss.map f).any id = (ts.map g).any id := (h.map hfg).any_eq
  rwa [List.any_map, List.any_map] at hany

theorem Permuted.forall_iff {p : α → Prop} {q : β → Prop} (h : Permuted R ss ts)
    (hpq : ∀ s t, R s t → (p s ↔ q t)) : (∀ s ∈ ss, p s) ↔ ∀ t ∈ ts, q t := by
  have hperm : (ss.map p).Perm (ts.map q) := h.map fun s t hst => propext (hpq s t hst)
  have hall : (∀ r ∈ ss.map p, r) ↔ ∀ r ∈ ts.map q, r :=
    forall_congr' fun r => imp_congr_left hperm.mem_iff
  simpa only [List.forall_mem_map] using hall

end

/-- Scopes that differ at most in the order of the items of arrays, at any depth. -/
def Rearranged {α : Type} [Container α] (s t : α) : Prop :=
  ∃ R : α → α → Prop, Alike Eq R (Permuted R) ∧ R s t

section

variable {α : Type} [Container α]

theorem Rearranged.refl (s : α) : Rearranged s s := by
  refine ⟨Eq, ?_, rfl⟩
  rintro s _ rfl name
  exact Answers.refl Eq.refl Eq.refl (fun _ => .of_perm Eq.refl (List.Perm.refl _)) _

/-- What rearranged scopes answer is rearranged. -/
theorem Rearranged.answers {s t : α} (h : Rearranged s t) (name : String) :
    Answers Eq Rearranged (Permuted Rearranged) (resolve s name) (resolve t name) := by
  obtain ⟨R, halike, hst⟩ := h
  have hR : ∀ s t, R s t → Rearranged s t := fun _ _ hst => ⟨R, halike, hst⟩
  exact (halike s t hst name).imp hR fun _ _ hitems => hitems.imp hR

/-- Scopes are rearranged if all that they answer is. -/
theorem Rearranged.of_answers {s t : α}
    (h : ∀ name, Answers Eq Rearranged (Permuted Rearranged) (resolve s name) (resolve t name)) :
    Rearranged s t := by
  -- To answer in this way is itself a relation that answers keep.
  refine ⟨fun s t => ∀ name,
    Answers Eq Rearranged (Permuted Rearranged) (resolve s name) (resolve t name), ?_, h⟩
  intro s t hst name
  exact (hst name).imp (fun _ _ hinner => hinner.answers) fun _ _ hitems =>
    hitems.imp fun _ _ hitem => hitem.answers

end

/-- A tree may have the items of an array in any order, and each of them rearranged. -/
theorem PropertyTree.rearranged_withArray (tree : PropertyTree) (name : String)
    {items others : List PropertyTree} (h : Permuted Rearranged items others) :
    Rearranged (tree.withArray name items) (tree.withArray name others) := by
  refine .of_answers fun n => ?_
  have hsame := (Rearranged.refl tree).answers n
  rw [resolve_eq, resolve_eq, withArray, withArray]
  by_cases hn : name = n
  · rw [hn, node?_insert_self, node?_insert_self]
    exact .array h
  · rw [node?_insert_of_ne hn, node?_insert_of_ne hn, ← resolve_eq]
    exact hsame

namespace Condition

variable {α : Type} [Container α]

/-- The order of items has no part in the plain meaning, nor in whether there is a fault. -/
theorem same_meaning_of_alike {R : α → α → Prop} (halike : Alike Eq R (Permuted R))
    (c : Condition) {s t : α} (h : R s t) :
    (faults c s = [] ↔ faults c t = []) ∧ holds c s = holds c t := by
  induction c generalizing s t with
  | alwaysTrue => exact ⟨Iff.rfl, rfl⟩
  | compare name op literal =>
      have hcompare : compareIn s name op literal = compareIn t name op literal :=
        compareIn_eq (fun v w hvw name op literal => by rw [hvw]) (halike s t h name) op literal
      rw [faults, faults, holds, holds, hcompare]
      exact ⟨Iff.rfl, rfl⟩
  | conjunction parts ih =>
      rw [faults, faults, faultsAll_eq_nil, faultsAll_eq_nil, holds_conjunction,
        holds_conjunction]
      have hparts : parts.map (holds · s) = parts.map (holds · t) :=
        List.map_congr_left fun c hc => (ih c hc h).2
      constructor
      · exact forall₂_congr fun c hc => (ih c hc h).1
      · simpa only [List.all_map, Function.id_comp] using congrArg (List.all · id) hparts
  | disjunction parts ih =>
      rw [faults, faults, faultsAll_eq_nil, faultsAll_eq_nil, holds_disjunction,
        holds_disjunction]
      have hparts : parts.map (holds · s) = parts.map (holds · t) :=
        List.map_congr_left fun c hc => (ih c hc h).2
      constructor
      · exact forall₂_congr fun c hc => (ih c hc h).1
      · simpa only [List.any_map, Function.id_comp] using congrArg (List.any · id) hparts
  | within name body ih =>
      have hanswers := halike s t h name
      rw [faults, faults, holds, holds]
      generalize resolve s name = p, resolve t name = q at hanswers ⊢
      cases hanswers with
      | refused e => exact ⟨Iff.rfl, rfl⟩
      | simple _ => exact ⟨Iff.rfl, rfl⟩
      | container hinner => exact ih hinner
      | array hitems =>
          constructor
          · rw [List.flatMap_eq_nil_iff, List.flatMap_eq_nil_iff]
            exact hitems.forall_iff fun _ _ hst => (ih hst).1
          · exact hitems.any_eq fun _ _ hst => (ih hst).2

/-- **What passes a check has a verdict, and it is the plain meaning.**  So no error
surfaces, under either policy, and the verdict stays the same when operands and items of
arrays stand in another order. -/
theorem evaluate_of_check {c : Condition} {scope : α} (h : check c scope = .ok ()) :
    (∀ config, evaluate c scope config = .ok (holds c scope)) ∧
      ∀ d other, Reordered c d → Rearranged scope other →
        ∀ config, evaluate d other config = .ok (holds c scope) := by
  rw [check_firstFault, firstFault_eq_ok] at h
  refine ⟨evaluate_eq_holds h, ?_⟩
  rintro d other hreordered ⟨R, halike, hother⟩ config
  obtain ⟨hfaults, hmeaning⟩ := hreordered.same_meaning scope
  obtain ⟨hfaults', hmeaning'⟩ := same_meaning_of_alike halike d hother
  rw [hmeaning, hmeaning']
  exact evaluate_eq_holds (hfaults'.mp (hfaults.mp h)) config

theorem evaluate_of_check_parts :
    let c := Condition.conjunction [somePart "ssd", somePart "tape"]
    let d := Condition.conjunction [somePart "tape", somePart "ssd"]
    let scope := valuesTree [.text "tape", .text "ssd"]
    let other := valuesTree [.text "ssd", .text "tape"]
    check c scope = .ok () ∧ Reordered c d ∧ Rearranged scope other ∧
      ∀ config, evaluate c scope config = .ok true ∧ evaluate d other config = .ok true := by
  intro c d scope other
  have hcheck : check c scope = .ok () := by decide +kernel
  have hreordered : Reordered c d := .conjunction (.swap _ _ [])
  have hrearranged : Rearranged scope other :=
    PropertyTree.rearranged_withArray .empty "part" (.of_perm Rearranged.refl (.swap _ _ []))
  have hholds : holds c scope = true := by decide +kernel
  obtain ⟨hplain, hany⟩ := evaluate_of_check hcheck
  rw [hholds] at hplain hany
  exact ⟨hcheck, hreordered, hrearranged, fun config =>
    ⟨hplain config, hany d other hreordered hrearranged config⟩⟩

end Condition

end Criteria
