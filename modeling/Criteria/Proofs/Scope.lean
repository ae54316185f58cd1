/-
Scopes that answer alike.

All that evaluating learns of a scope is what it answers for a name: a refusal, a value,
another scope, or several in order.  Two scopes are compared by a relation that their answers
keep, for every name and however deep: values correspond, scopes are related again, and so are
the items of arrays.  Nothing else about a scope is ever looked at, so what holds of related
scopes holds of any two kinds of scope, a caller's own among them.

If corresponding values compare alike, a condition runs alike on related scopes.  For a check
it is enough that comparisons of them fail alike.  Of the scope that it is put to a condition
learns less: it asks for the names that it mentions itself, and what is mentioned inside a body
is asked of the scopes that the body is put to.
-/
import Criteria.Proofs.Evaluation
import Criteria.Proofs.Verdict

namespace Criteria

/-! ### Arrays, item by item -/

private theorem scanItems_eq {α β : Type} {item : α → Run} {other : β → Run} {ss : List α}
    {ts : List β} (h : List.Forall₂ (fun s t => item s = other t) ss ts) (policy : ArrayErrorPolicy)
    (array : String) (index : Nat) (held : Option SemanticError) :
    scanItems policy array item index held ss = scanItems policy array other index held ts := by
  induction h generalizing index held with
  | nil => cases held <;> rfl
  | cons hst _ ih =>
      rw [scanItems, scanItems]
      simp only [hst, ih]

private theorem checkItems_eq {α β : Type} {item : α → Except SemanticError Unit}
    {other : β → Except SemanticError Unit} {ss : List α} {ts : List β}
    (h : List.Forall₂ (fun s t => item s = other t) ss ts) :
    checkItems item ss = checkItems other ts := by
  induction h with
  | nil => rfl
  | cons hst _ ih => rw [checkItems, checkItems, hst, ih]

/-! ### The names that a condition asks for -/

namespace Condition

mutual

/-- The names that a condition asks the scope for that it is put to: those that it compares and
those that its bodies belong to, but none that is mentioned inside a body. -/
def mentions : Condition → List String
  | .alwaysTrue => []
  | .compare name _ _ => [name]
  | .conjunction parts => mentionsAll parts
  | .disjunction parts => mentionsAll parts
  | .within name _ => [name]

def mentionsAll : List Condition → List String
  | [] => []
  | c :: cs => mentions c ++ mentionsAll cs

end

theorem mem_mentionsAll {c : Condition} {cs : List Condition} {name : String} (hc : c ∈ cs)
    (hname : name ∈ mentions c) : name ∈ mentionsAll cs := by
  induction cs with
  | nil => exact absurd hc List.not_mem_nil
  | cons d cs ih =>
      rw [mentionsAll]
      rcases List.mem_cons.mp hc with rfl | hc
      · exact List.mem_append_left _ hname
      · exact List.mem_append_right _ (ih hc)

end Condition

/-! ### What scopes answer -/

/-- What two scopes answer for a name: both refuse for one reason, or values correspond by
`V`, scopes by `R` and arrays by `L`. -/
inductive Answers {α β : Type} (V : Value → Value → Prop) (R : α → β → Prop)
    (L : List α → List β → Prop) :
    Except SemanticError (Property α) → Except SemanticError (Property β) → Prop where
  | refused (e : SemanticError) : Answers V R L (.error e) (.error e)
  | simple {v w : Value} (h : V v w) : Answers V R L (.ok (.simple v)) (.ok (.simple w))
  | container {s : α} {t : β} (h : R s t) :
      Answers V R L (.ok (.container s)) (.ok (.container t))
  | array {ss : List α} {ts : List β} (h : L ss ts) :
      Answers V R L (.ok (.array ss)) (.ok (.array ts))

theorem Answers.refl {α : Type} {V : Value → Value → Prop} {R : α → α → Prop}
    {L : List α → List α → Prop} (hV : ∀ v, V v v) (hR : ∀ s, R s s) (hL : ∀ ss, L ss ss) :
    (p : Except SemanticError (Property α)) → Answers V R L p p
  | .error e => .refused e
  | .ok (.simple v) => .simple (hV v)
  | .ok (.container s) => .container (hR s)
  | .ok (.array ss) => .array (hL ss)

theorem Answers.imp {α β : Type} {V : Value → Value → Prop} {R R' : α → β → Prop}
    {L L' : List α → List β → Prop} {p : Except SemanticError (Property α)}
    {q : Except SemanticError (Property β)} (hR : ∀ s t, R s t → R' s t)
    (hL : ∀ ss ts, L ss ts → L' ss ts) (h : Answers V R L p q) : Answers V R' L' p q := by
  cases h with
  | refused e => exact .refused e
  | simple h => exact .simple h
  | container h => exact .container (hR _ _ h)
  | array h => exact .array (hL _ _ h)

/-- Related scopes answer alike for every name. -/
def Alike {α β : Type} [Container α] [Container β] (V : Value → Value → Prop)
    (R : α → β → Prop) (L : List α → List β → Prop) : Prop :=
  ∀ s t, R s t → ∀ name, Answers V R L (resolve s name) (resolve t name)

section

variable {α β : Type} [Container α] [Container β] {V : Value → Value → Prop}
  {R : α → β → Prop} {L : List α → List β → Prop} {s : α} {t : β}

/-! ### Comparisons -/

/-- A comparison comes out alike where scopes answer alike for its name, as far as comparisons
of corresponding values do. -/
theorem map_compareIn_eq {γ : Type} {f : Bool → γ} {name : String}
    (hV : ∀ v w, V v w → ∀ name op literal,
      (Comparison.compare name op v literal).map f = (Comparison.compare name op w literal).map f)
    (hanswers : Answers V R L (resolve s name) (resolve t name)) (op : CompareOp)
    (literal : Value) :
    (compareIn s name op literal).map f = (compareIn t name op literal).map f := by
  rw [compareIn, compareIn, resolveSimple, resolveSimple]
  generalize resolve s name = p, resolve t name = q at hanswers ⊢
  cases hanswers with
  | refused e => rfl
  | simple hvw => exact hV _ _ hvw name op literal
  | container _ => rfl
  | array _ => rfl

theorem compareIn_eq {name : String}
    (hV : ∀ v w, V v w → ∀ name op literal,
      Comparison.compare name op v literal = Comparison.compare name op w literal)
    (hanswers : Answers V R L (resolve s name) (resolve t name)) (op : CompareOp)
    (literal : Value) : compareIn s name op literal = compareIn t name op literal := by
  have hid := map_compareIn_eq (f := id)
    (fun v w hvw name op literal => congrArg (Except.map id) (hV v w hvw name op literal))
    hanswers op literal
  rwa [Except.map_id, id, id] at hid

/-! ### Evaluating -/

namespace Condition

/-- A condition runs alike on two scopes, its log included, if for the names that it mentions
they answer alike and with scopes that answer alike. -/
theorem run_eq_of_answers (halike : Alike V R (List.Forall₂ R))
    (hV : ∀ v w, V v w → ∀ name op literal,
      Comparison.compare name op v literal = Comparison.compare name op w literal)
    (policy : ArrayErrorPolicy) (c : Condition)
    (h : ∀ name ∈ mentions c, Answers V R (List.Forall₂ R) (resolve s name) (resolve t name)) :
    run policy c s = run policy c t := by
  induction c generalizing s t with
  | alwaysTrue => rfl
  | compare name op literal =>
      rw [run, run, compareIn_eq hV (h name List.mem_cons_self)]
  | conjunction parts ih =>
      rw [run, run]
      exact runAll_eq (List.forall₂_same.mpr fun c hc => ih c hc fun name hname =>
        h name (mem_mentionsAll hc hname))
  | disjunction parts ih =>
      rw [run, run]
      exact runAny_eq (List.forall₂_same.mpr fun c hc => ih c hc fun name hname =>
        h name (mem_mentionsAll hc hname))
  | within name body ih =>
      have hanswers := h name List.mem_cons_self
      -- Inside, the scopes answer alike for every name, not just for those of the body.
      have hbody : ∀ s t, R s t → run policy body s = run policy body t := fun s t hst =>
        ih fun n _ => halike s t hst n
      rw [run, run]
      generalize resolve s name = p, resolve t name = q at hanswers ⊢
      cases hanswers with
      | refused e => rfl
      | simple _ => rfl
      | container hinner => exact hbody _ _ hinner
      | array hitems => exact scanItems_eq (hitems.imp hbody) ..

/-- A condition runs alike on scopes that answer alike, its log included. -/
theorem run_eq_of_alike (halike : Alike V R (List.Forall₂ R))
    (hV : ∀ v w, V v w → ∀ name op literal,
      Comparison.compare name op v literal = Comparison.compare name op w literal)
    (policy : ArrayErrorPolicy) (c : Condition) (h : R s t) :
    run policy c s = run policy c t :=
  run_eq_of_answers halike hV policy c fun name _ => halike s t h name

end Condition

/-! ### Checking -/

namespace Condition

theorem check_compare (name : String) (op : CompareOp) (literal : Value) (scope : α) :
    check (.compare name op literal) scope =
      (compareIn scope name op literal).map fun _ => () := by
  rw [check]
  cases compareIn scope name op literal <;> rfl

/-- Joined conditions pass a check alike if each does like the one in its place. -/
theorem checkAll_eq {cs ds : List Condition}
    (h : List.Forall₂ (fun c d => check c s = check d t) cs ds) :
    checkAll cs s = checkAll ds t := by
  induction h with
  | nil => rfl
  | cons hcd _ ih => rw [checkAll, checkAll, hcd, ih]

/-- A check comes out alike on two scopes that for the names of the condition answer alike, and
with scopes that answer alike.  Of corresponding values only the errors of comparing them have
to be the same. -/
theorem check_eq_of_answers (halike : Alike V R (List.Forall₂ R))
    (hV : ∀ v w, V v w → ∀ name op literal,
      (Comparison.compare name op v literal).map (fun _ => ()) =
        (Comparison.compare name op w literal).map fun _ => ())
    (c : Condition)
    (h : ∀ name ∈ mentions c, Answers V R (List.Forall₂ R) (resolve s name) (resolve t name)) :
    check c s = check c t := by
  induction c generalizing s t with
  | alwaysTrue => rfl
  | compare name op literal =>
      rw [check_compare, check_compare]
      exact map_compareIn_eq hV (h name List.mem_cons_self) op literal
  | conjunction parts ih =>
      rw [check, check]
      exact checkAll_eq (List.forall₂_same.mpr fun c hc => ih c hc fun name hname =>
        h name (mem_mentionsAll hc hname))
  | disjunction parts ih =>
      rw [check, check]
      exact checkAll_eq (List.forall₂_same.mpr fun c hc => ih c hc fun name hname =>
        h name (mem_mentionsAll hc hname))
  | within name body ih =>
      have hanswers := h name List.mem_cons_self
      have hbody : ∀ s t, R s t → check body s = check body t := fun s t hst =>
        ih fun n _ => halike s t hst n
      rw [check, check]
      generalize resolve s name = p, resolve t name = q at hanswers ⊢
      cases hanswers with
      | refused e => rfl
      | simple _ => rfl
      | container hinner => exact hbody _ _ hinner
      | array hitems => exact checkItems_eq (hitems.imp hbody)

/-- A check comes out alike on scopes that answer alike. -/
theorem check_eq_of_alike (halike : Alike V R (List.Forall₂ R))
    (hV : ∀ v w, V v w → ∀ name op literal,
      (Comparison.compare name op v literal).map (fun _ => ()) =
        (Comparison.compare name op w literal).map fun _ => ())
    (c : Condition) (h : R s t) : check c s = check c t :=
  check_eq_of_answers halike hV c fun name _ => halike s t h name

end Condition

end

end Criteria
