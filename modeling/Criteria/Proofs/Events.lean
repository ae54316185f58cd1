/-
What evaluating logs.

What is put in order is put up to the first member that decides, and what is logged is what each
of those members logs, one after the other.  For joined conditions that is all.  For an array the
scan adds an event of its own behind every item that has an error, and one at the end if it
passes an error on.

So an event that an array passes an error on is the last thing that is logged only where this
error is that of the whole condition: inside another array the failure of the item comes behind
it, and a join goes on only behind a verdict.
-/
import Criteria.Proofs.Verdict

namespace Criteria

/-! ### Up to the first that decides -/

/-- The members up to the first with a property, that one included; all of them if none has
it. -/
def upTo {β : Type} (decides : β → Bool) : List β → List β
  | [] => []
  | x :: xs => if decides x then [x] else x :: upTo decides xs

private theorem mem_of_mem_upTo {β : Type} {decides : β → Bool} {x : β} {xs : List β}
    (h : x ∈ upTo decides xs) : x ∈ xs := by
  induction xs with
  | nil => exact h
  | cons y ys ih =>
      rw [upTo] at h
      split at h
      · rw [List.mem_singleton.mp h]
        exact List.mem_cons_self
      · rcases List.mem_cons.mp h with rfl | h
        · exact List.mem_cons_self
        · exact List.mem_cons_of_mem y (ih h)

namespace Run

/-- Runs one after another, up to the first with a verdict other than `neutral`. -/
def joined (neutral : Bool) : List Run → Run
  | [] => .quiet (.ok neutral)
  | run :: runs => if run.verdict = .ok neutral then run.before (joined neutral runs) else run

theorem events_joined {β : Type} (neutral : Bool) (put : β → Run) (members : List β) :
    (joined neutral (members.map put)).events =
      (upTo (fun x => (put x).verdict ≠ .ok neutral) members).flatMap fun x => (put x).events := by
  induction members with
  | nil => rfl
  | cons x members ih =>
      by_cases hx : (put x).verdict = .ok neutral
      · simp [joined, upTo, hx, Run.before, ih]
      · simp [joined, upTo, hx]

end Run

namespace Condition

variable {α : Type} [Container α]

theorem runAll_eq_joined (policy : ArrayErrorPolicy) (parts : List Condition) (scope : α) :
    runAll policy parts scope = Run.joined true (parts.map fun c => run policy c scope) := by
  induction parts with
  | nil => rfl
  | cons c parts ih =>
      rw [runAll, List.map_cons, Run.joined, ih]
      cases hc : (run policy c scope).verdict with
      | error e => simp
      | ok b => cases b <;> simp

theorem runAny_eq_joined (policy : ArrayErrorPolicy) (parts : List Condition) (scope : α) :
    runAny policy parts scope = Run.joined false (parts.map fun c => run policy c scope) := by
  induction parts with
  | nil => rfl
  | cons c parts ih =>
      rw [runAny, List.map_cons, Run.joined, ih]
      cases hc : (run policy c scope).verdict with
      | error e => simp
      | ok b => cases b <;> simp

end Condition

/-! ### What a scan adds -/

/-- What a scan logs behind an item. -/
def itemEvents (array : String) (index : Nat) : Verdict → List Event
  | .ok _ => []
  | .error e => [.itemFailed array index e]

/-- What a scan logs at its end. -/
def endEvents (array : String) : Verdict → List Event
  | .ok _ => []
  | .error e => [.noItemMatched array e]

private theorem level_itemEvents {array : String} {index : Nat} {v : Verdict} {event : Event}
    (h : event ∈ itemEvents array index v) : event.level = .debug := by
  cases v with
  | ok b => exact absurd h List.not_mem_nil
  | error e =>
      rw [List.mem_singleton.mp h]
      rfl

private theorem level_endEvents {array : String} {v : Verdict} {event : Event}
    (h : event ∈ endEvents array v) : event.level = .debug := by
  cases v with
  | ok b => exact absurd h List.not_mem_nil
  | error e =>
      rw [List.mem_singleton.mp h]
      rfl

theorem events_scanItems {α : Type} (policy : ArrayErrorPolicy) (array : String) (put : α → Run)
    (index : Nat) (held : Option SemanticError) (items : List α) :
    (scanItems policy array put index held items).events =
      ((upTo (fun x => (put x).verdict = .ok true) items).zipIdx index).flatMap
          (fun (x, i) => (put x).events ++ itemEvents array i (put x).verdict) ++
        endEvents array (scanItems policy array put index held items).verdict := by
  induction items generalizing index held with
  | nil => cases held <;> rfl
  | cons x items ih =>
      cases hx : (put x).verdict with
      | error e => simp [scanItems, upTo, hx, itemEvents, Run.before, Run.log, ih]
      | ok b =>
          cases b with
          | true => simp [scanItems, upTo, hx, itemEvents, endEvents]
          | false => simp [scanItems, upTo, hx, itemEvents, Run.before, ih]

/-! ### The last event -/

/-- Runs that are joined end with an event that only an error comes with just when the first run
that decides does. -/
theorem Run.getLast?_joined {β : Type} {neutral : Bool} {put : β → Run} {event : Event}
    {members : List β}
    (h : ∀ x ∈ members, (put x).events.getLast? = some event → (put x).verdict ≠ .ok neutral) :
    (joined neutral (members.map put)).events.getLast? = some event ↔
      ∃ before x after, members = before ++ x :: after ∧
        (∀ y ∈ before, (put y).verdict = .ok neutral) ∧
        (put x).events.getLast? = some event := by
  induction members with
  | nil => simp [joined, Run.quiet]
  | cons x members ih =>
      have hx := h x List.mem_cons_self
      have ih := ih fun y hy => h y (List.mem_cons_of_mem x hy)
      by_cases hneutral : (put x).verdict = .ok neutral
      · have hnot : (put x).events.getLast? ≠ some event := fun hlast => hx hlast hneutral
        have hmore : (joined neutral ((x :: members).map put)).events.getLast? = some event ↔
            (joined neutral (members.map put)).events.getLast? = some event := by
          rw [List.map_cons, joined, if_pos hneutral, Run.before, List.getLast?_append]
          cases (joined neutral (members.map put)).events.getLast? with
          | none => simpa using hnot
          | some last => simp
        rw [hmore, ih]
        constructor
        · rintro ⟨before, y, after, rfl, hbefore, hlast⟩
          refine ⟨x :: before, y, after, rfl, ?_, hlast⟩
          exact List.forall_mem_cons.mpr ⟨hneutral, hbefore⟩
        · rintro ⟨before, y, after, heq, hbefore, hlast⟩
          cases before with
          | nil =>
              obtain ⟨rfl, rfl⟩ := List.cons.inj heq
              exact absurd hlast hnot
          | cons z before =>
              obtain ⟨rfl, rfl⟩ := List.cons.inj heq
              exact ⟨before, y, after, rfl, (List.forall_mem_cons.mp hbefore).2, hlast⟩
      · rw [List.map_cons, joined, if_neg hneutral]
        constructor
        · intro hlast
          exact ⟨[], x, members, rfl, fun y hy => absurd hy List.not_mem_nil, hlast⟩
        · rintro ⟨before, y, after, heq, hbefore, hlast⟩
          cases before with
          | nil =>
              obtain ⟨rfl, rfl⟩ := List.cons.inj heq
              exact hlast
          | cons z before =>
              obtain ⟨rfl, rfl⟩ := List.cons.inj heq
              exact absurd (hbefore x List.mem_cons_self) hneutral

/-- The first operand that decides may be an error. -/
theorem Verdict.joined_of_first {β : Type} {neutral : Bool} {verdict : β → Verdict}
    {before after : List β} {x : β} {e : SemanticError}
    (hbefore : ∀ y ∈ before, verdict y = .ok neutral) (hx : verdict x = .error e) :
    joined neutral ((before ++ x :: after).map verdict) = .error e := by
  induction before with
  | nil => rw [List.nil_append, List.map_cons, hx, joined]
  | cons y before ih =>
      obtain ⟨hy, hmore⟩ := List.forall_mem_cons.mp hbefore
      rw [List.cons_append, List.map_cons, hy, joined, if_pos rfl, ih hmore]

/-- Where an array has a verdict its scan ends with no event of an array that has none, if the
same holds of its items. -/
theorem getLast?_scanItems {α : Type} {put : α → Run} {items : List α} {name : String}
    {e : SemanticError}
    (h : ∀ x ∈ items, (put x).events.getLast? = some (.noItemMatched name e) →
      (put x).verdict = .error e)
    (policy : ArrayErrorPolicy) (array : String) (index : Nat) (held : Option SemanticError) :
    (scanItems policy array put index held items).events.getLast? =
        some (.noItemMatched name e) ↔
      array = name ∧ (scanItems policy array put index held items).verdict = .error e := by
  rw [events_scanItems]
  cases (scanItems policy array put index held items).verdict with
  | error d => simp [endEvents]
  | ok b =>
      simp only [endEvents, List.append_nil, reduceCtorEq, and_false, iff_false]
      intro hlast
      rw [List.getLast?_flatMap] at hlast
      obtain ⟨⟨x, i⟩, hmem, hx⟩ := List.exists_of_findSome?_eq_some hlast
      have hitem : x ∈ items :=
        mem_of_mem_upTo (List.fst_mem_of_mem_zipIdx (List.mem_reverse.mp hmem))
      -- behind an item with an error stands the event of that item, and not this one
      cases hverdict : (put x).verdict with
      | error d => simp [hverdict, itemEvents] at hx
      | ok b =>
          simp only [hverdict, itemEvents, List.append_nil] at hx
          have herror := h x hitem hx
          rw [hverdict] at herror
          cases herror

namespace Condition

variable {α : Type} [Container α]

/-- What is logged while a condition is put to a scope. -/
def logged (c : Condition) (scope : α) (config : EvalConfig) : List Event :=
  (run config.arrayErrors c scope).events

/-- The error of a condition came out of an array that it asks about: out of the array itself, or
out of the part or the body that decided. -/
inductive FromArray (config : EvalConfig) (array : String) (e : SemanticError) :
    Condition → α → Prop where
  | here {body : Condition} {scope : α} {items : List α}
      (h : resolve scope array = .ok (.array items))
      (he : evaluate (.within array body) scope config = .error e) :
      FromArray config array e (.within array body) scope
  | body {name : String} {body : Condition} {scope inner : α}
      (h : resolve scope name = .ok (.container inner))
      (hbody : FromArray config array e body inner) :
      FromArray config array e (.within name body) scope
  | conjunct {before after : List Condition} {c : Condition} {scope : α}
      (hbefore : ∀ d ∈ before, evaluate d scope config = .ok true)
      (hc : FromArray config array e c scope) :
      FromArray config array e (.conjunction (before ++ c :: after)) scope
  | disjunct {before after : List Condition} {c : Condition} {scope : α}
      (hbefore : ∀ d ∈ before, evaluate d scope config = .ok false)
      (hc : FromArray config array e c scope) :
      FromArray config array e (.disjunction (before ++ c :: after)) scope

variable {config : EvalConfig} {array : String} {e : SemanticError} {scope : α}

/-- What a body is asked of settles where its error may come from. -/
theorem fromArray_within {name : String} {body : Condition} :
    FromArray config array e (.within name body) scope ↔
      match resolve scope name with
      | .error _ => False
      | .ok (.simple _) => False
      | .ok (.container inner) => FromArray config array e body inner
      | .ok (.array _) =>
        name = array ∧ evaluate (.within name body) scope config = .error e := by
  constructor
  · intro h
    cases h with
    | here hresolve he => rw [hresolve]; exact ⟨rfl, he⟩
    | body hresolve hbody => rw [hresolve]; exact hbody
  · intro h
    cases hresolve : resolve scope name with
    | error d => simp [hresolve] at h
    | ok p =>
        rw [hresolve] at h
        cases p with
        | simple v => exact absurd h id
        | container inner => exact .body hresolve h
        | array items =>
            obtain ⟨rfl, he⟩ := h
            exact .here hresolve he

theorem FromArray.evaluate_eq {c : Condition} (h : FromArray config array e c scope) :
    evaluate c scope config = .error e := by
  induction h with
  | here _ he => exact he
  | body hresolve _ ih => rwa [evaluate_within, hresolve]
  | conjunct hbefore _ ih =>
      rw [evaluate_conjunction]
      exact Verdict.joined_of_first hbefore ih
  | disjunct hbefore _ ih =>
      rw [evaluate_disjunction]
      exact Verdict.joined_of_first hbefore ih

/-- The last that is logged is that an array passes an error on, just when this is the error of
the condition and came out of that array. -/
theorem getLast?_logged (c : Condition) (scope : α) :
    (logged c scope config).getLast? = some (.noItemMatched array e) ↔
      FromArray config array e c scope := by
  -- an operand that logs such an event last has an error, so no join goes on behind it
  have hstop : ∀ (d : Condition) (s : α) (b : Bool),
      ((logged d s config).getLast? = some (.noItemMatched array e) ↔
        FromArray config array e d s) →
      (logged d s config).getLast? = some (.noItemMatched array e) →
      (run config.arrayErrors d s).verdict ≠ .ok b := by
    intro d s b hiff hlast hok
    have herror : (run config.arrayErrors d s).verdict = .error e := (hiff.mp hlast).evaluate_eq
    rw [hok] at herror
    cases herror
  induction c generalizing scope with
  | alwaysTrue =>
      constructor
      · intro hlast
        simp [logged, run, Run.quiet] at hlast
      · intro h
        cases h
  | compare name op literal =>
      constructor
      · intro hlast
        simp [logged, run, Run.quiet] at hlast
      · intro h
        cases h
  | conjunction parts ih =>
      rw [logged, run, runAll_eq_joined,
        Run.getLast?_joined fun c hc => hstop c scope true (ih c hc scope)]
      constructor
      · rintro ⟨before, c, after, rfl, hbefore, hlast⟩
        exact .conjunct hbefore ((ih c (by simp) scope).mp hlast)
      · intro h
        cases h with
        | conjunct hbefore hc =>
            exact ⟨_, _, _, rfl, hbefore, (ih _ (by simp) scope).mpr hc⟩
  | disjunction parts ih =>
      rw [logged, run, runAny_eq_joined,
        Run.getLast?_joined fun c hc => hstop c scope false (ih c hc scope)]
      constructor
      · rintro ⟨before, c, after, rfl, hbefore, hlast⟩
        exact .disjunct hbefore ((ih c (by simp) scope).mp hlast)
      · intro h
        cases h with
        | disjunct hbefore hc =>
            exact ⟨_, _, _, rfl, hbefore, (ih _ (by simp) scope).mpr hc⟩
  | within name body ih =>
      rw [fromArray_within, evaluate_within, logged, run]
      cases resolve scope name with
      | error d => simp [Run.quiet]
      | ok p =>
          cases p with
          | simple v => simp [Run.quiet]
          | container inner => exact ih inner
          | array items =>
              have hitems : ∀ x ∈ items,
                  (logged body x config).getLast? = some (.noItemMatched array e) →
                  (run config.arrayErrors body x).verdict = .error e :=
                fun x _ hlast => ((ih x).mp hlast).evaluate_eq
              have hend := getLast?_scanItems hitems config.arrayErrors name 0 none
              rw [scanItems_verdict] at hend
              exact hend

/-! ### The whole log -/

theorem logged_conjunction (parts : List Condition) :
    logged (.conjunction parts) scope config =
      (upTo (fun c => evaluate c scope config ≠ .ok true) parts).flatMap fun c =>
        logged c scope config := by
  rw [logged, run, runAll_eq_joined]
  exact Run.events_joined true (fun c => run config.arrayErrors c scope) parts

theorem logged_disjunction (parts : List Condition) :
    logged (.disjunction parts) scope config =
      (upTo (fun c => evaluate c scope config ≠ .ok false) parts).flatMap fun c =>
        logged c scope config := by
  rw [logged, run, runAny_eq_joined]
  exact Run.events_joined false (fun c => run config.arrayErrors c scope) parts

theorem logged_within (name : String) (body : Condition) :
    logged (.within name body) scope config =
      match resolve scope name with
      | .error _ => []
      | .ok (.simple _) => []
      | .ok (.container inner) => logged body inner config
      | .ok (.array items) =>
        (upTo (fun item => evaluate body item config = .ok true) items).zipIdx.flatMap
            (fun (item, index) => logged body item config ++
              itemEvents name index (evaluate body item config)) ++
          endEvents name (evaluate (.within name body) scope config) := by
  rw [evaluate_within, logged, run]
  cases resolve scope name with
  | error d => rfl
  | ok p =>
      cases p with
      | simple v => rfl
      | container inner => rfl
      | array items =>
          have hevents := events_scanItems config.arrayErrors name
            (fun item => run config.arrayErrors body item) 0 none items
          rw [scanItems_verdict] at hevents
          exact hevents

/-- While a condition is put, only items that fail and arrays that pass an error on are logged. -/
theorem level_logged (c : Condition) (scope : α) :
    ∀ event ∈ logged c scope config, event.level = .debug := by
  induction c generalizing scope with
  | alwaysTrue => simp [logged, run, Run.quiet]
  | compare name op literal => simp [logged, run, Run.quiet]
  | conjunction parts ih =>
      intro event hevent
      rw [logged_conjunction] at hevent
      obtain ⟨c, hc, hlogged⟩ := List.mem_flatMap.mp hevent
      exact ih c (mem_of_mem_upTo hc) scope event hlogged
  | disjunction parts ih =>
      intro event hevent
      rw [logged_disjunction] at hevent
      obtain ⟨c, hc, hlogged⟩ := List.mem_flatMap.mp hevent
      exact ih c (mem_of_mem_upTo hc) scope event hlogged
  | within name body ih =>
      intro event hevent
      rw [logged_within] at hevent
      cases hname : resolve scope name with
      | error d =>
          rw [hname] at hevent
          exact absurd hevent List.not_mem_nil
      | ok p =>
          rw [hname] at hevent
          cases p with
          | simple v => exact absurd hevent List.not_mem_nil
          | container inner => exact ih inner event hevent
          | array items =>
              rcases List.mem_append.mp hevent with hitems | hend
              · obtain ⟨⟨item, index⟩, -, hitem⟩ := List.mem_flatMap.mp hitems
                rcases List.mem_append.mp hitem with hlogged | hfailed
                · exact ih item event hlogged
                · exact level_itemEvents hfailed
              · exact level_endEvents hend

/-- **The log is faithful.**  An evaluation ends with one event of its own, which has the verdict
that is returned, and before it is what was logged while the condition was put to the scope.
For joined conditions that is what the parts log, up to the first that decides; for a condition
on a container what it logs there; and for one on an array what it logs on the items up to the
first that fulfils it, behind each that has an error the event of this error, and at the end the
event of the error that is passed on, if one is.  This event comes last of all just when the
error of the whole evaluation came out of that array. -/
theorem evaluateLogged_faithful (scope : α) (config : EvalConfig) :
    (∀ c, (evaluateLogged c scope config).events =
          logged c scope config ++ [.evaluated c (evaluate c scope config)] ∧
        (evaluateLogged c scope config).verdict = evaluate c scope config ∧
        (∀ event ∈ logged c scope config, event.level = .debug) ∧
        ∀ array e, (logged c scope config).getLast? = some (.noItemMatched array e) ↔
          evaluate c scope config = .error e ∧ FromArray config array e c scope) ∧
      logged .alwaysTrue scope config = [] ∧
      (∀ name op literal, logged (.compare name op literal) scope config = []) ∧
      (∀ parts, logged (.conjunction parts) scope config =
        (upTo (fun c => evaluate c scope config ≠ .ok true) parts).flatMap fun c =>
          logged c scope config) ∧
      (∀ parts, logged (.disjunction parts) scope config =
        (upTo (fun c => evaluate c scope config ≠ .ok false) parts).flatMap fun c =>
          logged c scope config) ∧
      ∀ name body, logged (.within name body) scope config =
        match resolve scope name with
        | .error _ => []
        | .ok (.simple _) => []
        | .ok (.container inner) => logged body inner config
        | .ok (.array items) =>
          (upTo (fun item => evaluate body item config = .ok true) items).zipIdx.flatMap
              (fun (item, index) => logged body item config ++
                itemEvents name index (evaluate body item config)) ++
            endEvents name (evaluate (.within name body) scope config) := by
  refine ⟨?_, ?_, ?_, logged_conjunction, logged_disjunction, logged_within⟩
  · intro c
    refine ⟨rfl, rfl, level_logged c scope, ?_⟩
    intro array e
    rw [getLast?_logged]
    exact ⟨fun h => ⟨h.evaluate_eq, h⟩, fun h => h.2⟩
  · simp only [logged, run, Run.quiet]
  · intro name op literal
    simp only [logged, run, Run.quiet]

/-- Arrays in an array.  The parts of the first host pass an error on, which the second host lets
be forgotten; those of the last host pass one on, and so do the hosts. -/
theorem evaluateLogged_faithful_hosts :
    let c := Condition.within "host" (somePart "disk")
    let tree := PropertyTree.empty.withArray "host" [valuesTree [.text "tape", .category .task],
      valuesTree [.category .task, .text "tape"], valuesTree [.category .task]]
    let e := SemanticError.invalidValueType "kind" .category .text
    (evaluateLogged c tree).events =
        [.itemFailed "part" 1 e, .noItemMatched "part" e, .itemFailed "host" 0 e,
          .itemFailed "part" 0 e,
          .itemFailed "part" 0 e, .noItemMatched "part" e, .itemFailed "host" 2 e,
          .noItemMatched "host" e, .evaluated c (.error e)] ∧
      (evaluateLogged c tree).verdict = .error e ∧
      FromArray {} "host" e c tree ∧ ¬ FromArray {} "part" e c tree := by
  intro c tree e
  have hlogged : logged c tree {} =
      [.itemFailed "part" 1 e, .noItemMatched "part" e, .itemFailed "host" 0 e,
        .itemFailed "part" 0 e,
        .itemFailed "part" 0 e, .noItemMatched "part" e, .itemFailed "host" 2 e,
        .noItemMatched "host" e] := rfl
  have hverdict : evaluate c tree {} = .error e := rfl
  obtain ⟨hevents, hreturned, -, hlast⟩ := (evaluateLogged_faithful tree {}).1 c
  refine ⟨?_, hreturned.trans hverdict, ?_, ?_⟩
  · rw [hevents, hlogged, hverdict]
    rfl
  · exact ((hlast "host" e).mp (by rw [hlogged]; rfl)).2
  · intro hpart
    have hend := (hlast "part" e).mpr ⟨hverdict, hpart⟩
    rw [hlogged] at hend
    simp at hend

end Condition

end Criteria
