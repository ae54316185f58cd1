/-
Putting a condition to a scope.

Joined conditions are put in order, and the first that decides the result is the
last that is put; an error decides as well.  A condition on an array asks for one
item that fulfils it.  While items are left, the error of an item is held back, and
which error is reported when none fulfils the condition is a matter of policy.

Evaluating and what it logs are one run.  Checking is apart from it: a check puts
every part of a condition, and finds the first thing that does not fit.
-/
import Criteria.Comparison
import Criteria.Container
import Criteria.Log

namespace Criteria

/-- Which error an array reports when no item fulfils the condition. -/
inductive ArrayErrorPolicy where
  /-- that of the last item, if that is where it is -/
  | lastItem
  /-- the first of any item -/
  | firstError
deriving DecidableEq, Repr

namespace ArrayErrorPolicy

/-- What is held back after an item that does not fulfil the condition. -/
def afterFalse : ArrayErrorPolicy → Option SemanticError → Option SemanticError
  | .lastItem, _ => none
  | .firstError, held => held

/-- What is held back after an item with an error. -/
def afterError :
    ArrayErrorPolicy → Option SemanticError → SemanticError → Option SemanticError
  | .lastItem, _, e => some e
  | .firstError, held, e => held.or (some e)

end ArrayErrorPolicy

/-- The settings of an evaluation. -/
structure EvalConfig where
  arrayErrors : ArrayErrorPolicy := .lastItem
deriving DecidableEq, Repr

/-- The verdict on a condition, or why there is none. -/
abbrev Verdict := Except SemanticError Bool

/-- A verdict, and what was logged on the way to it. -/
structure Run where
  events : List Event
  verdict : Verdict

namespace Run

/-- A verdict with nothing to log. -/
def quiet (verdict : Verdict) : Run := ⟨[], verdict⟩

/-- A run with one more event after it. -/
def log (run : Run) (e : Event) : Run := ⟨run.events ++ [e], run.verdict⟩

/-- One run after another: what both log, and the verdict of the second. -/
def before (run next : Run) : Run := ⟨run.events ++ next.events, next.verdict⟩

end Run

/-! ### Looking up names -/

section

variable {α : Type} [Container α]

/-- What a name stands for. -/
def resolve (scope : α) (name : String) : Except SemanticError (Property α) :=
  if Container.hasProperty scope name then
    match Container.property scope name with
    | some p => .ok p
    | none => .error (.invalidProperty name .missing)
  else .error (.invalidProperty name .missing)

/-- The value that a name stands for. -/
def resolveSimple (scope : α) (name : String) : Except SemanticError Value :=
  match resolve scope name with
  | .error e => .error e
  | .ok (.simple v) => .ok v
  | .ok _ => .error (.invalidProperty name .notSimple)

/-- Compares a property of a scope with a literal. -/
def compareIn (scope : α) (name : String) (op : CompareOp) (literal : Value) : Verdict :=
  match resolveSimple scope name with
  | .error e => .error e
  | .ok v => Comparison.compare name op v literal

/-! ### Evaluating -/

/-- Puts a condition to the items of an array from number `index` on, `held` being the
error that is held back. -/
def scanItems (policy : ArrayErrorPolicy) (array : String) (item : α → Run) :
    Nat → Option SemanticError → List α → Run
  | _, none, [] => .quiet (.ok false)
  | _, some e, [] => ⟨[.noItemMatched array e], .error e⟩
  | index, held, x :: xs =>
    let run := item x
    match run.verdict with
    | .ok true => run
    | .ok false =>
      run.before (scanItems policy array item (index + 1) (policy.afterFalse held) xs)
    | .error e =>
      (run.log (.itemFailed array index e)).before
        (scanItems policy array item (index + 1) (policy.afterError held e) xs)

mutual

/-- Puts a condition to a scope. -/
def Condition.run (policy : ArrayErrorPolicy) : Condition → α → Run
  | .alwaysTrue, _ => .quiet (.ok true)
  | .compare name op literal, scope => .quiet (compareIn scope name op literal)
  | .conjunction parts, scope => Condition.runAll policy parts scope
  | .disjunction parts, scope => Condition.runAny policy parts scope
  | .within name body, scope =>
    match resolve scope name with
    | .error e => .quiet (.error e)
    | .ok (.simple _) => .quiet (.error (.invalidProperty name .notQualifiable))
    | .ok (.container inner) => Condition.run policy body inner
    | .ok (.array items) =>
      scanItems policy name (fun item => Condition.run policy body item) 0 none items

/-- Puts conditions until one is not fulfilled. -/
def Condition.runAll (policy : ArrayErrorPolicy) : List Condition → α → Run
  | [], _ => .quiet (.ok true)
  | c :: cs, scope =>
    let run := Condition.run policy c scope
    match run.verdict with
    | .ok true => run.before (Condition.runAll policy cs scope)
    | _ => run

/-- Puts conditions until one is fulfilled. -/
def Condition.runAny (policy : ArrayErrorPolicy) : List Condition → α → Run
  | [], _ => .quiet (.ok false)
  | c :: cs, scope =>
    let run := Condition.run policy c scope
    match run.verdict with
    | .ok false => run.before (Condition.runAny policy cs scope)
    | _ => run

end

/-- The verdict on a condition. -/
def Condition.evaluate (c : Condition) (scope : α) (config : EvalConfig := {}) : Verdict :=
  (c.run config.arrayErrors scope).verdict

/-- The verdict, and all that is logged up to the end of the evaluation. -/
def Condition.evaluateLogged (c : Condition) (scope : α) (config : EvalConfig := {}) : Run :=
  let run := c.run config.arrayErrors scope
  run.log (.evaluated c run.verdict)

/-! ### Checking -/

/-- Checks the items of an array in order. -/
def checkItems (item : α → Except SemanticError Unit) : List α → Except SemanticError Unit
  | [] => .ok ()
  | x :: xs =>
    match item x with
    | .error e => .error e
    | .ok () => checkItems item xs

mutual

/-- Puts every part of a condition to a scope, and finds the first that does not fit. -/
def Condition.check : Condition → α → Except SemanticError Unit
  | .alwaysTrue, _ => .ok ()
  | .compare name op literal, scope =>
    match compareIn scope name op literal with
    | .error e => .error e
    | .ok _ => .ok ()
  | .conjunction parts, scope => Condition.checkAll parts scope
  | .disjunction parts, scope => Condition.checkAll parts scope
  | .within name body, scope =>
    match resolve scope name with
    | .error e => .error e
    | .ok (.simple _) => .error (.invalidProperty name .notQualifiable)
    | .ok (.container inner) => Condition.check body inner
    | .ok (.array items) => checkItems (fun item => Condition.check body item) items

def Condition.checkAll : List Condition → α → Except SemanticError Unit
  | [], _ => .ok ()
  | c :: cs, scope =>
    match Condition.check c scope with
    | .error e => .error e
    | .ok () => Condition.checkAll cs scope

end

/-! ### From a source text -/

/-- Why a source text has no verdict. -/
inductive EvalError where
  | parse (e : ParseError)
  | semantic (e : SemanticError)

/-- Reads a condition and puts it to a scope. -/
def evaluateText (source : String) (scope : α) : Except EvalError Bool :=
  match Condition.parse source with
  | .error e => .error (.parse e)
  | .ok c => (c.evaluate scope).mapError .semantic

/-- Reads a condition and puts it to a scope, with all that is logged. -/
def evaluateTextLogged (source : String) (scope : α) (config : EvalConfig := {}) :
    List Event × Except EvalError Bool :=
  match Condition.parse source with
  | .error e => ([.parseFailed e], .error (.parse e))
  | .ok c =>
    let run := c.evaluateLogged scope config
    (.parsed c :: run.events, run.verdict.mapError .semantic)

end

end Criteria
