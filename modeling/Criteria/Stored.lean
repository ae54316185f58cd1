/-
How conditions and settings are stored as JSON.

A condition is stored as a string that holds its canonical text.  Settings are stored
as an object; members it does not know are ignored, and those it does not have take
their default.
-/
import Criteria.Condition.Text
import Criteria.Evaluation
import Criteria.Json
import Criteria.ParseError

namespace Criteria

/-- Why a stored text cannot be read back. -/
inductive StoredError where
  /-- the string is no condition -/
  | parse (e : ParseError)
  /-- the text is no JSON, or not of the form that is stored -/
  | shape
deriving DecidableEq, Repr

namespace Condition

/-- The condition as it is stored. -/
def stored (c : Condition) : String := String.ofList (Json.quote c.chars)

/-- The condition that is stored in a text.  What the string says is looked at before
what follows it. -/
def ofStored (text : String) : Except StoredError Condition :=
  match Json.skipBlanks text.toList with
  | '"' :: rest =>
    match Json.takeString rest with
    | none => .error .shape
    | some (written, left) =>
      match Json.decode written with
      | none => .error .shape
      | some source =>
        match Condition.parse (String.ofList source) with
        | .error e => .error (.parse e)
        | .ok c => if (Json.skipBlanks left).isEmpty then .ok c else .error .shape
  | _ => .error .shape

/-- What is stored is read back as the canonical text is. -/
theorem ofStored_stored (c : Condition) :
    ofStored c.stored = (Condition.parse c.text).mapError .parse := by
  have quoted : c.stored.toList = '"' :: (c.chars.flatMap Json.encodeChar ++ ['"']) := by
    rw [stored, String.toList_ofList, Json.quote, List.cons_append]
  have opened (rest : List Char) : Json.skipBlanks ('"' :: rest) = '"' :: rest := rfl
  simp only [ofStored, quoted, opened, Json.takeString_flatMap_encodeChar,
    Json.decode_flatMap_encodeChar, text]
  cases Condition.parse (String.ofList c.chars) with
  | error e => rfl
  | ok d => rfl

end Condition

namespace ArrayErrorPolicy

/-- The name a policy is stored under. -/
def storedName : ArrayErrorPolicy → String
  | .lastItem => "last_item"
  | .firstError => "first_error"

def ofStoredName? (name : List Char) : Option ArrayErrorPolicy :=
  [lastItem, firstError].find? fun policy => policy.storedName.toList = name

/-- The policy that a value stands for: its name, or an object whose only member has
that name and the value null. -/
def ofJson? : Json → Option ArrayErrorPolicy
  | .string written => (Json.decode written).bind ofStoredName?
  | .object [(written, .null)] => (Json.decode written).bind ofStoredName?
  | _ => none

end ArrayErrorPolicy

namespace EvalConfig

/-- The member that holds the policy. -/
def policyMember : String := "array_errors"

/-- The settings as they are stored. -/
def stored (config : EvalConfig) : String :=
  "\x7b\"" ++ policyMember ++ "\":\"" ++ config.arrayErrors.storedName ++ "\"\x7d"

/-- The settings of an object, given what its members so far have set. -/
def ofMembers? (found : Option ArrayErrorPolicy) :
    List (List Char × Json) → Option EvalConfig
  | [] => some (found.elim {} fun p => { arrayErrors := p })
  | (written, value) :: rest =>
    match Json.decode written with
    | none => none
    | some name =>
      if name = policyMember.toList then
        match found, ArrayErrorPolicy.ofJson? value with
        | none, some p => ofMembers? (some p) rest
        | _, _ => none
      else ofMembers? found rest

/-- The settings that are stored in a text: an object, or an array with the settings in
order. -/
def ofStored? (text : String) : Option EvalConfig :=
  match Json.read text with
  | some (.object members) => ofMembers? none members
  | some (.array []) => some {}
  | some (.array [policy]) => (ArrayErrorPolicy.ofJson? policy).map fun p => { arrayErrors := p }
  | _ => none

end EvalConfig

end Criteria
