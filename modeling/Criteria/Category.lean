/-
The four categories a resource may belong to, and the word for each.
-/
import Criteria.Value.Error

namespace Criteria

/-- The classification of a resource. -/
inductive Category where
  | source
  | binary
  | task
  | data
deriving DecidableEq, Repr

namespace Category

/-- Every category, in the order they are listed. -/
def all : List Category := [.source, .binary, .task, .data]

def name : Category → String
  | .source => "source"
  | .binary => "binary"
  | .task => "task"
  | .data => "data"

/-- The category with exactly this name; case counts. -/
def parse (s : String) : Except ValueError Category :=
  match all.find? fun c => c.name = s with
  | some c => .ok c
  | none => .error (.unknownCategory s)

/-- Every name is read back. -/
theorem parse_name (c : Category) : parse c.name = .ok c := by cases c <;> rfl

end Category

end Criteria
