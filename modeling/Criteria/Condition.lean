/-
Conditions: what is asked of a resource.

A condition compares a property with a literal, joins conditions, or asks a
condition of what a property holds.  Joined conditions are kept in the order they
are written in, so a chain of three is one node with three parts.
-/
import Criteria.Value

namespace Criteria

/-- The comparisons. -/
inductive CompareOp where
  | eq
  | ne
  | lt
  | le
  | gt
  | ge
  /-- a text property against a pattern -/
  | like
  /-- a list property and one of its items -/
  | contains
deriving DecidableEq, Repr

namespace CompareOp

/-- All comparisons, in the order they are listed. -/
def all : List CompareOp := [.eq, .ne, .lt, .le, .gt, .ge, .like, .contains]

/-- How a comparison is written. -/
def symbol : CompareOp → String
  | .eq => "=="
  | .ne => "!="
  | .lt => "<"
  | .le => "<="
  | .gt => ">"
  | .ge => ">="
  | .like => "=~"
  | .contains => "contains"

/-- Whether a comparison needs an order on its operands. -/
def isOrdering : CompareOp → Bool
  | .lt => true
  | .le => true
  | .gt => true
  | .ge => true
  | _ => false

end CompareOp

/-- A condition. -/
inductive Condition where
  | alwaysTrue
  | compare (name : String) (op : CompareOp) (value : Value)
  | conjunction (parts : List Condition)
  | disjunction (parts : List Condition)
  /-- a condition on what a property holds: a container, or some item of an array -/
  | within (name : String) (body : Condition)

namespace Condition

/-! ### Equality -/

mutual

/-- Equal in structure, the values being compared as values are. -/
def same : Condition → Condition → Bool
  | .alwaysTrue, .alwaysTrue => true
  | .compare m p v, .compare n q w => m == n && p == q && v == w
  | .conjunction cs, .conjunction ds => sameAll cs ds
  | .disjunction cs, .disjunction ds => sameAll cs ds
  | .within m c, .within n d => m == n && same c d
  | _, _ => false

def sameAll : List Condition → List Condition → Bool
  | [], [] => true
  | c :: cs, d :: ds => same c d && sameAll cs ds
  | _, _ => false

end

instance : BEq Condition := ⟨same⟩

/-! ### Building conditions -/

/-- Both conditions.  A chain is one node: a conjunction on the left takes the other
as its last part. -/
def and : Condition → Condition → Condition
  | .conjunction parts, other => .conjunction (parts ++ [other])
  | first, other => .conjunction [first, other]

/-- Either condition, a chain being one node. -/
def or : Condition → Condition → Condition
  | .disjunction parts, other => .disjunction (parts ++ [other])
  | first, other => .disjunction [first, other]

/-- All of some conditions: none ask nothing, and a single one stands for itself. -/
def allOf : List Condition → Condition
  | [] => .alwaysTrue
  | [only] => only
  | parts => .conjunction parts

end Condition

/-- A property that is about to be compared. -/
structure PropertyRef where
  name : String

namespace PropertyRef

def eq (p : PropertyRef) (v : Value) : Condition := .compare p.name .eq v
def ne (p : PropertyRef) (v : Value) : Condition := .compare p.name .ne v
def lt (p : PropertyRef) (v : Value) : Condition := .compare p.name .lt v
def le (p : PropertyRef) (v : Value) : Condition := .compare p.name .le v
def gt (p : PropertyRef) (v : Value) : Condition := .compare p.name .gt v
def ge (p : PropertyRef) (v : Value) : Condition := .compare p.name .ge v

/-- The property matches a pattern. -/
def like (p : PropertyRef) (pattern : Pattern) : Condition :=
  .compare p.name .like (.pattern pattern)

/-- The property has an item. -/
def contains (p : PropertyRef) (item : String) : Condition :=
  .compare p.name .contains (.text item)

end PropertyRef

/-- The property of this name, to be compared. -/
def property (name : String) : PropertyRef := ⟨name⟩

end Criteria
