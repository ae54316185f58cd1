/-
Why a condition does not fit the data it is put to.

Each cause names the property it is about.
-/
import Criteria.Condition

namespace Criteria

/-- Why a name could not be used where it stands. -/
inductive PropertyFault where
  /-- the scope has no such property -/
  | missing
  /-- a comparison names a container or an array -/
  | notSimple
  /-- what is asked about the inside of a property names a simple one -/
  | notQualifiable
deriving DecidableEq, Repr

def PropertyFault.message : PropertyFault → String
  | .missing => "does not exist"
  | .notSimple => "is not a simple property"
  | .notQualifiable => "is not a container or array property"

/-- Why a condition does not fit. -/
inductive SemanticError where
  | invalidProperty (name : String) (fault : PropertyFault)
  | invalidOperator (name : String) (op : CompareOp) (kind : ValueKind)
  | invalidValueType (name : String) (expected actual : ValueKind)
  | invalidValueUnit (name : String) (expected actual : String)
deriving DecidableEq, Repr

namespace SemanticError

/-- The property a cause is about. -/
def name : SemanticError → String
  | .invalidProperty n _ => n
  | .invalidOperator n _ _ => n
  | .invalidValueType n _ _ => n
  | .invalidValueUnit n _ _ => n

/-- The text of each cause. -/
def message : SemanticError → String
  | .invalidProperty n fault => "property '" ++ n ++ "' " ++ fault.message
  | .invalidOperator n op kind =>
    "operator '" ++ op.symbol ++ "' is not supported for " ++ kind.name ++
      " property '" ++ n ++ "'"
  | .invalidValueType n expected actual =>
    "property '" ++ n ++ "' expects a " ++ expected.name ++ " value, got " ++ actual.name
  | .invalidValueUnit n expected actual =>
    "property '" ++ n ++ "' is measured in '" ++ expected ++ "', got '" ++ actual ++ "'"

end SemanticError

end Criteria
