/-
Comparing the value of a property with a literal.

The property's kind decides which comparisons there are: an order on quantities,
versions and timestamps, equality on these and on texts and categories, a pattern
for texts and an item for lists.  A comparison that there is wants a literal of the
kind it compares with.
-/
import Criteria.SemanticError

namespace Criteria.Comparison

/-- Compares amounts.  A literal that names a unit wants a property measured in that
unit; one that names none fits every property. -/
def quantities (name : String) (property literal : Quantity) :
    Except SemanticError Ordering :=
  let conflict := SemanticError.invalidValueUnit name (property.unit.getD "")
    (literal.unit.getD "")
  if property.unit.isNone && literal.unit.isSome then .error conflict
  else
    match property.compare? literal with
    | .ok o => .ok o
    | .error _ => .error conflict

/-- Whether a property equals a literal. -/
def equal (name : String) (op : CompareOp) (property literal : Value) :
    Except SemanticError Bool :=
  match property, literal with
  | .pattern _, _ => .error (.invalidOperator name op property.kind)
  | .list _, _ => .error (.invalidOperator name op property.kind)
  | .quantity a, .quantity b => (quantities name a b).map Ordering.isEq
  | .text a, .text b => .ok (a == b)
  | .version a, .version b => .ok (a == b)
  | .timestamp a, .timestamp b => .ok (a == b)
  | .category a, .category b => .ok (a == b)
  | _, _ => .error (.invalidValueType name property.kind literal.kind)

/-- How a property is ordered relative to a literal. -/
def order (name : String) (op : CompareOp) (property literal : Value) :
    Except SemanticError Ordering :=
  match property, literal with
  | .text _, _ => .error (.invalidOperator name op property.kind)
  | .category _, _ => .error (.invalidOperator name op property.kind)
  | .pattern _, _ => .error (.invalidOperator name op property.kind)
  | .list _, _ => .error (.invalidOperator name op property.kind)
  | .quantity a, .quantity b => quantities name a b
  | .version a, .version b => .ok (a.compare b)
  | .timestamp a, .timestamp b => .ok (a.compare b)
  | _, _ => .error (.invalidValueType name property.kind literal.kind)

/-- Whether a pattern matches a part of a text property. -/
def like (name : String) (property literal : Value) : Except SemanticError Bool :=
  match property, literal with
  | .text s, .pattern p => .ok (p.matchesIn s)
  | .text _, _ => .error (.invalidValueType name .regex literal.kind)
  | _, _ => .error (.invalidOperator name .like property.kind)

/-- Whether a list property has an item. -/
def contains (name : String) (property literal : Value) : Except SemanticError Bool :=
  match property, literal with
  | .list items, .text s => .ok (items.contains s)
  | .list _, _ => .error (.invalidValueType name .text literal.kind)
  | _, _ => .error (.invalidOperator name .contains property.kind)

/-- The result of a comparison. -/
def compare (name : String) (op : CompareOp) (property literal : Value) :
    Except SemanticError Bool :=
  match op with
  | .eq => equal name op property literal
  | .ne => (equal name op property literal).map (!·)
  | .lt => (order name op property literal).map Ordering.isLT
  | .le => (order name op property literal).map Ordering.isLE
  | .gt => (order name op property literal).map Ordering.isGT
  | .ge => (order name op property literal).map Ordering.isGE
  | .like => like name property literal
  | .contains => contains name property literal

end Criteria.Comparison
