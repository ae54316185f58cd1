/-
Scopes that names are looked up in.

A name is looked up as it stands: a dot in it is a part of its spelling and leads
nowhere.  What a lookup finds is a value, another scope, or several scopes in
order.
-/
import Criteria.Value

namespace Criteria

/-- What a name stands for in a scope. -/
inductive Property (α : Type) where
  | simple (v : Value)
  | container (inner : α)
  | array (items : List α)

/-- A type of scopes.  A scope may say that it has a property and yet not give it;
unless it says otherwise, it has the properties it gives. -/
class Container (α : Type) where
  property : α → String → Option (Property α)
  hasProperty : α → String → Bool := fun scope name => (property scope name).isSome

end Criteria
