/-
Property trees: the data of a resource, held in memory.

A tree binds names to values, to trees and to arrays of trees.  Bindings stand in
the order of their names, whatever order they were made in, and each name is bound
once.
-/
import Criteria.Container

namespace Criteria

mutual

/-- A tree without bindings, or a binding and those after it. -/
inductive PropertyTree where
  | empty
  | bind (name : String) (node : Node) (rest : PropertyTree)

/-- What a name is bound to. -/
inductive Node where
  | simple (v : Value)
  | container (tree : PropertyTree)
  | array (items : List PropertyTree)

end

namespace PropertyTree

/-- What a name is bound to. -/
def node? : PropertyTree → String → Option Node
  | .empty, _ => none
  | .bind n node rest, name => if n = name then some node else rest.node? name

/-- Binds a name, in its place, whatever it was bound to. -/
def insert (name : String) (node : Node) : PropertyTree → PropertyTree
  | .empty => .bind name node .empty
  | .bind n m rest =>
    if n = name then .bind name node rest
    else if name < n then .bind name node (.bind n m rest)
    else .bind n m (insert name node rest)

/-- Takes the binding of a name away. -/
def erase (name : String) : PropertyTree → PropertyTree
  | .empty => .empty
  | .bind n m rest => if n = name then rest else .bind n m (erase name rest)

/-- The number of bindings. -/
def size : PropertyTree → Nat
  | .empty => 0
  | .bind _ _ rest => rest.size + 1

def isEmpty : PropertyTree → Bool
  | .empty => true
  | .bind _ _ _ => false

/-- The bindings in order. -/
def toList : PropertyTree → List (String × Node)
  | .empty => []
  | .bind n m rest => (n, m) :: rest.toList

theorem size_eq_length_toList : (tree : PropertyTree) → tree.size = tree.toList.length
  | .empty => rfl
  | .bind _ _ rest => congrArg (· + 1) (size_eq_length_toList rest)

/-- A name stands for what it was bound to last. -/
theorem node?_insert_self (name : String) (node : Node) :
    (tree : PropertyTree) → (tree.insert name node).node? name = some node
  | .empty => by simp [insert, node?]
  | .bind n m rest => by
    have ih := node?_insert_self name node rest
    by_cases hn : n = name
    · simp [insert, node?, hn]
    · by_cases hlt : name < n <;> simp [insert, node?, hn, hlt, ih]

/-- Binding a name changes no other name. -/
theorem node?_insert_of_ne {name other : String} (h : name ≠ other) (node : Node) :
    (tree : PropertyTree) → (tree.insert name node).node? other = tree.node? other
  | .empty => by simp [insert, node?, h]
  | .bind n m rest => by
    have ih := node?_insert_of_ne h node rest
    by_cases hn : n = name
    · subst hn
      simp [insert, node?, h]
    · by_cases hlt : name < n <;> simp [insert, node?, hn, hlt, h, ih]

/-- Taking a binding away changes no other name. -/
theorem node?_erase_of_ne {name other : String} (h : name ≠ other) :
    (tree : PropertyTree) → (tree.erase name).node? other = tree.node? other
  | .empty => rfl
  | .bind n m rest => by
    have ih := node?_erase_of_ne h rest
    by_cases hn : n = name
    · subst hn
      simp [erase, node?, h]
    · simp [erase, node?, hn, ih]

/-- Binds a name to a value. -/
def withValue (tree : PropertyTree) (name : String) (v : Value) : PropertyTree :=
  tree.insert name (.simple v)

/-- Binds a name to a tree. -/
def withContainer (tree : PropertyTree) (name : String) (inner : PropertyTree) : PropertyTree :=
  tree.insert name (.container inner)

/-- Binds a name to an array of trees. -/
def withArray (tree : PropertyTree) (name : String) (items : List PropertyTree) : PropertyTree :=
  tree.insert name (.array items)

/-- Takes a binding away, and says whether there was one. -/
def remove (tree : PropertyTree) (name : String) : Bool × PropertyTree :=
  ((tree.node? name).isSome, tree.erase name)

/-! ### Equality -/

mutual

/-- The same names, bound to equal things. -/
def same : PropertyTree → PropertyTree → Bool
  | .empty, .empty => true
  | .bind n x s, .bind m y t => n == m && sameNode x y && same s t
  | _, _ => false

def sameNode : Node → Node → Bool
  | .simple v, .simple w => v == w
  | .container s, .container t => same s t
  | .array ss, .array ts => sameAll ss ts
  | _, _ => false

def sameAll : List PropertyTree → List PropertyTree → Bool
  | [], [] => true
  | s :: ss, t :: ts => same s t && sameAll ss ts
  | _, _ => false

end

instance : BEq PropertyTree := ⟨same⟩

/-! ### As a scope -/

/-- What a name is bound to as the property it gives. -/
def propertyOf : Node → Property PropertyTree
  | .simple v => .simple v
  | .container tree => .container tree
  | .array items => .array items

instance : Container PropertyTree where
  property tree name := (tree.node? name).map propertyOf
  hasProperty tree name := (tree.node? name).isSome

end PropertyTree

end Criteria
