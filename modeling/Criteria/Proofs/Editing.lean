/-
A tree is its last bindings.

A tree is made by edits, starting without a binding: a name is bound to a value, to a tree or to
an array, or its binding is taken away.  One edit says all there is to say about its own name,
and nothing about another.  So after any edits a name is bound to what the last edit under it
has bound it to, whatever was there before, and it is not bound if that was a removal or if
there is no edit under it.

With that a tree that was made by edits is known but for the spelling of what is in it: how many
names it binds, what each removal answered, and which trees it equals and evaluates like.
-/
import Mathlib.Data.List.Induction
import Criteria.Proofs.Equality

namespace Criteria.PropertyTree

/-! ### Edits -/

/-- What is done to a tree. -/
inductive Edit where
  | withValue (name : String) (v : Value)
  | withContainer (name : String) (inner : PropertyTree)
  | withArray (name : String) (items : List PropertyTree)
  | insertValue (name : String) (v : Value)
  | remove (name : String)

namespace Edit

/-- The name that is bound, or that loses its binding. -/
def name : Edit → String
  | .withValue name _ => name
  | .withContainer name _ => name
  | .withArray name _ => name
  | .insertValue name _ => name
  | .remove name => name

/-- What the name is bound to, unless it loses its binding. -/
def node? : Edit → Option Node
  | .withValue _ v => some (.simple v)
  | .withContainer _ inner => some (.container inner)
  | .withArray _ items => some (.array items)
  | .insertValue _ v => some (.simple v)
  | .remove _ => none

/-- What an edit answers, which only a removal does, and the tree after it. -/
def apply : Edit → PropertyTree → Option Bool × PropertyTree
  | .withValue name v, tree => (none, tree.withValue name v)
  | .withContainer name inner, tree => (none, tree.withContainer name inner)
  | .withArray name items, tree => (none, tree.withArray name items)
  -- A value is bound alike in a tree that is being made and in one that is there.
  | .insertValue name v, tree => (none, tree.withValue name v)
  | .remove name, tree => (some (tree.remove name).1, (tree.remove name).2)

/-- What edits answer one after another, and the tree after them. -/
def applyAll : List Edit → PropertyTree → List (Option Bool) × PropertyTree
  | [], tree => ([], tree)
  | e :: es, tree =>
    let (answer, next) := e.apply tree
    let (answers, last) := applyAll es next
    (answer :: answers, last)

end Edit

/-- The tree that edits make. -/
def ofEdits (edits : List Edit) : PropertyTree := (Edit.applyAll edits .empty).2

/-- What they answer on the way. -/
def answers (edits : List Edit) : List (Option Bool) := (Edit.applyAll edits .empty).1

/-- What edits bind a name to at last. -/
def lastNode? (edits : List Edit) (name : String) : Option Node :=
  (edits.reverse.find? fun e => e.name = name).bind Edit.node?

/-- Edits after which the same names are bound, to what is the same. -/
def EndAlike (edits others : List Edit) : Prop :=
  ∀ name, Option.Rel (fun node other => sameNode node other = true) (lastNode? edits name)
    (lastNode? others name)

/-! ### The last edit under a name -/

private theorem lastNode?_concat (edits : List Edit) (e : Edit) (name : String) :
    lastNode? (edits ++ [e]) name = if e.name = name then e.node? else lastNode? edits name := by
  rw [lastNode?, List.reverse_append, List.reverse_singleton, List.singleton_append,
    List.find?_cons]
  by_cases h : e.name = name
  · simp [h]
  · simp [h, lastNode?]

/-- A name is bound to what its last insertion bound it to, if no removal of it follows. -/
theorem lastNode?_eq_some {edits : List Edit} {name : String} {node : Node} :
    lastNode? edits name = some node ↔
      ∃ before e after, edits = before ++ e :: after ∧ e.name = name ∧ e.node? = some node ∧
        ∀ later ∈ after, later.name ≠ name := by
  rw [lastNode?, Option.bind_eq_some_iff]
  constructor
  · rintro ⟨e, hfind, hnode⟩
    obtain ⟨hname, after, before, hedits, hafter⟩ := List.find?_eq_some_iff_append.mp hfind
    refine ⟨before.reverse, e, after.reverse, ?_, by simpa using hname, hnode, ?_⟩
    · rw [← List.reverse_reverse edits, hedits]
      simp
    · intro later hlater
      simpa using hafter later (List.mem_reverse.mp hlater)
  · rintro ⟨before, e, after, rfl, hname, hnode, hafter⟩
    refine ⟨e, List.find?_eq_some_iff_append.mpr ?_, hnode⟩
    refine ⟨by simpa using hname, after.reverse, before.reverse, by simp, ?_⟩
    intro later hlater
    simpa using hafter later (List.mem_reverse.mp hlater)

/-! ### What one edit does -/

/-- An insertion of any shape binds its name, and a removal takes the binding away. -/
theorem Edit.tree_apply (e : Edit) (tree : PropertyTree) :
    (e.apply tree).2 = e.node?.elim (tree.erase e.name) fun node => tree.insert e.name node := by
  cases e <;> rfl

theorem Ordered.apply {tree : PropertyTree} (h : tree.Ordered) (e : Edit) :
    (e.apply tree).2.Ordered := by
  rw [Edit.tree_apply]
  cases e.node? with
  | none => exact h.erase e.name
  | some node => exact h.insert e.name node

/-- An edit decides about its own name, whatever was there, and about no other. -/
theorem node?_apply {tree : PropertyTree} (h : tree.Ordered) (e : Edit) (name : String) :
    (e.apply tree).2.node? name = if e.name = name then e.node? else tree.node? name := by
  rw [Edit.tree_apply]
  by_cases hname : e.name = name
  · subst hname
    rw [if_pos rfl]
    cases e.node? with
    | none => exact h.node?_erase_self e.name
    | some node => exact node?_insert_self e.name node tree
  · rw [if_neg hname]
    cases e.node? with
    | none => exact node?_erase_of_ne hname tree
    | some node => exact node?_insert_of_ne hname node tree

/-! ### What all edits do -/

theorem Edit.applyAll_append (es fs : List Edit) (tree : PropertyTree) :
    Edit.applyAll (es ++ fs) tree =
      ((Edit.applyAll es tree).1 ++ (Edit.applyAll fs (Edit.applyAll es tree).2).1,
        (Edit.applyAll fs (Edit.applyAll es tree).2).2) := by
  induction es generalizing tree with
  | nil => rfl
  | cons e es ih => simp only [List.cons_append, Edit.applyAll, ih]

private theorem Edit.length_applyAll (edits : List Edit) (tree : PropertyTree) :
    (Edit.applyAll edits tree).1.length = edits.length := by
  induction edits generalizing tree with
  | nil => rfl
  | cons e es ih => simp only [Edit.applyAll, List.length_cons, ih]

theorem ofEdits_concat (edits : List Edit) (e : Edit) :
    ofEdits (edits ++ [e]) = (e.apply (ofEdits edits)).2 := by
  rw [ofEdits, Edit.applyAll_append]
  rfl

/-- What edits make has its names in order. -/
theorem ordered_ofEdits (edits : List Edit) : (ofEdits edits).Ordered := by
  induction edits using List.reverseRecOn with
  | nil => exact ordered_empty
  | append_singleton es e ih =>
      rw [ofEdits_concat]
      exact ih.apply e

/-- What edits make binds each name to what it was bound to last. -/
theorem node?_ofEdits (edits : List Edit) (name : String) :
    (ofEdits edits).node? name = lastNode? edits name := by
  induction edits using List.reverseRecOn with
  | nil => rfl
  | append_singleton es e ih =>
      rw [ofEdits_concat, node?_apply (ordered_ofEdits es), lastNode?_concat, ih]

/-- Each edit answers about the tree that the edits before it have made. -/
theorem getElem?_answers (before : List Edit) (e : Edit) (after : List Edit) :
    (answers (before ++ e :: after))[before.length]? = some (e.apply (ofEdits before)).1 := by
  have hlength := Edit.length_applyAll before .empty
  rw [answers, Edit.applyAll_append, List.getElem?_append_right (Nat.le_of_eq hlength), hlength,
    Nat.sub_self]
  rfl

/-- A removal answers whether there was a binding. -/
theorem getElem?_answers_remove (before : List Edit) (name : String) (after : List Edit) :
    (answers (before ++ .remove name :: after))[before.length]? =
      some (some (lastNode? before name).isSome) := by
  rw [getElem?_answers, ← node?_ofEdits]
  rfl

/-- The names that a tree made by edits binds, each once, are as many as it says. -/
theorem exists_bound_ofEdits (edits : List Edit) :
    ∃ bound : List String, bound.Nodup ∧
      (∀ name, name ∈ bound ↔ (lastNode? edits name).isSome = true) ∧
      (ofEdits edits).size = bound.length := by
  refine ⟨(ofEdits edits).names, (ordered_ofEdits edits).nodup_names, fun name => ?_,
    (length_names _).symm⟩
  rw [mem_names, node?_ofEdits]

private theorem isEmpty_iff {tree : PropertyTree} : tree.isEmpty = true ↔ tree.size = 0 := by
  cases tree <;> simp [isEmpty, size]

/-- Edits make equal trees exactly when they end alike. -/
theorem ofEdits_beq_iff {edits others : List Edit} :
    (ofEdits edits == ofEdits others) = true ↔ EndAlike edits others := by
  rw [EndAlike, ← funext (node?_ofEdits edits), ← funext (node?_ofEdits others)]
  exact same_iff_node? (ordered_ofEdits edits) (ordered_ofEdits others)

/-- **A tree is its last bindings**: after any edits a name gives what its last insertion bound it
to, and nothing if a removal followed or there was no insertion.  A removal answers whether the
name was bound, and the size of the tree is the number of names that are.  Edits that end alike
make equal trees, and no condition tells these apart. -/
theorem ofEdits_lastBindings (edits : List Edit) :
    (∀ name node, lastNode? edits name = some node ↔
      ∃ before e after, edits = before ++ e :: after ∧ e.name = name ∧ e.node? = some node ∧
        ∀ later ∈ after, later.name ≠ name) ∧
      (∀ name, Container.property (ofEdits edits) name = (lastNode? edits name).map propertyOf ∧
        Container.hasProperty (ofEdits edits) name =
          (Container.property (ofEdits edits) name).isSome) ∧
      (∀ before name after, edits = before ++ .remove name :: after →
        (answers edits)[before.length]? = some (some (lastNode? before name).isSome)) ∧
      (∃ bound : List String, bound.Nodup ∧
        (∀ name, name ∈ bound ↔ (lastNode? edits name).isSome = true) ∧
        (ofEdits edits).size = bound.length) ∧
      ((ofEdits edits).isEmpty = true ↔ (ofEdits edits).size = 0) ∧
      ∀ others : List Edit,
        ((ofEdits edits == ofEdits others) = true ↔ EndAlike edits others) ∧
        (EndAlike edits others → ∀ c : Condition,
          (∀ config, c.evaluate (ofEdits edits) config = c.evaluate (ofEdits others) config) ∧
            c.check (ofEdits edits) = c.check (ofEdits others)) := by
  refine ⟨fun name node => lastNode?_eq_some, fun name => ?_, ?_, exists_bound_ofEdits edits,
    isEmpty_iff, fun others => ⟨ofEdits_beq_iff, fun halike c => ?_⟩⟩
  · refine ⟨congrArg (Option.map propertyOf) (node?_ofEdits edits name), ?_⟩
    exact Option.isSome_map.symm
  · rintro before name after rfl
    exact getElem?_answers_remove before name after
  · have hequal := ofEdits_beq_iff.mpr halike
    have hevaluate : ∀ config,
        c.evaluate (ofEdits edits) config = c.evaluate (ofEdits others) config := fun config =>
      congrArg Run.verdict (Condition.run_eq_of_beq BEq.rfl hequal config.arrayErrors)
    exact ⟨hevaluate, Condition.check_eq_of_beq BEq.rfl hequal⟩

/-- A host whose system is bound three times, in three shapes, and whose disk is taken away twice.
It equals one whose system is bound once, to the same names in another order, with a version that
is spelled otherwise. -/
theorem ofEdits_lastBindings_host :
    let system : List Edit :=
      [.withValue "name" (.text "linux"), .withValue "kernel" (.version paddedVersion)]
    let other : List Edit :=
      [.insertValue "kernel" (.version shortVersion), .withValue "name" (.text "linux")]
    let started : List Edit := [.withArray "system" [.empty], .insertValue "disk" (.text "sda"),
      .insertValue "system" (.text "linux"), .withContainer "system" (ofEdits system)]
    let edits := started ++ [.remove "disk", .remove "disk"]
    let others : List Edit := [.withContainer "system" (ofEdits other)]
    EndAlike system other ∧ EndAlike edits others ∧ (ofEdits edits == ofEdits others) = true ∧
      (∀ c : Condition,
        (∀ config, c.evaluate (ofEdits edits) config = c.evaluate (ofEdits others) config) ∧
          c.check (ofEdits edits) = c.check (ofEdits others)) ∧
      (answers edits)[4]? = some (some true) ∧ (answers edits)[5]? = some (some false) ∧
      (Container.property (ofEdits edits) "system").isSome = true ∧
      (Container.property (ofEdits edits) "disk").isNone = true ∧ (ofEdits edits).size = 1 := by
  intro system other started edits others
  have hsystem : EndAlike system other := by
    intro name
    by_cases hname : "name" = name
    · subst hname
      exact .some (sameNode_simple.mpr ⟨_, rfl, BEq.rfl⟩)
    by_cases hkernel : "kernel" = name
    · subst hkernel
      exact .some paddedVersion_beq_short
    simp [system, other, lastNode?, Edit.name, hname, hkernel]
  have hequal := ((ofEdits_lastBindings system).2.2.2.2.2 other).1.mpr hsystem
  have hedits : EndAlike edits others := by
    intro name
    by_cases hname : "system" = name
    · subst hname
      exact .some (sameNode_container.mpr ⟨_, rfl, hequal⟩)
    by_cases hdisk : "disk" = name
    · subst hdisk
      exact .none
    simp [edits, started, others, lastNode?, Edit.name, hname, hdisk]
  obtain ⟨-, hproperty, hanswers, -, -, hothers⟩ := ofEdits_lastBindings edits
  obtain ⟨hbeq, hrespected⟩ := hothers others
  refine ⟨hsystem, hedits, hbeq.mpr hedits, hrespected hedits, ?_, ?_, ?_, ?_, ?_⟩
  · exact hanswers started "disk" [.remove "disk"] rfl
  · exact hanswers (started ++ [.remove "disk"]) "disk" [] rfl
  · rw [(hproperty "system").1]
    rfl
  · rw [(hproperty "disk").1]
    rfl
  · rfl

end Criteria.PropertyTree
