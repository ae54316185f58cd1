/-
Property trees by their bindings.

What is shown of every tree is shown by one induction over its bindings, in which a tree that
a name is bound to and the members of an array are smaller.  Two trees are the same when they
bind the same names to what is the same; so a scope made of the one answers for every name
like a scope made of the other.

A tree that is made by binding names and taking bindings away has its bindings in the order
of the names, each name once.  So it does not show in which order they were made, and two such
trees are the same exactly when their bindings are.
-/
import Criteria.Proofs.Scope
import Criteria.PropertyTree

namespace Criteria.PropertyTree

/-! ### Induction -/

/-- What holds of a tree when it holds of what its first name is bound to, and of the tree of
the names after it, holds of every tree. -/
@[induction_eliminator]
theorem induction {motive : PropertyTree → Prop} (empty : motive .empty)
    (simple : ∀ name v rest, motive rest → motive (.bind name (.simple v) rest))
    (container : ∀ name inner rest, motive inner → motive rest →
      motive (.bind name (.container inner) rest))
    (array : ∀ name items rest, (∀ t ∈ items, motive t) → motive rest →
      motive (.bind name (.array items) rest)) (tree : PropertyTree) : motive tree := by
  refine @PropertyTree.rec motive (fun node => ∀ name rest, motive rest →
    motive (.bind name node rest)) (fun items => ∀ t ∈ items, motive t) empty
    (fun name _ rest hnode hrest => hnode name rest hrest)
    (fun v name rest => simple name v rest)
    (fun inner hinner name rest => container name inner rest hinner)
    (fun items hitems name rest => array name items rest hitems)
    (fun t ht => absurd ht List.not_mem_nil) ?_ tree
  intro t items ht hitems u hu
  rcases List.mem_cons.mp hu with rfl | hu
  · exact ht
  · exact hitems u hu

/-! ### Trees that are the same -/

theorem sameAll_iff {ss ts : List PropertyTree} :
    sameAll ss ts = true ↔ List.Forall₂ (fun s t => same s t = true) ss ts := by
  induction ss generalizing ts with
  | nil => cases ts <;> simp [sameAll]
  | cons s ss ih => cases ts <;> simp [sameAll, ih]

theorem same_empty {t : PropertyTree} : same .empty t = true ↔ t = .empty := by
  cases t <;> simp [same]

theorem same_bind {name : String} {node : Node} {rest t : PropertyTree} :
    same (.bind name node rest) t = true ↔
      ∃ other more, t = .bind name other more ∧ sameNode node other = true ∧
        same rest more = true := by
  constructor
  · intro h
    cases t with
    | empty => simp [same] at h
    | bind m other more =>
        simp only [same, Bool.and_eq_true, beq_iff_eq] at h
        obtain ⟨⟨rfl, hnode⟩, hrest⟩ := h
        exact ⟨other, more, rfl, hnode, hrest⟩
  · rintro ⟨other, more, rfl, hnode, hrest⟩
    simp [same, hnode, hrest]

theorem sameNode_simple {v : Value} {node : Node} :
    sameNode (.simple v) node = true ↔ ∃ w, node = .simple w ∧ (v == w) = true := by
  cases node <;> simp [sameNode]

theorem sameNode_container {s : PropertyTree} {node : Node} :
    sameNode (.container s) node = true ↔ ∃ t, node = .container t ∧ same s t = true := by
  cases node <;> simp [sameNode]

theorem sameNode_array {ss : List PropertyTree} {node : Node} :
    sameNode (.array ss) node = true ↔
      ∃ ts, node = .array ts ∧ List.Forall₂ (fun s t => same s t = true) ss ts := by
  cases node <;> simp [sameNode, sameAll_iff]

/-- Trees that are the same bind the same names, to what is the same. -/
theorem node?_of_same : {s t : PropertyTree} → same s t = true → (name : String) →
    Option.Rel (fun node other => sameNode node other = true) (s.node? name) (t.node? name)
  | .empty, _, h, _ => by
    rw [same_empty.mp h]
    exact .none
  | .bind n node rest, _, h, name => by
    obtain ⟨other, more, rfl, hnode, hrest⟩ := same_bind.mp h
    rw [node?, node?]
    split
    · exact .some hnode
    · exact node?_of_same hrest name

/-! ### As scopes -/

theorem resolve_eq (tree : PropertyTree) (name : String) :
    resolve tree name =
      match tree.node? name with
      | some node => .ok (propertyOf node)
      | none => .error (.invalidProperty name .missing) := by
  simp only [resolve, Container.hasProperty, Container.property]
  cases tree.node? name <;> rfl

/-- Trees that are the same answer alike, with equal values. -/
theorem alike_same : Alike (fun v w : Value => (v == w) = true)
    (fun s t : PropertyTree => same s t = true)
    (List.Forall₂ fun s t : PropertyTree => same s t = true) := by
  intro s t h name
  have hbound := node?_of_same h name
  rw [resolve_eq, resolve_eq]
  generalize s.node? name = p, t.node? name = q at hbound ⊢
  cases hbound with
  | none => exact .refused _
  | @some node other hnode =>
      cases node with
      | simple v =>
          obtain ⟨w, rfl, hvw⟩ := sameNode_simple.mp hnode
          exact .simple hvw
      | container inner =>
          obtain ⟨t, rfl, hinner⟩ := sameNode_container.mp hnode
          exact .container hinner
      | array items =>
          obtain ⟨ts, rfl, hitems⟩ := sameNode_array.mp hnode
          exact .array hitems

/-! ### The order of names -/

/-- The names that are bound, in order. -/
def names (tree : PropertyTree) : List String := tree.toList.map Prod.fst

theorem names_bind (name : String) (node : Node) (rest : PropertyTree) :
    (bind name node rest).names = name :: rest.names := rfl

/-- Names stand in their order, and each is bound once. -/
def Ordered (tree : PropertyTree) : Prop := tree.names.Pairwise (· < ·)

theorem ordered_empty : Ordered .empty := List.Pairwise.nil

theorem ordered_bind {name : String} {node : Node} {rest : PropertyTree} :
    Ordered (.bind name node rest) ↔ (∀ m ∈ rest.names, name < m) ∧ rest.Ordered :=
  List.pairwise_cons

theorem mem_names_insert (name : String) (node : Node) {m : String} :
    (tree : PropertyTree) → m ∈ (tree.insert name node).names → m = name ∨ m ∈ tree.names
  | .empty, hm => Or.inl (List.mem_singleton.mp hm)
  | .bind k other rest, hm => by
    rw [insert] at hm
    split at hm
    · next hk =>
      rw [names_bind, hk]
      exact List.mem_cons.mp hm |>.imp id (List.mem_cons_of_mem name)
    · split at hm
      · exact List.mem_cons.mp hm
      · rcases List.mem_cons.mp hm with rfl | hm
        · exact Or.inr List.mem_cons_self
        · exact (mem_names_insert name node rest hm).imp id (List.mem_cons_of_mem k)

/-- A binding is made in its place. -/
theorem Ordered.insert (name : String) (node : Node) :
    {tree : PropertyTree} → tree.Ordered → (tree.insert name node).Ordered
  | .empty, _ => List.pairwise_singleton ..
  | .bind k other rest, h => by
    obtain ⟨hk, hrest⟩ := ordered_bind.mp h
    rw [PropertyTree.insert]
    split
    · next hkn =>
      rw [← hkn]
      exact ordered_bind.mpr ⟨hk, hrest⟩
    · next hkn =>
      split
      · next hlt =>
        refine ordered_bind.mpr ⟨?_, h⟩
        intro m hm
        rcases List.mem_cons.mp hm with rfl | hm
        · exact hlt
        · exact String.lt_trans hlt (hk m hm)
      · next hlt =>
        refine ordered_bind.mpr ⟨?_, hrest.insert name node⟩
        intro m hm
        rcases mem_names_insert name node rest hm with rfl | hm
        · exact Std.lt_of_le_of_ne (String.not_lt.mp hlt) hkn
        · exact hk m hm

private theorem names_erase_sublist (name : String) :
    (tree : PropertyTree) → (tree.erase name).names.Sublist tree.names
  | .empty => .slnil
  | .bind k other rest => by
    rw [erase]
    split
    · exact List.sublist_cons_self ..
    · exact (names_erase_sublist name rest).cons_cons k

/-- Taking a binding away leaves the others in their places. -/
theorem Ordered.erase {tree : PropertyTree} (h : tree.Ordered) (name : String) :
    (tree.erase name).Ordered :=
  h.sublist (names_erase_sublist name tree)

/-- Two names may be bound in either order. -/
theorem insert_comm {m n : String} (h : m ≠ n) (x y : Node) :
    (tree : PropertyTree) → (tree.insert m x).insert n y = (tree.insert n y).insert m x
  | .empty => by grind [PropertyTree.insert]
  | .bind k z rest => by
    -- Either name may be that of the first binding, or come before it or after it.
    have ih := insert_comm h x y rest
    grind [PropertyTree.insert]

/-- The names in a tree are those that are bound. -/
theorem mem_names {name : String} :
    {tree : PropertyTree} → name ∈ tree.names ↔ (tree.node? name).isSome = true
  | .empty => by simp [names, toList, node?]
  | .bind k other rest => by
    rw [names_bind, List.mem_cons, node?]
    split
    · next hk => exact iff_of_true (Or.inl hk.symm) rfl
    · next hk => rw [or_iff_right (Ne.symm hk), mem_names]

theorem node?_of_not_mem {name : String} {tree : PropertyTree} (h : name ∉ tree.names) :
    tree.node? name = none := Option.not_isSome_iff_eq_none.mp (mt mem_names.mpr h)

theorem node?_bind_self (name : String) (node : Node) (rest : PropertyTree) :
    (bind name node rest).node? name = some node := if_pos rfl

theorem length_names (tree : PropertyTree) : tree.names.length = tree.size := by
  rw [names, List.length_map, size_eq_length_toList]

theorem Ordered.nodup_names {tree : PropertyTree} (h : tree.Ordered) : tree.names.Nodup := by
  refine List.Pairwise.imp ?_ h
  rintro name _ hlt rfl
  exact String.lt_irrefl name hlt

/-- A name is bound once, so nothing is left of it when its binding is taken away. -/
theorem Ordered.node?_erase_self (name : String) :
    {tree : PropertyTree} → tree.Ordered → (tree.erase name).node? name = none
  | .empty, _ => rfl
  | .bind k other rest, h => by
    obtain ⟨hk, hrest⟩ := ordered_bind.mp h
    rw [PropertyTree.erase]
    split
    · next hkn =>
      subst hkn
      exact node?_of_not_mem fun hmem => String.lt_irrefl _ (hk _ hmem)
    · next hkn =>
      rw [node?, if_neg hkn]
      exact hrest.node?_erase_self name

/-- Names that come before all that are bound are not bound. -/
theorem Ordered.node?_eq_none {k name : String} {node : Node} {rest : PropertyTree}
    (h : Ordered (.bind k node rest)) (hlt : name < k) :
    (bind k node rest).node? name = none := by
  refine node?_of_not_mem fun hmem => ?_
  rcases List.mem_cons.mp hmem with rfl | hmem
  · exact String.lt_irrefl _ hlt
  · exact String.lt_asymm hlt ((ordered_bind.mp h).1 name hmem)

/-- Trees with the same bindings are the same: a tree shows nothing else of how it was made. -/
theorem same_of_node? : {s t : PropertyTree} → s.Ordered → t.Ordered →
    (∀ name, Option.Rel (fun node other => sameNode node other = true) (s.node? name)
      (t.node? name)) → same s t = true
  | .empty, .empty, _, _, _ => same_empty.mpr rfl
  | .empty, .bind k node rest, _, _, h => by
    have hk := h k
    rw [node?_bind_self] at hk
    cases hk
  | .bind k node rest, .empty, _, _, h => by
    have hk := h k
    rw [node?_bind_self] at hk
    cases hk
  | .bind k node rest, .bind l other more, hs, ht, h => by
    -- The first names are the same, as the lesser of two would be bound in one tree only.
    have hkl : k = l := by
      rcases Std.lt_trichotomy k l with hlt | heq | hlt
      · have hk := h k
        rw [node?_bind_self, ht.node?_eq_none hlt] at hk
        cases hk
      · exact heq
      · have hl := h l
        rw [node?_bind_self, hs.node?_eq_none hlt] at hl
        cases hl
    subst hkl
    obtain ⟨hk, hrest⟩ := ordered_bind.mp hs
    obtain ⟨hk', hmore⟩ := ordered_bind.mp ht
    have hnode : sameNode node other = true := by
      have hself := h k
      rw [node?_bind_self, node?_bind_self] at hself
      cases hself with
      | some hnode => exact hnode
    have hbound : ∀ name, Option.Rel (fun node other => sameNode node other = true)
        (rest.node? name) (more.node? name) := by
      intro name
      by_cases hname : k = name
      · subst hname
        have hnone := node?_of_not_mem fun hmem => String.lt_irrefl _ (hk k hmem)
        have hnone' := node?_of_not_mem fun hmem => String.lt_irrefl _ (hk' k hmem)
        rw [hnone, hnone']
        exact .none
      · have hother := h name
        rwa [node?, node?, if_neg hname, if_neg hname] at hother
    exact same_bind.mpr ⟨other, more, rfl, hnode, same_of_node? hrest hmore hbound⟩

/-- **Trees that are made by binding and taking away are the same exactly when each name is
bound in both to the same, or in neither.** -/
theorem same_iff_node? {s t : PropertyTree} (hs : s.Ordered) (ht : t.Ordered) :
    same s t = true ↔
      ∀ name, Option.Rel (fun node other => sameNode node other = true) (s.node? name)
        (t.node? name) :=
  ⟨node?_of_same, same_of_node? hs ht⟩

end Criteria.PropertyTree
