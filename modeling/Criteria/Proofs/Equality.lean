/-
Equality is an equivalence that evaluating and checking respect.

Equal values are one value or spellings of one version, equal conditions differ in such values
only, and equal trees bind the same names to what is equal.  That each of these is an
equivalence comes from the one below it, and for versions from the comparison of components.

A comparison tells neither equal literals nor equal properties apart.  So equal conditions
have one verdict on equal trees, or one error, and pass a check alike.
-/
import Criteria.Proofs.Evaluation
import Criteria.Proofs.PropertyTree

namespace Criteria

/-! ### Lists of equal members -/

private theorem forall₂_symm_of_mem {β : Type} {R : β → β → Prop} {xs ys : List β}
    (hsymm : ∀ x ∈ xs, ∀ y, R x y → R y x) (h : List.Forall₂ R xs ys) :
    List.Forall₂ R ys xs := by
  have hmembers := (List.forall₂_and_left xs ys).mpr ⟨hsymm, h⟩
  exact List.Forall₂.flip (hmembers.imp fun x y hxy => hxy.1 y hxy.2)

private theorem forall₂_trans_of_mem {β : Type} {R : β → β → Prop} {xs ys zs : List β}
    (htrans : ∀ x ∈ xs, ∀ y z, R x y → R y z → R x z) (h : List.Forall₂ R xs ys)
    (hys : List.Forall₂ R ys zs) : List.Forall₂ R xs zs := by
  induction h generalizing zs with
  | nil =>
      cases hys
      exact .nil
  | @cons x y xs ys hxy _ ih =>
      cases hys with
      | @cons _ z _ zs hyz hmore =>
          have hrest := ih (fun w hw => htrans w (List.mem_cons_of_mem x hw)) hmore
          exact .cons (htrans x List.mem_cons_self y z hxy hyz) hrest

/-! ### Values -/

private theorem Value.beq_version {v w : Version} :
    (Value.version v == Value.version w) = true ↔ v.compare w = .eq := Version.beq_iff

theorem Value.same_refl (v : Value) : same v v = true := by
  cases v <;> simp [same]

instance : EquivBEq Value where
  rfl := Value.same_refl _
  symm {v w} h := by
    rcases Value.eq_or_versions_of_beq h with rfl | ⟨a, b, rfl, rfl, hab⟩
    · exact h
    · rw [Value.beq_version, ← Version.beq_iff]
      exact BEq.symm (Version.beq_iff.mpr hab)
  trans {u v w} huv hvw := by
    rcases Value.eq_or_versions_of_beq huv with rfl | ⟨a, b, rfl, rfl, hab⟩
    · exact hvw
    · rcases Value.eq_or_versions_of_beq hvw with rfl | ⟨b', c, hb, rfl, hbc⟩
      · exact huv
      · cases hb
        exact Value.beq_version.mpr (Std.TransCmp.eq_trans hab hbc)

/-! ### Conditions -/

namespace Condition

theorem same_refl (c : Condition) : same c c = true := by
  induction c with
  | alwaysTrue => exact same_alwaysTrue.mpr rfl
  | compare name op v => exact same_compare.mpr ⟨v, rfl, BEq.rfl⟩
  | conjunction parts ih =>
      exact same_conjunction.mpr ⟨parts, rfl, sameAll_iff.mpr (List.forall₂_same.mpr ih)⟩
  | disjunction parts ih =>
      exact same_disjunction.mpr ⟨parts, rfl, sameAll_iff.mpr (List.forall₂_same.mpr ih)⟩
  | within name body ih => exact same_within.mpr ⟨body, rfl, ih⟩

theorem same_symm {c d : Condition} (h : same c d = true) : same d c = true := by
  induction c generalizing d with
  | alwaysTrue => rw [same_alwaysTrue.mp h, same]
  | compare name op v =>
      obtain ⟨w, rfl, hvw⟩ := same_compare.mp h
      exact same_compare.mpr ⟨v, rfl, BEq.symm hvw⟩
  | conjunction parts ih =>
      obtain ⟨others, rfl, hparts⟩ := same_conjunction.mp h
      have hback := forall₂_of_sameAll (fun c hc d hd => ih c hc hd) hparts
      exact same_conjunction.mpr ⟨parts, rfl, sameAll_iff.mpr hback.flip⟩
  | disjunction parts ih =>
      obtain ⟨others, rfl, hparts⟩ := same_disjunction.mp h
      have hback := forall₂_of_sameAll (fun c hc d hd => ih c hc hd) hparts
      exact same_disjunction.mpr ⟨parts, rfl, sameAll_iff.mpr hback.flip⟩
  | within name body ih =>
      obtain ⟨other, rfl, hbody⟩ := same_within.mp h
      exact same_within.mpr ⟨body, rfl, ih hbody⟩

theorem same_trans {c d e : Condition} (hcd : same c d = true) (hde : same d e = true) :
    same c e = true := by
  induction c generalizing d e with
  | alwaysTrue =>
      rw [same_alwaysTrue.mp hcd] at hde
      exact hde
  | compare name op v =>
      obtain ⟨w, rfl, hvw⟩ := same_compare.mp hcd
      obtain ⟨u, rfl, hwu⟩ := same_compare.mp hde
      exact same_compare.mpr ⟨u, rfl, BEq.trans hvw hwu⟩
  | conjunction parts ih =>
      obtain ⟨ds, rfl, hds⟩ := same_conjunction.mp hcd
      obtain ⟨es, rfl, hes⟩ := same_conjunction.mp hde
      have hall := forall₂_trans_of_mem (fun c hc d e => ih c hc) (sameAll_iff.mp hds)
        (sameAll_iff.mp hes)
      exact same_conjunction.mpr ⟨es, rfl, sameAll_iff.mpr hall⟩
  | disjunction parts ih =>
      obtain ⟨ds, rfl, hds⟩ := same_disjunction.mp hcd
      obtain ⟨es, rfl, hes⟩ := same_disjunction.mp hde
      have hall := forall₂_trans_of_mem (fun c hc d e => ih c hc) (sameAll_iff.mp hds)
        (sameAll_iff.mp hes)
      exact same_disjunction.mpr ⟨es, rfl, sameAll_iff.mpr hall⟩
  | within name body ih =>
      obtain ⟨d, rfl, hd⟩ := same_within.mp hcd
      obtain ⟨e, rfl, he⟩ := same_within.mp hde
      exact same_within.mpr ⟨e, rfl, ih hd he⟩

instance : EquivBEq Condition where
  rfl := same_refl _
  symm := same_symm
  trans := same_trans

end Condition

/-! ### Property trees -/

namespace PropertyTree

theorem same_refl (t : PropertyTree) : same t t = true := by
  induction t with
  | empty => exact same_empty.mpr rfl
  | simple name v rest ih =>
      exact same_bind.mpr ⟨_, rest, rfl, sameNode_simple.mpr ⟨v, rfl, BEq.rfl⟩, ih⟩
  | container name inner rest ihinner ih =>
      exact same_bind.mpr ⟨_, rest, rfl, sameNode_container.mpr ⟨inner, rfl, ihinner⟩, ih⟩
  | array name items rest ihitems ih =>
      have hitems : List.Forall₂ (fun s t => same s t = true) items items :=
        List.forall₂_same.mpr ihitems
      exact same_bind.mpr ⟨_, rest, rfl, sameNode_array.mpr ⟨items, rfl, hitems⟩, ih⟩

theorem same_symm {s t : PropertyTree} (h : same s t = true) : same t s = true := by
  induction s generalizing t with
  | empty => rw [same_empty.mp h, same]
  | simple name v rest ih =>
      obtain ⟨node, more, rfl, hnode, hrest⟩ := same_bind.mp h
      obtain ⟨w, rfl, hvw⟩ := sameNode_simple.mp hnode
      exact same_bind.mpr ⟨_, rest, rfl, sameNode_simple.mpr ⟨v, rfl, BEq.symm hvw⟩, ih hrest⟩
  | container name inner rest ihinner ih =>
      obtain ⟨node, more, rfl, hnode, hrest⟩ := same_bind.mp h
      obtain ⟨t, rfl, ht⟩ := sameNode_container.mp hnode
      exact same_bind.mpr
        ⟨_, rest, rfl, sameNode_container.mpr ⟨inner, rfl, ihinner ht⟩, ih hrest⟩
  | array name items rest ihitems ih =>
      obtain ⟨node, more, rfl, hnode, hrest⟩ := same_bind.mp h
      obtain ⟨ts, rfl, hts⟩ := sameNode_array.mp hnode
      have hback := forall₂_symm_of_mem (fun s hs t => ihitems s hs) hts
      exact same_bind.mpr ⟨_, rest, rfl, sameNode_array.mpr ⟨items, rfl, hback⟩, ih hrest⟩

theorem same_trans {s t u : PropertyTree} (hst : same s t = true) (htu : same t u = true) :
    same s u = true := by
  induction s generalizing t u with
  | empty =>
      rw [same_empty.mp hst] at htu
      exact htu
  | simple name v rest ih =>
      obtain ⟨node, more, rfl, hnode, hrest⟩ := same_bind.mp hst
      obtain ⟨w, rfl, hvw⟩ := sameNode_simple.mp hnode
      obtain ⟨node, further, rfl, hnode, hmore⟩ := same_bind.mp htu
      obtain ⟨x, rfl, hwx⟩ := sameNode_simple.mp hnode
      exact same_bind.mpr
        ⟨_, further, rfl, sameNode_simple.mpr ⟨x, rfl, BEq.trans hvw hwx⟩, ih hrest hmore⟩
  | container name inner rest ihinner ih =>
      obtain ⟨node, more, rfl, hnode, hrest⟩ := same_bind.mp hst
      obtain ⟨t, rfl, ht⟩ := sameNode_container.mp hnode
      obtain ⟨node, further, rfl, hnode, hmore⟩ := same_bind.mp htu
      obtain ⟨u, rfl, hu⟩ := sameNode_container.mp hnode
      exact same_bind.mpr
        ⟨_, further, rfl, sameNode_container.mpr ⟨u, rfl, ihinner ht hu⟩, ih hrest hmore⟩
  | array name items rest ihitems ih =>
      obtain ⟨node, more, rfl, hnode, hrest⟩ := same_bind.mp hst
      obtain ⟨ts, rfl, hts⟩ := sameNode_array.mp hnode
      obtain ⟨node, further, rfl, hnode, hmore⟩ := same_bind.mp htu
      obtain ⟨us, rfl, hus⟩ := sameNode_array.mp hnode
      have hall := forall₂_trans_of_mem (fun s hs t u => ihitems s hs) hts hus
      exact same_bind.mpr ⟨_, further, rfl, sameNode_array.mpr ⟨us, rfl, hall⟩, ih hrest hmore⟩

instance : EquivBEq PropertyTree where
  rfl := same_refl _
  symm := same_symm
  trans := same_trans

end PropertyTree

/-! ### What equality is respected by -/

namespace Condition

/-- Equal conditions pass a check alike. -/
theorem check_congr {α : Type} [Container α] {c d : Condition} (h : same c d = true)
    (scope : α) : check c scope = check d scope := by
  induction c generalizing d scope with
  | alwaysTrue => rw [same_alwaysTrue.mp h]
  | compare name op v =>
      obtain ⟨w, rfl, hvw⟩ := same_compare.mp h
      rw [check, check, compareIn_congr hvw]
  | conjunction parts ih =>
      obtain ⟨others, rfl, hparts⟩ := same_conjunction.mp h
      rw [check, check]
      exact checkAll_eq (forall₂_of_sameAll (fun c hc d hd => ih c hc hd scope) hparts)
  | disjunction parts ih =>
      obtain ⟨others, rfl, hparts⟩ := same_disjunction.mp h
      rw [check, check]
      exact checkAll_eq (forall₂_of_sameAll (fun c hc d hd => ih c hc hd scope) hparts)
  | within name body ih =>
      obtain ⟨other, rfl, hbody⟩ := same_within.mp h
      have hitems : (fun item : α => check body item) = fun item => check other item :=
        funext fun item => ih hbody item
      simp only [check, hitems]

variable {c d : Condition} {s t : PropertyTree}

/-- Equal conditions run alike on equal trees. -/
theorem run_eq_of_beq (hcd : (c == d) = true) (hst : (s == t) = true)
    (policy : ArrayErrorPolicy) : run policy c s = run policy d t :=
  calc
    run policy c s = run policy d s := run_congr policy hcd s
    _ = run policy d t :=
      run_eq_of_alike PropertyTree.alike_same
        (fun _ _ hvw => Comparison.compare_congr_left hvw) policy d hst

/-- Equal conditions pass a check of equal trees alike. -/
theorem check_eq_of_beq (hcd : (c == d) = true) (hst : (s == t) = true) :
    check c s = check d t :=
  calc
    check c s = check d s := check_congr hcd s
    _ = check d t :=
      check_eq_of_alike PropertyTree.alike_same
        (fun _ _ hvw name op literal =>
          congrArg (Except.map fun _ => ()) (Comparison.compare_congr_left hvw name op literal))
        d hst

end Condition

/-- **Equality is an equivalence, and evaluating and checking respect it**: equal conditions
have the same verdict or the same error on equal trees, whatever the policy, and a check of
them finds the same.  A tree shows its bindings and not in which order they were made. -/
theorem equality_respected :
    (Equivalence fun c d : Condition => (c == d) = true) ∧
      (Equivalence fun s t : PropertyTree => (s == t) = true) ∧
      (∀ (c d : Condition) (s t : PropertyTree), (c == d) = true → (s == t) = true →
        (∀ config, c.evaluate s config = d.evaluate t config) ∧ c.check s = d.check t) ∧
      (∀ s t : PropertyTree, s.Ordered → t.Ordered → ((s == t) = true ↔
        ∀ name, Option.Rel (fun node other => PropertyTree.sameNode node other = true)
          (s.node? name) (t.node? name))) ∧
      ∀ (tree : PropertyTree) (m n : String) (x y : Node), m ≠ n →
        ((tree.insert m x).insert n y == (tree.insert n y).insert m x) = true := by
  refine ⟨⟨fun _ => BEq.rfl, BEq.symm, BEq.trans⟩, ⟨fun _ => BEq.rfl, BEq.symm, BEq.trans⟩,
    ?_, fun s t => PropertyTree.same_iff_node?, ?_⟩
  · intro c d s t hcd hst
    have hevaluate : ∀ config, c.evaluate s config = d.evaluate t config := fun config =>
      congrArg Run.verdict (Condition.run_eq_of_beq hcd hst config.arrayErrors)
    exact ⟨hevaluate, Condition.check_eq_of_beq hcd hst⟩
  · intro tree m n x y hmn
    rw [PropertyTree.insert_comm hmn]
    exact BEq.rfl

/-- The version `1.0`. -/
def shortVersion : Version := ⟨["1", "0"], by decide +kernel, by decide +kernel⟩

/-- The same version, as `1.0.0`. -/
def longVersion : Version := ⟨["1", "0", "0"], by decide +kernel, by decide +kernel⟩

/-- The same version, as `01.0`. -/
def paddedVersion : Version := ⟨["01", "0"], by decide +kernel, by decide +kernel⟩

private theorem shortVersion_beq_long : (shortVersion == longVersion) = true := by
  rw [Version.beq_iff, Version.compare, shortVersion, longVersion]
  simp only [Version.compareParts]
  decide +kernel

theorem paddedVersion_beq_short : (paddedVersion == shortVersion) = true := by
  rw [Version.beq_iff, Version.compare, paddedVersion, shortVersion]
  simp only [Version.compareParts]
  decide +kernel

theorem equality_respected_versions :
    let tree := PropertyTree.empty
    let s := (tree.withValue "kernel" (.version paddedVersion)).withValue "os" (.text "linux")
    let t := (tree.withValue "os" (.text "linux")).withValue "kernel" (.version shortVersion)
    let c := Condition.compare "kernel" .ge (.version shortVersion)
    let d := Condition.compare "kernel" .ge (.version longVersion)
    (c == d) = true ∧ (s == t) = true ∧ (∀ config, c.evaluate s config = d.evaluate t config) ∧
      c.check s = d.check t ∧ s.Ordered ∧ t.Ordered ∧
      (∀ name, Option.Rel (fun node other => PropertyTree.sameNode node other = true)
        (s.node? name) (t.node? name)) ∧
      "kernel" ≠ "os" ∧
      (s == (tree.withValue "os" (.text "linux")).withValue "kernel"
        (.version paddedVersion)) = true := by
  intro tree s t c d
  have hcd : (c == d) = true := Condition.same_compare.mpr ⟨_, rfl, shortVersion_beq_long⟩
  have hkernel : PropertyTree.sameNode (.simple (.version paddedVersion))
      (.simple (.version shortVersion)) = true := paddedVersion_beq_short
  have hst : (s == t) = true :=
    PropertyTree.same_bind.mpr ⟨_, _, rfl, hkernel, PropertyTree.same_refl _⟩
  have hnames : "kernel" ≠ "os" := by decide
  have hs : s.Ordered := (PropertyTree.ordered_empty.insert _ _).insert _ _
  have ht : t.Ordered := (PropertyTree.ordered_empty.insert _ _).insert _ _
  obtain ⟨-, -, hrespected, hbindings, hinserted⟩ := equality_respected
  obtain ⟨hevaluate, hcheck⟩ := hrespected c d s t hcd hst
  exact ⟨hcd, hst, hevaluate, hcheck, hs, ht, (hbindings s t hs ht).mp hst, hnames,
    hinserted tree "kernel" "os" _ _ hnames⟩

end Criteria
