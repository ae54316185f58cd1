/-
What a condition does not mention has no part in it.

A condition asks the scope that it is put to for the names of its comparisons and of its bodies.
What it learns of them is what the scope gives for them: that a scope says that it has a name,
and gives nothing for it, is no different from its not having it.  A name that is mentioned
inside a body is asked of what the body is put to, and of nothing outside; and a name is asked
for as it stands, so neither what is before a dot of it nor what it is before a dot in is asked
for with it.

So two scopes that give the same for the names of a condition are the same to it, whatever else
they give.  A tree may bind and lose all other names, and a scope may be haunted by names that it
does not give.
-/
import Criteria.Proofs.PropertyTree

namespace Criteria

/-- A condition has the same verdicts or errors on two scopes, logs the same on the way to them,
and passes a check of the one as of the other. -/
structure SameOutcome {α β : Type} [Container α] [Container β] (c : Condition) (s : α)
    (t : β) : Prop where
  verdict : ∀ config, c.evaluate s config = c.evaluate t config
  events : ∀ config, (c.evaluateLogged s config).events = (c.evaluateLogged t config).events
  check : c.check s = c.check t

/-! ### What scopes give -/

/-- Properties that correspond by `R`: one value, related scopes, or arrays of as many, each
related to the one in its place. -/
inductive Property.Corresponds {α β : Type} (R : α → β → Prop) : Property α → Property β → Prop
    where
  | simple (v : Value) : Corresponds R (.simple v) (.simple v)
  | container {s : α} {t : β} (h : R s t) : Corresponds R (.container s) (.container t)
  | array {ss : List α} {ts : List β} (h : List.Forall₂ R ss ts) :
      Corresponds R (.array ss) (.array ts)

theorem Property.Corresponds.refl {α : Type} {R : α → α → Prop} (hR : ∀ s, R s s) :
    (p : Property α) → Corresponds R p p
  | .simple v => .simple v
  | .container s => .container (hR s)
  | .array _ => .array (List.forall₂_same.mpr fun s _ => hR s)

/-- A scope says that it has a name if it gives something for it.  It may say so of a name that
it gives nothing for. -/
def Shows {α : Type} [Container α] (scope : α) (name : String) : Prop :=
  (Container.property scope name).isSome = true → Container.hasProperty scope name = true

/-- A name stands for what is given for it. -/
theorem resolve_of_shows {α : Type} [Container α] {scope : α} {name : String}
    (h : Shows scope name) :
    resolve scope name =
      match Container.property scope name with
      | some p => .ok p
      | none => .error (.invalidProperty name .missing) := by
  rw [resolve]
  cases hproperty : Container.property scope name with
  | none =>
      split
      · rfl
      · rfl
  | some p =>
      have hhas : Container.hasProperty scope name = true := h (by rw [hproperty]; rfl)
      rw [if_pos hhas]

section

variable {α β : Type} [Container α] [Container β] {R : α → β → Prop} {s : α} {t : β}

/-- Scopes that give what corresponds answer alike. -/
theorem answers_of_corresponds {name : String} (hs : Shows s name) (ht : Shows t name)
    (h : Option.Rel (Property.Corresponds R) (Container.property s name)
      (Container.property t name)) :
    Answers Eq R (List.Forall₂ R) (resolve s name) (resolve t name) := by
  rw [resolve_of_shows hs, resolve_of_shows ht]
  generalize Container.property s name = p, Container.property t name = q at h ⊢
  cases h with
  | none => exact .refused _
  | some h =>
      cases h with
      | simple v => exact .simple rfl
      | container h => exact .container h
      | array h => exact .array h

theorem sameOutcome_of_answers (halike : Alike Eq R (List.Forall₂ R)) {c : Condition}
    (h : ∀ name ∈ c.mentions, Answers Eq R (List.Forall₂ R) (resolve s name) (resolve t name)) :
    SameOutcome c s t := by
  have hrun : ∀ policy, c.run policy s = c.run policy t := fun policy =>
    Condition.run_eq_of_answers halike (fun v w hvw _ _ _ => by rw [hvw]) policy c h
  refine ⟨fun config => ?_, fun config => ?_, ?_⟩
  · rw [Condition.evaluate, Condition.evaluate, hrun]
  · rw [Condition.evaluateLogged, Condition.evaluateLogged, hrun]
  · exact Condition.check_eq_of_answers halike (fun v w hvw _ _ _ => by rw [hvw]) c h

end

/-- A scope answers like itself. -/
theorem alike_eq {α : Type} [Container α] :
    Alike Eq (Eq : α → α → Prop) (List.Forall₂ Eq) := by
  rintro s _ rfl name
  exact Answers.refl Eq.refl Eq.refl (fun _ => List.forall₂_same.mpr fun _ _ => rfl) _

/-! ### Trees -/

/-- A tree has just the names that it gives. -/
theorem PropertyTree.shows (tree : PropertyTree) (name : String) : Shows tree name := by
  intro hgiven
  rwa [show Container.property tree name = (tree.node? name).map propertyOf from rfl,
    Option.isSome_map] at hgiven

/-- A tree matters to a condition by what it binds the names of the condition to. -/
theorem PropertyTree.sameOutcome_of_node? {c : Condition} {s t : PropertyTree}
    (h : ∀ name ∈ c.mentions, s.node? name = t.node? name) : SameOutcome c s t := by
  refine sameOutcome_of_answers alike_eq fun name hname => ?_
  have hresolve : resolve s name = resolve t name := by
    rw [resolve_eq, resolve_eq, h name hname]
  rw [hresolve]
  exact alike_eq t t rfl name

/-! ### Ghosts -/

def Property.map {α β : Type} (f : α → β) : Property α → Property β
  | .simple v => .simple v
  | .container inner => .container (f inner)
  | .array items => .array (items.map f)

/-- A scope whose root says of some more names that it has them.  Nothing more is given for
these, and the scopes inside are as they were. -/
inductive Haunted (α : Type) where
  | root (ghosts : List String) (scope : α)
  | inner (scope : α)

namespace Haunted

/-- The scope without its ghosts. -/
def scope {α : Type} : Haunted α → α
  | .root _ scope => scope
  | .inner scope => scope

variable {α : Type}

/-- An inner scope is the one that it was. -/
def Unchanged (haunted : Haunted α) (scope : α) : Prop := haunted = .inner scope

private theorem forall₂_unchanged (items : List α) :
    List.Forall₂ Unchanged (items.map .inner) items :=
  List.forall₂_map_left_iff.mpr (List.forall₂_same.mpr fun _ _ => rfl)

private theorem corresponds_map :
    (p : Property α) → Property.Corresponds Unchanged (p.map .inner) p
  | .simple v => .simple v
  | .container _ => .container rfl
  | .array items => .array (forall₂_unchanged items)

variable [Container α]

instance : Container (Haunted α) where
  property haunted name := (Container.property haunted.scope name).map (Property.map .inner)
  hasProperty
    | .root ghosts scope, name => ghosts.contains name || Container.hasProperty scope name
    | .inner scope, name => Container.hasProperty scope name

/-- Nothing is given but what was given before. -/
theorem property_corresponds (haunted : Haunted α) (name : String) :
    Option.Rel (Property.Corresponds Unchanged) (Container.property haunted name)
      (Container.property haunted.scope name) := by
  show Option.Rel _ ((Container.property haunted.scope name).map _) _
  cases Container.property haunted.scope name with
  | none => exact .none
  | some p => exact .some (corresponds_map p)

private theorem resolve_inner (scope : α) (name : String) :
    resolve (inner scope) name = (resolve scope name).map (Property.map .inner) := by
  have hproperty : Container.property (inner scope) name =
      (Container.property scope name).map (Property.map .inner) := rfl
  have hhas : Container.hasProperty (inner scope) name = Container.hasProperty scope name := rfl
  rw [resolve, resolve, hproperty, hhas]
  split
  · cases Container.property scope name with
    | none => rfl
    | some p => rfl
  · rfl

private theorem alike_inner :
    Alike Eq (Unchanged : Haunted α → α → Prop) (List.Forall₂ Unchanged) := by
  rintro _ scope rfl name
  rw [resolve_inner]
  match resolve scope name with
  | .error e => exact .refused e
  | .ok (.simple v) => exact .simple rfl
  | .ok (.container s) => exact .container rfl
  | .ok (.array items) => exact .array (forall₂_unchanged items)

private theorem shows_root {ghosts : List String} {scope : α} {name : String}
    (h : Shows scope name) :
    Shows (root ghosts scope) name := by
  intro hgiven
  have hscope : (Container.property scope name).isSome = true := by
    rwa [← Option.isSome_map (f := Property.map inner)]
  show (ghosts.contains name || Container.hasProperty scope name) = true
  rw [h hscope, Bool.or_true]

/-- Ghosts have no part in what a condition finds. -/
theorem sameOutcome_root {c : Condition} (ghosts : List String) {scope : α}
    (h : ∀ name ∈ c.mentions, Shows scope name) : SameOutcome c (root ghosts scope) scope :=
  sameOutcome_of_answers alike_inner fun name hname =>
    answers_of_corresponds (shows_root (h name hname)) (h name hname)
      (property_corresponds (root ghosts scope) name)

end Haunted

/-! ### What is not mentioned -/

namespace Condition

/-- **A condition reads the names that it mentions and no others.**  On two scopes that give the
same for these, up to scopes inside that answer alike for every name, it has the same outcome:
verdicts or errors under both policies, events, and what a check finds.  So it has on a tree that
binds or loses a name that it does not mention, and where ghosts are added. -/
theorem sameOutcome_of_mentions (c : Condition) :
    (∀ {α β : Type} [Container α] [Container β] {R : α → β → Prop} {s : α} {t : β},
        Alike Eq R (List.Forall₂ R) →
        (∀ name ∈ c.mentions, Shows s name ∧ Shows t name ∧
          Option.Rel (Property.Corresponds R) (Container.property s name)
            (Container.property t name)) →
        SameOutcome c s t) ∧
      (∀ (tree : PropertyTree) (name : String), name ∉ c.mentions →
        (∀ node, SameOutcome c (tree.insert name node) tree) ∧
          SameOutcome c (tree.erase name) tree) ∧
      ∀ (tree : PropertyTree) (ghosts : List String),
        SameOutcome c (Haunted.root ghosts tree) tree := by
  refine ⟨?_, ?_, ?_⟩
  · intro α β _ _ R s t halike h
    refine sameOutcome_of_answers halike fun name hname => ?_
    obtain ⟨hs, ht, hgiven⟩ := h name hname
    exact answers_of_corresponds hs ht hgiven
  · intro tree name hname
    have hother : ∀ n ∈ c.mentions, name ≠ n := by
      rintro n hn rfl
      exact hname hn
    refine ⟨fun node => ?_, ?_⟩
    · exact PropertyTree.sameOutcome_of_node? fun n hn =>
        PropertyTree.node?_insert_of_ne (hother n hn) node tree
    · exact PropertyTree.sameOutcome_of_node? fun n hn =>
        PropertyTree.node?_erase_of_ne (hother n hn) tree
  · intro tree ghosts
    exact Haunted.sameOutcome_root ghosts fun name _ => tree.shows name

/-- A condition on the name of a system and on some part. -/
def linuxOnDisk : Condition :=
  .conjunction [.compare "os.name" .eq (.text "Linux"), somePart "disk"]

/-- A system with two parts: one with a kind that is no text, and a disk. -/
def diskHost : PropertyTree :=
  (valuesTree [.category .task, .text "disk"]).withValue "os.name" (.text "Linux")

/-- What is mentioned in a body, and what a name begins with or is the beginning of, may be bound
outside, be taken away or be a ghost. -/
theorem sameOutcome_of_mentions_disk :
    let kind := diskHost.withValue "kind" (.text "tape")
    linuxOnDisk.mentions = ["os.name", "part"] ∧
      (∀ name ∈ linuxOnDisk.mentions, Shows kind name ∧ Shows diskHost name ∧
        Option.Rel (Property.Corresponds Eq) (Container.property kind name)
          (Container.property diskHost name)) ∧
      SameOutcome linuxOnDisk kind diskHost ∧
      "os" ∉ linuxOnDisk.mentions ∧
      (∀ node, SameOutcome linuxOnDisk (diskHost.insert "os" node) diskHost) ∧
      "part.kind" ∉ linuxOnDisk.mentions ∧
      SameOutcome linuxOnDisk (diskHost.erase "part.kind") diskHost ∧
      SameOutcome linuxOnDisk (Haunted.root ["os", "kind"] diskHost) diskHost ∧
      linuxOnDisk.evaluate diskHost = .ok true ∧
      (linuxOnDisk.evaluateLogged diskHost).events.length = 2 ∧
      linuxOnDisk.check diskHost = .error (.invalidValueType "kind" .category .text) := by
  intro kind
  have hgiven : ∀ name ∈ linuxOnDisk.mentions, Shows kind name ∧ Shows diskHost name ∧
      Option.Rel (Property.Corresponds Eq) (Container.property kind name)
        (Container.property diskHost name) := by
    intro name hname
    have hkind : Container.property kind name = Container.property diskHost name := by
      have hother : "kind" ≠ name := by
        rintro rfl
        exact absurd hname (by decide)
      exact congrArg (Option.map PropertyTree.propertyOf)
        (PropertyTree.node?_insert_of_ne hother _ diskHost)
    refine ⟨kind.shows name, diskHost.shows name, ?_⟩
    rw [hkind]
    cases Container.property diskHost name with
    | none => exact .none
    | some p => exact .some (Property.Corresponds.refl Eq.refl p)
  have hos : "os" ∉ linuxOnDisk.mentions := by decide
  have hpart : "part.kind" ∉ linuxOnDisk.mentions := by decide
  obtain ⟨hscopes, htrees, hghosts⟩ := sameOutcome_of_mentions linuxOnDisk
  exact ⟨rfl, hgiven, hscopes alike_eq hgiven, hos, (htrees diskHost "os" hos).1, hpart,
    (htrees diskHost "part.kind" hpart).2, hghosts diskHost ["os", "kind"], by decide +kernel,
    by decide +kernel, by decide +kernel⟩

end Condition

end Criteria
