/-
Conditions that are built have no idle joins.

A condition is built from those that were built before it: compared, read from a source, put
inside a property, or joined.  Joining may extend a conjunction that is there by one part, or
make a new one, or make nothing new where there are fewer than two conditions to join.  One step
makes a condition whose joins all have two parts if those that it is made of are of this kind,
and so a run of steps makes no other, however long it is and whatever it uses again.
-/
import Criteria.Proofs.RoundTrip

namespace Criteria

namespace Condition

/-! ### Runs of steps -/

/-- One more condition can be built where these are at hand. -/
inductive BuildStep (made : List Condition) : Condition → Prop where
  | alwaysTrue : BuildStep made .alwaysTrue
  | eq (name : String) (v : Value) : BuildStep made ((property name).eq v)
  | ne (name : String) (v : Value) : BuildStep made ((property name).ne v)
  | lt (name : String) (v : Value) : BuildStep made ((property name).lt v)
  | le (name : String) (v : Value) : BuildStep made ((property name).le v)
  | gt (name : String) (v : Value) : BuildStep made ((property name).gt v)
  | ge (name : String) (v : Value) : BuildStep made ((property name).ge v)
  | like (name : String) (pattern : Pattern) : BuildStep made ((property name).like pattern)
  | contains (name item : String) : BuildStep made ((property name).contains item)
  | read {source : String} {c : Condition} (h : parse source = .ok c) : BuildStep made c
  | within (name : String) {body : Condition} (hbody : body ∈ made) :
      BuildStep made (.within name body)
  | and {c d : Condition} (hc : c ∈ made) (hd : d ∈ made) : BuildStep made (c.and d)
  | or {c d : Condition} (hc : c ∈ made) (hd : d ∈ made) : BuildStep made (c.or d)
  | allOf {parts : List Condition} (hparts : ∀ c ∈ parts, c ∈ made) :
      BuildStep made (Condition.allOf parts)

/-- All that a run of steps has made, in order.  What was made stays at hand. -/
inductive BuildRun : List Condition → Prop where
  | start : BuildRun []
  | step {made : List Condition} {c : Condition} (h : BuildRun made)
      (hc : BuildStep made c) : BuildRun (made ++ [c])

/-! ### What a step keeps -/

/-- A conjunction that is extended has one part more, a new one has two. -/
theorem every_branches_and {c d : Condition} (hc : c.Every Branches) (hd : d.Every Branches) :
    (c.and d).Every Branches := by
  cases c with
  | conjunction parts =>
      obtain ⟨htwo, hparts⟩ := every_conjunction.mp hc
      refine every_conjunction.mpr ⟨?_, ?_⟩
      · show 2 ≤ (parts ++ [d]).length
        exact Nat.le_trans htwo (by simp)
      · exact List.forall_mem_append.mpr ⟨hparts, List.forall_mem_singleton.mpr hd⟩
  | _ =>
      refine every_conjunction.mpr ⟨Nat.le_refl 2, ?_⟩
      exact List.forall_mem_cons.mpr ⟨hc, List.forall_mem_singleton.mpr hd⟩

theorem every_branches_or {c d : Condition} (hc : c.Every Branches) (hd : d.Every Branches) :
    (c.or d).Every Branches := by
  cases c with
  | disjunction parts =>
      obtain ⟨htwo, hparts⟩ := every_disjunction.mp hc
      refine every_disjunction.mpr ⟨?_, ?_⟩
      · show 2 ≤ (parts ++ [d]).length
        exact Nat.le_trans htwo (by simp)
      · exact List.forall_mem_append.mpr ⟨hparts, List.forall_mem_singleton.mpr hd⟩
  | _ =>
      refine every_disjunction.mpr ⟨Nat.le_refl 2, ?_⟩
      exact List.forall_mem_cons.mpr ⟨hc, List.forall_mem_singleton.mpr hd⟩

/-- None and one make no conjunction. -/
theorem every_branches_allOf {parts : List Condition} (h : ∀ c ∈ parts, c.Every Branches) :
    (allOf parts).Every Branches := by
  match parts, h with
  | [], _ => exact every_alwaysTrue.mpr trivial
  | [c], h => exact h c List.mem_cons_self
  | c :: d :: parts, h => exact every_conjunction.mpr ⟨Nat.le_add_left 2 parts.length, h⟩

/-- A step makes no idle join of conditions without any. -/
theorem BuildStep.every_branches {made : List Condition} {c : Condition}
    (hmade : ∀ d ∈ made, d.Every Branches) (h : BuildStep made c) : c.Every Branches := by
  cases h with
  | alwaysTrue => exact every_alwaysTrue.mpr trivial
  | read h => exact (every_wellFormed_of_parse h).imp fun _ hd => hd.branches
  | within name hbody => exact every_within.mpr ⟨trivial, hmade _ hbody⟩
  | and hc hd => exact every_branches_and (hmade _ hc) (hmade _ hd)
  | or hc hd => exact every_branches_or (hmade _ hc) (hmade _ hd)
  | allOf hparts => exact every_branches_allOf fun d hd => hmade d (hparts d hd)
  | _ => exact every_compare.mpr trivial

/-! ### What a run keeps -/

/-- **Every join inside a condition that was built has two parts at least**, whichever steps
built it. -/
theorem every_branches_of_buildRun {made : List Condition} (h : BuildRun made) :
    ∀ c ∈ made, c.Every Branches := by
  induction h with
  | start => exact fun c hc => absurd hc List.not_mem_nil
  | @step made c _ hstep ih =>
      intro d hd
      rcases List.mem_append.mp hd with hd | hd
      · exact ih d hd
      · rw [List.mem_singleton.mp hd]
        exact hstep.every_branches ih

/-- A conjunction that was read is extended by one comparison, and what comes of it is joined
to that comparison again. -/
theorem every_branches_of_buildRun_extended :
    let a := (property "a").eq (.category .task)
    let made := [pair, a, pair.and a, allOf [], allOf [pair.and a], a.or (pair.and a)]
    BuildRun made ∧ a.or (pair.and a) ∈ made ∧ (a.or (pair.and a)).Every Branches := by
  intro a made
  have hread : BuildRun [pair] := .step .start (.read (parse_bodiesChars (Nat.zero_le _)))
  have hboth : BuildRun [pair, a] := hread.step (.eq "a" (.category .task))
  have hextended : BuildRun [pair, a, pair.and a] := hboth.step (.and (by simp) (by simp))
  have hall : BuildRun [pair, a, pair.and a, allOf [], allOf [pair.and a]] :=
    (hextended.step (.allOf (by simp))).step (.allOf (by simp))
  have hmade : BuildRun made := hall.step (.or (by simp) (by simp))
  have hmem : a.or (pair.and a) ∈ made := by simp [made]
  exact ⟨hmade, hmem, every_branches_of_buildRun hmade _ hmem⟩

end Condition

end Criteria
