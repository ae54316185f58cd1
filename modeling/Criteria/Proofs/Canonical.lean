/-
The canonical text says the condition.

Every join is written in parentheses, so the canonical text of a condition is a text of
the grammar in which no rule on which sign binds tighter is ever used.  What it says is the
condition with joins of fewer than two parts collapsed, which leave no trace in the text,
and with versions as they are written.  How deep it is nested can be read off the
condition: a body and a join are a level each.
-/
import Criteria.Condition.Text
import Criteria.Proofs.Evaluation
import Criteria.Proofs.Reading
import Criteria.Proofs.Value

namespace Criteria.Condition

open Criteria.Text Criteria.Source

/-! ### What can be written -/

/-- Whether a condition has a text, apart from its parts: names are names, values have
literals, and a disjunction has something to be written. -/
def HasText : Condition → Prop
  | .compare name _ value => isName name.toList = true ∧ value.Writable
  | .within name _ => isName name.toList = true
  | .disjunction parts => parts ≠ []
  | _ => True

mutual

/-- What the canonical text says. -/
def written : Condition → Condition
  | .alwaysTrue => .alwaysTrue
  | .compare name op value => .compare name op value.written
  | .conjunction parts => allOf (writtenAll parts)
  | .disjunction parts => anyOf (writtenAll parts)
  | .within name body => .within name (written body)

def writtenAll : List Condition → List Condition
  | [] => []
  | c :: cs => written c :: writtenAll cs

end

theorem writtenAll_eq_map (cs : List Condition) : writtenAll cs = cs.map written := by
  induction cs with
  | nil => rw [writtenAll, List.map_nil]
  | cons c cs ih => rw [writtenAll, ih, List.map_cons]

theorem charsAll_eq_map (cs : List Condition) : charsAll cs = cs.map chars := by
  induction cs with
  | nil => rw [charsAll, List.map_nil]
  | cons c cs ih => rw [charsAll, ih, List.map_cons]

private theorem same_allOf {cs ds : List Condition} (h : sameAll cs ds = true) :
    same (allOf cs) (allOf ds) = true := by
  match cs, ds, h with
  | [], [], _ => exact same_alwaysTrue.mpr rfl
  | [c], [d], h =>
      rw [sameAll, Bool.and_eq_true_iff] at h
      exact h.1
  | c :: c' :: cs, d :: d' :: ds, h => exact same_conjunction.mpr ⟨_, rfl, h⟩
  | [], _ :: _, h => simp [sameAll] at h
  | _ :: _, [], h => simp [sameAll] at h
  | [_], _ :: _ :: _, h => simp [sameAll] at h
  | _ :: _ :: _, [_], h => simp [sameAll] at h

private theorem same_anyOf {cs ds : List Condition} (h : sameAll cs ds = true) :
    same (anyOf cs) (anyOf ds) = true := by
  match cs, ds, h with
  | [], [], h => exact same_disjunction.mpr ⟨_, rfl, h⟩
  | [c], [d], h =>
      rw [sameAll, Bool.and_eq_true_iff] at h
      exact h.1
  | c :: c' :: cs, d :: d' :: ds, h => exact same_disjunction.mpr ⟨_, rfl, h⟩
  | [], _ :: _, h => simp [sameAll] at h
  | _ :: _, [], h => simp [sameAll] at h
  | [_], _ :: _ :: _, h => simp [sameAll] at h
  | _ :: _ :: _, [_], h => simp [sameAll] at h

/-- The text says the collapsed condition, up to how a version is spelled. -/
theorem same_written_collapse (c : Condition) : same c.written c.collapse = true := by
  induction c with
  | alwaysTrue => rw [written, collapse, same_alwaysTrue]
  | compare name op v =>
      rw [written, collapse, same_compare]
      exact ⟨v, rfl, v.written_beq⟩
  | conjunction parts ih =>
      rw [written, collapse, writtenAll_eq_map, collapseAll_eq_map]
      exact same_allOf (sameAll_map ih)
  | disjunction parts ih =>
      rw [written, collapse, writtenAll_eq_map, collapseAll_eq_map]
      exact same_anyOf (sameAll_map ih)
  | within name body ih =>
      rw [written, collapse, same_within]
      exact ⟨_, rfl, ih⟩

/-! ### The text and the grammar -/

theorem says_of_primary {t : List Char} {c : Condition} (h : Primary t c) : Says t c :=
  ⟨[c], .one (.one h), rfl⟩

theorem says_of_conjuncts {t : List Char} {cs : List Condition} (h : Conjuncts t cs)
    (htwo : 2 ≤ cs.length) : Says t (.conjunction cs) := by
  refine ⟨[join .conjunction cs], .one h, ?_⟩
  match cs, htwo with
  | _ :: _ :: _, _ => rfl

theorem says_of_disjuncts {t : List Char} {cs : List Condition} (h : Disjuncts t cs)
    (htwo : 2 ≤ cs.length) : Says t (.disjunction cs) := by
  refine ⟨cs, h, ?_⟩
  match cs, htwo with
  | _ :: _ :: _, _ => rfl

/-- Parentheses make an operand of any text. -/
theorem primary_parenthesized {t : List Char} {c : Condition} (h : Says t c) :
    Primary ('(' :: t ++ [')']) c := by
  obtain ⟨cs, ht, rfl⟩ := h
  have hgroup := Primary.group blank_nil ht blank_nil
  rwa [List.nil_append, List.append_nil] at hgroup

theorem blank_space : Blank [' '] := by
  intro c hc
  rw [List.mem_singleton.mp hc]
  decide

private theorem joinChars_singleton (sign p : List Char) : joinChars sign [p] = '(' :: p ++ [')'] :=
  List.intercalate_singleton

private theorem joinChars_cons (sign : Char) (p q : List Char) (parts : List (List Char)) :
    joinChars [sign, sign] (p :: q :: parts) =
      ('(' :: p ++ [')']) ++
        ([' '] ++ sign :: sign :: ([' '] ++ joinChars [sign, sign] (q :: parts))) := by
  simp only [joinChars, List.map_cons, List.intercalate_cons_cons, List.append_assoc,
    List.cons_append, List.nil_append]

private theorem conjuncts_joinChars {f : Condition → Condition} {cs : List Condition}
    (hne : cs ≠ []) (h : ∀ c ∈ cs, Says c.chars (f c)) :
    Conjuncts (joinChars ['&', '&'] (cs.map chars)) (cs.map f) := by
  induction cs with
  | nil => exact absurd rfl hne
  | cons c cs ih =>
      have hc := primary_parenthesized (h c List.mem_cons_self)
      cases cs with
      | nil =>
          rw [List.map_singleton, joinChars_singleton]
          exact .one hc
      | cons d cs =>
          have hmore := ih (List.cons_ne_nil d cs) fun e he => h e (List.mem_cons_of_mem c he)
          rw [List.map_cons, List.map_cons, joinChars_cons]
          exact .more hc blank_space blank_space hmore

private theorem disjuncts_joinChars {f : Condition → Condition} {cs : List Condition}
    (hne : cs ≠ []) (h : ∀ c ∈ cs, Says c.chars (f c)) :
    Disjuncts (joinChars ['|', '|'] (cs.map chars)) (cs.map f) := by
  induction cs with
  | nil => exact absurd rfl hne
  | cons c cs ih =>
      have hc : Conjuncts ('(' :: c.chars ++ [')']) [f c] :=
        .one (primary_parenthesized (h c List.mem_cons_self))
      cases cs with
      | nil =>
          rw [List.map_singleton, joinChars_singleton]
          exact .one hc
      | cons d cs =>
          have hmore := ih (List.cons_ne_nil d cs) fun e he => h e (List.mem_cons_of_mem c he)
          rw [List.map_cons, List.map_cons, joinChars_cons]
          exact .more hc blank_space blank_space hmore

theorem chars_compare (name : String) (op : CompareOp) (v : Value) :
    chars (.compare name op v) =
      name.toList ++ ([' '] ++ (op.symbol.toList ++ ([' '] ++ v.chars))) := by
  rw [chars]
  simp only [List.append_assoc, List.cons_append, List.nil_append]

theorem chars_within (name : String) (body : Condition) :
    chars (.within name body) =
      name.toList ++ ([' '] ++ ('{' :: ([' '] ++ body.chars ++ [' ']) ++ ['}'])) := by
  rw [chars]
  simp only [List.append_assoc, List.cons_append, List.nil_append]

theorem nameEnds_space (rest : List Char) : NameEnds ([' '] ++ rest) where
  segment := stops_cons.mpr (by decide)
  dot more hmore := absurd (List.cons.inj hmore).1 (by decide)

/-- The canonical text is a text of the grammar, and this is what it says. -/
theorem says_chars {c : Condition} (h : c.Every HasText) : Says c.chars c.written := by
  induction c with
  | alwaysTrue =>
      rw [chars, written]
      exact says_of_primary .alwaysTrue
  | compare name op v =>
      obtain ⟨hname, hv⟩ := h.self
      have hlit := isLiteral_iff.mp hv.isLiteral
      have hends := nameEnds_space (op.symbol.toList ++ ([' '] ++ v.chars))
      have hlong := longestName_iff.mpr ⟨hname, hends⟩
      have hprimary := Primary.compare op hlong blank_space blank_space hlit
      rw [String.ofList_toList] at hprimary
      rw [chars_compare, written]
      exact says_of_primary hprimary
  | conjunction parts ih =>
      have hparts := (every_conjunction.mp h).2
      have hsays : ∀ c ∈ parts, Says c.chars c.written := fun c hc => ih c hc (hparts c hc)
      rw [chars, written, charsAll_eq_map, writtenAll_eq_map]
      match parts, hsays with
      | [], _ => exact says_of_primary .alwaysTrue
      | [c], hsays => exact hsays c List.mem_cons_self
      | c :: d :: cs, hsays =>
          exact says_of_conjuncts (conjuncts_joinChars (List.cons_ne_nil c _) hsays) (by simp)
  | disjunction parts ih =>
      obtain ⟨hne, hparts⟩ := every_disjunction.mp h
      have hsays : ∀ c ∈ parts, Says c.chars c.written := fun c hc => ih c hc (hparts c hc)
      rw [chars, written, charsAll_eq_map, writtenAll_eq_map]
      match parts, hne, hsays with
      | [c], _, hsays => exact hsays c List.mem_cons_self
      | c :: d :: cs, _, hsays =>
          exact says_of_disjuncts (disjuncts_joinChars (List.cons_ne_nil c _) hsays) (by simp)
  | within name body ih =>
      obtain ⟨hname, hbody⟩ := every_within.mp h
      obtain ⟨cs, ht, hjoin⟩ := ih hbody
      have hprimary := Primary.within hname blank_space blank_space ht blank_space
      rw [String.ofList_toList, hjoin] at hprimary
      rw [chars_within, written]
      exact says_of_primary hprimary

/-! ### How deep the text is nested -/

/-- Parts in parentheses are a level deeper; a single part, or none, has none around it. -/
def joinDepth : List Nat → Nat
  | [] => 0
  | [only] => only
  | parts => parts.foldr max 0 + 1

mutual

/-- How many levels the canonical text of a condition has. -/
def depth : Condition → Nat
  | .alwaysTrue => 0
  | .compare _ _ _ => 0
  | .conjunction parts => joinDepth (depthAll parts)
  | .disjunction parts => joinDepth (depthAll parts)
  | .within _ body => depth body + 1

def depthAll : List Condition → List Nat
  | [] => []
  | c :: cs => depth c :: depthAll cs

end

theorem depthAll_eq_map (cs : List Condition) : depthAll cs = cs.map depth := by
  induction cs with
  | nil => rw [depthAll, List.map_nil]
  | cons c cs ih => rw [depthAll, ih, List.map_cons]

private theorem balanced_group {t : List Char} {d : Nat} (h : Balanced t d) :
    Balanced ('(' :: t ++ [')']) (d + 1) :=
  h.enclose .parentheses

private theorem balanced_joinChars {sign : Char} (hsign : isQuiet sign = true) {cs : List Condition}
    (hne : cs ≠ []) (h : ∀ c ∈ cs, Balanced c.chars c.depth) :
    Balanced (joinChars [sign, sign] (cs.map chars)) ((cs.map depth).foldr max 0 + 1) := by
  induction cs with
  | nil => exact absurd rfl hne
  | cons c cs ih =>
      have hc := balanced_group (h c List.mem_cons_self)
      cases cs with
      | nil =>
          rw [List.map_singleton, joinChars_singleton, List.map_singleton, List.foldr_cons,
            List.foldr_nil, Nat.max_zero]
          exact hc
      | cons d cs =>
          have hmore := ih (List.cons_ne_nil d cs) fun e he => h e (List.mem_cons_of_mem c he)
          have hall := hc.joined hmore blank_space blank_space hsign
          rw [Nat.add_max_add_right] at hall
          rw [List.map_cons, List.map_cons, joinChars_cons]
          exact hall

/-- The canonical text closes what it opens, and is as deep as its condition. -/
theorem balanced_chars {c : Condition} (h : c.Every HasText) : Balanced c.chars c.depth := by
  induction c with
  | alwaysTrue =>
      rw [chars, depth]
      exact balanced_of_quiet (List.all_eq_true.mp rfl)
  | compare name op v =>
      obtain ⟨hname, hv⟩ := h.self
      have hall := balanced_compare op hname blank_space blank_space hv.isLiteral
      rw [chars_compare, depth]
      exact hall
  | conjunction parts ih =>
      have hparts := (every_conjunction.mp h).2
      have hbal : ∀ c ∈ parts, Balanced c.chars c.depth := fun c hc => ih c hc (hparts c hc)
      rw [chars, depth, charsAll_eq_map, depthAll_eq_map]
      match parts, hbal with
      | [], _ => exact balanced_of_quiet (List.all_eq_true.mp rfl)
      | [c], hbal => exact hbal c List.mem_cons_self
      | c :: d :: cs, hbal => exact balanced_joinChars (by decide) (List.cons_ne_nil c _) hbal
  | disjunction parts ih =>
      obtain ⟨hne, hparts⟩ := every_disjunction.mp h
      have hbal : ∀ c ∈ parts, Balanced c.chars c.depth := fun c hc => ih c hc (hparts c hc)
      rw [chars, depth, charsAll_eq_map, depthAll_eq_map]
      match parts, hne, hbal with
      | [c], _, hbal => exact hbal c List.mem_cons_self
      | c :: d :: cs, _, hbal => exact balanced_joinChars (by decide) (List.cons_ne_nil c _) hbal
  | within name body ih =>
      obtain ⟨hname, hbody⟩ := every_within.mp h
      have hall := balanced_within hname blank_space blank_space (ih hbody) blank_space
      rw [chars_within, depth]
      exact hall

theorem nesting_chars {c : Condition} (h : c.Every HasText) : nesting c.chars = c.depth :=
  (balanced_chars h).nesting_eq

/-! ### Reading the canonical text -/

/-- The canonical text is read unless it is nested too deep, and then to what it says. -/
theorem parse_text {c d : Condition} (h : c.Every HasText) :
    parse c.text = .ok d ↔ c.depth ≤ maxNesting ∧ d = c.written := by
  have hread : ∀ hdepth : c.depth ≤ maxNesting, parse c.text = .ok c.written :=
    parse_of_says (says_chars h) (balanced_chars h)
  constructor
  · intro hd
    have hwhole := parse_eq_ok.mp hd
    rw [text, String.toList_ofList] at hwhole
    rcases whole_eq_ok.mp hwhole with ⟨hblank, -⟩ | ⟨-, hnest⟩
    · exact absurd (skipBlanks_eq_nil hblank) (says_chars h).derives.skipBlanks_ne_nil
    · rw [nesting_chars h] at hnest
      exact ⟨hnest, Except.ok.inj (hd.symm.trans (hread hnest))⟩
  · rintro ⟨hdepth, rfl⟩
    exact hread hdepth

end Criteria.Condition
