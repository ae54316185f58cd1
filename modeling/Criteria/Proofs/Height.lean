/-
How tall a condition is that was read.

Levels of nesting are counted in a source and not in the condition that it says: a join needs no
parentheses.  But a join without parentheses holds only what binds tighter.  So on a way down
from an enclosure to the next there are three nodes at most: a disjunction, a conjunction in it,
and the body that is asked of a property.  The same is true in front of the first enclosure and
behind the last, and the limit on nesting is a limit on how tall conditions are.

Printing and evaluating call themselves on the children of a condition and on nothing else.  Of
such a function so many calls inside one another are enough as the condition is tall: what the
calls further in would give makes no difference.
-/
import Criteria.Proofs.Events
import Criteria.Proofs.RoundTrip
import Mathlib.Logic.Function.Iterate

namespace Criteria

open Criteria.Text Criteria.Source

namespace Condition

/-! ### Ways down -/

/-- What a condition joins, or asks of what a property holds, is a child of it. -/
inductive Child (d : Condition) : Condition → Prop where
  | conjunct {parts : List Condition} (h : d ∈ parts) : Child d (.conjunction parts)
  | disjunct {parts : List Condition} (h : d ∈ parts) : Child d (.disjunction parts)
  | body (name : String) : Child d (.within name d)

/-- The nodes on a way down from a condition, which is the first of them. -/
inductive Path : Condition → List Condition → Prop where
  | stop (c : Condition) : Path c [c]
  | step {c d : Condition} {below : List Condition} (hd : Child d c) (h : Path d below) :
      Path c (c :: below)

mutual

/-- The most nodes on a way down. -/
def height : Condition → Nat
  | .alwaysTrue => 1
  | .compare _ _ _ => 1
  | .conjunction parts => heightAll parts + 1
  | .disjunction parts => heightAll parts + 1
  | .within _ body => height body + 1

def heightAll : List Condition → Nat
  | [] => 0
  | c :: cs => max (height c) (heightAll cs)

end

theorem height_le_heightAll {c : Condition} {cs : List Condition} (h : c ∈ cs) :
    c.height ≤ heightAll cs := by
  induction cs with
  | nil => exact absurd h List.not_mem_nil
  | cons d cs ih =>
      rw [heightAll]
      rcases List.mem_cons.mp h with rfl | h
      · exact Nat.le_max_left _ _
      · exact Nat.le_trans (ih h) (Nat.le_max_right _ _)

private theorem exists_height_eq_heightAll {cs : List Condition} (h : 0 < heightAll cs) :
    ∃ c ∈ cs, c.height = heightAll cs := by
  induction cs with
  | nil => exact absurd h (Nat.lt_irrefl 0)
  | cons c cs ih =>
      by_cases hle : heightAll cs ≤ c.height
      · exact ⟨c, List.mem_cons_self, by rw [heightAll, Nat.max_eq_left hle]⟩
      · obtain ⟨d, hd, hheight⟩ := ih (by omega)
        refine ⟨d, List.mem_cons_of_mem c hd, ?_⟩
        rw [hheight, heightAll, Nat.max_eq_right (by omega)]

theorem height_pos (c : Condition) : 0 < c.height := by
  cases c <;> simp [height]

theorem Child.height_lt {c d : Condition} (h : Child d c) : d.height < c.height := by
  cases h with
  | conjunct h => exact Nat.lt_succ_of_le (height_le_heightAll h)
  | disjunct h => exact Nat.lt_succ_of_le (height_le_heightAll h)
  | body name => exact Nat.lt_succ_self _

theorem Path.length_le {c : Condition} {nodes : List Condition} (h : Path c nodes) :
    nodes.length ≤ c.height := by
  induction h with
  | stop c => exact c.height_pos
  | step hd _ ih => exact Nat.succ_le_of_lt (Nat.lt_of_le_of_lt ih hd.height_lt)

private theorem exists_child_height {c : Condition} (h : 1 < c.height) :
    ∃ d, Child d c ∧ c.height = d.height + 1 := by
  cases c with
  | alwaysTrue => exact absurd h (Nat.lt_irrefl 1)
  | compare name op v => exact absurd h (Nat.lt_irrefl 1)
  | conjunction parts =>
      obtain ⟨d, hd, hheight⟩ := exists_height_eq_heightAll (Nat.lt_of_succ_lt_succ h)
      exact ⟨d, .conjunct hd, by rw [height, hheight]⟩
  | disjunction parts =>
      obtain ⟨d, hd, hheight⟩ := exists_height_eq_heightAll (Nat.lt_of_succ_lt_succ h)
      exact ⟨d, .disjunct hd, by rw [height, hheight]⟩
  | within name body => exact ⟨body, .body name, rfl⟩

theorem exists_path_height (c : Condition) : ∃ nodes, Path c nodes ∧ nodes.length = c.height := by
  induction hn : c.height generalizing c with
  | zero => exact absurd hn (Nat.ne_of_gt c.height_pos)
  | succ n ih =>
      by_cases hchild : 1 < c.height
      · obtain ⟨d, hd, hheight⟩ := exists_child_height hchild
        obtain ⟨nodes, hpath, hlength⟩ := ih d (by omega)
        exact ⟨c :: nodes, .step hd hpath, congrArg Nat.succ hlength⟩
      · refine ⟨[c], .stop c, ?_⟩
        show 1 = n + 1
        omega

/-- The height of a condition is how long ways down from it get. -/
theorem height_le_iff {c : Condition} {n : Nat} :
    c.height ≤ n ↔ ∀ nodes, Path c nodes → nodes.length ≤ n := by
  constructor
  · intro h nodes hpath
    exact Nat.le_trans hpath.length_le h
  · intro h
    obtain ⟨nodes, hpath, hlength⟩ := exists_path_height c
    exact hlength ▸ h nodes hpath

end Condition

/-! ### What can be said in so many levels -/

namespace Source

open Condition

theorem height_join {node : List Condition → Condition} {cs : List Condition} {n : Nat}
    (hnode : ∀ parts, (node parts).height = heightAll parts + 1) (h : heightAll cs ≤ n) :
    (join node cs).height ≤ n + 1 := by
  match cs, h with
  | [], h => exact Nat.le_trans (Nat.le_of_eq (hnode [])) (Nat.succ_le_succ h)
  | [c], h => exact Nat.le_succ_of_le (Nat.le_trans (height_le_heightAll List.mem_cons_self) h)
  | c :: d :: cs, h => exact Nat.le_trans (Nat.le_of_eq (hnode _)) (Nat.succ_le_succ h)

theorem height_join_conjunction {cs : List Condition} {n : Nat} (h : heightAll cs ≤ n) :
    (join .conjunction cs).height ≤ n + 1 :=
  height_join (fun _ => rfl) h

theorem height_join_disjunction {cs : List Condition} {n : Nat} (h : heightAll cs ≤ n) :
    (join .disjunction cs).height ≤ n + 1 :=
  height_join (fun _ => rfl) h

mutual

/-- What an operand opens adds three nodes to what it holds, and the operand itself is one. -/
theorem Primary.height_le {t : List Char} {c : Condition} :
    Primary t c → ∃ d, Balanced t d ∧ c.height ≤ 3 * d + 1
  | .alwaysTrue => ⟨0, balanced_of_quiet (List.all_eq_true.mp rfl), Nat.le_refl 1⟩
  | .compare op hn hw hw' ht =>
      ⟨0, balanced_compare op hn.isName hw hw' (isLiteral_iff.mpr ht), Nat.le_refl 1⟩
  | .within hn hw hw' ht hw'' => by
      obtain ⟨d, hbal, hheight⟩ := ht.height_le
      have hbody := height_join_disjunction hheight
      refine ⟨d + 1, balanced_within hn hw hw' hbal hw'', ?_⟩
      rw [height]
      omega
  | .group hw ht hw' => by
      obtain ⟨d, hbal, hheight⟩ := ht.height_le
      have hbody := height_join_disjunction hheight
      exact ⟨d + 1, hbal.enclose_blank hw hw' .parentheses, by omega⟩

theorem Conjuncts.height_le {t : List Char} {cs : List Condition} :
    Conjuncts t cs → ∃ d, Balanced t d ∧ heightAll cs ≤ 3 * d + 1
  | .one ht => by
      obtain ⟨d, hbal, hheight⟩ := ht.height_le
      exact ⟨d, hbal, Nat.max_le.mpr ⟨hheight, Nat.zero_le _⟩⟩
  | .more ht hw hw' hu => by
      obtain ⟨d, hbal, hheight⟩ := ht.height_le
      obtain ⟨e, hbal', hheight'⟩ := hu.height_le
      refine ⟨max d e, hbal.joined hbal' hw hw' (by decide), ?_⟩
      rw [heightAll]
      omega

theorem Disjuncts.height_le {t : List Char} {cs : List Condition} :
    Disjuncts t cs → ∃ d, Balanced t d ∧ heightAll cs ≤ 3 * d + 2
  | .one ht => by
      obtain ⟨d, hbal, hheight⟩ := ht.height_le
      exact ⟨d, hbal, Nat.max_le.mpr ⟨height_join_conjunction hheight, Nat.zero_le _⟩⟩
  | .more ht hw hw' hu => by
      obtain ⟨d, hbal, hheight⟩ := ht.height_le
      obtain ⟨e, hbal', hheight'⟩ := hu.height_le
      have hjoin := height_join_conjunction hheight
      refine ⟨max d e, hbal.joined hbal' hw hw' (by decide), ?_⟩
      rw [heightAll]
      omega

end

/-- Three nodes for each level of nesting, and three for what is in no enclosure. -/
theorem Derives.height_le {s : List Char} {c : Condition} (h : Derives s c) :
    c.height ≤ 3 * (nesting s + 1) := by
  obtain @⟨w, t, w', cs, hw, ht, hw'⟩ := h
  obtain ⟨d, hbal, hheight⟩ := ht.height_le
  have hall : Balanced (w ++ t ++ w') d :=
    ((balanced_of_blank hw).zero_append hbal).append_zero (balanced_of_blank hw')
  have hjoin := height_join_disjunction hheight
  rw [hall.nesting_eq]
  omega

end Source

namespace Condition

/-- A condition that was read is no taller than the limit on nesting lets it be. -/
theorem height_le_of_parse {source : String} {c : Condition} (h : parse source = .ok c) :
    c.height ≤ 3 * (maxNesting + 1) := by
  rcases whole_eq_ok.mp (parse_eq_ok.mp h) with ⟨-, rfl⟩ | ⟨hderives, hnest⟩
  · exact Nat.le_add_left 1 _
  · have := hderives.height_le
    omega

/-! ### How tall they get -/

/-- A condition, or both it and another: two joins, one in the other. -/
def stacked (c d : Condition) : Condition := .disjunction [c, .conjunction [c, d]]

/-- How that is said without parentheses. -/
def stackedChars (t u : List Char) : List Char := t ++ '|' :: '|' :: (t ++ '&' :: '&' :: u)

/-- Stacks on a condition, each but the first with the one before it in a body. -/
def tower (c : Condition) : Nat → Condition
  | 0 => stacked c c
  | n + 1 => stacked c (.within "x" (tower c n))

def towerChars (t : List Char) : Nat → List Char
  | 0 => stackedChars t t
  | n + 1 => stackedChars t ('x' :: '{' :: towerChars t n ++ ['}'])

private theorem says_stacked {t u : List Char} {c d : Condition} (ht : Primary t c)
    (hu : Primary u d) :
    Says (stackedChars t u) (stacked c d) := by
  have hboth := Conjuncts.more ht blank_nil blank_nil (.one hu)
  have hall := Disjuncts.more (.one ht) blank_nil blank_nil (.one hboth)
  exact says_of_disjuncts hall (Nat.le_refl 2)

private theorem balanced_stacked {t u : List Char} {d : Nat} (ht : Balanced t 0)
    (hu : Balanced u d) :
    Balanced (stackedChars t u) d := by
  have hand : isQuiet '&' = true := by decide
  have hor : isQuiet '|' = true := by decide
  have hboth := ht.joined hu blank_nil blank_nil hand
  have hall := ht.joined hboth blank_nil blank_nil hor
  rwa [Nat.zero_max, Nat.zero_max] at hall

private theorem says_tower {t : List Char} {c : Condition} (h : Primary t c) (n : Nat) :
    Says (towerChars t n) (tower c n) := by
  induction n with
  | zero => exact says_stacked h h
  | succ n ih =>
      obtain ⟨cs, ht, hjoin⟩ := ih
      have hbody := Primary.within (n := ['x']) (by decide) blank_nil blank_nil ht blank_nil
      rw [hjoin, List.append_nil] at hbody
      exact says_stacked h hbody

private theorem balanced_tower {t : List Char} (h : Balanced t 0) (n : Nat) :
    Balanced (towerChars t n) n := by
  induction n with
  | zero => exact balanced_stacked h h
  | succ n ih =>
      have hbody := balanced_within (n := ['x']) (by decide) blank_nil blank_nil ih blank_nil
      rw [List.append_nil] at hbody
      exact balanced_stacked h hbody

private theorem height_stacked (c d : Condition) :
    (stacked c d).height = max c.height d.height + 2 := by
  simp only [stacked, height, heightAll]
  omega

/-- A stack is two nodes more, and its body the third. -/
theorem height_tower (c : Condition) (n : Nat) : (tower c n).height = 3 * n + 2 + c.height := by
  induction n with
  | zero => rw [tower, height_stacked, Nat.max_self, Nat.add_comm]
  | succ n ih =>
      rw [tower, height_stacked, height, ih]
      omega

/-- A tower with as many bodies as there may be is read. -/
theorem parse_towerChars {t : List Char} {c : Condition} (h : Primary t c) (ht : Balanced t 0)
    {n : Nat} (hn : n ≤ maxNesting) : parse (String.ofList (towerChars t n)) = .ok (tower c n) :=
  parse_of_says (says_tower h n) (balanced_tower ht n) hn

/-! ### Calls inside one another -/

/-- A function that calls itself on the children of a condition alone needs so many calls inside
one another as the condition is tall.  A call is `step`, and what it is given to call is what the
calls inside it come to. -/
theorem iterate_eq_of_height {β : Type} {step : (Condition → β) → Condition → β}
    {f : Condition → β}
    (hstep : ∀ call c, (∀ d, Child d c → call d = f d) → step call c = f c)
    (beyond : Condition → β) {n : Nat} {c : Condition} (h : c.height ≤ n) :
    step^[n] beyond c = f c := by
  induction n generalizing c with
  | zero => exact absurd c.height_pos (Nat.not_lt.mpr h)
  | succ n ih =>
      rw [Function.iterate_succ_apply']
      apply hstep
      intro d hd
      have hlt := hd.height_lt
      exact ih (by omega)

/-- One call of printing. -/
def charsStep (print : Condition → List Char) : Condition → List Char
  | .alwaysTrue => "true".toList
  | .compare name op value =>
    name.toList ++ ' ' :: op.symbol.toList ++ ' ' :: value.chars
  | .conjunction parts => conjunctionChars (parts.map print)
  | .disjunction parts => disjunctionChars (parts.map print)
  | .within name body => name.toList ++ [' ', '{', ' '] ++ print body ++ [' ', '}']

private theorem charsStep_eq {print : Condition → List Char} {c : Condition}
    (h : ∀ d, Child d c → print d = d.chars) : charsStep print c = c.chars := by
  cases c with
  | alwaysTrue => rfl
  | compare name op v => rfl
  | conjunction parts =>
      have hparts : parts.map print = parts.map chars :=
        List.map_congr_left fun d hd => h d (.conjunct hd)
      rw [charsStep, chars, charsAll_eq_map, hparts]
  | disjunction parts =>
      have hparts : parts.map print = parts.map chars :=
        List.map_congr_left fun d hd => h d (.disjunct hd)
      rw [charsStep, chars, charsAll_eq_map, hparts]
  | within name body => rw [charsStep, chars, h body (.body name)]

section

variable {α : Type} [Container α]

/-- One call of evaluating. -/
def runStep (policy : ArrayErrorPolicy) (put : Condition → α → Run) : Condition → α → Run
  | .alwaysTrue, _ => .quiet (.ok true)
  | .compare name op literal, scope => .quiet (compareIn scope name op literal)
  | .conjunction parts, scope => Run.joined true (parts.map fun c => put c scope)
  | .disjunction parts, scope => Run.joined false (parts.map fun c => put c scope)
  | .within name body, scope =>
    match resolve scope name with
    | .error e => .quiet (.error e)
    | .ok (.simple _) => .quiet (.error (.invalidProperty name .notQualifiable))
    | .ok (.container inner) => put body inner
    | .ok (.array items) => scanItems policy name (fun item => put body item) 0 none items

private theorem runStep_eq {policy : ArrayErrorPolicy} {put : Condition → α → Run} {c : Condition}
    (h : ∀ d, Child d c → put d = run policy d) : runStep policy put c = run policy c := by
  funext scope
  cases c with
  | alwaysTrue => rfl
  | compare name op v => rfl
  | conjunction parts =>
      have hparts : (parts.map fun c => put c scope) = parts.map fun c => run policy c scope :=
        List.map_congr_left fun d hd => congrFun (h d (.conjunct hd)) scope
      rw [runStep, run, runAll_eq_joined, hparts]
  | disjunction parts =>
      have hparts : (parts.map fun c => put c scope) = parts.map fun c => run policy c scope :=
        List.map_congr_left fun d hd => congrFun (h d (.disjunct hd)) scope
      rw [runStep, run, runAny_eq_joined, hparts]
  | within name body =>
      have hbody : put body = run policy body := h body (.body name)
      cases hname : resolve scope name with
      | error e => simp only [runStep, run, hname]
      | ok p => cases p <;> simp only [runStep, run, hname, hbody]

end

/-- **A condition that was read is well formed and not tall.**  Names are segments with dots
between them, no value is a list, every slash of a pattern and its end have an even number of
backslashes before them, and quantities are read back from their literals.  No way down has more
nodes than three for each level of nesting and three more.  So printing and evaluating need no
more calls inside one another than that, however long the source is: calls further in may give
anything, and the result is the same. -/
theorem parsed_shallow {source : String} {c : Condition} (h : parse source = .ok c) :
    (∀ name op v, Part (.compare name op v) c →
        isName name.toList = true ∧ (∀ items, v ≠ .list items) ∧
          (∀ p, v = .pattern p → Pattern.EvenlyEscaped p.source.toList) ∧
          ∀ q, v = .quantity q → Quantity.parse (toString q) = .ok q ∧
            literal (toString q).toList = .ok (.quantity q, [])) ∧
      (∀ name body, Part (.within name body) c → isName name.toList = true) ∧
      (∀ nodes, Path c nodes → nodes.length ≤ 3 * (maxNesting + 1)) ∧
      (charsStep chars = chars ∧
        ∀ beyond, charsStep^[3 * (maxNesting + 1)] beyond c = c.chars) ∧
      ∀ {α : Type} [Container α] (policy : ArrayErrorPolicy),
        (runStep policy (run policy) : Condition → α → Run) = run policy ∧
          ∀ beyond : Condition → α → Run,
            (runStep policy)^[3 * (maxNesting + 1)] beyond c = run policy c := by
  have hwell := every_wellFormed_of_parse h
  have hheight := height_le_of_parse h
  refine ⟨?_, ?_, height_le_iff.mp hheight, ?_, ?_⟩
  · intro name op v hpart
    obtain ⟨hname, hliteral⟩ := hwell _ hpart
    refine ⟨hname, ?_, ?_, ?_⟩
    · rintro items rfl
      exact hliteral
    · rintro p rfl
      exact hliteral
    · intro q _
      have hwritable : (Value.quantity q).Writable := trivial
      refine ⟨Quantity.parse_chars q, ?_⟩
      rw [show (toString q).toList = q.chars from String.toList_ofList]
      exact isLiteral_iff.mp hwritable.isLiteral
  · intro name body hpart
    exact hwell _ hpart
  · refine ⟨funext fun _ => charsStep_eq fun _ _ => rfl, ?_⟩
    intro beyond
    exact iterate_eq_of_height (fun _ _ => charsStep_eq) beyond hheight
  · intro α _ policy
    refine ⟨funext fun _ => runStep_eq fun _ _ => rfl, ?_⟩
    intro beyond
    exact iterate_eq_of_height (fun _ _ => runStep_eq) beyond hheight

/-- One comparison with a pattern. -/
def leaf : Condition := (property "os.name").like escapedBackslash

private theorem primary_leaf : Primary leaf.chars leaf := by
  have hname : isName "os.name".toList = true := by decide
  have hwritable : (Value.pattern escapedBackslash).Writable :=
    Pattern.evenlyEscaped_iff.mpr (by decide)
  have hlong := longestName_iff.mpr ⟨hname, nameEnds_space (CompareOp.like.symbol.toList ++
    ([' '] ++ (Value.pattern escapedBackslash).chars))⟩
  exact Primary.compare .like hlong blank_space blank_space (isLiteral_iff.mp hwritable.isLiteral)

/-- The tower on it in all the bodies there may be: some way down has every node that a way may
have, and its text and its verdicts need no call beyond that. -/
theorem parsed_shallow_tower :
    let c := tower leaf 64
    parse (String.ofList (towerChars leaf.chars 64)) = .ok c ∧
      Pattern.EvenlyEscaped escapedBackslash.source.toList ∧
      isName "x".toList = true ∧
      (∃ nodes, Path c nodes ∧ nodes.length = 195) ∧
      (∀ nodes, Path c nodes → nodes.length ≤ 195) ∧
      (∀ beyond, charsStep^[195] beyond c = c.chars) ∧
      ∀ (policy : ArrayErrorPolicy) (beyond : Condition → PropertyTree → Run),
        (runStep policy)^[195] beyond c = run policy c := by
  intro c
  have hbal : Balanced leaf.chars 0 := balanced_chars
    (every_hasText_like (by decide) (Pattern.evenlyEscaped_iff.mpr (by decide)))
  have hread : parse (String.ofList (towerChars leaf.chars 64)) = .ok c :=
    parse_towerChars primary_leaf hbal (Nat.le_refl 64)
  have hpart : Part leaf c := .disjunct List.mem_cons_self (.self leaf)
  have hbody : Part (.within "x" (tower leaf 63)) c :=
    .disjunct (List.mem_cons_of_mem _ List.mem_cons_self)
      (.conjunct (List.mem_cons_of_mem _ List.mem_cons_self) (.self _))
  obtain ⟨hcompare, hwithin, hpath, hprint, hrun⟩ := parsed_shallow hread
  obtain ⟨nodes, hnodes, hlength⟩ := exists_path_height c
  rw [height_tower] at hlength
  exact ⟨hread, (hcompare _ _ _ hpart).2.2.1 _ rfl, hwithin _ _ hbody, ⟨nodes, hnodes, hlength⟩,
    hpath, hprint.2, fun policy => (hrun policy).2⟩

end Condition

end Criteria
