/-
What encloses a point of a source.

A scan goes over a source character by character and keeps the parentheses and braces
that are open, the innermost first.  What stands inside a text or a pattern literal
opens and closes nothing.  The scan knows no grammar: it is how nesting is measured
for any text at all, and on a text of the grammar it leaves everything as it found it.
-/
import Criteria.Source.Failure

namespace Criteria.Source

/-! ### The scan -/

/-- Where a scan stands: between literals, or inside one that a sign closes, maybe just
after a backslash. -/
inductive Place where
  | between
  | inside (closer : Char) (escaped : Bool)
deriving DecidableEq, Repr

structure Scan where
  place : Place
  /-- what is open, the innermost first -/
  opened : List Enclosure
deriving DecidableEq, Repr

namespace Scan

/-- What one more character does between literals. -/
def stepBetween (opened : List Enclosure) (c : Char) : Scan :=
  if c = '"' ∨ c = '/' then ⟨.inside c false, opened⟩
  else if c = '(' then ⟨.between, .parentheses :: opened⟩
  else if c = '{' then ⟨.between, .braces :: opened⟩
  else if c = ')' ∨ c = '}' then ⟨.between, opened.tail⟩
  else ⟨.between, opened⟩

/-- What one more character does. -/
def step : Scan → Char → Scan
  | ⟨.between, opened⟩, c => stepBetween opened c
  | ⟨.inside closer true, opened⟩, _ => ⟨.inside closer false, opened⟩
  | ⟨.inside closer false, opened⟩, c =>
    if c = '\\' then ⟨.inside closer true, opened⟩
    else if c = closer then ⟨.between, opened⟩
    else ⟨.inside closer false, opened⟩

def run (scan : Scan) (s : List Char) : Scan := s.foldl step scan

/-- The most that is open at once, from here to the end of a text. -/
def deepest : Scan → List Char → Nat
  | scan, [] => scan.opened.length
  | scan, c :: rest => max scan.opened.length ((scan.step c).deepest rest)

/-- Nothing is open yet. -/
def start : Scan := ⟨.between, []⟩

@[simp] theorem run_nil (scan : Scan) : scan.run [] = scan := rfl

@[simp] theorem run_cons (scan : Scan) (c : Char) (s : List Char) :
    scan.run (c :: s) = (scan.step c).run s := rfl

theorem run_append (scan : Scan) (s t : List Char) :
    scan.run (s ++ t) = (scan.run s).run t := List.foldl_append

@[simp] theorem deepest_nil (scan : Scan) : scan.deepest [] = scan.opened.length := rfl

@[simp] theorem deepest_cons (scan : Scan) (c : Char) (s : List Char) :
    scan.deepest (c :: s) = max scan.opened.length ((scan.step c).deepest s) := rfl

theorem length_opened_le_deepest (scan : Scan) (s : List Char) :
    scan.opened.length ≤ scan.deepest s := by
  cases s with
  | nil => exact Nat.le_refl _
  | cons c s => exact Nat.le_max_left _ _

theorem deepest_append (scan : Scan) (s t : List Char) :
    scan.deepest (s ++ t) = max (scan.deepest s) ((scan.run s).deepest t) := by
  induction s generalizing scan with
  | nil =>
      have := scan.length_opened_le_deepest t
      simp only [List.nil_append, deepest_nil, run_nil]
      omega
  | cons c s ih => rw [List.cons_append, deepest_cons, ih, deepest_cons, run_cons, Nat.max_assoc]

end Scan

/-- What is open behind a text, the innermost first. -/
def enclosing (before : List Char) : List Enclosure := (Scan.start.run before).opened

/-- The most parentheses and braces that enclose one point of a text. -/
def nesting (s : List Char) : Nat := Scan.start.deepest s

private theorem Scan.deepest_le_iff {n : Nat} {s : List Char} {scan : Scan} :
    scan.deepest s ≤ n ↔
      ∀ before after, s = before ++ after → (scan.run before).opened.length ≤ n := by
  constructor
  · rintro h before after rfl
    rw [Scan.deepest_append] at h
    have := (scan.run before).length_opened_le_deepest after
    omega
  · intro h
    induction s generalizing scan with
    | nil => exact h [] [] rfl
    | cons c s ih =>
        have hhead := h [] (c :: s) rfl
        have htail := ih fun before after hs => h (c :: before) after (by rw [hs]; rfl)
        rw [Scan.deepest_cons]
        exact Nat.max_le.mpr ⟨hhead, htail⟩

/-- A text is nested at most so deep when no point of it is enclosed by more. -/
theorem nesting_le_iff {n : Nat} {s : List Char} :
    nesting s ≤ n ↔ ∀ before after, s = before ++ after → (enclosing before).length ≤ n :=
  Scan.deepest_le_iff

/-! ### Texts that close what they open -/

/-- Whatever is open around it, a text closes all that it opens and no more, and it opens
at most `d` at once. -/
structure Balanced (t : List Char) (d : Nat) : Prop where
  run : ∀ opened, (Scan.mk .between opened).run t = ⟨.between, opened⟩
  deepest : ∀ opened, (Scan.mk .between opened).deepest t = opened.length + d

theorem Balanced.nesting_eq {t : List Char} {d : Nat} (h : Balanced t d) : nesting t = d := by
  have := h.deepest []
  rwa [List.length_nil, Nat.zero_add] at this

theorem balanced_nil : Balanced [] 0 where
  run _ := rfl
  deepest _ := rfl

theorem Balanced.append {s t : List Char} {d e : Nat} (hs : Balanced s d) (ht : Balanced t e) :
    Balanced (s ++ t) (max d e) where
  run opened := by rw [Scan.run_append, hs.run, ht.run]
  deepest opened := by
    rw [Scan.deepest_append, hs.deepest, hs.run, ht.deepest]
    omega

/-- A text without depth may stand anywhere. -/
theorem Balanced.append_zero {s t : List Char} {d : Nat} (hs : Balanced s d)
    (ht : Balanced t 0) : Balanced (s ++ t) d := by
  have h := hs.append ht
  rwa [Nat.max_zero] at h

theorem Balanced.zero_append {s t : List Char} {d : Nat} (hs : Balanced s 0)
    (ht : Balanced t d) : Balanced (s ++ t) d := by
  have h := hs.append ht
  rwa [Nat.zero_max] at h

theorem Scan.step_opener (opened : List Enclosure) (e : Enclosure) :
    (Scan.mk .between opened).step e.opener = ⟨.between, e :: opened⟩ := by
  cases e <;> rfl

private theorem Scan.step_closer (opened : List Enclosure) (e : Enclosure) :
    (Scan.mk .between opened).step e.closer = ⟨.between, opened.tail⟩ := by
  cases e <;> rfl

/-- An enclosure is one deeper than what it holds. -/
theorem Balanced.enclose {t : List Char} {d : Nat} (h : Balanced t d) (e : Enclosure) :
    Balanced (e.opener :: t ++ [e.closer]) (d + 1) where
  run opened := by
    rw [List.cons_append, Scan.run_cons, Scan.step_opener, Scan.run_append, h.run,
      Scan.run_cons, Scan.step_closer]
    rfl
  deepest opened := by
    rw [List.cons_append, Scan.deepest_cons, Scan.step_opener, Scan.deepest_append, h.deepest,
      h.run, Scan.deepest_cons, Scan.step_closer]
    simp only [List.length_cons, List.tail_cons, Scan.deepest_nil]
    omega

/-! ### Texts that open nothing -/

/-- A character that is no bracket and opens no literal. -/
def isQuiet (c : Char) : Bool :=
  !(c == '"' || c == '/' || c == '(' || c == '{' || c == ')' || c == '}')

private theorem Scan.step_quiet {c : Char} (hc : isQuiet c = true) (opened : List Enclosure) :
    (Scan.mk .between opened).step c = ⟨.between, opened⟩ := by
  simp only [isQuiet, Bool.not_eq_true', Bool.or_eq_false_iff, beq_eq_false_iff_ne] at hc
  obtain ⟨⟨⟨⟨⟨h₁, h₂⟩, h₃⟩, h₄⟩, h₅⟩, h₆⟩ := hc
  show stepBetween opened c = _
  rw [stepBetween, if_neg (by simp [h₁, h₂]), if_neg h₃, if_neg h₄, if_neg (by simp [h₅, h₆])]

theorem balanced_of_quiet {s : List Char} (h : ∀ c ∈ s, isQuiet c = true) : Balanced s 0 := by
  induction s with
  | nil => exact balanced_nil
  | cons c s ih =>
      have hc := h c List.mem_cons_self
      have hs := ih fun d hd => h d (List.mem_cons_of_mem c hd)
      refine ⟨fun opened => ?_, fun opened => ?_⟩
      · rw [Scan.run_cons, Scan.step_quiet hc, hs.run]
      · rw [Scan.deepest_cons, Scan.step_quiet hc, hs.deepest]
        exact Nat.max_eq_right (Nat.le_add_right _ _)

/-- The rest of a literal that `closer` closes, up to that sign and not beyond it.  A
backslash keeps the character behind it from closing anything. -/
inductive Closing (closer : Char) : List Char → Prop where
  | close : Closing closer [closer]
  | escaped {t : List Char} (c : Char) (h : Closing closer t) : Closing closer ('\\' :: c :: t)
  | plain {t : List Char} {c : Char} (hc : c ≠ '\\') (hq : c ≠ closer)
      (h : Closing closer t) : Closing closer (c :: t)

theorem Closing.run {closer : Char} {t : List Char} (h : Closing closer t)
    (hq : closer ≠ '\\') (opened : List Enclosure) :
    (Scan.mk (.inside closer false) opened).run t = ⟨.between, opened⟩ := by
  induction h with
  | close => simp [Scan.step, hq]
  | escaped c _ ih => simpa [Scan.step] using ih
  | plain hc hn _ ih => simpa [Scan.step, hc, hn] using ih

theorem Closing.deepest {closer : Char} {t : List Char} (h : Closing closer t)
    (hq : closer ≠ '\\') (opened : List Enclosure) :
    (Scan.mk (.inside closer false) opened).deepest t = opened.length := by
  induction h with
  | close => simp [Scan.step, hq]
  | escaped c _ ih => simp [Scan.step, ih]
  | plain hc hn _ ih => simp [Scan.step, hc, hn, ih]

/-- A text or a pattern literal opens nothing, whatever it says. -/
theorem Closing.balanced {closer : Char} {t : List Char} (h : Closing closer t)
    (hq : closer = '"' ∨ closer = '/') : Balanced (closer :: t) 0 := by
  have hne : closer ≠ '\\' := by rcases hq with rfl | rfl <;> decide
  have hstep : ∀ opened, (Scan.mk .between opened).step closer = ⟨.inside closer false, opened⟩ :=
    fun opened => if_pos hq
  refine ⟨fun opened => ?_, fun opened => ?_⟩
  · rw [Scan.run_cons, hstep, h.run hne]
  · rw [Scan.deepest_cons, hstep, h.deepest hne]
    exact Nat.max_self _

end Criteria.Source
