/-
Names, and how far they are read.

A name is segments with dots between them.  A reader takes the longest name that a text
opens with, and this is told by what comes after: no character that would go on with
the last segment, and no dot with another segment behind it.
-/
import Criteria.Proofs.Span
import Criteria.Source.Token

namespace Criteria.Source

open Criteria.Text

/-! ### What a name is -/

/-- A letter or an underscore, and then letters, digits and underscores. -/
def isSegment : List Char → Bool
  | [] => false
  | c :: rest => isSegmentStart c && rest.all isSegmentChar

/-- Segments with dots between them. -/
def isName (n : List Char) : Bool := (n.splitOn '.').all isSegment

/-- A name that no longer name in front of the same text goes on with. -/
structure LongestName (n rest : List Char) : Prop where
  isName : isName n = true
  longest : ∀ more, more <+: rest → Source.isName (n ++ more) = true → more = []

theorem isSegmentChar_of_isSegmentStart {c : Char} (h : isSegmentStart c = true) :
    isSegmentChar c = true := by
  simp only [isSegmentStart, isSegmentChar, Char.isAlphanum, Bool.or_eq_true] at h ⊢
  rcases h with h | h
  · exact Or.inl (Or.inl h)
  · exact Or.inr h

theorem isSegmentChar_of_mem {s : List Char} (h : isSegment s = true) {c : Char} (hc : c ∈ s) :
    isSegmentChar c = true := by
  cases s with
  | nil => simp at hc
  | cons d s =>
      obtain ⟨hd, hs⟩ := Bool.and_eq_true_iff.mp h
      rcases List.mem_cons.mp hc with rfl | hc
      · exact isSegmentChar_of_isSegmentStart hd
      · exact List.all_eq_true.mp hs c hc

private theorem dot_not_mem_segment {s : List Char} (h : isSegment s = true) : '.' ∉ s :=
  fun hc => absurd (isSegmentChar_of_mem h hc) (by decide)

theorem isName_of_isSegment {s : List Char} (h : isSegment s = true) : isName s = true := by
  rw [isName, List.splitOn_eq_singleton (dot_not_mem_segment h), List.all_cons, h]
  rfl

/-- A dot parts a name into two. -/
theorem isName_append_dot (m n : List Char) :
    isName (m ++ '.' :: n) = (isName m && isName n) := by
  rw [isName, List.splitOn_append_cons_self, List.all_append]
  rfl

theorem isName_dotted {s n : List Char} (hs : isSegment s = true) (hn : isName n = true) :
    isName (s ++ '.' :: n) = true := by
  rw [isName_append_dot, isName_of_isSegment hs, hn]
  rfl

/-- A name is one segment, or a segment, a dot and a name. -/
theorem isName_induction {P : (n : List Char) → isName n = true → Prop}
    (segment : ∀ s (hs : isSegment s = true), P s (isName_of_isSegment hs))
    (dotted : ∀ s n (hs : isSegment s = true) (hn : isName n = true), P n hn →
      P (s ++ '.' :: n) (isName_dotted hs hn))
    (n : List Char) (h : isName n = true) : P n h := by
  have hparts : ∀ segs : List (List Char), segs ≠ [] → (∀ s ∈ segs, isSegment s = true) →
      ∃ hn, P (['.'].intercalate segs) hn := by
    intro segs
    induction segs with
    | nil => intro hne _; exact absurd rfl hne
    | cons s segs ih =>
        intro _ hall
        have hs := hall s List.mem_cons_self
        cases segs with
        | nil =>
            rw [List.intercalate_singleton]
            exact ⟨isName_of_isSegment hs, segment s hs⟩
        | cons t segs =>
            obtain ⟨hn, hP⟩ := ih (List.cons_ne_nil t segs) fun u hu =>
              hall u (List.mem_cons_of_mem s hu)
            rw [List.intercalate_cons_cons, List.append_assoc, List.singleton_append]
            exact ⟨isName_dotted hs hn, dotted s _ hs hn hP⟩
  obtain ⟨hn, hP⟩ :=
    hparts (n.splitOn '.') (List.splitOn_ne_nil '.' n) (List.all_eq_true.mp h)
  simp only [List.intercalate_splitOn] at hP
  exact hP

theorem isName_cons {n : List Char} (h : isName n = true) :
    ∃ c rest, n = c :: rest ∧ isSegmentStart c = true := by
  have hseg : ∀ s, isSegment s = true → ∃ c rest, s = c :: rest ∧ isSegmentStart c = true := by
    intro s hs
    cases s with
    | nil => exact absurd hs Bool.false_ne_true
    | cons c rest => exact ⟨c, rest, rfl, (Bool.and_eq_true_iff.mp hs).1⟩
  induction n, h using isName_induction with
  | segment s hs => exact hseg s hs
  | dotted s n hs _ _ =>
      obtain ⟨c, rest, rfl, hc⟩ := hseg s hs
      exact ⟨c, rest ++ '.' :: n, rfl, hc⟩

/-- The characters of a name are those of segments, and dots. -/
theorem mem_name {n : List Char} (h : isName n = true) {c : Char} (hc : c ∈ n) :
    isSegmentChar c = true ∨ c = '.' := by
  induction n, h using isName_induction with
  | segment s hs => exact Or.inl (isSegmentChar_of_mem hs hc)
  | dotted s n hs _ ih =>
      rcases List.mem_append.mp hc with hc | hc
      · exact Or.inl (isSegmentChar_of_mem hs hc)
      · rcases List.mem_cons.mp hc with rfl | hc
        · exact Or.inr rfl
        · exact ih hc

/-- One more character of a segment makes a longer name. -/
theorem isName_append_char {n : List Char} (h : isName n = true) {c : Char}
    (hc : isSegmentChar c = true) : isName (n ++ [c]) = true := by
  induction n, h using isName_induction with
  | segment s hs =>
      apply isName_of_isSegment
      cases s with
      | nil => exact absurd hs Bool.false_ne_true
      | cons d s =>
          obtain ⟨hd, hrest⟩ := Bool.and_eq_true_iff.mp hs
          rw [List.cons_append, isSegment, hd, List.all_append, hrest, List.all_cons, hc]
          rfl
  | dotted s n hs _ ih =>
      rw [List.append_assoc, List.cons_append]
      exact isName_dotted hs ih

/-! ### What comes after a name -/

/-- What follows does not go on with a name: neither with its last segment nor with
another one. -/
structure NameEnds (rest : List Char) : Prop where
  segment : Stops isSegmentChar rest
  dot : ∀ more, rest = '.' :: more → Stops isSegmentStart more

/-- Nor does a part of it that comes first. -/
theorem NameEnds.of_append {s rest : List Char} (h : NameEnds (s ++ rest)) : NameEnds s where
  segment := h.segment.of_append
  dot more hmore := by
    subst hmore
    exact (h.dot (more ++ rest) rfl).of_append

/-- Two characters settle it, whatever comes after them. -/
theorem NameEnds.append {s : List Char} (h : NameEnds s) (hs : 2 ≤ s.length)
    (rest : List Char) : NameEnds (s ++ rest) := by
  match s, hs with
  | a :: b :: s, _ =>
      refine ⟨stops_cons.mpr (stops_cons.mp h.segment), ?_⟩
      rintro more hmore
      obtain ⟨rfl, rfl⟩ := List.cons.inj hmore
      exact stops_cons.mpr (stops_cons.mp (h.dot (b :: s) rfl))

/-- The longest name is the one after which no name goes on. -/
theorem longestName_iff {n rest : List Char} :
    LongestName n rest ↔ isName n = true ∧ NameEnds rest := by
  constructor
  · intro h
    refine ⟨h.isName, ?_, ?_⟩
    · intro c hc
      cases hseg : isSegmentChar c with
      | false => rfl
      | true =>
          have hpre : [c] <+: rest := by
            cases rest with
            | nil => simp at hc
            | cons d rest =>
                obtain rfl : d = c := Option.some.inj hc
                exact ⟨rest, rfl⟩
          exact absurd (h.longest [c] hpre (isName_append_char h.isName hseg))
            (List.cons_ne_nil c [])
    · rintro more rfl c hc
      cases hseg : isSegmentStart c with
      | false => rfl
      | true =>
          have hpre : ['.', c] <+: '.' :: more := by
            cases more with
            | nil => simp at hc
            | cons d more =>
                obtain rfl : d = c := Option.some.inj hc
                exact ⟨more, rfl⟩
          have hlong : Source.isName (n ++ ['.', c]) = true := by
            rw [isName_append_dot, h.isName,
              isName_of_isSegment (s := [c]) (by rw [isSegment, hseg]; rfl)]
            rfl
          exact absurd (h.longest _ hpre hlong) (List.cons_ne_nil '.' [c])
  · rintro ⟨hn, hends⟩
    refine ⟨hn, ?_⟩
    intro more hpre hlong
    cases more with
    | nil => rfl
    | cons c more =>
        exfalso
        obtain ⟨left, rfl⟩ := hpre
        have hc := stops_cons.mp hends.segment
        rcases mem_name hlong (c := c) (by simp) with hseg | rfl
        · rw [hc] at hseg
          exact absurd hseg Bool.false_ne_true
        · rw [isName_append_dot, hn, Bool.true_and] at hlong
          obtain ⟨d, after, rfl, hd⟩ := isName_cons hlong
          have := stops_cons.mp (hends.dot (d :: after ++ left) rfl)
          rw [this] at hd
          exact absurd hd Bool.false_ne_true

/-! ### Reading names -/

theorem segment?_append {s rest : List Char} (hs : isSegment s = true)
    (hr : Stops isSegmentChar rest) : segment? (s ++ rest) = some (s, rest) := by
  cases s with
  | nil => exact absurd hs Bool.false_ne_true
  | cons c s =>
      obtain ⟨hc, hall⟩ := Bool.and_eq_true_iff.mp hs
      have hin := List.all_eq_true.mp hall
      rw [List.cons_append, segment?, if_pos hc, takeWhile_append_of_stops hin hr,
        dropWhile_append_of_stops hin hr]

theorem segment?_eq_some {s seg rest : List Char} (h : segment? s = some (seg, rest)) :
    s = seg ++ rest ∧ isSegment seg = true ∧ Stops isSegmentChar rest := by
  cases s with
  | nil => simp [segment?] at h
  | cons c s =>
      rw [segment?] at h
      split at h
      · next hc =>
        obtain ⟨rfl, rfl⟩ := Prod.mk.inj (Option.some.inj h)
        refine ⟨?_, ?_, stops_dropWhile _ _⟩
        · rw [List.cons_append, List.takeWhile_append_dropWhile]
        · rw [isSegment, hc, List.all_takeWhile]
          rfl
      · simp at h

theorem segment?_eq_none {s : List Char} (h : Stops isSegmentStart s) : segment? s = none := by
  cases s with
  | nil => rfl
  | cons c s => rw [segment?, if_neg (by rw [stops_cons.mp h]; exact Bool.false_ne_true)]

/-- After a dot another segment is read, and what follows it. -/
theorem moreSegments_dot {s seg after : List Char} (h : segment? s = some (seg, after)) :
    moreSegments ('.' :: s) = ('.' :: seg ++ (moreSegments after).1, (moreSegments after).2) := by
  rw [moreSegments]
  split
  · next seg' after' h' =>
    obtain ⟨rfl, rfl⟩ := Prod.mk.inj (Option.some.inj (h.symm.trans h'))
    rfl
  · next h' =>
    rw [h] at h'
    exact absurd h' (Option.some_ne_none _)

private theorem moreSegments_of_nameEnds {rest : List Char} (h : NameEnds rest) :
    moreSegments rest = ([], rest) := by
  rw [moreSegments.eq_def]
  split
  · next more =>
    rw [segment?_eq_none (h.dot more rfl)]
  · rfl

private theorem moreSegments_append {n rest : List Char} (hn : isName n = true)
    (hr : NameEnds rest) :
    moreSegments ('.' :: n ++ rest) = ('.' :: n, rest) := by
  induction n, hn using isName_induction with
  | segment s hs =>
      rw [List.cons_append, moreSegments_dot (segment?_append hs hr.segment),
        moreSegments_of_nameEnds hr, List.append_nil]
  | dotted s n hs _ ih =>
      have hdot : Stops isSegmentChar ('.' :: n ++ rest) := stops_cons.mpr (by decide)
      rw [List.cons_append, List.append_assoc, moreSegments_dot (segment?_append hs hdot), ih]
      rfl

/-- A name is read as far as it goes. -/
theorem name?_append {n rest : List Char} (hn : isName n = true) (hr : NameEnds rest) :
    name? (n ++ rest) = some (String.ofList n, rest) := by
  induction n, hn using isName_induction with
  | segment s hs =>
      rw [name?]
      simp only [segment?_append hs hr.segment, moreSegments_of_nameEnds hr, List.append_nil]
  | dotted s n hs hn _ =>
      have hdot : Stops isSegmentChar ('.' :: n ++ rest) := stops_cons.mpr (by decide)
      rw [name?, List.append_assoc]
      simp only [segment?_append hs hdot, moreSegments_append hn hr]

private theorem moreSegments_eq {s more rest : List Char} (h : moreSegments s = (more, rest))
    (hs : Stops isSegmentChar s) :
    s = more ++ rest ∧ NameEnds rest ∧
      (more = [] ∨ ∃ n, more = '.' :: n ∧ isName n = true) := by
  fun_induction moreSegments s generalizing more rest with
  | case1 s seg after hseg more' left hmore ih =>
      obtain ⟨rfl, rfl⟩ := Prod.mk.inj h
      obtain ⟨rfl, hsegment, hafter⟩ := segment?_eq_some hseg
      obtain ⟨rfl, hends, hcases⟩ := ih hmore hafter
      refine ⟨by simp, hends, Or.inr ⟨seg ++ more', by simp, ?_⟩⟩
      rcases hcases with rfl | ⟨n, rfl, hn⟩
      · rw [List.append_nil]
        exact isName_of_isSegment hsegment
      · exact isName_dotted hsegment hn
  | case2 s hseg =>
      obtain ⟨rfl, rfl⟩ := Prod.mk.inj h
      refine ⟨rfl, ⟨hs, ?_⟩, Or.inl rfl⟩
      intro more hmore
      obtain rfl : s = more := (List.cons.inj hmore).2
      intro c hc
      cases s with
      | nil => simp at hc
      | cons d s =>
          obtain rfl : d = c := Option.some.inj hc
          cases hd : isSegmentStart d with
          | false => rfl
          | true => rw [segment?, if_pos hd] at hseg; simp at hseg
  | case3 s hs' =>
      obtain ⟨rfl, rfl⟩ := Prod.mk.inj h
      exact ⟨rfl, ⟨hs, fun more hmore => absurd hmore (hs' more)⟩, Or.inl rfl⟩

/-- What is read as a name is one, and nothing goes on with it. -/
theorem name?_eq_some {s rest : List Char} {name : String} (h : name? s = some (name, rest)) :
    ∃ n, name = String.ofList n ∧ s = n ++ rest ∧ isName n = true ∧ NameEnds rest := by
  rw [name?] at h
  split at h
  · simp at h
  · next first after hfirst =>
    obtain ⟨rfl, hseg, hafter⟩ := segment?_eq_some hfirst
    split at h
    next more left hmore =>
    obtain ⟨rfl, rfl⟩ := Prod.mk.inj (Option.some.inj h)
    obtain ⟨rfl, hends, hcases⟩ := moreSegments_eq hmore hafter
    refine ⟨first ++ more, rfl, by rw [List.append_assoc], ?_, hends⟩
    rcases hcases with rfl | ⟨n, rfl, hn⟩
    · rw [List.append_nil]
      exact isName_of_isSegment hseg
    · exact isName_dotted hseg hn

end Criteria.Source
