/-
The byte sequences of a set are the UTF-8 of its members.

A character of several bytes is a number in base 64, its first digit in the first byte.  Numbers
compare by their first digits, and where these are equal by what follows; so the numbers between
two bounds fall into those with the first digit of the lower bound, those with the first digit of
the upper one, and those between, which may go on with any digits at all.  This is how the
sequences of a range are found, and the induction is on the number of digits that follow.
-/
import Criteria.Proofs.CharSet
import Criteria.Regex.Size
import Mathlib.Data.List.Forall2

namespace Criteria.Regex

open Unicode (Ranges)

/-- A sequence reads bytes, each of which is in the range of its place. -/
def Reads (s : ByteSequence) (bytes : List Nat) : Prop :=
  List.Forall₂ (fun r b => r.first ≤ b ∧ b ≤ r.last) s bytes

/-- The bytes of a number: the first with a mark added, and so many continuations. -/
def digitBytes : Nat → Nat → Nat → List Nat
  | 0, mark, n => [mark + n]
  | more + 1, mark, n =>
    (mark + n / worth (more + 1)) :: digitBytes more (continuation 0) (n % worth (more + 1))

private theorem length_digitBytes (more mark n : Nat) :
    (digitBytes more mark n).length = more + 1 := by
  induction more generalizing mark n with
  | zero => rfl
  | succ more ih => rw [digitBytes, List.length_cons, ih]

/-! ### One range -/

/-- Numbers compare by their first digit, and then by the rest. -/
private theorem le_iff_digits (unit a n : Nat) :
    a ≤ n ↔ a / unit < n / unit ∨ a / unit = n / unit ∧ a % unit ≤ n % unit := by
  have ha := Nat.div_add_mod a unit
  have hn := Nat.div_add_mod n unit
  constructor
  · intro hle
    rcases Nat.lt_or_eq_of_le (Nat.div_le_div_right (c := unit) hle) with hlt | heq
    · exact Or.inl hlt
    · rw [heq] at ha
      exact Or.inr ⟨heq, by omega⟩
  · rintro (hlt | ⟨heq, hle⟩)
    · exact Nat.le_of_lt (Nat.lt_of_div_lt_div hlt)
    · rw [heq] at ha
      omega

/-- Whatever digits follow, they are continuations. -/
private theorem reads_anyContinuation {more r : Nat} (h : r < worth (more + 1)) :
    Reads (List.replicate (more + 1) anyContinuation) (digitBytes more (continuation 0) r) := by
  induction more generalizing r with
  | zero =>
      have hdigit : r < 64 := h
      refine .cons ?_ .nil
      simp only [anyContinuation, continuation]
      omega
  | succ more ih =>
      have hdigit : r / worth (more + 1) < 64 :=
        Nat.div_lt_of_lt_mul (by rwa [Nat.mul_comm])
      refine .cons ?_ (ih (Nat.mod_lt r (worth_pos (more + 1))))
      generalize r / worth (more + 1) = digit at hdigit
      simp only [anyContinuation, continuation]
      omega

private theorem reads_under {first b : Nat} {sequences : List ByteSequence} {bytes : List Nat} :
    (∃ s ∈ sequences.map (⟨first, first⟩ :: ·), Reads s (b :: bytes)) ↔
      b = first ∧ ∃ s ∈ sequences, Reads s bytes := by
  simp only [List.mem_map, exists_exists_and_eq_and, Reads, List.forall₂_cons]
  constructor
  · rintro ⟨s, hs, hfirst, hrest⟩
    exact ⟨by omega, s, hs, hrest⟩
  · rintro ⟨rfl, s, hs, hrest⟩
    exact ⟨s, hs, ⟨Nat.le_refl b, Nat.le_refl b⟩, hrest⟩

/-- The sequences of a range read the bytes of the numbers in it, and of no others. -/
theorem reads_byteSequences (more mark n : Nat) {a b : Nat} (h : a ≤ b) :
    (∃ s ∈ byteSequences more mark a b, Reads s (digitBytes more mark n)) ↔ a ≤ n ∧ n ≤ b := by
  induction more generalizing mark n a b with
  | zero => simp [byteSequences, digitBytes, Reads]
  | succ more ih =>
      obtain ⟨unit, hunit⟩ : ∃ unit, unit = worth (more + 1) := ⟨_, rfl⟩
      have hmod : ∀ m, m % unit < unit := fun m => Nat.mod_lt m (hunit ▸ worth_pos (more + 1))
      have hunder : ∀ digit {c d}, c ≤ d →
          ((∃ s ∈ (byteSequences more (continuation 0) c d).map (⟨mark + digit, mark + digit⟩ :: ·),
              Reads s (digitBytes (more + 1) mark n)) ↔
            n / unit = digit ∧ c ≤ n % unit ∧ n % unit ≤ d) := by
        intro digit c d hcd
        rw [digitBytes, reads_under, ih _ _ hcd, ← hunit, Nat.add_left_cancel_iff]
      have hmiddle : ∀ {start stop},
          ((∃ s ∈ [⟨mark + start, mark + (stop - 1)⟩ :: List.replicate (more + 1) anyContinuation],
              Reads s (digitBytes (more + 1) mark n)) ↔
            start ≤ n / unit ∧ n / unit ≤ stop - 1) := by
        intro start stop
        have hrest := reads_anyContinuation (hunit ▸ hmod n)
        rw [digitBytes, ← hunit]
        rw [← hunit] at hrest
        constructor
        · rintro ⟨s, hs, hreads⟩
          rw [List.mem_singleton.mp hs] at hreads
          obtain ⟨⟨hstart, hstop⟩, -⟩ := List.forall₂_cons.mp hreads
          exact ⟨Nat.le_of_add_le_add_left hstart, Nat.le_of_add_le_add_left hstop⟩
        · rintro ⟨hstart, hstop⟩
          exact ⟨_, List.mem_singleton_self _, .cons
            ⟨Nat.add_le_add_left hstart mark, Nat.add_le_add_left hstop mark⟩ hrest⟩
      rw [le_iff_digits unit] at h
      rw [le_iff_digits unit a n, le_iff_digits unit n b]
      simp only [byteSequences, ← hunit]
      split
      · next hsame =>
        rw [hunder _ (by omega)]
        omega
      · next hapart =>
        have hhead := hunder (a / unit) (Nat.le_sub_one_of_lt (hmod a))
        have htail := hunder (b / unit) (Nat.zero_le (b % unit))
        have ha := hmod a
        have hb := hmod b
        have hn := hmod n
        simp only [List.mem_append, List.mem_ite_nil_left, List.mem_ite_nil_right, or_and_right,
          and_assoc, exists_or, exists_and_left, hhead, htail, hmiddle]
        clear hhead htail
        generalize n / unit = q at *
        generalize a / unit = digit at *
        generalize b / unit = digit' at *
        by_cases hfirst : a % unit = 0
        · by_cases hlast : b % unit = unit - 1
          · simp only [hfirst, hlast, if_true, not_true_eq_false, false_and, false_or, or_false]
            omega
          · simp only [hfirst, hlast, if_true, if_false, not_true_eq_false, not_false_eq_true,
              false_and, true_and, false_or]
            omega
        · by_cases hlast : b % unit = unit - 1
          · simp only [hfirst, hlast, if_true, if_false, not_true_eq_false, not_false_eq_true,
              false_and, true_and, or_false]
            omega
          · simp only [hfirst, hlast, if_false, not_false_eq_true, true_and]
            omega

private theorem length_of_mem_byteSequences {more mark a b : Nat} {s : ByteSequence}
    (h : s ∈ byteSequences more mark a b) : s.length = more + 1 := by
  induction more generalizing mark a b s with
  | zero =>
      rw [List.mem_singleton.mp h]
      rfl
  | succ more ih =>
      have hunder : ∀ {digit c d}, s ∈ (byteSequences more (continuation 0) c d).map
          (⟨mark + digit, mark + digit⟩ :: ·) → s.length = more + 2 := by
        intro digit c d hs
        obtain ⟨t, ht, rfl⟩ := List.mem_map.mp hs
        rw [List.length_cons, ih ht]
      simp only [byteSequences] at h
      split at h
      · exact hunder h
      · rcases List.mem_append.mp h with h | h
        · rcases List.mem_append.mp h with h | h
          · exact hunder (List.mem_ite_nil_left.mp h).2
          · rw [List.mem_singleton.mp (List.mem_ite_nil_right.mp h).2, List.length_cons,
              List.length_replicate]
        · exact hunder (List.mem_ite_nil_left.mp h).2

/-! ### All code points -/

/-- The bytes of a character in UTF-8, as numbers. -/
def bytesOf (c : Char) : List Nat := (String.utf8EncodeChar c).map UInt8.toNat

/-- A character has the bytes of its block. -/
theorem bytesOf_eq {c : Char} {block : Block} (hblock : block ∈ blocks)
    (hfirst : block.first ≤ c.toNat) (hlast : c.toNat ≤ block.last) :
    bytesOf c = digitBytes block.more block.mark c.toNat := by
  have hvalue : c.val.toNat = c.toNat := rfl
  rw [bytesOf, String.utf8EncodeChar.eq_1, hvalue]
  simp only [blocks, List.mem_cons, List.not_mem_nil, or_false] at hblock
  rcases hblock with rfl | rfl | rfl | rfl | rfl
  -- the bounds of a block decide which branch of the coding is taken
  all_goals
    simp only at hfirst hlast
    simp (disch := omega) only [if_pos, if_neg, List.map_cons, List.map_nil, UInt8.toNat_ofNat',
      digitBytes, worth, continuation, List.cons.injEq, and_true]
    omega

private theorem exists_block (c : Char) :
    ∃ block ∈ blocks, block.first ≤ c.toNat ∧ c.toNat ≤ block.last := by
  have hvalid : c.toNat < 0xD800 ∨ 0xDFFF < c.toNat ∧ c.toNat < 0x110000 := c.valid
  simp only [blocks, List.exists_mem_cons_iff, List.not_mem_nil, false_and, exists_false, or_false]
  omega

private theorem mark_eq_of_more_eq : ∀ block ∈ blocks, ∀ block' ∈ blocks, block.more = block'.more →
    block.mark = block'.mark := by
  decide

/-- **The byte sequences of ranges read the characters in them**, spelled in UTF-8, and no
others. -/
theorem reads_sequencesOf (ranges : Ranges) (c : Char) :
    (∃ s ∈ sequencesOf ranges, Reads s (bytesOf c)) ↔ ranges.contains c.toNat = true := by
  obtain ⟨block, hblock, hfirst, hlast⟩ := exists_block c
  rw [bytesOf_eq hblock hfirst hlast, Unicode.Ranges.contains_iff]
  constructor
  · rintro ⟨s, hs, hreads⟩
    simp only [sequencesOf, List.mem_flatMap] at hs
    obtain ⟨⟨a, b⟩, hrange, block', hblock', hs⟩ := hs
    split at hs
    · next hle =>
      have hmore : block'.more = block.more := by
        have hlength := hreads.length_eq
        rw [length_of_mem_byteSequences hs, length_digitBytes] at hlength
        exact Nat.succ.inj hlength
      have hmark := mark_eq_of_more_eq block' hblock' block hblock hmore
      rw [hmore, hmark] at hs
      have hbounds := (reads_byteSequences block.more block.mark c.toNat hle).mp ⟨s, hs, hreads⟩
      exact ⟨(a, b), hrange, by omega⟩
    · exact absurd hs List.not_mem_nil
  · rintro ⟨⟨a, b⟩, hrange, ha, hb⟩
    have hle : max a block.first ≤ min b block.last := by omega
    obtain ⟨s, hs, hreads⟩ := (reads_byteSequences block.more block.mark c.toNat hle).mpr
      (by omega)
    refine ⟨s, ?_, hreads⟩
    simp only [sequencesOf, List.mem_flatMap]
    exact ⟨(a, b), hrange, block, hblock, by rw [if_pos hle]; exact hs⟩

/-- What an automaton is made from for a set are the characters of the set. -/
theorem CharSet.reads_sequencesOf (set : CharSet) (c : Char) :
    (∃ s ∈ sequencesOf set.toRanges, Reads s (bytesOf c)) ↔ set.contains c.toNat = true :=
  (Regex.reads_sequencesOf set.toRanges c).trans (set.toRanges_spec.2 c.toNat)

end Criteria.Regex
