/-
Runs of characters of one class.

A reader takes characters of a class as far as they go.  Where a run ends is settled
by two things: every character of the run is in the class, and what follows does not
open with one that is.  Blanks are the class that every reader skips.
-/
import Criteria.Text.Blank

namespace Criteria.Text

/-! ### Where a run ends -/

/-- What follows does not open with a character of the class. -/
def Stops (p : Char → Bool) (rest : List Char) : Prop :=
  ∀ c, rest.head? = some c → p c = false

theorem stops_nil (p : Char → Bool) : Stops p [] := by
  intro c h
  simp at h

theorem stops_cons {p : Char → Bool} {c : Char} {rest : List Char} :
    Stops p (c :: rest) ↔ p c = false := by
  constructor
  · intro h
    exact h c rfl
  · intro h d hd
    obtain rfl : c = d := Option.some.inj hd
    exact h

/-- A larger class stops wherever the smaller one does not go on either. -/
theorem Stops.of_imp {p q : Char → Bool} {rest : List Char} (h : Stops p rest)
    (hpq : ∀ c, q c = true → p c = true) : Stops q rest := by
  intro c hc
  have hp := h c hc
  cases hq : q c with
  | false => rfl
  | true =>
      rw [hpq c hq] at hp
      exact hp

/-- Only the head matters, so less may follow. -/
theorem Stops.of_append {p : Char → Bool} {s rest : List Char} (h : Stops p (s ++ rest)) :
    Stops p s := by
  cases s with
  | nil => exact stops_nil p
  | cons c s => exact stops_cons.mpr (stops_cons.mp h)

theorem takeWhile_append_of_stops {p : Char → Bool} {s rest : List Char}
    (hs : ∀ c ∈ s, p c = true) (hr : Stops p rest) : (s ++ rest).takeWhile p = s := by
  rw [List.takeWhile_append_of_pos hs]
  cases rest with
  | nil => rw [List.takeWhile_nil, List.append_nil]
  | cons c rest =>
      rw [List.takeWhile_cons_of_neg (by rw [stops_cons.mp hr]; exact Bool.false_ne_true),
        List.append_nil]

theorem dropWhile_append_of_stops {p : Char → Bool} {s rest : List Char}
    (hs : ∀ c ∈ s, p c = true) (hr : Stops p rest) : (s ++ rest).dropWhile p = rest := by
  rw [List.dropWhile_append_of_pos hs]
  cases rest with
  | nil => rfl
  | cons c rest =>
      rw [List.dropWhile_cons_of_neg (by rw [stops_cons.mp hr]; exact Bool.false_ne_true)]

theorem stops_dropWhile (p : Char → Bool) (s : List Char) : Stops p (s.dropWhile p) := by
  intro c hc
  have h := List.head?_dropWhile_not p s
  rw [hc] at h
  exact h

theorem mem_takeWhile {p : Char → Bool} {s : List Char} {c : Char}
    (h : c ∈ s.takeWhile p) : p c = true :=
  List.all_eq_true.mp List.all_takeWhile c h

/-! ### Joined runs -/

/-- What stands in joined texts is the sign that joins them or stands in one of them. -/
theorem eq_or_mem_of_mem_intercalate {sign c : Char} {parts : List (List Char)}
    (h : c ∈ [sign].intercalate parts) : c = sign ∨ ∃ p ∈ parts, c ∈ p := by
  induction parts with
  | nil => simp at h
  | cons p parts ih =>
      cases parts with
      | nil =>
          rw [List.intercalate_singleton] at h
          exact Or.inr ⟨p, List.mem_cons_self, h⟩
      | cons q parts =>
          rw [List.intercalate_cons_cons, List.append_assoc, List.singleton_append] at h
          rcases List.mem_append.mp h with h | h
          · exact Or.inr ⟨p, List.mem_cons_self, h⟩
          · rcases List.mem_cons.mp h with rfl | h
            · exact Or.inl rfl
            · rcases ih h with rfl | ⟨r, hr, hmem⟩
              · exact Or.inl rfl
              · exact Or.inr ⟨r, List.mem_cons_of_mem p hr, hmem⟩

/-! ### Classes of ASCII characters

Apart from blanks, the classes that matter hold ASCII characters only, and what is to be
shown of each of those is checked one by one.
-/

theorem forall_ascii {P : Char → Prop} (h : ∀ n, n < 128 → P (Char.ofNat n)) (c : Char)
    (hc : c.toNat < 128) : P c := by
  have hn := h c.toNat hc
  rwa [Char.ofNat_toNat] at hn

theorem toNat_lt_of_isAlphanum {c : Char} (h : c.isAlphanum = true) : c.toNat < 128 := by
  rcases Bool.or_eq_true_iff.mp h with hletter | hdigit
  · rcases Bool.or_eq_true_iff.mp hletter with hupper | hlower
    · have hle : c.val ≤ 'Z'.val := (of_decide_eq_true hupper).2
      exact Nat.lt_of_le_of_lt hle (by decide)
    · have hle : c.val ≤ 'z'.val := of_decide_eq_true (Bool.and_eq_true_iff.mp hlower).2
      exact Nat.lt_of_le_of_lt hle (by decide)
  · have hle : c.val ≤ '9'.val := of_decide_eq_true (Bool.and_eq_true_iff.mp hdigit).2
    exact Nat.lt_of_le_of_lt hle (by decide)

theorem isAlphanum_of_isDigit {c : Char} (h : c.isDigit = true) : c.isAlphanum = true := by
  rw [Char.isAlphanum, h, Bool.or_true]

theorem isAlphanum_of_isAlpha {c : Char} (h : c.isAlpha = true) : c.isAlphanum = true := by
  rw [Char.isAlphanum, h, Bool.true_or]

/-! ### Blanks -/

/-- Nothing but white space. -/
def Blank (w : List Char) : Prop := ∀ c ∈ w, isBlank c = true

theorem blank_nil : Blank [] := by
  intro c h
  simp at h

theorem Blank.append {v w : List Char} (hv : Blank v) (hw : Blank w) : Blank (v ++ w) := by
  intro c hc
  rcases List.mem_append.mp hc with h | h
  · exact hv c h
  · exact hw c h

/-- Blanks in front make no difference. -/
theorem skipBlanks_append {w s : List Char} (hw : Blank w) :
    skipBlanks (w ++ s) = skipBlanks s :=
  List.dropWhile_append_of_pos hw

theorem skipBlanks_of_stops {s : List Char} (h : Stops isBlank s) : skipBlanks s = s :=
  dropWhile_append_of_stops (s := []) (fun _ hc => absurd hc List.not_mem_nil) h

theorem skipBlanks_eq_nil {w : List Char} (hw : Blank w) : skipBlanks w = [] := by
  have h := skipBlanks_append (s := []) hw
  rw [List.append_nil] at h
  exact h

/-- Every text is blanks and what is left once they are gone. -/
theorem exists_blank_append (s : List Char) :
    ∃ w, Blank w ∧ s = w ++ skipBlanks s ∧ Stops isBlank (skipBlanks s) :=
  ⟨s.takeWhile isBlank, fun _ hc => mem_takeWhile hc, (takeWhile_append_skipBlanks s).symm,
    stops_dropWhile isBlank s⟩

end Criteria.Text
