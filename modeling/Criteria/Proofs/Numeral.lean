/-
Numerals as runs of digits.

What is written for a number is digits only, and a field of fixed width is filled when
the number fits.  So a reader that takes digits as far as they go, or as many as a field
has, takes the number and no more.  A field may also be given by the digits that fill it, and
then has a number that fits.  A whole text is read as a number only if it is digits, or digits
after a sign.
-/
import Criteria.Proofs.Span
import Criteria.Text.Numeral
import Mathlib.Algebra.Group.Nat.Defs

namespace Criteria.Text

theorem natChars_cons (n : Nat) : ∃ c rest, natChars n = c :: rest ∧ c.isDigit = true := by
  cases h : natChars n with
  | nil => exact absurd h Nat.toDigits_ne_nil
  | cons c rest =>
      refine ⟨c, rest, rfl, isDigit_of_mem_natChars (n := n) ?_⟩
      rw [h]
      exact List.mem_cons_self

/-- The last digit of a number stands for its remainder, and the others for its quotient. -/
theorem natChars_div_mod {n : Nat} (h : 10 ≤ n) :
    natChars (n / 10) ++ natChars (n % 10) = natChars n := by
  have hsplit := Nat.toDigits_append_toDigits (b := 10) (n := n / 10) (d := n % 10) (by decide)
    (by omega) (by omega)
  rwa [Nat.div_add_mod] at hsplit

theorem isDigit_of_mem_paddedChars {width n : Nat} {c : Char} (h : c ∈ paddedChars width n) :
    c.isDigit = true := by
  rcases List.mem_append.mp h with h | h
  · rw [List.eq_of_mem_replicate h]
    rfl
  · exact isDigit_of_mem_natChars h

/-- A number that fits its field fills it. -/
theorem length_paddedChars {width n : Nat} (hw : 0 < width) (h : n < 10 ^ width) :
    (paddedChars width n).length = width := by
  have := (Nat.length_toDigits_le_iff (n := n) (by decide) hw).mpr h
  simp only [paddedChars, natChars, List.length_append, List.length_replicate]
  omega

/-- A number that is too large for its field runs on by its last digit. -/
theorem paddedChars_div_mod {width n : Nat} (hw : 0 < width) (h : 10 ^ width ≤ n) :
    paddedChars width n = paddedChars width (n / 10) ++ natChars (n % 10) := by
  have hlong : width < (natChars n).length :=
    Nat.not_le.mp (mt (Nat.length_toDigits_le_iff (by decide) hw).mp (Nat.not_lt.mpr h))
  have hdigits : natChars (n / 10) ++ natChars (n % 10) = natChars n :=
    natChars_div_mod (Nat.le_trans (Nat.le_self_pow (Nat.ne_of_gt hw) 10) h)
  have hlast : (natChars (n % 10)).length = 1 := by
    rw [natChars, Nat.toDigits_of_lt_base (Nat.mod_lt n (by decide))]
    rfl
  have hfull : width ≤ (natChars (n / 10)).length := by
    rw [← hdigits, List.length_append, hlast] at hlong
    exact Nat.le_of_lt_succ hlong
  rw [paddedChars, paddedChars, Nat.sub_eq_zero_of_le hfull,
    Nat.sub_eq_zero_of_le (Nat.le_of_lt hlong), ← hdigits]
  rfl

theorem paddedChars_ne_nil (width n : Nat) : paddedChars width n ≠ [] := by
  obtain ⟨c, rest, h, _⟩ := natChars_cons n
  simp [paddedChars, h]

/-- A numeral opens with a digit or with a minus sign, and has digits after it. -/
theorem intChars_eq (i : Int) :
    (i < 0 ∧ intChars i = '-' :: natChars i.natAbs) ∨
      (0 ≤ i ∧ intChars i = natChars i.natAbs) := by
  by_cases h : i < 0
  · exact Or.inl ⟨h, if_pos h⟩
  · exact Or.inr ⟨Int.not_lt.mp h, if_neg h⟩

/-! ### Fields of digits -/

private theorem ofDigitChars_lt {digits : List Char} (h : ∀ c ∈ digits, c.isDigit = true)
    (n : Nat) :
    Nat.ofDigitChars 10 digits n < (n + 1) * 10 ^ digits.length := by
  induction digits generalizing n with
  | nil => simp
  | cons c digits ih =>
      have hc : c.toNat - '0'.toNat < 10 := by
        have hle : c.val ≤ '9'.val := (of_decide_eq_true (Bool.and_eq_true_iff.mp
          (h c List.mem_cons_self)).2)
        have hnat : c.toNat ≤ 57 := hle
        show c.toNat - 48 < 10
        omega
      have hrest := ih (fun d hd => h d (List.mem_cons_of_mem c hd))
        (10 * n + (c.toNat - '0'.toNat))
      calc
        Nat.ofDigitChars 10 (c :: digits) n
            < (10 * n + (c.toNat - '0'.toNat) + 1) * 10 ^ digits.length := hrest
        _ ≤ ((n + 1) * 10) * 10 ^ digits.length := Nat.mul_le_mul_right _ (by omega)
        _ = (n + 1) * 10 ^ (c :: digits).length := by
          rw [List.length_cons, Nat.pow_succ', Nat.mul_assoc]

/-- Digits stand for a number that fits as many places. -/
theorem readDigits_lt {digits : List Char} (h : ∀ c ∈ digits, c.isDigit = true) :
    readDigits digits < 10 ^ digits.length := by
  have hlt := ofDigitChars_lt h 0
  rwa [Nat.zero_add, Nat.one_mul] at hlt

/-- Digits behind others shift them by as many places. -/
theorem readDigits_append (digits rest : List Char) :
    readDigits (digits ++ rest) = readDigits digits * 10 ^ rest.length + readDigits rest := by
  rw [readDigits, Nat.ofDigitChars_append, Nat.ofDigitChars_eq_ofDigitChars_zero, Nat.mul_comm]
  rfl

theorem readDigits_replicate_zero (n : Nat) : readDigits (List.replicate n '0') = 0 := by
  rw [readDigits, Nat.ofDigitChars_replicate_zero, Nat.mul_zero]

/-- A numeral that fills so many places. -/
structure Numeral (width : Nat) where
  digits : List Char
  length_eq : digits.length = width
  isDigit : ∀ c ∈ digits, c.isDigit = true

namespace Numeral

variable {width : Nat}

/-- The number that a numeral stands for. -/
def value (n : Numeral width) : Nat := readDigits n.digits

theorem value_lt (n : Numeral width) : n.value < 10 ^ width := by
  have hlt := readDigits_lt n.isDigit
  rwa [n.length_eq] at hlt

theorem digits_ne_nil (n : Numeral (width + 1)) : n.digits ≠ [] := by
  intro h
  have hlen := n.length_eq
  rw [h] at hlen
  exact absurd hlen (Nat.succ_ne_zero width).symm

theorem not_mem_digits (n : Numeral width) {c : Char} (h : c.isDigit = false) :
    c ∉ n.digits := by
  intro hmem
  have hdigit := n.isDigit c hmem
  rw [h] at hdigit
  exact absurd hdigit Bool.false_ne_true

/-- A number that fits, zeros in front of it. -/
def padded (n : Nat) (h : n < 10 ^ (width + 1)) : Numeral (width + 1) where
  digits := paddedChars (width + 1) n
  length_eq := length_paddedChars (Nat.succ_pos width) h
  isDigit _ hc := isDigit_of_mem_paddedChars hc

theorem value_padded (n : Nat) (h : n < 10 ^ (width + 1)) : (padded n h).value = n :=
  readDigits_paddedChars (width + 1) n

end Numeral

/-! ### Whole numbers -/

/-- The sign before a number. -/
inductive Sign where
  | plus
  | minus

namespace Sign

def char : Sign → Char
  | .plus => '+'
  | .minus => '-'

def factor : Sign → Int
  | .plus => 1
  | .minus => -1

end Sign

theorem readNat?_eq_some {s : List Char} {n : Nat} :
    readNat? s = some n ↔ (s ≠ [] ∧ ∀ c ∈ s, c.isDigit = true) ∧ readDigits s = n := by
  simp only [readNat?, Bool.or_eq_true, List.isEmpty_iff, Bool.not_eq_true', List.all_eq_false]
  split
  · next h =>
    simp only [false_iff, not_and, reduceCtorEq]
    rintro ⟨hne, hdigits⟩
    rcases h with h | ⟨c, hc, hdigit⟩
    · exact absurd h hne
    · exact absurd (hdigits c hc) hdigit
  · next h =>
    have hdigits : s ≠ [] ∧ ∀ c ∈ s, c.isDigit = true :=
      ⟨fun hnil => h (Or.inl hnil), fun c hc => Decidable.not_not.mp fun hdigit =>
        h (Or.inr ⟨c, hc, hdigit⟩)⟩
    rw [Option.some.injEq, and_iff_right hdigits]

private theorem readNat?_sign (sign : Sign) (s : List Char) : readNat? (sign.char :: s) = none := by
  rw [Option.eq_none_iff_forall_ne_some]
  intro n h
  have hdigit := (readNat?_eq_some.mp h).1.2 sign.char List.mem_cons_self
  cases sign with
  | plus => exact absurd hdigit (by decide)
  | minus => exact absurd hdigit (by decide)

theorem readSigned?_sign (sign : Sign) (s : List Char) :
    readSigned? (sign.char :: s) = (readNat? s).map fun n : Nat => sign.factor * (n : Int) := by
  cases sign with
  | plus =>
      show (readNat? s).map Int.ofNat = _
      cases readNat? s with
      | none => rfl
      | some n => exact congrArg some (Int.one_mul n).symm
  | minus =>
      rw [Sign.char, readSigned?]
      cases readNat? s with
      | none => rfl
      | some n => exact congrArg some (Int.neg_one_mul n).symm

theorem readSigned?_of_readNat? {s : List Char} {n : Nat} (h : readNat? s = some n) :
    readSigned? s = some (n : Int) := by
  rw [readSigned?.eq_def]
  split
  · exact absurd ((readNat?_sign .minus _).symm.trans h) (Option.some_ne_none n).symm
  · exact absurd ((readNat?_sign .plus _).symm.trans h) (Option.some_ne_none n).symm
  · rw [h]
    rfl

theorem readNat?_numeral {width : Nat} (n : Numeral (width + 1)) :
    readNat? n.digits = some n.value :=
  readNat?_eq_some.mpr ⟨⟨n.digits_ne_nil, n.isDigit⟩, rfl⟩

theorem readSigned?_numeral {width : Nat} (n : Numeral (width + 1)) :
    readSigned? n.digits = some (n.value : Int) :=
  readSigned?_of_readNat? (readNat?_numeral n)

/-- A whole number is written in digits, or in digits after a sign. -/
theorem readSigned?_eq_some {s : List Char} {i : Int} :
    readSigned? s = some i ↔
      (∃ n, readNat? s = some n ∧ (n : Int) = i) ∨
        ∃ (sign : Sign) (digits : List Char) (n : Nat),
          s = sign.char :: digits ∧ readNat? digits = some n ∧ sign.factor * n = i := by
  constructor
  · intro h
    by_cases hsign : ∃ (sign : Sign) (digits : List Char), s = sign.char :: digits
    · obtain ⟨sign, digits, rfl⟩ := hsign
      rw [readSigned?_sign] at h
      obtain ⟨n, hn, hi⟩ := Option.map_eq_some_iff.mp h
      exact Or.inr ⟨sign, digits, n, rfl, hn, hi⟩
    · rw [readSigned?.eq_def] at h
      split at h
      · next digits => exact absurd ⟨Sign.minus, digits, rfl⟩ hsign
      · next digits => exact absurd ⟨Sign.plus, digits, rfl⟩ hsign
      · obtain ⟨n, hn, hi⟩ := (Option.map_eq_some_iff (f := Int.ofNat)).mp h
        exact Or.inl ⟨n, hn, hi⟩
  · rintro (⟨n, hn, rfl⟩ | ⟨sign, digits, n, rfl, hn, rfl⟩)
    · exact readSigned?_of_readNat? hn
    · rw [readSigned?_sign, hn]
      rfl

/-- A whole number that fills so many places, of which a sign takes the first if there is one. -/
inductive Places : Nat → Type where
  | plain {width : Nat} (n : Numeral (width + 1)) : Places (width + 1)
  | signed {width : Nat} (sign : Sign) (n : Numeral (width + 1)) : Places (width + 2)

namespace Places

variable {width : Nat}

def chars : Places width → List Char
  | .plain n => n.digits
  | .signed sign n => sign.char :: n.digits

def value : Places width → Int
  | .plain n => n.value
  | .signed sign n => sign.factor * n.value

def IsSigned : Places width → Prop
  | .plain _ => False
  | .signed .. => True

theorem length_chars (p : Places width) : p.chars.length = width := by
  cases p with
  | plain n => exact n.length_eq
  | signed sign n => exact congrArg Nat.succ n.length_eq

theorem isSigned_iff {p : Places width} : p.IsSigned ↔ ∃ sign : Sign, sign.char ∈ p.chars := by
  cases p with
  | plain n =>
      simp only [IsSigned, chars, false_iff, not_exists]
      intro sign
      cases sign with
      | plus => exact n.not_mem_digits (by decide)
      | minus => exact n.not_mem_digits (by decide)
  | signed sign n =>
      simp only [IsSigned, chars, true_iff]
      exact ⟨sign, List.mem_cons_self⟩

/-- A number without a sign is a numeral. -/
theorem exists_numeral {p : Places width} (h : ¬ p.IsSigned) :
    ∃ n : Numeral width, n.digits = p.chars := by
  cases p with
  | plain n => exact ⟨n, rfl⟩
  | signed sign n => exact absurd trivial h

/-- A sign takes no place but the first. -/
theorem isDigit_of_getLast? (p : Places width) {c : Char} (h : p.chars.getLast? = some c) :
    c.isDigit = true := by
  cases p with
  | plain n => exact n.isDigit c (List.mem_of_getLast? h)
  | signed sign n =>
      obtain ⟨d, rest, hdigits⟩ := List.exists_cons_of_ne_nil n.digits_ne_nil
      rw [chars, hdigits, List.getLast?_cons_cons, ← hdigits] at h
      exact n.isDigit c (List.mem_of_getLast? h)

end Places

/-- What is read as a whole number fills its places, and what fills them is read. -/
theorem readSigned?_places {width : Nat} {s : List Char} {i : Int} (h : s.length = width) :
    readSigned? s = some i ↔ ∃ p : Places width, p.chars = s ∧ p.value = i := by
  constructor
  · intro hread
    subst h
    rcases readSigned?_eq_some.mp hread with ⟨n, hn, rfl⟩ | ⟨sign, digits, n, rfl, hn, rfl⟩
    · obtain ⟨⟨hne, hdigits⟩, rfl⟩ := readNat?_eq_some.mp hn
      cases s with
      | nil => exact absurd rfl hne
      | cons c rest => exact ⟨.plain ⟨c :: rest, rfl, hdigits⟩, rfl, rfl⟩
    · obtain ⟨⟨hne, hdigits⟩, rfl⟩ := readNat?_eq_some.mp hn
      cases digits with
      | nil => exact absurd rfl hne
      | cons c rest => exact ⟨.signed sign ⟨c :: rest, rfl, hdigits⟩, rfl, rfl⟩
  · rintro ⟨p, rfl, rfl⟩
    cases p with
    | plain n => exact readSigned?_numeral n
    | signed sign n =>
        rw [Places.chars, readSigned?_sign, readNat?_numeral]
        rfl

end Criteria.Text
