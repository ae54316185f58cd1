/-
Components that are numbers.

By its documentation the order of versions takes every component of digits for the number that it
is, however long it is, and takes bytes for what else there is.  The order that runs does so for
numbers below a bound.  From there on a number is a text to it, and is compared with other such
numbers and with words by its bytes.

Two versions are then compared as documented, unless the first components that count differently
are of that kind and their bytes stand in another order than the versions should.
-/
import Criteria.Proofs.Numeral
import Criteria.Proofs.VersionOrder
import Mathlib.Data.String.Basic

namespace Criteria.Version

open Criteria.Text

/-! ### Bytes -/

/-- The bytes of a text. -/
def bytes (s : String) : List UInt8 := s.toByteArray.data.toList

/-- The one byte of an ASCII character. -/
def charByte (c : Char) : UInt8 := c.val.toUInt8

private theorem toNat_charByte {c : Char} (h : c.toNat < 128) : (charByte c).toNat = c.toNat := by
  rw [charByte, UInt32.toNat_toUInt8]
  exact Nat.mod_eq_of_lt (Nat.lt_trans h (by decide))

private theorem utf8EncodeChar_of_ascii {c : Char} (h : c.toNat < 128) :
    String.utf8EncodeChar c = [charByte c] := by
  have hone : c.val ≤ 127 := UInt32.le_iff_toNat_le.mpr (Nat.le_of_lt_succ h)
  exact String.utf8EncodeChar_eq_singleton (Char.utf8Size_eq_one_iff.mpr hone)

private theorem bytes_of_ascii {s : String} (h : ∀ c ∈ s.toList, c.toNat < 128) :
    bytes s = s.toList.map charByte := by
  have hencode : bytes s = s.toList.flatMap String.utf8EncodeChar := by
    rw [bytes, ← s.ofList_toList, String.toByteArray_ofList, List.utf8Encode,
      List.toList_data_toByteArray, String.toList_ofList]
  rw [hencode, List.map_eq_flatMap]
  exact List.flatMap_congr fun c hc => utf8EncodeChar_of_ascii (h c hc)

private theorem compare_charByte {c d : Char} (hc : c.toNat < 128) (hd : d.toNat < 128)
    (h : c < d) :
    Ord.compare (charByte c) (charByte d) = .lt := by
  rw [Std.compare_eq_lt, UInt8.lt_iff_toNat_lt, toNat_charByte hc, toNat_charByte hd]
  exact h

private theorem compare_map_charByte {s t : List Char} (hs : ∀ c ∈ s, c.toNat < 128)
    (ht : ∀ c ∈ t, c.toNat < 128) (h : s < t) :
    Ord.compare (s.map charByte) (t.map charByte) = .lt := by
  induction s generalizing t with
  | nil =>
      cases t with
      | nil => exact absurd h (List.not_lt_nil [])
      | cons d t => rfl
  | cons c s ih =>
      cases t with
      | nil => exact absurd h (List.not_lt_nil _)
      | cons d t =>
          rw [List.map_cons, List.map_cons, List.compare_cons_cons]
          rw [List.forall_mem_cons] at hs ht
          rcases List.cons_lt_cons_iff.mp h with hlt | ⟨rfl, hlt⟩
          · rw [compare_charByte hs.1 ht.1 hlt]
            rfl
          · rw [Std.ReflOrd.compare_self, ih hs.2 ht.2 hlt]
            rfl

/-- ASCII texts stand in the order of their bytes. -/
theorem compare_eq_compare_bytes {s t : String} (hs : ∀ c ∈ s.toList, c.toNat < 128)
    (ht : ∀ c ∈ t.toList, c.toNat < 128) :
    Ord.compare s t = Ord.compare (bytes s) (bytes t) := by
  rw [bytes_of_ascii hs, bytes_of_ascii ht]
  rcases lt_trichotomy s t with hlt | rfl | hgt
  · rw [compare_lt_iff_lt.mpr hlt, compare_map_charByte hs ht (String.lt_iff.mp hlt)]
  · rw [Std.ReflOrd.compare_self, Std.ReflOrd.compare_self]
  · rw [compare_gt_iff_gt.mpr hgt, Std.OrientedOrd.eq_swap,
      compare_map_charByte ht hs (String.lt_iff.mp hgt)]
    rfl

theorem compare_eq_compare_bytes_of_isPart {p q : String} (hp : isPart p = true)
    (hq : isPart q = true) : Ord.compare p q = Ord.compare (bytes p) (bytes q) := by
  have hascii : ∀ {part : String}, isPart part = true → ∀ c ∈ part.toList, c.toNat < 128 := by
    intro part hpart c hc
    have hchar := isPartChar_of_isPart hpart hc
    simp only [isPartChar, Bool.or_eq_true, beq_iff_eq] at hchar
    rcases hchar with (halnum | rfl) | rfl
    · exact toNat_lt_of_isAlphanum halnum
    · decide
    · decide
  exact compare_eq_compare_bytes (hascii hp) (hascii hq)

/-! ### Components -/

/-- Whether a component is a number, however long it is. -/
def IsNumber (part : String) : Prop := (readNat? part.toList).isSome = true

instance : DecidablePred IsNumber := fun part =>
  inferInstanceAs (Decidable ((readNat? part.toList).isSome = true))

/-- The documented order of components: numbers come first and stand in the order of numbers,
what is no number stands in the order of bytes. -/
def comparePart (p q : String) : Ordering :=
  match readNat? p.toList, readNat? q.toList with
  | some m, some n => Ord.compare m n
  | some _, none => .lt
  | none, some _ => .gt
  | none, none => Ord.compare (bytes p) (bytes q)

/-- Two components that count as texts, although one of them is a number. -/
def Mistaken (p q : String) : Prop :=
  Key.of p = .text p ∧ Key.of q = .text q ∧ (IsNumber p ∨ IsNumber q)

instance (p q : String) : Decidable (Mistaken p q) :=
  inferInstanceAs (Decidable (_ ∧ _ ∧ _))

/-- If the component is a number, it is below the bound. -/
def Fits (part : String) : Prop := ∀ n ∈ readNat? part.toList, n < numberBound

instance : DecidablePred Fits := fun part =>
  inferInstanceAs (Decidable (∀ n ∈ readNat? part.toList, n < numberBound))

/-- A component is a number below the bound, a number from there on, or no number. -/
theorem Key.of_cases (part : String) :
    (∃ n, readNat? part.toList = some n ∧ n < numberBound ∧ Key.of part = .number n) ∨
      (∃ n, readNat? part.toList = some n ∧ numberBound ≤ n ∧ Key.of part = .text part) ∨
      readNat? part.toList = none ∧ Key.of part = .text part := by
  rw [Key.of]
  cases h : readNat? part.toList with
  | none => exact Or.inr (Or.inr ⟨rfl, rfl⟩)
  | some n =>
      by_cases hbound : n < numberBound
      · exact Or.inl ⟨n, rfl, hbound, if_pos hbound⟩
      · exact Or.inr (Or.inl ⟨n, rfl, Nat.not_lt.mp hbound, if_neg hbound⟩)

private theorem Key.of_eq_text {part s : String} (h : Key.of part = .text s) : part = s := by
  rcases Key.of_cases part with ⟨n, -, -, hkey⟩ | ⟨n, -, -, hkey⟩ | ⟨-, hkey⟩
  · exact absurd (hkey.symm.trans h) nofun
  · exact Key.text.inj (hkey.symm.trans h)
  · exact Key.text.inj (hkey.symm.trans h)

theorem isNumber_of_eq_some {part : String} {n : Nat} (h : readNat? part.toList = some n) :
    IsNumber part :=
  Option.isSome_iff_exists.mpr ⟨n, h⟩

private theorem not_isNumber_of_fits {part : String} (h : Fits part)
    (hkey : Key.of part = .text part) :
    ¬ IsNumber part := by
  intro hnumber
  obtain ⟨n, hn⟩ := Option.isSome_iff_exists.mp hnumber
  rw [Key.of, hn] at hkey
  exact absurd ((if_pos (h n hn)).symm.trans hkey) nofun

/-- Numbers below the bound are never mistaken for texts. -/
theorem not_mistaken_of_fits {p q : String} (hp : Fits p) (hq : Fits q) : ¬ Mistaken p q := by
  rintro ⟨hkp, hkq, hnumber | hnumber⟩
  · exact not_isNumber_of_fits hp hkp hnumber
  · exact not_isNumber_of_fits hq hkq hnumber

/-- Components that are not mistaken for texts are compared as documented. -/
theorem key_compare_of_not_mistaken {p q : String} (hp : isPart p = true) (hq : isPart q = true)
    (h : ¬ Mistaken p q) : (Key.of p).compare (Key.of q) = comparePart p q := by
  rcases Key.of_cases p with ⟨m, hm, hmlt, hkp⟩ | ⟨m, hm, hmle, hkp⟩ | ⟨hm, hkp⟩
  · rcases Key.of_cases q with ⟨n, hn, -, hkq⟩ | ⟨n, hn, hnle, hkq⟩ | ⟨hn, hkq⟩
    · rw [hkp, hkq, comparePart, hm, hn]
      rfl
    · rw [hkp, hkq, comparePart, hm, hn]
      exact (Nat.compare_eq_lt.mpr (Nat.lt_of_lt_of_le hmlt hnle)).symm
    · rw [hkp, hkq, comparePart, hm, hn]
      rfl
  · rcases Key.of_cases q with ⟨n, hn, hnlt, hkq⟩ | ⟨n, hn, -, hkq⟩ | ⟨hn, hkq⟩
    · rw [hkp, hkq, comparePart, hm, hn]
      exact (Nat.compare_eq_gt.mpr (Nat.lt_of_lt_of_le hnlt hmle)).symm
    · exact absurd ⟨hkp, hkq, Or.inl (isNumber_of_eq_some hm)⟩ h
    · exact absurd ⟨hkp, hkq, Or.inl (isNumber_of_eq_some hm)⟩ h
  · rcases Key.of_cases q with ⟨n, hn, -, hkq⟩ | ⟨n, hn, -, hkq⟩ | ⟨hn, hkq⟩
    · rw [hkp, hkq, comparePart, hm, hn]
      rfl
    · exact absurd ⟨hkp, hkq, Or.inr (isNumber_of_eq_some hn)⟩ h
    · rw [hkp, hkq, comparePart, hm, hn]
      exact compare_eq_compare_bytes_of_isPart hp hq

/-- Components that are mistaken for texts are compared by their bytes. -/
theorem key_compare_of_mistaken {p q : String} (hp : isPart p = true) (hq : isPart q = true)
    (h : Mistaken p q) : (Key.of p).compare (Key.of q) = Ord.compare (bytes p) (bytes q) := by
  rw [h.1, h.2.1]
  exact compare_eq_compare_bytes_of_isPart hp hq

private theorem comparePart_self (part : String) : comparePart part part = .eq := by
  rw [comparePart]
  cases readNat? part.toList with
  | none => exact Std.ReflOrd.compare_self
  | some n => exact Std.ReflOrd.compare_self

/-- What counts as the same is the same by the documentation, too. -/
theorem comparePart_of_key_eq {p q : String} (h : Key.of p = Key.of q) :
    comparePart p q = .eq := by
  rcases Key.of_cases p with ⟨n, hp, -, hkp⟩ | ⟨-, -, -, hkp⟩ | ⟨-, hkp⟩
  · rcases Key.of_cases q with ⟨m, hq, -, hkq⟩ | ⟨-, -, -, hkq⟩ | ⟨-, hkq⟩
    · rw [hkp, hkq, Key.number.injEq] at h
      rw [comparePart, hp, hq, h]
      exact Std.ReflOrd.compare_self
    · exact absurd (hkp.symm.trans (h.trans hkq)) nofun
    · exact absurd (hkp.symm.trans (h.trans hkq)) nofun
  · rw [Key.of_eq_text (h.symm.trans hkp)]
    exact comparePart_self p
  · rw [Key.of_eq_text (h.symm.trans hkp)]
    exact comparePart_self p

private theorem then_of_ne_eq {o : Ordering} (h : o ≠ .eq) (rest : Ordering) : o.then rest = o := by
  cases o with
  | eq => exact absurd rfl h
  | lt => rfl
  | gt => rfl

/-- Where components count differently, what is behind them matters only if they are mistaken for
texts. -/
theorem key_compare_eq_iff {p q : String} (hp : isPart p = true) (hq : isPart q = true)
    (hkey : Key.of p ≠ Key.of q) (rest : Ordering) :
    (Key.of p).compare (Key.of q) = (comparePart p q).then rest ↔
      (Mistaken p q → Ord.compare (bytes p) (bytes q) = (comparePart p q).then rest) := by
  by_cases hmistaken : Mistaken p q
  · rw [key_compare_of_mistaken hp hq hmistaken]
    exact ⟨fun h _ => h, fun h => h hmistaken⟩
  · have hdocumented := key_compare_of_not_mistaken hp hq hmistaken
    have hne : comparePart p q ≠ .eq := by
      rw [← hdocumented]
      exact mt Std.LawfulEqCmp.eq_of_compare hkey
    rw [hdocumented, then_of_ne_eq hne]
    exact ⟨fun _ h => absurd h hmistaken, fun _ => rfl⟩

/-! ### Versions -/

/-- The components of a version in so many places, zeros standing in for those it lacks. -/
def inPlaces (places : Nat) (v : Version) : List String := v.parts.rightpad places zeroPart

/-- What holds of all components and of the zero holds in every place. -/
theorem forall_mem_inPlaces {P : String → Prop} {v : Version} (h : ∀ part ∈ v.parts, P part)
    (hzero : P zeroPart) (places : Nat) : ∀ part ∈ v.inPlaces places, P part := by
  intro part hmem
  rcases List.mem_append.mp hmem with hpart | hpart
  · exact h part hpart
  · rw [List.eq_of_mem_replicate hpart]
    exact hzero

private theorem isPart_of_mem_inPlaces {places : Nat} {v : Version} {part : String}
    (h : part ∈ v.inPlaces places) : isPart part = true :=
  forall_mem_inPlaces (List.all_eq_true.mp v.wellFormed) (by decide) places part h

private theorem length_inPlaces {places : Nat} {v : Version} (h : v.parts.length ≤ places) :
    (v.inPlaces places).length = places := by
  rw [inPlaces, List.length_rightpad, Nat.max_eq_left h]

private theorem keys_eq_map (places : Nat) (v : Version) :
    keys places v.parts = (v.inPlaces places).map Key.of := by
  rw [inPlaces, List.rightpad, List.map_append, List.map_replicate]
  rfl

/-- The places in which two versions are compared. -/
def places (v w : Version) : Nat := max v.parts.length w.parts.length

/-- The documented order of versions. -/
def compareInFull (v w : Version) : Ordering :=
  List.compareLex comparePart (v.inPlaces (places v w)) (w.inPlaces (places v w))

/-- The first components in one place that count differently. -/
def firstDifference (ps qs : List String) : Option (String × String) :=
  (ps.zip qs).find? fun c => decide (Key.of c.1 ≠ Key.of c.2)

theorem of_firstDifference {ps qs : List String} {p q : String}
    (h : firstDifference ps qs = some (p, q)) : Key.of p ≠ Key.of q ∧ p ∈ ps ∧ q ∈ qs := by
  have hdiffer := List.find?_some h
  exact ⟨of_decide_eq_true hdiffer, List.of_mem_zip (List.mem_of_find?_eq_some h)⟩

/-- The first components that count differently decide.  The documented order looks on behind
them only where it takes them for the same. -/
theorem compareLex_cases {ps qs : List String} (h : ps.length = qs.length) :
    (firstDifference ps qs = none ∧
        List.compareLex Key.compare (ps.map Key.of) (qs.map Key.of) = .eq ∧
        List.compareLex comparePart ps qs = .eq) ∨
      ∃ p q rest, firstDifference ps qs = some (p, q) ∧
        List.compareLex Key.compare (ps.map Key.of) (qs.map Key.of) =
          (Key.of p).compare (Key.of q) ∧
        List.compareLex comparePart ps qs = (comparePart p q).then rest := by
  induction ps generalizing qs with
  | nil =>
      obtain rfl := List.length_eq_zero_iff.mp h.symm
      exact Or.inl ⟨rfl, rfl, rfl⟩
  | cons p ps ih =>
      cases qs with
      | nil => exact absurd h (Nat.succ_ne_zero _)
      | cons q qs =>
          rw [List.map_cons, List.map_cons, List.compareLex_cons_cons, List.compareLex_cons_cons,
            firstDifference, List.zip_cons_cons, List.find?_cons]
          by_cases hkey : Key.of p = Key.of q
          · have hself : (Key.of q).compare (Key.of q) = .eq := Std.ReflCmp.compare_self
            rw [decide_eq_false (not_not_intro hkey), comparePart_of_key_eq hkey, hkey, hself]
            exact ih (Nat.succ.inj h)
          · rw [decide_eq_true hkey]
            exact Or.inr ⟨p, q, _, rfl, then_of_ne_eq (mt Std.LawfulEqCmp.eq_of_compare hkey) _,
              rfl⟩

/-- Which versions compare as documented. -/
theorem compare_eq_inFull_iff {v w : Version} :
    v.compare w = v.compareInFull w ↔
      ∀ p q, firstDifference (v.inPlaces (places v w)) (w.inPlaces (places v w)) = some (p, q) →
        Mistaken p q → Ord.compare (bytes p) (bytes q) = v.compareInFull w := by
  have hv : v.parts.length ≤ places v w := Nat.le_max_left _ _
  have hw : w.parts.length ≤ places v w := Nat.le_max_right _ _
  have hlen : (v.inPlaces (places v w)).length = (w.inPlaces (places v w)).length :=
    (length_inPlaces hv).trans (length_inPlaces hw).symm
  rw [compare, compareParts_eq_lex hv hw, keys_eq_map, keys_eq_map, compareInFull]
  rcases compareLex_cases hlen with ⟨hnone, hrun, hfull⟩ | ⟨p, q, rest, hsome, hrun, hfull⟩
  · rw [hnone, hrun, hfull]
    refine ⟨fun _ p q hfirst => ?_, fun _ => rfl⟩
    cases hfirst
  · obtain ⟨hkey, hmemp, hmemq⟩ := of_firstDifference hsome
    rw [hsome, hrun, hfull, key_compare_eq_iff (isPart_of_mem_inPlaces hmemp)
      (isPart_of_mem_inPlaces hmemq) hkey]
    constructor
    · intro hagree p' q' hfirst
      cases hfirst
      exact hagree
    · intro hagree
      exact hagree p q rfl

/-- Versions compare as documented where all their numbers are below the bound. -/
theorem compare_eq_inFull_of_fits {v w : Version} (hv : ∀ part ∈ v.parts, Fits part)
    (hw : ∀ part ∈ w.parts, Fits part) : v.compare w = v.compareInFull w := by
  have hzero : Fits zeroPart := by decide +kernel
  rw [compare_eq_inFull_iff]
  intro p q hfirst hmistaken
  obtain ⟨-, hmemp, hmemq⟩ := of_firstDifference hfirst
  have hp := forall_mem_inPlaces hv hzero _ p hmemp
  have hq := forall_mem_inPlaces hw hzero _ q hmemq
  exact absurd hmistaken (not_mistaken_of_fits hp hq)

/-- **Versions compare as documented, unless bytes decide about numbers.**  The documented order
takes every component of digits for a number, and the order that runs agrees with it on two
versions unless the first components that count differently are mistaken for texts, and
their bytes stand in another order than the versions should.  It agrees on all versions whose
numbers are below the bound. -/
theorem compared_as_documented (v w : Version) :
    (v.compare w = v.compareInFull w ↔
      ∀ p q, firstDifference (v.inPlaces (places v w)) (w.inPlaces (places v w)) = some (p, q) →
        Mistaken p q → Ord.compare (bytes p) (bytes q) = v.compareInFull w) ∧
      ((∀ part ∈ v.parts, Fits part) → (∀ part ∈ w.parts, Fits part) →
        v.compare w = v.compareInFull w) :=
  ⟨compare_eq_inFull_iff, compare_eq_inFull_of_fits⟩

/-- A number that is too long beside a word whose bytes come after those of the number, and one
that is not. -/
theorem compared_as_documented_lettered :
    firstDifference (overlong.inPlaces 2) (lettered.inPlaces 2) =
        some ("99999999999999999999", "9z") ∧
      Mistaken "99999999999999999999" "9z" ∧ overlong.compareInFull lettered = .lt ∧
      overlong.compare lettered = .lt ∧
      (∀ part ∈ numbered.parts, Fits part) ∧ (∀ part ∈ lettered.parts, Fits part) ∧
      numbered.compare lettered = numbered.compareInFull lettered := by
  obtain ⟨hexact, -⟩ := compared_as_documented overlong lettered
  obtain ⟨-, hfits⟩ := compared_as_documented numbered lettered
  have hfirst : firstDifference (overlong.inPlaces 2) (lettered.inPlaces 2) =
      some ("99999999999999999999", "9z") := by decide +kernel
  have hfull : overlong.compareInFull lettered = .lt := by decide +kernel
  have hnumbered : ∀ part ∈ numbered.parts, Fits part := by decide +kernel
  have hlettered : ∀ part ∈ lettered.parts, Fits part := by decide +kernel
  refine ⟨hfirst, by decide +kernel, hfull, ?_, hnumbered, hlettered,
    hfits hnumbered hlettered⟩
  rw [← hfull, hexact]
  intro p q hsome _
  cases hfirst.symm.trans hsome
  decide +kernel

/-- The version `1.99999999999999999999`. -/
def nines : Version := ⟨["1", "99999999999999999999"], by decide +kernel, by decide +kernel⟩

/-- The version `1.100000000000000000000`, with the number that comes next. -/
def tenPower : Version := ⟨["1", "100000000000000000000"], by decide +kernel, by decide +kernel⟩

/-- Numbers that are too long stand in the wrong order where they are of different lengths. -/
theorem not_as_documented_nines :
    parse "1.99999999999999999999" = .ok nines ∧ parse "1.100000000000000000000" = .ok tenPower ∧
      nines.compare tenPower = .gt ∧ nines.compareInFull tenPower = .lt := by
  refine ⟨rfl, rfl, ?_, by decide +kernel⟩
  simp only [compare, nines, tenPower, compareParts]
  decide +kernel

end Criteria.Version
