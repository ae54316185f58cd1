/-
The order of versions, and how they are read back from their literals.

Components count as numbers or as texts, and where a version has none it counts as having
zeros.  So versions are compared as rows of keys of one length, letter by letter as words
are, and what holds of such an order in general holds of theirs.

A version of one component is written with a second one, which counts as nothing.  What is
read back is then another spelling of the same version, and a version of two components or
more is read back as it was.
-/
import Criteria.Version

namespace Criteria.Version

/-! ### Keys -/

instance : Std.LawfulEqCmp Key.compare where
  compare_self {k} := by
    cases k with
    | number n => exact Std.ReflOrd.compare_self (a := n)
    | text s => exact Std.ReflOrd.compare_self (a := s)
  eq_of_compare {k l} h := by
    cases k with
    | number m =>
        cases l with
        | number n => rw [Std.LawfulEqOrd.eq_of_compare (show Ord.compare m n = .eq from h)]
        | text t => simp [Key.compare] at h
    | text s =>
        cases l with
        | number n => simp [Key.compare] at h
        | text t => rw [Std.LawfulEqOrd.eq_of_compare (show Ord.compare s t = .eq from h)]

instance : Std.OrientedCmp Key.compare where
  eq_swap {k l} := by
    cases k with
    | number m =>
        cases l with
        | number n => exact Std.OrientedOrd.eq_swap (a := m) (b := n)
        | text t => rfl
    | text s =>
        cases l with
        | number n => rfl
        | text t => exact Std.OrientedOrd.eq_swap (a := s) (b := t)

instance : Std.TransCmp Key.compare where
  isLE_trans {k l m} hkl hlm := by
    cases k with
    | number i =>
        cases m with
        | number n =>
            cases l with
            | number j => exact Std.TransOrd.isLE_trans (a := i) (b := j) (c := n) hkl hlm
            | text t => simp [Key.compare] at hlm
        | text u => rfl
    | text s =>
        cases l with
        | number j => simp [Key.compare] at hkl
        | text t =>
            cases m with
            | number n => simp [Key.compare] at hlm
            | text u => exact Std.TransOrd.isLE_trans (a := s) (b := t) (c := u) hkl hlm

/-! ### Components -/

/-- What components count as, zeros standing in for those that are missing up to a number of
places. -/
def keys (places : Nat) (parts : List String) : List Key :=
  parts.map Key.of ++ List.replicate (places - parts.length) (Key.of zeroPart)

@[simp] theorem keys_nil (places : Nat) :
    keys places [] = List.replicate places (Key.of zeroPart) := rfl

@[simp] theorem keys_cons (places : Nat) (part : String) (parts : List String) :
    keys (places + 1) (part :: parts) = Key.of part :: keys places parts := by
  rw [keys, List.length_cons, Nat.add_sub_add_right]
  rfl

/-- Versions are compared as rows of keys, in as many places as the longer one has. -/
theorem compareParts_eq_lex {places : Nat} {ps qs : List String} (hp : ps.length ≤ places)
    (hq : qs.length ≤ places) :
    compareParts ps qs = List.compareLex Key.compare (keys places ps) (keys places qs) := by
  fun_induction compareParts ps qs generalizing places with
  | case1 => exact Std.ReflCmp.compare_self.symm
  | case2 q qs ih =>
      obtain ⟨places, rfl⟩ := Nat.exists_eq_add_one_of_ne_zero (Nat.ne_zero_of_lt hq)
      rw [keys_cons, keys_nil, List.replicate_succ, List.compareLex_cons_cons, ← keys_nil,
        ih (Nat.zero_le places) (Nat.le_of_succ_le_succ hq)]
  | case3 p ps ih =>
      obtain ⟨places, rfl⟩ := Nat.exists_eq_add_one_of_ne_zero (Nat.ne_zero_of_lt hp)
      rw [keys_cons, keys_nil, List.replicate_succ, List.compareLex_cons_cons, ← keys_nil,
        ih (Nat.le_of_succ_le_succ hp) (Nat.zero_le places)]
  | case4 p ps q qs ih =>
      obtain ⟨places, rfl⟩ := Nat.exists_eq_add_one_of_ne_zero (Nat.ne_zero_of_lt hp)
      rw [keys_cons, keys_cons, List.compareLex_cons_cons,
        ih (Nat.le_of_succ_le_succ hp) (Nat.le_of_succ_le_succ hq)]

instance : Std.OrientedCmp compareParts where
  eq_swap {ps qs} := by
    rw [compareParts_eq_lex (Nat.le_max_left ps.length qs.length) (Nat.le_max_right _ _),
      compareParts_eq_lex (Nat.le_max_right ps.length qs.length) (Nat.le_max_left _ _)]
    exact Std.OrientedCmp.eq_swap

instance : Std.TransCmp compareParts where
  isLE_trans {ps qs rs} hpq hqr := by
    have hp : ps.length ≤ max ps.length (max qs.length rs.length) := Nat.le_max_left _ _
    have hrest : max qs.length rs.length ≤ max ps.length (max qs.length rs.length) :=
      Nat.le_max_right _ _
    have hq := Nat.le_trans (Nat.le_max_left _ _) hrest
    have hr := Nat.le_trans (Nat.le_max_right _ _) hrest
    rw [compareParts_eq_lex hp hq] at hpq
    rw [compareParts_eq_lex hq hr] at hqr
    rw [compareParts_eq_lex hp hr]
    exact Std.TransCmp.isLE_trans hpq hqr

/-- A component `0` more counts as nothing. -/
theorem compareParts_append_zero (parts : List String) :
    compareParts (parts ++ [zeroPart]) parts = .eq := by
  have hkeys : keys (parts.length + 1) (parts ++ [zeroPart]) = keys (parts.length + 1) parts := by
    simp [keys]
  have hlen : (parts ++ [zeroPart]).length ≤ parts.length + 1 := Nat.le_of_eq List.length_append
  rw [compareParts_eq_lex hlen (Nat.le_succ _), hkeys]
  exact Std.ReflCmp.compare_self

/-! ### Versions -/

instance : Std.OrientedCmp compare where
  eq_swap {v w} := by
    show compareParts v.parts w.parts = (compareParts w.parts v.parts).swap
    exact Std.OrientedCmp.eq_swap

instance : Std.TransCmp compare where
  isLE_trans {u v w} huv hvw := by
    show (compareParts u.parts w.parts).isLE = true
    exact Std.TransCmp.isLE_trans (b := v.parts) huv hvw

theorem beq_iff {v w : Version} : (v == w) = true ↔ v.compare w = .eq := by
  show (v.compare w).isEq = true ↔ _
  cases v.compare w <;> decide

instance : EquivBEq Version where
  rfl := beq_iff.mpr Std.ReflCmp.compare_self
  symm h := beq_iff.mpr (Std.OrientedCmp.eq_symm (beq_iff.mp h))
  trans huv hvw := beq_iff.mpr (Std.TransCmp.eq_trans (beq_iff.mp huv) (beq_iff.mp hvw))

/-! ### The literal -/

/-- The components as they are written. -/
def writtenParts : List String → List String
  | [only] => [only, zeroPart]
  | parts => parts

theorem leadsWithDigit_writtenParts {parts : List String} (h : leadsWithDigit parts = true) :
    leadsWithDigit (writtenParts parts) = true := by
  unfold writtenParts
  split
  · exact h
  · exact h

theorem all_isPart_writtenParts {parts : List String} (h : parts.all isPart = true) :
    (writtenParts parts).all isPart = true := by
  unfold writtenParts
  split
  · next only =>
    rw [List.all_cons, Bool.and_eq_true_iff] at h
    rw [List.all_cons, h.1]
    decide
  · exact h

/-- The version as it is written. -/
def written (v : Version) : Version :=
  ⟨writtenParts v.parts, leadsWithDigit_writtenParts v.leading,
    all_isPart_writtenParts v.wellFormed⟩

theorem written_beq (v : Version) : (v.written == v) = true := by
  show (compareParts (writtenParts v.parts) v.parts).isEq = true
  rw [writtenParts.eq_def]
  split
  · next only honly =>
    have hzero : compareParts [only, zeroPart] [only] = .eq := compareParts_append_zero [only]
    rw [honly, hzero]
    rfl
  · exact beq_iff.mpr Std.ReflCmp.compare_self

theorem chars_eq (v : Version) :
    v.chars = ['.'].intercalate ((writtenParts v.parts).map String.toList) := by
  rw [chars]
  match v.parts with
  | [] => rfl
  | [only] =>
      simp only [writtenParts, List.map_cons, List.map_nil, List.intercalate_cons_cons,
        List.intercalate_singleton, List.append_assoc, List.singleton_append]
  | _ :: _ :: _ => rfl

/-- A literal opens with a digit and has a dot. -/
theorem chars_cons (v : Version) :
    ∃ c t rest, v.chars = c :: (t ++ '.' :: rest) ∧ c.isDigit = true := by
  have hfirst : ∀ p ps, leadsWithDigit (p :: ps) = true →
      ∃ c t, p.toList = c :: t ∧ c.isDigit = true := by
    intro p ps h
    rw [leadsWithDigit] at h
    cases hp : p.toList with
    | nil => simp [hp] at h
    | cons c t =>
        rw [hp] at h
        exact ⟨c, t, rfl, h⟩
  have hlead := v.leading
  rw [chars]
  match v.parts, hlead with
  | [only], hlead =>
      obtain ⟨c, t, hc, hdigit⟩ := hfirst only [] hlead
      refine ⟨c, t, zeroPart.toList, ?_, hdigit⟩
      simp only [hc, List.cons_append]
  | p :: q :: parts, hlead =>
      obtain ⟨c, t, hc, hdigit⟩ := hfirst p (q :: parts) hlead
      refine ⟨c, t, ['.'].intercalate ((q :: parts).map String.toList), ?_, hdigit⟩
      simp only [List.map_cons, List.intercalate_cons_cons, hc, List.append_assoc,
        List.cons_append, List.nil_append]

theorem isPartChar_of_isPart {part : String} (h : isPart part = true) {c : Char}
    (hc : c ∈ part.toList) : isPartChar c = true :=
  List.all_eq_true.mp (Bool.and_eq_true_iff.mp h).2 c hc

private theorem dot_not_mem_part {part : String} (h : isPart part = true) : '.' ∉ part.toList :=
  fun hc => absurd (isPartChar_of_isPart h hc) (by decide)

theorem parts_ne_nil (v : Version) : v.parts ≠ [] := by
  intro h
  have hlead := v.leading
  rw [h] at hlead
  exact absurd hlead Bool.false_ne_true

/-- A text is read as the components that it joins. -/
theorem parse_eq_ok {text : String} {v : Version} :
    parse text = .ok v ↔ text = ".".intercalate v.parts := by
  constructor
  · intro h
    simp only [parse] at h
    split at h
    · rw [← Except.ok.inj h, ← String.toList_inj, String.toList_intercalate, List.map_map]
      show _ = ['.'].intercalate ((text.toList.splitOn '.').map fun p => (String.ofList p).toList)
      simp only [String.toList_ofList, List.map_id']
      exact (List.intercalate_splitOn '.').symm
    · cases h
  · rintro rfl
    have hdots : ∀ p ∈ v.parts.map String.toList, '.' ∉ p := by
      intro p hp
      obtain ⟨part, hpart, rfl⟩ := List.mem_map.mp hp
      exact dot_not_mem_part (List.all_eq_true.mp v.wellFormed part hpart)
    have hsplit : ((".".intercalate v.parts).toList.splitOn '.').map String.ofList = v.parts := by
      rw [String.toList_intercalate]
      show ((['.'].intercalate (v.parts.map String.toList)).splitOn '.').map String.ofList = _
      rw [List.splitOn_intercalate '.' hdots (mt List.map_eq_nil_iff.mp v.parts_ne_nil),
        List.map_map]
      exact List.map_id'' (fun p => String.ofList_toList) _
    simp only [parse, hsplit]
    exact dif_pos ⟨v.leading, v.wellFormed⟩

/-- A version is read back as it is written. -/
theorem parse_chars (v : Version) : parse (String.ofList v.chars) = .ok v.written := by
  rw [parse_eq_ok, ← String.toList_inj, String.toList_ofList, String.toList_intercalate, chars_eq]
  rfl

end Criteria.Version
