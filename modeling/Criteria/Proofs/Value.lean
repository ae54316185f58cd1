/-
Values are read back from their literals.

A literal is read by its first character, and one that opens like a number is then told by
its shape.  So the text that is written for a value must have the shape of its kind and of
no other: a quantity has no dot and no hyphen but its sign, a version has a dot and no
colon, a timestamp opens with a year.  The values that cannot be written are lists, the
timestamps whose year needs a sign or that lie in a leap second, and the patterns that a
slash would end too early.
-/
import Criteria.Proofs.Literal
import Criteria.Proofs.Pattern
import Criteria.Proofs.Quantity
import Criteria.Proofs.Timestamp
import Criteria.Proofs.Version

namespace Criteria

open Criteria.Text Criteria.Source

/-! ### Which values can be written -/

/-- Whether a timestamp has a literal: outside a leap second, a year of four digits. -/
def Timestamp.Writable (t : Timestamp) : Prop :=
  t.milli < 1000 ∧ 0 ≤ t.date.year ∧ t.date.year ≤ 9999

/-- Whether a value has a literal. -/
def Value.Writable : Value → Prop
  | .timestamp t => t.Writable
  | .pattern p => Pattern.EvenlyEscaped p.source.toList
  | .list _ => False
  | _ => True

/-- The value that a literal says: a version of one component has another one added. -/
def Value.written : Value → Value
  | .version v => .version v.written
  | v => v

theorem Value.written_beq (v : Value) : (v.written == v) = true := by
  cases v with
  | version v => exact v.written_beq
  | quantity q => exact beq_self_eq_true q
  | text s => exact beq_self_eq_true s
  | timestamp t => exact beq_self_eq_true t
  | category c => exact beq_self_eq_true c
  | pattern p => exact beq_self_eq_true p
  | list items => exact beq_self_eq_true items

theorem Value.kind_written (v : Value) : v.written.kind = v.kind := by cases v <;> rfl

/-! ### Texts, patterns and categories -/

theorem Source.quoted?_escapeQuotes (s rest : List Char) :
    quoted? (Value.escapeQuotes s ++ '"' :: rest) = some (s, rest) := by
  induction s with
  | nil => exact delimited?_closer rest
  | cons c s ih =>
      rw [Value.escapeQuotes]
      split
      · next hc =>
        have hescapable : (c == '"' || c == '\\') = true := by
          rcases hc with rfl | rfl <;> decide
        rw [quoted?, List.cons_append, List.cons_append,
          delimited?_escaped (by decide) ih, if_pos hescapable]
      · next hc =>
        rw [not_or] at hc
        exact delimited?_plain hc.1 hc.2 ih

theorem isLiteral_of_text (s : String) :
    IsLiteral (Value.text s).chars (.text s) := by
  apply isLiteral_iff.mpr
  have hread := quoted?_escapeQuotes s.toList []
  show literal ('"' :: (Value.escapeQuotes s.toList ++ ['"'])) = _
  rw [literal.eq_2, hread]
  simp only [String.ofList_toList]

theorem Source.slashed?_escapeSlashes {s : List Char} (h : Pattern.isEvenlyEscaped s = true)
    (rest : List Char) :
    slashed? (Pattern.escapeSlashes s ++ '/' :: rest) = some (s, rest) := by
  fun_induction Pattern.isEvenlyEscaped s with
  | case1 d s ih =>
      obtain ⟨hd, hs⟩ := Bool.and_eq_true_iff.mp h
      have hd' : d ≠ '/' := bne_iff_ne.mp hd
      have hescapable : ¬ (d == '/') = true := by simpa using hd'
      rw [Pattern.escapeSlashes, if_neg (by decide), Pattern.escapeSlashes, if_neg hd', slashed?,
        List.cons_append, List.cons_append, delimited?_escaped (by decide) (ih hs),
        if_neg hescapable]
  | case2 => exact absurd h Bool.false_ne_true
  | case3 c s hpair hlast ih =>
      have hc : c ≠ '\\' := by
        rintro rfl
        cases s with
        | nil => exact hlast rfl rfl
        | cons d s => exact hpair d s rfl rfl
      rw [Pattern.escapeSlashes]
      split
      · next hslash =>
        subst hslash
        rw [slashed?, List.cons_append, List.cons_append,
          delimited?_escaped (by decide) (ih h), if_pos (by decide)]
      · next hslash => exact delimited?_plain hslash hc (ih h)
  | case4 => exact delimited?_closer rest

/-- The source of a pattern literal can be written again. -/
theorem Source.isEvenlyEscaped_of_slashed? {s source left : List Char}
    (h : slashed? s = some (source, left)) : Pattern.isEvenlyEscaped source = true := by
  rw [slashed?] at h
  fun_induction delimited? '/' (fun c => c == '/') s generalizing source left with
  | case1 => simp at h
  | case2 s =>
      obtain ⟨rfl, -⟩ := Prod.mk.inj (Option.some.inj h)
      rfl
  | case3 => simp at h
  | case4 d s hne ih =>
      obtain ⟨⟨inner, left'⟩, hinner, heq⟩ := Option.map_eq_some_iff.mp h
      obtain ⟨rfl, -⟩ := Prod.mk.inj heq
      have heven := ih hinner
      split
      · next hd =>
        rw [beq_iff_eq.mp hd, Pattern.isEvenlyEscaped.eq_3]
        · exact heven
        · simp
        · simp
      · next hd =>
        rw [Pattern.isEvenlyEscaped, heven]
        simpa using hd
  | case5 c s hne hback ih =>
      obtain ⟨⟨inner, left'⟩, hinner, heq⟩ := Option.map_eq_some_iff.mp h
      obtain ⟨rfl, -⟩ := Prod.mk.inj heq
      rw [Pattern.isEvenlyEscaped.eq_3]
      · exact ih hinner
      · simp [hback]
      · simp [hback]

theorem isLiteral_of_pattern {p : Pattern} (h : Pattern.EvenlyEscaped p.source.toList) :
    IsLiteral (Value.pattern p).chars (.pattern p) := by
  apply isLiteral_iff.mpr
  have hread := slashed?_escapeSlashes (Pattern.evenlyEscaped_iff.mp h)
    (if p.caseless then ['i'] else [])
  have hflag : caseFlag (if p.caseless then ['i'] else []) = (p.caseless, []) := by
    cases p.caseless <;> rfl
  show literal ('/' :: (Pattern.escapeSlashes p.source.toList ++
    '/' :: (if p.caseless then ['i'] else []))) = _
  rw [literal.eq_3, hread]
  simp only [hflag, String.ofList_toList, Pattern.ofSource_source]
  rfl

theorem isLiteral_of_category (c : Category) :
    IsLiteral (Value.category c).chars (.category c) := by
  apply isLiteral_word
  · cases c <;> decide
  · show (Category.parse (String.ofList c.name.toList)).map Value.category = _
    rw [String.ofList_toList, Category.parse_name]
    rfl

/-! ### How a token is classified -/

private theorem Source.hyphen_mem_of_opensWithYear {cs : List Char} (h : opensWithYear cs = true) :
    '-' ∈ cs := by
  rw [opensWithYear.eq_def] at h
  split at h
  · simp
  · exact absurd h Bool.false_ne_true

/-- A hyphen at the head, or none and no dot: a quantity. -/
theorem Source.classify_of_quantity {cs : List Char} {q : Quantity}
    (hparse : Quantity.parse (String.ofList cs) = .ok q)
    (hshape : cs.head? = some '-' ∨ ('-' ∉ cs ∧ '.' ∉ cs)) :
    classify (String.ofList cs) = .ok (.quantity q) := by
  simp only [classify, String.toList_ofList, hparse]
  by_cases hhead : cs.head? = some '-'
  · rw [if_pos hhead]
    rfl
  · obtain ⟨hhyphen, hdot⟩ := hshape.resolve_left hhead
    have hyear : ¬ opensWithYear cs = true := fun h => hhyphen (hyphen_mem_of_opensWithYear h)
    have hcontains : ¬ cs.contains '.' = true := fun h => hdot (List.contains_iff_mem.mp h)
    rw [if_neg hhead, if_neg hyear, if_neg hcontains]
    rfl

/-- A dot, no hyphen at the head and no colon: a version. -/
theorem Source.classify_of_version {cs : List Char} {v : Version}
    (hparse : Version.parse (String.ofList cs) = .ok v) (hhead : cs.head? ≠ some '-')
    (hdot : '.' ∈ cs) (hcolon : ':' ∉ cs) :
    classify (String.ofList cs) = .ok (.version v) := by
  have hcontains : cs.contains '.' = true := List.contains_iff_mem.mpr hdot
  simp only [classify, String.toList_ofList, hparse, if_neg hhead, if_pos hcontains]
  split
  · cases htime : Timestamp.parse (String.ofList cs) with
    | ok t =>
        rcases Timestamp.colon_mem_or_isDateChar htime with h | h
        · rw [String.toList_ofList] at h
          exact absurd h hcolon
        · rw [String.toList_ofList] at h
          exact absurd (h '.' hdot) (by decide)
    | error e => rfl
  · rfl

/-- A year and a hyphen at the head: a timestamp. -/
theorem Source.classify_of_timestamp {cs : List Char} {t : Timestamp}
    (hparse : Timestamp.parse (String.ofList cs) = .ok t) (hyear : opensWithYear cs = true) :
    classify (String.ofList cs) = .ok (.timestamp t) := by
  have hhead : ¬ cs.head? = some '-' := by
    intro h
    rw [opensWithYear.eq_def] at hyear
    split at hyear
    · obtain rfl := Option.some.inj h
      exact absurd hyear (by simp)
    · exact absurd hyear Bool.false_ne_true
  simp only [classify, String.toList_ofList, hparse, if_neg hhead, if_pos hyear]

/-! ### Quantities, versions and timestamps -/

private theorem isNumericChar_of_isDigit {c : Char} (h : c.isDigit = true) :
    isNumericChar c = true :=
  isNumericChar_of_isAlphanum (isAlphanum_of_isDigit h)

/-- Behind its sign a quantity is digits and letters. -/
theorem Quantity.isAlphanum_of_mem_unsigned {q : Quantity} {c : Char}
    (hc : c ∈ natChars q.magnitude.natAbs ++ q.suffixChars) : c.isAlphanum = true := by
  rcases List.mem_append.mp hc with hc | hc
  · exact isAlphanum_of_isDigit (isDigit_of_mem_natChars hc)
  · exact isAlphanum_of_isAlpha (Quantity.isAlpha_of_mem_suffixChars hc)

theorem isLiteral_of_quantity (q : Quantity) :
    IsLiteral (Value.quantity q).chars (.quantity q) := by
  have hunsigned : ∀ c ∈ natChars q.magnitude.natAbs ++ q.suffixChars,
      isNumericChar c = true :=
    fun c hc => isNumericChar_of_isAlphanum (Quantity.isAlphanum_of_mem_unsigned hc)
  have hparse := q.parse_chars
  show IsLiteral q.chars _
  rw [Quantity.chars_eq] at hparse ⊢
  rcases intChars_eq q.magnitude with ⟨-, htext⟩ | ⟨-, htext⟩
  · rw [htext, List.cons_append] at hparse ⊢
    have hclass := classify_of_quantity hparse (Or.inl rfl)
    exact isLiteral_number (by decide) (List.forall_mem_cons.mpr ⟨by decide, hunsigned⟩) hclass
  · rw [htext] at hparse ⊢
    have habsent : ∀ c, c.isAlphanum = false →
        c ∉ natChars q.magnitude.natAbs ++ q.suffixChars := by
      intro c hc hmem
      rw [Quantity.isAlphanum_of_mem_unsigned hmem] at hc
      exact absurd hc.symm Bool.false_ne_true
    have hclass := classify_of_quantity hparse
      (Or.inr ⟨habsent '-' (by decide), habsent '.' (by decide)⟩)
    obtain ⟨d, rest, hopen, hd⟩ := natChars_cons q.magnitude.natAbs
    rw [hopen] at hunsigned hclass ⊢
    exact isLiteral_number (by rw [hd]; rfl) hunsigned hclass

private theorem Version.mem_chars {v : Version} {c : Char} (hc : c ∈ v.chars) :
    c = '.' ∨ isPartChar c = true := by
  rw [Version.chars_eq] at hc
  rcases eq_or_mem_of_mem_intercalate hc with rfl | ⟨p, hp, hmem⟩
  · exact Or.inl rfl
  · obtain ⟨part, hpart, rfl⟩ := List.mem_map.mp hp
    exact Or.inr
      (isPartChar_of_isPart (List.all_eq_true.mp v.written.wellFormed part hpart) hmem)

theorem isLiteral_of_version (v : Version) :
    IsLiteral (Value.version v).chars (.version v.written) := by
  have hnumeric : ∀ c ∈ v.chars, isNumericChar c = true := by
    intro c hc
    rcases Version.mem_chars hc with rfl | h
    · decide
    · simp only [Version.isPartChar, isNumericChar, Bool.or_eq_true] at h ⊢
      rcases h with (h | h) | h
      · simp only [h, true_or]
      · simp only [h, or_true, true_or]
      · simp only [h, or_true]
  have hcolon : ':' ∉ v.chars := by
    intro h
    rcases Version.mem_chars h with h | h
    · exact absurd h (by decide)
    · exact absurd h (by decide)
  obtain ⟨c, first, rest, hopen, hc⟩ := v.chars_cons
  have hdot : '.' ∈ v.chars := by simp [hopen]
  have hhead : v.chars.head? ≠ some '-' := by
    rw [hopen]
    rintro h
    obtain rfl := Option.some.inj h
    exact absurd hc (by decide)
  have hclass := classify_of_version v.parse_chars hhead hdot hcolon
  show IsLiteral v.chars _
  rw [hopen] at hnumeric hclass ⊢
  exact isLiteral_number (by rw [hc]; rfl) hnumeric hclass

theorem Timestamp.isNumericChar_of_mem_chars (t : Timestamp) :
    ∀ c ∈ t.chars, isNumericChar c = true := by
  have hpadded : ∀ width n, (paddedChars width n).all isNumericChar = true := fun width n =>
    List.all_eq_true.mpr fun c hc => isNumericChar_of_isDigit (isDigit_of_mem_paddedChars hc)
  have hyear : (yearChars t.date.year).all isNumericChar = true := by
    rw [yearChars]
    split
    · exact hpadded _ _
    · split
      · rw [List.all_cons, hpadded]
        rfl
      · rw [List.all_cons, hpadded]
        rfl
  have hmilli : (milliChars t.milli).all isNumericChar = true := by
    rw [milliChars]
    split
    · decide
    · rw [List.all_cons, hpadded]
      rfl
  rw [← List.all_eq_true, chars_eq]
  simp only [dateChars, clockChars, List.all_append, List.all_cons, hyear, hpadded, hmilli]
  decide

theorem opensWithYear_append {digits : List Char} (hlen : digits.length = 4)
    (hdigits : ∀ c ∈ digits, c.isDigit = true) (rest : List Char) :
    opensWithYear (digits ++ '-' :: rest) = true := by
  match digits, hlen with
  | [a, b, c, d], _ => simp [opensWithYear, hdigits]

private theorem Timestamp.opensWithYear_chars {t : Timestamp} (h : t.Writable) :
    opensWithYear t.chars = true := by
  have hfits : t.date.year.toNat < 10 ^ 4 := by
    have := h.2
    omega
  have hlen : (paddedChars 4 t.date.year.toNat).length = 4 :=
    length_paddedChars (by decide) hfits
  have hdigits : ∀ c ∈ paddedChars 4 t.date.year.toNat, c.isDigit = true :=
    fun c hc => isDigit_of_mem_paddedChars hc
  rw [chars_eq, dateChars, yearChars, if_pos h.2]
  simp only [List.append_assoc, List.cons_append]
  exact opensWithYear_append hlen hdigits _

theorem isLiteral_of_timestamp {t : Timestamp} (h : t.Writable) :
    IsLiteral (Value.timestamp t).chars (.timestamp t) := by
  have hnumeric := t.isNumericChar_of_mem_chars
  have hyear := Timestamp.opensWithYear_chars h
  have hclass := classify_of_timestamp (Timestamp.parse_chars h.1) hyear
  have hopen : ∃ c rest, t.chars = c :: rest ∧ c.isDigit = true := by
    rw [opensWithYear.eq_def] at hyear
    split at hyear
    · next c _ _ _ rest hchars =>
      simp only [Bool.and_eq_true] at hyear
      exact ⟨c, _, hchars, hyear.1.1.1⟩
    · exact absurd hyear Bool.false_ne_true
  obtain ⟨c, rest, hopen, hc⟩ := hopen
  show IsLiteral t.chars _
  rw [hopen] at hnumeric hclass ⊢
  exact isLiteral_number (by rw [hc]; rfl) hnumeric hclass

/-- A year with a sign keeps a timestamp from being read: after a plus no literal is, and
after a minus a number is, which another hyphen ends. -/
theorem literal_timestamp_of_sign {t : Timestamp}
    (hyear : ¬ (0 ≤ t.date.year ∧ t.date.year ≤ 9999)) (v : Value) (rest : List Char) :
    literal t.chars ≠ .ok (v, rest) := by
  have hnumeric := t.isNumericChar_of_mem_chars
  obtain ⟨sign, hsign, more, hchars⟩ : ∃ sign, (sign = '-' ∨ sign = '+') ∧ ∃ more,
      t.chars = sign :: (paddedChars 4 t.date.year.natAbs ++ '-' :: more) := by
    rw [Timestamp.chars_eq, Timestamp.dateChars, Timestamp.yearChars, if_neg hyear]
    refine ⟨if t.date.year < 0 then '-' else '+', ?_, ?_⟩
    · split
      · exact Or.inl rfl
      · exact Or.inr rfl
    · simp only [List.append_assoc, List.cons_append]
      exact ⟨_, rfl⟩
  rw [hchars] at hnumeric ⊢
  intro hread
  rcases hsign with rfl | rfl
  · have htoken := literal_numeric (by decide) hnumeric (stops_nil _)
    rw [List.append_nil] at htoken
    rw [htoken] at hread
    have hclass := (located_eq_ok.mp hread).1
    have hdigits : ∀ c ∈ paddedChars 4 t.date.year.natAbs, c.isDigit = true :=
      fun c hc => isDigit_of_mem_paddedChars hc
    have hstop : Stops Char.isDigit ('-' :: more) := stops_cons.mpr (by decide)
    have hhyphen : ('-' :: more).all Char.isAlpha = false := by
      rw [List.all_cons]
      rfl
    simp only [classify, String.toList_ofList, List.head?_cons, if_true, Quantity.parse,
      Quantity.splitSign, takeWhile_append_of_stops hdigits hstop,
      dropWhile_append_of_stops hdigits hstop, hhyphen, Bool.not_false, Bool.or_true] at hclass
    exact absurd hclass (by simp [Except.map])
  · rw [literal_cons (by decide) (by decide), if_neg (by decide),
      segment?_eq_none (stops_cons.mpr (by decide))] at hread
    simp at hread

/-! ### All values -/

/-- The literal of a value that can be written says that value. -/
theorem Value.Writable.isLiteral {v : Value} (h : v.Writable) : IsLiteral v.chars v.written := by
  cases v with
  | quantity q => exact isLiteral_of_quantity q
  | text s => exact isLiteral_of_text s
  | version v => exact isLiteral_of_version v
  | timestamp t => exact isLiteral_of_timestamp h
  | category c => exact isLiteral_of_category c
  | pattern p => exact isLiteral_of_pattern h
  | list items => exact absurd h id

end Criteria
