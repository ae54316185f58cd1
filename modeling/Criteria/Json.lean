/-
JSON texts.

A text is read to a value in which strings and numbers are kept as they are written:
what is between the quotes is checked when the text is read, and decoded when it is
asked for.  A string whose escapes do not make whole characters is still a string,
but it has no decoding.
-/
namespace Criteria

/-- A JSON value, strings and numbers being kept as written. -/
inductive Json where
  | null
  | bool (b : Bool)
  | number (written : List Char)
  | string (written : List Char)
  | array (items : List Json)
  | object (members : List (List Char × Json))

namespace Json

/-! ### Small parts -/

def isBlank (c : Char) : Bool := c == ' ' || c == '\t' || c == '\n' || c == '\r'

def skipBlanks (s : List Char) : List Char := s.dropWhile isBlank

/-- The value of a digit in base sixteen. -/
def hexDigit? (c : Char) : Option Nat :=
  if '0' ≤ c ∧ c ≤ '9' then some (c.toNat - '0'.toNat)
  else if 'a' ≤ c ∧ c ≤ 'f' then some (c.toNat - 'a'.toNat + 10)
  else if 'A' ≤ c ∧ c ≤ 'F' then some (c.toNat - 'A'.toNat + 10)
  else none

/-- The number of four digits in base sixteen. -/
def fourHex? (a b c d : Char) : Option Nat := do
  return 4096 * (← hexDigit? a) + 256 * (← hexDigit? b) + 16 * (← hexDigit? c) +
    (← hexDigit? d)

/-- The character that a letter stands for after a backslash. -/
def shortEscape? : Char → Option Char
  | '"' => some '"'
  | '\\' => some '\\'
  | '/' => some '/'
  | 'b' => some '\x08'
  | 'f' => some '\x0c'
  | 'n' => some '\n'
  | 'r' => some '\r'
  | 't' => some '\t'
  | _ => none

/-! ### Strings -/

/-- Takes a string off a text, the opening quote being gone, and leaves it as it is
written.  Control characters must be escaped. -/
def takeString : List Char → Option (List Char × List Char)
  | [] => none
  | '"' :: rest => some ([], rest)
  | '\\' :: 'u' :: a :: b :: c :: d :: rest =>
    if (fourHex? a b c d).isSome then
      (takeString rest).map fun (w, left) => ('\\' :: 'u' :: a :: b :: c :: d :: w, left)
    else none
  | '\\' :: c :: rest =>
    if (shortEscape? c).isSome then
      (takeString rest).map fun (w, left) => ('\\' :: c :: w, left)
    else none
  | c :: rest =>
    if c.toNat < 0x20 || c == '\\' then none
    else (takeString rest).map fun (w, left) => (c :: w, left)

/-- The text that a string stands for, if its escapes are whole characters: a high
half of a pair is followed by a low one, and no low half stands alone. -/
def decode : List Char → Option (List Char)
  | [] => some []
  | '\\' :: 'u' :: a :: b :: c :: d :: rest =>
    match fourHex? a b c d with
    | none => none
    | some n =>
      if 0xD800 ≤ n ∧ n ≤ 0xDBFF then
        match rest with
        | '\\' :: 'u' :: a :: b :: c :: d :: rest =>
          match fourHex? a b c d with
          | none => none
          | some m =>
            if 0xDC00 ≤ m ∧ m ≤ 0xDFFF then
              (decode rest).map
                (Char.ofNat (0x10000 + (n - 0xD800) * 0x400 + (m - 0xDC00)) :: ·)
            else none
        | _ => none
      else if 0xDC00 ≤ n ∧ n ≤ 0xDFFF then none
      else (decode rest).map (Char.ofNat n :: ·)
  | '\\' :: c :: rest =>
    match shortEscape? c with
    | none => none
    | some e => (decode rest).map (e :: ·)
  | c :: rest => (decode rest).map (c :: ·)

/-- The digit of a number below sixteen. -/
def hexChar (n : Nat) : Char := Nat.digitChar n

/-- A character as it is written in a string.  Only quotes, backslashes and control
characters are escaped. -/
def encodeChar (c : Char) : List Char :=
  if c = '"' then ['\\', '"']
  else if c = '\\' then ['\\', '\\']
  else if c = '\x08' then ['\\', 'b']
  else if c = '\x0c' then ['\\', 'f']
  else if c = '\n' then ['\\', 'n']
  else if c = '\r' then ['\\', 'r']
  else if c = '\t' then ['\\', 't']
  else if c.toNat < 0x20 then
    ['\\', 'u', '0', '0', hexChar (c.toNat / 16), hexChar (c.toNat % 16)]
  else [c]

/-- A text as a JSON string, quotes included. -/
def quote (text : List Char) : List Char := '"' :: text.flatMap encodeChar ++ ['"']

/-! ### What is quoted is read back -/

private theorem hexDigit?_hexChar : ∀ n, n < 16 → hexDigit? (hexChar n) = some n := by decide

/-- What is written for a control character names it. -/
theorem fourHex?_hexChar {n : Nat} (h : n < 0x20) :
    fourHex? '0' '0' (hexChar (n / 16)) (hexChar (n % 16)) = some n := by
  have high := hexDigit?_hexChar (n / 16) (by omega)
  have low := hexDigit?_hexChar (n % 16) (by omega)
  simp only [fourHex?, high, low]
  simp [hexDigit?]
  omega

theorem decode_encodeChar (c : Char) (rest : List Char) :
    decode (encodeChar c ++ rest) = (decode rest).map (c :: ·) := by
  unfold encodeChar
  iterate 7
    split
    · subst_vars; simp [decode, shortEscape?]
  split
  · next h =>
    simp only [List.cons_append, List.nil_append, decode, fourHex?_hexChar h]
    rw [if_neg (by omega), if_neg (by omega), Char.ofNat_toNat]
  · next _ backslash _ _ _ _ _ _ => simp [decode, backslash]

/-- The characters between the quotes say the text that was quoted. -/
theorem decode_flatMap_encodeChar (text : List Char) :
    decode (text.flatMap encodeChar) = some text := by
  induction text with
  | nil => simp [decode]
  | cons c rest ih => rw [List.flatMap_cons, decode_encodeChar, ih]; rfl

private theorem takeString_encodeChar (c : Char) (rest : List Char) :
    takeString (encodeChar c ++ rest) =
      (takeString rest).map fun (w, left) => (encodeChar c ++ w, left) := by
  unfold encodeChar
  iterate 7
    split
    · subst_vars; simp [takeString, shortEscape?]
  split
  · next h => simp [takeString, fourHex?_hexChar h]
  · next _ backslash _ _ _ _ _ printing => simp [takeString, backslash, printing]

/-- A quoted text ends where it was ended. -/
theorem takeString_flatMap_encodeChar (text rest : List Char) :
    takeString (text.flatMap encodeChar ++ '"' :: rest) =
      some (text.flatMap encodeChar, rest) := by
  induction text with
  | nil => simp [takeString]
  | cons c cs ih =>
    rw [List.flatMap_cons, List.append_assoc, takeString_encodeChar, ih]
    rfl

/-! ### Numbers -/

/-- Takes one digit at least. -/
def takeDigits? (s : List Char) : Option (List Char × List Char) :=
  let digits := s.takeWhile Char.isDigit
  if digits.isEmpty then none else some (digits, s.dropWhile Char.isDigit)

/-- Takes a whole number, which has no zeros in front. -/
def takeWhole? : List Char → Option (List Char × List Char)
  | '0' :: c :: rest => if c.isDigit then none else some (['0'], c :: rest)
  | s => takeDigits? s

/-- Takes the fraction of a number, which may be missing. -/
def takeFraction? : List Char → Option (List Char × List Char)
  | '.' :: rest => (takeDigits? rest).map fun (ds, left) => ('.' :: ds, left)
  | s => some ([], s)

/-- Takes the exponent of a number, which may be missing. -/
def takeExponent? : List Char → Option (List Char × List Char)
  | c :: rest =>
    if c = 'e' ∨ c = 'E' then
      match rest with
      | '+' :: rest => (takeDigits? rest).map fun (ds, left) => (c :: '+' :: ds, left)
      | '-' :: rest => (takeDigits? rest).map fun (ds, left) => (c :: '-' :: ds, left)
      | rest => (takeDigits? rest).map fun (ds, left) => (c :: ds, left)
    else some ([], c :: rest)
  | [] => some ([], [])

/-- Takes a number. -/
def takeNumber? (s : List Char) : Option (List Char × List Char) := do
  let (sign, s) :=
    match s with
    | '-' :: rest => (['-'], rest)
    | s => ([], s)
  let (whole, s) ← takeWhole? s
  let (fraction, s) ← takeFraction? s
  let (exponent, s) ← takeExponent? s
  return (sign ++ whole ++ fraction ++ exponent, s)

/-! ### Values -/

/-- Takes a word off a text. -/
def takeWord? (word : List Char) (s : List Char) : Option (List Char) :=
  if word.isPrefixOf s then some (s.drop word.length) else none

mutual

/-- Takes a value off a text.  Each step takes a character at least, so that twice as
many steps are enough as there are characters. -/
def takeValue : Nat → List Char → Option (Json × List Char)
  | 0, _ => none
  | fuel + 1, s =>
    match skipBlanks s with
    | [] => none
    | '"' :: rest => (takeString rest).map fun (w, left) => (.string w, left)
    | '[' :: rest =>
      match skipBlanks rest with
      | ']' :: left => some (.array [], left)
      | rest => (takeItems fuel rest).map fun (items, left) => (.array items, left)
    | '{' :: rest =>
      match skipBlanks rest with
      | '}' :: left => some (.object [], left)
      | rest => (takeMembers fuel rest).map fun (members, left) => (.object members, left)
    | 'n' :: rest => (takeWord? "ull".toList rest).map fun left => (.null, left)
    | 't' :: rest => (takeWord? "rue".toList rest).map fun left => (.bool true, left)
    | 'f' :: rest => (takeWord? "alse".toList rest).map fun left => (.bool false, left)
    | s => (takeNumber? s).map fun (w, left) => (.number w, left)

/-- Takes the items of an array and the bracket after them. -/
def takeItems : Nat → List Char → Option (List Json × List Char)
  | 0, _ => none
  | fuel + 1, s =>
    match takeValue fuel s with
    | none => none
    | some (item, rest) =>
      match skipBlanks rest with
      | ',' :: rest => (takeItems fuel rest).map fun (items, left) => (item :: items, left)
      | ']' :: left => some ([item], left)
      | _ => none

/-- Takes the members of an object and the brace after them. -/
def takeMembers : Nat → List Char → Option (List (List Char × Json) × List Char)
  | 0, _ => none
  | fuel + 1, s =>
    match skipBlanks s with
    | '"' :: rest =>
      match takeString rest with
      | none => none
      | some (name, rest) =>
        match skipBlanks rest with
        | ':' :: rest =>
          match takeValue fuel rest with
          | none => none
          | some (value, rest) =>
            match skipBlanks rest with
            | ',' :: rest =>
              (takeMembers fuel rest).map fun (members, left) =>
                ((name, value) :: members, left)
            | '}' :: left => some ([(name, value)], left)
            | _ => none
        | _ => none
    | _ => none

end

/-- The value of a whole text. -/
def read (text : String) : Option Json :=
  let s := text.toList
  match takeValue (2 * s.length + 1) s with
  | some (v, rest) => if (skipBlanks rest).isEmpty then some v else none
  | none => none

end Json

end Criteria
