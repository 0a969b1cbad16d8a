/-!
# JSON documents

The values of a JSON document and the reader that recovers them from text.  The
reader keeps what later readers of records have to tell apart: repeated fields,
numbers that are not whole, and texts with half of a surrogate pair, which stand
for no text.  Every part of it returns what it left unread as a `Rest`, a list that
is shorter than the one it was given, and this is what reading arrays and objects
ends by.

Main definitions:

- `Document`: a JSON value.
- `Document.Rest`: what is left of a text once something was read from it.
- `Document.parse?`: the value written in a text.
-/

namespace GrammarTree

/-- A JSON value. -/
inductive Document where
  | null
  | bool (value : Bool)
  /-- A number; only whole numbers have a value. -/
  | number (value : Option Int)
  /-- A text, if its escapes stand for one. -/
  | text (value : Option String)
  | array (items : List Document)
  | object (fields : List (Option String × Document))

namespace Document

/-- A whole number. -/
def ofInt (value : Int) : Document :=
  number (some value)

/-- A text. -/
def ofString (value : String) : Document :=
  text (some value)

/-- An object with fields of different names. -/
def ofFields (fields : List (String × Document)) : Document :=
  object (fields.map fun (name, value) => (some name, value))

/-! ## What is left to read -/

/-- What is left of a text once something was read from it. -/
abbrev Rest (cs : List Char) : Type :=
  { rest : List Char // rest.length < cs.length }

namespace Rest

variable {cs : List Char}

/-- What is left once more was read from what was left. -/
def later (rest : Rest cs) (last : Rest rest.val) : Rest cs :=
  ⟨last.val, Nat.lt_trans last.property rest.property⟩

/-- What is left without its first characters. -/
def drop (rest : Rest cs) (count : Nat) : Rest cs :=
  ⟨rest.val.drop count, Nat.lt_of_le_of_lt (List.drop_sublist ..).length_le rest.property⟩

/-- What is left behind a word that comes next. -/
def behind? (rest : Rest cs) (word : String) : Option (Rest cs) :=
  if word.toList.isPrefixOf rest.val then some (rest.drop word.length) else none

/-- The same is left of a text that has more in front. -/
def within (rest : Rest cs) (front : List Char) : Rest (front ++ cs) :=
  ⟨rest.val, Nat.lt_of_lt_of_le rest.property (by simp)⟩

end Rest

/-- The characters that can stand between the parts of a document. -/
def isBlank (c : Char) : Bool :=
  c == ' ' || c == '\n' || c == '\t' || c == '\r'

/-- The text behind leading blanks. -/
def skipBlanks (cs : List Char) : List Char :=
  cs.dropWhile isBlank

theorem length_skipBlanks_le (cs : List Char) : (skipBlanks cs).length ≤ cs.length :=
  (List.dropWhile_sublist isBlank).length_le

/-- What is left of a text is left of it with leading blanks. -/
def Rest.beforeBlanks {cs : List Char} (rest : Rest (skipBlanks cs)) : Rest cs :=
  ⟨rest.val, Nat.lt_of_lt_of_le rest.property (length_skipBlanks_le cs)⟩

/-- The first character that is no blank, and what follows it. -/
def nextChar? (cs : List Char) : Option (Char × Rest cs) :=
  match h : skipBlanks cs with
  | c :: rest => some (c, Rest.beforeBlanks ⟨rest, by simp [h]⟩)
  | [] => none

/-! ## Leaves -/

/-- The value of a hexadecimal digit. -/
def hexValue? (c : Char) : Option Nat :=
  if c.isDigit then some (c.toNat - '0'.toNat)
  else if 'a' ≤ c && c ≤ 'f' then some (c.toNat - 'a'.toNat + 10)
  else if 'A' ≤ c && c ≤ 'F' then some (c.toNat - 'A'.toNat + 10)
  else none

/-- The number written in four hexadecimal digits. -/
def hexUnit? (a b c d : Char) : Option Nat :=
  match hexValue? a, hexValue? b, hexValue? c, hexValue? d with
  | some a, some b, some c, some d => some (((a * 16 + b) * 16 + c) * 16 + d)
  | _, _, _, _ => none

/-- The code point of an escaped character. -/
def escapeCode? (c : Char) : Option Nat :=
  if c == '"' || c == '\\' || c == '/' then some c.toNat
  else if c == 'b' then some 0x08
  else if c == 'f' then some 0x0c
  else if c == 'n' then some 0x0a
  else if c == 'r' then some 0x0d
  else if c == 't' then some 0x09
  else none

/-- The codes of a text up to its closing quote, and what follows it.  Escapes may
give halves of surrogate pairs. -/
def readCodes? : (cs : List Char) → Option (List Nat × Rest cs)
  | '"' :: rest => some ([], ⟨rest, Nat.lt_succ_self _⟩)
  | '\\' :: 'u' :: a :: b :: c :: d :: rest =>
    match hexUnit? a b c d with
    | some code =>
      (readCodes? rest).map fun (codes, last) =>
        (code :: codes, last.within ['\\', 'u', a, b, c, d])
    | none => none
  | '\\' :: c :: rest =>
    match escapeCode? c with
    | some code =>
      (readCodes? rest).map fun (codes, last) => (code :: codes, last.within ['\\', c])
    | none => none
  | c :: rest =>
    if c.toNat < 0x20 || c == '\\' then none
    else (readCodes? rest).map fun (codes, last) => (c.toNat :: codes, last.within [c])
  | [] => none

/-- The first half of a surrogate pair. -/
def isHighHalf (code : Nat) : Bool :=
  0xd800 ≤ code && code < 0xdc00

/-- The second half of a surrogate pair. -/
def isLowHalf (code : Nat) : Bool :=
  0xdc00 ≤ code && code < 0xe000

/-- The characters of a list of codes, if halves come in pairs only. -/
def joinCodes? : List Nat → Option (List Char)
  | [] => some []
  | high :: low :: rest =>
    if isHighHalf high then
      if isLowHalf low then
        (joinCodes? rest).map
          (Char.ofNat (0x10000 + (high - 0xd800) * 0x400 + (low - 0xdc00)) :: ·)
      else none
    else if isLowHalf high then none
    else (joinCodes? (low :: rest)).map (Char.ofNat high :: ·)
  | [code] => if isHighHalf code || isLowHalf code then none else some [Char.ofNat code]

/-- Read a text behind its opening quote. -/
def readText? (cs : List Char) : Option (Option String × Rest cs) :=
  (readCodes? cs).map fun (codes, rest) => ((joinCodes? codes).map String.ofList, rest)

/-- The number written in decimal digits. -/
def digitsValue (digits : List Char) : Nat :=
  digits.foldl (fun n c => n * 10 + (c.toNat - '0'.toNat)) 0

/-- What is left behind the digits that come first is shorter, if there are any. -/
theorem length_dropWhile_isDigit_lt {cs : List Char}
    (h : ¬(cs.takeWhile Char.isDigit).isEmpty) :
    (cs.dropWhile Char.isDigit).length < cs.length := by
  have hsum : (cs.takeWhile Char.isDigit).length + (cs.dropWhile Char.isDigit).length =
      cs.length := by
    rw [← List.length_append, List.takeWhile_append_dropWhile]
  have hpos : 0 < (cs.takeWhile Char.isDigit).length :=
    List.length_pos_iff.mpr (by simpa using h)
  omega

/-- Read digits, of which there must be one at least. -/
def readDigits? (cs : List Char) : Option (List Char × Rest cs) :=
  if h : (cs.takeWhile Char.isDigit).isEmpty then none
  else some (cs.takeWhile Char.isDigit,
    ⟨cs.dropWhile Char.isDigit, length_dropWhile_isDigit_lt h⟩)

/-- Read the digits before the point; a leading zero stands alone. -/
def readWhole? (cs : List Char) : Option (Nat × Rest cs) :=
  match readDigits? cs with
  | some (digits, rest) =>
    if digits.head? == some '0' && 1 < digits.length then none
    else some (digitsValue digits, rest)
  | none => none

/-- Read a sign and the digits before the point; the answer tells whether the sign
was there. -/
def readSigned? : (cs : List Char) → Option (Bool × Nat × Rest cs)
  | '-' :: digits => (readWhole? digits).map fun (whole, rest) => (true, whole, rest.within ['-'])
  | cs => (readWhole? cs).map fun (whole, rest) => (false, whole, rest)

/-- Read the digits that come next, and go on behind them. -/
def Rest.behindDigits? {cs : List Char} (rest : Rest cs) : Option (Rest cs) :=
  (readDigits? rest.val).map fun (_, last) => rest.later last

/-- Read what can follow the whole part of a number; the answer tells whether
anything did. -/
def readFraction? {cs : List Char} (rest : Rest cs) : Option (Bool × Rest cs) :=
  match rest.val with
  | '.' :: _ => (rest.drop 1).behindDigits?.map (true, ·)
  | _ => some (false, rest)

/-- Read an exponent; the answer tells whether there was one. -/
def readExponent? {cs : List Char} (rest : Rest cs) : Option (Bool × Rest cs) :=
  match rest.val with
  | c :: signed =>
    if c == 'e' || c == 'E' then
      let digits :=
        match signed with
        | '+' :: _ => rest.drop 2
        | '-' :: _ => rest.drop 2
        | _ => rest.drop 1
      digits.behindDigits?.map (true, ·)
    else some (false, rest)
  | [] => some (false, rest)

/-- Read a number.  A number with a fraction or an exponent is not whole, and
neither is a negative zero. -/
def readNumber? (cs : List Char) : Option (Option Int × Rest cs) :=
  match readSigned? cs with
  | none => none
  | some (negative, whole, rest) =>
    match readFraction? rest with
    | none => none
    | some (hasFraction, rest) =>
      match readExponent? rest with
      | none => none
      | some (hasExponent, rest) =>
        let value : Option Int :=
          if hasFraction || hasExponent then none
          else if negative then if whole = 0 then none else some (-(whole : Int))
          else some (whole : Int)
        some (value, rest)

/-! ## Values -/

mutual

/-- Read a value. -/
def readValue? (cs : List Char) : Option (Document × Rest cs) :=
  match nextChar? cs with
  | some ('n', rest) => (rest.behind? "ull").map (.null, ·)
  | some ('t', rest) => (rest.behind? "rue").map (.bool true, ·)
  | some ('f', rest) => (rest.behind? "alse").map (.bool false, ·)
  | some ('"', rest) =>
    (readText? rest.val).map fun (value, last) => (.text value, rest.later last)
  | some ('[', rest) =>
    match nextChar? rest.val with
    | some (']', last) => some (.array [], rest.later last)
    | _ => (readItems? rest.val).map fun (items, last) => (.array items, rest.later last)
  | some ('\x7b', rest) =>
    match nextChar? rest.val with
    | some ('\x7d', last) => some (.object [], rest.later last)
    | _ => (readFields? rest.val).map fun (fields, last) => (.object fields, rest.later last)
  | _ => (readNumber? (skipBlanks cs)).map fun (value, rest) => (.number value, rest.beforeBlanks)
termination_by (cs.length, 0)
decreasing_by all_goals exact Prod.Lex.left _ _ rest.property

/-- Read the items of an array and its closing bracket. -/
def readItems? (cs : List Char) : Option (List Document × Rest cs) :=
  match readValue? cs with
  | none => none
  | some (item, rest) =>
    match nextChar? rest.val with
    | some (',', next) =>
      let rest := rest.later next
      (readItems? rest.val).map fun (items, last) => (item :: items, rest.later last)
    | some (']', last) => some ([item], rest.later last)
    | _ => none
termination_by (cs.length, 1)
decreasing_by
  · -- the first item is read from the whole text, so only the level goes down
    exact Prod.Lex.right _ Nat.zero_lt_one
  · exact Prod.Lex.left _ _ rest.property

/-- Read the fields of an object and its closing brace. -/
def readFields? (cs : List Char) : Option (List (Option String × Document) × Rest cs) :=
  match nextChar? cs with
  | some ('"', rest) =>
    match readText? rest.val with
    | none => none
    | some (name, last) =>
      let rest := rest.later last
      match nextChar? rest.val with
      | some (':', last) =>
        let rest := rest.later last
        match readValue? rest.val with
        | none => none
        | some (value, last) =>
          let rest := rest.later last
          match nextChar? rest.val with
          | some (',', last) =>
            let rest := rest.later last
            (readFields? rest.val).map fun (fields, last) =>
              ((name, value) :: fields, rest.later last)
          | some ('\x7d', last) => some ([(name, value)], rest.later last)
          | _ => none
      | _ => none
  | _ => none
termination_by (cs.length, 0)
decreasing_by all_goals exact Prod.Lex.left _ _ rest.property

end

/-- The value written in a text.  Blanks may surround it, and nothing else may
follow. -/
def parse? (source : String) : Option Document :=
  match readValue? source.toList with
  | some (value, rest) => if (skipBlanks rest.val).isEmpty then some value else none
  | none => none

end Document

end GrammarTree
