import GrammarTree.Proofs.CharacterSets

/-!
# Reading character classes

The text of a class can be read back.  Between quotes and between brackets other
characters are escaped, code points have as many digits as they need, and two neighbours
stand side by side without a hyphen; still the text tells the class.

The reader goes over the text once.  It keeps apart a hyphen that stands for itself,
which makes a range, from one that was escaped, which is a member.

Main results:

- Definition `CharClass.read?`: the class that a text stands for.
- Theorem `CharClass.glyphs?_escape`: an escaped character is read as that character.
- Theorem `CharClass.bounds_flatMap`: the bounds in the printed ranges.
- Theorem `CharClass.reads_back`: reading the text of a class gives the class, so
  classes with the same text are equal.
-/

namespace GrammarTree

namespace CharClass

open CharRange (Covers Spans)

/-! ## Glyphs -/

/-- A character of a text, and whether it stands behind a backslash. -/
structure Glyph where
  char : Char
  escaped : Bool
deriving DecidableEq

/-- Whether a glyph is the sign of a range. -/
def Glyph.isHyphen (g : Glyph) : Bool :=
  !g.escaped && g.char = '-'

/-- How far a glyph was read. -/
inductive Progress where
  | start
  /-- Behind the backslash. -/
  | backslash
  /-- Behind the `u` of a code point. -/
  | codePoint
  /-- Within the digits of a code point. -/
  | digits (value : Nat)

/-- The value of a lower-case hexadecimal digit. -/
def hexDigit? (c : Char) : Option Nat :=
  if '0' ≤ c ∧ c ≤ '9' then some (c.toNat - '0'.toNat)
  else if 'a' ≤ c ∧ c ≤ 'f' then some (c.toNat - 'a'.toNat + 10)
  else none

/-- The character that a letter or sign behind a backslash stands for. -/
def unescape? (c : Char) : Option Char :=
  if c = 'n' then some '\n'
  else if c = 'r' then some '\r'
  else if c = 't' then some '\t'
  else if c ∈ ['\\', '\'', ']', '-'] then some c
  else none

/-- Glyphs in front of what was read behind them. -/
def prepend (front : List Glyph) (read : Option (List Glyph × List Char)) :
    Option (List Glyph × List Char) :=
  read.map fun (glyphs, rest) => (front ++ glyphs, rest)

/-- The glyphs up to the closing sign, and the text behind that. -/
def glyphs? (close : Char) : Progress → List Char → Option (List Glyph × List Char)
  | _, [] => none
  | .start, c :: rest =>
    if c = close then some ([], rest)
    else if c = '\\' then glyphs? close .backslash rest
    else prepend [⟨c, false⟩] (glyphs? close .start rest)
  | .backslash, c :: rest =>
    if c = 'u' then glyphs? close .codePoint rest
    else (unescape? c).bind fun d => prepend [⟨d, true⟩] (glyphs? close .start rest)
  | .codePoint, c :: rest => if c = '\x7b' then glyphs? close (.digits 0) rest else none
  | .digits value, c :: rest =>
    match hexDigit? c with
    | some d => glyphs? close (.digits (16 * value + d)) rest
    | none =>
      if c = '\x7d' ∧ value.isValidChar then
        prepend [⟨Char.ofNat value, true⟩] (glyphs? close .start rest)
      else none

/-! ## Classes -/

/-- The bounds that glyphs between brackets stand for: a hyphen between two glyphs makes
a range, and any other glyph is a range of its own. -/
def bounds : List Glyph → List (Char × Char)
  | [] => []
  | [g] => [(g.char, g.char)]
  | [g, h] => [(g.char, g.char), (h.char, h.char)]
  | g :: sign :: h :: rest =>
    if sign.isHyphen then (g.char, h.char) :: bounds rest
    else (g.char, g.char) :: bounds (sign :: h :: rest)

/-- The characters of a class, and the text behind them. -/
def readMembers? : List Char → Option (CharClass × List Char)
  | '[' :: text =>
    (glyphs? ']' .start text).map fun (glyphs, rest) => (ofRanges (bounds glyphs), rest)
  | '\'' :: text =>
    match glyphs? '\'' .start text with
    | some ([g], rest) => some (ofRanges [(g.char, g.char)], rest)
    | _ => none
  | _ => none

/-- Whether the end mark follows the characters. -/
def readEnd? : List Char → Option Bool
  | [] => some false
  | ['|', 'E', 'O', 'F'] => some true
  | _ => none

/-- The class that a text stands for. -/
def read? (text : String) : Option CharClass :=
  if text.toList = ['E', 'O', 'F'] then some empty.withEnd
  else do
    let (members, rest) ← readMembers? text.toList
    let hasEnd ← readEnd? rest
    return if hasEnd then members.withEnd else members

/-! ## Reading one character -/

@[simp] theorem prepend_prepend (front back : List Glyph)
    (read : Option (List Glyph × List Char)) :
    prepend front (prepend back read) = prepend (front ++ back) read := by
  simp [prepend, Function.comp_def]

/-- The digit of a number is read as the number. -/
theorem hexDigit?_digitChar : ∀ d < 16, hexDigit? (Nat.digitChar d) = some d := by
  decide

/-- The digits of a code point are read as its number. -/
theorem glyphs?_toDigits (close : Char) (n : Nat) (rest : List Char) :
    glyphs? close (.digits 0) (Nat.toDigits 16 n ++ rest) = glyphs? close (.digits n) rest := by
  induction n using Nat.strongRecOn generalizing rest with
  | ind n ih =>
    rw [Nat.toDigits_eq_if (by decide)]
    split
    · rename_i hdigit
      simp [glyphs?, hexDigit?_digitChar n hdigit]
    · -- the last digit is read behind the digits of `n / 16`
      have hlast := hexDigit?_digitChar (n % 16) (by omega)
      have hvalue : 16 * (n / 16) + n % 16 = n := Nat.div_add_mod n 16
      rw [List.append_assoc, ih (n / 16) (by omega), List.singleton_append, glyphs?, hlast]
      simp only [hvalue]

/-- A character by its code point is read as that character. -/
theorem glyphs?_codeEscape {close : Char} (hclose : close ≠ '\\') (c : Char) (rest : List Char) :
    glyphs? close .start (Text.codeEscape c ++ rest) =
      prepend [⟨c, true⟩] (glyphs? close .start rest) := by
  have hbrace : hexDigit? '\x7d' = none := by decide
  have hvalid : c.toNat.isValidChar := c.valid
  simp [Text.codeEscape, glyphs?, hclose.symm, glyphs?_toDigits, hbrace, hvalid]

/-- The sign at the end of a class. -/
def closing (inBrackets : Bool) : Char :=
  if inBrackets then ']' else '\''

/-- A character is printed behind a backslash, by its code point, or as itself; it stands
for itself only if it has no other meaning there. -/
theorem escape_cases (inBrackets : Bool) (c : Char) :
    (∃ d, escape inBrackets c = ['\\', d] ∧ d ≠ 'u' ∧ unescape? d = some c) ∨
      escape inBrackets c = Text.codeEscape c ∨
      (escape inBrackets c = [c] ∧ c ≠ '\\' ∧ c ≠ closing inBrackets ∧
        (inBrackets = true → c ≠ '-')) := by
  unfold escape
  split_ifs with hn hr ht hbackslash hquote hbracket hcontrol
  · exact Or.inl ⟨'n', rfl, by decide, hn ▸ rfl⟩
  · exact Or.inl ⟨'r', rfl, by decide, hr ▸ rfl⟩
  · exact Or.inl ⟨'t', rfl, by decide, ht ▸ rfl⟩
  · subst hbackslash
    exact Or.inl ⟨'\\', rfl, by decide, rfl⟩
  · have hc : c = '\'' := by simpa using (Bool.and_eq_true_iff.mp hquote).1
    subst hc
    exact Or.inl ⟨'\'', rfl, by decide, rfl⟩
  · have hc : c = ']' ∨ c = '-' := by simpa using (Bool.and_eq_true_iff.mp hbracket).1
    rcases hc with rfl | rfl
    · exact Or.inl ⟨']', rfl, by decide, rfl⟩
    · exact Or.inl ⟨'-', rfl, by decide, rfl⟩
  · exact Or.inr (Or.inl rfl)
  · refine Or.inr (Or.inr ⟨rfl, hbackslash, ?_⟩)
    cases inBrackets with
    | true => simpa [closing] using hbracket
    | false => simpa [closing] using hquote

/-- The glyph of a printed character. -/
def glyphOf (inBrackets : Bool) (c : Char) : Glyph :=
  ⟨c, escape inBrackets c != [c]⟩

/-- A printed character is read as that character. -/
theorem glyphs?_escape (inBrackets : Bool) (c : Char) (rest : List Char) :
    glyphs? (closing inBrackets) .start (escape inBrackets c ++ rest) =
      prepend [glyphOf inBrackets c] (glyphs? (closing inBrackets) .start rest) := by
  have hclose : closing inBrackets ≠ '\\' := by cases inBrackets <;> decide
  unfold glyphOf
  rcases escape_cases inBrackets c with ⟨d, hescape, hu, hd⟩ | hescape | ⟨hescape, hc, hend, -⟩
  · have hlong : (['\\', d] != [c]) = true := by simp
    simp [hescape, glyphs?, hclose.symm, hu, hd, hlong]
  · have hlong : Text.codeEscape c ≠ [c] := by simp [Text.codeEscape]
    rw [hescape, glyphs?_codeEscape hclose, bne_iff_ne.mpr hlong]
  · simp [hescape, glyphs?, hc, hend]

/-- Between brackets no printed character is the sign of a range. -/
theorem isHyphen_glyphOf (c : Char) : (glyphOf true c).isHyphen = false := by
  unfold glyphOf Glyph.isHyphen
  rcases escape_cases true c with ⟨d, hescape, -, -⟩ | hescape | ⟨-, -, -, hc⟩
  · simp [hescape]
  · simp [hescape, Text.codeEscape]
  · simp [hc rfl]

/-! ## Reading ranges -/

/-- The glyphs of a printed range. -/
def rangeGlyphs (r : CharRange) : List Glyph :=
  if r.lo = r.hi then [glyphOf true r.lo]
  else if r.lo.toNat + 1 < r.hi.toNat then [glyphOf true r.lo, ⟨'-', false⟩, glyphOf true r.hi]
  else [glyphOf true r.lo, glyphOf true r.hi]

/-- The bounds that are read off a printed range: neighbours count one by one. -/
def rangeBounds (r : CharRange) : List (Char × Char) :=
  if r.lo = r.hi then [(r.lo, r.lo)]
  else if r.lo.toNat + 1 < r.hi.toNat then [(r.lo, r.hi)]
  else [(r.lo, r.lo), (r.hi, r.hi)]

/-- A printed range is read as its glyphs. -/
theorem glyphs?_renderRange (r : CharRange) (rest : List Char) :
    glyphs? ']' .start (renderRange r ++ rest) =
      prepend (rangeGlyphs r) (glyphs? ']' .start rest) := by
  have hescape (c : Char) (rest : List Char) :
      glyphs? ']' .start (escape true c ++ rest) =
        prepend [glyphOf true c] (glyphs? ']' .start rest) :=
    glyphs?_escape true c rest
  have hhyphen (rest : List Char) :
      glyphs? ']' .start ('-' :: rest) = prepend [⟨'-', false⟩] (glyphs? ']' .start rest) := rfl
  unfold renderRange rangeGlyphs
  split_ifs
  · exact hescape r.lo rest
  · simp [hescape, hhyphen]
  · simp [hescape]

/-- Printed ranges are read as their glyphs, up to the closing bracket. -/
theorem glyphs?_flatMap (ranges : List CharRange) (rest : List Char) :
    glyphs? ']' .start (ranges.flatMap renderRange ++ ']' :: rest) =
      some (ranges.flatMap rangeGlyphs, rest) := by
  induction ranges with
  | nil => rfl
  | cons r more ih =>
    rw [List.flatMap_cons, List.append_assoc, glyphs?_renderRange, ih, List.flatMap_cons]
    rfl

/-- Glyphs that do not start with the sign of a range. -/
def Detached (glyphs : List Glyph) : Prop :=
  ∀ sign ∈ glyphs.head?, sign.isHyphen = false

/-- A printed character does not start with the sign of a range. -/
theorem detached_cons (c : Char) (more : List Glyph) : Detached (glyphOf true c :: more) := by
  rintro sign ⟨⟩
  exact isHyphen_glyphOf c

/-- A glyph in front of detached glyphs is a range of its own. -/
theorem bounds_cons {g : Glyph} {rest : List Glyph} (h : Detached rest) :
    bounds (g :: rest) = (g.char, g.char) :: bounds rest := by
  match rest with
  | [] => rfl
  | [_] => rfl
  | sign :: _ :: _ =>
    have hsign : sign.isHyphen = false := h sign rfl
    rw [bounds, hsign, if_neg Bool.false_ne_true]

/-- The glyphs of a printed range are detached. -/
theorem detached_rangeGlyphs (r : CharRange) (more : List Glyph) :
    Detached (rangeGlyphs r ++ more) := by
  unfold rangeGlyphs
  split_ifs
  · exact detached_cons r.lo _
  · exact detached_cons r.lo _
  · exact detached_cons r.lo _

/-- In front of detached glyphs a range is read as its bounds. -/
theorem bounds_rangeGlyphs (r : CharRange) {more : List Glyph} (h : Detached more) :
    bounds (rangeGlyphs r ++ more) = rangeBounds r ++ bounds more := by
  unfold rangeGlyphs rangeBounds
  split_ifs
  · exact bounds_cons h
  · rfl
  · have hlast := bounds_cons (g := glyphOf true r.hi) h
    exact (bounds_cons (detached_cons r.hi more)).trans (congrArg _ hlast)

/-- The bounds in printed ranges are those of each range. -/
theorem bounds_flatMap (ranges : List CharRange) :
    bounds (ranges.flatMap rangeGlyphs) = ranges.flatMap rangeBounds := by
  induction ranges with
  | nil => rfl
  | cons r more ih =>
    have hmore : Detached (more.flatMap rangeGlyphs) := by
      cases more with
      | nil => simp [Detached]
      | cons next others => exact detached_rangeGlyphs next _
    rw [List.flatMap_cons, bounds_rangeGlyphs r hmore, ih, List.flatMap_cons]

/-! ## Reading classes -/

/-- The bounds of a printed range hold the code points of the range. -/
theorem exists_mem_rangeBounds (r : CharRange) {n : Nat} :
    (∃ b ∈ rangeBounds r, b.1.toNat ≤ b.2.toNat ∧ b.1.toNat ≤ n ∧ n ≤ b.2.toNat) ↔
      r.Spans n := by
  have hr := r.ordered
  unfold rangeBounds Spans
  split_ifs with hone hwide
  · simp [← hone]
  · simp [hr]
  · have hne : r.lo.toNat ≠ r.hi.toNat := mt Char.toNat_inj.mp hone
    simp only [List.mem_cons, List.not_mem_nil, or_false, exists_eq_or_imp, exists_eq_left]
    omega

/-- The class of the bounds of all ranges has these ranges. -/
theorem ofRanges_rangeBounds (s : CharClass) :
    ofRanges (s.ranges.flatMap rangeBounds) = s.withoutEnd := by
  apply eq_of_covers_iff
  · intro n
    rw [covers_ofRanges]
    simp only [List.mem_flatMap, Covers, ← exists_mem_rangeBounds]
    constructor
    · rintro ⟨b, ⟨r, hr, hb⟩, hn⟩
      exact ⟨r, hr, b, hb, hn⟩
    · rintro ⟨r, hr, b, hb, hn⟩
      exact ⟨b, ⟨r, hr, hb⟩, hn⟩
  · rfl

/-- The ranges between brackets are read back. -/
theorem readMembers?_renderRanges (s : CharClass) (rest : List Char) :
    readMembers? (renderRanges s.ranges ++ rest) = some (s.withoutEnd, rest) := by
  have hglyphs := glyphs?_flatMap s.ranges rest
  simp [renderRanges, readMembers?, hglyphs, bounds_flatMap, ofRanges_rangeBounds]

/-- A quoted character is read back. -/
theorem readMembers?_quoted (c : Char) (rest : List Char) :
    readMembers? (['\''] ++ escape false c ++ ['\''] ++ rest) =
      some (ofRanges [(c, c)], rest) := by
  have hglyphs : glyphs? '\'' .start (escape false c ++ '\'' :: rest) =
      some ([glyphOf false c], rest) :=
    glyphs?_escape false c ('\'' :: rest)
  simp [readMembers?, hglyphs, glyphOf]

/-- The characters of a class are read back. -/
theorem readMembers?_renderMembers (s : CharClass) (rest : List Char) :
    readMembers? (renderMembers s.ranges ++ rest) = some (s.withoutEnd, rest) := by
  unfold renderMembers
  split
  · rename_i r hranges
    rw [← hranges]
    split_ifs with hone
    · have hbounds : s.ranges.flatMap rangeBounds = [(r.lo, r.lo)] := by
        simp [hranges, rangeBounds, hone]
      rw [readMembers?_quoted, ← hbounds, ofRanges_rangeBounds]
    · exact readMembers?_renderRanges s rest
  · exact readMembers?_renderRanges s rest

/-- The text of characters is not the end mark alone. -/
theorem renderMembers_append_ne (ranges : List CharRange) (rest : List Char) :
    renderMembers ranges ++ rest ≠ ['E', 'O', 'F'] := by
  unfold renderMembers renderRanges
  split
  · split_ifs <;> simp
  · simp

/-- Reading the text of a class gives the class. -/
theorem read?_render (s : CharClass) : read? s.render = some s := by
  obtain ⟨ranges, hseparated, hasEnd⟩ := s
  have hmembers := readMembers?_renderMembers ⟨ranges, hseparated, hasEnd⟩
  simp only [read?, render, String.toList_ofList]
  by_cases hbare : (ranges.isEmpty && hasEnd) = true
  · obtain ⟨hempty, rfl⟩ := Bool.and_eq_true_iff.mp hbare
    obtain rfl := List.isEmpty_iff.mp hempty
    rfl
  · simp only [if_neg hbare, if_neg (renderMembers_append_ne ranges _), hmembers]
    cases hasEnd with
    | false => rfl
    | true => rfl

/-- Printing a class loses nothing: the reader recovers every class from its text, so
classes have the same text exactly if they are equal. -/
theorem reads_back (s t : CharClass) :
    read? s.render = some s ∧ (s.render = t.render ↔ s = t) := by
  refine ⟨read?_render s, ?_, congrArg render⟩
  intro htext
  have hread : some s = some t := by rw [← read?_render s, htext, read?_render t]
  exact Option.some.inj hread

-- the first hyphen is a member, the second one makes a range
example : read? "[\\-\\]-a]|EOF" = some (ofRanges [('-', '-'), (']', 'a')]).withEnd := by
  decide

end CharClass

end GrammarTree
