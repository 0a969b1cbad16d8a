import GrammarTree.Symbol.Basic
import GrammarTree.Text.Escape

/-!
# Character classes

A character class is a list of inclusive character ranges in normal form: the
ranges stand in increasing order, and at least one code point is missing between
any two of them.  Ranges that overlap or touch are joined when a range is
inserted.

Main results:

- Theorem `CharRange.Separated.insert`: inserting a range keeps the normal form.
- Definition `CharClass.ofRanges`: the class of the characters in any of a list
  of ranges; reversed ranges hold nothing.
-/

namespace GrammarTree

/-! ## Ranges -/

/-- The characters from `lo` to `hi`, both included. -/
structure CharRange where
  lo : Char
  hi : Char
  ordered : lo.toNat ≤ hi.toNat
deriving DecidableEq

namespace CharRange

/-- The range between two characters, unless they stand in the wrong order. -/
def ofBounds? (lo hi : Char) : Option CharRange :=
  if h : lo.toNat ≤ hi.toNat then some ⟨lo, hi, h⟩ else none

/-- The range that holds one character. -/
def single (c : Char) : CharRange :=
  ⟨c, c, Nat.le_refl _⟩

/-- Whether a character lies in a range. -/
def contains (r : CharRange) (c : Char) : Bool :=
  r.lo.toNat ≤ c.toNat && c.toNat ≤ r.hi.toNat

/-- `r` ends before `s` starts, and a code point is missing between them. -/
def Before (r s : CharRange) : Prop :=
  r.hi.toNat + 1 < s.lo.toNat

instance (r s : CharRange) : Decidable (r.Before s) :=
  inferInstanceAs (Decidable (r.hi.toNat + 1 < s.lo.toNat))

/-- The least range around two ranges. -/
def hull (r s : CharRange) : CharRange where
  lo := if r.lo.toNat ≤ s.lo.toNat then r.lo else s.lo
  hi := if r.hi.toNat ≤ s.hi.toNat then s.hi else r.hi
  ordered := by
    have := r.ordered
    have := s.ordered
    split <;> split <;> omega

/-- Every range stands before all that follow it. -/
def Separated (ranges : List CharRange) : Prop :=
  ranges.Pairwise Before

/-- Insert a range into a separated list and join it with the ranges it touches. -/
def insert (r : CharRange) : List CharRange → List CharRange
  | [] => [r]
  | s :: rest =>
    if r.Before s then r :: s :: rest
    else if s.Before r then s :: insert r rest
    else insert (r.hull s) rest

/-- The separated list of the characters in any of the ranges. -/
def normalize (ranges : List CharRange) : List CharRange :=
  ranges.foldr insert []

/-! ### Inserting keeps the normal form -/

/-- A range before both operands is before their hull. -/
theorem Before.hull {b r s : CharRange} (hr : b.Before r) (hs : b.Before s) :
    b.Before (r.hull s) := by
  simp only [Before, CharRange.hull] at *
  split <;> assumption

/-- A range before the inserted range and before all others is before every
range of the result. -/
theorem Before.mem_insert {b r : CharRange} {ranges : List CharRange}
    (hr : b.Before r) (hranges : ∀ s ∈ ranges, b.Before s) :
    ∀ s ∈ insert r ranges, b.Before s := by
  induction ranges generalizing r with
  | nil => simpa [insert] using hr
  | cons s rest ih =>
    have hs : b.Before s := hranges s (by simp)
    have hrest : ∀ t ∈ rest, b.Before t := fun t ht => hranges t (by simp [ht])
    rw [insert]
    split
    · intro t ht
      rcases List.mem_cons.mp ht with rfl | ht
      · exact hr
      · exact hranges t ht
    · split
      · intro t ht
        rcases List.mem_cons.mp ht with rfl | ht
        · exact hs
        · exact ih hr hrest t ht
      · exact ih (hr.hull hs) hrest

/-- What is before a range is before all that this range is before. -/
theorem Before.trans {r s t : CharRange} (hrs : r.Before s) (hst : s.Before t) :
    r.Before t := by
  have := s.ordered
  simp only [Before] at *
  omega

/-- Inserting a range keeps a list separated. -/
theorem Separated.insert {r : CharRange} {ranges : List CharRange}
    (h : Separated ranges) : Separated (CharRange.insert r ranges) := by
  induction ranges generalizing r with
  | nil => simp [CharRange.insert, Separated]
  | cons s rest ih =>
    have hs : ∀ t ∈ rest, s.Before t := (List.pairwise_cons.mp h).1
    have hrest : Separated rest := (List.pairwise_cons.mp h).2
    rw [CharRange.insert]
    split
    · rename_i hrs
      refine List.pairwise_cons.mpr ⟨?_, h⟩
      intro t ht
      rcases List.mem_cons.mp ht with rfl | ht
      · exact hrs
      · exact hrs.trans (hs t ht)
    · split
      · rename_i hsr
        exact List.pairwise_cons.mpr ⟨Before.mem_insert hsr hs, ih hrest⟩
      · exact ih hrest

/-- The normal form of any list of ranges is separated. -/
theorem separated_normalize (ranges : List CharRange) : Separated (normalize ranges) := by
  induction ranges with
  | nil => exact List.Pairwise.nil
  | cons r rest ih => exact ih.insert

end CharRange

/-! ## Classes -/

/-- A set of characters, and perhaps the end mark. -/
structure CharClass where
  ranges : List CharRange
  separated : CharRange.Separated ranges
  hasEnd : Bool
deriving DecidableEq

namespace CharClass

/-- The class of the characters in any of the ranges. -/
def ofCharRanges (ranges : List CharRange) (hasEnd : Bool) : CharClass :=
  ⟨CharRange.normalize ranges, CharRange.separated_normalize ranges, hasEnd⟩

/-- The class of the characters between any of the pairs of bounds. -/
def ofRanges (bounds : List (Char × Char)) : CharClass :=
  ofCharRanges (bounds.filterMap fun (lo, hi) => CharRange.ofBounds? lo hi) false

/-- The class without members. -/
def empty : CharClass :=
  ⟨[], List.Pairwise.nil, false⟩

/-- The class of the listed characters. -/
def ofItems (items : List Char) : CharClass :=
  ofCharRanges (items.map CharRange.single) false

/-- The class of the characters between two bounds. -/
def range (lo hi : Char) : CharClass :=
  ofRanges [(lo, hi)]

/-- The ten decimal digits. -/
def digits : CharClass :=
  range '0' '9'

/-- Space, tab, carriage return and line feed. -/
def whitespace : CharClass :=
  ofItems [' ', '\t', '\r', '\n']

/-- The letters of the Latin alphabet in both cases. -/
def letters : CharClass :=
  ofRanges [('a', 'z'), ('A', 'Z')]

/-- Whether a character is a member. -/
def contains (s : CharClass) (c : Char) : Bool :=
  s.ranges.any fun r => r.contains c

/-- The members of either class. -/
def union (s t : CharClass) : CharClass :=
  ofCharRanges (s.ranges ++ t.ranges) (s.hasEnd || t.hasEnd)

/-- The class with the end mark. -/
def withEnd (s : CharClass) : CharClass :=
  { s with hasEnd := true }

/-- The class without the end mark. -/
def withoutEnd (s : CharClass) : CharClass :=
  { s with hasEnd := false }

/-- Whether there is no member, the end mark included. -/
def isEmpty (s : CharClass) : Bool :=
  s.ranges.isEmpty && !s.hasEnd

/-! ### Printing -/

/-- A character of a printed class.  A quote needs an escape between quotes, a
closing bracket and a hyphen need one between brackets. -/
def escape (inBrackets : Bool) (c : Char) : List Char :=
  if c = '\n' then ['\\', 'n']
  else if c = '\r' then ['\\', 'r']
  else if c = '\t' then ['\\', 't']
  else if c = '\\' then ['\\', '\\']
  else if c = '\'' && !inBrackets then ['\\', '\'']
  else if (c = ']' || c = '-') && inBrackets then ['\\', c]
  else if Text.isControl c then Text.codeEscape c
  else [c]

/-- A range between brackets: neighbours stand side by side, a hyphen stands
between bounds that are further apart. -/
def renderRange (r : CharRange) : List Char :=
  if r.lo = r.hi then escape true r.lo
  else if r.lo.toNat + 1 < r.hi.toNat then
    escape true r.lo ++ ['-'] ++ escape true r.hi
  else escape true r.lo ++ escape true r.hi

/-- The ranges between brackets. -/
def renderRanges (ranges : List CharRange) : List Char :=
  ['['] ++ ranges.flatMap renderRange ++ [']']

/-- The characters of a class: one character is quoted, all other classes stand
between brackets. -/
def renderMembers : List CharRange → List Char
  | [r] => if r.lo = r.hi then ['\''] ++ escape false r.lo ++ ['\''] else renderRanges [r]
  | ranges => renderRanges ranges

/-- The text of a class; the end mark follows the characters. -/
def render (s : CharClass) : String :=
  String.ofList <|
    if s.ranges.isEmpty && s.hasEnd then ['E', 'O', 'F']
    else renderMembers s.ranges ++ if s.hasEnd then ['|', 'E', 'O', 'F'] else []

/-- The text of a class in the structural view of a tree. -/
def inspect (s : CharClass) : String :=
  let ranges := s.ranges.map fun r =>
    "(" ++ Text.quoteChar r.lo ++ ", " ++ Text.quoteChar r.hi ++ ")"
  "CharSet \x7b ranges: [" ++ String.intercalate ", " ranges ++ "], eof: " ++
    toString s.hasEnd ++ " \x7d"

instance : SymbolSet CharClass Char where
  empty := empty
  ofItems := ofItems
  union := union
  withEnd := withEnd
  withoutEnd := withoutEnd
  hasEnd := hasEnd
  contains := contains
  isEmpty := isEmpty
  render := render
  inspect := inspect

end CharClass

end GrammarTree
