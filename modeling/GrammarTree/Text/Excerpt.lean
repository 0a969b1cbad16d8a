import GrammarTree.Span

/-!
# Excerpts

The stretch of source around a span, for messages that show the user what they
talk about.  Offsets and widths count the bytes of the text in UTF-8; an excerpt
never cuts a character apart.

Main definitions:

- `boundaryBelow?` and `boundaryAbove?`: the nearest offset on either side that
  cuts no character apart, found byte by byte.
- `slice?`: the text between two offsets.
- `excerpt?`: the marked text and what stands before and after it.
-/

namespace GrammarTree.Text

/-- Whether an offset lies at one of the ends of a text or between two of its
characters. -/
def isBoundary (source : String) (offset : Nat) : Bool :=
  String.Pos.Raw.isValid source ⟨offset⟩

/-- The greatest boundary that is not above an offset.  The search goes back byte
by byte, and there is no result if it would leave the text. -/
def boundaryBelow? (source : String) : Nat → Option Nat
  | 0 => if isBoundary source 0 then some 0 else none
  | offset + 1 =>
    if isBoundary source (offset + 1) then some (offset + 1)
    else boundaryBelow? source offset

/-- The least boundary that is not below an offset.  The search goes on byte by
byte, and there is no result if it would leave the text. -/
def boundaryAbove? (source : String) (offset : Nat) : Option Nat :=
  if isBoundary source offset then some offset
  else if offset < source.utf8ByteSize then boundaryAbove? source (offset + 1)
  else none
termination_by source.utf8ByteSize - offset

/-- The text between two offsets.  There is none if they are reversed, reach
behind the end or cut a character apart. -/
def slice? (source : String) (start stop : Nat) : Option String := do
  let first ← source.pos? ⟨start⟩
  let last ← source.pos? ⟨stop⟩
  let slice ← source.slice? first last
  return slice.copy

/-- A marked stretch of a text and its surroundings. -/
structure Excerpt where
  before : String
  marked : String
  after : String
deriving DecidableEq

/-- The stretch of `source` that `span` marks, with about `width` bytes on
either side.  There is none if the span is reversed, reaches behind the end of
the source or cuts a character apart. -/
def excerpt? (source : String) (span : Span) (width : Nat) : Option Excerpt :=
  if span.start ≤ span.stop ∧ span.stop ≤ source.utf8ByteSize then do
    let first ← boundaryBelow? source (span.start - width)
    let last ← boundaryAbove? source (min (span.stop + width) source.utf8ByteSize)
    let before ← slice? source first span.start
    let marked ← slice? source span.start span.stop
    let after ← slice? source span.stop last
    return { before, marked, after }
  else none

end GrammarTree.Text
