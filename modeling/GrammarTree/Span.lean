/-!
# Source spans

Every node of a grammar tree remembers the stretch of grammar text it came
from.  A node built by a program has no such stretch, so a `Location` is an
optional `Span`.

Main definitions:

- `Span.cover` and `Location.cover`: the least span around two spans; a missing
  location is neutral.
- `Location.render`: the text by which messages name a location.
-/

namespace GrammarTree

/-- A range of byte offsets into the grammar text.  Nothing asks `start` to lie
before `stop`. -/
structure Span where
  start : Nat
  stop : Nat
deriving DecidableEq

namespace Span

/-- The least span that reaches as far as both operands on either side. -/
def cover (a b : Span) : Span :=
  ⟨min a.start b.start, max a.stop b.stop⟩

/-- A span is written as its two offsets with two dots between them. -/
def render (s : Span) : String :=
  toString s.start ++ ".." ++ toString s.stop

end Span

/-- Where a construct stands in the grammar text, if it stands there at all. -/
abbrev Location := Option Span

namespace Location

/-- The least location around two locations; a missing one adds nothing. -/
def cover : Location → Location → Location
  | some a, some b => some (a.cover b)
  | some a, none => some a
  | none, b => b

/-- The least location around a list of locations. -/
def coverAll (locations : List Location) : Location :=
  locations.foldl cover none

/-- The first location that is present. -/
def orElse (preferred other : Location) : Location :=
  match preferred with
  | some span => some span
  | none => other

/-- The text by which messages name a location. -/
def render : Location → String
  | some span => span.render
  | none => "<unknown location>"

end Location

/-- Things that remember where they stand in the grammar text. -/
class Located (α : Type) where
  /-- Where the thing stands. -/
  location : α → Location

end GrammarTree
