/-!
# Seams

Joining two alternations with `|` or `/` gives one flat list of arms.  A seam
remembers such a joint: it divides a run of arms into the arms of the left
operand and those of the right one, and says which operator stood between them.

Positions are stored in sixteen bits; a position that does not fit is stored as
the nearest one that does.

Main definitions:

- `Seam.shift`: the seam after arms were placed in front of its run.
- `Seam.separates`: whether two arms lie on different sides of a seam.
-/

namespace GrammarTree

/-- The joint between the arms from `left` to `mid` and those from `mid` to
`right`; `ordered` tells `/` from `|`. -/
structure Seam where
  left : Int
  mid : Int
  right : Int
  ordered : Bool
deriving DecidableEq

namespace Seam

/-- The least position a seam can store. -/
def least : Int := -32768

/-- The greatest position a seam can store. -/
def greatest : Int := 32767

/-- The position nearest to `n` that a seam can store. -/
def clamp (n : Int) : Int :=
  if n < least then least else if greatest < n then greatest else n

/-- The seam of the same arms after they moved by a number of places. -/
def shift (s : Seam) (offset : Int) : Seam :=
  { s with
    left := clamp (s.left + offset)
    mid := clamp (s.mid + offset)
    right := clamp (s.right + offset) }

/-- Whether an arm belongs to the run of a seam. -/
def contains (s : Seam) (arm : Int) : Bool :=
  s.left ≤ arm && arm < s.right

/-- Whether two arms lie on different sides of a seam. -/
def separates (s : Seam) (a b : Int) : Bool :=
  s.contains a && s.contains b && (decide (a < s.mid) != decide (b < s.mid))

/-- The seam in front of the arm at `mid` of the first `count` arms; there is
none where one of the two sides is empty. -/
def between (mid count : Nat) (ordered : Bool) : List Seam :=
  if 0 < mid ∧ mid < count then [⟨0, clamp mid, clamp count, ordered⟩] else []

end Seam

end GrammarTree
