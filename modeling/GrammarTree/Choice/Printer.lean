import GrammarTree.Choice.Basic

/-!
# Printing choices

The arms of a choice are printed in a row, with `|` or `/` between them.  A side
of a `/` that was itself joined with `|` stands between parentheses; this is the
only case in which the flat row would read differently from what the user wrote.

Main definitions:

- `Choice.groups`: the runs of arms that stand between parentheses.
- `Choice.renderArms`: the arms, the default and the error branch.
-/

namespace GrammarTree

namespace Seam

/-- Whether a seam joined exactly the arms from `lo` to `hi`. -/
def spans (lo hi : Int) (s : Seam) : Bool :=
  s.left == lo && s.right == hi

/-- The seam that joined the arms from `lo` to `hi`: the nearest one made before,
else the nearest one made later.  Both lists start with the nearest seam. -/
def joiner? (before after : List Seam) (lo hi : Int) : Option Seam :=
  (before.find? (spans lo hi)).or (after.find? (spans lo hi))

/-- Add the run from `lo` to `hi` to the groups if it was joined with `|`.  It is a
side of a `/` among `count` arms. -/
def addGroup (count : Nat) (before after : List Seam) (lo hi : Int)
    (groups : List (Int × Int)) : List (Int × Int) :=
  if hi - lo < 2 || groups.contains (lo, hi) then groups
  else
    match joiner? before after lo hi with
    | some s => if !s.ordered && 0 ≤ lo && hi ≤ count then (lo, hi) :: groups else groups
    | none => groups

/-- The groups at both sides of every `/` in a ledger; `before` holds the seams that
were passed already, the last one first. -/
def groupsFrom (count : Nat) (before : List Seam) :
    List Seam → List (Int × Int) → List (Int × Int)
  | [], groups => groups
  | s :: after, groups =>
    groupsFrom count (s :: before) after <|
      if s.ordered then
        addGroup count before after s.mid s.right
          (addGroup count before after s.left s.mid groups)
      else groups

end Seam

/-- How often each number below `count` occurs in a list. -/
def tally (count : Nat) (numbers : List Nat) : Array Nat :=
  numbers.foldl (fun table i => table.modify i (· + 1)) (Array.replicate count 0)

namespace Choice

variable {α : Type}

/-- The runs of arms that stand between parentheses. -/
def groups (c : Choice α) : List (Int × Int) :=
  Seam.groupsFrom c.arms.length [] c.seams []

/-- A number of equal characters. -/
def repeated (count : Nat) (c : Char) : String :=
  String.ofList (List.replicate count c)

/-- One arm in the row: the operator in front of it, the groups that open there,
the mark of the default, its text, and the groups that close there. -/
def renderArm (c : Choice α) (slashes opens closes : Array Nat) (index : Nat)
    (text : String) : String :=
  (if index = 0 then "" else if 0 < slashes.getD index 0 then " / " else " | ") ++
    repeated (opens.getD index 0) '(' ++
    (if c.defaultArm = some (.arm index) then "default " else "") ++
    text ++
    repeated (closes.getD index 0) ')'

/-- The arms in a row. -/
def renderRow (c : Choice String) : String :=
  let count := c.arms.length
  let groups := c.groups
  let slashes := tally count
    ((c.seams.filter fun s => s.ordered && 0 ≤ s.mid).map fun s => s.mid.toNat)
  let opens := tally count (groups.map fun g => g.1.toNat)
  let closes := tally count (groups.map fun g => g.2.toNat - 1)
  String.join (c.arms.zipIdx.map fun (text, index) =>
    c.renderArm slashes opens closes index text)

/-- The arms in a row, then the exit if it is the default, then the error
branch. -/
def renderArms (c : Choice String) : String :=
  let separator := if c.arms.isEmpty then "" else " | "
  c.renderRow ++
    (if c.defaultArm = some .exit then separator ++ "default exit" else "") ++
    match c.recovery with
    | none => ""
    | some branch =>
      separator ++ (if branch.exits then "error " else "error_continue ") ++ branch.body

/-- A whole choice; a loop is marked behind its closing parenthesis. -/
def render (c : Choice String) : String :=
  match c.repetition with
  | .once => c.renderArms
  | .optional => opening ++ c.renderArms ++ ")?"
  | .star => opening ++ c.renderArms ++ ")*"
where
  /-- The opening parenthesis of a loop, with its greediness in front. -/
  opening : String :=
    match c.greedy with
    | some true => "greedy("
    | some false => "nongreedy("
    | none => "("

end Choice

end GrammarTree
