import GrammarTree.Choice.Seam
import GrammarTree.Diagnostic

/-!
# Choices

Branches, optional elements and stars are one construct: a list of arms, tried
as often as the repetition says.  Operands of any nesting are kept in one flat
list of arms, and a ledger of seams remembers how they were joined.

The arms are of any type here; grammar trees take themselves as arms.

Main definitions:

- `Repetition`: how often an alternation is matched.
- `Choice`: the arms with their ledger, default and error branch.
- `Choice.setDefaultExit`: make leaving a loop the default.
-/

namespace GrammarTree

/-! ## Repetition -/

/-- How often the arms of an alternation are tried. -/
inductive Repetition where
  | once
  | optional
  | star
deriving DecidableEq

namespace Repetition

/-- An optional element and a star may be left without matching an arm. -/
def isLoop : Repetition → Bool
  | once => false
  | optional => true
  | star => true

/-- The name messages use for a repetition. -/
def render : Repetition → String
  | once => "plain"
  | optional => "optional"
  | star => "star"

end Repetition

/-! ## Marks -/

/-- What an operand of `|` or `/` is marked as. -/
inductive ArmRole where
  /-- An arm without a mark. -/
  | ordinary
  /-- The arm to take when prediction does not decide. -/
  | default
  /-- The branch that handles input no arm can start with; `exits` tells whether
  it leaves the loop. -/
  | recovery (exits : Bool)
deriving DecidableEq

/-- What is taken when prediction does not decide.  The index of an arm has no bound
here; an index that is kept in 32 bits with a sign agrees with it up to 2147483647,
which is `2 ^ 31 - 1`. -/
inductive DefaultArm where
  | arm (index : Nat)
  | exit
deriving DecidableEq

namespace DefaultArm

/-- The default after arms were placed in front. -/
def shift : DefaultArm → Nat → DefaultArm
  | arm index, offset => arm (index + offset)
  | exit, _ => exit

/-- The number of an arm that stands for leaving the loop. -/
def exitNumber : Int := -1

/-- The number by which a default is reported. -/
def number : DefaultArm → Int
  | arm index => index
  | exit => exitNumber

end DefaultArm

/-- An error branch; `exits` tells whether the loop is left after it.  The branch and
this answer are only ever set together, so they are one value: a choice without an
error branch has no such answer either. -/
structure Recovery (α : Type) where
  body : α
  exits : Bool

/-! ## Choices -/

/-- A list of arms that are tried as often as `repetition` says. -/
structure Choice (α : Type) where
  repetition : Repetition
  /-- Whether an ambiguity between going on and leaving is settled in favour of
  going on; without a value it is not settled. -/
  greedy : Option Bool := none
  arms : List α := []
  defaultArm : Option DefaultArm := none
  recovery : Option (Recovery α) := none
  /-- How the arms were joined, in the order of joining. -/
  seams : List Seam := []
  /-- The sets of arms for which an ambiguity was reported. -/
  reported : List (List Int) := []

namespace Choice

variable {α : Type}

/-- Whether the choice can be left without matching an arm. -/
def isLoop (c : Choice α) : Bool :=
  c.repetition.isLoop

/-- The arm of a number. -/
def arm? (c : Choice α) (number : Int) : Option α :=
  if number < 0 then none else c.arms[number.toNat]?

/-- Whether the loop is left after the error branch. -/
def exitsOnError (c : Choice α) : Bool :=
  match c.recovery with
  | some branch => branch.exits
  | none => false

/-- The error branch alone. -/
def recoveryBody? (c : Choice α) : Option α :=
  c.recovery.map Recovery.body

/-- The arms, then the error branch. -/
def children (c : Choice α) : List α :=
  c.arms ++ c.recoveryBody?.toList

/-- Make leaving the loop the default.  A choice that is no loop cannot be left,
and a default that is there already stays; the answer tells whether the default
was set. -/
def setDefaultExit (c : Choice α) (location : Location) :
    Bool × Choice α × List Diagnostic :=
  if !c.isLoop then (false, c, [])
  else if c.defaultArm.isSome then (false, c, [.duplicateDefault location])
  else (true, { c with defaultArm := some .exit }, [])

end Choice

end GrammarTree
