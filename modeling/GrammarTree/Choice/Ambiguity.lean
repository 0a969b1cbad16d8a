import GrammarTree.Choice.Basic

/-!
# Reporting ambiguities

Prediction may find that several arms match the same input.  The user is told,
unless every such pair of arms was joined with `/`, which says that the order of
the arms decides.  Each choice remembers what was reported, so nothing is
reported twice.

Main definitions:

- `Choice.suppresses`: whether an ambiguity between two arms is intended.
- `Choice.residual`: the arms of an ambiguity that are worth a report.
- `Choice.report`: decide on a report and remember it.
-/

namespace GrammarTree.Choice

variable {α : Type}

/-- Whether an arm is named by a mask of the first 64 arms. -/
def inMask (mask : Nat) (arm : Int) : Bool :=
  0 ≤ arm && arm < 64 && mask.testBit arm.toNat

/-- Whether an ambiguity between two arms is intended: the mask names both, or a
`/` separates them. -/
def suppresses (c : Choice α) (a b : Int) (mask : Nat) : Bool :=
  (inMask mask a && inMask mask b) || c.seams.any fun s => s.ordered && s.separates a b

/-- Whether an arm takes part in an ambiguity.  Leaving the loop does not if the
choice is greedy or nongreedy, or if the caller asks for that. -/
def counts (c : Choice α) (suppressExit : Bool) (arm : Int) : Bool :=
  !(arm == DefaultArm.exitNumber && (c.greedy.isSome || suppressExit))

/-- The listed arms that take part and are not set apart from every other listed
arm that takes part. -/
def residual (c : Choice α) (arms : List Int) (mask : Nat) (suppressExit : Bool) :
    List Int :=
  let listed := arms.eraseDups
  listed.filter fun a =>
    c.counts suppressExit a && listed.any fun b =>
      b != a && c.counts suppressExit b && !c.suppresses a b mask

/-- Decide whether an ambiguity between the listed arms is reported.  It is if a
residual is left that is no part of a reported one; that residual is then
remembered. -/
def report (c : Choice α) (arms : List Int) (mask : Nat) (suppressExit : Bool) :
    Bool × Choice α :=
  let rest := c.residual arms mask suppressExit
  if rest.isEmpty || c.reported.any fun known => rest.all known.contains then (false, c)
  else (true, { c with reported := c.reported ++ [rest] })

end GrammarTree.Choice
