import GrammarTree.Choice.Basic

/-!
# Joining choices

An operand of `|` or `/` brings a batch of arms: its own arms if it is a choice
without a mark, no arm if it is an error branch, and itself otherwise.  The batch
is placed before or behind the arms that are there.

Main definitions:

- `Choice.insert`: the choice with a batch placed on one side.
- `Choice.insertReports`: what the user is told about the marks of a batch.
-/

namespace GrammarTree

/-- The side of a choice on which a batch is placed. -/
inductive Side where
  | front
  | back
deriving DecidableEq

/-- What an operand brings into a choice. -/
structure Batch (α : Type) where
  arms : List α
  /-- The position of the default among these arms. -/
  defaultArm : Option Nat := none
  recovery : Option (Recovery α) := none
  seams : List Seam := []

namespace Batch

variable {α : Type}

/-- The batch of an operand that is kept whole. -/
def ofArm (operand : α) : ArmRole → Batch α
  | .ordinary => { arms := [operand] }
  | .default => { arms := [operand], defaultArm := some 0 }
  | .recovery exits => { arms := [], recovery := some ⟨operand, exits⟩ }

/-- The batch of a choice whose arms are taken over. -/
def ofChoice (c : Choice α) : Batch α where
  arms := c.arms
  defaultArm :=
    match c.defaultArm with
    | some (.arm index) => if index < c.arms.length then some index else none
    | _ => none
  recovery := c.recovery
  seams := c.seams

end Batch

namespace Choice

variable {α : Type}

/-- Place a batch on one side of a choice.  Marks of the choice win over marks of
the batch, seams move with their arms, and a new seam joins the two sides. -/
def insert (c : Choice α) (side : Side) (ordered : Bool) (batch : Batch α) : Choice α :=
  let old := c.arms.length
  let new := batch.arms.length
  match side with
  | .back =>
    { c with
      arms := c.arms ++ batch.arms
      defaultArm := c.defaultArm <|> batch.defaultArm.map fun i => .arm (i + old)
      recovery := c.recovery <|> batch.recovery
      seams := c.seams ++ batch.seams.map (·.shift (Seam.clamp old)) ++
        Seam.between old (old + new) ordered }
  | .front =>
    { c with
      arms := batch.arms ++ c.arms
      defaultArm := c.defaultArm.map (·.shift new) <|> batch.defaultArm.map .arm
      recovery := c.recovery <|> batch.recovery
      seams := batch.seams ++ c.seams.map (·.shift (Seam.clamp new)) ++
        Seam.between new (old + new) ordered }

/-- The report about a default of the batch that comes too late. -/
def defaultReports [Located α] (c : Choice α) (batch : Batch α) : List Diagnostic :=
  match c.defaultArm, batch.defaultArm with
  | some _, some index =>
    (batch.arms[index]?.map fun arm => .duplicateDefault (Located.location arm)).toList
  | _, _ => []

/-- The report about an error branch of the batch: it comes too late, or arms
follow it. -/
def recoveryReports [Located α] (c : Choice α) (side : Side) (batch : Batch α) :
    List Diagnostic :=
  match batch.recovery with
  | none => []
  | some branch =>
    if c.recovery.isSome then [.duplicateRecovery (Located.location branch.body)]
    else if side = .front ∧ c.arms ≠ [] then
      [.misplacedRecovery (Located.location branch.body)]
    else []

/-- The report about an error branch of the choice that the batch puts arms
behind. -/
def positionReports [Located α] (c : Choice α) (side : Side) (batch : Batch α) :
    List Diagnostic :=
  match c.recovery with
  | some branch =>
    if side = .back ∧ batch.arms ≠ [] then
      [.misplacedRecovery (Located.location branch.body)]
    else []
  | none => []

/-- All that is reported when a batch is placed. -/
def insertReports [Located α] (c : Choice α) (side : Side) (batch : Batch α) :
    List Diagnostic :=
  c.defaultReports batch ++ c.recoveryReports side batch ++ c.positionReports side batch

end Choice

end GrammarTree
