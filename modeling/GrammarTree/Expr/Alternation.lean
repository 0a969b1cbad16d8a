import GrammarTree.Choice.Insert
import GrammarTree.Expr.Basic

/-!
# Alternatives, loops and gates

The operators that combine expressions other than by sequence.  Alternatives are
kept flat: a choice without marks gives its arms up to the choice it is joined
with.

Main definitions:

- `Expr.alternate`: two expressions joined by `|` or `/`.
- `Expr.loop`: an expression as the body of an optional element or a star.
- `Expr.gate`: one expression that decides and another that matches.
- `Expr.uniteTerminals?` and `Expr.widen?`: larger terminals.
-/

namespace GrammarTree.Expr

variable {S : Type}

/-- What an operand in a role brings into a choice: its arms if it is nothing but
arms to choose from and has no mark, itself otherwise. -/
def batch (operand : Expr S) (role : ArmRole) : Batch (Expr S) :=
  match role, operand.plainChoice? with
  | .ordinary, some c => Batch.ofChoice c
  | _, _ => Batch.ofArm operand role

/-- The choice to which the other operand of `|` or `/` is added. -/
def host? (operand : Expr S) (role : ArmRole) : Option (Choice (Expr S)) :=
  if role = .ordinary then operand.plainChoice? else none

/-- Join two operands by `|`, or by `/` if `ordered`, into one choice.  A choice on
either side takes the other operand in. -/
def alternate (location : Location) (ordered : Bool) (left : Expr S) (leftRole : ArmRole)
    (right : Expr S) (rightRole : ArmRole) : Expr S × List Diagnostic :=
  match left.host? leftRole with
  | some host =>
    (ofKind location (.choice (host.insert .back ordered (right.batch rightRole))),
      host.insertReports .back (right.batch rightRole))
  | none =>
    match right.host? rightRole with
    | some host =>
      (ofKind location (.choice (host.insert .front ordered (left.batch leftRole))),
        host.insertReports .front (left.batch leftRole))
    | none =>
      let host := ({ repetition := .once } : Choice (Expr S)).insert .back ordered
        (left.batch leftRole)
      (ofKind location (.choice (host.insert .back ordered (right.batch rightRole))),
        host.insertReports .back (right.batch rightRole))

/-- The choice that repeats a body.  A body that is nothing but arms to choose
from gives them up to the loop. -/
def loopChoice (repetition : Repetition) (greedy : Option Bool) (body : Expr S) :
    Choice (Expr S) :=
  match body.plainChoice? with
  | some c => { c with repetition, greedy, reported := [] }
  | none => { repetition, greedy, arms := [body] }

/-- Repeat a body.  A loop cannot be the body of a loop. -/
def loop (location : Location) (repetition : Repetition) (greedy : Option Bool)
    (body : Expr S) : Except BuildError (Expr S) :=
  match body.choice? with
  | some inner =>
    if repetition.isLoop && inner.isLoop then
      .error (.nestedLoop location repetition inner.repetition)
    else .ok (ofKind location (.choice (loopChoice repetition greedy body)))
  | none => .ok (ofKind location (.choice (loopChoice repetition greedy body)))

/-- Whether an expression is a gate. -/
def isGate : Expr S → Bool
  | node _ (.gate _) => true
  | _ => false

/-- Decide with one expression and match with another.  Neither side can be a
gate; the error points at that side if its location is known. -/
def gate (location : Location) (predictor matcher : Expr S) (isEquivalence : Bool) :
    Except BuildError (Expr S) :=
  if predictor.isGate then .error (.nestedGate (predictor.location.orElse location))
  else if matcher.isGate then .error (.nestedGate (matcher.location.orElse location))
  else .ok (ofKind location (.gate ⟨predictor, matcher, isEquivalence⟩))

/-- Two terminals with the same user code as one terminal. -/
def uniteTerminals? {Item : Type} [SymbolSet S Item] : Expr S → Expr S → Option (Expr S)
  | node m (.terminal s), node n (.terminal t) =>
    if m.before = n.before ∧ m.after = n.after ∧ m.saver == n.saver then
      some (node
        { location := m.location.cover n.location
          before := m.before
          after := m.after
          saver := m.saver }
        (.terminal (SymbolSet.union s t)))
    else none
  | _, _ => none

/-- A terminal with more symbols. -/
def widen? {Item : Type} [SymbolSet S Item] : Expr S → S → Option (Expr S)
  | node n (.terminal s), extra => some (node n (.terminal (SymbolSet.union s extra)))
  | _, _ => none

end GrammarTree.Expr
