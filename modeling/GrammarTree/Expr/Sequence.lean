import GrammarTree.Expr.Basic

/-!
# Sequences

Sequences are kept flat.  A sequence that becomes an item of another one gives
its items up to it; its own code moves to its first and last item, so that the
code still runs at the same moments.

Main definitions:

- `Expr.items`: what an expression brings into a sequence.
- `Expr.sequence`: a list of expressions one after the other.
-/

namespace GrammarTree.Expr

variable {S : Type}

/-- Change the last member of a list. -/
def mapLast {α : Type} (f : α → α) : List α → List α
  | [] => []
  | [x] => [f x]
  | x :: y :: rest => x :: mapLast f (y :: rest)

/-- Change the first member of a list. -/
def mapFirst {α : Type} (f : α → α) : List α → List α
  | [] => []
  | x :: rest => f x :: rest

/-- Run code in front of all code of an expression. -/
def runBefore (code : Action) (e : Expr S) : Expr S :=
  e.mapNotes fun n => { n with before := code.join n.before }

/-- Run code behind all code of an expression. -/
def runAfter (code : Action) (e : Expr S) : Expr S :=
  e.mapNotes fun n => { n with after := n.after.join code }

/-- The items that an expression brings into a sequence.  A sequence brings its
own items, unless a wrapper needs it whole; an empty sequence brings nothing,
unless it carries code. -/
def items : Expr S → List (Expr S)
  | node n (.sequence parts) =>
    if n.saver.isSome then [node n (.sequence parts)]
    else if parts.isEmpty then if n.hasCode then [node n (.sequence [])] else []
    else mapLast (runAfter n.after) (mapFirst (runBefore n.before) parts)
  | e => [e]

/-- A list of expressions one after the other.  A single item stands for
itself. -/
def sequence (location : Location) (parts : List (Expr S)) : Expr S :=
  match parts.flatMap items with
  | [only] => only
  | flat => ofKind location (.sequence flat)

end GrammarTree.Expr
