import GrammarTree.Expr.Basic

/-!
# Copies and discarded findings

Trees collect what analyses find out: findings at nodes, ambiguities that were
reported, symbols that can follow a rule.  A copy starts without findings and
reports; a tree can also be brought back to that state as a whole.

Main definitions:

- `Expr.copy`: an independent copy for use at another place.
- `Expr.discard`: the tree as if no analysis had run.
- `Expr.settle`: the tree with every assertion settled.
-/

namespace GrammarTree.Expr

variable {S : Type}

/-- The tree without findings and without memory of reports. -/
def copy : Expr S → Expr S :=
  fold fun n k =>
    node { n with finding := none } <|
      match k with
      | .choice c => .choice { c with reported := [] }
      | k => k

/-- The tree as if no analysis had run: follow sets are emptied and assertions
are unsettled, too. -/
def discard {Item : Type} [SymbolSet S Item] : Expr S → Expr S :=
  fold fun n k =>
    node { n with finding := none } <|
      match k with
      | .choice c => .choice { c with reported := [] }
      | .ruleEnd e => .ruleEnd { e with follow := SymbolSet.empty }
      | .assertion a => .assertion { a with settled := false }
      | k => k

/-- The tree with every assertion settled. -/
def settle : Expr S → Expr S :=
  fold fun n k =>
    node n <|
      match k with
      | .assertion a => .assertion a.settle
      | k => k

end GrammarTree.Expr
