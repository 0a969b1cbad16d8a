import GrammarTree.Expr.Upkeep

/-!
# Copies, node by node

What copying and discarding do at a node, in terms of what they do to its parts.

Main results:

- Theorem `Expr.copy_node`: the new notes and the new construct of a node.
- Theorems `Expr.copy_choice` and `Expr.discard_choice`: a choice stays joined in the
  same way.
-/

namespace GrammarTree

/-- The construct without memory of reports. -/
def Kind.forget {S α : Type} : Kind S α → Kind S α
  | .choice c => .choice { c with reported := [] }
  | k => k

namespace Expr

variable {S Item : Type}

/-- A copy of a node has copies as parts; its finding and its reports are gone. -/
theorem copy_node (n : Notes) (k : Kind S (Expr S)) :
    (node n k).copy = node { n with finding := none } (k.map copy).forget := by
  rw [copy, fold_node]
  generalize Kind.map _ k = parts
  cases parts <;> rfl

/-- A copied choice has copies as arms and is joined in the same way. -/
theorem copy_choice (n : Notes) (c : Choice (Expr S)) :
    (node n (.choice c)).copy =
      node { n with finding := none }
        (.choice { c with
          arms := c.arms.map copy
          recovery := c.recovery.map fun branch => ⟨branch.body.copy, branch.exits⟩
          reported := [] }) := by
  rw [copy_node]
  rfl

/-- A choice without findings has arms without findings and is joined in the same
way. -/
theorem discard_choice [SymbolSet S Item] (n : Notes) (c : Choice (Expr S)) :
    (node n (.choice c)).discard =
      node { n with finding := none }
        (.choice { c with
          arms := c.arms.map discard
          recovery := c.recovery.map fun branch => ⟨branch.body.discard, branch.exits⟩
          reported := [] }) := by
  rw [discard, fold_node]
  rfl

end Expr

end GrammarTree
