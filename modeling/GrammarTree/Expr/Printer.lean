import GrammarTree.Choice.Printer
import GrammarTree.Expr.Basic

/-!
# Printing expressions

The text of an expression as a user would write it in a grammar.  Parentheses
stand where the flat text would read differently.

Main definitions:

- `Expr.render`: the text of an expression.
- `Expr.armName`: the name of an arm in a message.
-/

namespace GrammarTree

namespace Kind

variable {S α : Type}

/-- Whether a construct needs parentheses beside other items or code. -/
def needsGroup : Kind S α → Bool
  | sequence items => 1 < items.length
  | choice c => !c.isLoop && (1 < c.arms.length || c.recovery.isSome)
  | gate _ => true
  | _ => false

/-- Whether a construct needs parentheses as an arm of a choice. -/
def needsGroupAsArm : Kind S α → Bool
  | choice c => !c.isLoop
  | gate _ => true
  | _ => false

/-- Whether a construct can carry the mark of a loop without parentheses. -/
def isAtomic : Kind S α → Bool
  | terminal _ => true
  | call _ => true
  | assertion _ => true
  | ruleEnd _ => true
  | defaultError => true
  | _ => false

end Kind

namespace Expr

variable {S Item : Type} [SymbolSet S Item]

/-- A text between parentheses. -/
def parenthesized (text : String) : String :=
  "(" ++ text ++ ")"

/-- The text of an item of a sequence or a side of a gate. -/
def itemText (part : Expr S × String) : String :=
  if !part.1.notes.hasCode && part.1.kind.needsGroup then parenthesized part.2 else part.2

/-- The text of an arm. -/
def armText (part : Expr S × String) : String :=
  if part.1.kind.needsGroupAsArm then parenthesized part.2 else part.2

/-- The choice of the texts of its parts. -/
def textChoice (c : Choice (Expr S × String)) : Choice String :=
  { c with
    arms := c.arms.map armText
    recovery := c.recovery.map fun branch => ⟨branch.body.2, branch.exits⟩ }

/-- The only arm of a loop, if it can carry the mark of the loop itself. -/
def bareLoop? (c : Choice (Expr S × String)) : Option String :=
  match c.arms with
  | [only] =>
    if c.greedy.isNone && c.recovery.isNone && c.defaultArm.isNone &&
        !only.1.notes.hasCode && only.1.kind.isAtomic then
      some only.2
    else none
  | _ => none

/-- The text of a choice. -/
def renderChoice (c : Choice (Expr S × String)) : String :=
  match c.repetition, bareLoop? c with
  | .optional, some text => text ++ "?"
  | .star, some text => text ++ "*"
  | _, _ => (textChoice c).render

/-- The text of a construct whose parts come with their texts. -/
def renderKind : Kind S (Expr S × String) → String
  | .terminal set => SymbolSet.render set
  | .sequence [] => "()"
  | .sequence items => String.intercalate " " (items.map itemText)
  | .choice c => renderChoice c
  | .gate g =>
    itemText g.predictor ++ (if g.isEquivalence then " <=> " else " => ") ++ itemText g.matcher
  | .assertion a =>
    (if a.negated then "!" else "&") ++
      match a.condition with
      | .code text => "\x7b" ++ text ++ "\x7d"
      | .ahead body => parenthesized body.2
  | .call c =>
    if c.params.isEmpty then c.name
    else c.name ++ parenthesized (String.intercalate ", " c.params)
  | .ruleEnd _ => "<end>"
  | .defaultError => "default_error"

/-- The text of a construct with the code of its node in braces around it. -/
def withCode (n : Notes) (needsGroup : Bool) (text : String) : String :=
  (match n.before with
    | some code => "\x7b" ++ code ++ "\x7d "
    | none => "") ++
  (if n.hasCode && needsGroup then parenthesized text else text) ++
  match n.after with
  | some code => " \x7b" ++ code ++ "\x7d"
  | none => ""

/-- The text of an expression. -/
def render : Expr S → String :=
  para fun n k => withCode n k.needsGroup (renderKind k)

/-- The name of an arm in a message: its number, and its text if that is no longer
than the budget. -/
def armName (c : Choice (Expr S)) (arm : Int) (budget : Nat) : String :=
  if arm = DefaultArm.exitNumber then "exit"
  else
    let number := toString (arm + 1)
    match c.arm? arm with
    | some e =>
      let text := e.render
      if text.length ≤ budget then number ++ ":" ++ text else number
    | none => number

end Expr

end GrammarTree
