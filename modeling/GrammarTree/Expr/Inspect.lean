import GrammarTree.Text.Escape
import GrammarTree.Expr.Basic

/-!
# The structural view

A one-line text that shows every field of a tree, for looking into a grammar
under construction.  Records name their fields between braces, variants hold
their content between parentheses, lists stand between brackets.

Main definitions:

- `Expr.inspect`: the structural view of an expression.
-/

namespace GrammarTree

namespace Inspect

/-- Texts with commas between them. -/
def commas (texts : List String) : String :=
  String.intercalate ", " texts

/-- The fields of a record, each with its name. -/
def fields (entries : List (String × String)) : String :=
  commas (entries.map fun (name, text) => name ++ ": " ++ text)

/-- A record with all its fields. -/
def record (name : String) (entries : List (String × String)) : String :=
  name ++ " \x7b " ++ fields entries ++ " \x7d"

/-- A record that has more fields than are shown. -/
def openRecord (name : String) (entries : List (String × String)) : String :=
  name ++ " \x7b " ++ fields entries ++ ", .. \x7d"

/-- A variant with its content. -/
def variant (name content : String) : String :=
  name ++ "(" ++ content ++ ")"

/-- A list. -/
def list (texts : List String) : String :=
  "[" ++ commas texts ++ "]"

/-- A value that may be missing. -/
def optional : Option String → String
  | some text => variant "Some" text
  | none => "None"

end Inspect

open Inspect

/-- The structural view of a location. -/
def Location.inspect (location : Location) : String :=
  record "Basis"
    [("range", optional (location.map fun span =>
      record "TextRange"
        [("start", variant "TextSize" (toString span.start)),
          ("end", variant "TextSize" (toString span.stop))]))]

/-- The structural view of a repetition. -/
def Repetition.inspect : Repetition → String
  | once => "None"
  | optional => "Opt"
  | star => "Star"

/-- The structural view of a seam. -/
def Seam.inspect (s : Seam) : String :=
  record "Division"
    [("left", toString s.left), ("mid", toString s.mid), ("right", toString s.right),
      ("slash", toString s.ordered)]

/-- The structural view of a rule number. -/
def RuleId.inspect (id : RuleId) : String :=
  variant "RuleId" (toString id.index)

/-- The structural view of a choice whose parts are texts. -/
def Choice.inspect (c : Choice String) : String :=
  openRecord "Alternation"
    [("mode", c.repetition.inspect),
      ("greedy", optional (c.greedy.map toString)),
      ("arms", list c.arms),
      ("default_arm", optional (c.defaultArm.map fun d => toString d.number)),
      ("error_branch", optional c.recoveryBody?),
      ("exit_on_error", toString c.exitsOnError),
      ("divisions", list (c.seams.map Seam.inspect))]

/-- The structural view of an assertion whose part is a text. -/
def Assertion.inspect (a : Assertion String) : String :=
  record "AndPred"
    [("condition",
        match a.condition with
        | .code text => variant "Code" (Text.quoteText text)
        | .ahead body => variant "Pred" body),
      ("not", toString a.negated),
      ("local", toString a.isLocal),
      ("uses_lookahead",
        variant "OnceCell" (if a.settled then toString a.usesLookahead else "Uninit"))]

/-- The structural view of a construct whose parts are texts. -/
def Kind.inspect {S Item : Type} [SymbolSet S Item] : Kind S String → String
  | terminal set =>
    variant "Terminal" (record "TerminalPred" [("set", SymbolSet.inspect set)])
  | sequence items => variant "Seq" (record "Seq" [("items", list items)])
  | choice c => variant "Alts" c.inspect
  | gate g =>
    variant "Gate" (record "Gate"
      [("predictor", g.predictor), ("matcher", g.matcher),
        ("is_equivalency", toString g.isEquivalence)])
  | assertion a => variant "AndPred" a.inspect
  | call c =>
    variant "RuleRef" (record "RuleRef"
      [("rule", c.rule.inspect), ("name", Text.quoteText c.name),
        ("params", list (c.params.map Text.quoteText))])
  | ruleEnd e =>
    variant "EndOfRule" (record "EndOfRule"
      [("rule", e.rule.inspect), ("follow", SymbolSet.inspect e.follow)])
  | defaultError => "DefaultErrorBranch"

/-- The structural view of an expression. -/
def Expr.inspect {S Item : Type} [SymbolSet S Item] : Expr S → String :=
  Expr.fold fun n k =>
    record "Pred"
      [("basis", n.location.inspect),
        ("pre_action", optional (n.before.map Text.quoteText)),
        ("post_action", optional (n.after.map Text.quoteText)),
        ("result_saver", optional (n.saver.map fun _ => variant "ResultSaver" "..")),
        ("analysis",
          variant "AnalysisSlot" (if n.finding.isSome then "attached" else "empty")),
        ("kind", k.inspect)]

end GrammarTree
