import GrammarTree.Choice.Basic

/-!
# Construction errors

Mistakes after which no meaningful tree can be built.  Lesser conflicts are
diagnostics and do not stop construction.

Main definitions:

- `BuildError`: the five ways construction can fail.
- `BuildError.message`: the text of an error.
-/

namespace GrammarTree

/-- The position of a rule in the rule table. -/
structure RuleId where
  index : Nat
deriving DecidableEq

/-- Rule numbers are written with a hash sign in front. -/
def RuleId.render (id : RuleId) : String :=
  "#" ++ toString id.index

/-- Why a construct was refused. -/
inductive BuildError where
  /-- A loop whose body is a loop already. -/
  | nestedLoop (location : Location) (outer inner : Repetition)
  /-- A gate one of whose sides is a gate. -/
  | nestedGate (location : Location)
  /-- A second body for a rule. -/
  | duplicateRule (name : String)
  /-- A rule without a body in a grammar that is being finished. -/
  | undefinedRule (name : String)
  /-- A rule number that no rule has. -/
  | unknownRule (id : RuleId)
deriving DecidableEq

namespace BuildError

/-- The text of an error. -/
def message : BuildError → String
  | nestedLoop location outer inner =>
    inner.render ++ " loop cannot be nested directly inside " ++ outer.render ++
      " loop (at " ++ location.render ++ ")"
  | nestedGate location => "gates cannot be nested (at " ++ location.render ++ ")"
  | duplicateRule name => "rule `" ++ name ++ "` is already defined"
  | undefinedRule name => "rule `" ++ name ++ "` was declared but never defined"
  | unknownRule id => "no rule with id " ++ id.render

/-- The location an error points at; errors about rules point at none. -/
def location? : BuildError → Option Location
  | nestedLoop location _ _ => some location
  | nestedGate location => some location
  | duplicateRule _ => none
  | undefinedRule _ => none
  | unknownRule _ => none

/-- The stable code by which tools recognise an error. -/
def code : BuildError → String
  | nestedLoop _ _ _ => "grammar::nested_loop"
  | nestedGate _ => "grammar::nested_gate"
  | duplicateRule _ => "grammar::duplicate_rule"
  | undefinedRule _ => "grammar::undefined_rule"
  | unknownRule _ => "grammar::unknown_rule"

/-- Advice on how to mend the construct, where there is any. -/
def help? : BuildError → Option String
  | nestedLoop _ _ _ =>
    some "wrap the inner loop in a sequence or merge the two loops into one"
  | _ => none

end BuildError

end GrammarTree
