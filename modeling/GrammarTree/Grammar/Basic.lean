import GrammarTree.Diagnostic
import GrammarTree.Text.CharProperty
import GrammarTree.Expr.Upkeep

/-!
# Grammars

A grammar is a table of rules.  Rules are known by their number, so they can call
each other before they have a body.

Main definitions:

- `Grammar.declare` and `Grammar.define`: a number for a name, and a body for a
  number.
- `Grammar.finish`: the grammar, if every rule has a body.
-/

namespace GrammarTree

/-- A rule of a grammar. -/
structure Rule (S : Type) where
  name : String
  body : Option (Expr S) := none
  isToken : Bool
  lookahead : Nat
  isPrivate : Bool := false
  isStart : Bool := false
  ending : RuleEnd S

/-- The rules of a grammar in the order of declaration, with an index of their
names. -/
structure Grammar (S : Type) where
  settings : Settings := {}
  rules : List (Rule S) := []
  /-- The number of the rule of each name. -/
  index : List (String × RuleId) := []

namespace Grammar

variable {S Item : Type} [SymbolSet S Item]

/-- The rule of a number. -/
def rule? (g : Grammar S) (id : RuleId) : Option (Rule S) :=
  g.rules[id.index]?

/-- The body of the rule of a number. -/
def body? (g : Grammar S) (id : RuleId) : Option (Expr S) :=
  (g.rule? id).bind Rule.body

/-- The number of the rule of a name. -/
def ruleId? (g : Grammar S) (name : String) : Option RuleId :=
  g.index.lookup name

/-- Whether a rule of this name is a token rule from the start. -/
def namesToken (g : Grammar S) (name : String) : Bool :=
  g.settings.uppercaseTokens && name.toList.head?.any Text.isUppercase

/-- The number of the rule of a name; the rule is added if there is none. -/
def declare (g : Grammar S) (name : String) : RuleId × Grammar S :=
  match g.ruleId? name with
  | some id => (id, g)
  | none =>
    let id : RuleId := ⟨g.rules.length⟩
    let rule : Rule S :=
      { name
        isToken := g.namesToken name
        lookahead := g.settings.lookahead
        ending := RuleEnd.ofRule id }
    (id, { g with rules := g.rules ++ [rule], index := (name, id) :: g.index })

/-- Change the rule of a number, which must be there. -/
def modify (g : Grammar S) (id : RuleId) (f : Rule S → Rule S) :
    Except BuildError (Grammar S) :=
  if id.index < g.rules.length then .ok { g with rules := g.rules.modify id.index f }
  else .error (.unknownRule id)

/-- Give a rule its body, once. -/
def define (g : Grammar S) (id : RuleId) (body : Expr S) : Except BuildError (Grammar S) :=
  match g.rule? id with
  | none => .error (.unknownRule id)
  | some rule =>
    if rule.body.isSome then .error (.duplicateRule rule.name)
    else g.modify id fun r => { r with body := some body }

/-- Declare a rule and give it its body. -/
def addRule (g : Grammar S) (name : String) (body : Expr S) :
    Except BuildError (RuleId × Grammar S) :=
  let (id, declared) := g.declare name
  (declared.define id body).map fun defined => (id, defined)

/-- A call of a rule, which must be there. -/
def call (g : Grammar S) (location : Location) (id : RuleId) (params : List String) :
    Except BuildError (Expr S) :=
  match g.rule? id with
  | none => .error (.unknownRule id)
  | some rule => .ok (Expr.ofKind location (.call ⟨id, rule.name, params⟩))

/-- Make a rule a token rule or a parser rule. -/
def setToken (g : Grammar S) (id : RuleId) (isToken : Bool) : Except BuildError (Grammar S) :=
  g.modify id fun r => { r with isToken }

/-- Set how many tokens of lookahead a rule uses. -/
def setLookahead (g : Grammar S) (id : RuleId) (lookahead : Nat) :
    Except BuildError (Grammar S) :=
  g.modify id fun r => { r with lookahead }

/-- Make a rule private or public. -/
def setPrivate (g : Grammar S) (id : RuleId) (isPrivate : Bool) :
    Except BuildError (Grammar S) :=
  g.modify id fun r => { r with isPrivate }

/-- Mark or unmark a rule as a start rule. -/
def setStart (g : Grammar S) (id : RuleId) (isStart : Bool) : Except BuildError (Grammar S) :=
  g.modify id fun r => { r with isStart }

/-- Add symbols that can follow a rule; the answer tells whether any of them is
new. -/
def addFollow (g : Grammar S) (id : RuleId) (set : S) : Except BuildError (Bool × Grammar S) :=
  match g.rule? id with
  | none => .error (.unknownRule id)
  | some rule =>
    let (grown, ending) := rule.ending.addFollow set
    (g.modify id fun r => { r with ending }).map fun changed => (grown, changed)

/-- The rules at which parsing can start: the marked ones, or all public ones if
none is marked. -/
def startRules (g : Grammar S) : List RuleId :=
  let marked := g.rules.any Rule.isStart
  (g.rules.zipIdx.filter fun (r, _) => if marked then r.isStart else !r.isPrivate).map
    fun (_, index) => ⟨index⟩

/-- The grammar as if no analysis had run. -/
def discard (g : Grammar S) : Grammar S :=
  { g with
    rules := g.rules.map fun r =>
      { r with
        body := r.body.map Expr.discard
        ending := { r.ending with follow := SymbolSet.empty } } }

/-- The grammar, if every rule has a body; otherwise the first rule without one is
to blame. -/
def finish (g : Grammar S) : Except BuildError (Grammar S) :=
  match g.rules.find? fun r => r.body.isNone with
  | some rule => .error (.undefinedRule rule.name)
  | none => .ok g

end Grammar

end GrammarTree
