import GrammarTree.Diagnostic
import GrammarTree.Expr.Alternation
import GrammarTree.Expr.Sequence
import GrammarTree.Grammar.Basic

/-!
# Building grammars

A draft holds a grammar under construction, the diagnostics written so far and
the location of the construct at hand.  Its operators build expressions at that
location, or around their operands while no location is set.

Main definitions:

- `Draft.alternate`: two operands joined by `|` or `/`; two terminals become
  one.
- `Draft.star`, `Draft.opt`, `Draft.plus`: loops.
- `Draft.finish`: the grammar and its diagnostics.
-/

namespace GrammarTree

/-- A grammar under construction. -/
structure Draft (S : Type) where
  grammar : Grammar S := {}
  log : Log := {}
  location : Location := none

namespace Draft

variable {S Item : Type}

/-- The draft of an empty grammar. -/
def ofSettings (settings : Settings) : Draft S where
  grammar := { settings }
  log := Log.ofSettings settings

/-- Set the location of the constructs to come. -/
def moveTo (d : Draft S) (location : Location) : Draft S :=
  { d with location }

/-- Where a construct with these operands stands: at the location that is set, else
around the operands. -/
def locationFor (d : Draft S) (operands : List (Expr S)) : Location :=
  d.location.orElse (Location.coverAll (operands.map Expr.location))

/-! ## Leaves -/

/-- A terminal. -/
def terminal (d : Draft S) (set : S) : Expr S :=
  Expr.terminal d.location set

/-- The terminal of one symbol. -/
def single [SymbolSet S Item] (d : Draft S) (item : Item) : Expr S :=
  d.terminal (SymbolSet.single item)

/-- The terminal of the end mark. -/
def endMark [SymbolSet S Item] (d : Draft S) : Expr S :=
  d.terminal (SymbolSet.withEnd SymbolSet.empty)

/-- The expression that matches the empty input. -/
def epsilon (d : Draft S) : Expr S :=
  Expr.epsilon d.location

/-- The mark that asks for the default handling of errors. -/
def defaultError (d : Draft S) : Expr S :=
  Expr.ofKind d.location .defaultError

/-- A test by user code. -/
def testCode (d : Draft S) (code : String) (negated : Bool) : Expr S :=
  Expr.ofKind d.location (.assertion { condition := .code code, negated })

/-- A call of a rule. -/
def call (d : Draft S) (id : RuleId) (params : List String) : Except BuildError (Expr S) :=
  d.grammar.call d.location id params

/-! ## Operators -/

/-- Two expressions one after the other. -/
def seq (d : Draft S) (first second : Expr S) : Expr S :=
  Expr.sequence (d.locationFor [first, second]) [first, second]

/-- A list of expressions one after the other. -/
def seqAll (d : Draft S) (parts : List (Expr S)) : Expr S :=
  Expr.sequence (d.locationFor parts) parts

/-- Two operands joined by `|`, or by `/` if `ordered`.  Two terminals without marks
become one terminal. -/
def alternate [SymbolSet S Item] (d : Draft S) (ordered : Bool) (left : Expr S)
    (leftRole : ArmRole) (right : Expr S) (rightRole : ArmRole) : Expr S × Draft S :=
  let united :=
    if leftRole = .ordinary ∧ rightRole = .ordinary then left.uniteTerminals? right else none
  match united with
  | some terminal => (terminal.withLocation (d.location.orElse terminal.location), d)
  | none =>
    let (e, reports) :=
      Expr.alternate (d.locationFor [left, right]) ordered left leftRole right rightRole
    (e, { d with log := d.log.writeAll reports })

/-- A loop around a body. -/
def loop (d : Draft S) (repetition : Repetition) (greedy : Option Bool) (body : Expr S) :
    Except BuildError (Expr S) :=
  Expr.loop (d.locationFor [body]) repetition greedy body

/-- A body any number of times. -/
def star (d : Draft S) (body : Expr S) : Except BuildError (Expr S) :=
  d.loop .star none body

/-- A body at most once. -/
def opt (d : Draft S) (body : Expr S) : Except BuildError (Expr S) :=
  d.loop .optional none body

/-- A body at least once: the body itself, then a star of a copy. -/
def plus (d : Draft S) (body : Expr S) : Except BuildError (Expr S) :=
  (d.star body.copy).map fun rest => d.seq body rest

/-- Make leaving a loop its default; other expressions stay as they are. -/
def defaultExit (d : Draft S) : Expr S → Expr S × Draft S
  | .node n (.choice c) =>
    let (_, changed, reports) := c.setDefaultExit (d.location.orElse n.location)
    (.node n (.choice changed), { d with log := d.log.writeAll reports })
  | e => (e, d)

/-- Decide with one expression and match with another. -/
def gate (d : Draft S) (predictor matcher : Expr S) (isEquivalence : Bool) :
    Except BuildError (Expr S) :=
  Expr.gate (d.locationFor [predictor, matcher]) predictor matcher isEquivalence

/-- A test whether the coming input matches an expression. -/
def testAhead (d : Draft S) (body : Expr S) (negated : Bool) : Expr S :=
  Expr.ofKind (d.locationFor [body]) (.assertion { condition := .ahead body, negated })

/-! ## Rules -/

/-- The number of the rule of a name; the rule is added if there is none. -/
def declare [SymbolSet S Item] (d : Draft S) (name : String) : RuleId × Draft S :=
  let (id, grammar) := d.grammar.declare name
  (id, { d with grammar })

/-- Give a rule its body, once. -/
def define (d : Draft S) (id : RuleId) (body : Expr S) : Except BuildError (Draft S) :=
  (d.grammar.define id body).map fun grammar => { d with grammar }

/-- Declare a rule and give it its body. -/
def addRule [SymbolSet S Item] (d : Draft S) (name : String) (body : Expr S) :
    Except BuildError (RuleId × Draft S) :=
  (d.grammar.addRule name body).map fun (id, grammar) => (id, { d with grammar })

/-- The grammar and its diagnostics, if every rule has a body. -/
def finish (d : Draft S) : Except BuildError (Grammar S × Log) :=
  d.grammar.finish.map fun grammar => (grammar, d.log)

end Draft

end GrammarTree
