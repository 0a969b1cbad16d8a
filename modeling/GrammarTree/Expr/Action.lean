/-!
# User code

Fragments of user code that a node carries: code to run before and after it
matches, and a wrapper around the code that matches it.

Main definitions:

- `Action.join`: two fragments as one.
- `Saver`: a wrapper with an identity of its own.
-/

namespace GrammarTree

/-- A fragment of user code, if there is one. -/
abbrev Action := Option String

namespace Action

/-- Two fragments as one, with a space between them; a missing fragment adds
nothing. -/
def join : Action → Action → Action
  | some a, some b => some (a ++ " " ++ b)
  | some a, none => some a
  | none, b => b

end Action

/-- A wrapper around the code that matches a node.  Wrappers are told apart by
identity, not by what they do. -/
structure Saver where
  id : Nat
  wrap : String → String

instance : BEq Saver where
  beq a b := a.id == b.id

/-- Something an analysis left at a node. -/
inductive Finding where
  | number (value : Int)
  | text (value : String)
deriving DecidableEq

end GrammarTree
