import GrammarTree.Text.CharProperty

/-!
# Assertions

An assertion tests a condition at the current input position and consumes
nothing.  The condition is user code or an expression that the coming input has
to match.

Main definitions:

- `Condition.usesLookahead`: whether the condition looks at coming input.
- `mentionsPlaceholder`: whether user code names the coming input.
- `behindEach`: the search for a word in a text.
-/

namespace GrammarTree

/-- What an assertion tests. -/
inductive Condition (α : Type) where
  | code (text : String)
  | ahead (body : α)

/-- A test that consumes no input. -/
structure Assertion (α : Type) where
  condition : Condition α
  /-- Whether the condition has to fail. -/
  negated : Bool
  /-- Whether the test concerns this alternation only. -/
  isLocal : Bool := false
  /-- Whether it was settled already if the test looks at coming input. -/
  settled : Bool := false

/-- Whether a character can continue a name. -/
def isNameChar (c : Char) : Bool :=
  Text.isAlphanumeric c || c == '_'

/-- The words that stand for the coming input in user code. -/
def placeholders : List String :=
  ["$LI", "$LA"]

/-- What stands behind the occurrences of a word in a text.  The search goes from left to right
and goes on behind each occurrence, so that no two of them overlap. -/
def behindEach (word : List Char) : List Char → List (List Char)
  | [] => []
  | c :: rest =>
    if word.isPrefixOf (c :: rest) then
      -- the first character of the word went with `c`
      let behind := rest.drop (word.length - 1)
      behind :: behindEach word behind
    else behindEach word rest
termination_by text => text.length

/-- Whether a name in front of a text ends there. -/
def endsName (text : List Char) : Bool :=
  !text.head?.any isNameChar

/-- Whether a placeholder for the coming input occurs in user code, and no longer name does
there. -/
def mentionsPlaceholder (code : String) : Bool :=
  placeholders.any fun word => (behindEach word.toList code.toList).any endsName

/-- Whether a condition looks at coming input. -/
def Condition.usesLookahead {α : Type} : Condition α → Bool
  | code text => mentionsPlaceholder text
  | ahead _ => true

namespace Assertion

variable {α : Type}

/-- Whether the test looks at coming input. -/
def usesLookahead (a : Assertion α) : Bool :=
  a.condition.usesLookahead

/-- Whether the test is by an expression. -/
def isSyntactic (a : Assertion α) : Bool :=
  match a.condition with
  | .code _ => false
  | .ahead _ => true

/-- The test, made local or not. -/
def withLocal (a : Assertion α) (isLocal : Bool) : Assertion α :=
  { a with isLocal }

/-- The test after it was settled. -/
def settle (a : Assertion α) : Assertion α :=
  { a with settled := true }

end Assertion

end GrammarTree
