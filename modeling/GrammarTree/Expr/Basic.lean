import GrammarTree.BuildError
import GrammarTree.Symbol.Basic
import GrammarTree.Choice.Basic
import GrammarTree.Expr.Action
import GrammarTree.Expr.Assertion

/-!
# Grammar expressions

The tree of a grammar expression.  A node carries notes (its location, user code
and what an analysis left there) and a construct of one of eight kinds.  A
construct is a functor in the type of its parts; an expression takes expressions
as parts.

Main results:

- Definition `Expr.para`: recursion over an expression, in which each part comes
  with its own result.  All recursive functions on expressions are instances.
- Theorem `Expr.para_node`: what this recursion does at a node.
- Theorem `Expr.induction`: a property holds of all expressions if it passes from
  the parts of a node to the node.
-/

namespace GrammarTree

/-! ## Constructs -/

/-- A gate: the decision is made with one expression, the input is matched with
another.  An equivalence gate also promises that the two match the same. -/
structure Gate (α : Type) where
  predictor : α
  matcher : α
  isEquivalence : Bool

/-- A call of a rule, with parameters handed through to the generated code. -/
structure Call where
  rule : RuleId
  name : String
  params : List String := []
deriving DecidableEq

/-- The end of a rule, with the symbols that can follow it. -/
structure RuleEnd (S : Type) where
  rule : RuleId
  follow : S

namespace RuleEnd

variable {S Item : Type} [SymbolSet S Item]

/-- The end of a rule that nothing is known to follow. -/
def ofRule (rule : RuleId) : RuleEnd S :=
  ⟨rule, SymbolSet.empty⟩

/-- Add symbols that can follow; the answer tells whether any of them is new. -/
def addFollow (e : RuleEnd S) (set : S) : Bool × RuleEnd S :=
  let follow := SymbolSet.union e.follow set
  if follow == e.follow then (false, e) else (true, { e with follow })

end RuleEnd

/-- A construct over the symbol sets `S` whose parts are of type `α`. -/
inductive Kind (S α : Type) where
  | terminal (set : S)
  | sequence (items : List α)
  | choice (choice : Choice α)
  | gate (gate : Gate α)
  | assertion (assertion : Assertion α)
  | call (call : Call)
  | ruleEnd (ruleEnd : RuleEnd S)
  | defaultError

namespace Kind

variable {S α β : Type}

/-- The parts of a construct in order. -/
def children : Kind S α → List α
  | terminal _ => []
  | sequence items => items
  | choice c => c.children
  | gate g => [g.predictor, g.matcher]
  | assertion ⟨.ahead body, _, _, _⟩ => [body]
  | assertion ⟨.code _, _, _, _⟩ => []
  | call _ => []
  | ruleEnd _ => []
  | defaultError => []

/-- The same construct over other parts. -/
def map (f : α → β) : Kind S α → Kind S β
  | terminal set => terminal set
  | sequence items => sequence (items.map f)
  | choice c =>
    choice { c with
      arms := c.arms.map f
      recovery := c.recovery.map fun branch => ⟨f branch.body, branch.exits⟩ }
  | gate g => gate ⟨f g.predictor, f g.matcher, g.isEquivalence⟩
  | assertion ⟨.ahead body, negated, isLocal, settled⟩ =>
    assertion ⟨.ahead (f body), negated, isLocal, settled⟩
  | assertion ⟨.code text, negated, isLocal, settled⟩ =>
    assertion ⟨.code text, negated, isLocal, settled⟩
  | call c => call c
  | ruleEnd e => ruleEnd e
  | defaultError => defaultError

end Kind

/-! ## Nodes -/

/-- What a node carries beside its construct. -/
structure Notes where
  location : Location := none
  /-- Code to run before the node matches. -/
  before : Action := none
  /-- Code to run after the node matched. -/
  after : Action := none
  saver : Option Saver := none
  finding : Option Finding := none

/-- Whether any user code is attached. -/
def Notes.hasActions (n : Notes) : Bool :=
  n.before.isSome || n.after.isSome || n.saver.isSome

/-- Whether code runs before or after the node. -/
def Notes.hasCode (n : Notes) : Bool :=
  n.before.isSome || n.after.isSome

/-- A grammar expression over the symbol sets `S`. -/
inductive Expr (S : Type) where
  | node (notes : Notes) (kind : Kind S (Expr S))

namespace Expr

variable {S β : Type}

/-- What a node carries beside its construct. -/
def notes : Expr S → Notes
  | node n _ => n

/-- The construct of a node. -/
def kind : Expr S → Kind S (Expr S)
  | node _ k => k

/-- Where an expression stands. -/
def location (e : Expr S) : Location :=
  e.notes.location

instance : Located (Expr S) where
  location := location

/-- The parts of an expression in order. -/
def children (e : Expr S) : List (Expr S) :=
  e.kind.children

/-- A node without user code. -/
def ofKind (location : Location) (kind : Kind S (Expr S)) : Expr S :=
  node { location } kind

/-- Change the notes of a node. -/
def mapNotes (f : Notes → Notes) : Expr S → Expr S
  | node n k => node (f n) k

/-- The choice at the root of an expression. -/
def choice? : Expr S → Option (Choice (Expr S))
  | node _ (.choice c) => some c
  | _ => none

/-- The assertion at the root of an expression. -/
def assertion? : Expr S → Option (Assertion (Expr S))
  | node _ (.assertion a) => some a
  | _ => none

/-- The items of a sequence. -/
def sequence? : Expr S → Option (List (Expr S))
  | node _ (.sequence items) => some items
  | _ => none

/-- Whether an expression is a terminal. -/
def isTerminal : Expr S → Bool
  | node _ (.terminal _) => true
  | _ => false

/-- The choice of an expression that is nothing but arms to choose from: no
user code and no loop. -/
def plainChoice? : Expr S → Option (Choice (Expr S))
  | node n (.choice c) => if n.hasActions || c.isLoop then none else some c
  | _ => none

/-! ### Leaves and notes -/

/-- A terminal. -/
def terminal (location : Location) (set : S) : Expr S :=
  ofKind location (.terminal set)

/-- The sequence without items, which matches the empty input. -/
def epsilon (location : Location) : Expr S :=
  ofKind location (.sequence [])

/-- The same expression at another location. -/
def withLocation (e : Expr S) (location : Location) : Expr S :=
  e.mapNotes fun n => { n with location }

/-- Code to run before the expression, behind the code that is there. -/
def withBefore (e : Expr S) (code : String) : Expr S :=
  e.mapNotes fun n => { n with before := n.before.join (some code) }

/-- Code to run after the expression, behind the code that is there. -/
def withAfter (e : Expr S) (code : String) : Expr S :=
  e.mapNotes fun n => { n with after := n.after.join (some code) }

/-- The expression with a wrapper around its matching code. -/
def withSaver (e : Expr S) (saver : Saver) : Expr S :=
  e.mapNotes fun n => { n with saver := some saver }

/-- The expression with a finding attached. -/
def withFinding (e : Expr S) (finding : Finding) : Expr S :=
  e.mapNotes fun n => { n with finding := some finding }

/-- Make an assertion local; other expressions stay as they are. -/
def makeLocal : Expr S → Expr S
  | node n (.assertion a) => node n (.assertion (a.withLocal true))
  | e => e

/-- Exchange the construct of a node. -/
def withKind (e : Expr S) (kind : Kind S (Expr S)) : Expr S :=
  node e.notes kind

/-! ## Recursion -/

mutual

/-- Recursion over an expression: `step` gets the notes of a node and its
construct, in which each part comes with its own result. -/
def para (step : Notes → Kind S (Expr S × β) → β) : Expr S → β
  | node n k => step n (paraKind step k)

/-- The recursion on the parts of a construct. -/
def paraKind (step : Notes → Kind S (Expr S × β) → β) :
    Kind S (Expr S) → Kind S (Expr S × β)
  | .terminal set => .terminal set
  | .sequence items => .sequence (paraList step items []).reverse
  | .choice ⟨repetition, greedy, arms, defaultArm, none, seams, reported⟩ =>
    .choice ⟨repetition, greedy, (paraList step arms []).reverse, defaultArm, none, seams,
      reported⟩
  | .choice ⟨repetition, greedy, arms, defaultArm, some ⟨body, exits⟩, seams, reported⟩ =>
    .choice ⟨repetition, greedy, (paraList step arms []).reverse, defaultArm,
      some ⟨(body, para step body), exits⟩, seams, reported⟩
  | .gate ⟨predictor, matcher, isEquivalence⟩ =>
    .gate ⟨(predictor, para step predictor), (matcher, para step matcher), isEquivalence⟩
  | .assertion ⟨.ahead body, negated, isLocal, settled⟩ =>
    .assertion ⟨.ahead (body, para step body), negated, isLocal, settled⟩
  | .assertion ⟨.code text, negated, isLocal, settled⟩ =>
    .assertion ⟨.code text, negated, isLocal, settled⟩
  | .call c => .call c
  | .ruleEnd e => .ruleEnd e
  | .defaultError => .defaultError

/-- The recursion on a list of parts; the results are pushed onto `done`. -/
def paraList (step : Notes → Kind S (Expr S × β) → β) :
    List (Expr S) → List (Expr S × β) → List (Expr S × β)
  | [], done => done
  | e :: rest, done => paraList step rest ((e, para step e) :: done)

end

/-- Recursion over an expression that looks at the results for the parts only. -/
def fold (step : Notes → Kind S β → β) : Expr S → β :=
  para fun n k => step n (k.map Prod.snd)

/-- The recursion on a list pairs each part with its result. -/
theorem paraList_eq (step : Notes → Kind S (Expr S × β) → β) (items : List (Expr S))
    (done : List (Expr S × β)) :
    paraList step items done = (items.map fun e => (e, para step e)).reverse ++ done := by
  induction items generalizing done with
  | nil => simp [paraList]
  | cons e rest ih => simp [paraList, ih]

/-- The recursion on a construct pairs each part with its result. -/
theorem paraKind_eq (step : Notes → Kind S (Expr S × β) → β) (k : Kind S (Expr S)) :
    paraKind step k = k.map fun e => (e, para step e) := by
  match k with
  | .terminal _ => simp [paraKind, Kind.map]
  | .sequence _ => simp [paraKind, Kind.map, paraList_eq]
  | .choice ⟨_, _, _, _, none, _, _⟩ => simp [paraKind, Kind.map, paraList_eq]
  | .choice ⟨_, _, _, _, some ⟨_, _⟩, _, _⟩ => simp [paraKind, Kind.map, paraList_eq]
  | .gate ⟨_, _, _⟩ => simp [paraKind, Kind.map]
  | .assertion ⟨.ahead _, _, _, _⟩ => simp [paraKind, Kind.map]
  | .assertion ⟨.code _, _, _, _⟩ => simp [paraKind, Kind.map]
  | .call _ => simp [paraKind, Kind.map]
  | .ruleEnd _ => simp [paraKind, Kind.map]
  | .defaultError => simp [paraKind, Kind.map]

/-- At a node the step sees every part with its own result. -/
theorem para_node (step : Notes → Kind S (Expr S × β) → β) (n : Notes)
    (k : Kind S (Expr S)) :
    para step (node n k) = step n (k.map fun e => (e, para step e)) := by
  rw [para, paraKind_eq]

/-- At a node the step sees the results for the parts. -/
theorem fold_node (step : Notes → Kind S β → β) (n : Notes) (k : Kind S (Expr S)) :
    fold step (node n k) = step n (k.map (fold step)) := by
  rw [fold, para_node]
  congr 1
  match k with
  | .terminal _ => rfl
  | .sequence _ => simp [Kind.map]
  | .choice ⟨_, _, _, _, none, _, _⟩ => simp [Kind.map]
  | .choice ⟨_, _, _, _, some ⟨_, _⟩, _, _⟩ => simp [Kind.map]
  | .gate ⟨_, _, _⟩ => rfl
  | .assertion ⟨.ahead _, _, _, _⟩ => rfl
  | .assertion ⟨.code _, _, _, _⟩ => rfl
  | .call _ => rfl
  | .ruleEnd _ => rfl
  | .defaultError => rfl

mutual

/-- A property holds of all expressions if it passes from the parts of a node to
the node. -/
theorem induction {P : Expr S → Prop}
    (step : ∀ n k, (∀ part ∈ Kind.children k, P part) → P (node n k)) : ∀ e, P e
  | node n k => step n k (induction_children step k)

/-- The property holds of all parts of a construct. -/
theorem induction_children {P : Expr S → Prop}
    (step : ∀ n k, (∀ part ∈ Kind.children k, P part) → P (node n k)) :
    ∀ k : Kind S (Expr S), ∀ part ∈ k.children, P part
  | .terminal _ => by simp [Kind.children]
  | .sequence items => induction_list step items
  | .choice ⟨_, _, arms, _, none, _, _⟩ => by
    simpa [Kind.children, Choice.children, Choice.recoveryBody?] using induction_list step arms
  | .choice ⟨_, _, arms, _, some ⟨body, _⟩, _, _⟩ => by
    have harms := induction_list step arms
    have hbody := induction step body
    simp only [Kind.children, Choice.children, Choice.recoveryBody?, List.mem_append]
    rintro part (h | h)
    · exact harms part h
    · simp only [Option.map_some, Option.toList_some, List.mem_singleton] at h
      exact h ▸ hbody
  | .gate ⟨predictor, matcher, _⟩ => by
    have hpredictor := induction step predictor
    have hmatcher := induction step matcher
    simp [Kind.children, hpredictor, hmatcher]
  | .assertion ⟨.ahead body, _, _, _⟩ => by
    have hbody := induction step body
    simp [Kind.children, hbody]
  | .assertion ⟨.code _, _, _, _⟩ => by simp [Kind.children]
  | .call _ => by simp [Kind.children]
  | .ruleEnd _ => by simp [Kind.children]
  | .defaultError => by simp [Kind.children]

/-- The property holds of all members of a list. -/
theorem induction_list {P : Expr S → Prop}
    (step : ∀ n k, (∀ part ∈ Kind.children k, P part) → P (node n k)) :
    ∀ items : List (Expr S), ∀ part ∈ items, P part
  | [] => by simp
  | e :: rest => by
    have he := induction step e
    have hrest := induction_list step rest
    intro part h
    rcases List.mem_cons.mp h with rfl | h
    · exact he
    · exact hrest part h

end

/-! ### Size and order of nodes -/

/-- The number of nodes. -/
def nodeCount : Expr S → Nat :=
  fold fun _ k => k.children.foldl (fun total part => total + part) 1

/-- All nodes, each before its parts. -/
def nodes : Expr S → List (Expr S) :=
  para fun n k => node n (k.map Prod.fst) :: k.children.flatMap Prod.snd

end Expr

end GrammarTree
