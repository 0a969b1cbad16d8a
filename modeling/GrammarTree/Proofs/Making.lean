import GrammarTree.Proofs.Everywhere
import GrammarTree.Proofs.RuleTable

/-!
# Sessions with a draft

A user of a draft makes expressions from the ones that are there and sends requests to its
grammar.  What an operator makes depends on the draft as it is then: a call is a call of a
rule that is declared at that time, and it may be placed in a body much later.

A property of constructs holds everywhere in all that was made if every operator upholds it:
it is shown once here what is left to prove for that.

Main results:

- Definition `Draft.Makes`: what one operator can make.
- Definition `Draft.Session`: the states that a draft can be in, with all that was made.
- Theorem `Draft.Upholds.everywhere`: what an operator makes has an upheld property
  everywhere, if its operands have.
-/

namespace GrammarTree.Draft

variable {S Item : Type} [SymbolSet S Item]

/-! ## Operators -/

/-- What one operator makes of the expressions that are there, and the draft behind it.
Alternatives and loops can also be made without the draft, at a location of one's own; a loop
that is tried once is nothing but a choice with the body as its only arm, or with the arms of
the body.  The property `wraps` tells of which bodies such a choice is made. -/
inductive Makes (wraps : Expr S → Prop) (d : Draft S) (made : List (Expr S)) :
    Expr S → Draft S → Prop where
  | terminal (set : S) : Makes wraps d made (d.terminal set) d
  | epsilon : Makes wraps d made d.epsilon d
  | defaultError : Makes wraps d made d.defaultError d
  | testCode (code : String) (negated : Bool) : Makes wraps d made (d.testCode code negated) d
  | call {id : RuleId} {params : List String} {e : Expr S} (h : d.call id params = .ok e) :
      Makes wraps d made e d
  | seq {first second : Expr S} (hfirst : first ∈ made) (hsecond : second ∈ made) :
      Makes wraps d made (d.seq first second) d
  | seqAll {parts : List (Expr S)} (hparts : ∀ part ∈ parts, part ∈ made) :
      Makes wraps d made (d.seqAll parts) d
  | alternate (ordered : Bool) {left right : Expr S} (leftRole rightRole : ArmRole)
      (hleft : left ∈ made) (hright : right ∈ made) :
      Makes wraps d made (d.alternate ordered left leftRole right rightRole).1
        (d.alternate ordered left leftRole right rightRole).2
  | join (location : Location) (ordered : Bool) {left right : Expr S}
      (leftRole rightRole : ArmRole) (hleft : left ∈ made) (hright : right ∈ made) :
      Makes wraps d made (Expr.alternate location ordered left leftRole right rightRole).1 d
  | loop {location : Location} {repetition : Repetition} {greedy : Option Bool} {body e : Expr S}
      (hbody : body ∈ made) (hwraps : repetition = .once → wraps body)
      (h : Expr.loop location repetition greedy body = .ok e) : Makes wraps d made e d
  | plus {body e : Expr S} (hbody : body ∈ made) (h : d.plus body = .ok e) :
      Makes wraps d made e d
  | defaultExit {e : Expr S} (he : e ∈ made) :
      Makes wraps d made (d.defaultExit e).1 (d.defaultExit e).2
  | gate {predictor matcher e : Expr S} {isEquivalence : Bool} (hpredictor : predictor ∈ made)
      (hmatcher : matcher ∈ made) (h : d.gate predictor matcher isEquivalence = .ok e) :
      Makes wraps d made e d
  | testAhead {body : Expr S} (negated : Bool) (hbody : body ∈ made) :
      Makes wraps d made (d.testAhead body negated) d
  | makeLocal {e : Expr S} (he : e ∈ made) : Makes wraps d made e.makeLocal d
  /-- Locations, user code, savers and findings are put on a node. -/
  | mapNotes {e : Expr S} (f : Notes → Notes) (he : e ∈ made) :
      Makes wraps d made (e.mapNotes f) d
  | copy {e : Expr S} (he : e ∈ made) : Makes wraps d made e.copy d

variable {wraps : Expr S → Prop} {d d' : Draft S} {made : List (Expr S)} {e : Expr S}
  {P : Kind S (Expr S) → Prop}

/-- A join may write to the log, but it leaves the grammar alone. -/
theorem grammar_alternate (d : Draft S) (ordered : Bool) (left : Expr S) (leftRole : ArmRole)
    (right : Expr S) (rightRole : ArmRole) :
    (d.alternate ordered left leftRole right rightRole).2.grammar = d.grammar := by
  unfold Draft.alternate
  dsimp only
  split <;> rfl

/-- Making leaving the default may write to the log, but it leaves the grammar alone. -/
theorem grammar_defaultExit (d : Draft S) (e : Expr S) :
    (d.defaultExit e).2.grammar = d.grammar := by
  rcases e with ⟨n, k⟩
  cases k <;> rfl

/-- No operator changes the grammar. -/
theorem Makes.grammar_eq (h : d.Makes wraps made e d') : d'.grammar = d.grammar := by
  cases h with
  | alternate ordered leftRole rightRole hleft hright => exact d.grammar_alternate _ _ _ _ _
  | defaultExit he => exact d.grammar_defaultExit _
  | _ => rfl

/-! ## Upheld properties -/

/-- A property of constructs that all operators of a draft uphold. -/
structure Upholds (wraps : Expr S → Prop) (d : Draft S) (P : Kind S (Expr S) → Prop) : Prop where
  terminal : ∀ set, P (.terminal set)
  sequence : ∀ items, P (.sequence items)
  gate : ∀ g, P (.gate g)
  assertion : ∀ a, P (.assertion a)
  defaultError : P .defaultError
  call : ∀ {id rule} (params : List String), d.grammar.rule? id = some rule →
    P (.call ⟨id, rule.name, params⟩)
  join : ∀ {location ordered left leftRole right rightRole c}, left.Everywhere P →
    right.Everywhere P →
    (Expr.alternate location ordered left leftRole right rightRole).1.choice? = some c →
    P (.choice c)
  loop : ∀ {location repetition greedy body e}, body.Everywhere P →
    (repetition = .once → wraps body) → Expr.loop location repetition greedy body = .ok e →
    P (.choice (Expr.loopChoice repetition greedy body))
  exit : ∀ {c}, P (.choice c) → P (.choice { c with defaultArm := some .exit })
  copy : ∀ {k}, P k → P (k.map Expr.copy).forget

namespace Upholds

/-- The items of a sequence are items of its operands or operands. -/
theorem everywhere_sequence (hP : d.Upholds wraps P) (location : Location)
    {parts : List (Expr S)} (hparts : ∀ part ∈ parts, part.Everywhere P) :
    (Expr.sequence location parts).Everywhere P :=
  Expr.everywhere_sequence location hparts fun _ => hP.sequence _

/-- The property holds everywhere in a join. -/
theorem everywhere_join (hP : d.Upholds wraps P) (location : Location) (ordered : Bool)
    {left right : Expr S} (leftRole rightRole : ArmRole) (hleft : left.Everywhere P)
    (hright : right.Everywhere P) :
    (Expr.alternate location ordered left leftRole right rightRole).1.Everywhere P :=
  Expr.everywhere_alternate hleft hright fun _ hc => hP.join hleft hright hc

/-- The property holds everywhere in a loop. -/
theorem everywhere_loop (hP : d.Upholds wraps P) {location : Location} {repetition : Repetition}
    {greedy : Option Bool} {body : Expr S} (hbody : body.Everywhere P)
    (hwraps : repetition = .once → wraps body)
    (h : Expr.loop location repetition greedy body = .ok e) : e.Everywhere P :=
  Expr.everywhere_loop hbody h (hP.loop hbody hwraps h)

/-- At least one body is a sequence of the body and a loop around a copy. -/
theorem everywhere_plus (hP : d.Upholds wraps P) {body : Expr S} (hbody : body.Everywhere P)
    (h : d.plus body = .ok e) : e.Everywhere P := by
  obtain ⟨rest, hrest, rfl⟩ := plus_eq_ok h
  have hcopy : body.copy.Everywhere P := hbody.copy fun _ => hP.copy
  have hstar : rest.Everywhere P := hP.everywhere_loop hcopy (by simp) hrest
  refine hP.everywhere_sequence _ ?_
  simpa using ⟨hbody, hstar⟩

/-- What an operator makes has an upheld property everywhere, if all that is there has. -/
theorem everywhere (hP : d.Upholds wraps P) (hmade : ∀ e ∈ made, e.Everywhere P)
    (h : d.Makes wraps made e d') : e.Everywhere P := by
  cases h with
  | terminal set => exact Expr.everywhere_leaf rfl (hP.terminal set)
  | epsilon => exact Expr.everywhere_leaf rfl (hP.sequence [])
  | defaultError => exact Expr.everywhere_leaf rfl hP.defaultError
  | testCode code negated => exact Expr.everywhere_leaf rfl (hP.assertion _)
  | call h => exact everywhere_call (fun _ => hP.call _) h
  | seq hfirst hsecond =>
    refine hP.everywhere_sequence _ ?_
    simpa using ⟨hmade _ hfirst, hmade _ hsecond⟩
  | seqAll hparts => exact hP.everywhere_sequence _ fun part hpart => hmade part (hparts part hpart)
  | alternate ordered leftRole rightRole hleft hright =>
    refine everywhere_alternate hP.terminal ?_
    intro location
    exact hP.everywhere_join location ordered leftRole rightRole (hmade _ hleft) (hmade _ hright)
  | join location ordered leftRole rightRole hleft hright =>
    exact hP.everywhere_join location ordered leftRole rightRole (hmade _ hleft) (hmade _ hright)
  | loop hbody hwraps h => exact hP.everywhere_loop (hmade _ hbody) hwraps h
  | plus hbody h => exact hP.everywhere_plus (hmade _ hbody) h
  | defaultExit he => exact d.everywhere_defaultExit (fun _ => hP.exit) (hmade _ he)
  | gate hpredictor hmatcher h =>
    exact Expr.everywhere_gate (hmade _ hpredictor) (hmade _ hmatcher) h (hP.gate _)
  | testAhead negated hbody =>
    exact Expr.everywhere_node.mpr ⟨hP.assertion _, by simpa [Kind.children] using hmade _ hbody⟩
  | makeLocal he => exact Expr.everywhere_makeLocal hP.assertion (hmade _ he)
  | mapNotes f he => exact (hmade _ he).mapNotes f
  | copy he => exact (hmade _ he).copy fun _ => hP.copy

end Upholds

end GrammarTree.Draft

namespace GrammarTree

variable {S Item : Type}

/-- The body that a request gives to a rule. -/
def Request.body? : Request S → Option (Expr S)
  | define _ body => some body
  | addRule _ body => some body
  | _ => none

namespace Draft

variable [SymbolSet S Item]

/-! ## Sessions -/

/-- The draft after a request to its grammar. -/
def perform (d : Draft S) (request : Request S) : Draft S :=
  { d with grammar := (d.grammar.perform request).1 }

/-- The states that a draft of an empty grammar can come to, each with all the expressions that
were made so far.  What was made can be used any number of times, and a rule takes as its
body what was made. -/
inductive Session (wraps : Expr S → Prop) : Draft S → List (Expr S) → Prop where
  | start (settings : Settings) : Session wraps (ofSettings settings) []
  | moveTo {d : Draft S} {made : List (Expr S)} (h : Session wraps d made) (location : Location) :
      Session wraps (d.moveTo location) made
  | make {d d' : Draft S} {made : List (Expr S)} {e : Expr S} (h : Session wraps d made)
      (he : d.Makes wraps made e d') : Session wraps d' (e :: made)
  | request {d : Draft S} {made : List (Expr S)} (h : Session wraps d made) (request : Request S)
      (hbody : ∀ body, request.body? = some body → body ∈ made) :
      Session wraps (d.perform request) made

namespace Session

variable {wraps : Expr S → Prop} {d d' : Draft S} {made : List (Expr S)} {body : Expr S}

/-- Declaring a name in a draft is a request. -/
theorem declare (h : Session wraps d made) (name : String) :
    Session wraps (d.declare name).2 made := by
  refine h.request (.declare name) ?_
  intro body hbody
  cases hbody

/-- Giving a rule its body in a draft is a request. -/
theorem define (h : Session wraps d made) {id : RuleId} (hbody : body ∈ made)
    (hdefine : d.define id body = .ok d') : Session wraps d' made := by
  have hperform : d.perform (.define id body) = d' := by
    unfold Draft.define at hdefine
    cases hgrammar : d.grammar.define id body with
    | error err =>
      rw [hgrammar] at hdefine
      cases hdefine
    | ok g =>
      rw [hgrammar] at hdefine
      cases hdefine
      simp only [Draft.perform, Grammar.perform, hgrammar]
      rfl
  rw [← hperform]
  refine h.request (.define id body) ?_
  intro given hgiven
  cases hgiven
  exact hbody

/-- Adding a rule to a draft is a request. -/
theorem addRule (h : Session wraps d made) {name : String} {id : RuleId} (hbody : body ∈ made)
    (hadd : d.addRule name body = .ok (id, d')) : Session wraps d' made := by
  have hperform : d.perform (.addRule name body) = d' := by
    unfold Draft.addRule at hadd
    cases hgrammar : d.grammar.addRule name body with
    | error err =>
      rw [hgrammar] at hadd
      cases hadd
    | ok added =>
      rw [hgrammar] at hadd
      cases hadd
      simp only [Draft.perform, Grammar.perform, hgrammar]
  rw [← hperform]
  refine h.request (.addRule name body) ?_
  intro given hgiven
  cases hgiven
  exact hbody

end Session

end Draft

end GrammarTree
