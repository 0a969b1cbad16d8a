import Mathlib.Computability.Language
import GrammarTree.Proofs.Upkeep

/-!
# Traces

What can happen while an expression is matched: symbols are taken from the input,
user code runs, and savers are entered and left.  An expression stands for a set
of such traces.  What calls, gates, assertions and marks stand for is left open.

Code that runs right behind other code is one fragment with it, so traces are
compared after neighbouring code was fused.

Main results:

- Definition `Interpretation.traces`: the traces of an expression.
- Theorems `Event.fused_mul` and `Event.fused_kstar`: fusing can be done before or
  after traces are put one behind the other.
- Theorem `Interpretation.runs_copy`: a copy has the same traces.
-/

namespace GrammarTree

open scoped Computability

/-! ## Events -/

/-- Something that happens while an expression is matched. -/
inductive Event (Item : Type) where
  /-- A symbol of the input is matched. -/
  | item (item : Item)
  /-- The end of the input is matched. -/
  | endMark
  /-- User code runs. -/
  | code (text : String)
  /-- The code that a saver wraps starts. -/
  | enter (saver : Nat)
  /-- The code that a saver wraps is over. -/
  | leave (saver : Nat)

namespace Event

variable {Item : Type}

/-- Put an event in front of a trace.  Code in front of code becomes one fragment
with it. -/
def push : Event Item → List (Event Item) → List (Event Item)
  | code a, code b :: rest => code (a ++ " " ++ b) :: rest
  | event, rest => event :: rest

/-- The trace with neighbouring code as one fragment. -/
def fuse (trace : List (Event Item)) : List (Event Item) :=
  trace.foldr push []

/-- Two fragments can be put in front one by one or as one. -/
theorem push_code_push_code (a b : String) (trace : List (Event Item)) :
    push (code a) (push (code b) trace) = push (code (a ++ " " ++ b)) trace := by
  rcases trace with _ | ⟨_ | _ | c | _ | _, rest⟩ <;> simp [push, String.append_assoc]

/-- Going on behind a pushed event is pushing the event later. -/
theorem foldr_push_push (event : Event Item) (trace rest : List (Event Item)) :
    (push event trace).foldr push rest = push event (trace.foldr push rest) := by
  cases event with
  | code a =>
    rcases trace with _ | ⟨_ | _ | b | _ | _, more⟩
    case cons.code =>
      rw [push, List.foldr_cons, List.foldr_cons, push_code_push_code]
    all_goals rfl
  | _ => rfl

/-- What goes on behind a fused trace goes on behind the trace itself. -/
theorem foldr_push_fuse (trace rest : List (Event Item)) :
    (fuse trace).foldr push rest = trace.foldr push rest := by
  induction trace with
  | nil => rfl
  | cons event more ih =>
    have hfuse : fuse (event :: more) = push event (fuse more) := rfl
    rw [hfuse, foldr_push_push, ih, List.foldr_cons]

/-- Fusing two traces before they are put together changes nothing. -/
theorem fuse_append_fuse (a b : List (Event Item)) : fuse (fuse a ++ fuse b) = fuse (a ++ b) := by
  have hb : fuse (fuse b) = fuse b := foldr_push_fuse b []
  rw [fuse, List.foldr_append, foldr_push_fuse]
  change a.foldr push (fuse (fuse b)) = _
  rw [hb, fuse, fuse, List.foldr_append]

/-! ### Sets of fused traces -/

/-- The traces of a set with neighbouring code as one fragment. -/
def fused (traces : Language (Event Item)) : Language (Event Item) :=
  Set.image fuse traces

variable {A A' B B' : Language (Event Item)} {trace : List (Event Item)}

/-- A fused trace comes from a trace of the set. -/
theorem mem_fused : trace ∈ fused A ↔ ∃ raw ∈ A, fuse raw = trace :=
  Iff.rfl

/-- Fusing the traces of a union fuses the traces of both sets. -/
theorem fused_add (A B : Language (Event Item)) : fused (A + B) = fused A + fused B :=
  Set.image_union fuse A B

/-- There is nothing to fuse in the empty trace. -/
@[simp] theorem fused_one : fused (1 : Language (Event Item)) = 1 :=
  Set.image_singleton

/-- There is nothing to fuse in no trace. -/
@[simp] theorem fused_zero : fused (0 : Language (Event Item)) = 0 :=
  Set.image_empty fuse

/-- Fusing traces before they are put together changes nothing. -/
theorem fused_mul (A B : Language (Event Item)) : fused (fused A * fused B) = fused (A * B) := by
  ext trace
  simp only [mem_fused, Language.mem_mul]
  constructor
  · rintro ⟨_, ⟨_, ⟨a, ha, rfl⟩, _, ⟨b, hb, rfl⟩, rfl⟩, rfl⟩
    exact ⟨a ++ b, ⟨a, ha, b, hb, rfl⟩, (fuse_append_fuse a b).symm⟩
  · rintro ⟨_, ⟨a, ha, b, hb, rfl⟩, rfl⟩
    exact ⟨fuse a ++ fuse b, ⟨_, ⟨a, ha, rfl⟩, _, ⟨b, hb, rfl⟩, rfl⟩, fuse_append_fuse a b⟩

/-- Only the fused traces of two sets matter for what they give together. -/
theorem fused_mul_congr (hA : fused A = fused A') (hB : fused B = fused B') :
    fused (A * B) = fused (A' * B') := by
  rw [← fused_mul A B, hA, hB, fused_mul]

/-- Fusing twice is fusing once. -/
theorem fused_fused (A : Language (Event Item)) : fused (fused A) = fused A := by
  have h := fused_mul A 1
  rw [fused_one, mul_one, mul_one] at h
  exact h

/-- Fusing traces before they are repeated changes nothing. -/
theorem fused_kstar (A : Language (Event Item)) : fused (fused A)∗ = fused A∗ := by
  have hpow (n : Nat) : fused (fused A ^ n) = fused (A ^ n) := by
    induction n with
    | zero => rw [pow_zero, pow_zero]
    | succ n ih =>
      rw [pow_succ, pow_succ]
      exact fused_mul_congr ih (fused_fused A)
  have hstar (B : Language (Event Item)) (trace : List (Event Item)) :
      trace ∈ fused B∗ ↔ ∃ n : Nat, trace ∈ fused (B ^ n) := by
    rw [Language.kstar_eq_iSup_pow]
    simp only [mem_fused, Language.mem_iSup]
    constructor
    · rintro ⟨raw, ⟨n, hraw⟩, rfl⟩
      exact ⟨n, raw, hraw, rfl⟩
    · rintro ⟨n, raw, hraw, rfl⟩
      exact ⟨raw, ⟨n, hraw⟩, rfl⟩
  ext trace
  rw [hstar, hstar]
  simp only [hpow]

end Event

/-! ## Traces of expressions -/

section Pieces

variable {Item : Type}

/-- The traces of a fragment of user code, if there is one. -/
def Action.traces : Action → Language (Event Item)
  | none => 1
  | some text => {[.code text]}

/-- The traces that a saver wraps, between its two events. -/
def Saver.around : Option Saver → Language (Event Item) → Language (Event Item)
  | none, traces => traces
  | some saver, traces => {[.enter saver.id]} * traces * {[.leave saver.id]}

/-- What a node adds to the traces of its construct: the saver wraps them, and code
runs before and after. -/
def Notes.around (n : Notes) (traces : Language (Event Item)) : Language (Event Item) :=
  n.before.traces * Saver.around n.saver traces * n.after.traces

/-- The traces of arms that are tried as often as a repetition says. -/
def Repetition.traces : Repetition → Language (Event Item) → Language (Event Item)
  | once, arms => arms
  | optional, arms => 1 + arms
  | star, arms => arms∗

/-- The traces of a terminal: one of its symbols, or the end of the input. -/
def SymbolSet.traces {S : Type} [SymbolSet S Item] (set : S) : Language (Event Item) :=
  {trace | (∃ item, SymbolSet.contains set item = true ∧ trace = [.item item]) ∨
    (SymbolSet.hasEnd set = true ∧ trace = [.endMark])}

end Pieces

/-- What the constructs stand for that are neither terminals, sequences nor choices.
What analyses left in a construct does not matter for it. -/
structure Interpretation (S Item : Type) where
  call : Call → Language (Event Item)
  gate : Gate (Expr S) → Language (Event Item)
  assertion : Assertion (Expr S) → Language (Event Item)
  ruleEnd : RuleEnd S → Language (Event Item)
  defaultError : Language (Event Item)
  gate_copy : ∀ predictor matcher isEquivalence,
    gate ⟨predictor.copy, matcher.copy, isEquivalence⟩ = gate ⟨predictor, matcher, isEquivalence⟩
  assertion_copy : ∀ body negated isLocal settled,
    assertion ⟨.ahead body.copy, negated, isLocal, settled⟩ =
      assertion ⟨.ahead body, negated, isLocal, settled⟩

namespace Interpretation

variable {S Item : Type} [SymbolSet S Item] (I : Interpretation S Item)

/-- The traces of a construct whose parts come with their traces.  The error branch
of a choice is not counted. -/
def construct : Kind S (Expr S × Language (Event Item)) → Language (Event Item)
  | .terminal set => SymbolSet.traces set
  | .sequence items => (items.map Prod.snd).prod
  | .choice c => c.repetition.traces (c.arms.map Prod.snd).sum
  | .gate g => I.gate ⟨g.predictor.1, g.matcher.1, g.isEquivalence⟩
  | .assertion ⟨.code text, negated, isLocal, settled⟩ =>
    I.assertion ⟨.code text, negated, isLocal, settled⟩
  | .assertion ⟨.ahead body, negated, isLocal, settled⟩ =>
    I.assertion ⟨.ahead body.1, negated, isLocal, settled⟩
  | .call c => I.call c
  | .ruleEnd e => I.ruleEnd e
  | .defaultError => I.defaultError

/-- The traces of an expression, event by event. -/
def runs : Expr S → Language (Event Item) :=
  Expr.para fun n k => n.around (I.construct k)

/-- The traces of an expression, with neighbouring code as one fragment. -/
def traces (e : Expr S) : Language (Event Item) :=
  Event.fused (I.runs e)

/-- The traces of a node are those of its construct with what the node adds. -/
theorem runs_node (n : Notes) (k : Kind S (Expr S)) :
    I.runs (.node n k) = n.around (I.construct (k.map fun e => (e, I.runs e))) :=
  Expr.para_node _ n k

/-- The traces of a terminal. -/
theorem runs_terminal (n : Notes) (set : S) :
    I.runs (.node n (.terminal set)) = n.around (SymbolSet.traces set) :=
  I.runs_node n _

/-- The traces of a sequence are traces of its items one behind the other. -/
theorem runs_sequence (n : Notes) (items : List (Expr S)) :
    I.runs (.node n (.sequence items)) = n.around (items.map I.runs).prod := by
  rw [runs_node]
  simp [Kind.map, construct, Function.comp_def]

/-- The traces of a choice are the traces of its arms, as often as it says. -/
theorem runs_choice (n : Notes) (c : Choice (Expr S)) :
    I.runs (.node n (.choice c)) = n.around (c.repetition.traces (c.arms.map I.runs).sum) := by
  rw [runs_node]
  simp [Kind.map, construct, Function.comp_def]

/-- A copy has the same traces. -/
theorem runs_copy (e : Expr S) : I.runs e.copy = I.runs e := by
  induction e using Expr.induction with
  | step n k ih =>
    rw [Expr.copy_node, runs_node, runs_node]
    change n.around _ = n.around _
    congr 1
    cases k with
    | sequence items =>
      have hitems : items.map (fun e => I.runs e.copy) = items.map I.runs :=
        List.map_congr_left fun e he => ih e he
      simp [Kind.map, Kind.forget, construct, Function.comp_def, hitems]
    | choice c =>
      have harms : c.arms.map (fun e => I.runs e.copy) = c.arms.map I.runs :=
        List.map_congr_left fun e he => ih e (List.mem_append_left _ he)
      simp [Kind.map, Kind.forget, construct, Function.comp_def, harms]
    | gate g => exact I.gate_copy g.predictor g.matcher g.isEquivalence
    | assertion a =>
      rcases a with ⟨condition, negated, isLocal, settled⟩
      cases condition with
      | code text => rfl
      | ahead body => exact I.assertion_copy body negated isLocal settled
    | terminal set => rfl
    | call c => rfl
    | ruleEnd e => rfl
    | defaultError => rfl

end Interpretation

end GrammarTree
