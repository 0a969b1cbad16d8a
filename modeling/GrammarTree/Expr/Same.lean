import GrammarTree.Expr.Basic

/-!
# Structural equality

Two expressions are the same if they are built alike and carry the same user
code at the same locations.  Findings, remembered reports and settled assertions
do not count, and wrappers are compared by identity.

Main definitions:

- `Expr.same`: whether two expressions are the same.
-/

namespace GrammarTree

/-- Whether notes agree in all that counts. -/
def Notes.same (m n : Notes) : Bool :=
  m.location == n.location && m.before == n.before && m.after == n.after && m.saver == n.saver

namespace Choice

variable {α : Type}

/-- Whether a list of tests accepts a list of values, one by one. -/
def allSame : List (α → Bool) → List α → Bool
  | [], [] => true
  | test :: tests, x :: xs => test x && allSame tests xs
  | _, _ => false

/-- Whether a choice agrees with one whose parts are tests. -/
def sameAs (tests : Choice (α → Bool)) (c : Choice α) : Bool :=
  tests.repetition == c.repetition && tests.greedy == c.greedy &&
    allSame tests.arms c.arms && tests.defaultArm == c.defaultArm &&
    (match tests.recovery, c.recovery with
      | none, none => true
      | some test, some branch => test.body branch.body && test.exits == branch.exits
      | _, _ => false) &&
    tests.seams == c.seams

end Choice

namespace Kind

variable {S α : Type}

/-- Whether a construct agrees with one whose parts are tests. -/
def sameAs [BEq S] : Kind S (α → Bool) → Kind S α → Bool
  | terminal s, terminal t => s == t
  | sequence tests, sequence items => Choice.allSame tests items
  | choice tests, choice c => tests.sameAs c
  | gate tests, gate g =>
    tests.predictor g.predictor && tests.matcher g.matcher &&
      tests.isEquivalence == g.isEquivalence
  | assertion ⟨.code s, negated, isLocal, _⟩, assertion ⟨.code t, negated', isLocal', _⟩ =>
    s == t && negated == negated' && isLocal == isLocal'
  | assertion ⟨.ahead test, negated, isLocal, _⟩,
      assertion ⟨.ahead body, negated', isLocal', _⟩ =>
    test body && negated == negated' && isLocal == isLocal'
  | call c, call d => c == d
  | ruleEnd e, ruleEnd f => e.rule == f.rule && e.follow == f.follow
  | defaultError, defaultError => true
  | _, _ => false

end Kind

namespace Expr

variable {S : Type}

/-- Whether two expressions are the same. -/
def same [BEq S] : Expr S → Expr S → Bool :=
  fold fun n tests other => n.same other.notes && tests.sameAs other.kind

end Expr

end GrammarTree
