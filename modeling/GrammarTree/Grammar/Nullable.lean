import GrammarTree.Grammar.Basic

/-!
# Nullability

An expression is nullable if it can match the empty input.  A call is nullable if
the body of its rule is; a rule that is reached again on the way counts as not
nullable there.  No path enters a rule twice, so the search comes to an end.

Main definitions:

- `Expr.nullableGiven`: nullability when it is known which calls are nullable.
- `Grammar.nullable`: nullability in a grammar.
- `Grammar.nullability?`: the same, without an answer for placeholders.
-/

namespace GrammarTree

/-- Nullability of a construct whose parts answer for themselves, when it is known
which rules are nullable. -/
def Kind.nullableGiven {S : Type} (known : RuleId → Bool) :
    Kind S ((RuleId → Bool) → Bool) → Bool
  | terminal _ => false
  | sequence items => items.all fun item => item known
  | choice c => c.isLoop || c.arms.any fun arm => arm known
  | gate g => g.predictor known && g.matcher known
  | assertion _ => true
  | call c => known c.rule
  | ruleEnd _ => false
  | defaultError => false

/-- Nullability of an expression when it is known which rules are nullable. -/
def Expr.nullableGiven {S : Type} (known : RuleId → Bool) (e : Expr S) : Bool :=
  (Expr.fold (fun _ k known => k.nullableGiven known) e : (RuleId → Bool) → Bool) known

namespace Grammar

variable {S : Type}

/-- The numbers of the rules that are not on a path. -/
def unentered (g : Grammar S) (path : List RuleId) : List Nat :=
  (List.range g.rules.length).filter fun index => !path.contains ⟨index⟩

/-- Entering a rule leaves fewer rules to enter. -/
theorem length_unentered_lt {g : Grammar S} {path : List RuleId} {id : RuleId} {body : Expr S}
    (hpath : id ∉ path) (hbody : g.body? id = some body) :
    (g.unentered (id :: path)).length < (g.unentered path).length := by
  have hid : id.index < g.rules.length := by
    rcases Option.bind_eq_some_iff.mp hbody with ⟨rule, hrule, -⟩
    exact (List.getElem?_eq_some_iff.mp hrule).1
  have hfilter : g.unentered (id :: path) =
      (g.unentered path).filter fun index => decide (⟨index⟩ ≠ id) := by
    simp [unentered]
  rw [hfilter, List.length_filter_lt_length_iff_exists]
  exact ⟨id.index, by simpa [unentered, hid] using hpath, by simp⟩

/-- Nullability of an expression reached through the rules in `path`.  A call enters
a rule that has a body and is not on the path. -/
def nullableAlong (g : Grammar S) (path : List RuleId) (e : Expr S) : Bool :=
  e.nullableGiven fun id =>
    if id ∈ path then false
    else
      match _ : g.body? id with
      | some body => g.nullableAlong (id :: path) body
      | none => false
termination_by (g.unentered path).length
decreasing_by exact length_unentered_lt ‹id ∉ path› ‹g.body? id = some body›

/-- Whether an expression can match the empty input. -/
def nullable (g : Grammar S) (e : Expr S) : Bool :=
  g.nullableAlong [] e

/-- Whether an expression can match the empty input; placeholders that stand for
no input of their own have no answer. -/
def nullability? (g : Grammar S) (e : Expr S) : Option Bool :=
  match e.kind with
  | .ruleEnd _ => none
  | .defaultError => none
  | _ => some (g.nullable e)

end Grammar

end GrammarTree
