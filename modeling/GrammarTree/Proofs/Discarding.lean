import Mathlib.Data.List.Forall2
import GrammarTree.Proofs.Sameness

/-!
# Discarded analyses

A tree, or a whole grammar, can be brought back to the state before it was analysed.  That
reaches every node, whatever construct it is a part of, and touches nothing but findings,
reports, settled assertions and follow sets.  So the result is the same tree as before with
empty follow sets, and all answers about ambiguities are those of a new copy.

Main results:

- Definition `Expr.withoutFollow`: the tree with empty follow sets and no other change.
- Theorem `Expr.discard_same_withoutFollow`: discarding changes nothing else that counts.
- Theorem `Grammar.nullableAlong_discard`: a grammar keeps what it knows about the empty
  input.
- Theorem `Grammar.discard_restores`: what holds of discarded trees and grammars.
-/

namespace GrammarTree

variable {S Item α : Type} [SymbolSet S Item]

/-! ## Follow sets -/

/-- The construct with an empty follow set. -/
def Kind.withoutFollow : Kind S α → Kind S α
  | .ruleEnd e => .ruleEnd { e with follow := SymbolSet.empty }
  | k => k

/-- Empty the follow sets. -/
def NodeChange.emptying : NodeChange S where
  notes n := n
  kind := Kind.withoutFollow
  kind_map f k := by
    match k with
    | .assertion ⟨.ahead _, _, _, _⟩ => rfl
    | .assertion ⟨.code _, _, _, _⟩ => rfl
    | .terminal _ | .sequence _ | .choice _ | .gate _ | .call _ | .ruleEnd _ | .defaultError => rfl
  children_kind k := by cases k <;> rfl

namespace Expr

/-- The tree with empty follow sets. -/
def withoutFollow (e : Expr S) : Expr S :=
  e.mapNodes .emptying

/-- Whether all follow sets are empty. -/
def FollowsEmpty (e : Expr S) : Prop :=
  ∀ x ∈ e.nodes, ∀ ending, x.kind = .ruleEnd ending → ending.follow = SymbolSet.empty

/-! ## Discarded trees -/

/-- A discarded tree was never analysed. -/
theorem unanalysed_discard (e : Expr S) : e.discard.Unanalysed := by
  rw [discard_eq_mapNodes]
  refine unanalysed_mapNodes ⟨fun _ => rfl, ?_⟩ e
  intro α k c hkind
  cases k <;> cases hkind
  rfl

/-- A discarded tree has empty follow sets. -/
theorem followsEmpty_discard (e : Expr S) : e.discard.FollowsEmpty := by
  rw [discard_eq_mapNodes]
  intro x hx ending hending
  obtain ⟨n, k, rfl⟩ := eq_of_mem_nodes_mapNodes hx
  have hcleared : k.cleared = .ruleEnd ending := hending
  cases k <;> cases hcleared
  rfl

/-- Discarding changes nothing that counts but the follow sets. -/
theorem discard_same_withoutFollow [LawfulBEq S] (e : Expr S) :
    e.discard.same e.withoutFollow = true := by
  rw [same_iff_outline_eq, discard_eq_mapNodes, withoutFollow, outline, outline,
    mapNodes_mapNodes, mapNodes_mapNodes]
  refine mapNodes_congr ?_ ?_ e
  · intro n
    rfl
  · intro k
    cases k <;> rfl

/-- There is nothing left to discard. -/
theorem discard_discard (e : Expr S) : e.discard.discard = e.discard := by
  rw [discard_eq_mapNodes, discard_eq_mapNodes, mapNodes_mapNodes]
  refine mapNodes_congr ?_ ?_ e
  · intro n
    rfl
  · intro k
    cases k <;> rfl

/-- Whether two expressions are choices that answer alike in all runs, or no choices. -/
def AnswersLike (e other : Expr S) : Prop :=
  Option.Rel (fun c d => ∀ steps, c.answers steps = d.answers steps) e.choice? other.choice?

/-- The root of a tree that was never analysed remembers no report. -/
theorem Unanalysed.reported_eq {e : Expr S} {c : Choice (Expr S)} (h : e.Unanalysed)
    (hc : e.choice? = some c) : c.reported = [] := by
  rcases e with ⟨n, k⟩
  exact (h (node n k) (by rw [nodes_node]; exact List.mem_cons_self)).2 c hc

/-- Trees that were never analysed answer alike if their frames are the same. -/
theorem Unanalysed.answersLike {e other : Expr S} (he : e.Unanalysed) (hother : other.Unanalysed)
    (h : e.choice?.map Choice.frame = other.choice?.map Choice.frame) : e.AnswersLike other := by
  unfold AnswersLike
  cases hc : e.choice? with
  | none =>
    rw [hc, Option.map_none, eq_comm, Option.map_eq_none_iff] at h
    rw [h]
    exact .none
  | some c =>
    rw [hc, Option.map_some, eq_comm, Option.map_eq_some_iff] at h
    obtain ⟨d, hd, hframe⟩ := h
    have hreported : c.reported = d.reported :=
      (he.reported_eq hc).trans (hother.reported_eq hd).symm
    rw [hd]
    exact .some (Choice.Alike.answers_eq ⟨hframe.symm, hreported⟩)

/-- Every node of a discarded tree answers like that node of a copy. -/
theorem answersLike_discard (e : Expr S) :
    List.Forall₂ AnswersLike e.discard.nodes e.copy.nodes := by
  rw [discard_eq_mapNodes, copy_eq_mapNodes, nodes_mapNodes, nodes_mapNodes,
    List.forall₂_map_left_iff, List.forall₂_map_right_iff, List.forall₂_same]
  intro x _
  rw [← discard_eq_mapNodes, ← copy_eq_mapNodes]
  refine x.unanalysed_discard.answersLike x.unanalysed_copy ?_
  rw [discard_eq_mapNodes, copy_eq_mapNodes, NodeChange.cosmetic_discarding.frame_mapNodes,
    NodeChange.cosmetic_copying.frame_mapNodes]

/-- What a tree that was brought back to the state before its analysis has in common with
the tree it was. -/
structure RestoredFrom (e original : Expr S) : Prop where
  unanalysed : e.Unanalysed
  followsEmpty : e.FollowsEmpty
  same_withoutFollow : e.same original.withoutFollow = true
  render_eq : e.render = original.render
  nullable_eq : ∀ g : Grammar S, g.nullable e = g.nullable original
  nullability_eq : ∀ g : Grammar S, g.nullability? e = g.nullability? original
  discard_eq : e.discard = e
  answersLike : List.Forall₂ AnswersLike e.nodes original.copy.nodes

/-- Discarding brings a tree back. -/
theorem restoredFrom_discard [LawfulBEq S] (e : Expr S) : e.discard.RestoredFrom e where
  unanalysed := e.unanalysed_discard
  followsEmpty := e.followsEmpty_discard
  same_withoutFollow := e.discard_same_withoutFollow
  render_eq := by rw [discard_eq_mapNodes, NodeChange.cosmetic_discarding.render_mapNodes]
  nullable_eq g := by rw [discard_eq_mapNodes, NodeChange.cosmetic_discarding.nullable_mapNodes]
  nullability_eq g := by
    rw [discard_eq_mapNodes, NodeChange.cosmetic_discarding.nullability?_mapNodes]
  discard_eq := e.discard_discard
  answersLike := e.answersLike_discard

end Expr

/-! ## Discarded grammars -/

/-- What a rule has in common with the rule it was before analyses were discarded. -/
structure Rule.RestoredFrom (rule original : Rule S) : Prop where
  body : Option.Rel Expr.RestoredFrom rule.body original.body
  ending : rule.ending = { original.ending with follow := SymbolSet.empty }
  rest : { rule with body := original.body, ending := original.ending } = original

namespace Grammar

/-- The body of a rule is discarded. -/
theorem body?_discard (g : Grammar S) (id : RuleId) :
    g.discard.body? id = (g.body? id).map Expr.discard := by
  rw [body?, body?, rule?, rule?, discard, List.getElem?_map]
  cases g.rules[id.index]? <;> rfl

/-- Discarding keeps nullability on every path. -/
theorem nullableAlong_discard (g : Grammar S) (path : List RuleId) (e : Expr S) :
    g.discard.nullableAlong path e = g.nullableAlong path e := by
  induction path, e using nullableAlong.induct g with
  | case1 path e ih =>
    have hcalls : g.discard.callNullable path = g.callNullable path := by
      funext id
      unfold callNullable
      split
      · rfl
      · rename_i hpath
        rw [body?_discard]
        cases hbody : g.body? id with
        | none => rfl
        | some body =>
          -- a call enters the discarded body, the hypothesis is about the body itself
          have hdiscard := NodeChange.cosmetic_discarding.nullableAlong_mapNodes g.discard
            (id :: path) body
          rw [← Expr.discard_eq_mapNodes] at hdiscard
          exact hdiscard.trans (ih id hpath body hbody)
    rw [nullableAlong_eq, nullableAlong_eq, hcalls]

/-- Discarding brings every rule back. -/
theorem restoredFrom_discard [LawfulBEq S] (g : Grammar S) :
    List.Forall₂ Rule.RestoredFrom g.discard.rules g.rules := by
  rw [discard, List.forall₂_map_left_iff, List.forall₂_same]
  intro rule _
  refine ⟨?_, rfl, rfl⟩
  cases rule.body with
  | none => exact .none
  | some body => exact .some body.restoredFrom_discard

/-- There is nothing left to discard in a grammar. -/
theorem discard_discard (g : Grammar S) : g.discard.discard = g.discard := by
  have hbody (body : Option (Expr S)) :
      (body.map Expr.discard).map Expr.discard = body.map Expr.discard := by
    cases body with
    | none => rfl
    | some body => exact congrArg some body.discard_discard
  simp only [discard, List.map_map, Function.comp_def, hbody]

/-- Discarding brings trees and grammars back to the state before their analysis. -/
theorem discard_restores [LawfulBEq S] :
    (∀ e : Expr S, e.discard.RestoredFrom e) ∧
      ∀ g : Grammar S,
        List.Forall₂ Rule.RestoredFrom g.discard.rules g.rules ∧
          { g.discard with rules := g.rules } = g ∧
          (∀ e, g.discard.nullable e = g.nullable e) ∧
          g.discard.discard = g.discard := by
  refine ⟨Expr.restoredFrom_discard, ?_⟩
  intro g
  exact ⟨g.restoredFrom_discard, rfl, g.nullableAlong_discard [], g.discard_discard⟩

/-- The end of a rule inside a test that is the error branch of a loop is restored, too. -/
theorem discard_restores_end_of_rule :
    Expr.RestoredFrom
      (Expr.ofKind none
        (.choice
          { repetition := .star
            recovery := some ⟨Expr.ofKind none (.assertion
              { condition := .ahead (.node { finding := some (.number 1) }
                  (.ruleEnd ⟨⟨0⟩, TokenClass.ofItems ["a"]⟩))
                negated := false
                settled := true }), true⟩
            reported := [[0, -1]] })).discard
      (Expr.ofKind none
        (.choice
          { repetition := .star
            recovery := some ⟨Expr.ofKind none (.assertion
              { condition := .ahead (.node { finding := some (.number 1) }
                  (.ruleEnd ⟨⟨0⟩, TokenClass.ofItems ["a"]⟩))
                negated := false
                settled := true }), true⟩
            reported := [[0, -1]] })) :=
  discard_restores.1 _

end Grammar

end GrammarTree
