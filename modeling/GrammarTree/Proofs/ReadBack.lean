import Mathlib.Data.List.Nodup
import GrammarTree.Expr.Printer
import GrammarTree.Symbol.TokenClass
import GrammarTree.Proofs.Flattening
import GrammarTree.Proofs.Reader

/-!
# Alternatives that read back

Alternatives of rule references are kept as one flat choice, yet their printed
text still spells the expression that the user wrote.

Main results:

- Definition `JoinTree.built`: the value of an expression over rule references.
- Theorem `JoinTree.render_built`: the printed value is the text of the expression.
- Theorem `JoinTree.built_reads_back`: reading the printed value gives the
  expression back, up to associativity.
-/

namespace GrammarTree

/-! ## The text of a plain choice -/

namespace Expr

variable {S Item : Type} [SymbolSet S Item]

/-- A plain choice without marks is printed as the row of its arms. -/
theorem render_of_plainChoice? {e : Expr S} {c : Choice (Expr S)}
    (h : e.plainChoice? = some c) (hunmarked : c.Unmarked) :
    e.render =
      ({ c with
        arms := c.arms.map fun arm => armText (arm, arm.render)
        recovery := none } : Choice String).renderRow := by
  rcases hunmarked with ⟨hd, hr⟩
  rcases plainChoice?_eq_some_iff.mp h with ⟨hchoice, hactions, honce⟩
  rcases e with ⟨n, k⟩
  cases k with
  | choice d =>
    cases hchoice
    rcases n.hasActions_eq_false_iff.mp hactions with ⟨hbefore, hafter, -⟩
    rw [render, para_node]
    simp [withCode, Notes.hasCode, hbefore, hafter, Kind.map, renderKind, renderChoice, honce, textChoice,
      Choice.render, Choice.renderArms, hd, hr, Function.comp_def]
  | _ => cases hchoice

end Expr

/-! ## Expressions over rule references -/

/-- A reference to a rule, without parameters and without user code. -/
structure Reference where
  location : Location := none
  rule : RuleId
  name : String
  finding : Option Finding := none

namespace Reference

variable {S : Type}

/-- The expression of a reference. -/
def toExpr (r : Reference) : Expr S :=
  .node { location := r.location, finding := r.finding } (.call ⟨r.rule, r.name, []⟩)

/-- A reference as an operand without a mark. -/
def operand (r : Reference) : Operand S :=
  ⟨r.toExpr, .ordinary, fun _ => rfl⟩

/-- A reference is printed as its name. -/
theorem render_toExpr {Item : Type} [SymbolSet S Item] (r : Reference) :
    (r.toExpr : Expr S).render = r.name := by
  rw [toExpr, Expr.render, Expr.para_node]
  simp [Kind.map, Expr.renderKind, Expr.withCode, Notes.hasCode]

/-- A reference needs no parentheses as an arm. -/
theorem armText_toExpr {Item : Type} [SymbolSet S Item] (r : Reference) :
    Expr.armText ((r.toExpr : Expr S), (r.toExpr : Expr S).render) = r.name := by
  rw [render_toExpr]
  rfl

end Reference

namespace JoinTree

variable {S Item : Type}

/-- The value of an expression over rule references. -/
def built (t : JoinTree Reference) : Expr S :=
  (t.map Reference.operand).value

/-- References have no marks, so every one of them becomes an arm. -/
theorem armTree?_map_operand (t : JoinTree Reference) :
    (t.map Reference.operand).armTree? = some (t.map (Reference.toExpr (S := S))) := by
  induction t with
  | leaf r => rfl
  | join location ordered left right ihl ihr =>
    rw [armTree?] at ihl ihr
    rw [armTree?, map, filterMap, ihl, ihr]
    rfl

/-- A reference takes part in a join without a mark, and so does an expression. -/
theorem role_map_operand (t : JoinTree Reference) :
    (t.map (Reference.operand (S := S))).role = .ordinary := by
  cases t with
  | leaf r => rfl
  | join location ordered left right => rfl

/-- The value of an expression over references has no marks. -/
theorem unmarked_built (t : JoinTree Reference) {c : Choice (Expr S)}
    (h : t.built.plainChoice? = some c) : c.Unmarked := by
  induction t generalizing c with
  | leaf r => cases h
  | join location ordered left right ihl ihr =>
    rw [built, map, value, role_map_operand, role_map_operand] at h
    exact Expr.unmarked_alternate location ordered (fun _ => ihl) (fun _ => ihr) h

variable [SymbolSet S Item]

/-- The printed value of an expression over references is the text of the
expression. -/
theorem render_built (t : JoinTree Reference) (hsize : t.size ≤ 32767) :
    (t.built : Expr S).render = (t.map Reference.name).text := by
  cases t with
  | leaf r =>
    have hname : ((leaf r).built : Expr S).render = r.name := r.render_toExpr
    rw [hname, map, text_leaf]
  | join location ordered left right =>
    obtain ⟨c, hplain, hc⟩ := exists_plainChoice?_value
      (t := (join location ordered left right).map (Reference.operand (S := S))) rfl
    have hunmarked := unmarked_built _ hplain
    rw [armTree?_map_operand] at hc
    rw [built, Expr.render_of_plainChoice? hplain hunmarked]
    apply Records.renderRow_eq_text
    · refine ⟨?_, ?_⟩
      · have harms : c.arms = (join location ordered left right).leaves.map Reference.toExpr := by
          rw [hc.arms_eq, leavesOf, Option.elim_some, leaves_map]
        simp [harms, leavesOf, Reference.armText_toExpr]
      · have hseams : c.seams = ledger (join location ordered left right) := by
          rw [hc.seams_eq, ledgerOf, Option.elim_some, ledger_map]
        rw [ledgerOf, Option.elim_some, ledger_map]
        exact hseams
    · rw [size_map]
      exact hsize
    · exact hunmarked.1

/-- Expressions over the same references with distinct names differ by associativity
if the expressions over the names do. -/
theorem Reassociated.of_map_name {t t' : JoinTree Reference}
    (hdistinct : (t.leaves.map Reference.name).Nodup) (hperm : t'.leaves.Perm t.leaves)
    (h : Reassociated (t.map Reference.name) (t'.map Reference.name)) : Reassociated t t' := by
  -- each name belongs to one reference only
  let find (name : String) : Reference :=
    (t.leaves.find? fun r => r.name == name).getD ⟨none, ⟨0⟩, name, none⟩
  have hfind : ∀ r ∈ t.leaves, (find ∘ Reference.name) r = r := by
    intro r hr
    cases hfound : t.leaves.find? fun r' => r'.name == r.name with
    | none =>
      rw [List.find?_eq_none] at hfound
      exact absurd (beq_self_eq_true r.name) (hfound r hr)
    | some r' =>
      have hname : r'.name = r.name := by
        simpa using List.find?_some hfound
      have hsame := List.inj_on_of_nodup_map hdistinct (List.mem_of_find?_eq_some hfound) hr hname
      simp [find, hfound, hsame]
  have hback := h.map find
  rw [map_map, map_map, map_eq_self hfind,
    map_eq_self fun r hr => hfind r (hperm.mem_iff.mp hr)] at hback
  exact hback

/-- The printed alternatives of references with distinct names read back as an
expression with the same references in the same order, any two of which meet at
the same operator.  So two expressions over the same references are printed alike
exactly if they differ by associativity of `|` and of `/`. -/
theorem built_reads_back {t : JoinTree Reference}
    (hwords : ∀ r ∈ t.leaves, Token.IsWord r.name)
    (hdistinct : (t.leaves.map Reference.name).Nodup) (hsize : t.leaves.length ≤ 32767) :
    (∃ u, read (t.built : Expr S).render = some u ∧ u.leaves = t.leaves.map Reference.name ∧
      ∀ i j, u.operator? i j = t.operator? i j) ∧
    ∀ t' : JoinTree Reference, t'.leaves.Perm t.leaves →
      ((t.built : Expr S).render = (t'.built : Expr S).render ↔ Reassociated t t') := by
  have hnames : ∀ name ∈ (t.map Reference.name).leaves, Token.IsWord name := by
    intro name hname
    rw [leaves_map] at hname
    rcases List.mem_map.mp hname with ⟨r, hr, rfl⟩
    exact hwords r hr
  constructor
  · rcases read_text hnames with ⟨u, hread, hu⟩
    refine ⟨u, by rw [render_built t hsize, hread], by rw [hu.leaves_eq, leaves_map], ?_⟩
    intro i j
    rw [hu.operator?_eq, operator?_map]
  · intro t' hperm
    have hsize' : t'.size ≤ 32767 := by
      rw [size, hperm.length_eq]
      exact hsize
    have hnames' : ∀ name ∈ (t'.map Reference.name).leaves, Token.IsWord name := by
      intro name hname
      apply hnames name
      rw [leaves_map] at hname ⊢
      exact (hperm.map Reference.name).mem_iff.mp hname
    rw [render_built t hsize, render_built t' hsize', text_eq_iff hnames hnames']
    exact ⟨Reassociated.of_map_name hdistinct hperm, Reassociated.map Reference.name⟩

/-- The expression `(a | b) / (c / (d | e))`: it is printed like
`((a | b) / c) / (d | e)`, and its text still spells where the arms meet. -/
theorem built_reads_back_grouped :
    let r (k : Nat) (name : String) : JoinTree Reference := .leaf { rule := ⟨k⟩, name }
    let left := JoinTree.join none false (r 0 "a") (r 1 "b")
    let right := JoinTree.join none false (r 3 "d") (r 4 "e")
    let t := JoinTree.join none true left (.join none true (r 2 "c") right)
    let t' := JoinTree.join none true (.join none true left (r 2 "c")) right
    (t.built : Expr TokenClass).render = (t'.built : Expr TokenClass).render ∧
      ∃ u, read (t.built : Expr TokenClass).render = some u ∧
        u.leaves = ["a", "b", "c", "d", "e"] ∧ u.operator? 0 1 = some false ∧
        u.operator? 1 2 = some true ∧ u.operator? 0 4 = some true := by
  intro r left right t t'
  have hwords : ∀ ref ∈ t.leaves, Token.IsWord ref.name := by
    simp [t, left, right, r, leaves, Token.IsWord, Token.isDelimiter]
  obtain ⟨⟨u, hread, hleaves, hoperator⟩, hprint⟩ :=
    built_reads_back (S := TokenClass) hwords (by decide) (by decide)
  refine ⟨?_, u, hread, hleaves, ?_, ?_, ?_⟩
  · exact (hprint t' (List.Perm.refl _)).mpr
      (.symm (.assoc none none none none true left (r 2 "c") right))
  · exact (hoperator 0 1).trans rfl
  · exact (hoperator 1 2).trans rfl
  · exact (hoperator 0 4).trans rfl

end JoinTree

end GrammarTree
