import GrammarTree.Choice.Ambiguity
import GrammarTree.Proofs.Joining
import GrammarTree.Proofs.Ledger

/-!
# Flat alternatives

However the user associates an expression over `|` and `/`, evaluating it from
the leaves to the root gives one flat choice.  Its arms are the operands, except
error branches, and its ledger knows which arms the user separated with `/`.

Main results:

- Definition `JoinTree.value`: the value of an expression.
- Theorem `Records.suppresses_iff`: two arms are separated by `/` in the ledger
  exactly if they meet at a `/` and their numbers can be stored.
- Theorem `JoinTree.value_keeps_arms_and_slashes`: the value of an expression has
  the operands as arms, and no `/` is lost or misplaced.
-/

namespace GrammarTree

/-! ## Expressions of operands -/

/-- An operand of `|` or `/` in a role.  Without a mark it is no plain choice:
otherwise it would be an expression over `|` and `/` itself. -/
structure Operand (S : Type) where
  expr : Expr S
  role : ArmRole
  not_plain : role = .ordinary → expr.plainChoice? = none

namespace Operand

variable {S : Type}

/-- The arm that an operand becomes; an error branch becomes none. -/
def arm? (operand : Operand S) : Option (Expr S) :=
  match operand.role with
  | .recovery _ => none
  | _ => some operand.expr

/-- An operand is no host, so it is kept whole. -/
theorem batch_eq_ofArm (operand : Operand S) :
    operand.expr.batch operand.role = Batch.ofArm operand.expr operand.role := by
  apply Expr.batch_of_host?_eq_none
  rw [Expr.host?]
  split
  · rename_i h
    exact operand.not_plain h
  · rfl

/-- The batch of an operand is the arm it becomes. -/
theorem records_batch (operand : Operand S) :
    Records (operand.expr.batch operand.role).arms (operand.expr.batch operand.role).seams
      (operand.arm?.map .leaf) := by
  rw [batch_eq_ofArm, arm?]
  cases operand.role with
  | ordinary => exact Records.singleton operand.expr
  | default => exact Records.singleton operand.expr
  | recovery exits => exact Records.nil

end Operand

namespace JoinTree

variable {S : Type}

/-- The role in which an expression is joined with another one. -/
def role : JoinTree (Operand S) → ArmRole
  | leaf operand => operand.role
  | join _ _ _ _ => .ordinary

/-- The value of an expression: its operators are applied from the leaves to the
root. -/
def value : JoinTree (Operand S) → Expr S
  | leaf operand => operand.expr
  | join location ordered left right =>
    (Expr.alternate location ordered left.value left.role right.value right.role).1

/-- The expression of the arms alone. -/
def armTree? (t : JoinTree (Operand S)) : Option (JoinTree (Expr S)) :=
  t.filterMap Operand.arm?

/-! ## The ledger of a value -/

/-- A join of two batches with trees behind them is a flat choice with the joined
tree behind it. -/
theorem records_alternate {left right : Expr S} {leftRole rightRole : ArmRole}
    {t u : Option (JoinTree (Expr S))}
    (hleft : Records (left.batch leftRole).arms (left.batch leftRole).seams t)
    (hright : Records (right.batch rightRole).arms (right.batch rightRole).seams u)
    (location : Location) (ordered : Bool) :
    ∃ c, (Expr.alternate location ordered left leftRole right rightRole).1.plainChoice? =
        some c ∧
      Records c.arms c.seams (combine location ordered t u) := by
  obtain ⟨host, side, batch, heq, hcases⟩ :=
    Expr.alternate_cases location ordered left leftRole right rightRole
  have hplain := Expr.plainChoice?_alternate location ordered left leftRole right rightRole
  rw [heq] at hplain ⊢
  refine ⟨host.insert side ordered batch, hplain, ?_⟩
  rcases hcases with ⟨hhost, rfl, rfl⟩ | ⟨-, hhost, rfl, rfl⟩ | ⟨-, -, rfl, rfl, rfl⟩
  · rw [Expr.batch_of_host? hhost] at hleft
    exact Records.insert_back hleft hright location ordered
  · rw [Expr.batch_of_host? hhost] at hright
    exact Records.insert_front hright hleft location ordered
  · have hempty : Records ({ repetition := .once } : Choice (Expr S)).arms
        ({ repetition := .once } : Choice (Expr S)).seams none := Records.nil
    exact Records.insert_back (hempty.insert_back hleft location ordered) hright
      location ordered

/-- What an expression brings into a join has the tree of its arms behind it. -/
theorem records_batch (t : JoinTree (Operand S)) :
    Records (t.value.batch t.role).arms (t.value.batch t.role).seams t.armTree? := by
  induction t with
  | leaf operand => exact operand.records_batch
  | join location ordered left right ihl ihr =>
    rcases records_alternate ihl ihr location ordered with ⟨c, hplain, hc⟩
    have hbatch : (join location ordered left right).value.batch .ordinary =
        Batch.ofChoice c :=
      Expr.batch_of_host? (Expr.host?_eq_some_iff.mpr ⟨rfl, hplain⟩)
    rw [role, hbatch]
    exact hc

/-- The value of an expression with an operator is a flat choice with the tree of
the arms behind it. -/
theorem exists_plainChoice?_value {t : JoinTree (Operand S)} (h : t.isJoin = true) :
    ∃ c, t.value.plainChoice? = some c ∧ Records c.arms c.seams t.armTree? := by
  cases t with
  | leaf operand => cases h
  | join location ordered left right =>
    exact records_alternate left.records_batch right.records_batch location ordered

end JoinTree

/-! ## Suppressed ambiguities -/

namespace Records

variable {α : Type} {c : Choice α} {t : JoinTree α} {i j : Nat}

/-- An empty mask names no arm. -/
theorem inMask_zero (arm : Int) : Choice.inMask 0 arm = false := by
  simp [Choice.inMask]

/-- An ambiguity between two arms is intended exactly if the arms meet at a `/` and
their numbers can be stored. -/
theorem suppresses_iff (h : Records c.arms c.seams (some t)) (hi : i < t.size)
    (hj : j < t.size) :
    c.suppresses i j 0 = true ↔
      t.operator? i j = some true ∧ (i : Int) < Seam.greatest ∧ (j : Int) < Seam.greatest := by
  have hseams : c.seams = (t.seamsFrom 0).map Seam.clamped := h.seams_eq
  -- each stored seam separates what the seam itself separates below the bound
  have hstored (s : Seam) (hs : s ∈ t.seamsFrom 0) :
      s.clamped.separates i j = true ↔
        s.separates i j = true ∧ (i : Int) < Seam.greatest ∧ (j : Int) < Seam.greatest := by
    have hbounds := JoinTree.bounds_of_mem_seamsFrom hs
    exact Seam.clamped_separates_iff (by omega) (by omega) (by omega)
  have hmeet : (∃ s ∈ t.seamsFrom 0, s.separates i j = true ∧ s.ordered = true) ↔
      t.operator? i j = some true := by
    simpa using t.exists_separates_iff 0 hi hj
  rw [Choice.suppresses, inMask_zero, Bool.false_and, Bool.false_or, hseams, List.any_map,
    List.any_eq_true, ← hmeet]
  simp only [Function.comp_apply, Bool.and_eq_true]
  constructor
  · rintro ⟨s, hs, hordered, hsep⟩
    rcases (hstored s hs).mp hsep with ⟨hsep, hlt⟩
    exact ⟨⟨s, hs, hsep, hordered⟩, hlt⟩
  · rintro ⟨⟨s, hs, hsep, hordered⟩, hlt⟩
    exact ⟨s, hs, hordered, (hstored s hs).mpr ⟨hsep, hlt⟩⟩

end Records

namespace JoinTree

variable {S : Type}

/-- The value of an expression is one flat choice whose arms are the operands that
are no error branches, in order.  An ambiguity between two arms is suppressed only
if their operands meet at a `/`, and it is suppressed then if both numbers are
below the greatest position a seam can store. -/
theorem value_keeps_arms_and_slashes {t : JoinTree (Operand S)} (h : t.isJoin = true) :
    ∃ c, t.value.plainChoice? = some c ∧ c.arms = t.leaves.filterMap Operand.arm? ∧
      ∀ i j a b : Nat, i ≠ j →
        (t.leaves.findIdxs fun o => o.arm?.isSome)[i]? = some a →
        (t.leaves.findIdxs fun o => o.arm?.isSome)[j]? = some b →
        (c.suppresses i j 0 = true → t.operator? a b = some true) ∧
        (t.operator? a b = some true → i < 32767 → j < 32767 →
          c.suppresses i j 0 = true) := by
  rcases exists_plainChoice?_value h with ⟨c, hplain, hc⟩
  refine ⟨c, hplain, by rw [hc.arms_eq, armTree?, leavesOf_filterMap], ?_⟩
  intro i j a b _ ha hb
  have hmeet := operator?_filterMap Operand.arm? t ha hb
  have hi := lt_length_leavesOf_of_keptPlaces ha
  have hj := lt_length_leavesOf_of_keptPlaces hb
  cases htree : t.filterMap Operand.arm? with
  | none =>
    rw [htree] at hi
    simp [leavesOf] at hi
  | some u =>
    rw [htree, length_leavesOf_some] at hi hj
    rw [armTree?, htree] at hc
    rw [htree, Option.bind_some] at hmeet
    have hiff := hc.suppresses_iff hi hj
    rw [hmeet] at hiff
    constructor
    · intro hsup
      exact (hiff.mp hsup).1
    · intro hop hi hj
      refine hiff.mpr ⟨hop, ?_, ?_⟩
      · simp only [Seam.greatest]
        omega
      · simp only [Seam.greatest]
        omega

/-- The expression `(a | error b) / (c | default d)`: the arms are `a`, `c` and `d`,
and only the `/` separates them. -/
theorem value_keeps_arms_and_slashes_grouped :
    let operand (k : Nat) (role : ArmRole) : Operand Unit :=
      ⟨.ofKind none (.call ⟨⟨k⟩, "r", []⟩), role, fun _ => rfl⟩
    let t : JoinTree (Operand Unit) :=
      .join none true
        (.join none false (.leaf (operand 0 .ordinary)) (.leaf (operand 1 (.recovery true))))
        (.join none false (.leaf (operand 2 .ordinary)) (.leaf (operand 3 .default)))
    t.isJoin = true ∧ ∃ c, t.value.plainChoice? = some c ∧
      c.suppresses 0 1 0 = true ∧ c.suppresses 0 2 0 = true ∧ c.suppresses 1 2 0 = false := by
  intro operand t
  rcases value_keeps_arms_and_slashes (t := t) rfl with ⟨c, hplain, -, h⟩
  refine ⟨rfl, c, hplain, ?_, ?_, ?_⟩
  · exact (h 0 1 0 2 (by decide) rfl rfl).2 rfl (by decide) (by decide)
  · exact (h 0 2 0 3 (by decide) rfl rfl).2 rfl (by decide) (by decide)
  · have hmeet : t.operator? 2 3 ≠ some true := by decide
    exact Bool.eq_false_iff.mpr fun hsup => hmeet ((h 1 2 2 3 (by decide) rfl rfl).1 hsup)

end JoinTree

end GrammarTree
