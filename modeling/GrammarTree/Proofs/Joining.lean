import GrammarTree.Expr.Alternation

/-!
# Joining operands

What the operators on alternatives do, said once for all later proofs: which
operand becomes the host, what the other one brings, and what a loop adopts.

Main results:

- Theorem `Expr.alternate_cases`: the result of a join is a host with a batch
  placed on one side; the host is the left operand, else the right one, else a
  fresh choice.
- Theorem `Expr.loop_eq_ok_iff`: a loop is built unless it would stand directly
  around a loop.
- Theorem `Expr.unmarked_alternate`: operands without marks give a choice without
  marks.
-/

namespace GrammarTree

/-! ## Batches and their hosts -/

namespace Choice

variable {α : Type}

/-- A batch changes nothing about how often the arms are tried. -/
@[simp] theorem insert_repetition (c : Choice α) (side : Side) (ordered : Bool)
    (batch : Batch α) : (c.insert side ordered batch).repetition = c.repetition := by
  cases side <;> rfl

/-- The error branch that is there stays; otherwise the batch brings one. -/
@[simp] theorem insert_recovery (c : Choice α) (side : Side) (ordered : Bool)
    (batch : Batch α) :
    (c.insert side ordered batch).recovery = (c.recovery <|> batch.recovery) := by
  cases side <;> rfl

/-- A batch adds its arms. -/
theorem length_arms_insert (c : Choice α) (side : Side) (ordered : Bool) (batch : Batch α) :
    (c.insert side ordered batch).arms.length = c.arms.length + batch.arms.length := by
  cases side with
  | front => exact List.length_append.trans (Nat.add_comm _ _)
  | back => exact List.length_append

/-- The default after a batch was placed is the default that was there, moved by the
arms in front of it, or else the default of the batch. -/
theorem insert_defaultArm_cases {c : Choice α} {side : Side} {ordered : Bool}
    {batch : Batch α} {d : DefaultArm} (h : (c.insert side ordered batch).defaultArm = some d) :
    (∃ old, c.defaultArm = some old ∧
        d = old.shift (if side = .front then batch.arms.length else 0)) ∨
      (c.defaultArm = none ∧ ∃ i, batch.defaultArm = some i ∧
        d = .arm (i + if side = .back then c.arms.length else 0)) := by
  cases hdefault : c.defaultArm with
  | some old =>
    refine Or.inl ⟨old, rfl, ?_⟩
    cases side with
    | front =>
      simp only [insert, hdefault] at h
      exact (Option.some.inj h).symm
    | back =>
      simp only [insert, hdefault] at h
      cases h
      cases d <;> rfl
  | none =>
    refine Or.inr ⟨rfl, ?_⟩
    cases side with
    | front =>
      simp only [insert, hdefault] at h
      rcases Option.map_eq_some_iff.mp h with ⟨i, hi, rfl⟩
      exact ⟨i, hi, rfl⟩
    | back =>
      simp only [insert, hdefault] at h
      rcases Option.map_eq_some_iff.mp h with ⟨i, hi, rfl⟩
      exact ⟨i, hi, rfl⟩

/-- A choice is no loop exactly if its arms are tried once. -/
theorem isLoop_eq_false_iff (c : Choice α) : c.isLoop = false ↔ c.repetition = .once := by
  cases h : c.repetition <;> simp [isLoop, Repetition.isLoop, h]

/-- A choice is a loop exactly if it is an optional element or a star. -/
theorem isLoop_eq_true_iff (c : Choice α) :
    c.isLoop = true ↔ c.repetition = .optional ∨ c.repetition = .star := by
  cases h : c.repetition <;> simp [isLoop, Repetition.isLoop, h]

end Choice

/-- A node has no user code exactly if there is no fragment and no saver. -/
theorem Notes.hasActions_eq_false_iff (n : Notes) :
    n.hasActions = false ↔ n.before = none ∧ n.after = none ∧ n.saver = none := by
  simp [hasActions, and_assoc]

namespace Expr

variable {S : Type} {e operand : Expr S} {role : ArmRole} {c host : Choice (Expr S)}

/-- A plain choice is the choice at the root, tried once and without user code. -/
theorem plainChoice?_eq_some_iff :
    e.plainChoice? = some c ↔
      e.choice? = some c ∧ e.notes.hasActions = false ∧ c.repetition = .once := by
  rcases e with ⟨n, k⟩
  cases k with
  | choice d =>
    simp only [plainChoice?, choice?, notes, Option.some.injEq]
    rw [← c.isLoop_eq_false_iff]
    split
    · rename_i h
      constructor
      · intro hc
        cases hc
      · rintro ⟨rfl, hn, hloop⟩
        simp [hn, hloop] at h
    · rename_i h
      simp only [Bool.or_eq_true, not_or, Bool.not_eq_true] at h
      constructor
      · rintro hc
        cases hc
        exact ⟨rfl, h⟩
      · rintro ⟨rfl, -, -⟩
        rfl
  | _ => simp [plainChoice?, choice?]

/-- A node without user code around a choice that is tried once is plain. -/
theorem plainChoice?_ofKind (location : Location) (h : c.repetition = .once) :
    (ofKind location (.choice c)).plainChoice? = some c :=
  plainChoice?_eq_some_iff.mpr ⟨rfl, rfl, h⟩

/-- An operand is a host if it has no mark and is a plain choice. -/
theorem host?_eq_some_iff :
    operand.host? role = some host ↔ role = .ordinary ∧ operand.plainChoice? = some host := by
  unfold host?
  split <;> simp_all

/-- A host brings its own arms when it is placed elsewhere. -/
theorem batch_of_host? (h : operand.host? role = some host) :
    operand.batch role = Batch.ofChoice host := by
  rcases host?_eq_some_iff.mp h with ⟨rfl, hplain⟩
  simp only [batch, hplain]

/-- An operand that is no host is kept whole. -/
theorem batch_of_host?_eq_none (h : operand.host? role = none) :
    operand.batch role = Batch.ofArm operand role := by
  unfold batch
  split
  · rename_i hplain
    rw [host?_eq_some_iff.mpr ⟨rfl, hplain⟩] at h
    cases h
  · rfl

/-- A join places a batch at a host: the right operand behind the left one if the
left one is a host, else the left operand in front of the right one if that is a
host, else the right operand behind a fresh choice of the left one. -/
theorem alternate_cases (location : Location) (ordered : Bool) (left : Expr S)
    (leftRole : ArmRole) (right : Expr S) (rightRole : ArmRole) :
    ∃ host side batch,
      alternate location ordered left leftRole right rightRole =
        (ofKind location (.choice (host.insert side ordered batch)),
          host.insertReports side batch) ∧
      ((left.host? leftRole = some host ∧ side = .back ∧ batch = right.batch rightRole) ∨
        (left.host? leftRole = none ∧ right.host? rightRole = some host ∧ side = .front ∧
          batch = left.batch leftRole) ∨
        (left.host? leftRole = none ∧ right.host? rightRole = none ∧
          host = ({ repetition := .once } : Choice (Expr S)).insert .back ordered
            (left.batch leftRole) ∧
          side = .back ∧ batch = right.batch rightRole)) := by
  cases hleft : left.host? leftRole with
  | some host =>
    refine ⟨host, .back, right.batch rightRole, ?_, Or.inl ⟨rfl, rfl, rfl⟩⟩
    simp only [alternate, hleft]
  | none =>
    cases hright : right.host? rightRole with
    | some host =>
      refine ⟨host, .front, left.batch leftRole, ?_, Or.inr (Or.inl ⟨rfl, rfl, rfl, rfl⟩)⟩
      simp only [alternate, hleft, hright]
    | none =>
      refine ⟨_, .back, right.batch rightRole, ?_, Or.inr (Or.inr ⟨rfl, rfl, rfl, rfl, rfl⟩)⟩
      simp only [alternate, hleft, hright]

/-- A join is nothing but arms to choose from. -/
theorem plainChoice?_alternate (location : Location) (ordered : Bool) (left : Expr S)
    (leftRole : ArmRole) (right : Expr S) (rightRole : ArmRole) :
    (alternate location ordered left leftRole right rightRole).1.plainChoice? =
      (alternate location ordered left leftRole right rightRole).1.choice? := by
  obtain ⟨host, side, batch, heq, hcases⟩ :=
    alternate_cases location ordered left leftRole right rightRole
  rw [heq]
  refine plainChoice?_ofKind location ?_
  rw [Choice.insert_repetition]
  rcases hcases with ⟨hhost, -, -⟩ | ⟨-, hhost, -, -⟩ | ⟨-, -, rfl, -, -⟩
  · exact (plainChoice?_eq_some_iff.mp (host?_eq_some_iff.mp hhost).2).2.2
  · exact (plainChoice?_eq_some_iff.mp (host?_eq_some_iff.mp hhost).2).2.2
  · rw [Choice.insert_repetition]

/-! ## Loops -/

/-- A loop is built unless it would stand directly around a loop. -/
theorem loop_eq_ok_iff {location : Location} {repetition : Repetition} {greedy : Option Bool}
    {body e : Expr S} :
    loop location repetition greedy body = .ok e ↔
      ¬ (repetition.isLoop = true ∧ ∃ inner, body.choice? = some inner ∧ inner.isLoop = true) ∧
        e = ofKind location (.choice (loopChoice repetition greedy body)) := by
  unfold loop
  cases body.choice? with
  | none =>
    constructor
    · intro h
      cases h
      exact ⟨by simp, rfl⟩
    · rintro ⟨-, rfl⟩
      rfl
  | some inner =>
    dsimp only
    split
    · rename_i h
      rw [Bool.and_eq_true] at h
      constructor
      · intro h'
        cases h'
      · rintro ⟨hno, -⟩
        exact absurd ⟨h.1, inner, rfl, h.2⟩ hno
    · rename_i h
      constructor
      · intro h'
        cases h'
        refine ⟨?_, rfl⟩
        rintro ⟨hrep, d, hd, hloop⟩
        cases hd
        exact h (by rw [hrep, hloop]; rfl)
      · rintro ⟨-, rfl⟩
        rfl

end Expr

/-! ## Choices without marks -/

/-- Neither a default nor an error branch. -/
def Choice.Unmarked {α : Type} (c : Choice α) : Prop :=
  c.defaultArm = none ∧ c.recovery = none

/-- Placing a batch without marks at a choice without marks adds none. -/
theorem Choice.Unmarked.insert {α : Type} {c : Choice α} {batch : Batch α} (hc : c.Unmarked)
    (hdefault : batch.defaultArm = none) (hrecovery : batch.recovery = none) (side : Side)
    (ordered : Bool) : (c.insert side ordered batch).Unmarked := by
  rcases hc with ⟨hd, hr⟩
  refine ⟨?_, by rw [insert_recovery, hr, hrecovery]; rfl⟩
  cases side with
  | front => simp [Choice.insert, hd, hdefault]
  | back => simp [Choice.insert, hd, hdefault]

/-- An operand without marks brings none. -/
theorem Expr.unmarked_batch {S : Type} {operand : Expr S}
    (h : ∀ c, operand.plainChoice? = some c → c.Unmarked) :
    (operand.batch .ordinary).defaultArm = none ∧ (operand.batch .ordinary).recovery = none := by
  cases hplain : operand.plainChoice? with
  | none =>
    have hhost : operand.host? .ordinary = none := hplain
    rw [batch_of_host?_eq_none hhost]
    exact ⟨rfl, rfl⟩
  | some c =>
    rcases h c hplain with ⟨hd, hr⟩
    rw [batch_of_host? (host?_eq_some_iff.mpr ⟨rfl, hplain⟩)]
    exact ⟨by simp [Batch.ofChoice, hd], hr⟩

/-- Joining operands without marks gives a choice without marks. -/
theorem Expr.unmarked_alternate {S : Type} {left right : Expr S} (location : Location)
    (ordered : Bool) (hleft : ∀ c, left.plainChoice? = some c → c.Unmarked)
    (hright : ∀ c, right.plainChoice? = some c → c.Unmarked) {c : Choice (Expr S)}
    (h : (alternate location ordered left .ordinary right .ordinary).1.plainChoice? = some c) :
    c.Unmarked := by
  rcases unmarked_batch hleft with ⟨hld, hlr⟩
  rcases unmarked_batch hright with ⟨hrd, hrr⟩
  obtain ⟨host, side, batch, heq, hcases⟩ :=
    alternate_cases location ordered left .ordinary right .ordinary
  rw [heq, plainChoice?_eq_some_iff] at h
  rcases h with ⟨hchoice, -, -⟩
  cases hchoice
  rcases hcases with ⟨hhost, rfl, rfl⟩ | ⟨-, hhost, rfl, rfl⟩ | ⟨-, -, rfl, rfl, rfl⟩
  · exact (hleft host (host?_eq_some_iff.mp hhost).2).insert hrd hrr _ _
  · exact (hright host (host?_eq_some_iff.mp hhost).2).insert hld hlr _ _
  · have hempty : ({ repetition := .once } : Choice (Expr S)).Unmarked := ⟨rfl, rfl⟩
    exact (hempty.insert hld hlr _ _).insert hrd hrr _ _

end GrammarTree
