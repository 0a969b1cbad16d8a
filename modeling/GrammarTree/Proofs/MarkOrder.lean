import Mathlib.Data.List.Perm.Basic
import GrammarTree.Proofs.Flattening
import GrammarTree.Proofs.Marks

/-!
# The order in which marks are seen

Of several defaults the first one is kept, and so is the first of several error
branches.  First means first seen: joins are evaluated from the leaves to the root,
so a single operand in front of a parenthesised expression is seen only after the
operands inside it.  The order of the text is the order of sight unless such an
operand has a mark and the parenthesised expression has one of the same sort.

Main results:

- Definition `JoinTree.seen`: the operands in the order of sight.
- Theorem `JoinTree.hasFirstMarks`: the marks of a value are the first ones seen.
- Theorem `JoinTree.first_seen_mark_wins`: what two ways to associate the same
  operands have in common, and when they keep the same marks.
-/

namespace GrammarTree

namespace JoinTree

variable {α β : Type}

/-! ## Operands in order -/

/-- Every member of a list with the members in front of it. -/
def splits : List α → List (List α × α)
  | [] => []
  | a :: rest => ([], a) :: (splits rest).map fun s => (a :: s.1, s.2)

/-- The splits of a list have its members in order. -/
theorem map_snd_splits (operands : List α) : (splits operands).map Prod.snd = operands := by
  induction operands with
  | nil => rfl
  | cons a rest ih => simpa [splits, Function.comp_def] using ih

/-- Splits of a list that stands behind another one. -/
def behind (front : List α) (rest : List (List α × α)) : List (List α × α) :=
  rest.map fun s => (front ++ s.1, s.2)

/-- The members of two lists are those of the first and then those of the second. -/
theorem splits_append (front back : List α) :
    splits (front ++ back) = splits front ++ behind front (splits back) := by
  induction front with
  | nil => simp [splits, behind]
  | cons a rest ih => simp [splits, ih, behind, Function.comp_def]

/-- Every operand with the operands in front of it, in the order of sight: from left
to right, except that an operand alone in front of an expression comes behind the
operands of that expression. -/
def seen : JoinTree α → List (List α × α)
  | leaf operand => [([], operand)]
  | join _ _ left right =>
    if !left.isJoin && right.isJoin then behind left.leaves right.seen ++ left.seen
    else left.seen ++ behind left.leaves right.seen

/-- Every operand is seen once. -/
theorem perm_seen (t : JoinTree α) : t.seen.Perm (splits t.leaves) := by
  induction t with
  | leaf operand => exact List.Perm.refl _
  | join location ordered left right ihl ihr =>
    have hright := ihr.map fun s => (left.leaves ++ s.1, s.2)
    rw [seen, leaves, splits_append]
    split
    · exact List.perm_append_comm.trans (ihl.append hright)
    · exact ihl.append hright

/-- Whether the order of sight is the order of the text for the operands with a mark:
no operand with the mark stands alone in front of an expression with the mark. -/
def marksInOrder (marked : α → Bool) : JoinTree α → Bool
  | leaf _ => true
  | join _ _ left right =>
    left.marksInOrder marked && right.marksInOrder marked &&
      (left.isJoin || !right.isJoin || !left.leaves.any marked || !right.leaves.any marked)

/-- Without an operand with the mark no mark is found. -/
theorem findSome?_splits_eq_none {marked : α → Bool} {f : List α × α → Option β}
    (hf : ∀ s, marked s.2 = false → f s = none) {operands : List α}
    (h : operands.any marked = false) : (splits operands).findSome? f = none := by
  rw [List.findSome?_eq_none_iff]
  intro s hs
  have hmem : s.2 ∈ operands := by
    rw [← map_snd_splits operands]
    exact List.mem_map_of_mem hs
  exact hf s (by simpa using List.any_eq_false.mp h s.2 hmem)

/-- If the marks are seen in order, the first mark seen is the first one of the
text. -/
theorem findSome?_seen {marked : α → Bool} {f : List α × α → Option β}
    (hf : ∀ s, marked s.2 = false → f s = none) {t : JoinTree α}
    (h : t.marksInOrder marked = true) :
    t.seen.findSome? f = (splits t.leaves).findSome? f := by
  induction t generalizing f with
  | leaf operand => rfl
  | join location ordered left right ihl ihr =>
    rw [marksInOrder, Bool.and_eq_true, Bool.and_eq_true] at h
    rcases h with ⟨⟨hl, hr⟩, hfront⟩
    have hleft := ihl hf hl
    -- the marks of the right side are found behind the operands of the left side
    have hright : (behind left.leaves right.seen).findSome? f =
        (behind left.leaves (splits right.leaves)).findSome? f := by
      rw [behind, List.findSome?_map, behind, List.findSome?_map]
      exact ihr (fun s hs => hf _ hs) hr
    rw [seen, leaves, splits_append, List.findSome?_append, ← hleft, ← hright]
    split
    · rename_i halone
      rw [List.findSome?_append]
      -- one of the two sides has no mark, so it does not matter which one is seen first
      have hnone : left.leaves.any marked = false ∨ right.leaves.any marked = false := by
        rw [Bool.and_eq_true, Bool.not_eq_true'] at halone
        simpa [halone.1, halone.2] using hfront
      rcases hnone with hnone | hnone
      · rw [hleft, findSome?_splits_eq_none hf hnone, Option.or_none, Option.none_or]
      · have hbehind : (behind left.leaves (splits right.leaves)).findSome? f = none := by
          rw [behind, List.findSome?_map]
          refine findSome?_splits_eq_none ?_ hnone
          intro s hs
          exact hf _ hs
        rw [hright, hbehind, Option.or_none, Option.none_or]
    · rw [List.findSome?_append]

/-- Whether a mark is found at all does not depend on the order. -/
theorem isSome_findSome?_seen {t u : JoinTree α} (h : t.leaves = u.leaves)
    (f : List α × α → Option β) :
    (t.seen.findSome? f).isSome = (u.seen.findSome? f).isSome := by
  have hperm : t.seen.Perm u.seen := t.perm_seen.trans (h ▸ u.perm_seen.symm)
  rw [List.isSome_findSome?, List.isSome_findSome?]
  exact hperm.any_eq

end JoinTree

/-! ## The marks of operands -/

namespace Operand

variable {S : Type}

/-- The default that an operand is, behind the arms of the operands in front of it. -/
def default? (s : List (Operand S) × Operand S) : Option DefaultArm :=
  if s.2.role = .default then some (.arm (s.1.filterMap arm?).length) else none

/-- The error branch that an operand is. -/
def recovery? (o : Operand S) : Option (Recovery (Expr S)) :=
  match o.role with
  | .recovery exits => some ⟨o.expr, exits⟩
  | _ => none

/-- Operands in front move a default by their arms. -/
theorem default?_append (front : List (Operand S)) (s : List (Operand S) × Operand S) :
    default? (front ++ s.1, s.2) = (default? s).map (·.shift (front.filterMap arm?).length) := by
  unfold default?
  split
  · simp [DefaultArm.shift, Nat.add_comm]
  · rfl

/-- The batch of an operand has the marks of the operand. -/
theorem marks_batch (o : Operand S) :
    (o.expr.batch o.role).defaultArm.map .arm = default? ([], o) ∧
      (o.expr.batch o.role).recovery = o.recovery? := by
  rw [batch_eq_ofArm, default?, recovery?]
  cases o.role with
  | ordinary => exact ⟨rfl, rfl⟩
  | default => exact ⟨rfl, rfl⟩
  | recovery exits => exact ⟨rfl, rfl⟩

end Operand

namespace JoinTree

variable {S : Type}

/-- The first default that is seen. -/
def firstDefault? (t : JoinTree (Operand S)) : Option DefaultArm :=
  t.seen.findSome? Operand.default?

/-- The first error branch that is seen. -/
def firstRecovery? (t : JoinTree (Operand S)) : Option (Recovery (Expr S)) :=
  t.seen.findSome? fun s => s.2.recovery?

/-- The number of arms of an expression. -/
def armCount (t : JoinTree (Operand S)) : Nat :=
  (t.leaves.filterMap Operand.arm?).length

/-- Operands in front of an expression move its default. -/
theorem findSome?_behind_default? (t u : JoinTree (Operand S)) :
    (behind t.leaves u.seen).findSome? Operand.default? =
      u.firstDefault?.map (·.shift t.armCount) := by
  rw [behind, List.findSome?_map, firstDefault?, List.map_findSome?]
  congr 1
  funext s
  exact Operand.default?_append t.leaves s

/-- Operands in front of an expression change nothing about its error branch. -/
theorem findSome?_behind_recovery? (t u : JoinTree (Operand S)) :
    (behind t.leaves u.seen).findSome? (fun s => s.2.recovery?) = u.firstRecovery? := by
  rw [behind, List.findSome?_map]
  rfl

/-- The marks of the left side win, unless it is a single operand in front of an
expression. -/
theorem firstMarks_join (location : Location) (ordered : Bool)
    (left right : JoinTree (Operand S)) (h : left.isJoin = true ∨ right.isJoin = false) :
    (join location ordered left right).firstDefault? =
        left.firstDefault?.or (right.firstDefault?.map (·.shift left.armCount)) ∧
      (join location ordered left right).firstRecovery? =
        left.firstRecovery?.or right.firstRecovery? := by
  have hsight : (join location ordered left right).seen =
      left.seen ++ behind left.leaves right.seen := by
    rw [seen, if_neg]
    rcases h with h | h <;> simp [h]
  rw [firstDefault?, hsight, List.findSome?_append, findSome?_behind_default?, firstRecovery?,
    hsight, List.findSome?_append, findSome?_behind_recovery?]
  exact ⟨rfl, rfl⟩

/-- The marks of an expression win over the mark of a single operand in front of it. -/
theorem firstMarks_join_alone (location : Location) (ordered : Bool)
    (left right : JoinTree (Operand S)) (hleft : left.isJoin = false)
    (hright : right.isJoin = true) :
    (join location ordered left right).firstDefault? =
        (right.firstDefault?.map (·.shift left.armCount)).or left.firstDefault? ∧
      (join location ordered left right).firstRecovery? =
        right.firstRecovery?.or left.firstRecovery? := by
  have hsight : (join location ordered left right).seen =
      behind left.leaves right.seen ++ left.seen := by
    rw [seen, if_pos]
    simp [hleft, hright]
  rw [firstDefault?, hsight, List.findSome?_append, findSome?_behind_default?, firstRecovery?,
    hsight, List.findSome?_append, findSome?_behind_recovery?]
  exact ⟨rfl, rfl⟩

/-! ## The marks of a value -/

end JoinTree

namespace Choice

variable {α : Type}

/-- A batch behind a choice brings its default if the choice has none. -/
theorem defaultArm_insert_back (c : Choice α) (ordered : Bool) (batch : Batch α) :
    (c.insert .back ordered batch).defaultArm =
      c.defaultArm.or ((batch.defaultArm.map DefaultArm.arm).map (·.shift c.arms.length)) := by
  rw [Option.map_map]
  cases hd : c.defaultArm <;> simp [insert, hd, Function.comp_def, DefaultArm.shift]

/-- The first batch of a choice brings its default. -/
theorem defaultArm_insert_fresh (repetition : Repetition) (ordered : Bool) (batch : Batch α) :
    (({ repetition } : Choice α).insert .back ordered batch).defaultArm =
      batch.defaultArm.map .arm := by
  simp [insert]

/-- A batch in front of a choice moves its default, or brings one if it has none. -/
theorem defaultArm_insert_front (c : Choice α) (ordered : Bool) (batch : Batch α) :
    (c.insert .front ordered batch).defaultArm =
      (c.defaultArm.map (·.shift batch.arms.length)).or (batch.defaultArm.map .arm) := by
  cases hd : c.defaultArm <;> simp [insert, hd]

/-- The error branch that is there wins over the one of a batch. -/
theorem recovery_insert (c : Choice α) (side : Side) (ordered : Bool) (batch : Batch α) :
    (c.insert side ordered batch).recovery = c.recovery.or batch.recovery := by
  rw [insert_recovery, Option.orElse_eq_orElse, Option.orElse_eq_or]

end Choice

namespace JoinTree

variable {S : Type}

/-- The marks that an expression brings into a join, and those of the choice to which
others are added, are the first ones seen. -/
structure HasFirstMarks (t : JoinTree (Operand S)) : Prop where
  batch_default : (t.value.batch t.role).defaultArm.map .arm = t.firstDefault?
  batch_recovery : (t.value.batch t.role).recovery = t.firstRecovery?
  host : ∀ c, t.value.host? t.role = some c →
    c.defaultArm = t.firstDefault? ∧ c.recovery = t.firstRecovery?

/-- The arms that an expression brings into a join are counted. -/
theorem length_arms_batch (t : JoinTree (Operand S)) :
    (t.value.batch t.role).arms.length = t.armCount := by
  rw [t.records_batch.arms_eq, armTree?, leavesOf_filterMap]
  rfl

/-- Exactly the expressions with an operator are hosts. -/
theorem isSome_host?_value (t : JoinTree (Operand S)) :
    (t.value.host? t.role).isSome = t.isJoin := by
  cases t with
  | leaf o =>
    have hnone : o.expr.host? o.role = none := by
      unfold Expr.host?
      split
      · rename_i hrole
        exact o.not_plain hrole
      · rfl
    rw [value, role, hnone]
    rfl
  | join location ordered left right =>
    obtain ⟨c, hplain, -⟩ := exists_plainChoice?_value (t := join location ordered left right) rfl
    rw [role, Expr.host?, if_pos rfl, hplain]
    rfl

/-- A value that gives its arms up brings its default along. -/
theorem defaultArm_ofChoice_value {t : JoinTree (Operand S)} {c : Choice (Expr S)}
    (h : t.value.host? t.role = some c) :
    (Batch.ofChoice c).defaultArm.map .arm = c.defaultArm := by
  have htag : (t.map Operand.tagged).tag = t.role := by cases t <;> rfl
  have htally := (t.map Operand.tagged).hasTally.host c
  rw [evaluate_map_tagged, htag] at htally
  exact (htally h).defaultArm_ofChoice

/-- A join of expressions with the first marks has the first marks. -/
theorem HasFirstMarks.join {left right : JoinTree (Operand S)} (hleft : left.HasFirstMarks)
    (hright : right.HasFirstMarks) (location : Location) (ordered : Bool)
    {c : Choice (Expr S)}
    (h : (JoinTree.join location ordered left right).value.plainChoice? = some c) :
    c.defaultArm = (JoinTree.join location ordered left right).firstDefault? ∧
      c.recovery = (JoinTree.join location ordered left right).firstRecovery? := by
  obtain ⟨host, side, batch, heq, hcases⟩ := Expr.alternate_cases location ordered
    left.value left.role right.value right.role
  rw [value, heq, Expr.plainChoice?_eq_some_iff] at h
  rcases h with ⟨hchoice, -, -⟩
  cases hchoice
  have hl := left.isSome_host?_value
  have hr := right.isSome_host?_value
  rcases hcases with ⟨hhost, rfl, rfl⟩ | ⟨hnone, hhost, rfl, rfl⟩ | ⟨hnone, hnone', rfl, rfl, rfl⟩
  · rw [hhost] at hl
    obtain ⟨hdefault, hrecovery⟩ :=
      firstMarks_join location ordered left right (Or.inl hl.symm)
    have hcount : host.arms.length = left.armCount := by
      rw [← left.length_arms_batch, Expr.batch_of_host? hhost]
      rfl
    rw [Choice.defaultArm_insert_back, Choice.recovery_insert, (hleft.host host hhost).1,
      (hleft.host host hhost).2, hright.batch_default, hright.batch_recovery, hcount]
    exact ⟨hdefault.symm, hrecovery.symm⟩
  · rw [hnone] at hl
    rw [hhost] at hr
    obtain ⟨hdefault, hrecovery⟩ :=
      firstMarks_join_alone location ordered left right hl.symm hr.symm
    rw [Choice.defaultArm_insert_front, Choice.recovery_insert, (hright.host host hhost).1,
      (hright.host host hhost).2, hleft.batch_default, hleft.batch_recovery,
      left.length_arms_batch]
    exact ⟨hdefault.symm, hrecovery.symm⟩
  · rw [hnone'] at hr
    obtain ⟨hdefault, hrecovery⟩ :=
      firstMarks_join location ordered left right (Or.inr hr.symm)
    have hcount : (({ repetition := .once } : Choice (Expr S)).insert .back ordered
        (left.value.batch left.role)).arms.length = left.armCount := by
      rw [Choice.length_arms_insert, left.length_arms_batch]
      exact Nat.zero_add _
    rw [Choice.defaultArm_insert_back, Choice.defaultArm_insert_fresh, Choice.recovery_insert,
      Choice.recovery_insert, hcount, hleft.batch_default, hleft.batch_recovery,
      hright.batch_default, hright.batch_recovery]
    exact ⟨hdefault.symm, hrecovery.symm⟩

/-- The marks of every expression are the first ones seen. -/
theorem hasFirstMarks (t : JoinTree (Operand S)) : t.HasFirstMarks := by
  induction t with
  | leaf o =>
    refine ⟨?_, ?_, ?_⟩
    · simpa [firstDefault?, seen, value, role] using o.marks_batch.1
    · simpa [firstRecovery?, seen, value, role] using o.marks_batch.2
    · intro c hhost
      have hsome := (leaf o).isSome_host?_value
      rw [hhost] at hsome
      cases hsome
  | join location ordered left right ihl ihr =>
    have hjoin (c : Choice (Expr S))
        (hhost : (join location ordered left right).value.host? .ordinary = some c) :=
      ihl.join ihr location ordered (Expr.host?_eq_some_iff.mp hhost).2
    obtain ⟨c, hhost⟩ := Option.isSome_iff_exists.mp
      (join location ordered left right).isSome_host?_value
    refine ⟨?_, ?_, hjoin⟩
    · rw [Expr.batch_of_host? hhost, defaultArm_ofChoice_value hhost]
      exact (hjoin c hhost).1
    · rw [Expr.batch_of_host? hhost]
      exact (hjoin c hhost).2

/-- If the defaults are seen in order, the first one of the text is kept. -/
theorem firstDefault?_of_marksInOrder {t : JoinTree (Operand S)}
    (h : t.marksInOrder (fun o => o.role = .default) = true) :
    t.firstDefault? = (splits t.leaves).findSome? Operand.default? := by
  refine findSome?_seen ?_ h
  intro s hs
  exact if_neg (by simpa using hs)

/-- If the error branches are seen in order, the first one of the text is kept. -/
theorem firstRecovery?_of_marksInOrder {t : JoinTree (Operand S)}
    (h : t.marksInOrder (fun o => o.role.isRecovery) = true) :
    t.firstRecovery? = t.leaves.findSome? Operand.recovery? := by
  have hnone (s : List (Operand S) × Operand S) (hs : s.2.role.isRecovery = false) :
      s.2.recovery? = none := by
    unfold Operand.recovery?
    split
    · rename_i exits hrole
      rw [hrole] at hs
      cases hs
    · rfl
  rw [firstRecovery?, findSome?_seen hnone h]
  conv_rhs => rw [← map_snd_splits t.leaves]
  rw [List.findSome?_map]
  rfl

/-- However the same operands are associated, their value has the same arms, and it has
a default or an error branch in either case or in neither.  The marks that are kept are
the first ones seen.  They are the first ones of the text, and so the same for both ways
to associate, if in neither of them an operand with a mark stands alone in front of an
expression with a mark of the same sort. -/
theorem first_seen_mark_wins {t u : JoinTree (Operand S)} (ht : t.isJoin = true)
    (hu : u.isJoin = true) (hleaves : t.leaves = u.leaves) :
    ∃ c d, t.value.plainChoice? = some c ∧ u.value.plainChoice? = some d ∧
      c.arms = t.leaves.filterMap Operand.arm? ∧ d.arms = c.arms ∧
      (c.defaultArm = t.firstDefault? ∧ d.defaultArm = u.firstDefault? ∧
        c.defaultArm.isSome = d.defaultArm.isSome) ∧
      (c.recovery = t.firstRecovery? ∧ d.recovery = u.firstRecovery? ∧
        c.recovery.isSome = d.recovery.isSome) ∧
      (t.marksInOrder (fun o => o.role = .default) = true →
        u.marksInOrder (fun o => o.role = .default) = true →
        c.defaultArm = (splits t.leaves).findSome? Operand.default? ∧
          d.defaultArm = c.defaultArm) ∧
      (t.marksInOrder (fun o => o.role.isRecovery) = true →
        u.marksInOrder (fun o => o.role.isRecovery) = true →
        c.recovery = t.leaves.findSome? Operand.recovery? ∧ d.recovery = c.recovery ∧
          d.exitsOnError = c.exitsOnError) := by
  obtain ⟨c, hc, hcarms⟩ := exists_plainChoice?_value ht
  obtain ⟨d, hd, hdarms⟩ := exists_plainChoice?_value hu
  have harms : c.arms = t.leaves.filterMap Operand.arm? := by
    rw [hcarms.arms_eq, armTree?, leavesOf_filterMap]
  have harms' : d.arms = c.arms := by
    rw [hdarms.arms_eq, armTree?, leavesOf_filterMap, ← hleaves, harms]
  have hmarks {t : JoinTree (Operand S)} {c : Choice (Expr S)} (ht : t.isJoin = true)
      (hc : t.value.plainChoice? = some c) :
      c.defaultArm = t.firstDefault? ∧ c.recovery = t.firstRecovery? := by
    cases t with
    | leaf o => cases ht
    | join location ordered left right =>
      exact left.hasFirstMarks.join right.hasFirstMarks location ordered hc
  obtain ⟨hcd, hcr⟩ := hmarks ht hc
  obtain ⟨hdd, hdr⟩ := hmarks hu hd
  refine ⟨c, d, hc, hd, harms, harms', ⟨hcd, hdd, ?_⟩, ⟨hcr, hdr, ?_⟩, ?_, ?_⟩
  · rw [hcd, hdd]
    exact isSome_findSome?_seen hleaves _
  · rw [hcr, hdr]
    exact isSome_findSome?_seen hleaves _
  · intro hto huo
    rw [hdd, hcd, firstDefault?_of_marksInOrder hto, firstDefault?_of_marksInOrder huo, hleaves]
    exact ⟨rfl, rfl⟩
  · intro hto huo
    have hsame : d.recovery = c.recovery := by
      rw [hdr, hcr, firstRecovery?_of_marksInOrder hto, firstRecovery?_of_marksInOrder huo, hleaves]
    refine ⟨?_, hsame, ?_⟩
    · rw [hcr, firstRecovery?_of_marksInOrder hto]
    · rw [Choice.exitsOnError, Choice.exitsOnError, hsame]

/-- The operands `a`, `default b`, `error c` and `default d`, associated to the left and
in two pairs: both keep `default b` and `error c`. -/
theorem first_seen_mark_wins_paired :
    let operand (k : Nat) (role : ArmRole) : Operand Unit :=
      ⟨.ofKind none (.call ⟨⟨k⟩, "r", []⟩), role, fun _ => rfl⟩
    let a := leaf (operand 0 .ordinary)
    let b := leaf (operand 1 .default)
    let c := leaf (operand 2 (.recovery true))
    let d := leaf (operand 3 .default)
    let t := join none false (join none false (join none false a b) c) d
    let u := join none false (join none false a b) (join none false c d)
    t.isJoin = true ∧ u.isJoin = true ∧ t.leaves = u.leaves ∧
      ∃ c d, t.value.plainChoice? = some c ∧ u.value.plainChoice? = some d ∧
        c.defaultArm = some (.arm 1) ∧ d.defaultArm = some (.arm 1) ∧
        c.exitsOnError = true ∧ d.exitsOnError = true := by
  intro operand a b c d t u
  obtain ⟨c, d, hc, hd, -, -, -, -, hdefault, hrecovery⟩ :=
    first_seen_mark_wins (t := t) (u := u) rfl rfl rfl
  obtain ⟨hcd, hdd⟩ := hdefault rfl rfl
  obtain ⟨hcr, -, hexits⟩ := hrecovery rfl rfl
  have hcexits : c.exitsOnError = true := by
    rw [Choice.exitsOnError, hcr]
    rfl
  exact ⟨rfl, rfl, rfl, c, d, hc, hd, hcd, hdd.trans hcd, hcexits, hexits.trans hcexits⟩

/-- The operands `default a`, `error b`, `default c` and `error continue d` with `|` between
them: associated to the left they keep `default a` and `error b`, associated to the right
`default c` and `error continue d`. -/
theorem kept_marks_depend_on_association :
    let operand (k : Nat) (role : ArmRole) : Operand Unit :=
      ⟨.ofKind none (.call ⟨⟨k⟩, "r", []⟩), role, fun _ => rfl⟩
    let a := leaf (operand 0 .default)
    let b := leaf (operand 1 (.recovery true))
    let c := leaf (operand 2 .default)
    let d := leaf (operand 3 (.recovery false))
    let t := join none false (join none false (join none false a b) c) d
    let u := join none false a (join none false b (join none false c d))
    t.leaves = u.leaves ∧
      ∃ c d, t.value.plainChoice? = some c ∧ u.value.plainChoice? = some d ∧
        c.defaultArm = some (.arm 0) ∧ d.defaultArm = some (.arm 1) ∧
        c.recoveryBody? = some (operand 1 (.recovery true)).expr ∧
        d.recoveryBody? = some (operand 3 (.recovery false)).expr ∧
        c.exitsOnError = true ∧ d.exitsOnError = false :=
  ⟨rfl, _, _, rfl, rfl, rfl, rfl, rfl, rfl, rfl, rfl⟩

end JoinTree

end GrammarTree
