import GrammarTree.Proofs.Flattening
import GrammarTree.Proofs.Joining

/-!
# Marks

A choice has at most one default and at most one error branch.  However the user
associates an expression over `|` and `/`, one mark of each sort is kept and every
other one is reported once.

Main results:

- Definition `JoinTree.evaluate`: the value of an expression and all that is reported
  on the way; by `JoinTree.evaluate_map_tagged` it is the value of flat alternatives.
- Theorem `Tallied.insert`: placing a batch whose marks are accounted for at a choice
  whose marks are gives a choice whose marks are.
- Theorem `JoinTree.one_mark_of_each_sort_is_kept`: the marks of a value and the
  reports about the others.
-/

namespace GrammarTree

variable {S : Type}

/-! ## Expressions of tagged operands -/

/-- Whether an operand in this role is an error branch. -/
def ArmRole.isRecovery : ArmRole → Bool
  | recovery _ => true
  | _ => false

/-- An expression with a role as its only mark: if it gives its arms up to a choice,
no mark comes with them. -/
structure Tagged (S : Type) where
  expr : Expr S
  role : ArmRole
  unmarked : role = .ordinary → ∀ c, expr.plainChoice? = some c → c.Unmarked

namespace Tagged

/-- The arms that an operand brings into a choice. -/
def arms (o : Tagged S) : List (Expr S) :=
  (o.expr.batch o.role).arms

/-- An operand with a mark is kept whole. -/
theorem batch_eq_ofArm {o : Tagged S} (h : o.role ≠ .ordinary) :
    o.expr.batch o.role = Batch.ofArm o.expr o.role :=
  Expr.batch_of_host?_eq_none (if_neg h)

/-- A default is one arm. -/
theorem arms_of_default {o : Tagged S} (h : o.role = .default) : o.arms = [o.expr] := by
  rw [arms, batch_eq_ofArm (by simp [h]), h]
  rfl

/-- An operand brings a default if that is its role. -/
theorem defaultArm_eq_some_iff (o : Tagged S) {i : Nat} :
    (o.expr.batch o.role).defaultArm = some i ↔ o.role = .default ∧ i = 0 := by
  by_cases hrole : o.role = .ordinary
  · rw [hrole, (Expr.unmarked_batch (o.unmarked hrole)).1]
    simp
  · rw [batch_eq_ofArm hrole]
    cases o.role <;> simp [Batch.ofArm, eq_comm]

/-- Whether an operand brings a default. -/
theorem isSome_defaultArm (o : Tagged S) :
    (o.expr.batch o.role).defaultArm.isSome = decide (o.role = .default) := by
  rw [Bool.eq_iff_iff, Option.isSome_iff_exists]
  simp [defaultArm_eq_some_iff]

/-- An operand brings an error branch if that is its role. -/
theorem recovery_eq_some_iff (o : Tagged S) {branch : Recovery (Expr S)} :
    (o.expr.batch o.role).recovery = some branch ↔
      o.role = .recovery branch.exits ∧ branch.body = o.expr := by
  by_cases hrole : o.role = .ordinary
  · rw [hrole, (Expr.unmarked_batch (o.unmarked hrole)).2]
    simp
  · rw [batch_eq_ofArm hrole]
    rcases branch with ⟨body, exits⟩
    cases o.role <;> simp [Batch.ofArm, eq_comm, and_comm]

/-- Whether an operand brings an error branch. -/
theorem isSome_recovery (o : Tagged S) :
    (o.expr.batch o.role).recovery.isSome = o.role.isRecovery := by
  rw [Bool.eq_iff_iff, Option.isSome_iff_exists]
  constructor
  · rintro ⟨branch, hbranch⟩
    rw [(o.recovery_eq_some_iff.mp hbranch).1]
    rfl
  · intro h
    cases hrole : o.role with
    | recovery exits => exact ⟨⟨o.expr, exits⟩, hrole ▸ o.recovery_eq_some_iff.mpr ⟨hrole, rfl⟩⟩
    | ordinary => simp [hrole, ArmRole.isRecovery] at h
    | default => simp [hrole, ArmRole.isRecovery] at h

end Tagged

/-- An operand that is no plain choice brings no mark but its role. -/
def Operand.tagged (o : Operand S) : Tagged S where
  expr := o.expr
  role := o.role
  unmarked := by
    intro hrole c hplain
    rw [o.not_plain hrole] at hplain
    cases hplain

namespace JoinTree

/-- The role in which an expression is joined with another one. -/
def tag : JoinTree (Tagged S) → ArmRole
  | leaf o => o.role
  | join _ _ _ _ => .ordinary

/-- The value of an expression and all that is reported on the way: its operators are
applied from the leaves to the root. -/
def evaluate : JoinTree (Tagged S) → Expr S × List Diagnostic
  | leaf o => (o.expr, [])
  | join location ordered left right =>
    let (e, reports) :=
      Expr.alternate location ordered left.evaluate.1 left.tag right.evaluate.1 right.tag
    (e, left.evaluate.2 ++ right.evaluate.2 ++ reports)

/-- Operands that are no plain choices give the value as before. -/
theorem evaluate_map_tagged (t : JoinTree (Operand S)) :
    (t.map Operand.tagged).evaluate.1 = t.value := by
  induction t with
  | leaf o => rfl
  | join location ordered left right ihl ihr =>
    have htag (t : JoinTree (Operand S)) : (t.map Operand.tagged).tag = t.role := by
      cases t <;> rfl
    simp only [map, evaluate, value, ihl, ihr, htag]

end JoinTree

/-! ## What is reported about a batch -/

/-- The number of diagnostics about a concern. -/
def reportsAbout (concern : Concern) (reports : List Diagnostic) : Nat :=
  reports.countP fun d => d.concern = concern

@[simp] theorem reportsAbout_append (concern : Concern) (reports more : List Diagnostic) :
    reportsAbout concern (reports ++ more) =
      reportsAbout concern reports + reportsAbout concern more :=
  List.countP_append

/-- Diagnostics about other concerns do not count. -/
theorem reportsAbout_eq_zero {concern : Concern} {reports : List Diagnostic}
    (h : ∀ d ∈ reports, d.concern ≠ concern) : reportsAbout concern reports = 0 :=
  List.countP_eq_zero.mpr fun d hd => by simpa using h d hd

namespace Side

variable {α : Type}

/-- What belongs to a choice and what belongs to a batch on one side of it, from left
to right. -/
def place : Side → List α → List α → List α
  | front, own, other => other ++ own
  | back, own, other => own ++ other

/-- Placing changes no number. -/
theorem countP_place (p : α → Bool) (side : Side) (own other : List α) :
    (side.place own other).countP p = own.countP p + other.countP p := by
  cases side with
  | front => exact List.countP_append.trans (Nat.add_comm _ _)
  | back => exact List.countP_append

/-- Placing loses nothing. -/
theorem mem_place {side : Side} {own other : List α} {a : α} :
    a ∈ side.place own other ↔ a ∈ own ∨ a ∈ other := by
  cases side with
  | front => exact List.mem_append.trans or_comm
  | back => exact List.mem_append

end Side

namespace Choice

/-- There is a default if the choice had one or the batch brings one. -/
theorem insert_defaultArm_isSome {α : Type} (c : Choice α) (side : Side) (ordered : Bool)
    (batch : Batch α) :
    (c.insert side ordered batch).defaultArm.isSome =
      (c.defaultArm.isSome || batch.defaultArm.isSome) := by
  cases side <;> simp [insert]

variable {α : Type} [Located α] {c : Choice α} {batch : Batch α}

/-- A default of the batch is reported once if there is a default already. -/
theorem reportsAbout_defaultReports
    (hlt : ∀ i, batch.defaultArm = some i → i < batch.arms.length) :
    reportsAbout .duplicateDefault (c.defaultReports batch) =
      (c.defaultArm.isSome && batch.defaultArm.isSome).toNat := by
  unfold defaultReports
  split
  · rename_i d i hd hi
    simp [hd, hi, List.getElem?_eq_getElem (hlt i hi), reportsAbout, Diagnostic.duplicateDefault]
  · rename_i hnone
    cases hd : c.defaultArm with
    | none => rfl
    | some d =>
      cases hi : batch.defaultArm with
      | none => rfl
      | some i => exact absurd hi (hnone d i hd)

/-- A default of the batch is reported as nothing else. -/
theorem concern_of_mem_defaultReports {d : Diagnostic} (h : d ∈ c.defaultReports batch) :
    d.concern = .duplicateDefault := by
  unfold defaultReports at h
  split at h
  · obtain ⟨arm, -, rfl⟩ := Option.map_eq_some_iff.mp (Option.mem_toList.mp h)
    rfl
  · cases h

/-- An error branch of the batch is reported once as a second one if there is one
already. -/
theorem reportsAbout_recoveryReports (side : Side) :
    reportsAbout .duplicateRecovery (c.recoveryReports side batch) =
      (c.recovery.isSome && batch.recovery.isSome).toNat := by
  unfold recoveryReports
  split
  · rename_i hnone
    simp [hnone, reportsAbout]
  · rename_i branch hbranch
    split_ifs with hsome hfront
    · rw [hsome, hbranch]
      rfl
    · rw [Bool.eq_false_iff.mpr hsome]
      rfl
    · rw [Bool.eq_false_iff.mpr hsome]
      rfl

/-- An error branch of the batch is a second one or out of place. -/
theorem concern_of_mem_recoveryReports {side : Side} {d : Diagnostic}
    (h : d ∈ c.recoveryReports side batch) :
    d.concern = .duplicateRecovery ∨ d.concern = .misplacedRecovery := by
  unfold recoveryReports at h
  split at h
  · cases h
  · split_ifs at h
    · rw [List.mem_singleton.mp h]
      exact Or.inl rfl
    · rw [List.mem_singleton.mp h]
      exact Or.inr rfl
    · cases h

/-- An error branch of the choice can be out of place only. -/
theorem concern_of_mem_positionReports {side : Side} {d : Diagnostic}
    (h : d ∈ c.positionReports side batch) : d.concern = .misplacedRecovery := by
  unfold positionReports at h
  split at h
  · split_ifs at h
    · rw [List.mem_singleton.mp h]
      rfl
    · cases h
  · cases h

/-- The defaults that are reported when a batch is placed. -/
theorem reportsAbout_default_insertReports
    (hlt : ∀ i, batch.defaultArm = some i → i < batch.arms.length) (side : Side) :
    reportsAbout .duplicateDefault (c.insertReports side batch) =
      (c.defaultArm.isSome && batch.defaultArm.isSome).toNat := by
  have hrecovery : reportsAbout .duplicateDefault (c.recoveryReports side batch) = 0 := by
    apply reportsAbout_eq_zero
    intro d hd
    rcases concern_of_mem_recoveryReports hd with h | h <;> simp [h]
  have hposition : reportsAbout .duplicateDefault (c.positionReports side batch) = 0 := by
    apply reportsAbout_eq_zero
    intro d hd
    simp [concern_of_mem_positionReports hd]
  simp [insertReports, reportsAbout_defaultReports hlt, hrecovery, hposition]

/-- The error branches that are reported as second ones when a batch is placed. -/
theorem reportsAbout_recovery_insertReports (side : Side) :
    reportsAbout .duplicateRecovery (c.insertReports side batch) =
      (c.recovery.isSome && batch.recovery.isSome).toNat := by
  have hdefault : reportsAbout .duplicateRecovery (c.defaultReports batch) = 0 := by
    apply reportsAbout_eq_zero
    intro d hd
    simp [concern_of_mem_defaultReports hd]
  have hposition : reportsAbout .duplicateRecovery (c.positionReports side batch) = 0 := by
    apply reportsAbout_eq_zero
    intro d hd
    simp [concern_of_mem_positionReports hd]
  simp [insertReports, reportsAbout_recoveryReports, hdefault, hposition]

/-- Nothing is reported about the first batch of a choice. -/
theorem insertReports_empty (repetition : Repetition) (batch : Batch α) :
    ({ repetition } : Choice α).insertReports .back batch = [] := by
  cases h : batch.recovery <;>
    simp [insertReports, defaultReports, recoveryReports, positionReports, h]

end Choice

/-! ## Accounts of marks -/

/-- Of the marks that were given one is kept, if any, and the others are reported. -/
structure OneKept (kept : Bool) (reported given : Nat) : Prop where
  reported_eq : reported = given - 1
  kept_iff : kept = true ↔ 0 < given

/-- One mark is kept, and none is reported. -/
theorem OneKept.single (kept : Bool) : OneKept kept 0 (if kept = true then 1 else 0) := by
  cases kept with
  | true => exact ⟨rfl, by simp⟩
  | false => exact ⟨rfl, by simp⟩

/-- If both sides of a join kept a mark, one of them is reported now. -/
theorem OneKept.join {kept kept' : Bool} {reported reported' given given' : Nat}
    (h : OneKept kept reported given) (h' : OneKept kept' reported' given') :
    OneKept (kept || kept') (reported + reported' + (kept && kept').toNat) (given + given') := by
  rcases h with ⟨hreported, hkept⟩
  rcases h' with ⟨hreported', hkept'⟩
  constructor
  · cases kept with
    | false =>
      have hnone : given = 0 := by simpa using hkept
      simp [hreported, hreported', hnone]
    | true =>
      have hsome : 0 < given := hkept.mp rfl
      cases kept' with
      | false =>
        have hnone : given' = 0 := by simpa using hkept'
        simp [hreported, hreported', hnone]
      | true =>
        have hsome' : 0 < given' := hkept'.mp rfl
        simp only [hreported, hreported', Bool.and_self, Bool.toNat_true]
        omega
  · rw [Bool.or_eq_true, hkept, hkept']
    omega

/-- The arms and marks of a choice are those of the operands from which it was joined,
and the reports are about the marks that were not kept. -/
structure Tallied (operands : List (Tagged S)) (arms : List (Expr S))
    (defaultArm : Option DefaultArm) (recovery : Option (Recovery (Expr S)))
    (reports : List Diagnostic) : Prop where
  arms_eq : arms = operands.flatMap Tagged.arms
  defaults : OneKept defaultArm.isSome (reportsAbout .duplicateDefault reports)
    (operands.countP fun o => o.role = .default)
  default_operand : ∀ d, defaultArm = some d → ∃ front o back, operands = front ++ o :: back ∧
    o.role = .default ∧ d = .arm (front.flatMap Tagged.arms).length
  recoveries : OneKept recovery.isSome (reportsAbout .duplicateRecovery reports)
    (operands.countP fun o => o.role.isRecovery)
  recovery_operand : ∀ branch, recovery = some branch →
    ∃ o ∈ operands, o.role = .recovery branch.exits ∧ branch.body = o.expr

namespace Tallied

variable {operands operands' : List (Tagged S)} {reports reports' : List Diagnostic}
  {c : Choice (Expr S)} {batch : Batch (Expr S)}

/-- Without operands there is nothing to account for. -/
theorem nil : Tallied ([] : List (Tagged S)) [] none none [] where
  arms_eq := rfl
  defaults := ⟨rfl, by simp⟩
  default_operand := by simp
  recoveries := ⟨rfl, by simp⟩
  recovery_operand := by simp

/-- A default is one of the arms. -/
theorem arms_getElem? {arms : List (Expr S)} {defaultArm : Option DefaultArm}
    {recovery : Option (Recovery (Expr S))} {front back : List (Tagged S)} {o : Tagged S}
    (h : Tallied (front ++ o :: back) arms defaultArm recovery reports)
    (hrole : o.role = .default) :
    arms[(front.flatMap Tagged.arms).length]? = some o.expr := by
  rw [h.arms_eq, List.flatMap_append, List.flatMap_cons, Tagged.arms_of_default hrole]
  simp

/-- A choice brings its default along when it gives its arms up. -/
theorem defaultArm_ofChoice (h : Tallied operands c.arms c.defaultArm c.recovery reports) :
    (Batch.ofChoice c).defaultArm.map .arm = c.defaultArm := by
  cases hd : c.defaultArm with
  | none => simp [Batch.ofChoice, hd]
  | some d =>
    obtain ⟨front, o, back, rfl, hrole, rfl⟩ := h.default_operand d hd
    have hlt := (List.getElem?_eq_some_iff.mp (h.arms_getElem? hrole)).1
    simp only [Batch.ofChoice, hd, if_pos hlt, Option.map_some]

/-- The default of a batch is one of its arms. -/
theorem default_lt
    (h : Tallied operands batch.arms (batch.defaultArm.map .arm) batch.recovery reports)
    (i : Nat) (hi : batch.defaultArm = some i) : i < batch.arms.length := by
  obtain ⟨front, o, back, rfl, hrole, heq⟩ := h.default_operand (.arm i) (by rw [hi]; rfl)
  cases heq
  exact (List.getElem?_eq_some_iff.mp (h.arms_getElem? hrole)).1

/-- Placing a batch at a choice joins their accounts; what the batch makes superfluous
is reported. -/
theorem insert (hc : Tallied operands c.arms c.defaultArm c.recovery reports)
    (hb : Tallied operands' batch.arms (batch.defaultArm.map .arm) batch.recovery reports')
    (side : Side) (ordered : Bool) :
    Tallied (side.place operands operands') (c.insert side ordered batch).arms
      (c.insert side ordered batch).defaultArm (c.insert side ordered batch).recovery
      (side.place reports reports' ++ c.insertReports side batch) where
  arms_eq := by
    cases side with
    | front =>
      rw [Side.place, List.flatMap_append, ← hc.arms_eq, ← hb.arms_eq]
      rfl
    | back =>
      rw [Side.place, List.flatMap_append, ← hc.arms_eq, ← hb.arms_eq]
      rfl
  defaults := by
    have hjoin := hc.defaults.join hb.defaults
    rw [Option.isSome_map] at hjoin
    rw [reportsAbout_append, reportsAbout, Side.countP_place, Side.countP_place,
      Choice.reportsAbout_default_insertReports hb.default_lt, Choice.insert_defaultArm_isSome]
    exact hjoin
  default_operand := by
    intro d hd
    rcases Choice.insert_defaultArm_cases hd with ⟨old, hold, rfl⟩ | ⟨-, i, hi, rfl⟩
    · obtain ⟨front, o, back, rfl, hrole, rfl⟩ := hc.default_operand old hold
      cases side with
      | front =>
        -- the arms in front move the default by their number
        refine ⟨operands' ++ front, o, back, by simp [Side.place], hrole, ?_⟩
        rw [List.flatMap_append, ← hb.arms_eq, List.length_append, Nat.add_comm]
        rfl
      | back => exact ⟨front, o, back ++ operands', by simp [Side.place], hrole, rfl⟩
    · obtain ⟨front, o, back, rfl, hrole, heq⟩ := hb.default_operand (.arm i) (by rw [hi]; rfl)
      cases heq
      cases side with
      | front => exact ⟨front, o, back ++ operands, by simp [Side.place], hrole, rfl⟩
      | back =>
        refine ⟨operands ++ front, o, back, by simp [Side.place], hrole, ?_⟩
        rw [List.flatMap_append, ← hc.arms_eq, List.length_append, Nat.add_comm]
        rfl
  recoveries := by
    have hjoin := hc.recoveries.join hb.recoveries
    rw [reportsAbout_append, reportsAbout, Side.countP_place, Side.countP_place,
      Choice.reportsAbout_recovery_insertReports, Choice.insert_recovery,
      Option.orElse_eq_orElse, Option.orElse_eq_or, Option.isSome_or]
    exact hjoin
  recovery_operand := by
    intro branch hbranch
    rw [Choice.insert_recovery, Option.orElse_eq_orElse, Option.orElse_eq_or,
      Option.or_eq_some_iff] at hbranch
    rcases hbranch with hold | ⟨-, hnew⟩
    · obtain ⟨o, ho, hmark⟩ := hc.recovery_operand branch hold
      exact ⟨o, Side.mem_place.mpr (Or.inl ho), hmark⟩
    · obtain ⟨o, ho, hmark⟩ := hb.recovery_operand branch hnew
      exact ⟨o, Side.mem_place.mpr (Or.inr ho), hmark⟩

/-- One operand is accounted for by its role. -/
theorem single (o : Tagged S) :
    Tallied [o] (o.expr.batch o.role).arms ((o.expr.batch o.role).defaultArm.map .arm)
      (o.expr.batch o.role).recovery [] where
  arms_eq := by
    rw [List.flatMap_singleton]
    rfl
  defaults := by
    rw [Option.isSome_map, o.isSome_defaultArm, List.countP_singleton]
    exact OneKept.single _
  default_operand := by
    intro d hd
    obtain ⟨i, hi, rfl⟩ := Option.map_eq_some_iff.mp hd
    obtain ⟨hrole, rfl⟩ := o.defaultArm_eq_some_iff.mp hi
    exact ⟨[], o, [], rfl, hrole, rfl⟩
  recoveries := by
    rw [o.isSome_recovery, List.countP_singleton]
    exact OneKept.single _
  recovery_operand := by
    intro branch hbranch
    exact ⟨o, List.mem_singleton_self o, o.recovery_eq_some_iff.mp hbranch⟩

end Tallied

/-! ## Marks of a value -/

namespace JoinTree

/-- The marks of an expression are accounted for: those of the batch that it brings, and
those of the choice to which others are added. -/
structure HasTally (t : JoinTree (Tagged S)) : Prop where
  batch : Tallied t.leaves (t.evaluate.1.batch t.tag).arms
    ((t.evaluate.1.batch t.tag).defaultArm.map .arm) (t.evaluate.1.batch t.tag).recovery
    t.evaluate.2
  host : ∀ c, t.evaluate.1.host? t.tag = some c →
    Tallied t.leaves c.arms c.defaultArm c.recovery t.evaluate.2

/-- A join of expressions whose marks are accounted for is a plain choice whose marks
are. -/
theorem HasTally.join {left right : JoinTree (Tagged S)} (hleft : left.HasTally)
    (hright : right.HasTally) (location : Location) (ordered : Bool) :
    ∃ c, (JoinTree.join location ordered left right).evaluate.1.plainChoice? = some c ∧
      Tallied (JoinTree.join location ordered left right).leaves c.arms c.defaultArm c.recovery
        (JoinTree.join location ordered left right).evaluate.2 := by
  obtain ⟨host, side, batch, heq, hcases⟩ := Expr.alternate_cases location ordered
    left.evaluate.1 left.tag right.evaluate.1 right.tag
  have hplain := Expr.plainChoice?_alternate location ordered left.evaluate.1 left.tag
    right.evaluate.1 right.tag
  rw [heq] at hplain
  simp only [evaluate, heq, leaves]
  refine ⟨host.insert side ordered batch, hplain, ?_⟩
  rcases hcases with ⟨hhost, rfl, rfl⟩ | ⟨-, hhost, rfl, rfl⟩ | ⟨-, -, rfl, rfl, rfl⟩
  · exact (hleft.host host hhost).insert hright.batch .back ordered
  · exact (hright.host host hhost).insert hleft.batch .front ordered
  · -- a new choice takes both operands, one behind the other
    have hfresh := (Tallied.nil (S := S)).insert (c := { repetition := .once }) hleft.batch
      .back ordered
    rw [Choice.insertReports_empty] at hfresh
    simp only [Side.place, List.nil_append, List.append_nil] at hfresh
    exact hfresh.insert hright.batch .back ordered

/-- The marks of every expression are accounted for. -/
theorem hasTally (t : JoinTree (Tagged S)) : t.HasTally := by
  induction t with
  | leaf o =>
    refine ⟨.single o, ?_⟩
    intro c hhost
    have hsingle := Tallied.single o
    obtain ⟨hrole, hplain⟩ := Expr.host?_eq_some_iff.mp hhost
    have hnone : c.defaultArm = none := (o.unmarked hrole c hplain).1
    have hbatch : o.expr.batch o.role = Batch.ofChoice c := Expr.batch_of_host? hhost
    have hdefault : (o.expr.batch o.role).defaultArm.map DefaultArm.arm = c.defaultArm := by
      simp [hbatch, Batch.ofChoice, hnone]
    rw [hdefault, hbatch] at hsingle
    exact hsingle
  | join location ordered left right ihl ihr =>
    obtain ⟨c, hplain, hc⟩ := ihl.join ihr location ordered
    have hhost : (join location ordered left right).evaluate.1.host? .ordinary = some c := hplain
    constructor
    · rw [tag, Expr.batch_of_host? hhost, hc.defaultArm_ofChoice]
      exact hc
    · intro d hd
      rw [tag, hhost] at hd
      cases hd
      exact hc

/-- The value of an expression with an operator is a choice of its operands' arms.  It
has a default if some operand was one, and that is the arm of such an operand; every
further default is reported once.  It has an error branch if some operand was one, and
that is such an operand with its own way to go on; every further error branch is
reported once. -/
theorem one_mark_of_each_sort_is_kept {t : JoinTree (Tagged S)} (h : t.isJoin = true) :
    ∃ c, t.evaluate.1.plainChoice? = some c ∧ c.arms = t.leaves.flatMap Tagged.arms ∧
      reportsAbout .duplicateDefault t.evaluate.2 =
        (t.leaves.countP fun o => o.role = .default) - 1 ∧
      reportsAbout .duplicateRecovery t.evaluate.2 =
        (t.leaves.countP fun o => o.role.isRecovery) - 1 ∧
      (c.defaultArm.isSome = true ↔ 1 ≤ t.leaves.countP fun o => o.role = .default) ∧
      (∀ d, c.defaultArm = some d → ∃ front o back, t.leaves = front ++ o :: back ∧
        o.role = .default ∧ d = .arm (front.flatMap Tagged.arms).length ∧
        c.arms[(front.flatMap Tagged.arms).length]? = some o.expr) ∧
      (c.recovery.isSome = true ↔ 1 ≤ t.leaves.countP fun o => o.role.isRecovery) ∧
      ∀ branch, c.recovery = some branch → ∃ o ∈ t.leaves, o.role = .recovery c.exitsOnError ∧
        branch.body = o.expr := by
  cases t with
  | leaf o => cases h
  | join location ordered left right =>
    obtain ⟨c, hplain, hc⟩ := left.hasTally.join right.hasTally location ordered
    refine ⟨c, hplain, hc.arms_eq, hc.defaults.reported_eq, hc.recoveries.reported_eq,
      hc.defaults.kept_iff, ?_, hc.recoveries.kept_iff, ?_⟩
    · intro d hd
      obtain ⟨front, o, back, hleaves, hrole, hplace⟩ := hc.default_operand d hd
      rw [hleaves] at hc
      exact ⟨front, o, back, hleaves, hrole, hplace, hc.arms_getElem? hrole⟩
    · intro branch hbranch
      have hexits : c.exitsOnError = branch.exits := by rw [Choice.exitsOnError, hbranch]
      rw [hexits]
      exact hc.recovery_operand branch hbranch

/-- The expression `(a | error b) / (default c | (default d | error continue e))`: one of
two defaults and one of two error branches are reported. -/
theorem one_mark_of_each_sort_is_kept_grouped :
    let operand (k : Nat) (role : ArmRole) : Tagged Unit :=
      ⟨.ofKind none (.call ⟨⟨k⟩, "r", []⟩), role, by intro _ c h; cases h⟩
    let t : JoinTree (Tagged Unit) :=
      .join none true
        (.join none false (.leaf (operand 0 .ordinary)) (.leaf (operand 1 (.recovery true))))
        (.join none false (.leaf (operand 2 .default))
          (.join none false (.leaf (operand 3 .default)) (.leaf (operand 4 (.recovery false)))))
    t.isJoin = true ∧ ∃ c, t.evaluate.1.plainChoice? = some c ∧ c.arms.length = 3 ∧
      reportsAbout .duplicateDefault t.evaluate.2 = 1 ∧
      reportsAbout .duplicateRecovery t.evaluate.2 = 1 ∧
      c.defaultArm.isSome = true ∧ c.recovery.isSome = true := by
  intro operand t
  obtain ⟨c, hplain, harms, hdefaults, hrecoveries, hdefault, -, hrecovery, -⟩ :=
    one_mark_of_each_sort_is_kept (t := t) rfl
  refine ⟨rfl, c, hplain, by rw [harms]; rfl, hdefaults, hrecoveries, ?_, ?_⟩
  · exact hdefault.mpr (by decide)
  · exact hrecovery.mpr (by decide)

end JoinTree

end GrammarTree
