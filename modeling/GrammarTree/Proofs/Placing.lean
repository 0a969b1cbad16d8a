import GrammarTree.Proofs.Flattening
import GrammarTree.Proofs.Marks
import GrammarTree.Proofs.Reachable

/-!
# Placing an operand

An operand of `|` or `/` reaches a choice arm by arm.  Every arm takes the place at a
cursor, pushes what stands there on by one, and becomes the default if it is marked
and there is none; the error branch comes last.  Nothing of this order can be seen
afterwards: the choice has the old arms and the new ones side by side, its own marks
win and stay with their arms, and `/` separates what it separated before and the two
sides if it joins them.

Main results:

- Definition `Choice.insertEach`: an operand placed arm by arm.
- Theorem `Placing.takeArms_eq`: what is there after a row of arms took its place.
- Theorem `Choice.insertEach_eq`: placing arm by arm is placing at once.
- Theorem `Choice.Reachable.takes_operand_in`: all that placing an operand changes, and
  all that is reported.
-/

namespace GrammarTree

/-! ## Places -/

namespace Side

/-- The place of the first new arm beside a number of old ones. -/
def start : Side → Nat → Nat
  | front, _ => 0
  | back, old => old

/-- How far a number of new arms moves the old ones. -/
def moved : Side → Nat → Nat
  | front, new => new
  | back, _ => 0

end Side

namespace DefaultArm

/-- The default after a number of arms was placed: from that place on, arms moved. -/
def pushed : DefaultArm → Nat → Nat → DefaultArm
  | arm index, place, count => if place ≤ index then arm (index + count) else arm index
  | exit, _, _ => exit

/-- Placing one arm and then more behind it pushes the default as placing all at
once. -/
theorem pushed_pushed (d : DefaultArm) (place count : Nat) :
    (d.pushed place 1).pushed (place + 1) count = d.pushed place (count + 1) := by
  cases d with
  | exit => rfl
  | arm index =>
    by_cases h : place ≤ index
    · have hmore : place + 1 ≤ index + 1 := Nat.succ_le_succ h
      simp only [pushed, if_pos h, if_pos hmore]
      congr 1
      omega
    · have hmore : ¬ place + 1 ≤ index := by omega
      simp only [pushed, if_neg h, if_neg hmore]

/-- An arm in front of the place stays. -/
theorem pushed_of_lt {index place : Nat} (h : index < place) (count : Nat) :
    (arm index).pushed place count = arm index :=
  if_neg (Nat.not_le.mpr h)

/-- Arms in front of all others move the default as a whole. -/
theorem pushed_zero (d : DefaultArm) (count : Nat) : d.pushed 0 count = d.shift count := by
  cases d with
  | exit => rfl
  | arm index => rfl

/-- Where no arm is placed the default stays. -/
theorem pushed_by_zero (d : DefaultArm) (place : Nat) : d.pushed place 0 = d := by
  cases d with
  | exit => rfl
  | arm index => exact ite_self _

/-- The number of the arm that is the default. -/
def index? : DefaultArm → Option Nat
  | arm index => some index
  | exit => none

end DefaultArm

/-! ## One arm at a time -/

/-- A choice that takes arms in: the place of the next one, and what was reported on the
way. -/
structure Placing (α : Type) where
  choice : Choice α
  place : Nat
  reports : List Diagnostic := []

namespace Placing

variable {α : Type} [Located α]

/-- The next arm takes its place.  If it is marked it becomes the default, unless there
is one. -/
def takeArm (p : Placing α) (arm : α) (marked : Bool) : Placing α :=
  let default := p.choice.defaultArm.map (·.pushed p.place 1)
  { choice :=
      { p.choice with
        arms := p.choice.arms.insertIdx p.place arm
        defaultArm := default.or (if marked then some (.arm p.place) else none) }
    place := p.place + 1
    reports := p.reports ++
      if marked && default.isSome then [.duplicateDefault (Located.location arm)] else [] }

/-- The error branch is taken in, unless there is one. -/
def takeBranch (p : Placing α) (branch : Recovery α) : Placing α :=
  if p.choice.recovery.isSome then
    { p with reports := p.reports ++ [.duplicateRecovery (Located.location branch.body)] }
  else
    { p with
      choice := { p.choice with recovery := some branch }
      reports := p.reports ++
        if p.place < p.choice.arms.length then
          [.misplacedRecovery (Located.location branch.body)]
        else [] }

/-- A row of arms, each marked or not, takes its place. -/
def takeArms (p : Placing α) (row : List (α × Bool)) : Placing α :=
  row.foldl (fun p item => p.takeArm item.1 item.2) p

/-- After a row of arms took its place it stands between the arms in front of the cursor
and those behind it.  The default was pushed on or is the first marked arm, and every
other marked arm was reported. -/
theorem takeArms_eq (p : Placing α) (row : List (α × Bool)) (before behind : List α)
    (harms : p.choice.arms = before ++ behind) (hplace : p.place = before.length) :
    p.takeArms row =
      { choice :=
          { p.choice with
            arms := before ++ row.map Prod.fst ++ behind
            defaultArm := (p.choice.defaultArm.map (·.pushed p.place row.length)).or
              ((row.findIdx? Prod.snd).map fun i => .arm (i + p.place)) }
        place := p.place + row.length
        reports := p.reports ++
          ((row.filter Prod.snd).drop (if p.choice.defaultArm.isSome then 0 else 1)).map
            fun item => .duplicateDefault (Located.location item.1) } := by
  induction row generalizing p before with
  | nil =>
    rcases p with ⟨c, place, reports⟩
    simp [takeArms, DefaultArm.pushed_by_zero, ← harms]
  | cons item rest ih =>
    have hinsert : (p.takeArm item.1 item.2).choice.arms = before ++ [item.1] ++ behind := by
      simp only [takeArm, harms, hplace, List.append_assoc]
      exact List.modifyTailIdx_add (List.cons item.1) 0 before behind
    have hnext : (p.takeArm item.1 item.2).place = (before ++ [item.1]).length := by
      simp [takeArm, hplace]
    rw [takeArms, List.foldl_cons]
    refine (ih (p.takeArm item.1 item.2) (before ++ [item.1]) hinsert hnext).trans ?_
    have hmarked : (((item :: rest).findIdx? Prod.snd).map fun i => DefaultArm.arm (i + p.place)) =
        if item.2 then some (.arm p.place)
        else (rest.findIdx? Prod.snd).map fun i => .arm (i + (p.place + 1)) := by
      cases hitem : item.2 <;>
        simp [List.findIdx?_cons, hitem, Function.comp_def, Nat.add_comm, Nat.add_left_comm]
    rw [hmarked]
    rcases item with ⟨arm, marked⟩
    cases hdefault : p.choice.defaultArm <;> cases marked <;>
      simp [takeArm, hdefault, DefaultArm.pushed_pushed, DefaultArm.pushed_of_lt,
        Nat.add_comm, Nat.add_left_comm]

end Placing

/-! ## The arms of a batch, one at a time -/

namespace Batch

variable {α : Type}

/-- The arms of a batch, each with its mark. -/
def row (batch : Batch α) : List (α × Bool) :=
  batch.arms.mapIdx fun i arm => (arm, batch.defaultArm == some i)

/-- A row has the arms of its batch in order. -/
theorem map_fst_row (batch : Batch α) : batch.row.map Prod.fst = batch.arms := by
  apply List.ext_getElem
  · simp [row]
  · simp [row]

/-- Arms none of which stands at the place of the default are not marked. -/
theorem mapIdx_unmarked (arms : List α) {default : Option Nat} (number : Nat → Nat)
    (h : ∀ i < arms.length, default ≠ some (number i)) :
    (arms.mapIdx fun i arm => (arm, default == some (number i))) =
      arms.map fun arm => (arm, false) := by
  apply List.ext_getElem
  · simp
  · intro i hi _
    have hne := h i (by simpa using hi)
    simpa using hne

/-- Without a default no arm is marked. -/
theorem row_of_none {batch : Batch α} (h : batch.defaultArm = none) :
    batch.row = batch.arms.map fun arm => (arm, false) :=
  mapIdx_unmarked batch.arms id (by simp [h])

/-- The default is marked, and no arm before or behind it is. -/
theorem row_of_some {batch : Batch α} {before behind : List α} {arm : α}
    (h : batch.defaultArm = some before.length)
    (harms : batch.arms = before ++ arm :: behind) :
    batch.row = before.map (fun arm => (arm, false)) ++ (arm, true) ::
      behind.map fun arm => (arm, false) := by
  have hbefore : (before.mapIdx fun i arm => (arm, some before.length == some i)) =
      before.map fun arm => (arm, false) := by
    apply mapIdx_unmarked before id
    intro i hi heq
    exact absurd (Option.some.inj heq) (by simp only [id]; omega)
  have hbehind : (behind.mapIdx fun i arm =>
      (arm, some before.length == some (i + 1 + before.length))) =
      behind.map fun arm => (arm, false) := by
    apply mapIdx_unmarked behind fun i => i + 1 + before.length
    intro i hi heq
    exact absurd (Option.some.inj heq) (by omega)
  rw [row, harms, h, List.mapIdx_append, List.mapIdx_cons, hbefore, hbehind]
  simp

/-- The only marked arm of a row is the default of its batch. -/
theorem marked_row {batch : Batch α}
    (h : ∀ i, batch.defaultArm = some i → i < batch.arms.length) :
    batch.row.findIdx? Prod.snd = batch.defaultArm ∧
      batch.row.filter Prod.snd =
        (batch.defaultArm.bind fun i => batch.arms[i]?.map fun arm => (arm, true)).toList := by
  have hnone (arms : List α) :
      (arms.map fun arm => (arm, false)).findIdx? Prod.snd = none := by
    simp [List.findIdx?_eq_none_iff]
  have hempty (arms : List α) : (arms.map fun arm => (arm, false)).filter Prod.snd = [] := by
    simp [List.filter_eq_nil_iff]
  cases hdefault : batch.defaultArm with
  | none =>
    rw [row_of_none hdefault]
    exact ⟨hnone _, hempty _⟩
  | some i =>
    obtain ⟨before, arm, behind, harms, rfl⟩ :
        ∃ before arm behind, batch.arms = before ++ arm :: behind ∧ before.length = i := by
      have hi := h i hdefault
      refine ⟨batch.arms.take i, batch.arms[i], batch.arms.drop (i + 1), ?_, ?_⟩
      · rw [List.getElem_cons_drop, List.take_append_drop]
      · exact List.length_take_of_le (Nat.le_of_lt hi)
    rw [row_of_some hdefault harms]
    constructor
    · simp [List.findIdx?_append, List.findIdx?_cons, hnone]
    · simp [hempty, harms]

end Batch

namespace Choice

variable {α : Type} [Located α]

/-- Place a batch on one side of a choice, one arm after the other and the error branch
last.  Then the seams are moved, and arms behind an error branch are reported. -/
def insertEach (c : Choice α) (side : Side) (ordered : Bool) (batch : Batch α) :
    Choice α × List Diagnostic :=
  let first := side.start c.arms.length
  let placed := ({ choice := c, place := first } : Placing α).takeArms batch.row
  let done := batch.recovery.elim placed placed.takeBranch
  let seams :=
    match side with
    | .front => batch.seams ++ c.seams.map (·.shift (Seam.clamp done.place)) ++
      Seam.between done.place done.choice.arms.length ordered
    | .back => c.seams ++ batch.seams.map (·.shift (Seam.clamp first)) ++
      Seam.between first done.choice.arms.length ordered
  let misplaced :=
    match c.recovery with
    | some branch =>
      if side = .back ∧ first < done.place then
        [.misplacedRecovery (Located.location branch.body)]
      else []
    | none => []
  ({ done.choice with seams }, done.reports ++ misplaced)

/-- The arms of a batch take their places: the choice has its arms and marks as if they
were placed at once. -/
theorem takeArms_row {c : Choice α} {batch : Batch α}
    (hc : ∀ i, c.defaultArm = some (.arm i) → i < c.arms.length)
    (hb : ∀ i, batch.defaultArm = some i → i < batch.arms.length) (side : Side)
    (ordered : Bool) :
    ({ choice := c, place := side.start c.arms.length } : Placing α).takeArms batch.row =
      { choice :=
          { c with
            arms := side.place c.arms batch.arms
            defaultArm := (c.insert side ordered batch).defaultArm }
        place := side.start c.arms.length + batch.arms.length
        reports := c.defaultReports batch } := by
  have hlength : batch.row.length = batch.arms.length := by
    rw [← batch.map_fst_row, List.length_map]
  obtain ⟨hfind, hmarked⟩ := Batch.marked_row hb
  have hreports : ((batch.row.filter Prod.snd).drop
      (if c.defaultArm.isSome then 0 else 1)).map
        (fun item => Diagnostic.duplicateDefault (Located.location item.1)) =
      c.defaultReports batch := by
    rw [hmarked]
    cases hdefault : c.defaultArm with
    | none =>
      cases hnew : batch.defaultArm with
      | none => simp [defaultReports, hdefault]
      | some i => cases harm : batch.arms[i]? <;> simp [defaultReports, hdefault, harm]
    | some d =>
      cases hnew : batch.defaultArm with
      | none => simp [defaultReports, hnew]
      | some i => cases harm : batch.arms[i]? <;> simp [defaultReports, hdefault, hnew, harm]
  cases side with
  | front =>
    rw [Placing.takeArms_eq _ batch.row [] c.arms rfl rfl, hreports,
      hlength, hfind, batch.map_fst_row]
    simp [Side.place, Side.start, insert, DefaultArm.pushed_zero]
  | back =>
    -- behind all arms nothing is pushed on
    have hstays : (c.defaultArm.map fun d => d.pushed c.arms.length batch.arms.length) =
        c.defaultArm := by
      cases hdefault : c.defaultArm with
      | none => rfl
      | some d =>
        cases d with
        | exit => rfl
        | arm i => exact congrArg some (DefaultArm.pushed_of_lt (hc i hdefault) _)
    rw [Placing.takeArms_eq _ batch.row c.arms [] (by simp) rfl,
      hreports, hlength, hfind, batch.map_fst_row]
    simp [Side.place, Side.start, insert, hstays]

/-- Placing a batch arm by arm is placing it at once. -/
theorem insertEach_eq {c : Choice α} {batch : Batch α}
    (hc : ∀ i, c.defaultArm = some (.arm i) → i < c.arms.length)
    (hb : ∀ i, batch.defaultArm = some i → i < batch.arms.length) (side : Side)
    (ordered : Bool) :
    c.insertEach side ordered batch =
      (c.insert side ordered batch, c.insertReports side batch) := by
  simp only [insertEach, takeArms_row hc hb side ordered]
  cases hnew : batch.recovery with
  | none =>
    cases hold : c.recovery <;> cases side <;>
      simp [Side.start, Side.place, insert, insertReports, recoveryReports, positionReports, hnew,
        hold, List.length_pos_iff, Nat.add_comm]
  | some branch =>
    cases hold : c.recovery <;> cases side <;>
      simp [Side.start, Side.place, insert, insertReports, recoveryReports, positionReports, hnew,
        hold, List.length_pos_iff, Nat.add_comm, Placing.takeBranch]

end Choice


/-! ## Separated arms -/

namespace Choice

variable {α : Type} {c : Choice α} {batch : Batch α} {i : Nat}

/-- An old arm is still an arm. -/
theorem old_lt_length_insert (h : i < c.arms.length) (side : Side) (ordered : Bool)
    (batch : Batch α) :
    i + side.moved batch.arms.length < (c.insert side ordered batch).arms.length := by
  rw [length_arms_insert]
  cases side <;> simp only [Side.moved] <;> omega

/-- A new arm is an arm. -/
theorem new_lt_length_insert (h : i < batch.arms.length) (c : Choice α) (side : Side)
    (ordered : Bool) :
    i + side.start c.arms.length < (c.insert side ordered batch).arms.length := by
  rw [length_arms_insert]
  cases side <;> simp only [Side.start] <;> omega

end Choice

namespace Records

variable {α : Type} {c inner : Choice α} {batch : Batch α} {t u : Option (JoinTree α)}
  {i j : Nat}

/-- As long as their numbers can be stored, an ambiguity between two arms is intended
exactly if they meet at a `/`. -/
theorem suppresses_eq (h : Records c.arms c.seams t) (hi : i < c.arms.length)
    (hj : j < c.arms.length) (hi' : i < 32767) (hj' : j < 32767) :
    c.suppresses i j 0 = (t.bind (·.operator? i j)).getD false := by
  cases t with
  | none =>
    rw [h.arms_eq] at hi
    simp [JoinTree.leavesOf] at hi
  | some t =>
    rw [h.arms_eq, JoinTree.length_leavesOf_some] at hi hj
    have hiff := h.suppresses_iff hi hj
    rw [Seam.greatest] at hiff
    rw [Option.bind_some, Bool.eq_iff_iff, hiff]
    cases t.operator? i j with
    | none => simp
    | some ordered =>
      cases ordered with
      | false => simp
      | true => simp only [Option.getD_some, true_and, iff_true]; omega

/-- Placing a batch on a side joins the trees in that order. -/
theorem insert (hc : Records c.arms c.seams t) (hb : Records batch.arms batch.seams u)
    (side : Side) (ordered : Bool) :
    Records (c.insert side ordered batch).arms (c.insert side ordered batch).seams
      (match side with
        | .front => JoinTree.combine none ordered u t
        | .back => JoinTree.combine none ordered t u) := by
  cases side with
  | front => exact hc.insert_front hb none ordered
  | back => exact hc.insert_back hb none ordered

/-- Old arms are separated as before. -/
theorem suppresses_insert_old (hc : Records c.arms c.seams t)
    (hb : Records batch.arms batch.seams u) (side : Side) (ordered : Bool)
    (hi : i < c.arms.length) (hj : j < c.arms.length)
    (hi' : i + side.moved batch.arms.length < 32767)
    (hj' : j + side.moved batch.arms.length < 32767) :
    (c.insert side ordered batch).suppresses (i + side.moved batch.arms.length : Nat)
      (j + side.moved batch.arms.length : Nat) 0 = c.suppresses i j 0 := by
  rw [(hc.insert hb side ordered).suppresses_eq (Choice.old_lt_length_insert hi side ordered batch)
    (Choice.old_lt_length_insert hj side ordered batch) hi' hj',
    hc.suppresses_eq hi hj (by omega) (by omega)]
  rw [hc.arms_eq] at hi hj
  cases side with
  | front =>
    simp only [Side.moved, hb.arms_eq, Nat.add_comm _ (JoinTree.leavesOf u).length]
    rw [JoinTree.operator?_combine_right none ordered hi]
  | back =>
    simp only [Side.moved, Nat.add_zero]
    rw [JoinTree.operator?_combine_left none ordered hi hj]

/-- New arms are separated as in the choice that gave them up. -/
theorem suppresses_insert_new (hc : Records c.arms c.seams t)
    (hinner : Records inner.arms inner.seams u) (side : Side) (ordered : Bool)
    (hi : i < inner.arms.length) (hj : j < inner.arms.length)
    (hi' : i + side.start c.arms.length < 32767) (hj' : j + side.start c.arms.length < 32767) :
    (c.insert side ordered (Batch.ofChoice inner)).suppresses
      (i + side.start c.arms.length : Nat) (j + side.start c.arms.length : Nat) 0 =
        inner.suppresses i j 0 := by
  have hb : Records (Batch.ofChoice inner).arms (Batch.ofChoice inner).seams u := hinner
  rw [(hc.insert hb side ordered).suppresses_eq (Choice.new_lt_length_insert hi c side ordered)
    (Choice.new_lt_length_insert hj c side ordered) hi' hj',
    hinner.suppresses_eq hi hj (by omega) (by omega)]
  rw [hinner.arms_eq] at hi hj
  cases side with
  | front =>
    simp only [Side.start, Nat.add_zero]
    rw [JoinTree.operator?_combine_left none ordered hi hj]
  | back =>
    simp only [Side.start, hc.arms_eq, Nat.add_comm _ (JoinTree.leavesOf t).length]
    rw [JoinTree.operator?_combine_right none ordered hi]

/-- An old arm and a new one are separated if `/` joins the two sides. -/
theorem suppresses_insert_across (hc : Records c.arms c.seams t)
    (hb : Records batch.arms batch.seams u) (side : Side) (ordered : Bool)
    (hi : i < c.arms.length) (hj : j < batch.arms.length)
    (hi' : i + side.moved batch.arms.length < 32767)
    (hj' : j + side.start c.arms.length < 32767) :
    (c.insert side ordered batch).suppresses (i + side.moved batch.arms.length : Nat)
        (j + side.start c.arms.length : Nat) 0 = ordered ∧
      (c.insert side ordered batch).suppresses (j + side.start c.arms.length : Nat)
        (i + side.moved batch.arms.length : Nat) 0 = ordered := by
  have hold := Choice.old_lt_length_insert hi side ordered batch
  have hnew := Choice.new_lt_length_insert hj c side ordered
  rw [(hc.insert hb side ordered).suppresses_eq hold hnew hi' hj',
    (hc.insert hb side ordered).suppresses_eq hnew hold hj' hi']
  rw [hc.arms_eq] at hi
  rw [hb.arms_eq] at hj
  cases side with
  | front =>
    obtain ⟨hmeet, hmeet'⟩ := JoinTree.operator?_combine_across none ordered hj hi
    simp only [Side.start, Side.moved, Nat.add_zero, hb.arms_eq,
      Nat.add_comm _ (JoinTree.leavesOf u).length, hmeet, hmeet', Option.getD_some, and_self]
  | back =>
    obtain ⟨hmeet, hmeet'⟩ := JoinTree.operator?_combine_across none ordered hi hj
    simp only [Side.start, Side.moved, Nat.add_zero, hc.arms_eq,
      Nat.add_comm _ (JoinTree.leavesOf t).length, hmeet, hmeet', Option.getD_some, and_self]

end Records

/-! ## What an operand brings -/

namespace Expr

variable {S : Type} {operand : Expr S}

/-- The arms that an operand in a role brings: those of a plain choice without a mark,
none if it is an error branch, itself otherwise. -/
def newArms (operand : Expr S) (role : ArmRole) : List (Expr S) :=
  match operand.host? role, role with
  | some inner, _ => inner.arms
  | none, .recovery _ => []
  | none, _ => [operand]

/-- Which of the new arms is marked as the default. -/
def newDefault? (operand : Expr S) (role : ArmRole) : Option Nat :=
  match operand.host? role, role with
  | some inner, _ => inner.defaultArm.bind DefaultArm.index?
  | none, .default => some 0
  | none, _ => none

/-- The error branch that comes with the new arms. -/
def newRecovery? (operand : Expr S) (role : ArmRole) : Option (Recovery (Expr S)) :=
  match operand.host? role, role with
  | some inner, _ => inner.recovery
  | none, .recovery exits => some ⟨operand, exits⟩
  | none, _ => none

/-- Whether `/` separates two of the new arms. -/
def separatesNew (operand : Expr S) (role : ArmRole) (i j : Nat) : Bool :=
  (operand.host? role).elim false fun inner => inner.suppresses i j 0

/-- An operand that is kept whole brings one arm at most. -/
theorem length_newArms_le_one {role : ArmRole} (h : operand.host? role = none) :
    (operand.newArms role).length ≤ 1 := by
  unfold newArms
  rw [h]
  cases role with
  | ordinary => exact Nat.le_refl 1
  | default => exact Nat.le_refl 1
  | recovery exits => exact Nat.zero_le 1

/-- The batch of an operand in full. -/
theorem batch_fields (role : ArmRole)
    (h : ∀ inner, operand.choice? = some inner → inner.Sound) :
    (operand.batch role).arms = operand.newArms role ∧
      (operand.batch role).defaultArm = operand.newDefault? role ∧
      (operand.batch role).recovery = operand.newRecovery? role := by
  unfold newArms newDefault? newRecovery?
  cases hhost : operand.host? role with
  | none =>
    rw [batch_of_host?_eq_none hhost]
    cases role <;> exact ⟨rfl, rfl, rfl⟩
  | some inner =>
    have hinner := h inner (Choice.choice?_of_host? hhost)
    rw [batch_of_host? hhost]
    refine ⟨rfl, ?_, rfl⟩
    cases hdefault : inner.defaultArm with
    | none => simp [Batch.ofChoice, hdefault]
    | some d =>
      cases d with
      | exit => simp [Batch.ofChoice, hdefault, DefaultArm.index?]
      | arm i => simp [Batch.ofChoice, hdefault, DefaultArm.index?, hinner.default_lt i hdefault]

end Expr

/-! ## All that changes -/

namespace Side

variable {α : Type} {own other : List α} {i : Nat}

/-- What was there is found where it was moved to. -/
theorem getElem?_place_own (side : Side) (h : i < own.length) :
    (side.place own other)[i + side.moved other.length]? = own[i]? := by
  cases side with
  | front => simp [place, moved, List.getElem?_append_right]
  | back => exact List.getElem?_append_left h

/-- What is new is found behind the place where it starts. -/
theorem getElem?_place_other (side : Side) (h : i < other.length) :
    (side.place own other)[i + side.start own.length]? = other[i]? := by
  cases side with
  | front => exact List.getElem?_append_left h
  | back => simp [place, start, List.getElem?_append_right]

end Side

namespace Choice

variable {α S Item : Type} [SymbolSet S Item]

/-- The arm of a place. -/
theorem arm?_natCast (c : Choice α) (i : Nat) : c.arm? i = c.arms[i]? :=
  if_neg (Int.not_lt.mpr (Int.natCast_nonneg i))

/-- The default that was there moves with its arm; if there was none the batch brings
one. -/
theorem insert_defaultArm (c : Choice α) (side : Side) (ordered : Bool) (batch : Batch α) :
    (c.insert side ordered batch).defaultArm =
      (c.defaultArm.map (·.shift (side.moved batch.arms.length))).or
        (batch.defaultArm.map fun i => .arm (i + side.start c.arms.length)) := by
  have hstays (d : DefaultArm) : d.shift 0 = d := by cases d <;> rfl
  cases side with
  | front => simp [insert, Side.moved, Side.start]
  | back => simp [insert, Side.moved, Side.start, hstays]

/-- A default that comes too late is reported where the arm stands that has it. -/
theorem defaultReports_eq (c : Choice (Expr S)) (batch : Batch (Expr S)) :
    c.defaultReports batch =
      match c.defaultArm, batch.defaultArm.bind (batch.arms[·]?) with
      | some _, some arm => [.duplicateDefault arm.location]
      | _, _ => [] := by
  unfold defaultReports
  cases c.defaultArm with
  | none => rfl
  | some d =>
    cases batch.defaultArm with
    | none => rfl
    | some i =>
      simp only [Option.bind_some]
      cases batch.arms[i]? with
      | none => rfl
      | some arm => rfl

/-- Without a mask no arm is set apart from itself. -/
theorem suppresses_self (c : Choice α) (a : Int) : c.suppresses a a 0 = false := by
  simp [suppresses, Seam.separates, Records.inMask_zero]

/-- The number of an old arm after an operand in a role was placed. -/
def oldNumber (side : Side) (operand : Expr S) (role : ArmRole) (i : Nat) : Nat :=
  i + side.moved (operand.newArms role).length

/-- The number of a new arm beside the arms of a choice. -/
def newNumber (c : Choice α) (side : Side) (i : Nat) : Nat :=
  i + side.start c.arms.length

/-- The choice after an operand in a role was placed on one side of `c`, and all that was
reported. -/
structure TookIn (c : Choice (Expr S)) (side : Side) (ordered : Bool) (operand : Expr S)
    (role : ArmRole) (result : Choice (Expr S)) (reports : List Diagnostic) : Prop where
  /-- Placing one arm after the other leads there. -/
  each : c.insertEach side ordered (operand.batch role) = (result, reports)
  /-- Old and new arms stand side by side. -/
  arms_eq : result.arms = side.place c.arms (operand.newArms role)
  /-- A default that was there moves with its arm. -/
  default_kept : ∀ d, c.defaultArm = some d →
    result.defaultArm = some (d.shift (side.moved (operand.newArms role).length)) ∧
      result.arm? (d.shift (side.moved (operand.newArms role).length)).number = c.arm? d.number
  /-- Otherwise the default of the operand is the default. -/
  default_new : c.defaultArm = none →
    result.defaultArm = (operand.newDefault? role).map (fun i => .arm (c.newNumber side i)) ∧
      ∀ i, operand.newDefault? role = some i →
        ∃ arm, (operand.newArms role)[i]? = some arm ∧
          result.arm? (c.newNumber side i) = some arm
  /-- An error branch that was there stays; otherwise it is the one of the operand. -/
  recovery_eq : result.recovery =
    if c.recovery.isSome then c.recovery else operand.newRecovery? role
  repetition_eq : result.repetition = c.repetition
  greedy_eq : result.greedy = c.greedy
  /-- Two old arms are separated as before. -/
  old_old : ∀ i j, i < c.arms.length → j < c.arms.length →
    oldNumber side operand role i < 32767 → oldNumber side operand role j < 32767 →
    result.suppresses (oldNumber side operand role i) (oldNumber side operand role j) 0 =
      c.suppresses i j 0
  /-- Two new arms are separated as before. -/
  new_new : ∀ i j, i < (operand.newArms role).length → j < (operand.newArms role).length →
    c.newNumber side i < 32767 → c.newNumber side j < 32767 →
    result.suppresses (c.newNumber side i) (c.newNumber side j) 0 =
      operand.separatesNew role i j
  /-- An old arm and a new one are separated by the operator that joins them. -/
  old_new : ∀ i j, i < c.arms.length → j < (operand.newArms role).length →
    oldNumber side operand role i < 32767 → c.newNumber side j < 32767 →
    result.suppresses (oldNumber side operand role i) (c.newNumber side j) 0 = ordered ∧
      result.suppresses (c.newNumber side j) (oldNumber side operand role i) 0 = ordered
  /-- A second default is reported, then a second error branch or one in front of old
  arms, then an old error branch in front of new arms; nothing else is. -/
  reports_eq : reports =
    (match c.defaultArm, (operand.newDefault? role).bind ((operand.newArms role)[·]?) with
      | some _, some arm => [.duplicateDefault arm.location]
      | _, _ => []) ++
    (match c.recovery, operand.newRecovery? role with
      | some _, some branch => [.duplicateRecovery branch.body.location]
      | none, some branch =>
        if side = .front ∧ c.arms ≠ [] then [.misplacedRecovery branch.body.location] else []
      | _, none => []) ++
    (match c.recovery with
      | some branch =>
        if side = .back ∧ operand.newArms role ≠ [] then
          [.misplacedRecovery branch.body.location]
        else []
      | none => [])

/-- Placing an operand that was built before at a choice that was built before changes
its arms, marks and separations as `TookIn` says, and nothing else is reported. -/
theorem Reachable.takes_operand_in {c : Choice (Expr S)} {operand : Expr S} (hc : Reachable c)
    (hoperand : ∀ inner, operand.choice? = some inner → Reachable inner) (side : Side)
    (ordered : Bool) (role : ArmRole) :
    c.TookIn side ordered operand role (c.insert side ordered (operand.batch role))
      (c.insertReports side (operand.batch role)) := by
  have hinner : ∀ inner, operand.choice? = some inner → inner.Sound :=
    fun inner h => (hoperand inner h).sound
  obtain ⟨harms, hdefault, hrecovery⟩ := Expr.batch_fields role hinner
  have hbatch := sound_batch role hinner
  obtain ⟨t, ht⟩ := hc.sound.joined
  obtain ⟨u, hu⟩ := hbatch.joined
  have hplace : (c.insert side ordered (operand.batch role)).arms =
      side.place c.arms (operand.newArms role) := by
    rw [← harms]
    cases side <;> rfl
  constructor
  case each => exact insertEach_eq hc.sound.default_lt hbatch.default_lt side ordered
  case arms_eq => exact hplace
  case default_kept =>
    intro d hd
    refine ⟨by rw [insert_defaultArm, harms, hd]; rfl, ?_⟩
    cases d with
    | exit => rfl
    | arm i =>
      simp only [DefaultArm.shift, DefaultArm.number, arm?_natCast, hplace]
      exact side.getElem?_place_own (hc.sound.default_lt i hd)
  case default_new =>
    intro hnone
    refine ⟨by rw [insert_defaultArm, hnone, hdefault]; rfl, ?_⟩
    intro i hi
    have hlt : i < (operand.newArms role).length := harms ▸ hbatch.default_lt i (hdefault ▸ hi)
    refine ⟨(operand.newArms role)[i], List.getElem?_eq_getElem hlt, ?_⟩
    rw [arm?_natCast, hplace, newNumber, side.getElem?_place_other hlt,
      List.getElem?_eq_getElem hlt]
  case recovery_eq =>
    rw [insert_recovery, hrecovery]
    cases c.recovery <;> rfl
  case repetition_eq => exact insert_repetition c side ordered _
  case greedy_eq => cases side <;> rfl
  case old_old =>
    unfold oldNumber
    rw [← harms]
    intro i j hi hj hi' hj'
    exact ht.suppresses_insert_old hu side ordered hi hj hi' hj'
  case new_new =>
    intro i j hi hj hi' hj'
    unfold Expr.separatesNew
    cases hhost : operand.host? role with
    | none =>
      have hone := Expr.length_newArms_le_one hhost
      obtain rfl : i = j := by omega
      exact suppresses_self _ _
    | some inner =>
      have hbatch := Expr.batch_of_host? hhost
      rw [hbatch] at hu
      rw [← harms, hbatch] at hi hj
      rw [hbatch]
      exact ht.suppresses_insert_new hu side ordered hi hj hi' hj'
  case old_new =>
    unfold oldNumber
    rw [← harms]
    intro i j hi hj hi' hj'
    exact ht.suppresses_insert_across hu side ordered hi hj hi' hj'
  case reports_eq =>
    rw [insertReports, defaultReports_eq, recoveryReports, positionReports, hdefault, hrecovery,
      harms]
    congr 2
    · cases c.recovery <;> cases operand.newRecovery? role <;> rfl
    · cases c.recovery <;> rfl

/-- The star over `a / default b` with an error branch, and `default x / y` with another
one in front of it: the default of the star is the fourth arm now, both marks of the
operand are reported, and `/` separates what it separated before. -/
theorem Reachable.takes_operand_in_front :
    let call (k : Nat) : Expr TokenClass := .ofKind (some ⟨k, k + 1⟩) (.call ⟨⟨k⟩, "r", []⟩)
    let grow (repetition : Repetition) (k : Nat) : Choice (Expr TokenClass) :=
      ((({ repetition } : Choice (Expr TokenClass)).insert .back false
        ((call k).batch (if k = 0 then .ordinary else .default))).insert .back true
        ((call (k + 1)).batch (if k = 0 then .default else .ordinary))).insert .back false
        ((call (k + 2)).batch (.recovery true))
    let c := grow .star 0
    let operand : Expr TokenClass := .ofKind none (.choice (grow .once 3))
    let result := c.insert .front false (operand.batch .ordinary)
    Reachable c ∧ Reachable (grow .once 3) ∧
      result.arms.length = 4 ∧ result.defaultArm = some (.arm 3) ∧
      result.suppresses 2 3 0 = true ∧ result.suppresses 0 1 0 = true ∧
      result.suppresses 1 2 0 = false ∧
      c.insertReports .front (operand.batch .ordinary) =
        [.duplicateDefault (some ⟨3, 4⟩), .duplicateRecovery (some ⟨5, 6⟩)] := by
  intro call grow c operand result
  have hcall (k : Nat) : ∀ inner, (call k).choice? = some inner → Reachable inner := by
    intro inner h
    cases h
  have hgrow (repetition : Repetition) (k : Nat) : Reachable (grow repetition k) :=
    (((Reachable.new repetition none).insert .back false _ (hcall k)).insert .back true _
      (hcall (k + 1))).insert .back false _ (hcall (k + 2))
  have hinner : ∀ inner, operand.choice? = some inner → Reachable inner := by
    intro inner h
    cases h
    exact hgrow .once 3
  have h := (hgrow .star 0).takes_operand_in hinner .front false .ordinary
  refine ⟨hgrow .star 0, hgrow .once 3, ?_, ?_, ?_, ?_, ?_, ?_⟩
  · exact congrArg List.length h.arms_eq
  · exact (h.default_kept (.arm 1) rfl).1
  · exact h.old_old 0 1 (by decide) (by decide) (by decide) (by decide)
  · exact h.new_new 0 1 (by decide) (by decide) (by decide) (by decide)
  · exact (h.old_new 0 1 (by decide) (by decide) (by decide) (by decide)).2
  · exact h.reports_eq

end Choice

end GrammarTree
