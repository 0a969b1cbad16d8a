import Mathlib.Data.List.Basic
import Mathlib.Data.Int.Basic
import GrammarTree.Choice.Insert
import GrammarTree.Proofs.JoinTree

/-!
# Ledgers of join trees

A choice keeps its arms in a flat list and remembers in its ledger how they were
joined.  The ledger of a join tree lists one seam for each operator, the seams of
both sides before the seam of the operator itself.  Placing a batch at a choice
joins the trees behind the two.

Positions beyond the greatest one are stored as the greatest one.  Such a seam
still separates the same arms among those that have a smaller number.

Main results:

- Definition `JoinTree.ledger`: the seams of a tree as they are stored.
- Theorem `JoinTree.exists_separates_iff`: a seam with the operator at which two
  arms meet separates them, and no other seam does.
- Theorem `JoinTree.pairwise_laminar`: the runs of two seams are nested or
  disjoint.
- Theorems `Records.insert_back` and `Records.insert_front`: placing a batch at a
  choice joins the trees that their ledgers record.
-/

namespace GrammarTree

/-! ## Stored positions -/

namespace Seam

/-- A position that can be stored is stored as it is. -/
theorem clamp_of_le {n : Int} (h : 0 ≤ n) (h' : n ≤ greatest) : clamp n = n := by
  simp only [clamp, least, greatest] at *
  split_ifs <;> omega

/-- A position from the start on is stored as itself or as the greatest one. -/
theorem clamp_eq_min {n : Int} (h : 0 ≤ n) : clamp n = min n greatest := by
  simp only [clamp, least, greatest]
  split_ifs <;> omega

/-- Moving a stored position by a stored offset loses nothing more. -/
theorem clamp_clamp_add_clamp {n offset : Int} (hn : 0 ≤ n) (ho : 0 ≤ offset) :
    clamp (clamp n + clamp offset) = clamp (n + offset) := by
  have hn' : 0 ≤ min n greatest := by simp only [greatest]; omega
  have ho' : 0 ≤ min offset greatest := by simp only [greatest]; omega
  rw [clamp_eq_min hn, clamp_eq_min ho, clamp_eq_min (by omega), clamp_eq_min (by omega)]
  simp only [greatest]
  omega

/-- The seam as it is stored. -/
def clamped (s : Seam) : Seam :=
  { s with
    left := clamp s.left
    mid := clamp s.mid
    right := clamp s.right }

/-- Two arms are separated if both belong to the run, one on either side. -/
theorem separates_iff {s : Seam} {a b : Int} :
    s.separates a b = true ↔
      (s.left ≤ a ∧ a < s.right) ∧ (s.left ≤ b ∧ b < s.right) ∧
        (a < s.mid ∧ s.mid ≤ b ∨ b < s.mid ∧ s.mid ≤ a) := by
  simp only [separates, contains, Bool.and_eq_true, decide_eq_true_eq, bne_iff_ne, ne_eq,
    decide_eq_decide]
  omega

/-- A stored seam separates the arms that the seam itself separates, as long as
their numbers are below the greatest position. -/
theorem clamped_separates_iff {s : Seam} {a b : Int} (hleft : 0 ≤ s.left)
    (hmid : s.left ≤ s.mid) (hright : s.mid ≤ s.right) :
    s.clamped.separates a b = true ↔
      s.separates a b = true ∧ a < greatest ∧ b < greatest := by
  simp only [separates_iff, clamped]
  rw [clamp_eq_min hleft, clamp_eq_min (by omega), clamp_eq_min (by omega)]
  omega

/-- Two sides that have arms are joined by one seam. -/
theorem between_eq_singleton {mid count : Nat} (hmid : 0 < mid) (hcount : mid < count)
    (ordered : Bool) : between mid count ordered = [⟨0, clamp mid, clamp count, ordered⟩] :=
  if_pos ⟨hmid, hcount⟩

/-- The runs of two seams are nested or disjoint. -/
def Laminar (s t : Seam) : Prop :=
  s.right ≤ t.left ∨ t.right ≤ s.left ∨
    (t.left ≤ s.left ∧ s.right ≤ t.right) ∨ (s.left ≤ t.left ∧ t.right ≤ s.right)

end Seam

/-! ## The seams of a tree -/

namespace JoinTree

variable {α β : Type}

/-- The seams of a tree whose first arm has the number `offset`. -/
def seamsFrom (offset : Nat) : JoinTree α → List Seam
  | leaf _ => []
  | join _ ordered left right =>
    left.seamsFrom offset ++ right.seamsFrom (offset + left.size) ++
      [⟨offset, offset + left.size, offset + left.size + right.size, ordered⟩]

/-- A seam lies in the run of its tree and has arms on both sides. -/
theorem bounds_of_mem_seamsFrom {t : JoinTree α} {offset : Nat} {s : Seam}
    (h : s ∈ t.seamsFrom offset) :
    (offset : Int) ≤ s.left ∧ s.left < s.mid ∧ s.mid < s.right ∧
      s.right ≤ offset + t.size := by
  induction t generalizing offset with
  | leaf operand => simp [seamsFrom] at h
  | join location ordered left right ihl ihr =>
    have hl := left.size_pos
    have hr := right.size_pos
    simp only [seamsFrom, List.mem_append, List.mem_singleton] at h
    rw [size_join]
    rcases h with (h | h) | rfl
    · have := ihl h
      omega
    · have := ihr h
      omega
    · simp only
      omega

/-- There is one seam less than there are arms. -/
theorem length_seamsFrom (t : JoinTree α) (offset : Nat) :
    (t.seamsFrom offset).length + 1 = t.size := by
  induction t generalizing offset with
  | leaf operand => rfl
  | join location ordered left right ihl ihr =>
    have hl := ihl offset
    have hr := ihr (offset + left.size)
    simp only [seamsFrom, List.length_append, List.length_singleton, size_join]
    omega

/-- The runs of two seams of a tree are nested or disjoint. -/
theorem pairwise_laminar (t : JoinTree α) (offset : Nat) :
    (t.seamsFrom offset).Pairwise Seam.Laminar := by
  induction t generalizing offset with
  | leaf operand => exact List.Pairwise.nil
  | join location ordered left right ihl ihr =>
    rw [seamsFrom, List.pairwise_append, List.pairwise_append]
    refine ⟨⟨ihl offset, ihr _, ?_⟩, List.pairwise_singleton _ _, ?_⟩
    · intro s hs u hu
      have hs := bounds_of_mem_seamsFrom hs
      have hu := bounds_of_mem_seamsFrom hu
      left
      omega
    · intro s hs u hu
      rw [List.mem_singleton] at hu
      subst hu
      right; right; left
      simp only
      rcases List.mem_append.mp hs with hs | hs
      · have hs := bounds_of_mem_seamsFrom hs
        omega
      · have hs := bounds_of_mem_seamsFrom hs
        omega

/-- Every arm but the first has exactly one seam in front of it. -/
theorem countP_mid_eq_one (t : JoinTree α) {offset m : Nat} (hlo : offset < m)
    (hhi : m < offset + t.size) :
    (t.seamsFrom offset).countP (fun s => s.mid = (m : Int)) = 1 := by
  -- outside of its run a tree has no seam at all
  have hzero (u : JoinTree α) (first : Nat) (h : m ≤ first ∨ first + u.size ≤ m) :
      (u.seamsFrom first).countP (fun s => s.mid = (m : Int)) = 0 := by
    rw [List.countP_eq_zero]
    intro s hs
    have hs := bounds_of_mem_seamsFrom hs
    rw [decide_eq_true_eq]
    omega
  induction t generalizing offset with
  | leaf operand =>
    rw [size_leaf] at hhi
    omega
  | join location ordered left right ihl ihr =>
    rw [size_join] at hhi
    rw [seamsFrom, List.countP_append, List.countP_append, List.countP_singleton]
    rcases Nat.lt_trichotomy m (offset + left.size) with h | h | h
    · rw [ihl hlo h, hzero right _ (by omega), if_neg (by simp only [decide_eq_true_eq]; omega)]
    · rw [hzero left _ (by omega), hzero right _ (by omega),
        if_pos (by simp only [decide_eq_true_eq]; omega)]
    · rw [hzero left _ (by omega), ihr h (by omega),
        if_neg (by simp only [decide_eq_true_eq]; omega)]

/-- The arms that a seam of a tree separates are arms of the tree. -/
theorem mem_run_of_separates {t : JoinTree α} {offset : Nat} {s : Seam} {a b : Int}
    (hs : s ∈ t.seamsFrom offset) (h : s.separates a b = true) :
    ((offset : Int) ≤ a ∧ a < offset + t.size) ∧
      ((offset : Int) ≤ b ∧ b < offset + t.size) := by
  have hbounds := bounds_of_mem_seamsFrom hs
  rw [Seam.separates_iff] at h
  omega

/-- The seams that separate two arms are those of the operator at which the arms
meet. -/
theorem exists_separates_iff (t : JoinTree α) (offset : Nat) {i j : Nat} {ordered : Bool}
    (hi : i < t.size) (hj : j < t.size) :
    (∃ s ∈ t.seamsFrom offset,
        s.separates (offset + i) (offset + j) = true ∧ s.ordered = ordered) ↔
      t.operator? i j = some ordered := by
  induction t generalizing offset i j with
  | leaf operand => simp [seamsFrom, operator?]
  | join location joined left right ihl ihr =>
    rw [size_join] at hi hj
    -- the right side counts its arms from its own first arm on
    have hright (k : Nat) (h : left.size ≤ k) :
        (offset : Int) + k = (offset + left.size : Nat) + (k - left.size : Nat) := by
      omega
    constructor
    · rintro ⟨s, hs, hsep, rfl⟩
      simp only [seamsFrom, List.mem_append, List.mem_singleton] at hs
      rcases hs with (hs | hs) | rfl
      · have hrun := mem_run_of_separates hs hsep
        rw [operator?, if_pos (by omega)]
        exact (ihl offset (by omega) (by omega)).mp ⟨s, hs, hsep, rfl⟩
      · have hrun := mem_run_of_separates hs hsep
        rw [hright i (by omega), hright j (by omega)] at hsep
        rw [operator?, if_neg (by omega), if_pos (by omega)]
        exact (ihr _ (by omega) (by omega)).mp ⟨s, hs, hsep, rfl⟩
      · rw [Seam.separates_iff] at hsep
        simp only at hsep
        rw [operator?, if_neg (by omega), if_neg (by omega)]
    · intro h
      rw [operator?] at h
      split_ifs at h with hl hr
      · rcases (ihl offset hl.1 hl.2).mpr h with ⟨s, hs, hsep, hop⟩
        exact ⟨s, by simp [seamsFrom, hs], hsep, hop⟩
      · rcases (ihr (offset + left.size) (by omega) (by omega)).mpr h with ⟨s, hs, hsep, hop⟩
        rw [← hright i hr.1, ← hright j hr.2] at hsep
        exact ⟨s, by simp [seamsFrom, hs], hsep, hop⟩
      · refine ⟨_, List.mem_append_right _ (List.mem_singleton_self _), ?_, by simpa using h⟩
        rw [Seam.separates_iff]
        simp only
        omega

/-! ## The ledger of a tree -/

/-- The seams of a tree as they are stored. -/
def ledger (t : JoinTree α) : List Seam :=
  (t.seamsFrom 0).map Seam.clamped

/-- There is one stored seam less than there are arms. -/
theorem length_ledger (t : JoinTree α) : t.ledger.length + 1 = t.size := by
  rw [ledger, List.length_map, length_seamsFrom]

/-- Stored positions still stand in order within the arms. -/
theorem bounds_of_mem_ledger {t : JoinTree α} {s : Seam} (h : s ∈ t.ledger) :
    0 ≤ s.left ∧ s.left ≤ s.mid ∧ s.mid ≤ s.right ∧ s.right ≤ t.size := by
  rcases List.mem_map.mp h with ⟨u, hu, rfl⟩
  have hbounds := bounds_of_mem_seamsFrom hu
  simp only [Seam.clamped]
  rw [Seam.clamp_eq_min (by omega), Seam.clamp_eq_min (by omega), Seam.clamp_eq_min (by omega)]
  simp only [Seam.greatest]
  omega

/-- If all positions can be stored, nothing is lost. -/
theorem ledger_eq_seamsFrom {t : JoinTree α} (h : t.size ≤ 32767) :
    t.ledger = t.seamsFrom 0 := by
  have hself : ∀ s ∈ t.seamsFrom 0, s.clamped = s := by
    intro s hs
    have hbounds := bounds_of_mem_seamsFrom hs
    have hfits (n : Int) (hlo : 0 ≤ n) (hhi : n ≤ s.right) : Seam.clamp n = n := by
      apply Seam.clamp_of_le hlo
      simp only [Seam.greatest]
      omega
    simp only [Seam.clamped]
    rw [hfits s.left (by omega) (by omega), hfits s.mid (by omega) (by omega),
      hfits s.right (by omega) (by omega)]
  rw [ledger, List.map_congr_left hself, List.map_id']

/-- Operands do not matter for the ledger. -/
theorem ledger_map (f : α → β) (t : JoinTree α) : (t.map f).ledger = t.ledger := by
  have hseams (offset : Nat) : (t.map f).seamsFrom offset = t.seamsFrom offset := by
    induction t generalizing offset with
    | leaf operand => rfl
    | join location ordered left right ihl ihr => simp [map, seamsFrom, ihl, ihr]
  rw [ledger, hseams, ledger]

/-- The ledger of a tree that may be missing. -/
def ledgerOf (t : Option (JoinTree α)) : List Seam :=
  t.elim [] ledger

/-- Moving the stored seams of a tree gives the stored seams of the moved tree. -/
theorem map_shift_map_clamped (t : JoinTree α) (first offset : Nat) :
    ((t.seamsFrom first).map Seam.clamped).map (·.shift (Seam.clamp offset)) =
      (t.seamsFrom (offset + first)).map Seam.clamped := by
  induction t generalizing first with
  | leaf operand => rfl
  | join location ordered left right ihl ihr =>
    simp only [seamsFrom, List.map_append, ihl, ihr, ← Nat.add_assoc]
    congr 1
    simp only [List.map_cons, List.map_nil, Seam.clamped, Seam.shift]
    rw [Seam.clamp_clamp_add_clamp (by omega) (by omega),
      Seam.clamp_clamp_add_clamp (by omega) (by omega),
      Seam.clamp_clamp_add_clamp (by omega) (by omega)]
    have hmove (n : Int) : n + offset = offset + n := Int.add_comm _ _
    simp only [hmove, Int.natCast_add, Int.add_assoc]

/-- The ledger of two joined trees: the seams of the left one, the moved seams of
the right one, and the seam between them. -/
theorem ledgerOf_combine (location : Location) (ordered : Bool)
    (left right : Option (JoinTree α)) :
    ledgerOf (combine location ordered left right) =
      ledgerOf left ++
        (ledgerOf right).map (·.shift (Seam.clamp (leavesOf left).length)) ++
        Seam.between (leavesOf left).length
          ((leavesOf left).length + (leavesOf right).length) ordered := by
  cases left with
  | none =>
    cases right with
    | none => rfl
    | some r =>
      have hmove : r.ledger.map (·.shift (Seam.clamp (0 : Nat))) = r.ledger := by
        simpa [ledger] using r.map_shift_map_clamped 0 0
      simpa [combine, ledgerOf, leavesOf, Seam.between] using hmove.symm
  | some l =>
    have hl := l.size_pos
    cases right with
    | none => simp [combine, ledgerOf, leavesOf, Seam.between]
    | some r =>
      have hr := r.size_pos
      have hmove := r.map_shift_map_clamped 0 l.size
      rw [length_leavesOf_some, length_leavesOf_some,
        Seam.between_eq_singleton hl (Nat.lt_add_of_pos_right hr)]
      simp only [combine, ledgerOf, Option.elim_some, ledger, seamsFrom, List.map_append, hmove,
        Nat.zero_add, Nat.add_zero]
      have hzero : Seam.clamp 0 = 0 := rfl
      simp only [List.map_cons, List.map_nil, Seam.clamped, Int.natCast_zero, Int.zero_add,
        Int.natCast_add, hzero]

end JoinTree

/-! ## Choices and batches with a tree behind them -/

/-- The arms and the ledger are those of a tree; without arms there is none. -/
structure Records {α : Type} (arms : List α) (seams : List Seam)
    (t : Option (JoinTree α)) : Prop where
  arms_eq : arms = JoinTree.leavesOf t
  seams_eq : seams = JoinTree.ledgerOf t

namespace Records

variable {α β : Type} {arms : List α} {seams : List Seam} {c : Choice α} {batch : Batch α}
  {t u : Option (JoinTree α)}

/-- Without arms there is nothing to remember. -/
theorem nil : Records ([] : List α) [] none :=
  ⟨rfl, rfl⟩

/-- One arm is a leaf. -/
theorem singleton (arm : α) : Records [arm] [] (some (.leaf arm)) :=
  ⟨rfl, rfl⟩

/-- A batch behind a choice joins the trees of the two. -/
theorem insert_back (hc : Records c.arms c.seams t)
    (hb : Records batch.arms batch.seams u) (location : Location) (ordered : Bool) :
    Records (c.insert .back ordered batch).arms (c.insert .back ordered batch).seams
      (JoinTree.combine location ordered t u) where
  arms_eq := by
    rw [JoinTree.leavesOf_combine, ← hc.arms_eq, ← hb.arms_eq]
    rfl
  seams_eq := by
    rw [JoinTree.ledgerOf_combine, ← hc.arms_eq, ← hb.arms_eq, ← hc.seams_eq, ← hb.seams_eq]
    rfl

/-- A batch in front of a choice joins the trees of the two. -/
theorem insert_front (hc : Records c.arms c.seams t)
    (hb : Records batch.arms batch.seams u) (location : Location) (ordered : Bool) :
    Records (c.insert .front ordered batch).arms (c.insert .front ordered batch).seams
      (JoinTree.combine location ordered u t) where
  arms_eq := by
    rw [JoinTree.leavesOf_combine, ← hc.arms_eq, ← hb.arms_eq]
    rfl
  seams_eq := by
    rw [JoinTree.ledgerOf_combine, ← hc.arms_eq, ← hb.arms_eq, ← hc.seams_eq, ← hb.seams_eq,
      Nat.add_comm batch.arms.length]
    rfl

end Records

end GrammarTree
