import Mathlib.Data.Finset.Card
import Mathlib.Data.Finset.Dedup
import Mathlib.Logic.Relation
import GrammarTree.Choice.Ambiguity

/-!
# Residuals of ambiguities

What is left of an ambiguity is said in two ways.  A choice keeps every listed arm
that is not set apart from some other listed arm.  The other way starts with the listed
arms and deletes, one after the other and in any order, an arm that is set apart from
every other arm still there.  Both leave the same arms, since being set apart is
symmetric: an arm that is deleted was nobody's partner.

Main results:

- Definition `Choice.Drops`: one deletion.
- Theorem `Choice.Drops.paired_eq`: a deletion keeps all arms that have a partner.
- Theorem `Choice.reach_paired`: deletions lead to the arms that have a partner.
- Theorem `Choice.residual_is_left_by_deletion`: the residual, said without the code that
  computes it.
-/

namespace GrammarTree

/-! ## Setting apart is symmetric -/

/-- It does not matter in which order two arms are given to a seam. -/
theorem Seam.separates_comm (s : Seam) (a b : Int) : s.separates a b = s.separates b a := by
  rw [separates, separates, Bool.and_comm (s.contains a), bne_comm]

namespace Choice

open Relation

variable {α : Type} {c : Choice α} {mask : Nat} {left next : Finset Int} {a : Int}

/-- It does not matter in which order two arms are set apart. -/
theorem suppresses_comm (c : Choice α) (a b : Int) (mask : Nat) :
    c.suppresses a b mask = c.suppresses b a mask := by
  rw [suppresses, suppresses, Bool.and_comm]
  simp only [Seam.separates_comm _ a b]

/-! ## Deleting arms one by one -/

/-- One deletion: an arm goes that is set apart from every other arm still there. -/
def Drops (c : Choice α) (mask : Nat) (left next : Finset Int) : Prop :=
  ∃ a ∈ left, (∀ b ∈ left, b ≠ a → c.suppresses a b mask = true) ∧ next = left.erase a

/-- The arms that are not set apart from some other arm, their partner. -/
def paired (c : Choice α) (mask : Nat) (left : Finset Int) : Finset Int :=
  left.filter fun a => ∃ b ∈ left, b ≠ a ∧ c.suppresses a b mask = false

theorem mem_paired :
    a ∈ c.paired mask left ↔ a ∈ left ∧ ∃ b ∈ left, b ≠ a ∧ c.suppresses a b mask = false :=
  Finset.mem_filter

/-- The partner of an arm has that arm as its partner. -/
theorem exists_partner_of_mem_paired (h : a ∈ c.paired mask left) :
    ∃ b ∈ c.paired mask left, b ≠ a ∧ c.suppresses a b mask = false := by
  obtain ⟨ha, b, hb, hne, hpair⟩ := mem_paired.mp h
  refine ⟨b, mem_paired.mpr ⟨hb, a, ha, hne.symm, ?_⟩, hne, hpair⟩
  rw [suppresses_comm, hpair]

/-- A deletion takes one arm away. -/
theorem Drops.card_lt (h : c.Drops mask left next) : next.card < left.card := by
  obtain ⟨a, ha, -, rfl⟩ := h
  exact Finset.card_erase_lt_of_mem ha

/-- Deletions come to an end. -/
theorem wellFounded_drops (c : Choice α) (mask : Nat) :
    WellFounded fun next left => c.Drops mask left next :=
  Subrelation.wf Drops.card_lt (measure Finset.card).wf

/-- A deletion keeps all arms that have a partner, and gives no arm one. -/
theorem Drops.paired_eq (h : c.Drops mask left next) : c.paired mask next = c.paired mask left := by
  obtain ⟨d, -, hapart, rfl⟩ := h
  ext a
  simp only [mem_paired, Finset.mem_erase]
  constructor
  · rintro ⟨⟨-, ha⟩, b, ⟨-, hb⟩, hne, hpair⟩
    exact ⟨ha, b, hb, hne, hpair⟩
  · rintro ⟨ha, b, hb, hne, hpair⟩
    -- the deleted arm is neither of the two, as they are not set apart
    have hda : a ≠ d := by
      rintro rfl
      rw [hapart b hb hne] at hpair
      cases hpair
    have hdb : b ≠ d := by
      rintro rfl
      rw [suppresses_comm, hapart a ha hne.symm] at hpair
      cases hpair
    exact ⟨⟨hda, ha⟩, b, ⟨hdb, hb⟩, hne, hpair⟩

/-- A row of deletions keeps all arms that have a partner. -/
theorem paired_eq_of_drops (h : ReflTransGen (c.Drops mask) left next) :
    c.paired mask next = c.paired mask left := by
  induction h with
  | refl => rfl
  | tail _ hstep ih => exact hstep.paired_eq.trans ih

/-- Nothing can be deleted exactly if every arm has a partner. -/
theorem forall_not_drops_iff : (∀ next, ¬ c.Drops mask left next) ↔ left = c.paired mask left := by
  constructor
  · intro hfinal
    refine (Finset.filter_true_of_mem ?_).symm
    intro a ha
    by_contra hnone
    refine hfinal _ ⟨a, ha, ?_, rfl⟩
    intro b hb hne
    by_contra hpair
    exact hnone ⟨b, hb, hne, Bool.eq_false_iff.mpr hpair⟩
  · rintro hall _ ⟨a, ha, hapart, -⟩
    rw [hall] at ha
    obtain ⟨-, b, hb, hne, hpair⟩ := mem_paired.mp ha
    rw [hapart b hb hne] at hpair
    cases hpair

/-- From everywhere deletions lead to the arms that have a partner. -/
theorem reach_paired (c : Choice α) (mask : Nat) (left : Finset Int) :
    ReflTransGen (c.Drops mask) left (c.paired mask left) := by
  induction left using (wellFounded_drops c mask).induction with
  | _ left ih =>
    by_cases hfinal : ∀ next, ¬ c.Drops mask left next
    · rw [← forall_not_drops_iff.mp hfinal]
    · obtain ⟨next, hstep⟩ := not_forall_not.mp hfinal
      have hrest := ih next hstep
      rw [hstep.paired_eq] at hrest
      exact hrest.head hstep

/-! ## The residual -/

/-- The arms that an ambiguity between the listed arms is about: leaving a loop is none
of them if it is settled whether going on wins, or if the caller asks for that. -/
def involved (c : Choice α) (arms : List Int) (suppressExit : Bool) : Finset Int :=
  if c.greedy.isSome || suppressExit then arms.toFinset.erase DefaultArm.exitNumber
  else arms.toFinset

theorem mem_involved {arms : List Int} {suppressExit : Bool} :
    a ∈ c.involved arms suppressExit ↔ a ∈ arms ∧ c.counts suppressExit a = true := by
  unfold involved counts
  cases hsettled : c.greedy.isSome || suppressExit with
  | true => simp [and_comm]
  | false => simp

/-- A list without its repetitions lists each arm once. -/
theorem nodup_eraseDups (arms : List Int) : arms.eraseDups.Nodup := by
  match arms with
  | [] => exact List.nodup_nil
  | a :: rest =>
    rw [List.eraseDups_cons, List.nodup_cons]
    exact ⟨by simp [List.mem_eraseDups], nodup_eraseDups _⟩
termination_by arms.length
decreasing_by exact Nat.lt_succ_of_le (List.length_filter_le _ _)

/-- A residual lists each arm once. -/
theorem nodup_residual (c : Choice α) (arms : List Int) (mask : Nat) (suppressExit : Bool) :
    (c.residual arms mask suppressExit).Nodup :=
  (nodup_eraseDups arms).filter _

/-- The residual of an ambiguity has the arms that have a partner. -/
theorem toFinset_residual (c : Choice α) (arms : List Int) (mask : Nat) (suppressExit : Bool) :
    (c.residual arms mask suppressExit).toFinset =
      c.paired mask (c.involved arms suppressExit) := by
  ext a
  simp only [residual, List.mem_toFinset, List.mem_filter, List.mem_eraseDups, Bool.and_eq_true,
    List.any_eq_true, mem_paired, mem_involved, bne_iff_ne, Bool.not_eq_true']
  constructor
  · rintro ⟨ha, hcounts, b, hb, ⟨hne, hcounts'⟩, hpair⟩
    exact ⟨⟨ha, hcounts⟩, b, ⟨hb, hcounts'⟩, hne, hpair⟩
  · rintro ⟨⟨ha, hcounts⟩, b, ⟨hb, hcounts'⟩, hne, hpair⟩
    exact ⟨ha, hcounts, b, hb, ⟨hne, hcounts'⟩, hpair⟩

/-- The residual has the involved arms that are not set apart from some other involved
arm.  It is what deletions leave that start with the involved arms, whatever their order
is: they come to an end, and they can go on exactly as long as the residual is not
reached.  How the arms are listed does not matter.  No residual has one arm only, since
every arm finds its partner in it. -/
theorem residual_is_left_by_deletion (c : Choice α) (arms : List Int) (mask : Nat)
    (suppressExit : Bool) :
    (c.residual arms mask suppressExit).Nodup ∧
    (∀ a, a ∈ c.residual arms mask suppressExit ↔
      a ∈ c.involved arms suppressExit ∧
        ∃ b ∈ c.involved arms suppressExit, b ≠ a ∧ c.suppresses a b mask = false) ∧
    (WellFounded fun next left => c.Drops mask left next) ∧
    (∀ left, ReflTransGen (c.Drops mask) (c.involved arms suppressExit) left →
      ReflTransGen (c.Drops mask) left (c.residual arms mask suppressExit).toFinset ∧
        ((∀ next, ¬ c.Drops mask left next) ↔
          left = (c.residual arms mask suppressExit).toFinset)) ∧
    (∀ others : List Int, others.toFinset = arms.toFinset →
      (c.residual others mask suppressExit).toFinset =
        (c.residual arms mask suppressExit).toFinset) ∧
    (c.residual arms mask suppressExit).length ≠ 1 ∧
    ∀ a ∈ c.residual arms mask suppressExit, ∃ b ∈ c.residual arms mask suppressExit,
      b ≠ a ∧ c.suppresses a b mask = false := by
  have hrest := c.toFinset_residual arms mask suppressExit
  have hpartner : ∀ a ∈ c.residual arms mask suppressExit,
      ∃ b ∈ c.residual arms mask suppressExit, b ≠ a ∧ c.suppresses a b mask = false := by
    intro a ha
    rw [← List.mem_toFinset, hrest] at ha
    obtain ⟨b, hb, hne, hpair⟩ := exists_partner_of_mem_paired ha
    rw [← hrest, List.mem_toFinset] at hb
    exact ⟨b, hb, hne, hpair⟩
  refine ⟨c.nodup_residual arms mask suppressExit, ?_, c.wellFounded_drops mask, ?_, ?_, ?_,
    hpartner⟩
  · intro a
    rw [← List.mem_toFinset, hrest, mem_paired]
  · intro left hleft
    have hsame : c.paired mask left = (c.residual arms mask suppressExit).toFinset :=
      (paired_eq_of_drops hleft).trans hrest.symm
    rw [forall_not_drops_iff, ← hsame]
    exact ⟨c.reach_paired mask left, Iff.rfl⟩
  · intro others hothers
    rw [hrest, toFinset_residual, involved, involved, hothers]
  · intro hone
    obtain ⟨a, ha⟩ := List.length_eq_one_iff.mp hone
    obtain ⟨b, hb, hne, -⟩ := hpartner a (by rw [ha]; exact List.mem_singleton_self a)
    rw [ha] at hb
    exact hne (List.mem_singleton.mp hb)

/-- The greedy star over `a / (b | d)`: of all three arms and leaving, listed with
repetitions, a deletion takes `a` away, and then nothing more can be deleted. -/
theorem residual_is_left_by_deletion_grouped :
    let c : Choice Unit :=
      { repetition := .star, greedy := some true, arms := [(), (), ()]
        seams := [⟨1, 2, 3, false⟩, ⟨0, 1, 3, true⟩] }
    c.involved [1, 0, -1, 2, 1] false = {0, 1, 2} ∧ c.Drops 0 {0, 1, 2} {1, 2} ∧
      c.residual [1, 0, -1, 2, 1] 0 false = [1, 2] ∧ ∀ next, ¬ c.Drops 0 {1, 2} next := by
  intro c
  have hinvolved : c.involved [1, 0, -1, 2, 1] false = {0, 1, 2} := by decide
  have hdrops : c.Drops 0 {0, 1, 2} {1, 2} := ⟨0, by decide, by decide, by decide⟩
  have hrest : c.residual [1, 0, -1, 2, 1] 0 false = [1, 2] := by decide
  obtain ⟨-, -, -, hleft, -, -, -⟩ := c.residual_is_left_by_deletion [1, 0, -1, 2, 1] 0 false
  have hfinal := (hleft {1, 2} (by rw [hinvolved]; exact .single hdrops)).2
  refine ⟨hinvolved, hdrops, hrest, hfinal.mpr ?_⟩
  rw [hrest]
  rfl

end Choice

end GrammarTree
