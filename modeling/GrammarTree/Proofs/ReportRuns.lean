import Mathlib.Data.List.Induction
import GrammarTree.Choice.Ambiguity
import GrammarTree.Symbol.TokenClass
import GrammarTree.Proofs.Joining

/-!
# Runs of reports

An analysis asks a choice again and again whether an ambiguity is to be reported.
The choice remembers the sets it reported and stays silent about their parts.  That
is as good as remembering everything it was ever asked about: a set that was not
reported was part of one that was.

The memory holds arms by their numbers.  As long as no arm gets another number, a
choice that stays silent has told the user about all the arms together; an arm that
is placed in front of a choice with a memory takes the number of an arm that was
reported, and the two are confused.

Main results:

- Definition `Choice.after`: a choice after a run of reports, changes of greediness
  and joins.
- Theorem `Choice.Remembers.after`: the memory covers the residuals of a run.
- Theorem `Choice.reports_exactly_what_is_new`: what is reported in a run.
- Theorem `Choice.silent_only_about_told_arms`: a run that keeps the numbers of
  reported arms hides no ambiguity.
- Theorem `Choice.silent_about_arm_in_front`: an arm in front is hidden.
-/

namespace GrammarTree.Choice

variable {S : Type}

/-! ## Runs -/

/-- What happens to a choice while it is built and analysed. -/
inductive Step (S : Type) where
  /-- Ask whether an ambiguity between arms is reported. -/
  | report (arms : List Int) (mask : Nat) (suppressExit : Bool)
  /-- Settle whether going on wins over leaving, or leave it open. -/
  | setGreedy (greedy : Option Bool)
  /-- Place an operand in a role before or behind the arms. -/
  | insert (side : Side) (ordered : Bool) (operand : Expr S) (role : ArmRole)

/-- The choice after a step. -/
def perform (c : Choice (Expr S)) : Step S → Choice (Expr S)
  | .report arms mask suppressExit => (c.report arms mask suppressExit).2
  | .setGreedy greedy => { c with greedy }
  | .insert side ordered operand role => c.insert side ordered (operand.batch role)

/-- The choice after a run. -/
def after (c : Choice (Expr S)) (steps : List (Step S)) : Choice (Expr S) :=
  steps.foldl perform c

@[simp] theorem after_nil (c : Choice (Expr S)) : c.after [] = c := rfl

@[simp] theorem after_cons (c : Choice (Expr S)) (step : Step S) (steps : List (Step S)) :
    c.after (step :: steps) = (c.perform step).after steps := rfl

@[simp] theorem after_append (c : Choice (Expr S)) (steps more : List (Step S)) :
    c.after (steps ++ more) = (c.after steps).after more :=
  List.foldl_append

/-! ## The answer to one call -/

section Answer

variable {α : Type} {c : Choice α} {arms : List Int} {mask : Nat} {suppressExit : Bool}

/-- A residual has listed arms only. -/
theorem residual_subset : c.residual arms mask suppressExit ⊆ arms := by
  intro a ha
  exact List.mem_eraseDups.mp (List.mem_filter.mp ha).1

/-- A call reports a residual that is no part of a remembered set and remembers it, or
stays silent and changes nothing. -/
theorem report_cases (c : Choice α) (arms : List Int) (mask : Nat) (suppressExit : Bool) :
    (c.report arms mask suppressExit =
        (true, { c with reported := c.reported ++ [c.residual arms mask suppressExit] }) ∧
      c.residual arms mask suppressExit ≠ [] ∧
      ∀ known ∈ c.reported, ¬ c.residual arms mask suppressExit ⊆ known) ∨
    (c.report arms mask suppressExit = (false, c) ∧
      (c.residual arms mask suppressExit = [] ∨
        ∃ known ∈ c.reported, c.residual arms mask suppressExit ⊆ known)) := by
  have hpart (rest known : List Int) : rest.all known.contains = true ↔ rest ⊆ known := by
    simp [List.subset_def]
  unfold report
  dsimp only
  split
  · rename_i h
    simp only [Bool.or_eq_true, List.isEmpty_iff, List.any_eq_true, hpart] at h
    exact Or.inr ⟨rfl, h⟩
  · rename_i h
    simp only [Bool.or_eq_true, List.isEmpty_iff, List.any_eq_true, hpart, not_or, not_exists,
      not_and] at h
    exact Or.inl ⟨rfl, h⟩

end Answer

/-! ## Nothing is reported twice -/

/-- The residual that a step computes; only calls do. -/
def residual? (c : Choice (Expr S)) : Step S → Option (List Int)
  | .report arms mask suppressExit => some (c.residual arms mask suppressExit)
  | .setGreedy _ => none
  | .insert _ _ _ _ => none

/-- The residuals that the calls of a run compute, whether they are reported or not. -/
def residuals (c : Choice (Expr S)) : List (Step S) → List (List Int)
  | [] => []
  | step :: rest => (c.residual? step).toList ++ (c.perform step).residuals rest

/-- The memory of a choice holds residuals of the past only, and every other residual
of the past was empty or is part of a remembered one. -/
structure Remembers {α : Type} (c : Choice α) (past : List (List Int)) : Prop where
  mem_past : ∀ known ∈ c.reported, known ∈ past
  covers : ∀ rest ∈ past, rest = [] ∨ ∃ known ∈ c.reported, rest ⊆ known

namespace Remembers

variable {c : Choice (Expr S)} {past : List (List Int)}

/-- What is remembered is up to the memory alone. -/
theorem of_reported_eq {α β : Type} {c : Choice α} {d : Choice β} (h : c.Remembers past)
    (heq : d.reported = c.reported) : d.Remembers past :=
  ⟨heq ▸ h.mem_past, heq ▸ h.covers⟩

/-- A call adds its residual to the past. -/
theorem report (h : c.Remembers past) (arms : List Int) (mask : Nat) (suppressExit : Bool) :
    (c.report arms mask suppressExit).2.Remembers
      (past ++ [c.residual arms mask suppressExit]) := by
  rcases c.report_cases arms mask suppressExit with ⟨heq, -, -⟩ | ⟨heq, hsilent⟩
  · rw [heq]
    constructor
    · intro known hknown
      rcases List.mem_append.mp hknown with hknown | hknown
      · exact List.mem_append_left _ (h.mem_past known hknown)
      · exact List.mem_append_right _ hknown
    · intro rest hrest
      rcases List.mem_append.mp hrest with hrest | hrest
      · rcases h.covers rest hrest with hempty | ⟨known, hknown, hpart⟩
        · exact Or.inl hempty
        · exact Or.inr ⟨known, List.mem_append_left _ hknown, hpart⟩
      · rw [List.mem_singleton] at hrest
        subst hrest
        exact Or.inr ⟨_, List.mem_append_right _ (List.mem_singleton_self _), List.Subset.refl _⟩
  · rw [heq]
    constructor
    · intro known hknown
      exact List.mem_append_left _ (h.mem_past known hknown)
    · intro rest hrest
      rcases List.mem_append.mp hrest with hrest | hrest
      · exact h.covers rest hrest
      · rw [List.mem_singleton] at hrest
        subst hrest
        exact hsilent

/-- A step adds the residual that it computes to the past. -/
theorem perform (h : c.Remembers past) (step : Step S) :
    (c.perform step).Remembers (past ++ (c.residual? step).toList) := by
  cases step with
  | report arms mask suppressExit => exact h.report arms mask suppressExit
  | setGreedy greedy =>
    rw [residual?, Option.toList_none, List.append_nil]
    exact h.of_reported_eq rfl
  | insert side ordered operand role =>
    rw [residual?, Option.toList_none, List.append_nil]
    exact h.of_reported_eq (by cases side <;> rfl)

/-- A run adds the residuals of its calls to the past. -/
theorem after (h : c.Remembers past) (steps : List (Step S)) :
    (c.after steps).Remembers (past ++ c.residuals steps) := by
  induction steps generalizing c past with
  | nil => simpa [residuals] using h
  | cons step rest ih =>
    rw [after_cons, residuals, ← List.append_assoc]
    exact ih (h.perform step)

/-- A call reports a residual that is no part of a residual of the past. -/
theorem report_eq_true_iff (h : c.Remembers past) (arms : List Int) (mask : Nat)
    (suppressExit : Bool) :
    (c.report arms mask suppressExit).1 = true ↔
      c.residual arms mask suppressExit ≠ [] ∧
        ∀ earlier ∈ past, ¬ c.residual arms mask suppressExit ⊆ earlier := by
  rcases c.report_cases arms mask suppressExit with ⟨heq, hne, hnew⟩ | ⟨heq, hsilent⟩
  · rw [heq]
    refine iff_of_true rfl ⟨hne, ?_⟩
    intro earlier hearlier hpart
    rcases h.covers earlier hearlier with hempty | ⟨known, hknown, hcover⟩
    · exact hne (List.subset_nil.mp (hempty ▸ hpart))
    · exact hnew known hknown (List.Subset.trans hpart hcover)
  · rw [heq]
    refine iff_of_false Bool.false_ne_true ?_
    rintro ⟨hne, hnew⟩
    rcases hsilent with hempty | ⟨known, hknown, hpart⟩
    · exact hne hempty
    · exact hnew known (h.mem_past known hknown) hpart

end Remembers

/-- In a run that starts without memory a call reports its residual exactly if it is
not empty and no part of the residual of an earlier call, whether that call reported
it or not.  So arms that were together in a residual are not reported again, in
whatever order and however often they are listed. -/
theorem reports_exactly_what_is_new {c : Choice (Expr S)} (hfresh : c.reported = [])
    (steps : List (Step S)) (arms : List Int) (mask : Nat) (suppressExit : Bool) :
    (((c.after steps).report arms mask suppressExit).1 = true ↔
      (c.after steps).residual arms mask suppressExit ≠ [] ∧
        ∀ earlier ∈ c.residuals steps,
          ¬ (c.after steps).residual arms mask suppressExit ⊆ earlier) ∧
    ∀ earlier ∈ c.residuals steps, arms ⊆ earlier →
      ((c.after steps).report arms mask suppressExit).1 = false := by
  have hstart : c.Remembers [] := ⟨by simp [hfresh], by simp⟩
  have hiff := (hstart.after steps).report_eq_true_iff arms mask suppressExit
  rw [List.nil_append] at hiff
  refine ⟨hiff, ?_⟩
  intro earlier hearlier hlisted
  rw [Bool.eq_false_iff]
  intro hreported
  exact (hiff.mp hreported).2 earlier hearlier (List.Subset.trans residual_subset hlisted)

/-- A star over three arms: after `0`, `1` and leaving were reported and the star was
made greedy, the first two arms are old news in any order, and the third is not. -/
theorem reports_exactly_what_is_new_star :
    let call (k : Nat) : Expr TokenClass := .ofKind none (.call ⟨⟨k⟩, "r", []⟩)
    let c : Choice (Expr TokenClass) :=
      { repetition := .star, arms := [call 0, call 1, call 2],
        seams := [⟨0, 1, 2, false⟩, ⟨0, 2, 3, false⟩] }
    let steps : List (Step TokenClass) :=
      [.report [0, 1, -1] 0 false, .setGreedy (some true), .report [-1, 0] 0 false]
    c.reported = [] ∧ c.residuals steps = [[0, 1, -1], []] ∧
      ((c.after steps).report [1, 0, 1] 0 false).1 = false ∧
      ((c.after steps).report [2, 0] 0 false).1 = true := by
  intro call c steps
  have hresiduals : c.residuals steps = [[0, 1, -1], []] := by decide
  refine ⟨rfl, hresiduals, ?_, ?_⟩
  · apply (reports_exactly_what_is_new (c := c) rfl steps [1, 0, 1] 0 false).2 [0, 1, -1]
    · rw [hresiduals]
      exact List.mem_cons_self
    · decide
  · refine (reports_exactly_what_is_new (c := c) rfl steps [2, 0] 0 false).1.mpr ⟨by decide, ?_⟩
    rw [hresiduals]
    decide

/-! ## Arms and their numbers -/

/-- The number that an arm had before a step.  Arms that the step places had none;
negative numbers, which stand for leaving a loop, never change. -/
def numberBeforeStep? (c : Choice (Expr S)) : Step S → Int → Option Int
  | .report _ _ _, number => some number
  | .setGreedy _, number => some number
  | .insert .front _ operand role, number =>
    if number < 0 then some number
    else if number < (operand.batch role).arms.length then none
    else some (number - (operand.batch role).arms.length)
  | .insert .back _ _ _, number => if number < c.arms.length then some number else none

/-- The number that an arm had before a run. -/
def numberBefore? (c : Choice (Expr S)) : List (Step S) → Int → Option Int
  | [], number => some number
  | step :: rest, number =>
    ((c.perform step).numberBefore? rest number).bind (c.numberBeforeStep? step)

/-- All these arms were together in one set that a call of the run reported; each arm
is looked up under the number that it had at that time. -/
def ToldTogether (c : Choice (Expr S)) (steps : List (Step S)) (arms : List Int) : Prop :=
  ∃ earlier listed mask suppressExit since,
    steps = earlier ++ .report listed mask suppressExit :: since ∧
    ((c.after earlier).report listed mask suppressExit).1 = true ∧
    ∀ a ∈ arms, ∃ b ∈ (c.after earlier).residual listed mask suppressExit,
      (c.after earlier).numberBefore? (.report listed mask suppressExit :: since) a = some b

/-- A step that leaves the numbers of reported arms alone: a call lists arms that are
there, and arms are placed in front only while nothing was reported. -/
def KeepsNumbersAt (c : Choice (Expr S)) : Step S → Prop
  | .report arms _ _ => ∀ a ∈ arms, a < c.arms.length
  | .setGreedy _ => True
  | .insert .front _ operand role => c.reported = [] ∨ (operand.batch role).arms = []
  | .insert .back _ _ _ => True

/-- A run whose steps leave the numbers of reported arms alone. -/
def KeepsNumbers (c : Choice (Expr S)) : List (Step S) → Prop
  | [] => True
  | step :: rest => c.KeepsNumbersAt step ∧ (c.perform step).KeepsNumbers rest

section Numbers

variable {c : Choice (Expr S)} {step : Step S} {steps : List (Step S)} {known : List Int}

/-- Numbers are followed back through the later part of a run first. -/
theorem numberBefore?_append (c : Choice (Expr S)) (steps more : List (Step S)) (number : Int) :
    c.numberBefore? (steps ++ more) number =
      ((c.after steps).numberBefore? more number).bind (c.numberBefore? steps) := by
  induction steps generalizing c with
  | nil => simp [numberBefore?]
  | cons step rest ih => simp [numberBefore?, ih, Option.bind_assoc]

/-- A run keeps numbers if its first part does and its later part does from there. -/
theorem keepsNumbers_append {more : List (Step S)} :
    c.KeepsNumbers (steps ++ more) ↔
      c.KeepsNumbers steps ∧ (c.after steps).KeepsNumbers more := by
  induction steps generalizing c with
  | nil => simp [KeepsNumbers]
  | cons step rest ih => simp [KeepsNumbers, ih, and_assoc]

/-- No step takes arms away. -/
theorem length_arms_le_perform (c : Choice (Expr S)) (step : Step S) :
    c.arms.length ≤ (c.perform step).arms.length := by
  cases step with
  | report arms mask suppressExit =>
    have hsame : (c.report arms mask suppressExit).2.arms = c.arms := by
      rcases c.report_cases arms mask suppressExit with ⟨heq, -, -⟩ | ⟨heq, -⟩ <;> simp only [heq]
    exact Nat.le_of_eq (congrArg List.length hsame.symm)
  | setGreedy greedy => exact Nat.le_refl _
  | insert side ordered operand role =>
    rw [perform, length_arms_insert]
    exact Nat.le_add_right _ _

/-- What is a number of an arm stays one. -/
theorem lt_length_arms_after_append {a : Int} (h : a < (c.after steps).arms.length) :
    a < (c.after (steps ++ [step])).arms.length := by
  have hle := (c.after steps).length_arms_le_perform step
  rw [after_append]
  exact Int.lt_of_lt_of_le h (Int.ofNat_le.mpr hle)

/-- What is remembered after a step was remembered before, or the step reported it. -/
theorem mem_reported_perform (h : known ∈ (c.perform step).reported) :
    known ∈ c.reported ∨ ∃ arms mask suppressExit, step = .report arms mask suppressExit ∧
      (c.report arms mask suppressExit).1 = true ∧
      known = c.residual arms mask suppressExit := by
  cases step with
  | report arms mask suppressExit =>
    rcases c.report_cases arms mask suppressExit with ⟨heq, -, -⟩ | ⟨heq, -⟩
    · rw [perform, heq] at h
      rcases List.mem_append.mp h with h | h
      · exact Or.inl h
      · exact Or.inr ⟨arms, mask, suppressExit, rfl, by rw [heq], List.mem_singleton.mp h⟩
    · rw [perform, heq] at h
      exact Or.inl h
  | setGreedy greedy => exact Or.inl h
  | insert side ordered operand role =>
    left
    cases side <;> exact h

/-- With a memory, a step that keeps numbers keeps the number of every arm. -/
theorem numberBeforeStep?_eq_self (hkeeps : c.KeepsNumbersAt step) (hmemory : c.reported ≠ [])
    {a : Int} (ha : a < c.arms.length) : c.numberBeforeStep? step a = some a := by
  cases step with
  | report arms mask suppressExit => rfl
  | setGreedy greedy => rfl
  | insert side ordered operand role =>
    cases side with
    | front =>
      have hnone : (operand.batch role).arms = [] := hkeeps.resolve_left hmemory
      by_cases hneg : a < 0
      · exact if_pos hneg
      · simp [numberBeforeStep?, hnone, hneg]
    | back => exact if_pos ha

/-- A set that a call of the run reported, whose arms have the same numbers since. -/
structure Kept (c : Choice (Expr S)) (steps : List (Step S)) (known : List Int) : Prop where
  told : ∃ earlier listed mask suppressExit since,
    steps = earlier ++ .report listed mask suppressExit :: since ∧
    ((c.after earlier).report listed mask suppressExit).1 = true ∧
    known = (c.after earlier).residual listed mask suppressExit ∧
    ∀ a ∈ known,
      (c.after earlier).numberBefore? (.report listed mask suppressExit :: since) a = some a
  lt_length : ∀ a ∈ known, a < (c.after steps).arms.length

/-- What a call reports now has its numbers now. -/
theorem Kept.of_report {arms : List Int} {mask : Nat} {suppressExit : Bool}
    (hkeeps : (c.after steps).KeepsNumbersAt (.report arms mask suppressExit))
    (h : ((c.after steps).report arms mask suppressExit).1 = true) :
    c.Kept (steps ++ [.report arms mask suppressExit])
      ((c.after steps).residual arms mask suppressExit) := by
  refine ⟨⟨steps, arms, mask, suppressExit, [], rfl, h, rfl, fun a ha => rfl⟩, ?_⟩
  intro a ha
  exact lt_length_arms_after_append (hkeeps a (residual_subset ha))

/-- What was reported keeps its numbers through a step that keeps numbers. -/
theorem Kept.append (h : c.Kept steps known) (hkeeps : (c.after steps).KeepsNumbersAt step)
    (hmemory : (c.after steps).reported ≠ []) : c.Kept (steps ++ [step]) known := by
  obtain ⟨⟨earlier, listed, mask, suppressExit, since, rfl, htold, hknown, hnumber⟩, hlt⟩ := h
  refine ⟨⟨earlier, listed, mask, suppressExit, since ++ [step], by simp, htold, hknown, ?_⟩, ?_⟩
  · intro a ha
    rw [← List.cons_append, numberBefore?_append, ← after_append]
    have hstep := numberBeforeStep?_eq_self hkeeps hmemory (hlt a ha)
    simp only [numberBefore?, Option.bind_some, hstep]
    exact hnumber a ha
  · intro a ha
    exact lt_length_arms_after_append (hlt a ha)

/-- In a run that keeps numbers all that is remembered was reported, and its arms
have the same numbers since. -/
theorem kept_of_mem_reported (hfresh : c.reported = []) (hkeeps : c.KeepsNumbers steps)
    (hknown : known ∈ (c.after steps).reported) : c.Kept steps known := by
  induction steps using List.reverseRecOn generalizing known with
  | nil =>
    rw [after_nil, hfresh] at hknown
    cases hknown
  | append_singleton steps step ih =>
    rw [keepsNumbers_append] at hkeeps
    obtain ⟨hsteps, hstep, -⟩ := hkeeps
    rw [after_append] at hknown
    rcases mem_reported_perform hknown with hold | ⟨arms, mask, suppressExit, rfl, htold, rfl⟩
    · exact (ih hsteps hold).append hstep (List.ne_nil_of_mem hold)
    · exact .of_report hstep htold

end Numbers

/-- In a run that starts without memory and keeps the numbers of reported arms, a call
stays silent about a residual only if all its arms were told together before. -/
theorem silent_only_about_told_arms {c : Choice (Expr S)} {steps : List (Step S)}
    (hfresh : c.reported = []) (hkeeps : c.KeepsNumbers steps) {arms : List Int} {mask : Nat}
    {suppressExit : Bool} (hrest : (c.after steps).residual arms mask suppressExit ≠ [])
    (hsilent : ((c.after steps).report arms mask suppressExit).1 = false) :
    c.ToldTogether steps ((c.after steps).residual arms mask suppressExit) := by
  rcases (c.after steps).report_cases arms mask suppressExit with ⟨heq, -, -⟩ | ⟨-, hpart⟩
  · rw [heq] at hsilent
    cases hsilent
  · obtain ⟨known, hknown, hpart⟩ := hpart.resolve_left hrest
    obtain ⟨earlier, listed, mask', suppressExit', since, hsteps, htold, rfl, hnumber⟩ :=
      (kept_of_mem_reported hfresh hkeeps hknown).told
    refine ⟨earlier, listed, mask', suppressExit', since, hsteps, htold, ?_⟩
    intro a ha
    exact ⟨a, hpart ha, hnumber a (hpart ha)⟩

/-- The alternatives `a | b`: an arm is placed in front before the first report and one
behind after it, and the call that lists the reported arms the other way round stays
silent. -/
theorem silent_only_about_told_arms_joined :
    let call (k : Nat) : Expr TokenClass := .ofKind none (.call ⟨⟨k⟩, "r", []⟩)
    let c : Choice (Expr TokenClass) :=
      { repetition := .once, arms := [call 0, call 1], seams := [⟨0, 1, 2, false⟩] }
    let steps : List (Step TokenClass) :=
      [.insert .front false (call 2) .ordinary, .report [0, 1] 0 false,
        .insert .back false (call 3) .ordinary]
    c.reported = [] ∧ c.KeepsNumbers steps ∧ (c.after steps).residual [1, 0] 0 false = [1, 0] ∧
      ((c.after steps).report [1, 0] 0 false).1 = false ∧ c.ToldTogether steps [1, 0] := by
  intro call c steps
  have hlisted : ∀ a ∈ ([0, 1] : List Int), a < 3 := by decide
  have hkeeps : c.KeepsNumbers steps := ⟨Or.inl rfl, hlisted, trivial, trivial⟩
  have hrest : (c.after steps).residual [1, 0] 0 false = [1, 0] := by decide
  have hsilent : ((c.after steps).report [1, 0] 0 false).1 = false := by decide
  have htold := silent_only_about_told_arms (c := c) rfl hkeeps (by decide) hsilent
  exact ⟨rfl, hkeeps, hrest, hsilent, hrest ▸ htold⟩

/-- The alternatives `a | b`, reported and then extended to `x | a | b`: a call about
`x` and `a` stays silent, though `x` was never told. -/
theorem silent_about_arm_in_front :
    let call (k : Nat) : Expr TokenClass := .ofKind none (.call ⟨⟨k⟩, "r", []⟩)
    let c : Choice (Expr TokenClass) :=
      { repetition := .once, arms := [call 0, call 1], seams := [⟨0, 1, 2, false⟩] }
    let steps : List (Step TokenClass) :=
      [.report [0, 1] 0 false, .insert .front false (call 2) .ordinary]
    c.reported = [] ∧ (c.after steps).residual [0, 1] 0 false = [0, 1] ∧
      ((c.after steps).report [0, 1] 0 false).1 = false ∧ ¬ c.ToldTogether steps [0, 1] := by
  intro call c steps
  refine ⟨rfl, by decide, by decide, ?_⟩
  rintro ⟨earlier, listed, mask, suppressExit, since, hsteps, -, hnumber⟩
  cases earlier with
  | nil =>
    simp only [steps, List.nil_append, List.cons.injEq] at hsteps
    obtain ⟨hcall, rfl⟩ := hsteps
    cases hcall
    -- the arm in front did not exist when the only call was made
    obtain ⟨b, -, hb⟩ := hnumber 0 (by simp)
    cases hb
  | cons first rest =>
    simp [steps, List.cons_eq_append_iff] at hsteps

end GrammarTree.Choice
