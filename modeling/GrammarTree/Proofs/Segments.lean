import GrammarTree.Proofs.NodeChange
import GrammarTree.Proofs.PrintingBounds
import GrammarTree.Symbol.TokenClass

/-!
# Segments of a printed choice

A choice is printed in segments: its arms, the exit if leaving is the default, and the
error branch.  One operator stands between two neighbours.  What is printed behind the
arms learns only from the number of arms whether something stands in front of it, so in
a loop without arms the exit and the error branch run together.

Main results:

- Definition `Choice.segments`: the segments of a choice in the order of printing.
- Theorem `Choice.Sound.plain_behind`: no group opens or closes behind the arms.
- Theorem `Choice.Reachable.separated_iff`: the text of a choice is the row of its
  segments, unless the exit and the error branch are all that is printed.
-/

namespace GrammarTree

/-! ## Groups lie within the arms -/

namespace Seam

variable {count : Nat} {before after : List Seam} {groups : List (Int × Int)}

/-- A group among `count` arms. -/
def GroupWithin (count : Nat) (g : Int × Int) : Prop :=
  0 ≤ g.1 ∧ g.1 < g.2 ∧ g.2 ≤ count

/-- A side of a `/` is added as a group only if it lies within the arms. -/
theorem addGroup_within (lo hi : Int) (h : ∀ g ∈ groups, GroupWithin count g) :
    ∀ g ∈ addGroup count before after lo hi groups, GroupWithin count g := by
  unfold addGroup
  split
  · exact h
  · rename_i hskip
    have hwide : lo < hi := by
      simp only [Bool.or_eq_true, decide_eq_true_eq, not_or] at hskip
      omega
    split
    · split
      · rename_i hfits
        simp only [Bool.and_eq_true, decide_eq_true_eq] at hfits
        exact List.forall_mem_cons.mpr ⟨⟨hfits.1.2, hwide, hfits.2⟩, h⟩
      · exact h
    · exact h

/-- All groups of a ledger lie within the arms, whatever the ledger says. -/
theorem groupsFrom_within (seams : List Seam) (h : ∀ g ∈ groups, GroupWithin count g) :
    ∀ g ∈ groupsFrom count before seams groups, GroupWithin count g := by
  induction seams generalizing before groups with
  | nil => exact h
  | cons s after ih =>
    rw [groupsFrom]
    split
    · exact ih (addGroup_within _ _ (addGroup_within _ _ h))
    · exact ih h

end Seam

/-! ## Rows without groups -/

namespace RowMarks

/-- No group opens or closes at an arm, and a `|` stands in front of it. -/
structure Plain (m : RowMarks) (index : Nat) : Prop where
  slash : m.slash index = false
  opens : m.opens index = 0
  closes : m.closes index = 0

variable {m : RowMarks} {index : Nat}

/-- A plain arm is its text. -/
theorem Plain.arm_eq (h : m.Plain index) (text : String) : m.arm index text = text := by
  simp [arm, h.opens, h.closes, Choice.repeated]

/-- Plain arms stand behind bars. -/
theorem rest_of_plain (h : ∀ i, index ≤ i → m.Plain i) (texts : List String) :
    m.rest index texts = String.join (texts.map (" | " ++ ·)) := by
  induction texts generalizing index with
  | nil => rfl
  | cons text more ih =>
    have hfirst := h index (Nat.le_refl _)
    have hmore : m.rest (index + 1) more = String.join (more.map (" | " ++ ·)) :=
      ih fun i hi => h i (by omega)
    simp [rest, separator, hfirst.slash, hfirst.arm_eq, hmore]

/-- Something stands between two segments of a row. -/
theorem length_join_lt_row (m : RowMarks) (index : Nat) (first second : String) :
    (String.join [first, second]).length < (m.row index [first, second]).length := by
  have hseparator : (m.separator (index + 1)).length = 3 := by
    unfold separator
    split <;> rfl
  simp only [row, rest, arm, String.join_cons, String.join_nil, String.length_append, hseparator]
  omega

end RowMarks

/-! ## The segments of a choice -/

namespace Choice

/-- What is printed behind the arms: the exit if it is the default, then the error
branch behind its keyword. -/
def tailSegments (c : Choice String) : List String :=
  (if c.defaultArm = some .exit then ["default exit"] else []) ++
    c.recovery.toList.map fun branch =>
      (if branch.exits then "error " else "error_continue ") ++ branch.body

/-- The segments of a choice: the arms in order, with the mark of the default, and what
is printed behind them. -/
def segments (c : Choice String) : List String :=
  c.markedArms ++ c.tailSegments

/-- Whether the exit and the error branch are all that is printed. -/
def OnlyTail {α : Type} (c : Choice α) : Prop :=
  c.arms = [] ∧ c.defaultArm = some .exit ∧ c.recovery.isSome = true

section Texts

variable {c : Choice String}

/-- Each segment behind the arms has a bar in front of it exactly if there are arms. -/
theorem renderArms_eq_join (c : Choice String) :
    c.renderArms = c.renderRow ++
      String.join (c.tailSegments.map ((if c.arms.isEmpty then "" else " | ") ++ ·)) := by
  unfold renderArms tailSegments
  by_cases hexit : c.defaultArm = some .exit
  · cases c.recovery <;> simp [hexit, String.append_assoc]
  · cases c.recovery <;> simp [hexit, String.append_assoc]

/-- Only the exit and the error branch are two segments behind the arms. -/
theorem exists_tailSegments_eq_pair (h : c.OnlyTail) :
    ∃ first second, c.tailSegments = [first, second] := by
  obtain ⟨-, hexit, hrecovery⟩ := h
  obtain ⟨branch, hbranch⟩ := Option.isSome_iff_exists.mp hrecovery
  exact ⟨_, _, by rw [tailSegments, if_pos hexit, hbranch]; rfl⟩

/-- Without arms at most one segment is printed, unless the exit and the error branch
are all that is printed. -/
theorem tailSegments_of_not_onlyTail (harms : c.arms = []) (h : ¬ c.OnlyTail) :
    c.tailSegments = [] ∨ ∃ only, c.tailSegments = [only] := by
  unfold tailSegments
  by_cases hexit : c.defaultArm = some .exit
  · have hrecovery : c.recovery = none := by
      rw [← Option.not_isSome_iff_eq_none]
      exact fun hsome => h ⟨harms, hexit, hsome⟩
    exact Or.inr ⟨_, by rw [if_pos hexit, hrecovery]; rfl⟩
  · rw [if_neg hexit]
    cases c.recovery with
    | none => exact Or.inl rfl
    | some branch => exact Or.inr ⟨_, rfl⟩

/-- A choice without arms has only the segments behind them. -/
theorem segments_of_no_arms (harms : c.arms = []) : c.segments = c.tailSegments := by
  rw [segments, markedArms, harms]
  rfl

/-- The text of a choice without arms has nothing between its segments. -/
theorem renderArms_of_no_arms (harms : c.arms = []) : c.renderArms = String.join c.segments := by
  have hrow : c.renderRow = "" := by
    rw [renderRow, harms]
    rfl
  rw [renderArms_eq_join, segments_of_no_arms harms, hrow, harms]
  simp

/-- Behind arms each segment has its operator. -/
theorem renderArms_of_arms (harms : c.arms ≠ [])
    (hplain : ∀ i, c.arms.length ≤ i → c.rowMarks.Plain i) :
    c.renderArms = c.rowMarks.row 0 c.segments := by
  have hcount : c.markedArms.length = c.arms.length := by simp [markedArms]
  have hmarked : c.markedArms ≠ [] := by
    rw [← List.length_pos_iff, hcount]
    exact List.length_pos_of_ne_nil harms
  have hbar : (if c.arms.isEmpty then "" else " | ") = " | " := by simp [harms]
  rw [renderArms_eq_join, renderRow_eq_row, hbar, ← RowMarks.rest_of_plain hplain, segments]
  cases htail : c.tailSegments with
  | nil => rw [List.append_nil, RowMarks.rest, String.append_empty]
  | cons first others =>
    rw [RowMarks.row_append _ _ hmarked (by simp), RowMarks.rest_eq_row _ _ (by simp), hcount,
      Nat.zero_add, String.append_assoc]

/-- Exactly if the exit and the error branch are all that is printed, the text is not the
row of the segments. -/
theorem renderArms_eq_row_iff (hplain : ∀ i, c.arms.length ≤ i → c.rowMarks.Plain i) :
    c.renderArms = c.rowMarks.row 0 c.segments ↔ ¬ c.OnlyTail := by
  by_cases harms : c.arms = []
  · rw [renderArms_of_no_arms harms, segments_of_no_arms harms]
    constructor
    · intro heq honly
      obtain ⟨first, second, htail⟩ := exists_tailSegments_eq_pair honly
      rw [htail] at heq
      have hlonger := c.rowMarks.length_join_lt_row 0 first second
      exact Nat.ne_of_lt hlonger (congrArg String.length heq)
    · intro honly
      rcases tailSegments_of_not_onlyTail harms honly with htail | ⟨only, htail⟩
      · rw [htail]
        rfl
      · have hfirst : c.rowMarks.Plain 0 := hplain 0 (by simp [harms])
        rw [htail, RowMarks.row, hfirst.arm_eq]
        simp [RowMarks.rest]
  · exact iff_of_true (renderArms_of_arms harms hplain) fun honly => harms honly.1

end Texts

/-! ## Reachable choices -/

/-- A seam of a sound choice stands in front of one of its arms. -/
theorem Sound.mid_bounds {α : Type} {c : Choice α} (h : c.Sound) {s : Seam} (hs : s ∈ c.seams) :
    0 ≤ s.mid ∧ s.mid < c.arms.length := by
  have hstored := h.stored s hs
  refine ⟨Int.le_trans hstored.left_nonneg hstored.left_le, ?_⟩
  by_cases hfits : c.arms.length ≤ 32767
  · have hsides := h.consistent.sides hfits s hs
    have hbounds := h.consistent.bounds s hs
    omega
  · -- there are more arms than positions that can be stored
    have hmid : s.mid ≤ 32767 := Int.le_trans hstored.mid_le hstored.right_le
    omega

/-- In a sound choice nothing but bars stands behind the arms. -/
theorem Sound.plain_behind {α : Type} {c : Choice α} (h : c.Sound) :
    ∀ i, c.arms.length ≤ i → c.rowMarks.Plain i := by
  intro i hi
  -- no group reaches behind the arms, so it is as if there were none
  have hgroups : c.rowMarks.AgreeOn (RowMarks.ofGroups c.rowMarks.slash []) c.arms.length
      (i + 1) := by
    refine RowMarks.ofGroups_agreeOn _ (List.Perm.of_eq (List.append_nil c.groups).symm) ?_
    intro g hg
    obtain ⟨hlo, hlt, hhi⟩ := Seam.groupsFrom_within c.seams (by simp) g hg
    exact ⟨hlo, hlt, Or.inl hhi⟩
  obtain ⟨-, hopens, hcloses⟩ := hgroups i hi (Nat.lt_succ_self i)
  refine ⟨?_, hopens, hcloses⟩
  rw [rowMarks, RowMarks.ofGroups, decide_eq_false_iff_not, List.count_pos_iff, List.mem_map]
  rintro ⟨s, hs, rfl⟩
  have hmid := h.mid_bounds (List.mem_filter.mp hs).1
  omega

variable {S Item : Type} [SymbolSet S Item]

/-- The choice of the texts of arms and error branch. -/
def texts (c : Choice (Expr S)) : Choice String :=
  Expr.textChoice (c.mapParts fun e => (e, e.render))

/-- The texts of a sound choice are joined like its arms. -/
theorem Sound.texts {c : Choice (Expr S)} (h : c.Sound) : c.texts.Sound :=
  h.of_map (fun e => Expr.armText (e, e.render))
    (by simp [Choice.texts, Expr.textChoice, mapParts, Function.comp_def]) rfl rfl id

/-- The texts of a choice tell whether the exit and the error branch are all of it. -/
theorem onlyTail_texts {c : Choice (Expr S)} : c.texts.OnlyTail ↔ c.OnlyTail := by
  simp [OnlyTail, texts, Expr.textChoice, mapParts]

/-- The text of a choice that the operations can build is the row of its segments, with
exactly one operator between two neighbours, unless the exit and the error branch are all
that is printed.  The mark of the default is on one of the arms, and groups stand around
arms only. -/
theorem Reachable.separated_iff {c : Choice (Expr S)} (h : Reachable c) :
    (c.texts.renderArms = c.texts.rowMarks.row 0 c.texts.segments ↔ ¬ c.OnlyTail) ∧
      (∀ i, c.defaultArm = some (.arm i) → i < c.arms.length) ∧
      ∀ i, c.arms.length ≤ i → c.texts.rowMarks.Plain i := by
  have hplain := h.sound.texts.plain_behind
  have hcount : c.texts.arms.length = c.arms.length := by
    simp [texts, Expr.textChoice, mapParts]
  refine ⟨?_, h.sound.default_lt, ?_⟩
  · rw [renderArms_eq_row_iff hplain, onlyTail_texts]
  · rwa [hcount] at hplain

/-- A star with a group, whose default is to leave, and with an error branch. -/
theorem Reachable.separated_star :
    let call (k : Nat) (name : String) : Expr TokenClass := .ofKind none (.call ⟨⟨k⟩, name, []⟩)
    let arms := ((({ repetition := .star } : Choice (Expr TokenClass)).insert .back false
      ((call 0 "A").batch .ordinary)).insert .back false
      ((call 1 "B").batch .ordinary)).insert .back true ((call 2 "C").batch .ordinary)
    let c := (arms.setDefaultExit none).2.1.insert .back false
      ((call 3 "X").batch (.recovery true))
    Reachable c ∧ ¬ c.OnlyTail ∧
      c.texts.segments = ["A", "B", "C", "default exit", "error X"] ∧
      c.texts.renderArms = c.texts.rowMarks.row 0 c.texts.segments ∧
      c.texts.renderArms = "(A | B) / C | default exit | error X" := by
  intro call arms c
  have hcall (k : Nat) (name : String) :
      ∀ inner, (call k name).choice? = some inner → Reachable inner := by
    intro inner h
    cases h
  have harms : Reachable arms :=
    (((Reachable.new .star none).insert .back false .ordinary (hcall 0 "A")).insert .back false
      .ordinary (hcall 1 "B")).insert .back true .ordinary (hcall 2 "C")
  have hc : Reachable c :=
    (harms.defaultExit none).insert .back false (.recovery true) (hcall 3 "X")
  have hsome : ¬ c.OnlyTail := fun h => absurd h.1 (List.cons_ne_nil _ _)
  exact ⟨hc, hsome, by decide, hc.separated_iff.1.mpr hsome, by decide⟩

/-- A star without arms whose default is to leave: the error branch stands right behind
the exit, so the text is no row of the two segments, whatever is grouped. -/
theorem Reachable.exit_and_recovery_run_together :
    let call : Expr TokenClass := .ofKind none (.call ⟨⟨0⟩, "A", []⟩)
    let c := (({ repetition := .star } : Choice (Expr TokenClass)).setDefaultExit
      none).2.1.insert .back false (call.batch (.recovery true))
    Reachable c ∧ c.texts.segments = ["default exit", "error A"] ∧
      c.texts.renderArms = "default exiterror A" ∧
      ∀ m : RowMarks, c.texts.renderArms ≠ m.row 0 c.texts.segments := by
  intro call c
  have hcall : ∀ inner, call.choice? = some inner → Reachable inner := by
    intro inner h
    cases h
  have hc : Reachable c :=
    ((Reachable.new .star none).defaultExit none).insert .back false (.recovery true) hcall
  have hsegments : c.texts.segments = ["default exit", "error A"] := by decide
  have htext : c.texts.renderArms = String.join c.texts.segments := renderArms_of_no_arms rfl
  refine ⟨hc, hsegments, by rw [htext, hsegments]; rfl, ?_⟩
  intro m heq
  rw [htext, hsegments] at heq
  exact Nat.ne_of_lt (m.length_join_lt_row 0 _ _) (congrArg String.length heq)

end Choice

end GrammarTree
