import Mathlib.Data.Nat.PSub
import GrammarTree.Expr.Printer
import GrammarTree.Proofs.Everywhere
import GrammarTree.Proofs.Grouping
import GrammarTree.Proofs.Reachable

/-!
# Printing within bounds

The parentheses of a row are counted in two tables with one place for each arm, and
widths of runs are computed in sixteen bits.  The printer of this module fails where
it would reach for a place that a table does not have or leave the sixteen bits.

Ledgers of trees do not let it fail.  They need not tell the tree: positions behind
the greatest one that can be stored are all the same, but they still stand in order.

Main results:

- Definitions `Choice.renderRow?` and `Expr.render?`: rows and expressions, unless printing
  them fails.
- Theorem `Seam.groupsFrom?_eq`: stored positions never make counting fail.
- Theorem `Choice.Sound.stored`: the ledger of a sound choice has stored positions.
- Theorem `Expr.render?_eq`: an expression whose choices are sound is always printed.
-/

namespace GrammarTree

/-- If nothing fails for the members of a list, nothing fails for the list. -/
theorem mapM_some_of_forall {α β : Type} {f : α → Option β} {g : α → β} {l : List α}
    (h : ∀ a ∈ l, f a = some (g a)) : l.mapM f = some (l.map g) := by
  induction l with
  | nil => rfl
  | cons a rest ih =>
    obtain ⟨ha, hrest⟩ := List.forall_mem_cons.mp h
    simp [List.mapM_cons, ha, ih hrest]

/-! ## Counting in tables -/

/-- Count one more at a place of a table, if the table has it. -/
def countUp? (table : Array Nat) (i : Nat) : Option (Array Nat) :=
  if i < table.size then some (table.modify i (· + 1)) else none

/-- A tally has the places it is made for. -/
theorem size_tally (count : Nat) (numbers : List Nat) : (tally count numbers).size = count := by
  have hsize (table : Array Nat) :
      (numbers.foldl (fun table i => table.modify i (· + 1)) table).size = table.size := by
    induction numbers generalizing table with
    | nil => rfl
    | cons i rest ih => rw [List.foldl_cons, ih, Array.size_modify]
  rw [tally, hsize, Array.size_replicate]

/-- One number more is one up at its place. -/
theorem tally_cons (count i : Nat) (numbers : List Nat) :
    tally count (i :: numbers) = (tally count numbers).modify i (· + 1) := by
  apply Array.ext_getElem?
  intro j
  rw [Array.getElem?_modify, tally, getElem?_foldl_modify, tally, getElem?_foldl_modify,
    List.count_cons]
  by_cases h : i = j
  · simp [h, Function.comp_def, Nat.add_assoc]
  · simp [h]

/-- Counting a number below the bound of a tally works. -/
theorem countUp?_tally {count i : Nat} (numbers : List Nat) (h : i < count) :
    countUp? (tally count numbers) i = some (tally count (i :: numbers)) := by
  rw [countUp?, size_tally, if_pos h, tally_cons]

/-- The groups that were found, and how many of them open and close at each arm. -/
structure GroupTable where
  opens : Array Nat
  closes : Array Nat
  groups : List (Int × Int)

namespace GroupTable

/-- The table of a list of groups among `count` arms. -/
def ofGroups (count : Nat) (groups : List (Int × Int)) : GroupTable where
  opens := tally count (groups.map fun g => g.1.toNat)
  closes := tally count (groups.map fun g => g.2.toNat - 1)
  groups := groups

/-- Count the run from `lo` to `hi` as a group, if the table has places for both ends. -/
def addRun? (table : GroupTable) (lo hi : Int) : Option GroupTable := do
  let opens ← countUp? table.opens lo.toNat
  let last ← hi.toNat.ppred
  let closes ← countUp? table.closes last
  return ⟨opens, closes, (lo, hi) :: table.groups⟩

/-- A run within the arms has places for both ends. -/
theorem addRun?_ofGroups {count : Nat} {lo hi : Int} (groups : List (Int × Int)) (hlo : 0 ≤ lo)
    (hlt : lo < hi) (hhi : hi ≤ count) :
    (ofGroups count groups).addRun? lo hi = some (ofGroups count ((lo, hi) :: groups)) := by
  have hopens := countUp?_tally (groups.map fun g => g.1.toNat) (show lo.toNat < count by omega)
  have hlast : hi.toNat.ppred = some (hi.toNat - 1) := Nat.ppred_eq_some.mpr (by omega)
  have hcloses := countUp?_tally (groups.map fun g => g.2.toNat - 1)
    (show hi.toNat - 1 < count by omega)
  simp [addRun?, ofGroups, hopens, hlast, hcloses]

end GroupTable

/-! ## Finding groups -/

namespace Seam

/-- The number of arms from `lo` to `hi`, if it can be stored. -/
def width? (lo hi : Int) : Option Int :=
  if least ≤ hi - lo ∧ hi - lo ≤ greatest then some (hi - lo) else none

/-- Add the run from `lo` to `hi` to a table if it was joined with `|`. -/
def addGroup? (count : Nat) (before after : List Seam) (lo hi : Int) (table : GroupTable) :
    Option GroupTable :=
  (width? lo hi).bind fun width =>
    if width < 2 || table.groups.contains (lo, hi) then some table
    else
      match joiner? before after lo hi with
      | some s =>
        if !s.ordered && 0 ≤ lo && hi ≤ count then table.addRun? lo hi else some table
      | none => some table

/-- Add the groups at both sides of a `/` to a table. -/
def addSides? (count : Nat) (before after : List Seam) (s : Seam) (table : GroupTable) :
    Option GroupTable :=
  if s.ordered then
    (addGroup? count before after s.left s.mid table).bind
      (addGroup? count before after s.mid s.right)
  else some table

/-- Add the groups at both sides of every `/` in a ledger to a table. -/
def groupsFrom? (count : Nat) (before : List Seam) :
    List Seam → GroupTable → Option GroupTable
  | [], table => some table
  | s :: after, table =>
    (addSides? count before after s table).bind (groupsFrom? count (s :: before) after)

/-- The positions of a seam stand in order, and all of them can be stored. -/
structure Stored (s : Seam) : Prop where
  left_nonneg : 0 ≤ s.left
  left_le : s.left ≤ s.mid
  mid_le : s.mid ≤ s.right
  right_le : s.right ≤ greatest

variable {count : Nat} {before after : List Seam} {lo hi : Int}

/-- The distance of two positions that can be stored can be stored. -/
theorem width?_eq (hlo : 0 ≤ lo) (hle : lo ≤ hi) (hhi : hi ≤ greatest) :
    width? lo hi = some (hi - lo) := by
  refine if_pos ?_
  simp only [least, greatest] at hhi ⊢
  omega

/-- Between stored positions a group is found without fail.  Stored positions may lie
behind the last arm; such runs are not counted. -/
theorem addGroup?_eq (groups : List (Int × Int)) (hlo : 0 ≤ lo) (hle : lo ≤ hi)
    (hhi : hi ≤ greatest) :
    addGroup? count before after lo hi (.ofGroups count groups) =
      some (.ofGroups count (addGroup count before after lo hi groups)) := by
  unfold addGroup? addGroup
  rw [width?_eq hlo hle hhi, Option.bind_some]
  change (if (hi - lo < 2 || groups.contains (lo, hi)) = true then _ else _) = _
  split_ifs with hskip
  · rfl
  · have hwide : 2 ≤ hi - lo := by
      simp only [Bool.or_eq_true, decide_eq_true_eq, not_or] at hskip
      omega
    cases joiner? before after lo hi with
    | none => rfl
    | some s =>
      dsimp only
      split_ifs with hgroup
      · have hfits : hi ≤ count := by
          simp only [Bool.and_eq_true, decide_eq_true_eq] at hgroup
          exact hgroup.2
        exact GroupTable.addRun?_ofGroups groups hlo (by omega) hfits
      · rfl

/-- In a ledger of stored positions all groups are found without fail. -/
theorem groupsFrom?_eq {seams : List Seam} (h : ∀ s ∈ seams, s.Stored)
    (groups : List (Int × Int)) :
    groupsFrom? count before seams (.ofGroups count groups) =
      some (.ofGroups count (groupsFrom count before seams groups)) := by
  induction seams generalizing before groups with
  | nil => rfl
  | cons s after ih =>
    obtain ⟨⟨hleft, hmid, hright, hfits⟩, hafter⟩ := List.forall_mem_cons.mp h
    have hsides : addSides? count before after s (.ofGroups count groups) =
        some (.ofGroups count (if s.ordered then
          addGroup count before after s.mid s.right
            (addGroup count before after s.left s.mid groups)
          else groups)) := by
      unfold addSides?
      split_ifs
      · rw [addGroup?_eq groups hleft hmid (by omega), Option.bind_some,
          addGroup?_eq _ (by omega) hright hfits]
      · rfl
    rw [groupsFrom?, hsides, Option.bind_some, ih hafter, groupsFrom]

end Seam

/-! ## Rows -/

namespace Choice

/-- One arm in the row, if the tables have a place for it. -/
def renderArm? (c : Choice String) (slashes : Array Nat) (table : GroupTable)
    (part : String × Nat) : Option String := do
  let _ ← table.opens[part.2]?
  let _ ← table.closes[part.2]?
  return c.renderArm slashes table.opens table.closes part.2 part.1

/-- The arms in a row, unless printing them reaches outside a table or a width cannot be
stored. -/
def renderRow? (c : Choice String) : Option String := do
  let count := c.arms.length
  let table ← Seam.groupsFrom? count [] c.seams
    ⟨Array.replicate count 0, Array.replicate count 0, []⟩
  let slashes := tally count
    ((c.seams.filter fun s => s.ordered && 0 ≤ s.mid).map fun s => s.mid.toNat)
  let parts ← c.arms.zipIdx.mapM (c.renderArm? slashes table)
  return String.join parts

/-- An arm is printed if its table has a place for each arm. -/
theorem renderArm?_eq (c : Choice String) (slashes : Array Nat) {count : Nat}
    (groups : List (Int × Int)) {part : String × Nat} (h : part.2 < count) :
    c.renderArm? slashes (.ofGroups count groups) part =
      some (c.renderArm slashes (GroupTable.ofGroups count groups).opens
        (GroupTable.ofGroups count groups).closes part.2 part.1) := by
  have hplace (numbers : List Nat) : ∃ n, (tally count numbers)[part.2]? = some n :=
    ⟨_, Array.getElem?_eq_getElem (by rwa [size_tally])⟩
  obtain ⟨opens, hopens⟩ := hplace (groups.map fun g => g.1.toNat)
  obtain ⟨closes, hcloses⟩ := hplace (groups.map fun g => g.2.toNat - 1)
  simp [renderArm?, GroupTable.ofGroups, hopens, hcloses]

/-- The row of a choice with stored positions is printed without fail. -/
theorem renderRow?_eq {c : Choice String} (h : ∀ s ∈ c.seams, s.Stored) :
    c.renderRow? = some c.renderRow := by
  have hgroups : Seam.groupsFrom? c.arms.length [] c.seams
      ⟨Array.replicate c.arms.length 0, Array.replicate c.arms.length 0, []⟩ =
        some (.ofGroups c.arms.length c.groups) :=
    Seam.groupsFrom?_eq h []
  have harms (slashes : Array Nat) :
      c.arms.zipIdx.mapM (c.renderArm? slashes (.ofGroups c.arms.length c.groups)) =
        some (c.arms.zipIdx.map fun part => c.renderArm slashes
          (GroupTable.ofGroups c.arms.length c.groups).opens
          (GroupTable.ofGroups c.arms.length c.groups).closes part.2 part.1) := by
    refine mapM_some_of_forall ?_
    intro part hpart
    exact c.renderArm?_eq slashes c.groups (by simpa using List.snd_lt_of_mem_zipIdx hpart)
  simp only [renderRow?, hgroups, harms, Option.bind_eq_bind, Option.bind_some]
  rfl

/-- The ledger of a sound choice has stored positions, however many arms it has. -/
theorem Sound.stored {α : Type} {c : Choice α} (h : c.Sound) : ∀ s ∈ c.seams, s.Stored := by
  obtain ⟨t, -, hseams⟩ := h.joined
  rw [hseams]
  cases t with
  | none => simp [JoinTree.ledgerOf]
  | some t =>
    intro s hs
    obtain ⟨u, hu, rfl⟩ := List.mem_map.mp hs
    have hbounds := JoinTree.bounds_of_mem_seamsFrom hu
    have hleft := Seam.clamp_eq_min (n := u.left) (by omega)
    have hmid := Seam.clamp_eq_min (n := u.mid) (by omega)
    have hright := Seam.clamp_eq_min (n := u.right) (by omega)
    refine ⟨?_, ?_, ?_, ?_⟩ <;> simp only [Seam.clamped, Seam.greatest] at * <;> omega

end Choice

/-! ## Expressions -/

/-- The choice over the results for its parts, if there is a result for each of them. -/
def Choice.mapOption {α β : Type} (f : α → Option β) (c : Choice α) : Option (Choice β) := do
  let arms ← c.arms.mapM f
  let recovery ← c.recovery.mapM fun branch => (f branch.body).map fun body => ⟨body, branch.exits⟩
  return { c with arms, recovery }

namespace Kind

variable {S α β γ : Type}

/-- The construct over the results for its parts, if there is a result for each of
them. -/
def mapOption (f : α → Option β) : Kind S α → Option (Kind S β)
  | terminal set => some (terminal set)
  | sequence items => (items.mapM f).map sequence
  | choice c => (c.mapOption f).map choice
  | gate g => do
    let predictor ← f g.predictor
    let matcher ← f g.matcher
    return gate ⟨predictor, matcher, g.isEquivalence⟩
  | assertion ⟨.ahead body, negated, isLocal, settled⟩ =>
    (f body).map fun body => assertion ⟨.ahead body, negated, isLocal, settled⟩
  | assertion ⟨.code text, negated, isLocal, settled⟩ =>
    some (assertion ⟨.code text, negated, isLocal, settled⟩)
  | call c => some (call c)
  | ruleEnd e => some (ruleEnd e)
  | defaultError => some defaultError

/-- If there is a result for each part, there is one for the construct. -/
theorem mapOption_map {f : β → Option γ} {part : α → β} {g : α → γ} {k : Kind S α}
    (h : ∀ a ∈ k.children, f (part a) = some (g a)) :
    (k.map part).mapOption f = some (k.map g) := by
  have hlist {l : List α} (hl : ∀ a ∈ l, f (part a) = some (g a)) :
      l.mapM (f ∘ part) = some (l.map g) := mapM_some_of_forall hl
  match k with
  | .terminal _ => rfl
  | .sequence items =>
    have hitems := hlist (l := items) h
    simp [map, mapOption, hitems]
  | .choice ⟨_, _, arms, _, none, _, _⟩ =>
    have harms := hlist (l := arms) fun a ha => h a (List.mem_append_left _ ha)
    simp [map, mapOption, Choice.mapOption, harms]
  | .choice ⟨_, _, arms, _, some branch, _, _⟩ =>
    have harms := hlist (l := arms) fun a ha => h a (List.mem_append_left _ ha)
    have hbody := h branch.body (List.mem_append_right _ (List.mem_singleton_self _))
    simp [map, mapOption, Choice.mapOption, harms, hbody]
  | .gate g =>
    have hpredictor := h g.predictor (by simp [children])
    have hmatcher := h g.matcher (by simp [children])
    simp [map, mapOption, hpredictor, hmatcher]
  | .assertion ⟨.ahead body, _, _, _⟩ =>
    have hbody := h body (by simp [children])
    simp [map, mapOption, hbody]
  | .assertion ⟨.code _, _, _, _⟩ => rfl
  | .call _ => rfl
  | .ruleEnd _ => rfl
  | .defaultError => rfl

/-- A construct that is sound if it is a choice. -/
def Sound : Kind S α → Prop
  | choice c => c.Sound
  | _ => True

end Kind

namespace Expr

variable {S Item : Type} [SymbolSet S Item]

/-- The text of a construct whose parts come with their texts, unless the row of a choice
is not printed.  The row of a loop that shows its only arm bare is asked for, too. -/
def renderKind? : Kind S (Expr S × String) → Option String
  | .choice c => (textChoice c).renderRow?.map fun _ => renderChoice c
  | k => some (renderKind k)

/-- The text of an expression, unless a row in it is not printed. -/
def render? : Expr S → Option String :=
  para fun n k => do
    let parts ← k.mapOption fun part => part.2.map fun text => (part.1, text)
    let text ← renderKind? parts
    return withCode n parts.needsGroup text

/-- At a node the text comes from the texts of the parts. -/
theorem render_node (n : Notes) (k : Kind S (Expr S)) :
    (node n k).render = withCode n (k.map fun e => (e, render e)).needsGroup
      (renderKind (k.map fun e => (e, render e))) :=
  para_node _ n k

/-- At a node printing fails if it fails for a part or for the node itself. -/
theorem render?_node (n : Notes) (k : Kind S (Expr S)) :
    (node n k).render? = (do
      let parts ← (k.map fun e => (e, render? e)).mapOption fun part =>
        part.2.map fun text => (part.1, text)
      let text ← renderKind? parts
      return withCode n parts.needsGroup text) :=
  para_node _ n k

/-- The text of a sound construct is printed without fail. -/
theorem renderKind?_map {k : Kind S (Expr S)} (h : k.Sound) (text : Expr S → String) :
    renderKind? (k.map fun e => (e, text e)) = some (renderKind (k.map fun e => (e, text e))) := by
  match k with
  | .choice c =>
    have hrow := Choice.renderRow?_eq (c := textChoice { c with
      arms := c.arms.map fun e => (e, text e)
      recovery := c.recovery.map fun branch => ⟨(branch.body, text branch.body), branch.exits⟩ })
      h.stored
    simp [renderKind?, Kind.map, hrow, renderKind]
  | .assertion ⟨.ahead _, _, _, _⟩ => rfl
  | .assertion ⟨.code _, _, _, _⟩ => rfl
  | .terminal _ | .sequence _ | .gate _ | .call _ | .ruleEnd _ | .defaultError => rfl

/-- An expression in which every choice is sound is printed without fail. -/
theorem render?_eq {e : Expr S} (h : e.Everywhere Kind.Sound) : e.render? = some e.render := by
  induction e using Expr.induction with
  | step n k ih =>
    obtain ⟨hroot, hparts⟩ := everywhere_node.mp h
    have hcollect : (k.map fun e => (e, render? e)).mapOption
        (fun part => part.2.map fun text => (part.1, text)) =
          some (k.map fun e => (e, render e)) := by
      refine Kind.mapOption_map ?_
      intro part hpart
      rw [ih part hpart (hparts part hpart), Option.map_some]
    rw [render?_node, hcollect, Option.bind_eq_bind, Option.bind_some, renderKind?_map hroot,
      render_node]
    rfl

end Expr

end GrammarTree
