import GrammarTree.Proofs.Nullability
import GrammarTree.Proofs.PrintingBounds

/-!
# Changes of single nodes

Copying a tree, discarding what an analysis left in it and comparing two trees have one
thing in common: each node is changed on its own, and the tree keeps its shape.  Two such
changes of a tree are one change, so what they do to a tree is seen at a single node.

A change is cosmetic if it keeps all user code and touches nothing but findings, savers and
what analyses collect in constructs.  No text and no nullability depends on these.

Main results:

- Definition `Expr.mapNodes`: a tree with every node changed.
- Theorem `Expr.mapNodes_mapNodes`: two changes one after the other are one.
- Theorem `Expr.nodes_mapNodes`: the nodes of the new tree are the changed nodes.
- Theorems `NodeChange.Cosmetic.render_mapNodes` and
  `NodeChange.Cosmetic.nullable_mapNodes`: a cosmetic change shows neither in the text nor
  in the nullability of a tree.
-/

namespace GrammarTree

variable {S Item α β γ : Type}

/-! ## Constructs over changed parts -/

/-- The choice over other parts. -/
def Choice.mapParts (f : α → β) (c : Choice α) : Choice β :=
  { c with
    arms := c.arms.map f
    recovery := c.recovery.map fun branch => ⟨f branch.body, branch.exits⟩ }

namespace Kind

/-- The parts of a choice are its arms and its error branch. -/
theorem map_choice (f : α → β) (c : Choice α) :
    (choice c : Kind S α).map f = choice (c.mapParts f) :=
  rfl

/-- Changing the parts twice is changing them once. -/
theorem map_map (f : α → β) (g : β → γ) (k : Kind S α) :
    (k.map f).map g = k.map fun a => g (f a) := by
  match k with
  | .terminal _ => rfl
  | .sequence _ => simp [map]
  | .choice ⟨_, _, _, _, none, _, _⟩ => simp [map]
  | .choice ⟨_, _, _, _, some _, _, _⟩ => simp [map]
  | .gate _ => rfl
  | .assertion ⟨.ahead _, _, _, _⟩ => rfl
  | .assertion ⟨.code _, _, _, _⟩ => rfl
  | .call _ => rfl
  | .ruleEnd _ => rfl
  | .defaultError => rfl

/-- Changes that agree on the parts give the same construct. -/
theorem map_congr {f g : α → β} {k : Kind S α} (h : ∀ a ∈ k.children, f a = g a) :
    k.map f = k.map g := by
  match k with
  | .terminal _ => rfl
  | .sequence items =>
    have hitems : items.map f = items.map g := List.map_congr_left h
    simp only [map, hitems]
  | .choice ⟨_, _, arms, _, none, _, _⟩ =>
    have harms : arms.map f = arms.map g :=
      List.map_congr_left fun a ha => h a (List.mem_append_left _ ha)
    simp only [map, harms, Option.map_none]
  | .choice ⟨_, _, arms, _, some branch, _, _⟩ =>
    have harms : arms.map f = arms.map g :=
      List.map_congr_left fun a ha => h a (List.mem_append_left _ ha)
    have hbody := h branch.body (List.mem_append_right _ (List.mem_singleton_self _))
    simp only [map, harms, hbody, Option.map_some]
  | .gate g =>
    have hpredictor := h g.predictor (by simp [children])
    have hmatcher := h g.matcher (by simp [children])
    simp only [map, hpredictor, hmatcher]
  | .assertion ⟨.ahead body, _, _, _⟩ =>
    have hbody := h body (by simp [children])
    simp only [map, hbody]
  | .assertion ⟨.code _, _, _, _⟩ => rfl
  | .call _ => rfl
  | .ruleEnd _ => rfl
  | .defaultError => rfl

/-- The construct without anything that an analysis collects in it. -/
def cleared [SymbolSet S Item] : Kind S α → Kind S α
  | .choice c => .choice { c with reported := [] }
  | .ruleEnd e => .ruleEnd { e with follow := SymbolSet.empty }
  | .assertion a => .assertion { a with settled := false }
  | k => k

end Kind

/-! ## Changed trees -/

/-- A change of single nodes.  It looks at no part of a construct and keeps them all. -/
structure NodeChange (S : Type) where
  notes : Notes → Notes
  kind : {α : Type} → Kind S α → Kind S α
  kind_map : ∀ {α β : Type} (f : α → β) (k : Kind S α), kind (k.map f) = (kind k).map f
  children_kind : ∀ {α : Type} (k : Kind S α), (kind k).children = k.children

namespace NodeChange

/-- One change after another. -/
def comp (second first : NodeChange S) : NodeChange S where
  notes n := second.notes (first.notes n)
  kind k := second.kind (first.kind k)
  kind_map f k := by rw [first.kind_map, second.kind_map]
  children_kind k := by rw [second.children_kind, first.children_kind]

end NodeChange

namespace Expr

/-- The tree with every node changed. -/
def mapNodes (change : NodeChange S) : Expr S → Expr S :=
  fold fun n k => node (change.notes n) (change.kind k)

variable {change : NodeChange S}

/-- A changed node has the changed parts. -/
theorem mapNodes_node (n : Notes) (k : Kind S (Expr S)) :
    (node n k).mapNodes change =
      node (change.notes n) (change.kind (k.map (mapNodes change))) :=
  fold_node _ n k

/-- Two changes one after the other are one. -/
theorem mapNodes_mapNodes (second first : NodeChange S) (e : Expr S) :
    (e.mapNodes first).mapNodes second = e.mapNodes (second.comp first) := by
  induction e using Expr.induction with
  | step n k ih =>
    have hparts : k.map (fun part => (part.mapNodes first).mapNodes second) =
        k.map (mapNodes (second.comp first)) := Kind.map_congr ih
    rw [mapNodes_node, mapNodes_node, mapNodes_node, ← first.kind_map, Kind.map_map, hparts]
    rfl

/-- Changes that do the same to every node do the same to every tree. -/
theorem mapNodes_congr {first second : NodeChange S}
    (hnotes : ∀ n, first.notes n = second.notes n)
    (hkind : ∀ k : Kind S (Expr S), first.kind k = second.kind k) (e : Expr S) :
    e.mapNodes first = e.mapNodes second := by
  induction e using Expr.induction with
  | step n k ih => rw [mapNodes_node, mapNodes_node, hnotes, hkind, Kind.map_congr ih]

/-- The nodes of a changed tree are the changed nodes in the same order. -/
theorem nodes_mapNodes (change : NodeChange S) (e : Expr S) :
    (e.mapNodes change).nodes = e.nodes.map (mapNodes change) := by
  induction e using Expr.induction with
  | step n k ih =>
    rw [mapNodes_node, nodes_node, nodes_node, change.children_kind, Kind.children_map,
      List.map_cons, List.flatMap_map, List.map_flatMap, mapNodes_node]
    congr 1
    exact List.flatMap_congr ih

/-- Every node of a changed tree was changed. -/
theorem eq_of_mem_nodes_mapNodes {e x : Expr S} (h : x ∈ (e.mapNodes change).nodes) :
    ∃ n k, x = node (change.notes n) (change.kind k) := by
  rw [nodes_mapNodes] at h
  obtain ⟨⟨n, k⟩, -, rfl⟩ := List.mem_map.mp h
  exact ⟨n, _, mapNodes_node n k⟩

/-- The number of nodes is one more than the numbers for the parts together. -/
theorem nodeCount_node (n : Notes) (k : Kind S (Expr S)) :
    (node n k).nodeCount = (k.children.map nodeCount).foldl (fun total part => total + part) 1 := by
  rw [nodeCount, fold_node, Kind.children_map]

/-- A changed tree has as many nodes as before. -/
theorem nodeCount_mapNodes (change : NodeChange S) (e : Expr S) :
    (e.mapNodes change).nodeCount = e.nodeCount := by
  induction e using Expr.induction with
  | step n k ih =>
    rw [mapNodes_node, nodeCount_node, nodeCount_node, change.children_kind, Kind.children_map,
      List.map_map]
    congr 1
    exact List.map_congr_left ih

end Expr

/-! ## Cosmetic changes -/

/-- A change that keeps all user code and touches nothing but findings, savers and what
analyses collect in constructs. -/
structure NodeChange.Cosmetic [SymbolSet S Item] (change : NodeChange S) : Prop where
  before_eq : ∀ n, (change.notes n).before = n.before
  after_eq : ∀ n, (change.notes n).after = n.after
  cleared_eq : ∀ {α : Type} (k : Kind S α), (change.kind k).cleared = k.cleared

namespace Kind

variable [SymbolSet S Item]

/-- Clearing a construct changes no nullability. -/
theorem nullableGiven_cleared (known : RuleId → Bool) (k : Kind S ((RuleId → Bool) → Bool)) :
    k.cleared.nullableGiven known = k.nullableGiven known := by
  cases k <;> rfl

/-- Clearing a construct changes no need of parentheses. -/
theorem needsGroup_cleared (k : Kind S α) : k.cleared.needsGroup = k.needsGroup := by
  cases k <;> rfl

/-- Clearing a construct changes no need of parentheses as an arm. -/
theorem needsGroupAsArm_cleared (k : Kind S α) :
    k.cleared.needsGroupAsArm = k.needsGroupAsArm := by
  cases k <;> rfl

/-- Clearing a construct leaves it atomic or not. -/
theorem isAtomic_cleared (k : Kind S α) : k.cleared.isAtomic = k.isAtomic := by
  cases k <;> rfl

/-- Other parts change no need of parentheses. -/
theorem needsGroup_map (f : α → β) (k : Kind S α) : (k.map f).needsGroup = k.needsGroup := by
  match k with
  | .sequence items => simp [map, needsGroup]
  | .choice c => simp [map, needsGroup, Choice.isLoop]
  | .assertion ⟨.ahead _, _, _, _⟩ => rfl
  | .assertion ⟨.code _, _, _, _⟩ => rfl
  | .terminal _ | .gate _ | .call _ | .ruleEnd _ | .defaultError => rfl

/-- Other parts change no need of parentheses as an arm. -/
theorem needsGroupAsArm_map (f : α → β) (k : Kind S α) :
    (k.map f).needsGroupAsArm = k.needsGroupAsArm := by
  match k with
  | .assertion ⟨.ahead _, _, _, _⟩ => rfl
  | .assertion ⟨.code _, _, _, _⟩ => rfl
  | .terminal _ | .sequence _ | .choice _ | .gate _ | .call _ | .ruleEnd _ | .defaultError => rfl

/-- Other parts leave a construct atomic or not. -/
theorem isAtomic_map (f : α → β) (k : Kind S α) : (k.map f).isAtomic = k.isAtomic := by
  match k with
  | .assertion ⟨.ahead _, _, _, _⟩ => rfl
  | .assertion ⟨.code _, _, _, _⟩ => rfl
  | .terminal _ | .sequence _ | .choice _ | .gate _ | .call _ | .ruleEnd _ | .defaultError => rfl

end Kind

namespace Expr

variable [SymbolSet S Item]

/-- Clearing a construct changes nothing about its text. -/
theorem renderKind_cleared (k : Kind S (Expr S × String)) :
    renderKind k.cleared = renderKind k := by
  cases k <;> rfl

/-- Two parts that look the same wherever they stand. -/
structure PrintsAs (a b : Expr S × String) : Prop where
  text_eq : a.2 = b.2
  hasCode_eq : a.1.notes.hasCode = b.1.notes.hasCode
  needsGroup_eq : a.1.kind.needsGroup = b.1.kind.needsGroup
  needsGroupAsArm_eq : a.1.kind.needsGroupAsArm = b.1.kind.needsGroupAsArm
  isAtomic_eq : a.1.kind.isAtomic = b.1.kind.isAtomic

namespace PrintsAs

variable {a b : Expr S × String}

/-- They look the same as items. -/
theorem itemText_eq (h : PrintsAs a b) : itemText a = itemText b := by
  rw [itemText, itemText, h.text_eq, h.hasCode_eq, h.needsGroup_eq]

/-- They look the same as arms. -/
theorem armText_eq (h : PrintsAs a b) : armText a = armText b := by
  rw [armText, armText, h.text_eq, h.needsGroupAsArm_eq]

end PrintsAs

section Choices

variable {f g : Expr S → Expr S × String} {c : Choice (Expr S)}

/-- The texts of arms and error branch are up to how these look. -/
theorem textChoice_mapParts_congr (h : ∀ part ∈ c.children, PrintsAs (f part) (g part)) :
    textChoice (c.mapParts f) = textChoice (c.mapParts g) := by
  obtain ⟨repetition, greedy, arms, defaultArm, recovery, seams, reported⟩ := c
  have harms : (arms.map f).map armText = (arms.map g).map armText := by
    rw [List.map_map, List.map_map]
    exact List.map_congr_left fun arm harm => (h arm (List.mem_append_left _ harm)).armText_eq
  cases recovery with
  | none => simp only [textChoice, Choice.mapParts, harms, Option.map_none]
  | some branch =>
    have hbody := (h branch.body (List.mem_append_right _ (List.mem_singleton_self _))).text_eq
    simp only [textChoice, Choice.mapParts, harms, Option.map_some, hbody]

/-- Whether the only arm stands bare is up to how it looks. -/
theorem bareLoop?_mapParts_congr (h : ∀ part ∈ c.children, PrintsAs (f part) (g part)) :
    bareLoop? (c.mapParts f) = bareLoop? (c.mapParts g) := by
  obtain ⟨repetition, greedy, arms, defaultArm, recovery, seams, reported⟩ := c
  match arms with
  | [] => rfl
  | [only] =>
    have honly := h only (List.mem_append_left _ (List.mem_singleton_self _))
    simp only [bareLoop?, Choice.mapParts, List.map_cons, List.map_nil, Option.isNone_map,
      honly.text_eq, honly.hasCode_eq, honly.isAtomic_eq]
  | _ :: _ :: _ => rfl

/-- The text of a choice is up to how its parts look. -/
theorem renderChoice_mapParts_congr (h : ∀ part ∈ c.children, PrintsAs (f part) (g part)) :
    renderChoice (c.mapParts f) = renderChoice (c.mapParts g) := by
  have hrepetition : (c.mapParts f).repetition = (c.mapParts g).repetition := rfl
  rw [renderChoice, renderChoice, bareLoop?_mapParts_congr h, textChoice_mapParts_congr h,
    hrepetition]

end Choices

/-- The text of a construct is up to how its parts look. -/
theorem renderKind_map_congr {f g : Expr S → Expr S × String} {k : Kind S (Expr S)}
    (h : ∀ part ∈ k.children, PrintsAs (f part) (g part)) :
    renderKind (k.map f) = renderKind (k.map g) := by
  match k with
  | .terminal _ => rfl
  | .sequence [] => rfl
  | .sequence (first :: rest) =>
    have hitems : ((first :: rest).map f).map itemText = ((first :: rest).map g).map itemText := by
      rw [List.map_map, List.map_map]
      exact List.map_congr_left fun item hitem => (h item hitem).itemText_eq
    exact congrArg (String.intercalate " ") hitems
  | .choice c => exact renderChoice_mapParts_congr h
  | .gate gate =>
    have hpredictor := (h gate.predictor (by simp [Kind.children])).itemText_eq
    have hmatcher := (h gate.matcher (by simp [Kind.children])).itemText_eq
    simp only [Kind.map, renderKind, hpredictor, hmatcher]
  | .assertion ⟨.ahead body, _, _, _⟩ =>
    have hbody := (h body (by simp [Kind.children])).text_eq
    simp only [Kind.map, renderKind, hbody]
  | .assertion ⟨.code _, _, _, _⟩ => rfl
  | .call _ => rfl
  | .ruleEnd _ => rfl
  | .defaultError => rfl

end Expr

/-! ## Cosmetic changes do not show -/

namespace NodeChange.Cosmetic

variable [SymbolSet S Item] {change : NodeChange S}

/-- A cosmetic change keeps whether a node has code. -/
theorem hasCode_eq (h : change.Cosmetic) (n : Notes) :
    (change.notes n).hasCode = n.hasCode := by
  rw [Notes.hasCode, Notes.hasCode, h.before_eq, h.after_eq]

/-- A cosmetic change keeps what does not look at the collections of analyses. -/
theorem kind_eq {ρ : Type} (h : change.Cosmetic) {observe : Kind S α → ρ}
    (hobserve : ∀ k : Kind S α, observe k.cleared = observe k) (k : Kind S α) :
    observe (change.kind k) = observe k := by
  rw [← hobserve, h.cleared_eq, hobserve]

/-- A cosmetic change keeps the code around a text. -/
theorem withCode_eq (h : change.Cosmetic) (n : Notes) (needsGroup : Bool) (text : String) :
    Expr.withCode (change.notes n) needsGroup text = Expr.withCode n needsGroup text := by
  rw [Expr.withCode, Expr.withCode, h.hasCode_eq, h.before_eq, h.after_eq]

/-- A cosmetic change keeps what is seen of a root without looking at its parts. -/
theorem root_eq {ρ : Type} (h : change.Cosmetic) {observe : Kind S (Expr S) → ρ}
    (hcleared : ∀ k, observe k.cleared = observe k)
    (hmap : ∀ (f : Expr S → Expr S) (k : Kind S (Expr S)), observe (k.map f) = observe k)
    (e : Expr S) : observe (e.mapNodes change).kind = observe e.kind := by
  rcases e with ⟨n, k⟩
  rw [Expr.mapNodes_node]
  exact (h.kind_eq hcleared _).trans (hmap _ k)

/-- A changed expression looks like the expression before, if it has the same text. -/
theorem printsAs (h : change.Cosmetic) (e : Expr S) (text : String) :
    Expr.PrintsAs (e.mapNodes change, text) (e, text) where
  text_eq := rfl
  hasCode_eq := by
    rcases e with ⟨n, k⟩
    rw [Expr.mapNodes_node]
    exact h.hasCode_eq n
  needsGroup_eq := h.root_eq Kind.needsGroup_cleared Kind.needsGroup_map e
  needsGroupAsArm_eq := h.root_eq Kind.needsGroupAsArm_cleared Kind.needsGroupAsArm_map e
  isAtomic_eq := h.root_eq Kind.isAtomic_cleared Kind.isAtomic_map e

/-- A cosmetic change does not show in the text of a tree. -/
theorem render_mapNodes (h : change.Cosmetic) (e : Expr S) :
    (e.mapNodes change).render = e.render := by
  induction e using Expr.induction with
  | step n k ih =>
    have hparts : k.map (fun part => (part.mapNodes change, (part.mapNodes change).render)) =
        k.map fun part => (part.mapNodes change, part.render) := by
      refine Kind.map_congr ?_
      intro part hpart
      rw [ih part hpart]
    rw [Expr.mapNodes_node, Expr.render_node, Expr.render_node, ← change.kind_map,
      Kind.map_map, hparts, h.withCode_eq, h.kind_eq Expr.renderKind_cleared, h.kind_eq Kind.needsGroup_cleared,
      Kind.needsGroup_map, Kind.needsGroup_map,
      Expr.renderKind_map_congr fun part _ => h.printsAs part part.render]

/-- A cosmetic change keeps nullability, whatever rules are known to be nullable. -/
theorem nullableGiven_mapNodes (h : change.Cosmetic) (known : RuleId → Bool) (e : Expr S) :
    (e.mapNodes change).nullableGiven known = e.nullableGiven known := by
  induction e using Expr.induction generalizing known with
  | step n k ih =>
    have hparts : k.map (fun part known => (part.mapNodes change).nullableGiven known) =
        k.map fun part known => part.nullableGiven known := by
      refine Kind.map_congr ?_
      intro part hpart
      funext known
      exact ih part hpart known
    rw [Expr.mapNodes_node, Expr.nullableGiven_node, Expr.nullableGiven_node, ← change.kind_map,
      Kind.map_map, hparts, h.kind_eq (Kind.nullableGiven_cleared known)]

/-- A cosmetic change keeps nullability on every path through a grammar. -/
theorem nullableAlong_mapNodes (h : change.Cosmetic) (g : Grammar S) (path : List RuleId)
    (e : Expr S) : g.nullableAlong path (e.mapNodes change) = g.nullableAlong path e := by
  rw [Grammar.nullableAlong_eq, Grammar.nullableAlong_eq, h.nullableGiven_mapNodes]

/-- A cosmetic change keeps nullability in every grammar. -/
theorem nullable_mapNodes (h : change.Cosmetic) (g : Grammar S) (e : Expr S) :
    g.nullable (e.mapNodes change) = g.nullable e :=
  h.nullableAlong_mapNodes g [] e

end NodeChange.Cosmetic

/-! ## Copying and discarding -/

namespace Kind

/-- Forgetting reports has nothing to do with the parts. -/
theorem forget_map (f : α → β) (k : Kind S α) : (k.map f).forget = k.forget.map f := by
  match k with
  | .assertion ⟨.ahead _, _, _, _⟩ => rfl
  | .assertion ⟨.code _, _, _, _⟩ => rfl
  | .terminal _ | .sequence _ | .choice _ | .gate _ | .call _ | .ruleEnd _ | .defaultError => rfl

variable [SymbolSet S Item]

/-- Clearing a construct has nothing to do with the parts. -/
theorem cleared_map (f : α → β) (k : Kind S α) : (k.map f).cleared = k.cleared.map f := by
  match k with
  | .assertion ⟨.ahead _, _, _, _⟩ => rfl
  | .assertion ⟨.code _, _, _, _⟩ => rfl
  | .terminal _ | .sequence _ | .choice _ | .gate _ | .call _ | .ruleEnd _ | .defaultError => rfl

/-- Clearing a construct changes no part. -/
theorem children_cleared (k : Kind S α) : k.cleared.children = k.children := by
  match k with
  | .assertion ⟨.ahead _, _, _, _⟩ => rfl
  | .assertion ⟨.code _, _, _, _⟩ => rfl
  | .terminal _ | .sequence _ | .choice _ | .gate _ | .call _ | .ruleEnd _ | .defaultError => rfl

end Kind

namespace NodeChange

/-- What copying does to a node. -/
def copying : NodeChange S where
  notes n := { n with finding := none }
  kind := Kind.forget
  kind_map := Kind.forget_map
  children_kind := Kind.children_forget

variable [SymbolSet S Item]

/-- What discarding does to a node. -/
def discarding : NodeChange S where
  notes n := { n with finding := none }
  kind := Kind.cleared
  kind_map := Kind.cleared_map
  children_kind := Kind.children_cleared

/-- Copying is cosmetic. -/
theorem cosmetic_copying : (copying : NodeChange S).Cosmetic where
  before_eq _ := rfl
  after_eq _ := rfl
  cleared_eq k := by cases k <;> rfl

/-- Discarding is cosmetic. -/
theorem cosmetic_discarding : (discarding : NodeChange S).Cosmetic where
  before_eq _ := rfl
  after_eq _ := rfl
  cleared_eq k := by cases k <;> rfl

end NodeChange

namespace Expr

/-- Copying a tree changes its nodes one by one. -/
theorem copy_eq_mapNodes (e : Expr S) : e.copy = e.mapNodes .copying := by
  induction e using Expr.induction with
  | step n k ih =>
    rw [copy_node, mapNodes_node, Kind.map_congr ih]
    rfl

variable [SymbolSet S Item]

/-- Discarding changes the nodes of a tree one by one. -/
theorem discard_eq_mapNodes (e : Expr S) : e.discard = e.mapNodes .discarding := by
  induction e using Expr.induction with
  | step n k ih =>
    rw [mapNodes_node, ← Kind.map_congr ih, discard, fold_node]
    generalize Kind.map _ k = parts
    cases parts <;> rfl

end Expr

end GrammarTree
