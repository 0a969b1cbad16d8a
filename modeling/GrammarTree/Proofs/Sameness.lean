import Mathlib.Data.List.Sort
import Mathlib.Order.Defs.LinearOrder
import GrammarTree.Expr.Same
import GrammarTree.Proofs.NodeChange
import GrammarTree.Proofs.ReportRuns
import GrammarTree.Proofs.SymbolLaws

/-!
# Same trees

Two trees are compared part by part, and some of what nodes carry does not count: findings,
remembered reports, settled assertions, and what a wrapper does besides being the wrapper
it is.

The outline of a tree is the tree without all that does not count.  Trees are the same
exactly if their outlines are equal, so being the same is an equivalence, and whatever can
be observed of a tree without looking at the rest is the same for same trees.

Main results:

- Definition `Expr.outline`: the tree without all that does not count.
- Theorem `Expr.same_iff_outline_eq`: trees are the same if their outlines are equal.
- Theorem `Choice.Alike.answers_eq`: choices that are alike give the same answers in every
  run of reports.
- Theorem `Expr.same_trees_cannot_be_told_apart`: copies are the same trees, and same trees
  have the same text, the same nullability and the same answers.
-/

namespace GrammarTree

variable {S Item α β : Type}

/-! ## Outlines -/

/-- Nothing but the identity of a wrapper. -/
def Saver.outline (saver : Saver) : Saver :=
  ⟨saver.id, fun code => code⟩

/-- The notes that count. -/
def Notes.outline (n : Notes) : Notes :=
  { n with saver := n.saver.map Saver.outline, finding := none }

/-- The construct without reports and without settled assertions. -/
def Kind.outline : Kind S α → Kind S α
  | .choice c => .choice { c with reported := [] }
  | .assertion a => .assertion { a with settled := false }
  | k => k

namespace NodeChange

/-- Leave out what does not count. -/
def outlining : NodeChange S where
  notes := Notes.outline
  kind := Kind.outline
  kind_map f k := by
    match k with
    | .assertion ⟨.ahead _, _, _, _⟩ => rfl
    | .assertion ⟨.code _, _, _, _⟩ => rfl
    | .terminal _ | .sequence _ | .choice _ | .gate _ | .call _ | .ruleEnd _ | .defaultError => rfl
  children_kind k := by
    match k with
    | .assertion ⟨.ahead _, _, _, _⟩ => rfl
    | .assertion ⟨.code _, _, _, _⟩ => rfl
    | .terminal _ | .sequence _ | .choice _ | .gate _ | .call _ | .ruleEnd _ | .defaultError => rfl

/-- Leaving out what does not count is cosmetic. -/
theorem cosmetic_outlining [SymbolSet S Item] : (outlining : NodeChange S).Cosmetic where
  before_eq _ := rfl
  after_eq _ := rfl
  cleared_eq k := by cases k <;> rfl

end NodeChange

/-- The tree without all that does not count. -/
def Expr.outline (e : Expr S) : Expr S :=
  e.mapNodes .outlining

/-! ## The comparison -/

/-- Two wrappers are the same if their identities are. -/
theorem Saver.beq_iff_outline_eq {a b : Option Saver} :
    (a == b) = true ↔ a.map Saver.outline = b.map Saver.outline := by
  cases a with
  | none => cases b <;> simp
  | some s =>
    cases b with
    | none => simp
    | some t =>
      have hid : (s == t) = (s.id == t.id) := rfl
      simp [hid, Saver.outline]

/-- Notes agree in all that counts if their outlines are equal. -/
theorem Notes.same_iff_outline_eq {m n : Notes} : m.same n = true ↔ m.outline = n.outline := by
  obtain ⟨location, before, after, saver, finding⟩ := m
  obtain ⟨location', before', after', saver', finding'⟩ := n
  simp only [Notes.same, Notes.outline, Bool.and_eq_true, beq_iff_eq, Saver.beq_iff_outline_eq,
    Notes.mk.injEq, and_true, and_assoc]

/-- The sort of a construct is not up to its parts. -/
theorem Kind.ctorIdx_map (f : α → β) (k : Kind S α) : (k.map f).ctorIdx = k.ctorIdx := by
  match k with
  | .assertion ⟨.ahead _, _, _, _⟩ => rfl
  | .assertion ⟨.code _, _, _, _⟩ => rfl
  | .terminal _ | .sequence _ | .choice _ | .gate _ | .call _ | .ruleEnd _ | .defaultError => rfl

/-- An outline is of the same sort. -/
theorem Kind.ctorIdx_outline (k : Kind S α) : k.outline.ctorIdx = k.ctorIdx := by
  cases k <;> rfl

section Comparison

variable [BEq S]

/-- At a node notes and constructs are compared. -/
theorem Expr.same_node (n : Notes) (k : Kind S (Expr S)) (other : Expr S) :
    Expr.same (.node n k) other = (n.same other.notes && (k.map Expr.same).sameAs other.kind) := by
  rw [Expr.same, Expr.fold_node]

/-- Whether the comparison of an expression with any other one is that of their outlines. -/
def Expr.ComparesOutlines (e : Expr S) : Prop :=
  ∀ other : Expr S, e.same other = true ↔ e.outline = other.outline

/-- Lists of expressions are compared one by one. -/
theorem Choice.allSame_iff {items others : List (Expr S)}
    (h : ∀ item ∈ items, item.ComparesOutlines) :
    allSame (items.map Expr.same) others = true ↔
      items.map Expr.outline = others.map Expr.outline := by
  induction items generalizing others with
  | nil => cases others <;> simp [allSame]
  | cons first rest ih =>
    obtain ⟨hfirst, hrest⟩ := List.forall_mem_cons.mp h
    cases others with
    | nil => simp [allSame]
    | cons other more =>
      simp only [List.map_cons, allSame, Bool.and_eq_true, List.cons.injEq, hfirst other, ih hrest]

/-- Choices are compared by arms, error branch, marks and ledger. -/
theorem Choice.sameAs_iff {c d : Choice (Expr S)}
    (h : ∀ part ∈ c.children, part.ComparesOutlines) :
    (c.mapParts Expr.same).sameAs d = true ↔
      { c.mapParts Expr.outline with reported := [] } =
        { d.mapParts Expr.outline with reported := [] } := by
  obtain ⟨repetition, greedy, arms, defaultArm, recovery, seams, reported⟩ := c
  obtain ⟨repetition', greedy', arms', defaultArm', recovery', seams', reported'⟩ := d
  have harms : allSame (arms.map Expr.same) arms' = true ↔
      arms.map Expr.outline = arms'.map Expr.outline :=
    allSame_iff fun arm harm => h arm (List.mem_append_left _ harm)
  cases recovery with
  | none =>
    cases recovery' with
    | none => simp [sameAs, mapParts, harms, and_assoc]
    | some branch' => simp [sameAs, mapParts]
  | some branch =>
    have hbody := h branch.body (List.mem_append_right _ (List.mem_singleton_self _))
    cases recovery' with
    | none => simp [sameAs, mapParts]
    | some branch' => simp [sameAs, mapParts, harms, hbody branch'.body, and_assoc]

/-- Constructs that agree are of the same sort. -/
theorem Kind.ctorIdx_eq_of_sameAs {tests : Kind S (Expr S → Bool)} {k : Kind S (Expr S)}
    (h : tests.sameAs k = true) : tests.ctorIdx = k.ctorIdx := by
  unfold sameAs at h
  split at h
  · rfl
  · rfl
  · rfl
  · rfl
  · rfl
  · rfl
  · rfl
  · rfl
  · rfl
  · cases h

variable [LawfulBEq S]

/-- Constructs of one sort agree if their outlines over the outlines of their parts are
equal. -/
theorem Kind.sameAs_iff_of_ctorIdx_eq {k l : Kind S (Expr S)} (hsort : k.ctorIdx = l.ctorIdx)
    (h : ∀ part ∈ k.children, part.ComparesOutlines) :
    (k.map Expr.same).sameAs l = true ↔
      (k.map Expr.outline).outline = (l.map Expr.outline).outline := by
  -- pairs of different sorts are ruled out, so there is one row for each sort
  match k, l, hsort with
  | .terminal s, .terminal t, _ => simp [map, sameAs, outline]
  | .sequence items, .sequence others, _ =>
    have hitems : ∀ item ∈ items, item.ComparesOutlines := h
    simp [map, sameAs, outline, Choice.allSame_iff hitems]
  | .choice c, .choice d, _ =>
    rw [map_choice, map_choice, map_choice, outline, outline, choice.injEq]
    exact Choice.sameAs_iff h
  | .gate ⟨predictor, matcher, isEquivalence⟩, .gate other, _ =>
    have hpredictor := h predictor (by simp [children]) other.predictor
    have hmatcher := h matcher (by simp [children]) other.matcher
    simp [map, sameAs, outline, hpredictor, hmatcher, and_assoc]
  | .assertion ⟨.ahead body, _, _, _⟩, .assertion ⟨.ahead other, _, _, _⟩, _ =>
    have hbody := h body (by simp [children]) other
    simp [map, sameAs, outline, hbody, and_assoc]
  | .assertion ⟨.code _, _, _, _⟩, .assertion ⟨.code _, _, _, _⟩, _ =>
    simp [map, sameAs, outline, and_assoc]
  | .assertion ⟨.ahead _, _, _, _⟩, .assertion ⟨.code _, _, _, _⟩, _ =>
    simp [map, sameAs, outline]
  | .assertion ⟨.code _, _, _, _⟩, .assertion ⟨.ahead _, _, _, _⟩, _ =>
    simp [map, sameAs, outline]
  | .call _, .call _, _ => simp [map, sameAs, outline]
  | .ruleEnd ⟨rule, follow⟩, .ruleEnd ⟨rule', follow'⟩, _ => simp [map, sameAs, outline]
  | .defaultError, .defaultError, _ => simp [map, sameAs, outline]

/-- Constructs agree if their outlines over the outlines of their parts are equal. -/
theorem Kind.sameAs_iff {k l : Kind S (Expr S)}
    (h : ∀ part ∈ k.children, part.ComparesOutlines) :
    (k.map Expr.same).sameAs l = true ↔
      (k.map Expr.outline).outline = (l.map Expr.outline).outline := by
  by_cases hsort : k.ctorIdx = l.ctorIdx
  · exact sameAs_iff_of_ctorIdx_eq hsort h
  · refine iff_of_false ?_ ?_
    · intro hsame
      exact hsort ((ctorIdx_map _ k).symm.trans (ctorIdx_eq_of_sameAs hsame))
    · intro heq
      have hctor := congrArg Kind.ctorIdx heq
      simp only [ctorIdx_outline, ctorIdx_map] at hctor
      exact hsort hctor

namespace Expr

/-- Trees are the same exactly if their outlines are equal. -/
theorem same_iff_outline_eq (e other : Expr S) :
    e.same other = true ↔ e.outline = other.outline := by
  induction e using Expr.induction generalizing other with
  | step n k ih =>
    obtain ⟨m, l⟩ := other
    have hkind := Kind.sameAs_iff (l := l) ih
    rw [same_node, Bool.and_eq_true, Notes.same_iff_outline_eq, notes, kind, hkind, outline,
      outline, mapNodes_node, mapNodes_node, node.injEq]
    rfl

/-- Being the same is an equivalence. -/
theorem equivalence_same : Equivalence fun e other : Expr S => e.same other = true := by
  simp only [same_iff_outline_eq]
  exact ⟨fun _ => rfl, Eq.symm, Eq.trans⟩

/-- A copy is the same tree. -/
theorem copy_same (e : Expr S) : e.copy.same e = true := by
  rw [same_iff_outline_eq, copy_eq_mapNodes, outline, outline, mapNodes_mapNodes]
  refine mapNodes_congr ?_ ?_ e
  · intro n
    rfl
  · intro k
    cases k <;> rfl

end Expr

end Comparison

/-! ## Answers about ambiguities -/

namespace Choice

/-- What the answers of a choice about ambiguities rest on, apart from its memory. -/
def frame (c : Choice α) : Option Bool × List Seam × Nat :=
  (c.greedy, c.seams, c.arms.length)

/-- Choices with the same frame and the same memory. -/
structure Alike (c : Choice α) (d : Choice β) : Prop where
  frame_eq : c.frame = d.frame
  reported_eq : c.reported = d.reported

/-- What the calls of a run answer. -/
def answers (c : Choice (Expr S)) : List (Step S) → List Bool
  | [] => []
  | .report arms mask suppressExit :: rest =>
    (c.report arms mask suppressExit).1 :: (c.report arms mask suppressExit).2.answers rest
  | .setGreedy greedy :: rest => (c.perform (.setGreedy greedy)).answers rest
  | .insert side ordered operand role :: rest =>
    (c.perform (.insert side ordered operand role)).answers rest

section Frames

variable {c : Choice α} {d : Choice β}

/-- An ambiguity is intended or not by the seams alone. -/
theorem suppresses_eq_of_frame_eq (h : c.frame = d.frame) (a b : Int) (mask : Nat) :
    c.suppresses a b mask = d.suppresses a b mask := by
  have hseams : c.seams = d.seams := congrArg (fun frame => frame.2.1) h
  rw [suppresses, suppresses, hseams]

/-- The arms that are worth a report are up to the frame. -/
theorem residual_eq_of_frame_eq (h : c.frame = d.frame) (arms : List Int) (mask : Nat)
    (suppressExit : Bool) :
    c.residual arms mask suppressExit = d.residual arms mask suppressExit := by
  have hgreedy : c.greedy = d.greedy := congrArg (fun frame => frame.1) h
  have hcounts : c.counts suppressExit = d.counts suppressExit := by
    funext arm
    rw [counts, counts, hgreedy]
  have hsuppresses : c.suppresses = d.suppresses := by
    funext a b mask
    exact suppresses_eq_of_frame_eq h a b mask
  rw [residual, residual, hcounts, hsuppresses]

end Frames

namespace Alike

variable {c d : Choice (Expr S)}

/-- Choices that are alike answer a call alike and stay alike. -/
theorem report (h : c.Alike d) (arms : List Int) (mask : Nat) (suppressExit : Bool) :
    (c.report arms mask suppressExit).1 = (d.report arms mask suppressExit).1 ∧
      (c.report arms mask suppressExit).2.Alike (d.report arms mask suppressExit).2 := by
  have hresidual := residual_eq_of_frame_eq h.frame_eq arms mask suppressExit
  unfold Choice.report
  simp only [hresidual, h.reported_eq]
  split
  · exact ⟨rfl, h⟩
  · exact ⟨rfl, h.frame_eq, rfl⟩

/-- Choices that are alike stay alike when their greediness is changed. -/
theorem setGreedy (h : c.Alike d) (greedy : Option Bool) :
    (c.perform (.setGreedy greedy)).Alike (d.perform (.setGreedy greedy)) := by
  refine ⟨?_, h.reported_eq⟩
  have hrest := congrArg Prod.snd h.frame_eq
  exact congrArg (Prod.mk greedy) hrest

/-- Choices that are alike stay alike when an operand is placed. -/
theorem insert (h : c.Alike d) (side : Side) (ordered : Bool) (operand : Expr S)
    (role : ArmRole) :
    (c.perform (.insert side ordered operand role)).Alike
      (d.perform (.insert side ordered operand role)) := by
  obtain ⟨hframe, hreported⟩ := h
  simp only [frame, Prod.mk.injEq] at hframe
  obtain ⟨hgreedy, hseams, hcount⟩ := hframe
  cases side with
  | front =>
    refine ⟨?_, hreported⟩
    simp only [frame, perform, Choice.insert, List.length_append, hgreedy, hseams, hcount]
  | back =>
    refine ⟨?_, hreported⟩
    simp only [frame, perform, Choice.insert, List.length_append, hgreedy, hseams, hcount]

/-- Choices that are alike give the same answers in every run. -/
theorem answers_eq (h : c.Alike d) (steps : List (Step S)) : c.answers steps = d.answers steps := by
  induction steps generalizing c d with
  | nil => rfl
  | cons step rest ih =>
    cases step with
    | report arms mask suppressExit =>
      obtain ⟨hanswer, halike⟩ := h.report arms mask suppressExit
      rw [answers, answers, hanswer, ih halike]
    | setGreedy greedy => exact ih (h.setGreedy greedy)
    | insert side ordered operand role => exact ih (h.insert side ordered operand role)

end Alike

end Choice

/-! ## Observations of trees -/

namespace Kind

/-- The frame of a choice. -/
def frame? : Kind S α → Option (Option Bool × List Seam × Nat)
  | choice c => some c.frame
  | _ => none

/-- Whether a construct stands for no input of its own. -/
def isPlaceholder : Kind S α → Bool
  | ruleEnd _ => true
  | defaultError => true
  | _ => false

/-- The frame of a choice is not up to its parts. -/
theorem frame?_map (f : α → β) (k : Kind S α) : (k.map f).frame? = k.frame? := by
  match k with
  | .choice c => simp [map, frame?, Choice.frame]
  | .assertion ⟨.ahead _, _, _, _⟩ => rfl
  | .assertion ⟨.code _, _, _, _⟩ => rfl
  | .terminal _ | .sequence _ | .gate _ | .call _ | .ruleEnd _ | .defaultError => rfl

/-- A placeholder is not one by its parts. -/
theorem isPlaceholder_map (f : α → β) (k : Kind S α) :
    (k.map f).isPlaceholder = k.isPlaceholder := by
  match k with
  | .assertion ⟨.ahead _, _, _, _⟩ => rfl
  | .assertion ⟨.code _, _, _, _⟩ => rfl
  | .terminal _ | .sequence _ | .choice _ | .gate _ | .call _ | .ruleEnd _ | .defaultError => rfl

end Kind

/-- There is an answer about nullability except for placeholders. -/
theorem Grammar.nullability?_eq (g : Grammar S) (e : Expr S) :
    g.nullability? e = if e.kind.isPlaceholder then none else some (g.nullable e) := by
  obtain ⟨n, k⟩ := e
  cases k <;> rfl

/-- The frame of the choice at the root. -/
theorem Expr.choice?_map_frame (e : Expr S) : e.choice?.map Choice.frame = e.kind.frame? := by
  obtain ⟨n, k⟩ := e
  cases k <;> rfl

namespace NodeChange.Cosmetic

variable [SymbolSet S Item] {change : NodeChange S}

/-- A cosmetic change leaves placeholders what they are. -/
theorem nullability?_mapNodes (h : change.Cosmetic) (g : Grammar S) (e : Expr S) :
    g.nullability? (e.mapNodes change) = g.nullability? e := by
  have hplaceholder : (e.mapNodes change).kind.isPlaceholder = e.kind.isPlaceholder :=
    h.root_eq (fun k => by cases k <;> rfl) Kind.isPlaceholder_map e
  rw [Grammar.nullability?_eq, Grammar.nullability?_eq, hplaceholder, h.nullable_mapNodes]

/-- A cosmetic change keeps the frame of a choice. -/
theorem frame_mapNodes (h : change.Cosmetic) (e : Expr S) :
    (e.mapNodes change).choice?.map Choice.frame = e.choice?.map Choice.frame := by
  rw [Expr.choice?_map_frame, Expr.choice?_map_frame]
  exact h.root_eq (fun k => by cases k <;> rfl) Kind.frame?_map e

end NodeChange.Cosmetic

namespace Expr

variable [SymbolSet S Item] [LawfulBEq S] {e other : Expr S}

/-- Same trees give the same to an observer who sees outlines only. -/
theorem eq_of_same {ρ : Type} (observe : Expr S → ρ)
    (hobserve : ∀ e : Expr S, observe e.outline = observe e) (h : e.same other = true) :
    observe e = observe other := by
  rw [← hobserve e, ← hobserve other, (same_iff_outline_eq e other).mp h]

/-- Choices at the roots of same trees have the same frame. -/
theorem frame_eq_of_same {c d : Choice (Expr S)} (h : e.same other = true)
    (hc : e.choice? = some c) (hd : other.choice? = some d) : c.frame = d.frame := by
  have hframe : e.choice?.map Choice.frame = other.choice?.map Choice.frame :=
    eq_of_same (fun e => e.choice?.map Choice.frame)
      NodeChange.cosmetic_outlining.frame_mapNodes h
  rw [hc, hd] at hframe
  exact Option.some.inj hframe

/-- What two trees have in common that nobody can tell apart without looking for findings
and reports. -/
structure Indistinguishable (e other : Expr S) : Prop where
  render_eq : e.render = other.render
  nullable_eq : ∀ g : Grammar S, g.nullable e = g.nullable other
  nullability_eq : ∀ g : Grammar S, g.nullability? e = g.nullability? other
  nodeCount_eq : e.nodeCount = other.nodeCount
  isChoice_eq : e.choice?.isSome = other.choice?.isSome
  suppresses_eq : ∀ c d, e.choice? = some c → other.choice? = some d →
    ∀ a b mask, c.suppresses a b mask = d.suppresses a b mask
  answers_eq : ∀ c d, e.choice? = some c → other.choice? = some d →
    c.reported = [] → d.reported = [] → ∀ steps, c.answers steps = d.answers steps

/-- Nobody can tell same trees apart. -/
theorem indistinguishable_of_same (h : e.same other = true) : e.Indistinguishable other where
  render_eq := eq_of_same render NodeChange.cosmetic_outlining.render_mapNodes h
  nullable_eq g := eq_of_same g.nullable (NodeChange.cosmetic_outlining.nullable_mapNodes g) h
  nullability_eq g :=
    eq_of_same g.nullability? (NodeChange.cosmetic_outlining.nullability?_mapNodes g) h
  nodeCount_eq := eq_of_same nodeCount (nodeCount_mapNodes .outlining) h
  isChoice_eq := by
    have hframe : e.choice?.map Choice.frame = other.choice?.map Choice.frame :=
      eq_of_same (fun e => e.choice?.map Choice.frame)
        NodeChange.cosmetic_outlining.frame_mapNodes h
    rw [← Option.isSome_map, hframe, Option.isSome_map]
  suppresses_eq _ _ hc hd := Choice.suppresses_eq_of_frame_eq (frame_eq_of_same h hc hd)
  answers_eq _ _ hc hd hnew hnew' :=
    Choice.Alike.answers_eq ⟨frame_eq_of_same h hc hd, hnew.trans hnew'.symm⟩

/-- Whether no node has a finding and no choice remembers a report. -/
def Unanalysed (e : Expr S) : Prop :=
  ∀ x ∈ e.nodes, x.notes.finding = none ∧ ∀ c, x.choice? = some c → c.reported = []

end Expr

/-! ## Copies -/

/-- A change after which no node has a finding and no choice a report. -/
structure NodeChange.Forgetful (change : NodeChange S) : Prop where
  finding_eq : ∀ n, (change.notes n).finding = none
  reported_eq : ∀ {α : Type} (k : Kind S α) c, change.kind k = .choice c → c.reported = []

namespace Expr

/-- A forgetful change leaves nothing behind that an analysis found out. -/
theorem unanalysed_mapNodes {change : NodeChange S} (h : change.Forgetful) (e : Expr S) :
    (e.mapNodes change).Unanalysed := by
  intro x hx
  obtain ⟨n, k, rfl⟩ := eq_of_mem_nodes_mapNodes hx
  refine ⟨h.finding_eq n, ?_⟩
  intro c hc
  exact h.reported_eq k c (kind_of_choice? hc)

/-- A copy was never analysed. -/
theorem unanalysed_copy (e : Expr S) : e.copy.Unanalysed := by
  rw [copy_eq_mapNodes]
  refine unanalysed_mapNodes ⟨fun _ => rfl, ?_⟩ e
  intro α k c hkind
  cases k <;> cases hkind
  rfl

end Expr

/-! ## Token classes -/

namespace TokenClass

/-- A class is known by its members. -/
theorem ext_of_mem_iff {s t : TokenClass} (hnames : ∀ n, n ∈ s.names ↔ n ∈ t.names)
    (hend : s.hasEnd = t.hasEnd) : s = t := by
  obtain ⟨names, sorted, hasEnd⟩ := s
  obtain ⟨names', sorted', hasEnd'⟩ := t
  have heq : names = names' := sorted.eq_of_mem_iff sorted' hnames
  subst heq
  cases hend
  rfl

/-- Inserting names does not touch the end mark. -/
theorem hasEnd_foldr_insert (added : List String) (s : TokenClass) :
    (added.foldr insert s).hasEnd = s.hasEnd := by
  induction added with
  | nil => rfl
  | cons name rest ih => exact ih

/-- The order in which names are inserted, and how often, does not matter. -/
theorem foldr_insert_eq_of_mem_iff {added added' : List String} (s : TokenClass)
    (h : ∀ n, n ∈ added ↔ n ∈ added') : added.foldr insert s = added'.foldr insert s := by
  refine ext_of_mem_iff ?_ ?_
  · intro n
    rw [mem_foldr_insert, mem_foldr_insert, h n]
  · rw [hasEnd_foldr_insert, hasEnd_foldr_insert]

end TokenClass

/-! ## Main result -/

/-- A copy is the same tree and was never analysed; being the same is an equivalence; nobody
can tell same trees apart, and the order in which the members of a terminal were inserted
does not show. -/
theorem Expr.same_trees_cannot_be_told_apart [SymbolSet S Item] [LawfulBEq S] :
    (∀ e : Expr S, e.copy.same e = true ∧ e.copy.Unanalysed) ∧
      (Equivalence fun e other : Expr S => e.same other = true) ∧
      (∀ e other : Expr S, e.same other = true → e.Indistinguishable other) ∧
      ∀ (location : Location) (s : TokenClass) (added added' : List String),
        (∀ n, n ∈ added ↔ n ∈ added') →
          (terminal location (added.foldr TokenClass.insert s)).same
              (terminal location (added'.foldr TokenClass.insert s)) = true ∧
            (terminal location (added.foldr TokenClass.insert s)).render =
              (terminal location (added'.foldr TokenClass.insert s)).render := by
  refine ⟨?_, equivalence_same, fun _ _ => indistinguishable_of_same, ?_⟩
  · intro e
    exact ⟨e.copy_same, e.unanalysed_copy⟩
  · intro location s added added' h
    rw [TokenClass.foldr_insert_eq_of_mem_iff s h]
    exact ⟨equivalence_same.refl _, rfl⟩

/-- Trees of token kinds and of characters look the same after an analysis as before. -/
theorem Expr.same_trees_cannot_be_told_apart_after_analysis :
    Indistinguishable
        (node { finding := some (.number 3) }
          (.choice
            { repetition := .star
              arms := [terminal none (TokenClass.ofItems ["b", "a"]), epsilon none]
              seams := [⟨0, 1, 2, true⟩]
              reported := [[0, 1]] }))
        (node {}
          (.choice
            { repetition := .star
              arms := [terminal none (TokenClass.ofItems ["a", "b"]), epsilon none]
              seams := [⟨0, 1, 2, true⟩] })) ∧
      Indistinguishable
        (ofKind none (.assertion
          { condition := .ahead (terminal none (CharClass.ofItems ['a']))
            negated := true
            settled := true }))
        (ofKind none (.assertion
          { condition := .ahead (terminal none (CharClass.ofItems ['a', 'a']))
            negated := true })) :=
  ⟨same_trees_cannot_be_told_apart.2.2.1 _ _ (by decide),
    same_trees_cannot_be_told_apart.2.2.1 _ _ (by decide)⟩

end GrammarTree
