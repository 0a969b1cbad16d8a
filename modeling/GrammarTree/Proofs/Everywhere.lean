import Mathlib.Tactic.SplitIfs
import GrammarTree.Draft
import GrammarTree.Proofs.Joining
import GrammarTree.Proofs.Upkeep

/-!
# Properties of all nodes

Operators take trees apart: a sequence gives its items up to another one, a choice
its arms, and code moves from node to node.  A property of constructs that holds at
every node of the operands then holds at every node of the result, if it holds at
the nodes that are new.

Main results:

- Definition `Expr.Everywhere`: the construct of every node has a property.
- Theorem `Expr.everywhere_node`: it has the property at a node and everywhere in its
  parts.
- Theorems `Expr.everywhere_sequence`, `Expr.everywhere_alternate`,
  `Expr.everywhere_loop` and `Expr.everywhere_gate`: what is left to show for the
  result of an operator.
- Theorem `Expr.Everywhere.copy`: copies have the property, too.
-/

namespace GrammarTree

/-! ## Parts of constructs -/

namespace Kind

variable {S α β γ : Type}

/-- The parts of a changed construct are the changed parts. -/
theorem children_map (f : α → β) (k : Kind S α) : (k.map f).children = k.children.map f := by
  match k with
  | .terminal _ => rfl
  | .sequence _ => rfl
  | .choice ⟨_, _, _, _, none, _, _⟩ =>
    simp [map, children, Choice.children, Choice.recoveryBody?]
  | .choice ⟨_, _, _, _, some _, _, _⟩ =>
    simp [map, children, Choice.children, Choice.recoveryBody?]
  | .gate _ => rfl
  | .assertion ⟨.ahead _, _, _, _⟩ => rfl
  | .assertion ⟨.code _, _, _, _⟩ => rfl
  | .call _ => rfl
  | .ruleEnd _ => rfl
  | .defaultError => rfl

/-- Changing the parts and taking them back changes nothing. -/
theorem map_map_eq_self {f : α → β} {g : β → α} (h : ∀ a, g (f a) = a) (k : Kind S α) :
    (k.map f).map g = k := by
  match k with
  | .terminal _ => rfl
  | .sequence _ => simp [map, Function.comp_def, h]
  | .choice ⟨_, _, _, _, none, _, _⟩ => simp [map, Function.comp_def, h]
  | .choice ⟨_, _, _, _, some _, _, _⟩ => simp [map, Function.comp_def, h]
  | .gate _ => simp [map, h]
  | .assertion ⟨.ahead _, _, _, _⟩ => simp [map, h]
  | .assertion ⟨.code _, _, _, _⟩ => rfl
  | .call _ => rfl
  | .ruleEnd _ => rfl
  | .defaultError => rfl

/-- Forgetting reports changes no part. -/
theorem children_forget (k : Kind S α) : k.forget.children = k.children := by
  cases k <;> rfl

end Kind

namespace Batch

variable {α : Type}

/-- The arms of a batch, then its error branch. -/
def children (batch : Batch α) : List α :=
  batch.arms ++ (batch.recovery.map Recovery.body).toList

end Batch

/-- The parts of a choice at which a batch was placed come from the choice or from the
batch. -/
theorem Choice.mem_children_insert {α : Type} {c : Choice α} {side : Side} {ordered : Bool}
    {batch : Batch α} {part : α} (h : part ∈ (c.insert side ordered batch).children) :
    part ∈ c.children ∨ part ∈ batch.children := by
  rw [Choice.children, List.mem_append] at h
  rcases h with h | h
  · have harm : part ∈ c.arms ∨ part ∈ batch.arms := by
      cases side with
      | front => exact (List.mem_append.mp h).symm
      | back => exact List.mem_append.mp h
    exact harm.imp (List.mem_append_left _) (List.mem_append_left _)
  · rw [Choice.recoveryBody?, Choice.insert_recovery] at h
    cases hown : c.recovery with
    | some branch =>
      left
      rw [hown] at h
      rw [Choice.children, Choice.recoveryBody?, hown]
      exact List.mem_append_right _ h
    | none =>
      right
      rw [hown] at h
      exact List.mem_append_right _ h

namespace Expr

variable {S : Type}

/-- The construct of an expression with a choice at its root is that choice. -/
theorem kind_of_choice? {e : Expr S} {c : Choice (Expr S)} (h : e.choice? = some c) :
    e.kind = .choice c := by
  rcases e with ⟨n, k⟩
  cases k with
  | choice d =>
    cases h
    rfl
  | _ => cases h

/-- The parts of a choice are its arms and its error branch. -/
theorem children_of_choice? {e : Expr S} {c : Choice (Expr S)} (h : e.choice? = some c) :
    e.children = c.children :=
  congrArg Kind.children (kind_of_choice? h)

/-- The parts of a sequence are its items. -/
theorem children_of_sequence? {e : Expr S} {parts : List (Expr S)}
    (h : e.sequence? = some parts) : e.children = parts := by
  rcases e with ⟨n, k⟩
  cases k with
  | sequence items =>
    cases h
    rfl
  | _ => cases h

/-- What an operand brings is the operand itself or its parts. -/
theorem mem_children_batch {operand part : Expr S} {role : ArmRole}
    (h : part ∈ (operand.batch role).children) : part = operand ∨ part ∈ operand.children := by
  cases hhost : operand.host? role with
  | none =>
    rw [batch_of_host?_eq_none hhost] at h
    left
    cases role with
    | ordinary => simpa [Batch.ofArm, Batch.children] using h
    | default => simpa [Batch.ofArm, Batch.children] using h
    | recovery exits => simpa [Batch.ofArm, Batch.children] using h
  | some host =>
    rw [batch_of_host? hhost] at h
    right
    rw [children_of_choice? (plainChoice?_eq_some_iff.mp (host?_eq_some_iff.mp hhost).2).1]
    exact h

/-- The parts of a loop are its body or the parts of its body. -/
theorem mem_children_loopChoice {repetition : Repetition} {greedy : Option Bool}
    {body part : Expr S} (h : part ∈ (loopChoice repetition greedy body).children) :
    part = body ∨ part ∈ body.children := by
  unfold loopChoice at h
  split at h
  · rename_i c hplain
    right
    rw [children_of_choice? (plainChoice?_eq_some_iff.mp hplain).1]
    exact h
  · left
    simpa [Choice.children, Choice.recoveryBody?] using h

/-! ## Everywhere in a tree -/

/-- The nodes of a tree are its root and the nodes of its parts. -/
theorem nodes_node (n : Notes) (k : Kind S (Expr S)) :
    (node n k).nodes = node n k :: k.children.flatMap nodes := by
  rw [nodes, para_node, Kind.map_map_eq_self fun _ => rfl, Kind.children_map, List.flatMap_map]

/-- The construct of every node has a property. -/
def Everywhere (P : Kind S (Expr S) → Prop) (e : Expr S) : Prop :=
  ∀ x ∈ e.nodes, P x.kind

variable {P : Kind S (Expr S) → Prop} {n : Notes} {k : Kind S (Expr S)} {e : Expr S}

/-- A property holds everywhere if it holds at the root and everywhere in the parts. -/
theorem everywhere_node :
    Everywhere P (node n k) ↔ P k ∧ ∀ part ∈ k.children, Everywhere P part := by
  simp only [Everywhere, nodes_node, List.forall_mem_cons, List.mem_flatMap]
  constructor
  · rintro ⟨hroot, hparts⟩
    exact ⟨hroot, fun part hpart x hx => hparts x ⟨part, hpart, hx⟩⟩
  · rintro ⟨hroot, hparts⟩
    refine ⟨hroot, ?_⟩
    rintro x ⟨part, hpart, hx⟩
    exact hparts part hpart x hx

namespace Everywhere

/-- The property holds at the root. -/
theorem root (h : Everywhere P e) : P e.kind := by
  rcases e with ⟨n, k⟩
  exact (everywhere_node.mp h).1

/-- What follows from the property holds everywhere, too. -/
theorem imp {Q : Kind S (Expr S) → Prop} (h : Everywhere P e) (hPQ : ∀ k, P k → Q k) :
    Everywhere Q e :=
  fun x hx => hPQ x.kind (h x hx)

/-- The property holds everywhere in the parts. -/
theorem child (h : Everywhere P e) {part : Expr S} (hpart : part ∈ e.children) :
    Everywhere P part := by
  rcases e with ⟨n, k⟩
  exact (everywhere_node.mp h).2 part hpart

/-- The property holds everywhere in the expression and in its parts. -/
theorem self_or_child (h : Everywhere P e) {part : Expr S}
    (hpart : part = e ∨ part ∈ e.children) : Everywhere P part := by
  rcases hpart with rfl | hpart
  · exact h
  · exact h.child hpart

/-- Another construct with the same parts has to have the property at the root only. -/
theorem of_children_eq (h : Everywhere P e) (hparts : k.children = e.children) (hroot : P k) :
    Everywhere P (node n k) := by
  refine everywhere_node.mpr ⟨hroot, ?_⟩
  intro part hpart
  exact h.child (hparts ▸ hpart)

/-- The notes of a node do not matter. -/
theorem mapNotes (h : Everywhere P e) (f : Notes → Notes) : Everywhere P (e.mapNotes f) := by
  rcases e with ⟨n, k⟩
  exact h.of_children_eq rfl h.root

end Everywhere

/-- Without parts the root is the only node. -/
theorem everywhere_leaf (hleaf : k.children = []) (h : P k) : Everywhere P (node n k) := by
  rw [everywhere_node, hleaf]
  exact ⟨h, by simp⟩

/-! ## Sequences -/

/-- A change of the first member keeps what holds of all members. -/
theorem forall_mem_mapFirst {α : Type} {f : α → α} {Q : α → Prop} (hf : ∀ a, Q a → Q (f a))
    {l : List α} (h : ∀ a ∈ l, Q a) : ∀ a ∈ mapFirst f l, Q a := by
  cases l with
  | nil => exact h
  | cons first rest =>
    rw [List.forall_mem_cons] at h
    exact List.forall_mem_cons.mpr ⟨hf first h.1, h.2⟩

/-- A change of the last member keeps what holds of all members. -/
theorem forall_mem_mapLast {α : Type} {f : α → α} {Q : α → Prop} (hf : ∀ a, Q a → Q (f a))
    {l : List α} (h : ∀ a ∈ l, Q a) : ∀ a ∈ mapLast f l, Q a := by
  fun_induction mapLast f l with
  | case1 => exact h
  | case2 last => simpa using hf last (h last (by simp))
  | case3 first second rest ih =>
    rw [List.forall_mem_cons] at h
    exact List.forall_mem_cons.mpr ⟨h.1, ih h.2⟩

/-- The items that an expression brings into a sequence: the expression itself if it is
no sequence, has a saver, or is empty but has code, and otherwise its own items with its
code at both ends. -/
theorem items_cases (e : Expr S) :
    (e.items = [e] ∧ (e.sequence? = none ∨ e.notes.saver.isSome = true ∨
        (e.sequence? = some [] ∧ e.notes.hasCode = true))) ∨
      ∃ parts, e.sequence? = some parts ∧
        e.items = mapLast (runAfter e.notes.after) (mapFirst (runBefore e.notes.before) parts) := by
  rcases e with ⟨n, k⟩
  cases k with
  | sequence parts =>
    rw [items]
    split
    · rename_i hsaver
      exact Or.inl ⟨rfl, Or.inr (Or.inl hsaver)⟩
    · split
      · rename_i hempty
        rw [List.isEmpty_iff] at hempty
        subst hempty
        split
        · rename_i hcode
          exact Or.inl ⟨rfl, Or.inr (Or.inr ⟨rfl, hcode⟩)⟩
        · exact Or.inr ⟨[], rfl, rfl⟩
      · exact Or.inr ⟨parts, rfl, rfl⟩
  | _ =>
    refine Or.inl ⟨?_, Or.inl rfl⟩
    rw [items]
    intro m parts h
    cases h

/-- The property holds everywhere in the items that an expression brings. -/
theorem Everywhere.items (h : Everywhere P e) : ∀ item ∈ e.items, Everywhere P item := by
  rcases e.items_cases with ⟨hitems, -⟩ | ⟨parts, hparts, hitems⟩
  · rw [hitems]
    simpa using h
  · rw [hitems]
    refine forall_mem_mapLast (fun a ha => ha.mapNotes _) ?_
    refine forall_mem_mapFirst (fun a ha => ha.mapNotes _) ?_
    intro part hpart
    exact h.child (by rwa [children_of_sequence? hparts])

/-- For a sequence it is left to show that the list of all items has the property,
unless it is a single item. -/
theorem everywhere_sequence (location : Location) {parts : List (Expr S)}
    (hparts : ∀ part ∈ parts, Everywhere P part)
    (h : (parts.flatMap items).length ≠ 1 → P (.sequence (parts.flatMap items))) :
    Everywhere P (sequence location parts) := by
  have hitems : ∀ item ∈ parts.flatMap items, Everywhere P item := by
    intro item hitem
    obtain ⟨part, hpart, hmem⟩ := List.mem_flatMap.mp hitem
    exact (hparts part hpart).items item hmem
  unfold sequence
  split
  · rename_i only hflat
    exact hitems only (by simp [hflat])
  · rename_i hflat
    refine everywhere_node.mpr ⟨h ?_, hitems⟩
    intro hone
    obtain ⟨only, honly⟩ := List.length_eq_one_iff.mp hone
    exact hflat only honly

/-! ## Alternatives, loops and gates -/

/-- The parts of a join are its operands or the parts of its operands. -/
theorem mem_children_alternate {location : Location} {ordered : Bool} {left right part : Expr S}
    {leftRole rightRole : ArmRole}
    (h : part ∈ (alternate location ordered left leftRole right rightRole).1.children) :
    (part = left ∨ part ∈ left.children) ∨ part = right ∨ part ∈ right.children := by
  obtain ⟨host, side, batch, heq, hcases⟩ :=
    alternate_cases location ordered left leftRole right rightRole
  rw [heq] at h
  -- a host has the parts of its operand
  have hhost {operand : Expr S} {role : ArmRole} (hhost : operand.host? role = some host)
      (hmem : part ∈ host.children) : part = operand ∨ part ∈ operand.children := by
    have hbatch : part ∈ (operand.batch role).children := by
      rw [batch_of_host? hhost]
      exact hmem
    exact mem_children_batch hbatch
  rcases hcases with ⟨hself, -, rfl⟩ | ⟨-, hself, -, rfl⟩ | ⟨-, -, rfl, -, rfl⟩
  · rcases Choice.mem_children_insert h with hmem | hmem
    · exact Or.inl (hhost hself hmem)
    · exact Or.inr (mem_children_batch hmem)
  · rcases Choice.mem_children_insert h with hmem | hmem
    · exact Or.inr (hhost hself hmem)
    · exact Or.inl (mem_children_batch hmem)
  · rcases Choice.mem_children_insert h with hmem | hmem
    · rcases Choice.mem_children_insert hmem with hmem | hmem
      · cases hmem
      · exact Or.inl (mem_children_batch hmem)
    · exact Or.inr (mem_children_batch hmem)

/-- For a join it is left to show that the new choice has the property. -/
theorem everywhere_alternate {left right : Expr S} {location : Location} {ordered : Bool}
    {leftRole rightRole : ArmRole} (hleft : Everywhere P left) (hright : Everywhere P right)
    (h : ∀ c, (alternate location ordered left leftRole right rightRole).1.choice? = some c →
      P (.choice c)) :
    Everywhere P (alternate location ordered left leftRole right rightRole).1 := by
  have hparts : ∀ part ∈ (alternate location ordered left leftRole right rightRole).1.children,
      Everywhere P part := by
    intro part hpart
    rcases mem_children_alternate hpart with hpart | hpart
    · exact hleft.self_or_child hpart
    · exact hright.self_or_child hpart
  obtain ⟨host, side, batch, heq, -⟩ :=
    alternate_cases location ordered left leftRole right rightRole
  rw [heq] at h hparts ⊢
  exact everywhere_node.mpr ⟨h _ rfl, hparts⟩

/-- For a loop it is left to show that the new choice has the property. -/
theorem everywhere_loop {location : Location} {repetition : Repetition} {greedy : Option Bool}
    {body : Expr S} (hbody : Everywhere P body)
    (hloop : loop location repetition greedy body = .ok e)
    (h : P (.choice (loopChoice repetition greedy body))) : Everywhere P e := by
  obtain ⟨-, rfl⟩ := loop_eq_ok_iff.mp hloop
  refine everywhere_node.mpr ⟨h, ?_⟩
  intro part hpart
  exact hbody.self_or_child (mem_children_loopChoice hpart)

/-- A gate is built unless one of its sides is a gate. -/
theorem gate_eq_ok {location : Location} {predictor matcher : Expr S} {isEquivalence : Bool}
    (h : gate location predictor matcher isEquivalence = .ok e) :
    predictor.isGate = false ∧ matcher.isGate = false ∧
      e = ofKind location (.gate ⟨predictor, matcher, isEquivalence⟩) := by
  unfold gate at h
  split_ifs at h with hpredictor hmatcher
  cases h
  exact ⟨by simpa using hpredictor, by simpa using hmatcher, rfl⟩

/-- For a gate it is left to show that the new gate has the property. -/
theorem everywhere_gate {location : Location} {predictor matcher : Expr S}
    {isEquivalence : Bool} (hpredictor : Everywhere P predictor)
    (hmatcher : Everywhere P matcher)
    (hgate : gate location predictor matcher isEquivalence = .ok e)
    (h : P (.gate ⟨predictor, matcher, isEquivalence⟩)) : Everywhere P e := by
  obtain ⟨-, -, rfl⟩ := gate_eq_ok hgate
  refine everywhere_node.mpr ⟨h, ?_⟩
  simp [Kind.children, hpredictor, hmatcher]

/-! ## Copies and local assertions -/

/-- A copy stands where the expression stands. -/
theorem location_copy (e : Expr S) : e.copy.location = e.location := by
  rcases e with ⟨n, k⟩
  rw [copy_node]
  rfl

/-- Making an assertion local changes no part of it. -/
theorem everywhere_makeLocal (hassertion : ∀ a, P (.assertion a)) (h : Everywhere P e) :
    Everywhere P e.makeLocal := by
  rcases e with ⟨n, k⟩
  match k with
  | .assertion ⟨.ahead _, _, _, _⟩ => exact h.of_children_eq rfl (hassertion _)
  | .assertion ⟨.code _, _, _, _⟩ => exact h.of_children_eq rfl (hassertion _)
  | .terminal _ | .sequence _ | .choice _ | .gate _ | .call _ | .ruleEnd _ | .defaultError =>
    exact h

/-- Copies have a property that copying a node keeps. -/
theorem Everywhere.copy (hcopy : ∀ k, P k → P (k.map Expr.copy).forget) (h : Everywhere P e) :
    Everywhere P e.copy := by
  induction e using Expr.induction with
  | step n k ih =>
    obtain ⟨hroot, hparts⟩ := everywhere_node.mp h
    rw [copy_node, everywhere_node, Kind.children_forget, Kind.children_map]
    refine ⟨hcopy k hroot, ?_⟩
    intro part hpart
    obtain ⟨original, horiginal, rfl⟩ := List.mem_map.mp hpart
    exact ih original horiginal (hparts original horiginal)

end Expr

/-! ## The operators of a draft -/

namespace Draft

variable {S Item : Type} [SymbolSet S Item]

/-- A join is a terminal, or what joining the operands as they are gives. -/
theorem alternate_cases (d : Draft S) (ordered : Bool) (left : Expr S) (leftRole : ArmRole)
    (right : Expr S) (rightRole : ArmRole) :
    (∃ n s, (d.alternate ordered left leftRole right rightRole).1 = .node n (.terminal s)) ∨
      (d.alternate ordered left leftRole right rightRole).1 =
        (Expr.alternate (d.locationFor [left, right]) ordered left leftRole right rightRole).1 := by
  unfold alternate
  split_ifs with hroles
  · cases hunited : left.uniteTerminals? right with
    | none => exact Or.inr rfl
    | some terminal =>
      left
      unfold Expr.uniteTerminals? at hunited
      split at hunited
      · split_ifs at hunited
        cases hunited
        exact ⟨_, _, rfl⟩
      · cases hunited
  · exact Or.inr rfl

/-- For a join in a draft it is left to show the property for terminals and for the join of
the operands as they are. -/
theorem everywhere_alternate {P : Kind S (Expr S) → Prop} {d : Draft S} {ordered : Bool}
    {left right : Expr S} {leftRole rightRole : ArmRole} (hterminal : ∀ set, P (.terminal set))
    (hjoin : ∀ location,
      (Expr.alternate location ordered left leftRole right rightRole).1.Everywhere P) :
    (d.alternate ordered left leftRole right rightRole).1.Everywhere P := by
  rcases d.alternate_cases ordered left leftRole right rightRole with ⟨n, s, heq⟩ | heq
  · rw [heq]
    exact Expr.everywhere_leaf rfl (hterminal s)
  · rw [heq]
    exact hjoin _

/-- A call of a rule that is there has no parts. -/
theorem everywhere_call {P : Kind S (Expr S) → Prop} {d : Draft S} {id : RuleId}
    {params : List String} {e : Expr S}
    (hcall : ∀ rule, d.grammar.rule? id = some rule → P (.call ⟨id, rule.name, params⟩))
    (h : d.call id params = .ok e) : e.Everywhere P := by
  unfold call Grammar.call at h
  split at h
  · cases h
  · rename_i rule hrule
    cases h
    exact Expr.everywhere_leaf rfl (hcall rule hrule)

/-- Making leaving the default changes no part of a loop. -/
theorem everywhere_defaultExit {P : Kind S (Expr S) → Prop} (d : Draft S) {e : Expr S}
    (hexit : ∀ c, P (.choice c) → P (.choice { c with defaultArm := some .exit }))
    (h : e.Everywhere P) : (d.defaultExit e).1.Everywhere P := by
  rcases e with ⟨n, k⟩
  cases k with
  | choice c =>
    rw [defaultExit, Choice.setDefaultExit]
    split_ifs
    · exact h
    · exact h
    · exact h.of_children_eq rfl (hexit c h.root)
  | _ => exact h

/-- At least one body is the body and a star of its copy. -/
theorem plus_eq_ok {d : Draft S} {body e : Expr S} (h : d.plus body = .ok e) :
    ∃ rest, d.star body.copy = .ok rest ∧ e = d.seq body rest := by
  unfold plus at h
  cases hrest : d.star body.copy with
  | error err =>
    rw [hrest] at h
    cases h
  | ok rest =>
    rw [hrest] at h
    cases h
    exact ⟨rest, rfl, rfl⟩

end Draft

end GrammarTree
