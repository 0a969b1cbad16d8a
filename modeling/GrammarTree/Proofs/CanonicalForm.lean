import GrammarTree.Proofs.Everywhere
import GrammarTree.Symbol.CharClass

/-!
# Canonical form

Trees are kept flat: sequences do not stand in sequences, plain choices not among the
arms of choices, gates not at the sides of gates.  Operators flatten one level only
and rely on operands that are flat already, so the form is an invariant of all
operators together.

A default is kept whole, so it can bring a plain choice as an arm; this is the one
way out of the form.

Main results:

- Definition `Kind.Canonical`: the form of one node.
- Definition `Expr.Built`: the trees that the operators can build.
- Theorem `Expr.Built.canonical_everywhere`: every node of such a tree has the form.
-/

namespace GrammarTree

variable {S Item : Type}

/-! ## The form of a node -/

/-- Whether an expression can be an item of a sequence: a sequence is kept whole only
for its saver, or for its code if it has no items to carry it. -/
def Expr.IsItem (e : Expr S) : Prop :=
  ∀ parts, e.sequence? = some parts →
    e.notes.saver.isSome = true ∨ (parts = [] ∧ e.notes.hasCode = true)

/-- The form of a construct: a sequence has no item or several, an arm is no plain
choice, and a side of a gate is no gate. -/
def Kind.Canonical : Kind S (Expr S) → Prop
  | .sequence items => (items = [] ∨ 2 ≤ items.length) ∧ ∀ item ∈ items, item.IsItem
  | .choice c => ∀ arm ∈ c.arms, arm.plainChoice? = none
  | .gate g => g.predictor.isGate = false ∧ g.matcher.isGate = false
  | _ => True

/-- Whether all items of an expression can be items, if it is a sequence. -/
def Expr.Flat (e : Expr S) : Prop :=
  ∀ parts, e.sequence? = some parts → ∀ item ∈ parts, item.IsItem

/-- A sequence in canonical form is flat. -/
theorem Kind.Canonical.flat {e : Expr S} (h : e.kind.Canonical) : e.Flat := by
  intro parts hparts
  rcases e with ⟨n, k⟩
  cases k with
  | sequence items =>
    cases hparts
    exact h.2
  | _ => cases hparts

/-- Two fragments make one if there is one of them. -/
theorem Action.isSome_join (a b : Action) : (a.join b).isSome = (a.isSome || b.isSome) := by
  cases a <;> cases b <;> rfl

namespace Expr

variable {e : Expr S}

/-! ## Items -/

/-- New notes keep an item if they keep its saver and lose no code. -/
theorem IsItem.mapNotes (h : e.IsItem) {f : Notes → Notes} (hsaver : ∀ n, (f n).saver = n.saver)
    (hcode : ∀ n, n.hasCode = true → (f n).hasCode = true) : (e.mapNotes f).IsItem := by
  rcases e with ⟨n, k⟩
  intro parts hparts
  rcases h parts (by cases k <;> exact hparts) with hkept | ⟨rfl, hkept⟩
  · exact Or.inl ((congrArg Option.isSome (hsaver n)).trans hkept)
  · exact Or.inr ⟨rfl, hcode n hkept⟩

/-- Code in front of an item leaves it an item. -/
theorem IsItem.runBefore (h : e.IsItem) (code : Action) : (e.runBefore code).IsItem := by
  refine h.mapNotes (fun _ => rfl) ?_
  intro n hcode
  simp only [Notes.hasCode, Action.isSome_join, Bool.or_eq_true] at hcode ⊢
  exact hcode.imp_left Or.inr

/-- Code behind an item leaves it an item. -/
theorem IsItem.runAfter (h : e.IsItem) (code : Action) : (e.runAfter code).IsItem := by
  refine h.mapNotes (fun _ => rfl) ?_
  intro n hcode
  simp only [Notes.hasCode, Action.isSome_join, Bool.or_eq_true] at hcode ⊢
  exact hcode.imp_right Or.inl

/-- A flat expression brings items into a sequence. -/
theorem isItem_of_mem_items (h : e.Flat) : ∀ item ∈ e.items, item.IsItem := by
  rcases e.items_cases with ⟨hitems, hwhole⟩ | ⟨parts, hparts, hitems⟩
  · rw [hitems]
    simp only [List.mem_singleton, forall_eq]
    intro parts hparts
    rcases hwhole with hnone | hsaver | ⟨hempty, hcode⟩
    · rw [hnone] at hparts
      cases hparts
    · exact Or.inl hsaver
    · rw [hempty] at hparts
      cases hparts
      exact Or.inr ⟨rfl, hcode⟩
  · rw [hitems]
    refine forall_mem_mapLast (fun item hitem => hitem.runAfter _) ?_
    exact forall_mem_mapFirst (fun item hitem => hitem.runBefore _) (h parts hparts)

/-- A sequence of trees in canonical form is in canonical form. -/
theorem canonical_sequence (location : Location) {parts : List (Expr S)}
    (h : ∀ part ∈ parts, Everywhere Kind.Canonical part) :
    Everywhere Kind.Canonical (sequence location parts) := by
  refine everywhere_sequence location h ?_
  intro hlength
  refine ⟨?_, ?_⟩
  · cases hflat : parts.flatMap items with
    | nil => exact Or.inl rfl
    | cons first rest =>
      cases rest with
      | nil =>
        rw [hflat] at hlength
        exact absurd rfl hlength
      | cons second more => exact Or.inr (Nat.le_add_left 2 more.length)
  · intro item hitem
    obtain ⟨part, hpart, hmem⟩ := List.mem_flatMap.mp hitem
    exact isItem_of_mem_items (h part hpart).root.flat item hmem

/-! ## Arms -/

/-- The arms of a plain choice in canonical form are no plain choices. -/
theorem arms_of_plainChoice? {c : Choice (Expr S)} (h : e.kind.Canonical)
    (hplain : e.plainChoice? = some c) : ∀ arm ∈ c.arms, arm.plainChoice? = none := by
  have hchoice := (plainChoice?_eq_some_iff.mp hplain).1
  rcases e with ⟨n, k⟩
  cases k with
  | choice d =>
    cases hchoice
    exact h
  | _ => cases hchoice

/-- An operand brings no plain choice as an arm, unless it is one and a default. -/
theorem arms_batch {role : ArmRole} (h : e.kind.Canonical)
    (hdefault : role = .default → e.plainChoice? = none) :
    ∀ arm ∈ (e.batch role).arms, arm.plainChoice? = none := by
  cases hhost : e.host? role with
  | some host =>
    rw [batch_of_host? hhost]
    exact arms_of_plainChoice? h (host?_eq_some_iff.mp hhost).2
  | none =>
    rw [batch_of_host?_eq_none hhost]
    cases role with
    | ordinary =>
      have hplain : e.plainChoice? = none := hhost
      simpa [Batch.ofArm] using hplain
    | default => simpa [Batch.ofArm] using hdefault rfl
    | recovery exits => simp [Batch.ofArm]

/-- The arms after a batch was placed are those of the choice and those of the batch. -/
theorem forall_mem_arms_insert {c : Choice (Expr S)} {batch : Batch (Expr S)}
    {Q : Expr S → Prop} (hc : ∀ arm ∈ c.arms, Q arm) (hbatch : ∀ arm ∈ batch.arms, Q arm)
    (side : Side) (ordered : Bool) : ∀ arm ∈ (c.insert side ordered batch).arms, Q arm := by
  cases side with
  | front => exact List.forall_mem_append.mpr ⟨hbatch, hc⟩
  | back => exact List.forall_mem_append.mpr ⟨hc, hbatch⟩

/-- A join of trees in canonical form is in canonical form, unless a default is a plain
choice. -/
theorem canonical_alternate {left right : Expr S} (location : Location) (ordered : Bool)
    {leftRole rightRole : ArmRole} (hleft : Everywhere Kind.Canonical left)
    (hright : Everywhere Kind.Canonical right)
    (hleftDefault : leftRole = .default → left.plainChoice? = none)
    (hrightDefault : rightRole = .default → right.plainChoice? = none) :
    Everywhere Kind.Canonical (alternate location ordered left leftRole right rightRole).1 := by
  refine everywhere_alternate hleft hright ?_
  intro c hc
  have hleftArms := arms_batch hleft.root hleftDefault
  have hrightArms := arms_batch hright.root hrightDefault
  obtain ⟨host, side, batch, heq, hcases⟩ :=
    alternate_cases location ordered left leftRole right rightRole
  rw [heq] at hc
  cases hc
  rcases hcases with ⟨hhost, -, rfl⟩ | ⟨-, hhost, -, rfl⟩ | ⟨-, -, rfl, -, rfl⟩
  · rw [batch_of_host? hhost] at hleftArms
    exact forall_mem_arms_insert hleftArms hrightArms _ _
  · rw [batch_of_host? hhost] at hrightArms
    exact forall_mem_arms_insert hrightArms hleftArms _ _
  · refine forall_mem_arms_insert ?_ hrightArms _ _
    exact forall_mem_arms_insert (by simp) hleftArms _ _

/-- A loop around a tree in canonical form is in canonical form. -/
theorem canonical_loop {location : Location} {repetition : Repetition} {greedy : Option Bool}
    {body : Expr S} (hbody : Everywhere Kind.Canonical body)
    (h : loop location repetition greedy body = .ok e) : Everywhere Kind.Canonical e := by
  refine everywhere_loop hbody h ?_
  have harms : ∀ arm ∈ (loopChoice repetition greedy body).arms, arm.plainChoice? = none := by
    unfold loopChoice
    split
    · rename_i c hplain
      have hflat := arms_of_plainChoice? hbody.root hplain
      exact hflat
    · rename_i hplain
      simpa using hplain
  exact harms

/-! ## Copies -/

/-- A copy has the same notes, except for findings. -/
theorem notes_copy (e : Expr S) : e.copy.notes = { e.notes with finding := none } := by
  rcases e with ⟨n, k⟩
  rw [copy_node]
  rfl

/-- A copy is a sequence if the expression is one. -/
theorem sequence?_copy (e : Expr S) : e.copy.sequence? = e.sequence?.map (List.map copy) := by
  rcases e with ⟨n, k⟩
  rw [copy_node]
  match k with
  | .sequence _ => rfl
  | .assertion ⟨.ahead _, _, _, _⟩ => rfl
  | .assertion ⟨.code _, _, _, _⟩ => rfl
  | .terminal _ | .choice _ | .gate _ | .call _ | .ruleEnd _ | .defaultError => rfl

/-- A copy is a plain choice only if the expression is one. -/
theorem plainChoice?_copy_eq_none (h : e.plainChoice? = none) : e.copy.plainChoice? = none := by
  rcases e with ⟨n, k⟩
  rw [copy_node]
  match k with
  | .choice c =>
    rw [plainChoice?] at h
    split at h
    · rename_i hkept
      exact if_pos hkept
    · cases h
  | .assertion ⟨.ahead _, _, _, _⟩ => rfl
  | .assertion ⟨.code _, _, _, _⟩ => rfl
  | .terminal _ | .sequence _ | .gate _ | .call _ | .ruleEnd _ | .defaultError => rfl

/-- A copy is a gate if the expression is one. -/
theorem isGate_copy (e : Expr S) : e.copy.isGate = e.isGate := by
  rcases e with ⟨n, k⟩
  rw [copy_node]
  match k with
  | .gate _ => rfl
  | .assertion ⟨.ahead _, _, _, _⟩ => rfl
  | .assertion ⟨.code _, _, _, _⟩ => rfl
  | .terminal _ | .sequence _ | .choice _ | .call _ | .ruleEnd _ | .defaultError => rfl

/-- A copy of an item is an item. -/
theorem IsItem.copy (h : e.IsItem) : e.copy.IsItem := by
  intro parts hparts
  rw [sequence?_copy] at hparts
  obtain ⟨original, horiginal, rfl⟩ := Option.map_eq_some_iff.mp hparts
  rw [notes_copy]
  rcases h original horiginal with hsaver | ⟨rfl, hcode⟩
  · exact Or.inl hsaver
  · exact Or.inr ⟨rfl, hcode⟩

end Expr

/-- A copy of a node in canonical form is in canonical form. -/
theorem Kind.Canonical.copy {k : Kind S (Expr S)} (h : k.Canonical) :
    (k.map Expr.copy).forget.Canonical := by
  match k with
  | .sequence items =>
    obtain ⟨hcount, hitems⟩ := h
    refine ⟨by simpa using hcount, ?_⟩
    intro item hitem
    obtain ⟨original, horiginal, rfl⟩ := List.mem_map.mp hitem
    exact (hitems original horiginal).copy
  | .choice c =>
    intro arm harm
    obtain ⟨original, horiginal, rfl⟩ := List.mem_map.mp harm
    exact Expr.plainChoice?_copy_eq_none (h original horiginal)
  | .gate g => exact ⟨(Expr.isGate_copy _).trans h.1, (Expr.isGate_copy _).trans h.2⟩
  | .assertion ⟨.ahead _, _, _, _⟩ => trivial
  | .assertion ⟨.code _, _, _, _⟩ => trivial
  | .terminal _ | .call _ | .ruleEnd _ | .defaultError => trivial

/-! ## Everything that can be built -/

namespace Draft

variable [SymbolSet S Item] (d : Draft S)

/-- A join in a draft keeps the form, unless a default is a plain choice. -/
theorem canonical_alternate (ordered : Bool) {left right : Expr S}
    {leftRole rightRole : ArmRole} (hleft : left.Everywhere Kind.Canonical)
    (hright : right.Everywhere Kind.Canonical)
    (hleftDefault : leftRole = .default → left.plainChoice? = none)
    (hrightDefault : rightRole = .default → right.plainChoice? = none) :
    (d.alternate ordered left leftRole right rightRole).1.Everywhere Kind.Canonical := by
  refine everywhere_alternate (fun _ => trivial) ?_
  intro location
  exact Expr.canonical_alternate location ordered hleft hright hleftDefault hrightDefault

/-- At least one body keeps the form. -/
theorem canonical_plus {body e : Expr S} (hbody : body.Everywhere Kind.Canonical)
    (h : d.plus body = .ok e) : e.Everywhere Kind.Canonical := by
  obtain ⟨rest, hrest, rfl⟩ := plus_eq_ok h
  have hcopy := hbody.copy fun k hk => hk.copy
  refine Expr.canonical_sequence _ ?_
  simpa using ⟨hbody, Expr.canonical_loop hcopy hrest⟩

/-- Making leaving the default changes no arm. -/
theorem canonical_defaultExit {e : Expr S} (h : e.Everywhere Kind.Canonical) :
    (d.defaultExit e).1.Everywhere Kind.Canonical :=
  d.everywhere_defaultExit (fun _ hc => hc) h

/-- A call of a rule has no parts. -/
theorem canonical_call {id : RuleId} {params : List String} {e : Expr S}
    (h : d.call id params = .ok e) : e.Everywhere Kind.Canonical :=
  everywhere_call (fun _ _ => trivial) h

end Draft

namespace Expr

variable [SymbolSet S Item]

/-- Making an assertion local changes no part of it. -/
theorem canonical_makeLocal {e : Expr S} (h : Everywhere Kind.Canonical e) :
    Everywhere Kind.Canonical e.makeLocal :=
  everywhere_makeLocal (fun _ => trivial) h

/-- The trees that the operators can build, in drafts of any state.  A terminal of any set
is one, so single symbols, ranges and the end mark are.  No operand that is marked as a
default is a plain choice. -/
inductive Built : Expr S → Prop where
  | terminal (d : Draft S) (set : S) : Built (d.terminal set)
  | epsilon (d : Draft S) : Built d.epsilon
  | defaultError (d : Draft S) : Built d.defaultError
  | testCode (d : Draft S) (code : String) (negated : Bool) : Built (d.testCode code negated)
  | call {d : Draft S} {id : RuleId} {params : List String} {e : Expr S}
      (h : d.call id params = .ok e) : Built e
  | seq (d : Draft S) {first second : Expr S} (hfirst : Built first) (hsecond : Built second) :
      Built (d.seq first second)
  | seqAll (d : Draft S) {parts : List (Expr S)} (hparts : ∀ part ∈ parts, Built part) :
      Built (d.seqAll parts)
  | alternate (d : Draft S) (ordered : Bool) {left right : Expr S} {leftRole rightRole : ArmRole}
      (hleft : Built left) (hright : Built right)
      (hleftDefault : leftRole = .default → left.plainChoice? = none)
      (hrightDefault : rightRole = .default → right.plainChoice? = none) :
      Built (d.alternate ordered left leftRole right rightRole).1
  | loop {d : Draft S} {repetition : Repetition} {greedy : Option Bool} {body e : Expr S}
      (hbody : Built body) (h : d.loop repetition greedy body = .ok e) : Built e
  | plus {d : Draft S} {body e : Expr S} (hbody : Built body) (h : d.plus body = .ok e) : Built e
  | defaultExit (d : Draft S) {e : Expr S} (he : Built e) : Built (d.defaultExit e).1
  | gate {d : Draft S} {predictor matcher e : Expr S} {isEquivalence : Bool}
      (hpredictor : Built predictor) (hmatcher : Built matcher)
      (h : d.gate predictor matcher isEquivalence = .ok e) : Built e
  | testAhead (d : Draft S) {body : Expr S} (negated : Bool) (hbody : Built body) :
      Built (d.testAhead body negated)
  | makeLocal {e : Expr S} (he : Built e) : Built e.makeLocal
  | withBefore {e : Expr S} (code : String) (he : Built e) : Built (e.withBefore code)
  | withAfter {e : Expr S} (code : String) (he : Built e) : Built (e.withAfter code)
  | withSaver {e : Expr S} (saver : Saver) (he : Built e) : Built (e.withSaver saver)
  | withLocation {e : Expr S} (location : Location) (he : Built e) :
      Built (e.withLocation location)
  | copy {e : Expr S} (he : Built e) : Built e.copy

/-- Every node of a tree that the operators can build is in canonical form. -/
theorem Built.canonical_everywhere {e : Expr S} (h : Built e) :
    ∀ x ∈ e.nodes, x.kind.Canonical := by
  change e.Everywhere Kind.Canonical
  induction h with
  | terminal d set => exact everywhere_leaf rfl trivial
  | epsilon d => exact everywhere_leaf rfl ⟨Or.inl rfl, by simp⟩
  | defaultError d => exact everywhere_leaf rfl trivial
  | testCode d code negated => exact everywhere_leaf rfl trivial
  | call h => exact Draft.canonical_call _ h
  | seq d hfirst hsecond ihf ihs => exact canonical_sequence _ (by simp [ihf, ihs])
  | seqAll d hparts ih => exact canonical_sequence _ ih
  | alternate d ordered hleft hright hleftDefault hrightDefault ihl ihr =>
    exact d.canonical_alternate ordered ihl ihr hleftDefault hrightDefault
  | loop hbody h ih => exact canonical_loop ih h
  | plus hbody h ih => exact Draft.canonical_plus _ ih h
  | defaultExit d he ih => exact d.canonical_defaultExit ih
  | gate hpredictor hmatcher h ihp ihm =>
    obtain ⟨hp, hm, -⟩ := gate_eq_ok h
    exact everywhere_gate ihp ihm h ⟨hp, hm⟩
  | testAhead d negated hbody ih =>
    exact everywhere_node.mpr ⟨trivial, by simpa [Kind.children] using ih⟩
  | makeLocal he ih => exact canonical_makeLocal ih
  | withBefore code he ih => exact ih.mapNotes _
  | withAfter code he ih => exact ih.mapNotes _
  | withSaver saver he ih => exact ih.mapNotes _
  | withLocation location he ih => exact ih.mapNotes _
  | copy he ih => exact ih.copy fun k hk => hk.copy

/-- At least one of `a &{ready}` and `a`: the sequence of the choice and its star has
eleven nodes, all in canonical form. -/
theorem Built.canonical_everywhere_plus :
    let d : Draft CharClass := {}
    let a := d.terminal (CharClass.ofItems ['a'])
    let pair := d.seq a (d.testCode "ready" false)
    let either := (d.alternate true pair .ordinary a .ordinary).1
    ∃ e, d.plus either = .ok e ∧ Built e ∧ e.nodes.length = 11 ∧
      ∀ x ∈ e.nodes, x.kind.Canonical := by
  intro d a pair either
  have ha : Built a := .terminal d _
  have hpair : Built pair := .seq d ha (.testCode d "ready" false)
  have heither : Built either := .alternate d true hpair ha (by simp) (by simp)
  have hplus : Built _ := .plus heither (d := d) rfl
  refine ⟨_, rfl, hplus, ?_, hplus.canonical_everywhere⟩
  decide +kernel

end Expr

end GrammarTree
