import GrammarTree.Proofs.ClosedGrammar

/-!
# Locations that enclose

While no location is set, an operator places what it makes around its operands.  The operands
need not stay whole: a sequence gives up its items, a choice its arms, and what was made around
them is dropped.  Still no part ends up outside, because whatever was dropped stood around its
parts and inside of what takes them over.

Main results:

- Definition `Location.Encloses`: one location reaches as far as another on either side.
- Definition `Expr.Enclosing`: every node stands around all nodes below it.
- Theorem `Expr.enclosing_node`: it is enough to look at the parts of each node.
- Theorems `Expr.EnclosedBy.sequence`, `Expr.EnclosedBy.alternate`, `Expr.EnclosedBy.loop` and
  `Expr.EnclosedBy.gate`: what is made at a location that stands around the operands.
- Theorem `Draft.SessionAround.locations_enclose_subtrees`: what is made around its operands
  stands around all that is below it.
-/

namespace GrammarTree

/-! ## Locations -/

namespace Location

/-- One location reaches as far as another on either side.  A missing location is enclosed by
all others and encloses missing ones only. -/
def Encloses (outer inner : Location) : Prop :=
  ∀ s, inner = some s → ∃ t, outer = some t ∧ t.start ≤ s.start ∧ s.stop ≤ t.stop

variable {a b c : Location}

/-- A location encloses itself. -/
theorem Encloses.refl (a : Location) : a.Encloses a :=
  fun s hs => ⟨s, hs, Nat.le_refl _, Nat.le_refl _⟩

/-- What an enclosed location encloses is enclosed. -/
theorem Encloses.trans (hab : a.Encloses b) (hbc : b.Encloses c) : a.Encloses c := by
  intro s hs
  obtain ⟨t, ht, hstart, hstop⟩ := hbc s hs
  obtain ⟨u, hu, hstart', hstop'⟩ := hab t ht
  exact ⟨u, hu, Nat.le_trans hstart' hstart, Nat.le_trans hstop hstop'⟩

/-- A cover encloses its first operand. -/
theorem cover_encloses_left (a b : Location) : (a.cover b).Encloses a := by
  intro s hs
  subst hs
  cases b with
  | none => exact Encloses.refl _ s rfl
  | some t => exact ⟨s.cover t, rfl, Nat.min_le_left _ _, Nat.le_max_left _ _⟩

/-- A cover encloses its second operand. -/
theorem cover_encloses_right (a b : Location) : (a.cover b).Encloses b := by
  intro t ht
  subst ht
  cases a with
  | none => exact Encloses.refl _ t rfl
  | some s => exact ⟨s.cover t, rfl, Nat.min_le_right _ _, Nat.le_max_right _ _⟩

/-- Covering more locations lets go of nothing. -/
theorem foldl_cover_encloses (locations : List Location) (start : Location) :
    (locations.foldl cover start).Encloses start ∧
      ∀ l ∈ locations, (locations.foldl cover start).Encloses l := by
  induction locations generalizing start with
  | nil => exact ⟨Encloses.refl start, by simp⟩
  | cons first rest ih =>
    obtain ⟨hcover, hrest⟩ := ih (start.cover first)
    refine ⟨hcover.trans (cover_encloses_left start first), ?_⟩
    rw [List.forall_mem_cons]
    exact ⟨hcover.trans (cover_encloses_right start first), hrest⟩

/-- The location around a list of locations encloses each of them. -/
theorem coverAll_encloses {locations : List Location} (h : a ∈ locations) :
    (coverAll locations).Encloses a :=
  (foldl_cover_encloses locations none).2 a h

end Location

/-! ## Trees -/

namespace Expr

variable {S : Type}

/-- Every node of a tree stands around all nodes below it. -/
def Enclosing (e : Expr S) : Prop :=
  ∀ x ∈ e.nodes, ∀ y ∈ x.nodes, x.location.Encloses y.location

/-- A tree in which every node stands around those below it, and that stands in a location
itself. -/
structure EnclosedBy (outer : Location) (e : Expr S) : Prop where
  location : outer.Encloses e.location
  enclosing : e.Enclosing

variable {n : Notes} {k : Kind S (Expr S)} {e part : Expr S} {outer : Location}

/-- The root is one of the nodes. -/
theorem self_mem_nodes (e : Expr S) : e ∈ e.nodes := by
  rcases e with ⟨n, k⟩
  rw [nodes_node]
  exact List.mem_cons_self

/-- A wider location encloses as well. -/
theorem EnclosedBy.mono {wider : Location} (hwider : wider.Encloses outer)
    (h : e.EnclosedBy outer) : e.EnclosedBy wider :=
  ⟨hwider.trans h.location, h.enclosing⟩

/-- A tree that encloses its nodes is enclosed by its own location. -/
theorem Enclosing.enclosedBy (h : e.Enclosing) : e.EnclosedBy e.location :=
  ⟨Location.Encloses.refl _, h⟩

/-- The nodes of a tree that stands in a location stand there, too. -/
theorem EnclosedBy.encloses (h : e.EnclosedBy outer) {x : Expr S} (hx : x ∈ e.nodes) :
    outer.Encloses x.location :=
  h.location.trans (h.enclosing e e.self_mem_nodes x hx)

/-- Every node encloses all nodes below it if every node encloses its parts. -/
theorem enclosing_node :
    Enclosing (node n k) ↔ ∀ part ∈ k.children, part.EnclosedBy n.location := by
  have hnodes {x part : Expr S} (hpart : part ∈ k.children) (hx : x ∈ part.nodes) :
      x ∈ (node n k).nodes := by
    rw [nodes_node]
    exact List.mem_cons_of_mem _ (List.mem_flatMap.mpr ⟨part, hpart, hx⟩)
  constructor
  · intro h part hpart
    refine ⟨h _ (self_mem_nodes _) part (hnodes hpart part.self_mem_nodes), ?_⟩
    exact fun x hx => h x (hnodes hpart hx)
  · intro h x hx
    rw [nodes_node, List.mem_cons] at hx
    rcases hx with rfl | hx
    · intro y hy
      rw [nodes_node, List.mem_cons] at hy
      rcases hy with rfl | hy
      · exact Location.Encloses.refl _
      · -- the way down to a node below leads through a part
        obtain ⟨part, hpart, hy⟩ := List.mem_flatMap.mp hy
        exact (h part hpart).encloses hy
    · obtain ⟨part, hpart, hx⟩ := List.mem_flatMap.mp hx
      exact (h part hpart).enclosing x hx

/-- A tree without parts has nothing to enclose. -/
theorem enclosing_leaf (h : e.children = []) : e.Enclosing := by
  rcases e with ⟨n, k⟩
  rw [enclosing_node]
  intro part hpart
  rw [show k.children = [] from h] at hpart
  cases hpart

/-- Only the location of a node and its parts matter. -/
theorem Enclosing.of_children_eq (h : Enclosing (node n k)) {m : Notes} {l : Kind S (Expr S)}
    (hlocation : m.location = n.location) (hparts : l.children = k.children) :
    Enclosing (node m l) := by
  rw [enclosing_node, hlocation, hparts]
  exact enclosing_node.mp h

/-- The parts of a tree stand in its location. -/
theorem Enclosing.child (h : e.Enclosing) (hpart : part ∈ e.children) :
    part.EnclosedBy e.location := by
  rcases e with ⟨n, k⟩
  exact enclosing_node.mp h part hpart

namespace EnclosedBy

/-- What an operator takes over, an operand or its parts, stands where the operand stands. -/
theorem self_or_child (h : e.EnclosedBy outer) (hpart : part = e ∨ part ∈ e.children) :
    part.EnclosedBy outer := by
  rcases hpart with rfl | hpart
  · exact h
  · exact (h.enclosing.child hpart).mono h.location

/-- A new node at a location around its parts. -/
theorem ofKind (h : ∀ part ∈ k.children, part.EnclosedBy outer) :
    (ofKind outer k).EnclosedBy outer :=
  ⟨Location.Encloses.refl _, enclosing_node.mpr h⟩

/-- Notes do not matter as long as the location stays. -/
theorem mapNotes (h : e.EnclosedBy outer) {f : Notes → Notes}
    (hf : ∀ n, (f n).location = n.location) : (e.mapNotes f).EnclosedBy outer := by
  rcases e with ⟨n, k⟩
  refine ⟨?_, h.enclosing.of_children_eq (hf n) rfl⟩
  have hlocation : ((node n k).mapNotes f).location = (node n k).location := hf n
  rw [hlocation]
  exact h.location

/-- The items that an operand brings into a sequence stand where the operand stands. -/
theorem items (h : e.EnclosedBy outer) : ∀ item ∈ e.items, item.EnclosedBy outer := by
  rcases e.items_cases with ⟨hitems, -⟩ | ⟨parts, hparts, hitems⟩
  · rw [hitems]
    simpa using h
  · rw [hitems]
    -- code moves to the items at both ends, but they stay where they are
    refine forall_mem_mapLast (fun a ha => ha.mapNotes fun _ => rfl) ?_
    refine forall_mem_mapFirst (fun a ha => ha.mapNotes fun _ => rfl) ?_
    intro part hpart
    rw [← children_of_sequence? hparts] at hpart
    exact h.self_or_child (Or.inr hpart)

/-- A sequence at a location around its operands. -/
theorem sequence {parts : List (Expr S)} (h : ∀ part ∈ parts, part.EnclosedBy outer) :
    (sequence outer parts).EnclosedBy outer := by
  have hitems : ∀ item ∈ parts.flatMap Expr.items, item.EnclosedBy outer := by
    intro item hitem
    obtain ⟨part, hpart, hmem⟩ := List.mem_flatMap.mp hitem
    exact (h part hpart).items item hmem
  unfold Expr.sequence
  split
  · rename_i only hflat
    exact hitems only (by simp [hflat])
  · exact ofKind hitems

/-- A join at a location around its operands. -/
theorem alternate {left right : Expr S} (ordered : Bool) (leftRole rightRole : ArmRole)
    (hleft : left.EnclosedBy outer) (hright : right.EnclosedBy outer) :
    (alternate outer ordered left leftRole right rightRole).1.EnclosedBy outer := by
  have hparts : ∀ part ∈ (Expr.alternate outer ordered left leftRole right rightRole).1.children,
      part.EnclosedBy outer := by
    intro part hpart
    rcases mem_children_alternate hpart with hpart | hpart
    · exact hleft.self_or_child hpart
    · exact hright.self_or_child hpart
  obtain ⟨host, side, batch, heq, -⟩ :=
    alternate_cases outer ordered left leftRole right rightRole
  rw [heq] at hparts ⊢
  exact ofKind hparts

/-- A loop at a location around its body. -/
theorem loop {body : Expr S} {repetition : Repetition} {greedy : Option Bool}
    (hbody : body.EnclosedBy outer) (h : loop outer repetition greedy body = .ok e) :
    e.EnclosedBy outer := by
  obtain ⟨-, rfl⟩ := loop_eq_ok_iff.mp h
  refine ofKind ?_
  intro part hpart
  exact hbody.self_or_child (mem_children_loopChoice hpart)

/-- A gate at a location around both sides. -/
theorem gate {predictor matcher : Expr S} {isEquivalence : Bool}
    (hpredictor : predictor.EnclosedBy outer) (hmatcher : matcher.EnclosedBy outer)
    (h : gate outer predictor matcher isEquivalence = .ok e) : e.EnclosedBy outer := by
  obtain ⟨-, -, rfl⟩ := gate_eq_ok h
  refine ofKind ?_
  simpa [Kind.children] using ⟨hpredictor, hmatcher⟩

end EnclosedBy

namespace Enclosing

/-- Making an assertion local changes no location. -/
theorem makeLocal (h : e.Enclosing) : e.makeLocal.Enclosing := by
  rcases e with ⟨n, k⟩
  match k with
  | .assertion ⟨.ahead _, _, _, _⟩ | .assertion ⟨.code _, _, _, _⟩ =>
    exact h.of_children_eq rfl rfl
  | .terminal _ | .sequence _ | .choice _ | .gate _ | .call _ | .ruleEnd _ | .defaultError =>
    exact h

/-- The nodes of a copy stand where the nodes of the expression stand. -/
theorem copy (h : e.Enclosing) : e.copy.Enclosing := by
  induction e using Expr.induction with
  | step n k ih =>
    rw [copy_node, enclosing_node, Kind.children_forget, Kind.children_map]
    intro part hpart
    obtain ⟨original, horiginal, rfl⟩ := List.mem_map.mp hpart
    have hpart := enclosing_node.mp h original horiginal
    refine ⟨?_, ih original horiginal hpart.enclosing⟩
    rw [location_copy]
    exact hpart.location

end Enclosing

end Expr

/-! ## Operators of a draft -/

namespace Draft

variable {S Item : Type} [SymbolSet S Item] {d d' : Draft S} {made : List (Expr S)} {e : Expr S}

/-- While no location is set, an operator stands around its operands. -/
theorem enclosedBy_locationFor (hfree : d.location = none) {operands : List (Expr S)}
    {operand : Expr S} (hmem : operand ∈ operands) (h : operand.Enclosing) :
    operand.EnclosedBy (d.locationFor operands) := by
  rw [locationFor, hfree]
  exact ⟨Location.coverAll_encloses (List.mem_map_of_mem hmem), h⟩

/-- A list of expressions one after the other encloses its nodes. -/
theorem enclosing_seqAll (hfree : d.location = none) {parts : List (Expr S)}
    (h : ∀ part ∈ parts, part.Enclosing) : (d.seqAll parts).Enclosing :=
  (Expr.EnclosedBy.sequence fun part hpart =>
    enclosedBy_locationFor hfree hpart (h part hpart)).enclosing

/-- A join encloses its nodes: two terminals become a single node, and other operands are
placed into one choice around them. -/
theorem enclosing_alternate (hfree : d.location = none) (ordered : Bool) {left right : Expr S}
    (leftRole rightRole : ArmRole) (hleft : left.Enclosing) (hright : right.Enclosing) :
    (d.alternate ordered left leftRole right rightRole).1.Enclosing := by
  rcases d.alternate_cases ordered left leftRole right rightRole with ⟨n, s, heq⟩ | heq
  · rw [heq]
    exact Expr.enclosing_leaf rfl
  · rw [heq]
    refine (Expr.EnclosedBy.alternate ordered leftRole rightRole ?_ ?_).enclosing
    · exact enclosedBy_locationFor hfree (by simp) hleft
    · exact enclosedBy_locationFor hfree (by simp) hright

/-- A loop encloses its nodes. -/
theorem enclosing_loop (hfree : d.location = none) {repetition : Repetition}
    {greedy : Option Bool} {body : Expr S} (hbody : body.Enclosing)
    (h : d.loop repetition greedy body = .ok e) : e.Enclosing :=
  ((enclosedBy_locationFor hfree List.mem_cons_self hbody).loop h).enclosing

/-- The body and the star of its copy are one after the other. -/
theorem enclosing_plus (hfree : d.location = none) {body : Expr S} (hbody : body.Enclosing)
    (h : d.plus body = .ok e) : e.Enclosing := by
  obtain ⟨rest, hrest, rfl⟩ := plus_eq_ok h
  have hstar : rest.Enclosing := enclosing_loop hfree hbody.copy hrest
  refine enclosing_seqAll hfree ?_
  simpa using ⟨hbody, hstar⟩

/-- A gate encloses its nodes. -/
theorem enclosing_gate (hfree : d.location = none) {predictor matcher : Expr S}
    {isEquivalence : Bool} (hpredictor : predictor.Enclosing) (hmatcher : matcher.Enclosing)
    (h : d.gate predictor matcher isEquivalence = .ok e) : e.Enclosing := by
  refine (Expr.EnclosedBy.gate ?_ ?_ h).enclosing
  · exact enclosedBy_locationFor hfree (by simp) hpredictor
  · exact enclosedBy_locationFor hfree (by simp) hmatcher

/-- A test for coming input encloses its nodes. -/
theorem enclosing_testAhead (hfree : d.location = none) {body : Expr S} (negated : Bool)
    (hbody : body.Enclosing) : (d.testAhead body negated).Enclosing := by
  refine (Expr.EnclosedBy.ofKind ?_).enclosing
  simpa [Kind.children] using enclosedBy_locationFor hfree List.mem_cons_self hbody

/-- Making leaving the default changes no location. -/
theorem enclosing_defaultExit (d : Draft S) (h : e.Enclosing) :
    (d.defaultExit e).1.Enclosing := by
  rcases e with ⟨n, k⟩
  cases k with
  | choice c =>
    rw [defaultExit, Choice.setDefaultExit]
    split_ifs
    · exact h
    · exact h
    · exact h.of_children_eq rfl rfl
  | _ => exact h

/-! ## Sessions -/

/-- What one operator makes of the expressions that are there, and the draft behind it, if
operands are combined while no location is set.  Leaves stand anywhere: those that the draft
makes stand at the location that is set then, and others may be taken from elsewhere. -/
inductive MakesAround (d : Draft S) (made : List (Expr S)) : Expr S → Draft S → Prop where
  | leaf {e : Expr S} (hleaf : e.children = []) : MakesAround d made e d
  | seq (hfree : d.location = none) {first second : Expr S} (hfirst : first ∈ made)
      (hsecond : second ∈ made) : MakesAround d made (d.seq first second) d
  | seqAll (hfree : d.location = none) {parts : List (Expr S)}
      (hparts : ∀ part ∈ parts, part ∈ made) : MakesAround d made (d.seqAll parts) d
  | alternate (hfree : d.location = none) (ordered : Bool) {left right : Expr S}
      (leftRole rightRole : ArmRole) (hleft : left ∈ made) (hright : right ∈ made) :
      MakesAround d made (d.alternate ordered left leftRole right rightRole).1
        (d.alternate ordered left leftRole right rightRole).2
  | loop (hfree : d.location = none) {repetition : Repetition} {greedy : Option Bool}
      {body e : Expr S} (hbody : body ∈ made) (h : d.loop repetition greedy body = .ok e) :
      MakesAround d made e d
  | plus (hfree : d.location = none) {body e : Expr S} (hbody : body ∈ made)
      (h : d.plus body = .ok e) : MakesAround d made e d
  | gate (hfree : d.location = none) {predictor matcher e : Expr S} {isEquivalence : Bool}
      (hpredictor : predictor ∈ made) (hmatcher : matcher ∈ made)
      (h : d.gate predictor matcher isEquivalence = .ok e) : MakesAround d made e d
  | testAhead (hfree : d.location = none) {body : Expr S} (negated : Bool) (hbody : body ∈ made) :
      MakesAround d made (d.testAhead body negated) d
  | defaultExit {e : Expr S} (he : e ∈ made) :
      MakesAround d made (d.defaultExit e).1 (d.defaultExit e).2
  | makeLocal {e : Expr S} (he : e ∈ made) : MakesAround d made e.makeLocal d
  /-- User code, savers and findings are put on a node. -/
  | mapNotes {e : Expr S} (f : Notes → Notes) (hf : ∀ n, (f n).location = n.location)
      (he : e ∈ made) : MakesAround d made (e.mapNotes f) d
  | copy {e : Expr S} (he : e ∈ made) : MakesAround d made e.copy d

/-- The states that a draft of an empty grammar can come to, each with all the expressions that
were made so far, if operands are combined while no location is set. -/
inductive SessionAround : Draft S → List (Expr S) → Prop where
  | start (settings : Settings) : SessionAround (ofSettings settings) []
  | moveTo {d : Draft S} {made : List (Expr S)} (h : SessionAround d made)
      (location : Location) : SessionAround (d.moveTo location) made
  | make {d d' : Draft S} {made : List (Expr S)} {e : Expr S} (h : SessionAround d made)
      (he : d.MakesAround made e d') : SessionAround d' (e :: made)
  | request {d : Draft S} {made : List (Expr S)} (h : SessionAround d made) (request : Request S)
      (hbody : ∀ body, request.body? = some body → body ∈ made) :
      SessionAround (d.perform request) made

/-- What one operator makes encloses its nodes, if all that is there does. -/
theorem MakesAround.enclosing (h : d.MakesAround made e d') (hmade : ∀ x ∈ made, x.Enclosing) :
    e.Enclosing := by
  cases h with
  | leaf hleaf => exact Expr.enclosing_leaf hleaf
  | seq hfree hfirst hsecond =>
    refine enclosing_seqAll hfree ?_
    simpa using ⟨hmade _ hfirst, hmade _ hsecond⟩
  | seqAll hfree hparts =>
    exact enclosing_seqAll hfree fun part hpart => hmade part (hparts part hpart)
  | alternate hfree ordered leftRole rightRole hleft hright =>
    exact enclosing_alternate hfree ordered leftRole rightRole (hmade _ hleft) (hmade _ hright)
  | loop hfree hbody h => exact enclosing_loop hfree (hmade _ hbody) h
  | plus hfree hbody h => exact enclosing_plus hfree (hmade _ hbody) h
  | gate hfree hpredictor hmatcher h =>
    exact enclosing_gate hfree (hmade _ hpredictor) (hmade _ hmatcher) h
  | testAhead hfree negated hbody => exact enclosing_testAhead hfree negated (hmade _ hbody)
  | defaultExit he => exact d.enclosing_defaultExit (hmade _ he)
  | makeLocal he => exact (hmade _ he).makeLocal
  | mapNotes f hf he => exact ((hmade _ he).enclosedBy.mapNotes hf).enclosing
  | copy he => exact (hmade _ he).copy

/-- No operator changes the grammar. -/
theorem MakesAround.grammar_eq (h : d.MakesAround made e d') : d'.grammar = d.grammar := by
  cases h with
  | alternate hfree ordered leftRole rightRole hleft hright => exact d.grammar_alternate _ _ _ _ _
  | defaultExit he => exact d.grammar_defaultExit _
  | _ => rfl

namespace SessionAround

/-- All that is made encloses its nodes. -/
theorem enclosing (h : SessionAround d made) : ∀ e ∈ made, e.Enclosing := by
  induction h with
  | start settings => simp
  | moveTo _ location ih => exact ih
  | make _ he ih => exact List.forall_mem_cons.mpr ⟨he.enclosing ih, ih⟩
  | request _ request hbody ih => exact ih

/-- The bodies of the rules were made. -/
theorem body_mem_made (h : SessionAround d made) {id : RuleId} {body : Expr S}
    (hbody : d.grammar.body? id = some body) : body ∈ made := by
  induction h with
  | start settings => simp [ofSettings, Grammar.body?, Grammar.rule?] at hbody
  | moveTo _ location ih => exact ih hbody
  | make _ he ih =>
    rw [he.grammar_eq] at hbody
    exact List.mem_cons_of_mem _ (ih hbody)
  | request _ request hgiven ih =>
    rcases Grammar.body?_perform hbody with hold | hnew
    · exact ih hold
    · exact hgiven body hnew

/-- If operands are combined only while no location is set, every node of all that is made, and
so of every body of a rule, stands around all nodes below it, wherever the leaves stand: if one
of those has a location, the node has one that starts no later and stops no earlier. -/
theorem locations_enclose_subtrees (h : SessionAround d made) :
    (∀ e ∈ made, ∀ x ∈ e.nodes, ∀ y ∈ x.nodes, x.location.Encloses y.location) ∧
      ∀ id body, d.grammar.body? id = some body →
        ∀ x ∈ body.nodes, ∀ y ∈ x.nodes, x.location.Encloses y.location :=
  ⟨h.enclosing, fun _ _ hbody => h.enclosing _ (h.body_mem_made hbody)⟩

/-- A terminal that stops before it starts and a test, one after the other and at least once, or
a call that stands nowhere.  The pair dissolves into a longer sequence and is whole in the star. -/
theorem locations_enclose_subtrees_plus :
    let d : Draft CharClass := ofSettings {}
    let word := (d.moveTo (some ⟨7, 2⟩)).terminal (CharClass.ofItems ['a'])
    let test := (d.moveTo (some ⟨3, 5⟩)).testCode "ready" false
    let call := Expr.ofKind none (.call ⟨⟨0⟩, "item", []⟩)
    let pair := Expr.ofKind (some ⟨3, 5⟩) (.sequence [word, test])
    let star := Expr.ofKind (some ⟨3, 5⟩) (.choice { repetition := .star, arms := [pair] })
    let many := Expr.ofKind (some ⟨3, 5⟩) (.sequence [word, test, star])
    let choice := (d.alternate false many .ordinary call .ordinary).1
    d.seq word test = pair ∧ d.plus pair = .ok many ∧ choice.location = some ⟨3, 5⟩ ∧
      (∃ made, SessionAround d (choice :: made)) ∧
      ∀ x ∈ choice.nodes, ∀ y ∈ x.nodes, x.location.Encloses y.location := by
  intro d word test call pair star many choice
  have hpair : d.seq word test = pair := rfl
  have hmany : d.plus pair = .ok many := rfl
  have hword : SessionAround (d.moveTo (some ⟨7, 2⟩)) [word] :=
    ((SessionAround.start {}).moveTo _).make (.leaf rfl)
  have htest : SessionAround (d.moveTo (some ⟨3, 5⟩)) [test, word] :=
    (hword.moveTo (some ⟨3, 5⟩)).make (.leaf rfl)
  have hcall : SessionAround d [call, test, word] := (htest.moveTo none).make (.leaf rfl)
  have hoperands : word ∈ [call, test, word] ∧ test ∈ [call, test, word] := by simp
  have hseq : SessionAround d [pair, call, test, word] :=
    hcall.make (.seq rfl hoperands.1 hoperands.2)
  have hplus := hseq.make (.plus rfl List.mem_cons_self hmany)
  have hsession : SessionAround d (choice :: [many, pair, call, test, word]) :=
    hplus.make (.alternate rfl false .ordinary .ordinary (by simp) (by simp))
  exact ⟨hpair, hmany, rfl, ⟨_, hsession⟩,
    hsession.locations_enclose_subtrees.1 choice List.mem_cons_self⟩

end SessionAround

end Draft

end GrammarTree
