import GrammarTree.Proofs.Making
import GrammarTree.Symbol.CharClass

/-!
# Nested loops

A loop cannot be the body of a loop.  The body is looked at before it gives up its arms,
though.  A choice that is tried once and has a loop as its only arm is no loop, so it can be
the body of one, and then the loop in it becomes the only arm.

Such choices are made in one way only, by a loop that is tried once around a loop.  In a
session without them no loop ever stands directly in a loop: joins bring two arms or an error
branch.

Main results:

- Definition `Choice.NestsLoop`: nothing stands between a loop and the loop in it.
- Theorem `Draft.upholds_unnested`: operators nest no loops, apart from the one way.
- Theorem `Draft.Session.loops_stay_apart`: what is made in a session without that way.
- Theorem `Draft.Session.wrapped_star_is_nested`: a session that nests a star in a star.
-/

namespace GrammarTree

variable {S Item : Type}

/-! ## Loops in loops -/

/-- A loop without user code. -/
def Expr.IsBareLoop (e : Expr S) : Prop :=
  e.notes.hasActions = false ∧ ∃ c, e.choice? = some c ∧ c.isLoop = true

/-- A choice that has one arm, which is a bare loop, and no error branch. -/
def Choice.WrapsLoop (c : Choice (Expr S)) : Prop :=
  c.recovery = none ∧ ∃ arm, c.arms = [arm] ∧ arm.IsBareLoop

/-- A loop with nothing between it and the loop in it. -/
def Choice.NestsLoop (c : Choice (Expr S)) : Prop :=
  c.isLoop = true ∧ c.WrapsLoop

/-- A choice that wraps no loop and has an arm or an error branch. -/
structure Choice.Unnested (c : Choice (Expr S)) : Prop where
  not_wrapsLoop : ¬ c.WrapsLoop
  arms_ne_nil : c.recovery = none → c.arms ≠ []

/-- The construct is no choice, or an unnested one. -/
def Kind.Unnested (k : Kind S (Expr S)) : Prop :=
  ∀ c, k = .choice c → c.Unnested

/-- Two arms are enough. -/
theorem Choice.unnested_of_two_le {c : Choice (Expr S)}
    (h : c.recovery = none → 2 ≤ c.arms.length) : c.Unnested := by
  constructor
  · rintro ⟨hrecovery, arm, harms, -⟩
    have hlength := h hrecovery
    simp [harms] at hlength
  · intro hrecovery hnil
    have hlength := h hrecovery
    simp [hnil] at hlength

/-- There is no error branch if neither the choice nor the batch has one. -/
theorem Choice.insert_recovery_eq_none_iff {α : Type} {c : Choice α} {side : Side}
    {ordered : Bool} {batch : Batch α} :
    (c.insert side ordered batch).recovery = none ↔ c.recovery = none ∧ batch.recovery = none := by
  rw [insert_recovery]
  cases c.recovery <;> simp

namespace Expr

/-- Everywhere unnested is unnested at the root. -/
theorem Everywhere.unnested {e : Expr S} {c : Choice (Expr S)} (h : e.Everywhere Kind.Unnested)
    (hc : e.choice? = some c) : c.Unnested :=
  h.root c (kind_of_choice? hc)

/-- Everywhere unnested means that no loop stands directly in a loop. -/
theorem Everywhere.not_nestsLoop {e : Expr S} (h : e.Everywhere Kind.Unnested) :
    ∀ x ∈ e.nodes, ∀ c, x.choice? = some c → ¬ c.NestsLoop := by
  intro x hx c hc
  exact fun hnests => (h x hx c (kind_of_choice? hc)).not_wrapsLoop hnests.2

/-! ## Joins -/

/-- An operand brings an arm or an error branch. -/
theorem length_batch_arms_pos {operand : Expr S} (h : operand.Everywhere Kind.Unnested)
    {role : ArmRole} (hrecovery : (operand.batch role).recovery = none) :
    0 < (operand.batch role).arms.length := by
  cases hhost : operand.host? role with
  | none =>
    rw [batch_of_host?_eq_none hhost] at hrecovery ⊢
    cases role with
    | ordinary => exact Nat.one_pos
    | default => exact Nat.one_pos
    | recovery exits => cases hrecovery
  | some host =>
    rw [batch_of_host? hhost] at hrecovery ⊢
    have hchoice := (plainChoice?_eq_some_iff.mp (host?_eq_some_iff.mp hhost).2).1
    exact List.length_pos_iff.mpr ((h.unnested hchoice).arms_ne_nil hrecovery)

/-- A join brings two arms or an error branch. -/
theorem unnested_alternate {location : Location} {ordered : Bool} {left right : Expr S}
    {leftRole rightRole : ArmRole} {c : Choice (Expr S)} (hleft : left.Everywhere Kind.Unnested)
    (hright : right.Everywhere Kind.Unnested)
    (hc : (alternate location ordered left leftRole right rightRole).1.choice? = some c) :
    c.Unnested := by
  obtain ⟨host, side, batch, heq, hcases⟩ :=
    alternate_cases location ordered left leftRole right rightRole
  rw [heq] at hc
  cases hc
  refine Choice.unnested_of_two_le ?_
  intro hrecovery
  rw [Choice.insert_recovery_eq_none_iff] at hrecovery
  rw [Choice.length_arms_insert]
  -- a host brings its own arms as a batch would
  have hhost {operand : Expr S} {role : ArmRole} (hoperand : operand.Everywhere Kind.Unnested)
      (hself : operand.host? role = some host) : 0 < host.arms.length := by
    have hbatch := batch_of_host? hself
    have hpos : 0 < (operand.batch role).arms.length :=
      length_batch_arms_pos hoperand (by rw [hbatch]; exact hrecovery.1)
    rw [hbatch] at hpos
    exact hpos
  rcases hcases with ⟨hself, -, rfl⟩ | ⟨-, hself, -, rfl⟩ | ⟨-, -, rfl, -, rfl⟩
  · exact Nat.add_le_add (hhost hleft hself) (length_batch_arms_pos hright hrecovery.2)
  · exact Nat.add_le_add (hhost hright hself) (length_batch_arms_pos hleft hrecovery.2)
  · rw [Choice.insert_recovery_eq_none_iff] at hrecovery
    rw [Choice.length_arms_insert]
    have hfirst := length_batch_arms_pos hleft hrecovery.1.2
    have hsecond := length_batch_arms_pos hright hrecovery.2
    omega

/-! ## Loops -/

/-- A loop is unnested, unless it is tried once and has a bare loop as its body. -/
theorem unnested_loopChoice {location : Location} {repetition : Repetition}
    {greedy : Option Bool} {body e : Expr S} (hbody : body.Everywhere Kind.Unnested)
    (hwraps : repetition = .once → ¬ body.IsBareLoop)
    (h : loop location repetition greedy body = .ok e) :
    (loopChoice repetition greedy body).Unnested := by
  unfold loopChoice
  split
  · rename_i c hplain
    have hc : c.Unnested := hbody.unnested (plainChoice?_eq_some_iff.mp hplain).1
    exact ⟨hc.not_wrapsLoop, hc.arms_ne_nil⟩
  · refine ⟨?_, fun _ => List.cons_ne_nil _ _⟩
    rintro ⟨-, arm, harms, hloop⟩
    cases harms
    -- a loop around a loop was refused, so only a choice that is tried once is left
    cases hrepetition : repetition with
    | once => exact hwraps hrepetition hloop
    | optional => exact (loop_eq_ok_iff.mp h).1 ⟨by rw [hrepetition]; rfl, hloop.2⟩
    | star => exact (loop_eq_ok_iff.mp h).1 ⟨by rw [hrepetition]; rfl, hloop.2⟩

/-- A loop has a loop directly in it exactly if its body was a plain choice that wraps one. -/
theorem nestsLoop_loop_iff {location : Location} {repetition : Repetition}
    {greedy : Option Bool} {body e : Expr S} (hrepetition : repetition.isLoop = true)
    (h : loop location repetition greedy body = .ok e) :
    (∃ c, e.choice? = some c ∧ c.NestsLoop) ↔ ∃ c, body.plainChoice? = some c ∧ c.WrapsLoop := by
  obtain ⟨hapart, rfl⟩ := loop_eq_ok_iff.mp h
  unfold loopChoice
  split
  · rename_i c hplain
    constructor
    · rintro ⟨d, hd, -, hwraps⟩
      cases hd
      exact ⟨c, hplain, hwraps⟩
    · rintro ⟨d, hd, hwraps⟩
      rw [hplain] at hd
      cases hd
      exact ⟨_, rfl, hrepetition, hwraps⟩
  · rename_i hplain
    constructor
    · rintro ⟨d, hd, -, -, arm, harms, hloop⟩
      cases hd
      cases harms
      exact absurd ⟨hrepetition, hloop.2⟩ hapart
    · rintro ⟨d, hd, -⟩
      rw [hplain] at hd
      cases hd

/-- Around a loop no loop is made. -/
theorem loop_of_loop (location : Location) {repetition : Repetition} (greedy : Option Bool)
    {body : Expr S} {inner : Choice (Expr S)} (hrepetition : repetition.isLoop = true)
    (hinner : body.choice? = some inner) (hloop : inner.isLoop = true) :
    loop location repetition greedy body =
      .error (.nestedLoop location repetition inner.repetition) := by
  simp [loop, hinner, hrepetition, hloop]

/-! ## Copies -/

/-- The choice of a copy is the copied choice. -/
theorem choice?_copy (e : Expr S) :
    e.copy.choice? = e.choice?.map fun c =>
      { c with
        arms := c.arms.map copy
        recovery := c.recovery.map fun branch => ⟨branch.body.copy, branch.exits⟩
        reported := [] } := by
  rcases e with ⟨n, k⟩
  match k with
  | .choice c => rw [copy_choice]; rfl
  | .assertion ⟨.ahead _, _, _, _⟩ | .assertion ⟨.code _, _, _, _⟩ => rw [copy_node]; rfl
  | .terminal _ | .sequence _ | .gate _ | .call _ | .ruleEnd _ | .defaultError =>
    rw [copy_node]; rfl

/-- A copy is a bare loop only if the expression is one. -/
theorem IsBareLoop.of_copy {e : Expr S} (h : e.copy.IsBareLoop) : e.IsBareLoop := by
  obtain ⟨hactions, c, hc, hloop⟩ := h
  rw [choice?_copy, Option.map_eq_some_iff] at hc
  obtain ⟨d, hd, rfl⟩ := hc
  refine ⟨?_, d, hd, hloop⟩
  rcases e with ⟨n, k⟩
  rw [copy_node] at hactions
  exact hactions

end Expr

/-- A copy is unnested if the construct is. -/
theorem Kind.Unnested.copy {k : Kind S (Expr S)} (h : k.Unnested) :
    (k.map Expr.copy).forget.Unnested := by
  match k with
  | .choice c =>
    intro copied hcopied
    cases hcopied
    constructor
    · rintro ⟨hrecovery, arm, harms, hloop⟩
      obtain ⟨original, horiginal, rfl⟩ := List.map_eq_singleton_iff.mp harms
      exact (h c rfl).not_wrapsLoop
        ⟨Option.map_eq_none_iff.mp hrecovery, original, horiginal, hloop.of_copy⟩
    · intro hrecovery hnil
      have hnone : c.recovery = none := Option.map_eq_none_iff.mp hrecovery
      exact (h c rfl).arms_ne_nil hnone (List.map_eq_nil_iff.mp hnil)
  | .assertion ⟨.ahead _, _, _, _⟩ | .assertion ⟨.code _, _, _, _⟩ =>
    intro _ h
    cases h
  | .terminal _ | .sequence _ | .gate _ | .call _ | .ruleEnd _ | .defaultError =>
    intro _ h
    cases h

/-! ## Sessions -/

namespace Draft

variable [SymbolSet S Item]

/-- No operator nests loops if no choice is made of a bare loop. -/
theorem upholds_unnested (d : Draft S) :
    d.Upholds (fun body => ¬ body.IsBareLoop) Kind.Unnested where
  terminal _ _ h := by cases h
  sequence _ _ h := by cases h
  gate _ _ h := by cases h
  assertion _ _ h := by cases h
  defaultError _ h := by cases h
  call _ _ _ h := by cases h
  join hleft hright hc _ h := by
    cases h
    exact Expr.unnested_alternate hleft hright hc
  loop hbody hwraps hloop _ h := by
    cases h
    exact Expr.unnested_loopChoice hbody hwraps hloop
  exit {c} hc _ h := by
    cases h
    exact ⟨(hc c rfl).not_wrapsLoop, (hc c rfl).arms_ne_nil⟩
  copy hk := hk.copy

/-- At least one of a loop is not made, as no star is made around its copy. -/
theorem plus_of_loop {d : Draft S} {body : Expr S} {inner : Choice (Expr S)}
    (hinner : body.choice? = some inner) (hloop : inner.isLoop = true) :
    d.plus body = .error (.nestedLoop (d.locationFor [body]) .star inner.repetition) := by
  have hlocation : d.locationFor [body.copy] = d.locationFor [body] := by
    simp only [locationFor, List.map_cons, List.map_nil, Expr.location_copy]
  have hstar : d.star body.copy =
      .error (.nestedLoop (d.locationFor [body]) .star inner.repetition) := by
    have hcopy := Expr.choice?_copy body
    rw [hinner, Option.map_some] at hcopy
    have hisLoop : Repetition.star.isLoop = true := rfl
    have hrefused := Expr.loop_of_loop (d.locationFor [body]) none hisLoop hcopy hloop
    rw [← hlocation] at hrefused ⊢
    exact hrefused
  rw [plus, hstar]
  rfl

namespace Session

variable {d : Draft S} {made : List (Expr S)}

/-- All that is made in a session without choices of bare loops is unnested everywhere. -/
theorem unnested (h : Session (fun body => ¬ body.IsBareLoop) d made) :
    ∀ e ∈ made, e.Everywhere Kind.Unnested := by
  induction h with
  | start settings => simp
  | moveTo _ location ih => exact ih
  | make _ he ih => exact List.forall_mem_cons.mpr ⟨(upholds_unnested _).everywhere ih he, ih⟩
  | request _ request hbody ih => exact ih

/-- In a session in which no choice is made of a bare loop, no loop stands directly in a loop,
whatever is made.  A loop around a loop is refused, and so is at least one of a loop; around
anything else there is a loop.  In any session a loop has a loop directly in it only if its
body was a plain choice that wraps one. -/
theorem loops_stay_apart (h : Session (fun body => ¬ body.IsBareLoop) d made) :
    (∀ e ∈ made, ∀ x ∈ e.nodes, ∀ c, x.choice? = some c → ¬ c.NestsLoop) ∧
      (∀ body ∈ made, ∀ location repetition greedy, repetition.isLoop = true →
        (∀ inner, body.choice? = some inner → inner.isLoop = true →
          Expr.loop location repetition greedy body =
              .error (.nestedLoop location repetition inner.repetition) ∧
            d.plus body = .error (.nestedLoop (d.locationFor [body]) .star inner.repetition)) ∧
        ((∀ inner, body.choice? = some inner → inner.isLoop = false) →
          ∃ e, Expr.loop location repetition greedy body = .ok e ∧
            ∀ x ∈ e.nodes, ∀ c, x.choice? = some c → ¬ c.NestsLoop)) ∧
      ∀ (body e : Expr S) location repetition greedy, repetition.isLoop = true →
        Expr.loop location repetition greedy body = .ok e →
        ((∃ c, e.choice? = some c ∧ c.NestsLoop) ↔
          ∃ c, body.plainChoice? = some c ∧ c.WrapsLoop) := by
  refine ⟨fun e he => (h.unnested e he).not_nestsLoop, ?_,
    fun _ _ _ _ _ hrepetition hok => Expr.nestsLoop_loop_iff hrepetition hok⟩
  intro body hbody location repetition greedy hrepetition
  constructor
  · intro inner hinner hloop
    exact ⟨Expr.loop_of_loop location greedy hrepetition hinner hloop,
      plus_of_loop hinner hloop⟩
  · intro hno
    have hapart : ¬ (repetition.isLoop = true ∧
        ∃ inner, body.choice? = some inner ∧ inner.isLoop = true) := by
      rintro ⟨-, inner, hinner, hloop⟩
      rw [hno inner hinner] at hloop
      cases hloop
    have hok : Expr.loop location repetition greedy body = .ok _ :=
      Expr.loop_eq_ok_iff.mpr ⟨hapart, rfl⟩
    have hwraps : repetition = .once → ¬ body.IsBareLoop := by
      rintro rfl
      cases hrepetition
    exact ⟨_, hok,
      ((upholds_unnested d).everywhere_loop (h.unnested body hbody) hwraps hok).not_nestsLoop⟩

/-- At least one `a` is a sequence, so it can be the body of a star; a star around that star is
refused. -/
theorem loops_stay_apart_plus :
    let d : Draft CharClass := ofSettings {}
    let a := d.terminal (CharClass.ofItems ['a'])
    let many := Expr.ofKind none (.sequence [a, .ofKind none (.choice
      { repetition := .star, arms := [a] })])
    let star := Expr.ofKind none (.choice { repetition := .star, arms := [many] })
    d.plus a = .ok many ∧ d.star many = .ok star ∧
      Session (fun body => ¬ body.IsBareLoop) d [star, many, a] ∧
      (∀ x ∈ star.nodes, ∀ c, x.choice? = some c → ¬ c.NestsLoop) ∧
      d.star star = .error (.nestedLoop none .star .star) := by
  intro d a many star
  have hmany : d.plus a = .ok many := rfl
  have hstar : d.star many = .ok star := rfl
  have ha : Session (fun body => ¬ body.IsBareLoop) d [a] :=
    (Session.start {}).make (.terminal (CharClass.ofItems ['a']))
  have hsession := (ha.make (.plus List.mem_cons_self hmany)).make
    (.loop List.mem_cons_self (by simp) hstar)
  obtain ⟨hapart, hloops, -⟩ := hsession.loops_stay_apart
  refine ⟨hmany, hstar, hsession, hapart star List.mem_cons_self, ?_⟩
  exact ((hloops star List.mem_cons_self none .star none rfl).1 _ rfl rfl).1

/-- The star of a choice whose only arm is a star of `a`: the star adopts the arm, and one star
stands directly in the other. -/
theorem wrapped_star_is_nested :
    let d : Draft CharClass := ofSettings {}
    let a := d.terminal (CharClass.ofItems ['a'])
    let inner := Expr.ofKind none (.choice { repetition := .star, arms := [a] })
    let wrapped := Expr.ofKind none (.choice { repetition := .once, arms := [inner] })
    let nest : Choice (Expr CharClass) := { repetition := .star, arms := [inner] }
    let outer := Expr.ofKind none (.choice nest)
    d.star a = .ok inner ∧ Expr.loop none .once none inner = .ok wrapped ∧
      d.star wrapped = .ok outer ∧
      Session (fun _ => True) d [outer, wrapped, inner, a] ∧ nest.NestsLoop := by
  intro d a inner wrapped nest outer
  have hinner : d.star a = .ok inner := rfl
  have hwrapped : Expr.loop none .once none inner = .ok wrapped := rfl
  have houter : Expr.loop (d.locationFor [wrapped]) .star none wrapped = .ok outer := rfl
  have ha : Session (fun _ => True) d [a] :=
    (Session.start {}).make (.terminal (CharClass.ofItems ['a']))
  have hsession := ((ha.make (.loop List.mem_cons_self (by simp) hinner)).make
    (.loop List.mem_cons_self (by simp) hwrapped)).make
    (.loop List.mem_cons_self (by simp) houter)
  exact ⟨hinner, hwrapped, houter, hsession, rfl, rfl, inner, rfl, rfl, _, rfl, rfl⟩

end Session

end Draft

end GrammarTree
