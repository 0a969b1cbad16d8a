import GrammarTree.Grammar.Nullable
import GrammarTree.Proofs.Joining

/-!
# Nullability as a least set

The search for nullability cuts every path at a rule that it entered before.  The
cuts lose nothing: what the search finds is the least set of expressions that is
closed under the rules for matching the empty input, whatever rules call each other.

The proof looks at the rounds in which a fixed point iteration would find the
nullable rules.  A rule that is found in one round has a body that needs earlier
rounds only, so it can be followed back without entering a rule twice.

Main results:

- Definition `Grammar.Nullable`: the least set.
- Theorem `Grammar.Nullable.exists_round`: every member is found in some round.
- Theorem `Grammar.callNullable_of_round`: the search finds what a round finds if the
  path has no rule that is found by then.
- Theorem `Grammar.nullable_iff_in_least_set`: the search finds the least set.
-/

namespace GrammarTree

variable {S : Type}

/-! ## The least set -/

/-- The expressions that can match the empty input: the least set with these
members. -/
inductive Grammar.Nullable (g : Grammar S) : Expr S → Prop where
  | sequence {n : Notes} {items : List (Expr S)}
      (h : ∀ item ∈ items, Nullable g item) : Nullable g (.node n (.sequence items))
  | loop {n : Notes} {c : Choice (Expr S)}
      (h : c.repetition = .optional ∨ c.repetition = .star) : Nullable g (.node n (.choice c))
  | arm {n : Notes} {c : Choice (Expr S)} {arm : Expr S} (hmem : arm ∈ c.arms)
      (harm : Nullable g arm) : Nullable g (.node n (.choice c))
  | gate {n : Notes} {gate : Gate (Expr S)} (hpredictor : Nullable g gate.predictor)
      (hmatcher : Nullable g gate.matcher) : Nullable g (.node n (.gate gate))
  | assertion (n : Notes) (a : Assertion (Expr S)) : Nullable g (.node n (.assertion a))
  | call {n : Notes} {c : Call} {rule : Rule S} {body : Expr S}
      (hrule : g.rule? c.rule = some rule) (hdefined : rule.body = some body)
      (hbody : Nullable g body) : Nullable g (.node n (.call c))

/-! ## Nullability with known rules -/

namespace Expr

variable {known known' : RuleId → Bool} {n : Notes}

/-- At a node the parts answer for themselves. -/
theorem nullableGiven_node (known : RuleId → Bool) (n : Notes) (k : Kind S (Expr S)) :
    (node n k).nullableGiven known =
      (k.map fun part known => part.nullableGiven known).nullableGiven known := by
  rw [nullableGiven, fold_node]
  rfl

/-- A sequence is nullable if all items are. -/
@[simp] theorem nullableGiven_sequence {items : List (Expr S)} :
    (node n (.sequence items)).nullableGiven known = true ↔
      ∀ item ∈ items, item.nullableGiven known = true := by
  simp [nullableGiven_node, Kind.map, Kind.nullableGiven]

/-- A choice is nullable if it is a loop or has a nullable arm. -/
@[simp] theorem nullableGiven_choice {c : Choice (Expr S)} :
    (node n (.choice c)).nullableGiven known = true ↔
      c.isLoop = true ∨ ∃ arm ∈ c.arms, arm.nullableGiven known = true := by
  simp [nullableGiven_node, Kind.map, Kind.nullableGiven, Choice.isLoop]

/-- A gate is nullable if both sides are. -/
@[simp] theorem nullableGiven_gate {gate : Gate (Expr S)} :
    (node n (.gate gate)).nullableGiven known = true ↔
      gate.predictor.nullableGiven known = true ∧ gate.matcher.nullableGiven known = true := by
  simp [nullableGiven_node, Kind.map, Kind.nullableGiven]

/-- A call is nullable if its rule is known to be. -/
@[simp] theorem nullableGiven_call {c : Call} :
    (node n (.call c) : Expr S).nullableGiven known = known c.rule := by
  simp [nullableGiven_node, Kind.map, Kind.nullableGiven]

/-- An assertion matches no input. -/
@[simp] theorem nullableGiven_assertion {a : Assertion (Expr S)} :
    (node n (.assertion a)).nullableGiven known = true := by
  rcases a with ⟨_ | _, _, _, _⟩ <;> simp [nullableGiven_node, Kind.map, Kind.nullableGiven]

/-- A set of expressions that has the calls of the known rules as members and is
closed under the other rules for matching the empty input. -/
structure NullClosed (known : RuleId → Bool) (N : Expr S → Prop) : Prop where
  sequence : ∀ {n items}, (∀ item ∈ items, N item) → N (node n (.sequence items))
  loop : ∀ {n} {c : Choice (Expr S)}, c.isLoop = true → N (node n (.choice c))
  arm : ∀ {n arm} {c : Choice (Expr S)}, arm ∈ c.arms → N arm → N (node n (.choice c))
  gate : ∀ {n} {gate : Gate (Expr S)}, N gate.predictor → N gate.matcher → N (node n (.gate gate))
  assertion : ∀ {n a}, N (node n (.assertion a))
  call : ∀ {n} {c : Call}, known c.rule = true → N (node n (.call c))

/-- What is nullable with the known rules belongs to every closed set. -/
theorem NullClosed.mem {N : Expr S → Prop} (hN : NullClosed known N) {e : Expr S}
    (h : e.nullableGiven known = true) : N e := by
  induction e using Expr.induction with
  | step n k ih =>
    cases k with
    | sequence items =>
      rw [nullableGiven_sequence] at h
      exact hN.sequence fun item hitem => ih item hitem (h item hitem)
    | choice c =>
      rw [nullableGiven_choice] at h
      rcases h with hloop | ⟨arm, hmem, harm⟩
      · exact hN.loop hloop
      · exact hN.arm hmem (ih arm (List.mem_append_left _ hmem) harm)
    | gate gate =>
      rw [nullableGiven_gate] at h
      exact hN.gate (ih _ (by simp [Kind.children]) h.1) (ih _ (by simp [Kind.children]) h.2)
    | assertion a => exact hN.assertion
    | call c =>
      rw [nullableGiven_call] at h
      exact hN.call h
    | terminal set => cases h
    | ruleEnd e => cases h
    | defaultError => cases h

/-- The more rules are known, the more expressions are nullable. -/
theorem nullableGiven_mono (hknown : ∀ id, known id = true → known' id = true) {e : Expr S}
    (h : e.nullableGiven known = true) : e.nullableGiven known' = true := by
  have hclosed : NullClosed known fun e : Expr S => e.nullableGiven known' = true :=
    { sequence := nullableGiven_sequence.mpr
      loop := fun hloop => nullableGiven_choice.mpr (Or.inl hloop)
      arm := fun hmem harm => nullableGiven_choice.mpr (Or.inr ⟨_, hmem, harm⟩)
      gate := fun hpredictor hmatcher => nullableGiven_gate.mpr ⟨hpredictor, hmatcher⟩
      assertion := nullableGiven_assertion
      call := fun h => nullableGiven_call.trans (hknown _ h) }
  exact hclosed.mem h

end Expr

namespace Grammar

variable {g : Grammar S} {e : Expr S} {path : List RuleId} {id : RuleId}

/-! ## Every answer is right -/

/-- If the known rules have bodies in the least set, the least set is closed. -/
theorem nullClosed_nullable {known : RuleId → Bool}
    (hknown : ∀ id, known id = true → ∃ body, g.body? id = some body ∧ g.Nullable body) :
    Expr.NullClosed known g.Nullable where
  sequence := .sequence
  loop := fun {_ c} hloop => .loop (c.isLoop_eq_true_iff.mp hloop)
  arm := .arm
  gate := .gate
  assertion := .assertion _ _
  call := by
    intro n c h
    rcases hknown c.rule h with ⟨body, hbody, hnull⟩
    rcases Option.bind_eq_some_iff.mp hbody with ⟨rule, hrule, hdefined⟩
    exact .call hrule hdefined hnull

/-- Whether the search answers yes for a call of a rule that is reached through the
rules in `path`. -/
def callNullable (g : Grammar S) (path : List RuleId) (id : RuleId) : Bool :=
  if id ∈ path then false
  else
    match g.body? id with
    | some body => g.nullableAlong (id :: path) body
    | none => false

/-- The search asks for the calls on its path. -/
theorem nullableAlong_eq (g : Grammar S) (path : List RuleId) (e : Expr S) :
    g.nullableAlong path e = e.nullableGiven (g.callNullable path) := by
  rw [nullableAlong]
  congr 1
  funext id
  rw [callNullable]
  split
  · rfl
  · split <;> simp_all

/-- A call is answered with yes if its rule is not on the path and has a body that is
answered with yes. -/
theorem callNullable_iff :
    g.callNullable path id = true ↔
      id ∉ path ∧ ∃ body, g.body? id = some body ∧ g.nullableAlong (id :: path) body = true := by
  unfold callNullable
  split
  · simp_all
  · cases g.body? id <;> simp_all

/-- The search answers yes for members of the least set only. -/
theorem nullable_of_nullableAlong (h : g.nullableAlong path e = true) : g.Nullable e := by
  induction hlength : (g.unentered path).length using Nat.strongRecOn
    generalizing path e with
  | ind length ih =>
    rw [nullableAlong_eq] at h
    refine (nullClosed_nullable ?_).mem h
    intro id hid
    rcases callNullable_iff.mp hid with ⟨hpath, body, hbody, hnull⟩
    refine ⟨body, hbody, ih _ ?_ hnull rfl⟩
    rw [← hlength]
    exact length_unentered_lt hpath hbody

/-! ## No answer is missing -/

/-- The rules that a fixed point iteration finds in so many rounds. -/
def foundWithin (g : Grammar S) : Nat → RuleId → Bool
  | 0, _ => false
  | rounds + 1, id => (g.body? id).any fun body => body.nullableGiven (g.foundWithin rounds)

/-- A round finds the rules whose bodies are nullable with the rules found before. -/
theorem foundWithin_succ_iff {k : Nat} :
    g.foundWithin (k + 1) id = true ↔
      ∃ body, g.body? id = some body ∧ body.nullableGiven (g.foundWithin k) = true :=
  Option.any_eq_true _ _

/-- What is found stays found. -/
theorem foundWithin_mono {k m : Nat} (hle : k ≤ m) (h : g.foundWithin k id = true) :
    g.foundWithin m id = true := by
  have hstep (k : Nat) : ∀ id, g.foundWithin k id = true → g.foundWithin (k + 1) id = true := by
    induction k with
    | zero =>
      intro id h
      cases h
    | succ k ih =>
      intro id h
      rcases foundWithin_succ_iff.mp h with ⟨body, hbody, hnull⟩
      exact foundWithin_succ_iff.mpr ⟨body, hbody, Expr.nullableGiven_mono ih hnull⟩
  induction hle with
  | refl => exact h
  | step _ ih => exact hstep _ id ih

/-- Expressions that are found in rounds of their own are all found in one round. -/
theorem exists_common_round {items : List (Expr S)}
    (h : ∀ item ∈ items, ∃ k, item.nullableGiven (g.foundWithin k) = true) :
    ∃ k, ∀ item ∈ items, item.nullableGiven (g.foundWithin k) = true := by
  induction items with
  | nil => exact ⟨0, by simp⟩
  | cons first rest ih =>
    obtain ⟨k, hk⟩ := h first (by simp)
    obtain ⟨m, hm⟩ := ih fun item hitem => h item (by simp [hitem])
    refine ⟨max k m, ?_⟩
    intro item hitem
    rcases List.mem_cons.mp hitem with rfl | hitem
    · exact Expr.nullableGiven_mono (fun _ => foundWithin_mono (Nat.le_max_left k m)) hk
    · exact Expr.nullableGiven_mono (fun _ => foundWithin_mono (Nat.le_max_right k m))
        (hm item hitem)

/-- Every member of the least set is nullable with the rules of some round. -/
theorem Nullable.exists_round (h : g.Nullable e) :
    ∃ k, e.nullableGiven (g.foundWithin k) = true := by
  induction h with
  | sequence h ih =>
    obtain ⟨k, hk⟩ := exists_common_round ih
    exact ⟨k, Expr.nullableGiven_sequence.mpr hk⟩
  | @loop n c h => exact ⟨0, Expr.nullableGiven_choice.mpr (Or.inl (c.isLoop_eq_true_iff.mpr h))⟩
  | arm hmem harm ih =>
    obtain ⟨k, hk⟩ := ih
    exact ⟨k, Expr.nullableGiven_choice.mpr (Or.inr ⟨_, hmem, hk⟩)⟩
  | @gate n gate hpredictor hmatcher ihp ihm =>
    have hsides : ∀ side ∈ [gate.predictor, gate.matcher],
        ∃ k, side.nullableGiven (g.foundWithin k) = true := by simp [ihp, ihm]
    obtain ⟨k, hk⟩ := exists_common_round hsides
    exact ⟨k, Expr.nullableGiven_gate.mpr ⟨hk _ (by simp), hk _ (by simp)⟩⟩
  | assertion n a => exact ⟨0, Expr.nullableGiven_assertion⟩
  | @call n c rule body hrule hdefined _ ih =>
    obtain ⟨k, hk⟩ := ih
    have hbody : g.body? c.rule = some body := by rw [body?, hrule, Option.bind_some, hdefined]
    exact ⟨k + 1, Expr.nullableGiven_call.trans (foundWithin_succ_iff.mpr ⟨body, hbody, hk⟩)⟩

/-- The search answers yes for a rule that is found in some round, if no rule on the
path is found by then. -/
theorem callNullable_of_round {k : Nat} (hpath : ∀ entered ∈ path, g.foundWithin k entered = false)
    (h : g.foundWithin k id = true) : g.callNullable path id = true := by
  induction k generalizing path id with
  | zero => cases h
  | succ k ih =>
    have hearlier : ∀ entered ∈ path, g.foundWithin k entered = false := by
      intro entered hentered
      rw [Bool.eq_false_iff]
      intro hfound
      have hlater := foundWithin_mono (Nat.le_succ k) hfound
      rw [hpath entered hentered] at hlater
      cases hlater
    by_cases hfound : g.foundWithin k id = true
    · exact ih hearlier hfound
    · -- this round finds the rule first, so its body does not need the rule itself
      rcases foundWithin_succ_iff.mp h with ⟨body, hbody, hnull⟩
      refine callNullable_iff.mpr ⟨?_, body, hbody, ?_⟩
      · intro hmem
        rw [hpath id hmem] at h
        cases h
      · rw [nullableAlong_eq]
        refine Expr.nullableGiven_mono (fun called hcalled => ih ?_ hcalled) hnull
        intro entered hentered
        rcases List.mem_cons.mp hentered with rfl | hentered
        · exact Bool.eq_false_iff.mpr hfound
        · exact hearlier entered hentered

/-- The search answers yes for every member of the least set. -/
theorem Nullable.nullable_eq_true (h : g.Nullable e) : g.nullable e = true := by
  obtain ⟨k, hk⟩ := h.exists_round
  rw [nullable, nullableAlong_eq]
  exact Expr.nullableGiven_mono (fun _ => callNullable_of_round (by simp)) hk

/-- The search finds exactly the least set: cutting a path at a rule that it entered
before changes no answer, however rules call themselves and each other. -/
theorem nullable_iff_in_least_set (g : Grammar S) (e : Expr S) :
    g.nullable e = true ↔ g.Nullable e :=
  ⟨nullable_of_nullableAlong, Nullable.nullable_eq_true⟩

end Grammar

end GrammarTree
