import GrammarTree.Proofs.Marks
import GrammarTree.Proofs.Nullability
import GrammarTree.Proofs.Everywhere
import GrammarTree.Symbol.CharClass

/-!
# Nullability of what operators build

No operator keeps its operands as they are: sequences are dissolved, arms move between
choices and into loops, late error branches are dropped, and two terminals become one.
The nullability of the result is still that of the operands, combined as the operator
says.

The proofs hold for any set of rules that are known to be nullable.  The search through a
grammar asks for its operands with one such set, so recursive rules need no argument of
their own.

Main results:

- Theorem `Expr.all_items`: the items that an expression brings into a sequence are
  nullable together if the expression is.
- Theorem `Expr.any_arms_batch`: an operand brings a nullable arm if it is nullable and no
  error branch.
- Theorem `Draft.operators_keep_nullability`: nullability of what the operators of a draft
  build.
-/

namespace GrammarTree

variable {S Item : Type}

namespace Expr

variable {known : RuleId → Bool} {e : Expr S}

/-! ## Sequences -/

/-- A view that does not see a change does not see it at the first member. -/
theorem map_mapFirst {α β : Type} {f : α → α} {view : α → β} (h : ∀ a, view (f a) = view a)
    (l : List α) : (mapFirst f l).map view = l.map view := by
  cases l with
  | nil => rfl
  | cons first rest => rw [mapFirst, List.map_cons, List.map_cons, h]

/-- A view that does not see a change does not see it at the last member. -/
theorem map_mapLast {α β : Type} {f : α → α} {view : α → β} (h : ∀ a, view (f a) = view a)
    (l : List α) : (mapLast f l).map view = l.map view := by
  fun_induction mapLast f l with
  | case1 => rfl
  | case2 last => rw [List.map_singleton, List.map_singleton, h]
  | case3 first second rest ih => rw [List.map_cons, ih, ← List.map_cons]

/-- What a node carries beside its construct does not matter. -/
theorem nullableGiven_mapNotes (f : Notes → Notes) (e : Expr S) :
    (e.mapNotes f).nullableGiven known = e.nullableGiven known := by
  rcases e with ⟨n, k⟩
  rw [mapNotes, nullableGiven_node, nullableGiven_node]

/-- A sequence is nullable if all its items are. -/
theorem nullableGiven_of_sequence? {parts : List (Expr S)} (h : e.sequence? = some parts) :
    e.nullableGiven known = parts.all (nullableGiven known) := by
  rcases e with ⟨n, k⟩
  cases k with
  | sequence items =>
    cases h
    rw [Bool.eq_iff_iff, nullableGiven_sequence, List.all_eq_true]
  | _ => cases h

/-- The items that an expression brings into a sequence are all nullable if the expression
is. -/
theorem all_items (e : Expr S) :
    e.items.all (nullableGiven known) = e.nullableGiven known := by
  rcases e.items_cases with ⟨hitems, -⟩ | ⟨parts, hparts, hitems⟩
  · rw [hitems, List.all_cons, List.all_nil, Bool.and_true]
  · -- the code that moves to the ends is not seen
    have hview : e.items.map (nullableGiven known) = parts.map (nullableGiven known) := by
      rw [hitems]
      exact (map_mapLast (fun item => nullableGiven_mapNotes _ item) _).trans
        (map_mapFirst (fun item => nullableGiven_mapNotes _ item) parts)
    have hall := congrArg (List.all · id) hview
    simp only [List.all_map, Function.id_comp] at hall
    rw [hall, nullableGiven_of_sequence? hparts]

/-- A list of expressions one after the other is nullable if all of them are. -/
theorem nullableGiven_sequenceAll (location : Location) (parts : List (Expr S)) :
    (sequence location parts).nullableGiven known = parts.all (nullableGiven known) := by
  have hflat : (parts.flatMap items).all (nullableGiven known) =
      parts.all (nullableGiven known) := by
    rw [List.all_flatMap]
    simp only [all_items]
  unfold sequence
  split
  · rename_i only honly
    rw [← hflat, honly, List.all_cons, List.all_nil, Bool.and_true]
  · rw [← hflat]
    exact nullableGiven_of_sequence? rfl

/-! ## Alternatives -/

/-- A plain choice is nullable if one of its arms is. -/
theorem nullableGiven_of_plainChoice? {c : Choice (Expr S)} (h : e.plainChoice? = some c) :
    e.nullableGiven known = c.arms.any (nullableGiven known) := by
  obtain ⟨hchoice, -, honce⟩ := plainChoice?_eq_some_iff.mp h
  rcases e with ⟨n, k⟩
  cases k with
  | choice d =>
    cases hchoice
    rw [Bool.eq_iff_iff, nullableGiven_choice, List.any_eq_true, c.isLoop_eq_false_iff.mpr honce]
    simp
  | _ => cases hchoice

/-- An operand brings a nullable arm if it is nullable and no error branch. -/
theorem any_arms_batch (known : RuleId → Bool) (operand : Expr S) (role : ArmRole) :
    (operand.batch role).arms.any (nullableGiven known) =
      (!role.isRecovery && operand.nullableGiven known) := by
  cases hhost : operand.host? role with
  | some host =>
    obtain ⟨rfl, hplain⟩ := host?_eq_some_iff.mp hhost
    rw [batch_of_host? hhost, nullableGiven_of_plainChoice? hplain]
    rfl
  | none =>
    rw [batch_of_host?_eq_none hhost]
    cases role with
    | ordinary => exact Bool.or_false _
    | default => exact Bool.or_false _
    | recovery exits => rfl

/-- The arms after a batch was placed are those of the choice and those of the batch. -/
theorem any_arms_insert (p : Expr S → Bool) (c : Choice (Expr S)) (side : Side)
    (ordered : Bool) (batch : Batch (Expr S)) :
    (c.insert side ordered batch).arms.any p = (c.arms.any p || batch.arms.any p) := by
  cases side with
  | front => exact List.any_append.trans (Bool.or_comm _ _)
  | back => exact List.any_append

/-- A join is nullable if an operand is that is no error branch. -/
theorem nullableGiven_alternate (location : Location) (ordered : Bool) (left : Expr S)
    (leftRole : ArmRole) (right : Expr S) (rightRole : ArmRole) :
    (alternate location ordered left leftRole right rightRole).1.nullableGiven known =
      ((!leftRole.isRecovery && left.nullableGiven known) ||
        (!rightRole.isRecovery && right.nullableGiven known)) := by
  have hplain := plainChoice?_alternate location ordered left leftRole right rightRole
  obtain ⟨host, side, batch, heq, hcases⟩ :=
    alternate_cases location ordered left leftRole right rightRole
  have hleft := left.any_arms_batch known leftRole
  have hright := right.any_arms_batch known rightRole
  rw [heq] at hplain ⊢
  rw [nullableGiven_of_plainChoice? hplain, any_arms_insert]
  rcases hcases with ⟨hhost, -, rfl⟩ | ⟨-, hhost, -, rfl⟩ | ⟨-, -, rfl, -, rfl⟩
  · rw [batch_of_host? hhost] at hleft
    rw [← hleft, hright]
    rfl
  · rw [batch_of_host? hhost] at hright
    rw [← hright, hleft, Bool.or_comm]
    rfl
  · rw [any_arms_insert, hleft, hright]
    rfl

/-- A terminal made of two is not nullable, and neither are the two. -/
theorem nullableGiven_uniteTerminals? [SymbolSet S Item] (known : RuleId → Bool)
    {left right : Expr S} (h : left.uniteTerminals? right = some e) :
    e.nullableGiven known = false ∧ left.nullableGiven known = false ∧
      right.nullableGiven known = false := by
  unfold uniteTerminals? at h
  split at h
  · split at h
    · cases h
      exact ⟨rfl, rfl, rfl⟩
    · cases h
  · cases h

/-! ## Loops and gates -/

/-- A loop is nullable, and so is a choice that is tried once around a nullable body. -/
theorem nullableGiven_loop {location : Location} {repetition : Repetition}
    {greedy : Option Bool} {body : Expr S} (h : loop location repetition greedy body = .ok e) :
    e.nullableGiven known = (repetition.isLoop || body.nullableGiven known) := by
  obtain ⟨-, rfl⟩ := loop_eq_ok_iff.mp h
  rw [ofKind, Bool.eq_iff_iff, nullableGiven_choice, ← List.any_eq_true, Bool.or_eq_true]
  unfold loopChoice
  split
  · rename_i c hplain
    rw [nullableGiven_of_plainChoice? hplain]
    rfl
  · rw [List.any_cons, List.any_nil, Bool.or_false]
    rfl

/-- A gate is nullable if both sides are. -/
theorem nullableGiven_of_gate {location : Location} {predictor matcher : Expr S}
    {isEquivalence : Bool} (h : gate location predictor matcher isEquivalence = .ok e) :
    e.nullableGiven known = (predictor.nullableGiven known && matcher.nullableGiven known) := by
  obtain ⟨-, -, rfl⟩ := gate_eq_ok h
  rw [ofKind, Bool.eq_iff_iff, nullableGiven_gate, Bool.and_eq_true]

end Expr

/-! ## The operators of a draft -/

namespace Draft

variable [SymbolSet S Item] {known : RuleId → Bool} (d : Draft S)

/-- A join in a draft is nullable if an operand is that is no error branch, also if it makes
one terminal of two. -/
theorem nullableGiven_alternate (ordered : Bool) (left : Expr S) (leftRole : ArmRole)
    (right : Expr S) (rightRole : ArmRole) :
    (d.alternate ordered left leftRole right rightRole).1.nullableGiven known =
      ((!leftRole.isRecovery && left.nullableGiven known) ||
        (!rightRole.isRecovery && right.nullableGiven known)) := by
  unfold alternate
  split_ifs with hroles
  · cases hunited : left.uniteTerminals? right with
    | none => exact Expr.nullableGiven_alternate _ ordered left leftRole right rightRole
    | some terminal =>
      obtain ⟨hterminal, hleft, hright⟩ := Expr.nullableGiven_uniteTerminals? known hunited
      simp only
      rw [Expr.withLocation, Expr.nullableGiven_mapNotes, hterminal, hleft, hright]
      simp
  · exact Expr.nullableGiven_alternate _ ordered left leftRole right rightRole

/-- At least one body is nullable if the body is. -/
theorem nullableGiven_plus {body e : Expr S} (h : d.plus body = .ok e) :
    e.nullableGiven known = body.nullableGiven known := by
  obtain ⟨rest, hrest, rfl⟩ := plus_eq_ok h
  have hnullable : rest.nullableGiven known = true := Expr.nullableGiven_loop hrest
  rw [seq, Expr.nullableGiven_sequenceAll]
  simp [hnullable]

/-- Operators combine the nullability of their operands, in any grammar.  A sequence is
nullable if all parts are, a join if an operand is that is no error branch; an optional
element and a star always are, greedy or not.  At least one body, a choice that is tried
once and a gate depend on their bodies and sides.  Placeholders are not nullable. -/
theorem operators_keep_nullability (g : Grammar S) :
    (∀ first second, g.nullable (d.seq first second) = (g.nullable first && g.nullable second)) ∧
    (∀ parts, g.nullable (d.seqAll parts) = parts.all g.nullable) ∧
    (∀ ordered left leftRole right rightRole,
      g.nullable (d.alternate ordered left leftRole right rightRole).1 =
        ((!leftRole.isRecovery && g.nullable left) ||
          (!rightRole.isRecovery && g.nullable right))) ∧
    (∀ repetition greedy body e, repetition.isLoop = true →
      d.loop repetition greedy body = .ok e → g.nullable e = true) ∧
    (∀ body e, d.plus body = .ok e → g.nullable e = g.nullable body) ∧
    (∀ location greedy body, ∃ e, Expr.loop location .once greedy body = .ok e ∧
      g.nullable e = g.nullable body) ∧
    (∀ predictor matcher isEquivalence e, d.gate predictor matcher isEquivalence = .ok e →
      g.nullable e = (g.nullable predictor && g.nullable matcher)) ∧
    (∀ n ruleEnd, g.nullable (.node n (.ruleEnd ruleEnd)) = false) ∧
    ∀ n, g.nullable (.node n .defaultError) = false := by
  -- the search asks for all operands with the rules that it finds from the empty path
  have hknown : g.nullable = Expr.nullableGiven (g.callNullable []) :=
    funext (g.nullableAlong_eq [])
  rw [hknown]
  refine ⟨?_, ?_, ?_, ?_, ?_, ?_, ?_, fun _ _ => rfl, fun _ => rfl⟩
  · intro first second
    rw [seq, Expr.nullableGiven_sequenceAll]
    simp
  · intro parts
    exact Expr.nullableGiven_sequenceAll _ parts
  · intro ordered left leftRole right rightRole
    exact d.nullableGiven_alternate ordered left leftRole right rightRole
  · intro repetition greedy body e hloop h
    rw [Expr.nullableGiven_loop h, hloop, Bool.true_or]
  · intro body e h
    exact d.nullableGiven_plus h
  · intro location greedy body
    have hbuilt : Expr.loop location .once greedy body =
        .ok (.ofKind location (.choice (Expr.loopChoice .once greedy body))) :=
      Expr.loop_eq_ok_iff.mpr ⟨by simp [Repetition.isLoop], rfl⟩
    exact ⟨_, hbuilt, Expr.nullableGiven_loop hbuilt⟩
  · intro predictor matcher isEquivalence e h
    exact Expr.nullableGiven_of_gate h

/-- A list of `a`, whose rule calls itself, is nullable, and so is at least one list. -/
theorem operators_keep_nullability_list :
    let d : Draft CharClass := {}
    let list := Expr.ofKind none (.call ⟨⟨0⟩, "list", []⟩)
    let longer := d.seq list (d.terminal (CharClass.ofItems ['a']))
    let body := (d.alternate false longer .ordinary d.epsilon .default).1
    let rule : Rule CharClass :=
      { name := "list", body := some body, isToken := false, lookahead := 2
        ending := RuleEnd.ofRule ⟨0⟩ }
    let g : Grammar CharClass := { rules := [rule] }
    ∃ e, d.plus list = .ok e ∧ g.nullable longer = false ∧ g.nullable e = true := by
  intro d list longer body rule g
  obtain ⟨hseq, -, halternate, -, hplus, -⟩ := d.operators_keep_nullability g
  have hempty : g.nullable d.epsilon = true :=
    (Grammar.Nullable.sequence (by simp)).nullable_eq_true
  have hbody : g.nullable body = true := by
    rw [halternate, hempty]
    simp [ArmRole.isRecovery]
  have hlist : g.nullable list = true :=
    (Grammar.Nullable.call rfl rfl (Grammar.nullable_of_nullableAlong hbody)).nullable_eq_true
  have hletter : g.nullable (d.terminal (CharClass.ofItems ['a'])) = false := by
    rw [Grammar.nullable, Grammar.nullableAlong_eq]
    rfl
  refine ⟨_, rfl, ?_, ?_⟩
  · rw [hseq, hletter, Bool.and_false]
  · rw [hplus list _ rfl, hlist]

end Draft

end GrammarTree
