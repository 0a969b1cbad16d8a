import GrammarTree.Draft
import GrammarTree.Proofs.Joining
import GrammarTree.Proofs.SymbolLaws
import GrammarTree.Proofs.Traces

/-!
# Operators keep the meaning

Operators bring expressions into a flat form: nested sequences are dissolved and
their code moves to the items, arms move between choices and into loops, and two
terminals become one.  None of this changes what can happen while the expression is
matched.

Main results:

- Theorem `Interpretation.traces_sequence`: a sequence has the traces of its parts
  one behind the other.
- Theorem `Interpretation.runs_alternate`: a join has the traces of its operands,
  except error branches.
- Theorem `Interpretation.runs_loop`: a loop repeats the traces of its body.
- Theorem `Draft.operators_keep_traces`: what the operators of a draft stand for.
-/

namespace GrammarTree

open scoped Computability

open Event (fused fused_mul_congr fused_fused)

/-! ## Nodes -/

section Pieces

variable {Item : Type}

/-- Fragments that were joined run like one behind the other. -/
theorem Action.fused_traces_join (a b : Action) :
    fused (a.join b).traces = fused ((a.traces : Language (Event Item)) * b.traces) := by
  cases a with
  | none =>
    change fused b.traces = fused (1 * b.traces)
    rw [one_mul]
  | some a =>
    cases b with
    | none =>
      change fused (traces (some a)) = fused (traces (some a) * 1)
      rw [mul_one]
    | some b =>
      have hmul : ({[.code a]} : Language (Event Item)) * {[.code b]} = {[.code a, .code b]} :=
        Set.image2_singleton
      have hfuse (trace : List (Event Item)) : fused {trace} = {Event.fuse trace} :=
        Set.image_singleton
      simp only [join, traces]
      rw [hmul, hfuse, hfuse]
      rfl

/-- A node without user code adds nothing. -/
theorem Notes.around_of_hasActions {n : Notes} (h : n.hasActions = false)
    (traces : Language (Event Item)) : n.around traces = traces := by
  rcases n.hasActions_eq_false_iff.mp h with ⟨hbefore, hafter, hsaver⟩
  rw [around, hbefore, hafter, hsaver]
  change 1 * traces * 1 = traces
  rw [one_mul, mul_one]

/-- A node around a union is around both sets. -/
theorem Notes.around_add (n : Notes) (A B : Language (Event Item)) :
    n.around (A + B) = n.around A + n.around B := by
  have hsaver : Saver.around n.saver (A + B) = Saver.around n.saver A + Saver.around n.saver B := by
    cases n.saver with
    | none => rfl
    | some saver =>
      change {[.enter saver.id]} * (A + B) * {[.leave saver.id]} = _
      rw [mul_add, add_mul]
      rfl
  rw [around, hsaver, mul_add, add_mul]
  rfl

/-- Nodes with the same code and the same saver add the same. -/
theorem Notes.around_congr {m n : Notes} (hbefore : m.before = n.before)
    (hafter : m.after = n.after) (hsaver : (m.saver == n.saver) = true)
    (traces : Language (Event Item)) : m.around traces = n.around traces := by
  have haround : Saver.around m.saver traces = Saver.around n.saver traces := by
    -- savers are told apart by identity, and a trace shows nothing else of them
    cases hm : m.saver with
    | none =>
      cases hn : n.saver with
      | none => rfl
      | some saver => simp [hm, hn] at hsaver
    | some saver =>
      cases hn : n.saver with
      | none => simp [hm, hn] at hsaver
      | some saver' =>
        rw [hm, hn] at hsaver
        have hid : saver.id = saver'.id := of_decide_eq_true hsaver
        simp only [Saver.around, hid]
  rw [around, around, hbefore, hafter, haround]

/-- The traces of a union of sets are the traces of both. -/
theorem SymbolSet.traces_union {S : Type} [SymbolSet S Item] [LawfulSymbolSet S] (s t : S) :
    SymbolSet.traces (SymbolSet.union s t) = SymbolSet.traces s + SymbolSet.traces t := by
  ext trace
  rw [Language.mem_add]
  simp only [traces]
  change ((∃ item, _) ∨ _) ↔ ((∃ item, _) ∨ _) ∨ ((∃ item, _) ∨ _)
  simp only [LawfulSymbolSet.contains_union, LawfulSymbolSet.hasEnd_union, Bool.or_eq_true]
  constructor
  · rintro (⟨item, hs | ht, rfl⟩ | ⟨hs | ht, rfl⟩)
    · exact Or.inl (Or.inl ⟨item, hs, rfl⟩)
    · exact Or.inr (Or.inl ⟨item, ht, rfl⟩)
    · exact Or.inl (Or.inr ⟨hs, rfl⟩)
    · exact Or.inr (Or.inr ⟨ht, rfl⟩)
  · rintro ((⟨item, hs, rfl⟩ | ⟨hs, rfl⟩) | (⟨item, ht, rfl⟩ | ⟨ht, rfl⟩))
    · exact Or.inl ⟨item, Or.inl hs, rfl⟩
    · exact Or.inr ⟨Or.inl hs, rfl⟩
    · exact Or.inl ⟨item, Or.inr ht, rfl⟩
    · exact Or.inr ⟨Or.inr ht, rfl⟩

/-- The traces that an operand in a role adds to a choice; an error branch adds
none. -/
def ArmRole.counted : ArmRole → Language (Event Item) → Language (Event Item)
  | recovery _, _ => 0
  | _, traces => traces

/-- Fusing does not depend on the role. -/
theorem ArmRole.fused_counted (role : ArmRole) (traces : Language (Event Item)) :
    fused (role.counted traces) = role.counted (fused traces) := by
  cases role with
  | recovery exits => exact Event.fused_zero
  | ordinary => rfl
  | default => rfl

end Pieces

namespace Interpretation

variable {S Item : Type} [SymbolSet S Item] (I : Interpretation S Item)

/-! ## Sequences -/

/-- Code in front of all code of an expression runs first. -/
theorem fused_runs_runBefore (code : Action) (e : Expr S) :
    fused (I.runs (e.runBefore code)) = fused (code.traces * I.runs e) := by
  rcases e with ⟨n, k⟩
  simp only [Expr.runBefore, Expr.mapNotes]
  rw [runs_node, runs_node, Notes.around, Notes.around, ← mul_assoc, ← mul_assoc]
  apply fused_mul_congr _ rfl
  exact fused_mul_congr (Action.fused_traces_join code n.before) rfl

/-- Code behind all code of an expression runs last. -/
theorem fused_runs_runAfter (code : Action) (e : Expr S) :
    fused (I.runs (e.runAfter code)) = fused (I.runs e * code.traces) := by
  rcases e with ⟨n, k⟩
  simp only [Expr.runAfter, Expr.mapNotes]
  rw [runs_node, runs_node, Notes.around, Notes.around, mul_assoc _ _ code.traces]
  exact fused_mul_congr rfl (Action.fused_traces_join n.after code)

/-- Code that moved to the first item runs before all items. -/
theorem fused_prod_mapFirst (code : Action) {parts : List (Expr S)} (h : parts ≠ []) :
    fused ((Expr.mapFirst (Expr.runBefore code) parts).map I.runs).prod =
      fused (code.traces * (parts.map I.runs).prod) := by
  cases parts with
  | nil => cases h rfl
  | cons first rest =>
    rw [Expr.mapFirst, List.map_cons, List.map_cons, List.prod_cons, List.prod_cons, ← mul_assoc]
    exact fused_mul_congr (I.fused_runs_runBefore code first) rfl

/-- Code that moved to the last item runs after all items. -/
theorem fused_prod_mapLast (code : Action) {parts : List (Expr S)} (h : parts ≠ []) :
    fused ((Expr.mapLast (Expr.runAfter code) parts).map I.runs).prod =
      fused ((parts.map I.runs).prod * code.traces) := by
  induction parts with
  | nil => cases h rfl
  | cons first rest ih =>
    cases rest with
    | nil =>
      simp only [Expr.mapLast, List.map_cons, List.map_nil, List.prod_cons, List.prod_nil, mul_one]
      exact I.fused_runs_runAfter code first
    | cons second more =>
      rw [Expr.mapLast, List.map_cons, List.prod_cons, List.map_cons, List.prod_cons, mul_assoc]
      exact fused_mul_congr rfl (ih (List.cons_ne_nil _ _))

/-- A sequence gives its items up to another sequence without changing what
happens. -/
theorem fused_prod_items_sequence (n : Notes) (parts : List (Expr S)) :
    fused ((Expr.node n (.sequence parts)).items.map I.runs).prod =
      fused (I.runs (.node n (.sequence parts))) := by
  rw [Expr.items]
  by_cases hsaver : n.saver.isSome = true
  · rw [if_pos hsaver, List.map_singleton, List.prod_singleton]
  · have hruns : I.runs (.node n (.sequence parts)) =
        n.before.traces * (parts.map I.runs).prod * n.after.traces := by
      rw [Bool.not_eq_true, Option.isSome_eq_false_iff, Option.isNone_iff_eq_none] at hsaver
      rw [runs_sequence, Notes.around, hsaver]
      rfl
    rw [if_neg hsaver, hruns]
    by_cases hempty : parts = []
    · subst hempty
      by_cases hcode : n.hasCode = true
      · rw [if_pos List.isEmpty_nil, if_pos hcode, List.map_singleton, List.prod_singleton, hruns]
      · -- without code the empty sequence matches the empty input and is left away
        simp only [Notes.hasCode, Bool.or_eq_true, not_or, Bool.not_eq_true,
          Option.isSome_eq_false_iff, Option.isNone_iff_eq_none] at hcode
        rcases hcode with ⟨hbefore, hafter⟩
        rw [hbefore, hafter]
        simp [Notes.hasCode, hbefore, hafter, Action.traces]
    · have hfirst : Expr.mapFirst (Expr.runBefore n.before) parts ≠ [] := by
        cases parts with
        | nil => exact absurd rfl hempty
        | cons first rest => exact List.cons_ne_nil _ _
      rw [if_neg (by simpa using hempty), I.fused_prod_mapLast n.after hfirst]
      exact fused_mul_congr (I.fused_prod_mapFirst n.before hempty) rfl

/-- The items that an expression brings into a sequence have its traces. -/
theorem fused_prod_items (e : Expr S) : fused (e.items.map I.runs).prod = I.traces e := by
  rcases e with ⟨n, k⟩
  cases k with
  | sequence parts => exact I.fused_prod_items_sequence n parts
  | _ =>
    rw [Expr.items, List.map_singleton, List.prod_singleton]
    · rfl
    · intro m items h
      cases h

/-- A sequence has the traces of its parts one behind the other. -/
theorem traces_sequence (location : Location) (parts : List (Expr S)) :
    I.traces (Expr.sequence location parts) = fused (parts.map I.traces).prod := by
  have hflat : fused ((parts.flatMap Expr.items).map I.runs).prod =
      fused (parts.map I.traces).prod := by
    induction parts with
    | nil => rfl
    | cons part rest ih =>
      rw [List.flatMap_cons, List.map_append, List.prod_append, List.map_cons, List.prod_cons]
      apply fused_mul_congr _ ih
      rw [fused_prod_items, traces, fused_fused]
  have hruns (flat : List (Expr S)) :
      I.runs (.ofKind location (.sequence flat)) = (flat.map I.runs).prod := by
    rw [Expr.ofKind, runs_sequence, Notes.around_of_hasActions rfl]
  rw [← hflat, traces]
  unfold Expr.sequence
  split
  · rename_i only hitems
    rw [hitems, List.map_singleton, List.prod_singleton]
  · rw [hruns]

/-! ## Alternatives -/

/-- A plain choice has the traces of its arms. -/
theorem runs_of_plainChoice? {e : Expr S} {c : Choice (Expr S)} (h : e.plainChoice? = some c) :
    I.runs e = (c.arms.map I.runs).sum := by
  rcases e with ⟨n, k⟩
  rcases Expr.plainChoice?_eq_some_iff.mp h with ⟨hchoice, hactions, honce⟩
  cases k with
  | choice d =>
    cases hchoice
    have hactions : n.hasActions = false := hactions
    rw [runs_choice, Notes.around_of_hasActions hactions, honce]
    rfl
  | _ => cases hchoice

/-- The arms that an operand brings have its traces. -/
theorem sum_batch (operand : Expr S) (role : ArmRole) :
    ((operand.batch role).arms.map I.runs).sum = role.counted (I.runs operand) := by
  cases hhost : operand.host? role with
  | none =>
    rw [Expr.batch_of_host?_eq_none hhost]
    cases role with
    | recovery exits => rfl
    | ordinary => exact List.sum_singleton
    | default => exact List.sum_singleton
  | some host =>
    rcases Expr.host?_eq_some_iff.mp hhost with ⟨rfl, hplain⟩
    rw [Expr.batch_of_host? hhost]
    exact (I.runs_of_plainChoice? hplain).symm

/-- Placing a batch on either side adds the traces of its arms. -/
theorem sum_insert (c : Choice (Expr S)) (side : Side) (ordered : Bool)
    (batch : Batch (Expr S)) :
    ((c.insert side ordered batch).arms.map I.runs).sum =
      (c.arms.map I.runs).sum + (batch.arms.map I.runs).sum := by
  cases side with
  | back =>
    change ((c.arms ++ batch.arms).map I.runs).sum = _
    rw [List.map_append, List.sum_append]
  | front =>
    change ((batch.arms ++ c.arms).map I.runs).sum = _
    rw [List.map_append, List.sum_append, add_comm]

/-- A join has the traces of its operands, except error branches. -/
theorem runs_alternate (location : Location) (ordered : Bool) (left : Expr S)
    (leftRole : ArmRole) (right : Expr S) (rightRole : ArmRole) :
    I.runs (Expr.alternate location ordered left leftRole right rightRole).1 =
      leftRole.counted (I.runs left) + rightRole.counted (I.runs right) := by
  rcases Expr.alternate_cases location ordered left leftRole right rightRole with
    ⟨host, side, batch, heq, hcases⟩
  -- the host is tried once, so only the arms matter
  have hjoin (honce : host.repetition = .once) :
      I.runs (Expr.alternate location ordered left leftRole right rightRole).1 =
        (host.arms.map I.runs).sum + (batch.arms.map I.runs).sum := by
    rw [heq, ← I.sum_insert host side ordered batch]
    apply runs_of_plainChoice?
    apply Expr.plainChoice?_ofKind
    rw [Choice.insert_repetition, honce]
  have hhost {operand : Expr S} {role : ArmRole} (h : operand.host? role = some host) :
      host.repetition = .once ∧ (host.arms.map I.runs).sum = role.counted (I.runs operand) := by
    rcases Expr.host?_eq_some_iff.mp h with ⟨rfl, hplain⟩
    exact ⟨(Expr.plainChoice?_eq_some_iff.mp hplain).2.2, (I.runs_of_plainChoice? hplain).symm⟩
  rcases hcases with ⟨h, -, rfl⟩ | ⟨-, h, -, rfl⟩ | ⟨-, -, rfl, -, rfl⟩
  · rw [hjoin (hhost h).1, (hhost h).2, sum_batch]
  · rw [hjoin (hhost h).1, (hhost h).2, sum_batch, add_comm]
  · rw [hjoin rfl, sum_insert, sum_batch, sum_batch]
    exact congrArg (· + _) (zero_add _)

/-! ## Terminals -/

/-- A terminal made of two has the traces of both. -/
theorem runs_uniteTerminals? [LawfulSymbolSet S] {left right e : Expr S}
    (h : left.uniteTerminals? right = some e) : I.runs e = I.runs left + I.runs right := by
  rcases left with ⟨m, k⟩
  rcases right with ⟨n, k'⟩
  unfold Expr.uniteTerminals? at h
  split at h
  · rename_i m s n t hleft hright
    cases hleft
    cases hright
    split at h
    · rename_i hsame
      cases h
      rcases hsame with ⟨hbefore, hafter, hsaver⟩
      rw [runs_terminal, runs_terminal, runs_terminal, SymbolSet.traces_union, Notes.around_add]
      exact congrArg (_ + ·) (Notes.around_congr hbefore hafter hsaver _)
    · cases h
  · cases h

/-- Where an expression stands does not matter for its traces. -/
theorem runs_withLocation (e : Expr S) (location : Location) :
    I.runs (e.withLocation location) = I.runs e := by
  rcases e with ⟨n, k⟩
  simp only [Expr.withLocation, Expr.mapNotes]
  rw [runs_node, runs_node]
  rfl

/-! ## Loops -/

/-- The arms that a loop adopts have the traces of its body. -/
theorem sum_loopChoice (repetition : Repetition) (greedy : Option Bool) (body : Expr S) :
    ((Expr.loopChoice repetition greedy body).arms.map I.runs).sum = I.runs body := by
  unfold Expr.loopChoice
  split
  · rename_i c hplain
    exact (I.runs_of_plainChoice? hplain).symm
  · exact List.sum_singleton

/-- A loop repeats the traces of its body. -/
theorem runs_loop {location : Location} {repetition : Repetition} {greedy : Option Bool}
    {body e : Expr S} (h : Expr.loop location repetition greedy body = .ok e) :
    I.runs e = repetition.traces (I.runs body) := by
  rcases Expr.loop_eq_ok_iff.mp h with ⟨-, rfl⟩
  have hrepetition : (Expr.loopChoice repetition greedy body).repetition = repetition := by
    unfold Expr.loopChoice
    split <;> rfl
  rw [Expr.ofKind, runs_choice, Notes.around_of_hasActions rfl, hrepetition, sum_loopChoice]

end Interpretation

/-! ## The operators of a draft -/

namespace Draft

variable {S Item : Type} [SymbolSet S Item]

/-- A join has the traces of its operands, also if it makes one terminal of two. -/
theorem runs_alternate [LawfulSymbolSet S] (I : Interpretation S Item) (d : Draft S)
    (ordered : Bool) (left : Expr S) (leftRole : ArmRole) (right : Expr S)
    (rightRole : ArmRole) :
    I.runs (d.alternate ordered left leftRole right rightRole).1 =
      leftRole.counted (I.runs left) + rightRole.counted (I.runs right) := by
  unfold alternate
  by_cases hroles : leftRole = .ordinary ∧ rightRole = .ordinary
  · simp only [if_pos hroles]
    cases hunited : left.uniteTerminals? right with
    | none => exact I.runs_alternate _ ordered left leftRole right rightRole
    | some terminal =>
      rcases hroles with ⟨rfl, rfl⟩
      simp only
      rw [I.runs_withLocation, I.runs_uniteTerminals? hunited]
      rfl
  · simp only [if_neg hroles]
    exact I.runs_alternate _ ordered left leftRole right rightRole

/-- The operators of a draft do not change what can happen: a sequence has the traces
of its parts one behind the other, a join those of its operands except error branches,
and loops repeat the traces of their body. -/
theorem operators_keep_traces [LawfulSymbolSet S] (I : Interpretation S Item) (d : Draft S) :
    (∀ first second, I.traces (d.seq first second) =
      fused (I.traces first * I.traces second)) ∧
    (∀ parts, I.traces (d.seqAll parts) = fused (parts.map I.traces).prod) ∧
    (∀ ordered left leftRole right rightRole,
      I.traces (d.alternate ordered left leftRole right rightRole).1 =
        leftRole.counted (I.traces left) + rightRole.counted (I.traces right)) ∧
    (∀ body e, d.star body = .ok e → I.traces e = fused (I.traces body)∗) ∧
    (∀ body e, d.opt body = .ok e → I.traces e = 1 + I.traces body) ∧
    (∀ body e, d.plus body = .ok e → I.traces e = fused (I.traces body * (I.traces body)∗)) := by
  have hseq (first second : Expr S) :
      I.traces (d.seq first second) = fused (I.traces first * I.traces second) := by
    have h := I.traces_sequence (d.locationFor [first, second]) [first, second]
    rw [List.map_cons, List.map_singleton, List.prod_cons, List.prod_singleton] at h
    exact h
  have hstar (body e : Expr S) (h : d.star body = .ok e) :
      I.traces e = fused (I.traces body)∗ := by
    have hruns : I.runs e = (I.runs body)∗ := I.runs_loop h
    rw [Interpretation.traces, hruns, Interpretation.traces, Event.fused_kstar]
  refine ⟨hseq, ?_, ?_, hstar, ?_, ?_⟩
  · intro parts
    exact I.traces_sequence _ parts
  · intro ordered left leftRole right rightRole
    rw [Interpretation.traces, d.runs_alternate I, Event.fused_add, ArmRole.fused_counted,
      ArmRole.fused_counted]
    rfl
  · intro body e h
    have hruns : I.runs e = 1 + I.runs body := I.runs_loop h
    rw [Interpretation.traces, hruns, Event.fused_add, Event.fused_one]
    rfl
  · intro body e h
    unfold plus at h
    cases hrest : d.star body.copy with
    | error err =>
      rw [hrest] at h
      cases h
    | ok rest =>
      rw [hrest] at h
      cases h
      have hcopy : I.traces body.copy = I.traces body := by
        rw [Interpretation.traces, I.runs_copy]
        rfl
      rw [hseq, hstar _ _ hrest, hcopy]
      exact fused_mul_congr rfl (fused_fused _)

/-- At least one `a` with code in front of it: the code runs before each of them. -/
theorem operators_keep_traces_plus :
    let I : Interpretation CharClass Char :=
      { call := fun c => {[.code c.name]}
        gate := fun _ => 0
        assertion := fun _ => 1
        ruleEnd := fun _ => 1
        defaultError := 0
        gate_copy := by simp
        assertion_copy := by simp }
    let d : Draft CharClass := {}
    let body := (d.terminal (CharClass.ofItems ['a'])).withBefore "count"
    ∃ e, d.plus body = .ok e ∧ I.traces e = fused (I.traces body * (I.traces body)∗) ∧
      [.code "count", .item 'a'] ∈ I.traces e := by
  intro I d body
  have hplus := (operators_keep_traces I d).2.2.2.2.2 body _ rfl
  have hbody : [.code "count", .item 'a'] ∈ I.traces body := by
    refine ⟨[.code "count", .item 'a'], ?_, rfl⟩
    have hruns : I.runs body = {[.code "count"]} * SymbolSet.traces (CharClass.ofItems ['a']) * 1 :=
      I.runs_terminal _ _
    rw [hruns, mul_one]
    have hitem : [Event.item 'a'] ∈ SymbolSet.traces (CharClass.ofItems ['a']) :=
      Or.inl ⟨'a', by decide, rfl⟩
    exact Language.append_mem_mul (Set.mem_singleton [Event.code "count"]) hitem
  refine ⟨_, rfl, hplus, ?_⟩
  rw [hplus]
  exact ⟨_, Language.append_mem_mul hbody (Language.nil_mem_kstar _), rfl⟩

end Draft

end GrammarTree
