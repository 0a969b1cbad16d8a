import GrammarTree.Proofs.Making
import GrammarTree.Symbol.CharClass

/-!
# Closed grammars

A call is checked once, when it is made: then there is a rule of its number, and the call
takes the name of that rule.  From there it may be copied, combined and placed anywhere, and
a grammar is finished without another look at the calls in its bodies.  All the same no call
of a finished grammar leads nowhere, because rules are never taken away or renamed.

Main results:

- Definition `Kind.Resolves`: a call names a rule of a grammar.
- Theorem `Grammar.body?_perform`: a body was there before or comes with the request.
- Theorem `Draft.Session.resolved`: in every state of a draft all calls name rules.
- Theorem `Draft.Session.finishes_with_closed_grammar`: when a draft can be finished, and
  what the finished grammar is like.
-/

namespace GrammarTree

variable {S Item : Type}

/-! ## Calls that name a rule -/

/-- A call has the number and the name of a rule. -/
def Kind.Resolves (g : Grammar S) (k : Kind S (Expr S)) : Prop :=
  ∀ c, k = .call c → ∃ rule, g.rule? c.rule = some rule ∧ rule.name = c.name

/-- A copy of a construct is a call if the construct is. -/
theorem Kind.eq_call_of_copy {k : Kind S (Expr S)} {c : Call}
    (h : (k.map Expr.copy).forget = .call c) : k = .call c := by
  match k with
  | .call d =>
    cases h
    rfl
  | .assertion ⟨.ahead _, _, _, _⟩ | .assertion ⟨.code _, _, _, _⟩ => cases h
  | .terminal _ | .sequence _ | .choice _ | .gate _ | .ruleEnd _ | .defaultError => cases h

section Resolves

variable [SymbolSet S Item]

/-- Calls still name a rule after a development. -/
theorem Kind.Resolves.develops {g g' : Grammar S} (hg : g.Develops g') {k : Kind S (Expr S)}
    (h : k.Resolves g) : k.Resolves g' := by
  intro c hc
  obtain ⟨rule, hrule, hname⟩ := h c hc
  obtain ⟨later, hlater, hkeeps⟩ := hg.exists_later hrule
  exact ⟨later, hlater, hkeeps.name_eq.trans hname⟩

/-- A call is made for a rule that is there, and no other operator makes calls. -/
theorem Draft.upholds_resolves (wraps : Expr S → Prop) (d : Draft S) :
    d.Upholds wraps (Kind.Resolves d.grammar) where
  terminal _ _ h := by cases h
  sequence _ _ h := by cases h
  gate _ _ h := by cases h
  assertion _ _ h := by cases h
  defaultError _ h := by cases h
  call params hrule c h := by
    cases h
    exact ⟨_, hrule, rfl⟩
  join _ _ _ _ h := by cases h
  loop _ _ _ _ h := by cases h
  exit _ _ h := by cases h
  copy hk c h := hk c (Kind.eq_call_of_copy h)

end Resolves

/-! ## Where bodies come from -/

namespace Grammar

variable [SymbolSet S Item] {g g' : Grammar S} {id other : RuleId} {body : Expr S}

/-- A new rule has no body yet. -/
theorem body?_declare (g : Grammar S) (name : String) (id : RuleId) :
    (g.declare name).2.body? id = g.body? id := by
  obtain ⟨_, -, hdeclare⟩ | ⟨-, rule, -, hnone, -, hdeclare⟩ := g.declare_cases name
  · rw [hdeclare]
  · rw [hdeclare, body?, body?, rule?_addLast]
    split
    · rename_i hid
      rw [hid, rule?_next, Option.bind_some, Option.bind_none, hnone]
    · rfl

/-- A change that is not about the body leaves all bodies. -/
theorem body?_withRule (g : Grammar S) (id other : RuleId) {f : Rule S → Rule S}
    (hf : ∀ rule, (f rule).body = rule.body) : (g.withRule id f).body? other = g.body? other := by
  rw [body?, body?, rule?_withRule]
  split
  · cases g.rule? other with
    | none => rfl
    | some rule => exact hf rule
  · rfl

/-- Whether such a change succeeds or not, all bodies stay. -/
theorem body?_settle_modify (g : Grammar S) (id other : RuleId) {f : Rule S → Rule S}
    (hf : ∀ rule, (f rule).body = rule.body) (answer : Answer S) :
    (g.settle (g.modify id f) answer).1.body? other = g.body? other := by
  cases hmodify : g.modify id f with
  | error err => rfl
  | ok g' =>
    rw [modify_eq_ok hmodify]
    exact g.body?_withRule id other hf

/-- A body is the one that was given or was there before. -/
theorem body?_define {given : Expr S} (h : g.define id given = .ok g')
    (hbody : g'.body? other = some body) : g.body? other = some body ∨ given = body := by
  obtain ⟨rule, hrule, -, rfl⟩ := define_eq_ok h
  rw [body?, rule?_withRule] at hbody
  split at hbody
  · rename_i hid
    subst hid
    rw [hrule] at hbody
    exact Or.inr (Option.some.inj hbody)
  · exact Or.inl hbody

/-- A body was there before a request or comes with it. -/
theorem body?_perform {request : Request S} (h : (g.perform request).1.body? id = some body) :
    g.body? id = some body ∨ request.body? = some body := by
  cases request with
  | declare name =>
    left
    exact (g.body?_declare name id).symm.trans h
  | define number given =>
    simp only [perform] at h
    cases hdefine : g.define number given with
    | error err =>
      rw [hdefine] at h
      exact Or.inl h
    | ok g' =>
      rw [hdefine] at h
      exact (body?_define hdefine h).imp_right (congrArg some)
  | addRule name given =>
    simp only [perform] at h
    cases hadd : g.addRule name given with
    | error err =>
      rw [hadd] at h
      left
      exact (g.body?_declare name id).symm.trans h
    | ok added =>
      rw [hadd] at h
      refine (body?_define (addRule_eq_ok hadd).2 h).imp ?_ (congrArg some)
      intro hold
      exact (g.body?_declare name id).symm.trans hold
  | call location number params => exact Or.inl h
  | setToken number value | setLookahead number value | setPrivate number value
  | setStart number value =>
    -- none of these touches a body
    left
    rw [← h, eq_comm]
    refine g.body?_settle_modify number id ?_ _
    exact fun _ => rfl

/-! ## Finishing -/

/-- A grammar is finished as it is if every rule has a body. -/
theorem finish_eq_ok_iff :
    g.finish = .ok g' ↔ (∀ rule ∈ g.rules, rule.body.isSome = true) ∧ g' = g := by
  unfold finish
  cases hfind : g.rules.find? fun r => r.body.isNone with
  | none =>
    rw [List.find?_eq_none] at hfind
    have hall : ∀ rule ∈ g.rules, rule.body.isSome = true := by
      intro rule hrule
      simpa [Option.isSome_iff_ne_none] using hfind rule hrule
    constructor
    · intro h
      cases h
      exact ⟨hall, rfl⟩
    · rintro ⟨-, rfl⟩
      rfl
  | some rule =>
    constructor
    · intro h
      cases h
    · rintro ⟨hall, -⟩
      have hsome := hall rule (List.mem_of_find?_eq_some hfind)
      have hnone := List.find?_some hfind
      simp_all

/-- Otherwise the rule of the least number that has none is to blame. -/
theorem finish_eq_error_iff {err : BuildError} :
    g.finish = .error err ↔ ∃ id rule, g.rule? id = some rule ∧ rule.body = none ∧
      (∀ other later, g.rule? other = some later → later.body = none → id.index ≤ other.index) ∧
      err = .undefinedRule rule.name := by
  unfold finish
  constructor
  · intro h
    split at h
    · rename_i rule hfind
      obtain ⟨hnone, i, hi, rfl, hfirst⟩ := List.find?_eq_some_iff_getElem.mp hfind
      cases h
      refine ⟨⟨i⟩, _, List.getElem?_eq_getElem hi, Option.isNone_iff_eq_none.mp hnone, ?_, rfl⟩
      intro other later hlater hbody
      obtain ⟨hj, rfl⟩ := List.getElem?_eq_some_iff.mp hlater
      rcases Nat.lt_or_ge other.index i with hlt | hge
      · have hearly := hfirst other.index hlt
        simp [hbody] at hearly
      · exact hge
    · cases h
  · rintro ⟨⟨i⟩, rule, hrule, hnone, hleast, rfl⟩
    obtain ⟨hi, rfl⟩ := List.getElem?_eq_some_iff.mp hrule
    have hfind : (g.rules.find? fun r => r.body.isNone) = some g.rules[i] := by
      refine List.find?_eq_some_iff_getElem.mpr
        ⟨Option.isNone_iff_eq_none.mpr hnone, i, hi, rfl, ?_⟩
      intro j hj
      have hjlt : j < g.rules.length := Nat.lt_trans hj hi
      cases hbody : g.rules[j].body with
      | some body => simp
      | none =>
        have hle := hleast ⟨j⟩ _ (List.getElem?_eq_getElem hjlt) hbody
        exact absurd hj (Nat.not_lt.mpr hle)
    rw [hfind]

end Grammar

/-! ## Sessions -/

namespace Draft

variable [SymbolSet S Item] {wraps : Expr S → Prop} {d : Draft S} {made : List (Expr S)}

/-- A draft is finished if its grammar is, with all that is in its log. -/
theorem finish_eq_ok_iff {result : Grammar S × Log} :
    d.finish = .ok result ↔
      (∀ rule ∈ d.grammar.rules, rule.body.isSome = true) ∧ result = (d.grammar, d.log) := by
  unfold finish
  cases hfinish : d.grammar.finish with
  | ok g =>
    obtain ⟨hall, rfl⟩ := Grammar.finish_eq_ok_iff.mp hfinish
    constructor
    · intro h
      cases h
      exact ⟨hall, rfl⟩
    · rintro ⟨-, rfl⟩
      rfl
  | error err =>
    constructor
    · intro h
      cases h
    · rintro ⟨hall, -⟩
      rw [Grammar.finish_eq_ok_iff.mpr ⟨hall, rfl⟩] at hfinish
      cases hfinish

/-- A draft cannot be finished for the reason that its grammar cannot. -/
theorem finish_eq_error_iff {err : BuildError} :
    d.finish = .error err ↔ d.grammar.finish = .error err := by
  unfold finish
  cases d.grammar.finish with
  | ok g => simp [Except.map]
  | error other => simp [Except.map]

/-- Whether all calls in the expressions that were made and in the bodies of the rules name
rules. -/
structure Resolved (d : Draft S) (made : List (Expr S)) : Prop where
  made : ∀ e ∈ made, e.Everywhere (Kind.Resolves d.grammar)
  bodies : ∀ id body, d.grammar.body? id = some body → body.Everywhere (Kind.Resolves d.grammar)

/-- A request takes what was made as a body and lets all calls name rules. -/
theorem Resolved.perform (h : d.Resolved made) {request : Request S}
    (hbody : ∀ body, request.body? = some body → body ∈ made) :
    (d.perform request).Resolved made := by
  have hdevelops := d.grammar.develops_perform request
  constructor
  · intro e he
    exact (h.made e he).imp fun _ => Kind.Resolves.develops hdevelops
  · intro id body hnew
    -- a body that comes with the request was made before, so its calls are known to be good
    have hold : body.Everywhere (Kind.Resolves d.grammar) := by
      rcases Grammar.body?_perform hnew with hold | hgiven
      · exact h.bodies id body hold
      · exact h.made body (hbody body hgiven)
    exact hold.imp fun _ => Kind.Resolves.develops hdevelops

/-- An operator makes calls of rules that are there only. -/
theorem Resolved.make {d' : Draft S} {e : Expr S} (h : d.Resolved made)
    (he : d.Makes wraps made e d') : d'.Resolved (e :: made) := by
  have hnew := (d.upholds_resolves wraps).everywhere h.made he
  constructor
  · rw [he.grammar_eq]
    exact List.forall_mem_cons.mpr ⟨hnew, h.made⟩
  · rw [he.grammar_eq]
    exact h.bodies

/-- In every state of a draft all calls name rules. -/
theorem Session.resolved (h : Session wraps d made) : d.Resolved made := by
  induction h with
  | start settings => exact ⟨by simp, by simp [ofSettings, Grammar.body?, Grammar.rule?]⟩
  | moveTo _ location ih => exact ⟨ih.made, ih.bodies⟩
  | make _ he ih => exact ih.make he
  | request _ request hbody ih => exact ih.perform hbody

/-- A draft is finished exactly if every rule has a body, and otherwise the rule of the least
number that has none is to blame.  In a finished grammar every call, wherever it stands in a
body, names a rule that is there and has a body. -/
theorem Session.finishes_with_closed_grammar (h : Session wraps d made) :
    (∀ result, d.finish = .ok result ↔
        (∀ rule ∈ d.grammar.rules, rule.body.isSome = true) ∧ result = (d.grammar, d.log)) ∧
      (∀ err, d.finish = .error err ↔
        ∃ id rule, d.grammar.rule? id = some rule ∧ rule.body = none ∧
          (∀ other later, d.grammar.rule? other = some later → later.body = none →
            id.index ≤ other.index) ∧
          err = .undefinedRule rule.name) ∧
      ∀ g log, d.finish = .ok (g, log) → ∀ id body, g.body? id = some body →
        ∀ x ∈ body.nodes, ∀ c, x.kind = .call c →
          ∃ rule, g.rule? c.rule = some rule ∧ rule.name = c.name ∧ rule.body.isSome = true := by
  refine ⟨?_, ?_, ?_⟩
  · intro result
    exact finish_eq_ok_iff
  · intro err
    rw [← Grammar.finish_eq_error_iff]
    exact finish_eq_error_iff
  · intro g log hfinish id body hbody x hx c hc
    obtain ⟨hall, heq⟩ := finish_eq_ok_iff.mp hfinish
    cases heq
    obtain ⟨rule, hrule, hname⟩ := h.resolved.bodies id body hbody x hx c hc
    exact ⟨rule, hrule, hname, hall rule (List.mem_of_getElem? hrule)⟩

/-- A list is a call of an item behind a test for the same call.  The list is added when the
item is declared, and the item gets its body last. -/
theorem Session.finishes_with_closed_grammar_list :
    let declared : Draft CharClass := ((ofSettings {}).declare "item").2
    let item := Expr.ofKind none (.call ⟨⟨0⟩, "item", []⟩)
    let list := declared.seq (declared.testAhead item false) item
    let word := declared.terminal (CharClass.ofItems ['a'])
    let added := declared.perform (.addRule "list" list)
    let d := added.perform (.define ⟨0⟩ word)
    declared.addRule "list" list = .ok (⟨1⟩, added) ∧ added.define ⟨0⟩ word = .ok d ∧
      (∃ made, Session (fun _ => True) d made) ∧ d.finish = .ok (d.grammar, d.log) ∧
      ∀ x ∈ list.nodes, ∀ c, x.kind = .call c →
        ∃ rule, d.grammar.rule? c.rule = some rule ∧ rule.name = c.name ∧
          rule.body.isSome = true := by
  intro declared item list word added d
  have hdeclared : Session (fun _ => True) declared [] := (Session.start {}).declare "item"
  have hcall : declared.call ⟨0⟩ [] = .ok item := rfl
  have hitem := hdeclared.make (.call hcall)
  have htest := hitem.make (.testAhead false List.mem_cons_self)
  have hlist := htest.make (.seq List.mem_cons_self (List.mem_cons_of_mem _ List.mem_cons_self))
  have hword := hlist.make (.terminal (CharClass.ofItems ['a']))
  have hadd : declared.addRule "list" list = .ok (⟨1⟩, added) := rfl
  have hadded := hword.addRule (List.mem_cons_of_mem _ List.mem_cons_self) hadd
  have hdefine : added.define ⟨0⟩ word = .ok d := rfl
  have hsession := hadded.define List.mem_cons_self hdefine
  obtain ⟨hok, -, hclosed⟩ := hsession.finishes_with_closed_grammar
  have hfinish : d.finish = .ok (d.grammar, d.log) := (hok _).mpr ⟨by decide, rfl⟩
  exact ⟨hadd, hdefine, ⟨_, hsession⟩, hfinish, hclosed _ _ hfinish ⟨1⟩ list rfl⟩

end Draft

end GrammarTree
