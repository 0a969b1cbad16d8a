import Mathlib.Data.List.Nodup
import GrammarTree.Grammar.Basic
import GrammarTree.Symbol.CharClass

/-!
# Runs of a rule table

A grammar is changed request by request.  Its rules and the index of their names are
kept in two lists, and every request changes both alike.  Rules are never taken away
or renamed, so a number stays good for its name, and a body that was given stays.

A request that fails leaves no trace.  Adding a rule declares its name before it gives
the body, but it can only fail for a name that was declared before.

Main results:

- Definition `Grammar.perform`: the effect and the answer of a request.
- Theorem `Grammar.develops_perform`: what a request can do.
- Theorems `Grammar.Develops.indexed` and `Grammar.Develops.exists_later`: the index stays
  true to the rules, and the rules stay.
- Theorem `Grammar.perform_of_error`: a request that fails does nothing.
- Theorem `Grammar.runs_keep_names_and_bodies`: what holds after every run.
-/

namespace GrammarTree

variable {S Item : Type}

/-! ## Requests -/

/-- A request to a grammar. -/
inductive Request (S : Type) where
  | declare (name : String)
  | define (id : RuleId) (body : Expr S)
  | addRule (name : String) (body : Expr S)
  | call (location : Location) (id : RuleId) (params : List String)
  | setToken (id : RuleId) (isToken : Bool)
  | setLookahead (id : RuleId) (lookahead : Nat)
  | setPrivate (id : RuleId) (isPrivate : Bool)
  | setStart (id : RuleId) (isStart : Bool)

/-- The name for which a request answers a number. -/
def Request.name? : Request S → Option String
  | declare name => some name
  | addRule name _ => some name
  | _ => none

/-- What a request answers if it does not fail. -/
inductive Answer (S : Type) where
  | done
  | number (id : RuleId)
  | expression (e : Expr S)

namespace Grammar

variable [SymbolSet S Item]

/-- The grammar after a change, or as it was if the change failed. -/
def settle (g : Grammar S) (changed : Except BuildError (Grammar S)) (answer : Answer S) :
    Grammar S × Except BuildError (Answer S) :=
  match changed with
  | .ok g' => (g', .ok answer)
  | .error err => (g, .error err)

/-- The grammar after a request, and the answer.  A rule is added in two steps: if the second
one fails, what the first one did stays. -/
def perform (g : Grammar S) : Request S → Grammar S × Except BuildError (Answer S)
  | .declare name => ((g.declare name).2, .ok (.number (g.declare name).1))
  | .define id body => g.settle (g.define id body) .done
  | .addRule name body =>
    match g.addRule name body with
    | .ok (id, g') => (g', .ok (.number id))
    | .error err => ((g.declare name).2, .error err)
  | .call location id params => (g, (g.call location id params).map .expression)
  | .setToken id isToken => g.settle (g.setToken id isToken) .done
  | .setLookahead id lookahead => g.settle (g.setLookahead id lookahead) .done
  | .setPrivate id isPrivate => g.settle (g.setPrivate id isPrivate) .done
  | .setStart id isStart => g.settle (g.setStart id isStart) .done

/-- The grammar after a list of requests. -/
def run (g : Grammar S) (requests : List (Request S)) : Grammar S :=
  requests.foldl (fun g request => (g.perform request).1) g

end Grammar

/-! ## What a request can do -/

/-- A later state of a rule: name and end are the same, and a body stays. -/
structure Rule.Keeps (rule later : Rule S) : Prop where
  name_eq : later.name = rule.name
  ending_eq : later.ending = rule.ending
  body_eq : ∀ body, rule.body = some body → later.body = some body

/-- A rule keeps itself. -/
theorem Rule.Keeps.refl (rule : Rule S) : rule.Keeps rule :=
  ⟨rfl, rfl, fun _ h => h⟩

/-- What is kept twice is kept. -/
theorem Rule.Keeps.trans {rule later last : Rule S} (h : rule.Keeps later)
    (h' : later.Keeps last) : rule.Keeps last where
  name_eq := h'.name_eq.trans h.name_eq
  ending_eq := h'.ending_eq.trans h.ending_eq
  body_eq body hbody := h'.body_eq body (h.body_eq body hbody)

namespace Grammar

/-- The grammar with one more rule behind the others, and its name in the index. -/
def addLast (g : Grammar S) (rule : Rule S) : Grammar S :=
  { g with
    rules := g.rules ++ [rule]
    index := (rule.name, ⟨g.rules.length⟩) :: g.index }

/-- The grammar with the rule of a number changed, if there is one. -/
def withRule (g : Grammar S) (id : RuleId) (f : Rule S → Rule S) : Grammar S :=
  { g with rules := g.rules.modify id.index f }

/-- The new rule has the next number. -/
theorem rule?_addLast (g : Grammar S) (rule : Rule S) (id : RuleId) :
    (g.addLast rule).rule? id = if id = ⟨g.rules.length⟩ then some rule else g.rule? id := by
  rcases id with ⟨i⟩
  simp only [rule?, addLast, RuleId.mk.injEq]
  split
  · rename_i hi
    simp [hi]
  · rename_i hi
    rcases Nat.lt_or_gt_of_ne hi with hlt | hgt
    · exact List.getElem?_append_left hlt
    · rw [List.getElem?_eq_none (by simp; omega), List.getElem?_eq_none (by omega)]

/-- The name of the new rule is found first. -/
theorem ruleId?_addLast (g : Grammar S) (rule : Rule S) (name : String) :
    (g.addLast rule).ruleId? name =
      if name = rule.name then some ⟨g.rules.length⟩ else g.ruleId? name := by
  simp only [ruleId?, addLast, List.lookup_cons]
  split <;> simp_all

/-- Only the rule of the number is changed. -/
theorem rule?_withRule (g : Grammar S) (id other : RuleId) (f : Rule S → Rule S) :
    (g.withRule id f).rule? other =
      if id = other then (g.rule? other).map f else g.rule? other := by
  rcases id with ⟨i⟩
  rcases other with ⟨j⟩
  simp only [rule?, withRule, List.getElem?_modify, RuleId.mk.injEq]
  split <;> simp

/-- No rule has the next number yet. -/
theorem rule?_next (g : Grammar S) : g.rule? ⟨g.rules.length⟩ = none :=
  List.getElem?_eq_none (Nat.le_refl _)

variable [SymbolSet S Item]

/-- A name is declared already, or a rule without a body is added behind the others. -/
theorem declare_cases (g : Grammar S) (name : String) :
    (∃ id, g.ruleId? name = some id ∧ g.declare name = (id, g)) ∨
      (g.ruleId? name = none ∧ ∃ rule : Rule S, rule.name = name ∧ rule.body = none ∧
        rule.ending.rule = ⟨g.rules.length⟩ ∧
        g.declare name = (⟨g.rules.length⟩, g.addLast rule)) := by
  unfold declare
  cases hid : g.ruleId? name with
  | some id => exact Or.inl ⟨id, rfl, rfl⟩
  | none => exact Or.inr ⟨rfl, _, rfl, rfl, rfl, rfl⟩

/-- A change that succeeds changes the rule of the number. -/
theorem modify_eq_ok {g g' : Grammar S} {id : RuleId} {f : Rule S → Rule S}
    (h : g.modify id f = .ok g') : g' = g.withRule id f := by
  unfold modify at h
  split at h
  · cases h
    rfl
  · cases h

/-- A body can be given to a rule without a body only. -/
theorem define_eq_ok {g g' : Grammar S} {id : RuleId} {body : Expr S}
    (h : g.define id body = .ok g') :
    ∃ rule, g.rule? id = some rule ∧ rule.body = none ∧
      g' = g.withRule id fun r => { r with body := some body } := by
  unfold define at h
  split at h
  · cases h
  · rename_i rule hrule
    split at h
    · cases h
    · rename_i hbody
      exact ⟨rule, hrule, by simpa using hbody, modify_eq_ok h⟩

/-- A rule is added by giving a body to what was declared. -/
theorem addRule_eq_ok {g g' : Grammar S} {name : String} {body : Expr S} {id : RuleId}
    (h : g.addRule name body = .ok (id, g')) :
    id = (g.declare name).1 ∧ (g.declare name).2.define id body = .ok g' := by
  simp only [addRule] at h
  cases hdefined : (g.declare name).2.define (g.declare name).1 body with
  | error err =>
    rw [hdefined] at h
    cases h
  | ok g'' =>
    rw [hdefined] at h
    cases h
    exact ⟨rfl, hdefined⟩

/-- A rule that is declared right now takes the body, so adding a rule can fail for a known
name only, and then declaring it did nothing. -/
theorem declare_of_addRule_eq_error {g : Grammar S} {name : String} {body : Expr S}
    {err : BuildError} (h : g.addRule name body = .error err) : (g.declare name).2 = g := by
  obtain ⟨id, -, hdeclare⟩ | ⟨-, rule, -, hbody, -, hdeclare⟩ := g.declare_cases name
  · rw [hdeclare]
  · have hrule : (g.addLast rule).rule? ⟨g.rules.length⟩ = some rule := by
      simp [rule?_addLast]
    have hlt : g.rules.length < (g.addLast rule).rules.length := by
      simp [addLast]
    simp [addRule, hdeclare, define, hrule, hbody, modify, hlt, Except.map] at h

/-! ## Developments -/

/-- What requests can make of a grammar: names are declared, and rules are changed into
later states. -/
inductive Develops (g : Grammar S) : Grammar S → Prop where
  | refl : Develops g g
  | declare {h : Grammar S} (name : String) (hh : Develops g h) : Develops g (h.declare name).2
  | change {h : Grammar S} (id : RuleId) (f : Rule S → Rule S) (hh : Develops g h)
      (hf : ∀ rule, h.rule? id = some rule → rule.Keeps (f rule)) : Develops g (h.withRule id f)

/-- One development after the other. -/
theorem Develops.trans {g h k : Grammar S} (hgh : g.Develops h) (hhk : h.Develops k) :
    g.Develops k := by
  induction hhk with
  | refl => exact hgh
  | declare name _ ih => exact ih.declare name
  | change id f _ hf ih => exact ih.change id f hf

/-- Giving a body is a development. -/
theorem develops_define {g g' : Grammar S} {id : RuleId} {body : Expr S}
    (h : g.define id body = .ok g') : g.Develops g' := by
  obtain ⟨rule, hrule, hnone, rfl⟩ := define_eq_ok h
  refine .change id _ .refl ?_
  intro other hother
  rw [hrule] at hother
  cases hother
  refine ⟨rfl, rfl, ?_⟩
  intro old hold
  rw [hnone] at hold
  cases hold

/-- Whether a change of a rule succeeds or not, the grammar develops if the change keeps
name, end and body. -/
theorem develops_settle_modify (g : Grammar S) (id : RuleId) {f : Rule S → Rule S}
    (hf : ∀ rule : Rule S, rule.Keeps (f rule)) (answer : Answer S) :
    g.Develops (g.settle (g.modify id f) answer).1 := by
  cases hmodify : g.modify id f with
  | error err => exact .refl
  | ok g' =>
    rw [modify_eq_ok hmodify]
    exact .change id f .refl fun rule _ => hf rule

/-- Every request develops the grammar. -/
theorem develops_perform (g : Grammar S) (request : Request S) :
    g.Develops (g.perform request).1 := by
  have hdeclare (name : String) : g.Develops (g.declare name).2 := .declare name .refl
  cases request with
  | declare name => exact hdeclare name
  | define id body =>
    simp only [perform]
    cases hdefine : g.define id body with
    | error err => exact .refl
    | ok g' => exact develops_define hdefine
  | addRule name body =>
    simp only [perform]
    cases hadd : g.addRule name body with
    | error err => exact hdeclare name
    | ok added => exact (hdeclare name).trans (develops_define (addRule_eq_ok hadd).2)
  | call location id params => exact .refl
  | setToken id value | setLookahead id value | setPrivate id value | setStart id value =>
    -- none of these touches the name, the end or the body of a rule
    refine develops_settle_modify g id ?_ _
    exact fun _ => ⟨rfl, rfl, fun _ h => h⟩

/-- Every run develops the grammar. -/
theorem develops_run (g : Grammar S) (requests : List (Request S)) :
    g.Develops (g.run requests) := by
  induction requests generalizing g with
  | nil => exact .refl
  | cons request rest ih => exact (g.develops_perform request).trans (ih _)

/-! ## What a development keeps -/

/-- A change of a rule into a later state leaves a later state of every rule. -/
theorem exists_rule?_withRule {g : Grammar S} {id : RuleId} {f : Rule S → Rule S}
    (hf : ∀ rule, g.rule? id = some rule → rule.Keeps (f rule)) {other : RuleId} {rule : Rule S}
    (h : g.rule? other = some rule) :
    ∃ later, (g.withRule id f).rule? other = some later ∧ rule.Keeps later := by
  rw [rule?_withRule, h]
  split
  · rename_i hid
    subst hid
    exact ⟨f rule, rfl, hf rule h⟩
  · exact ⟨rule, rfl, .refl rule⟩

/-- A change of a rule into a later state brings up no other rules. -/
theorem exists_of_rule?_withRule {g : Grammar S} {id : RuleId} {f : Rule S → Rule S}
    (hf : ∀ rule, g.rule? id = some rule → rule.Keeps (f rule)) {other : RuleId}
    {later : Rule S} (h : (g.withRule id f).rule? other = some later) :
    ∃ rule, g.rule? other = some rule ∧ rule.Keeps later := by
  cases hrule : g.rule? other with
  | none => simp [rule?_withRule, hrule] at h
  | some rule =>
    obtain ⟨_, hlater, hkeeps⟩ := exists_rule?_withRule hf hrule
    rw [h] at hlater
    cases hlater
    exact ⟨rule, rfl, hkeeps⟩

/-- Every rule is there in a later state after a development, with the same number. -/
theorem Develops.exists_later {g g' : Grammar S} (hg : g.Develops g') {id : RuleId}
    {rule : Rule S} (h : g.rule? id = some rule) :
    ∃ later, g'.rule? id = some later ∧ rule.Keeps later := by
  induction hg with
  | refl => exact ⟨rule, h, .refl rule⟩
  | @declare k name _ ih =>
    obtain ⟨later, hlater, hkeeps⟩ := ih
    refine ⟨later, ?_, hkeeps⟩
    obtain ⟨_, -, hdeclare⟩ | ⟨-, new, -, -, -, hdeclare⟩ := k.declare_cases name
    · rw [hdeclare]
      exact hlater
    · have hne : id ≠ ⟨k.rules.length⟩ := by
        rintro rfl
        rw [rule?_next] at hlater
        cases hlater
      rw [hdeclare, rule?_addLast, if_neg hne]
      exact hlater
  | change other f _ hf ih =>
    obtain ⟨later, hlater, hkeeps⟩ := ih
    obtain ⟨last, hlast, hkeeps'⟩ := exists_rule?_withRule hf hlater
    exact ⟨last, hlast, hkeeps.trans hkeeps'⟩

/-- The index is true to the rules: it finds exactly the rule of a name, and the end of
each rule knows the number of the rule. -/
structure Indexed (g : Grammar S) : Prop where
  ruleId?_iff : ∀ name id, g.ruleId? name = some id ↔
    ∃ rule, g.rule? id = some rule ∧ rule.name = name
  ending_rule : ∀ id rule, g.rule? id = some rule → rule.ending.rule = id

namespace Indexed

/-- A grammar without rules has nothing to find. -/
theorem empty (settings : Settings) : ({ settings } : Grammar S).Indexed where
  ruleId?_iff := by simp [ruleId?, rule?]
  ending_rule := by simp [rule?]

/-- Two rules of one name would be found as one. -/
theorem names_nodup {g : Grammar S} (h : g.Indexed) : (g.rules.map Rule.name).Nodup := by
  rw [List.nodup_iff_getElem?_ne_getElem?]
  intro i j hij hj heq
  rw [List.length_map] at hj
  have hi : i < g.rules.length := by omega
  simp only [List.getElem?_map, List.getElem?_eq_getElem hi, List.getElem?_eq_getElem hj,
    Option.map_some, Option.some.injEq] at heq
  have hfirst := (h.ruleId?_iff g.rules[j].name ⟨i⟩).mpr ⟨_, List.getElem?_eq_getElem hi, heq⟩
  have hsecond := (h.ruleId?_iff g.rules[j].name ⟨j⟩).mpr ⟨_, List.getElem?_eq_getElem hj, rfl⟩
  rw [hfirst] at hsecond
  cases hsecond
  omega

/-- Changing rules into later states keeps the index true. -/
theorem withRule {g : Grammar S} (h : g.Indexed) {id : RuleId} {f : Rule S → Rule S}
    (hf : ∀ rule, g.rule? id = some rule → rule.Keeps (f rule)) :
    (g.withRule id f).Indexed where
  ruleId?_iff name other := by
    rw [show (g.withRule id f).ruleId? name = g.ruleId? name from rfl, h.ruleId?_iff]
    constructor
    · rintro ⟨rule, hrule, hname⟩
      obtain ⟨later, hlater, hkeeps⟩ := exists_rule?_withRule hf hrule
      exact ⟨later, hlater, hkeeps.name_eq.trans hname⟩
    · rintro ⟨later, hlater, hname⟩
      obtain ⟨rule, hrule, hkeeps⟩ := exists_of_rule?_withRule hf hlater
      exact ⟨rule, hrule, hkeeps.name_eq.symm.trans hname⟩
  ending_rule other later hlater := by
    obtain ⟨rule, hrule, hkeeps⟩ := exists_of_rule?_withRule hf hlater
    rw [hkeeps.ending_eq]
    exact h.ending_rule other rule hrule

/-- Declaring a name keeps the index true. -/
theorem declare {g : Grammar S} (h : g.Indexed) (name : String) : (g.declare name).2.Indexed := by
  obtain ⟨id, -, hdeclare⟩ | ⟨hfresh, rule, rfl, -, hending, hdeclare⟩ := g.declare_cases name
  · rw [hdeclare]
    exact h
  rw [hdeclare]
  refine ⟨?_, ?_⟩
  · intro other id
    rw [ruleId?_addLast, rule?_addLast]
    by_cases hid : id = ⟨g.rules.length⟩
    · -- The next number is the one of the new name and of no other name.
      subst hid
      have hother : g.ruleId? other ≠ some ⟨g.rules.length⟩ := by
        intro hfound
        obtain ⟨_, hrule, -⟩ := (h.ruleId?_iff _ _).mp hfound
        rw [rule?_next] at hrule
        cases hrule
      by_cases hname : other = rule.name
      · simp [hname]
      · simp [hname, hother, Ne.symm hname]
    · rw [if_neg hid, ← h.ruleId?_iff]
      by_cases hname : other = rule.name
      · subst hname
        simp [hfresh, Ne.symm hid]
      · rw [if_neg hname]
  · intro id later hlater
    rw [rule?_addLast] at hlater
    split at hlater
    · rename_i hid
      cases hlater
      exact hending.trans hid.symm
    · exact h.ending_rule id later hlater

end Indexed

/-- A development keeps the index true. -/
theorem Develops.indexed {g g' : Grammar S} (hg : g.Develops g') (h : g.Indexed) :
    g'.Indexed := by
  induction hg with
  | refl => exact h
  | declare name _ ih => exact ih.declare name
  | change id f _ hf ih => exact ih.withRule hf

/-- The number of a name stays. -/
theorem Develops.ruleId? {g g' : Grammar S} (hg : g.Develops g') (h : g.Indexed) {name : String}
    {id : RuleId} (hid : g.ruleId? name = some id) : g'.ruleId? name = some id := by
  obtain ⟨rule, hrule, hname⟩ := (h.ruleId?_iff name id).mp hid
  obtain ⟨later, hlater, hkeeps⟩ := hg.exists_later hrule
  exact ((hg.indexed h).ruleId?_iff name id).mpr ⟨later, hlater, hkeeps.name_eq.trans hname⟩

/-- A body stays. -/
theorem Develops.body? {g g' : Grammar S} (hg : g.Develops g') {id : RuleId} {body : Expr S}
    (h : g.body? id = some body) : g'.body? id = some body := by
  obtain ⟨rule, hrule, hbody⟩ := Option.bind_eq_some_iff.mp h
  obtain ⟨later, hlater, hkeeps⟩ := hg.exists_later hrule
  exact Option.bind_eq_some_iff.mpr ⟨later, hlater, hkeeps.body_eq body hbody⟩

/-! ## Answers -/

/-- Declaring a known name does nothing. -/
theorem declare_of_ruleId? {g : Grammar S} {name : String} {id : RuleId}
    (h : g.ruleId? name = some id) : g.declare name = (id, g) := by
  simp [declare, h]

/-- A name is found under the number that declaring it answers. -/
theorem ruleId?_declare (g : Grammar S) (name : String) :
    (g.declare name).2.ruleId? name = some (g.declare name).1 := by
  obtain ⟨id, hid, hdeclare⟩ | ⟨-, rule, rfl, -, -, hdeclare⟩ := g.declare_cases name
  · rw [hdeclare]
    exact hid
  · rw [hdeclare]
    simp [ruleId?_addLast]

/-- A name is found under the number that a request answers for it. -/
theorem ruleId?_perform {g : Grammar S} {request : Request S} {name : String} {id : RuleId}
    (hname : request.name? = some name) (hid : (g.perform request).2 = .ok (.number id)) :
    (g.perform request).1.ruleId? name = some id := by
  cases request with
  | declare other =>
    cases hname
    cases hid
    exact g.ruleId?_declare name
  | addRule other body =>
    cases hname
    simp only [perform] at hid ⊢
    cases hadd : g.addRule name body with
    | error err =>
      rw [hadd] at hid
      cases hid
    | ok added =>
      obtain ⟨number, g'⟩ := added
      rw [hadd] at hid
      cases hid
      obtain ⟨rfl, hdefine⟩ := addRule_eq_ok hadd
      obtain ⟨-, -, -, rfl⟩ := define_eq_ok hdefine
      exact g.ruleId?_declare name
  | _ => cases hname

/-- A change that fails is not made. -/
theorem settle_of_error {g : Grammar S} {changed : Except BuildError (Grammar S)}
    {answer : Answer S} {err : BuildError} (h : (g.settle changed answer).2 = .error err) :
    (g.settle changed answer).1 = g := by
  cases changed with
  | ok g' => cases h
  | error err => rfl

/-- A request that fails leaves the grammar as it was. -/
theorem perform_of_error {g : Grammar S} {request : Request S} {err : BuildError}
    (h : (g.perform request).2 = .error err) : (g.perform request).1 = g := by
  cases request with
  | declare name => cases h
  | addRule name body =>
    simp only [perform] at h ⊢
    cases hadd : g.addRule name body with
    | error err => exact declare_of_addRule_eq_error hadd
    | ok added =>
      rw [hadd] at h
      cases h
  | call location id params => rfl
  | _ => exact settle_of_error h

/-! ## Runs -/

/-- After every run of requests to an empty grammar, names are distinct, the index finds exactly the
rule of a name, and the end of each rule knows its number.  A number that is answered for a
name is answered for it ever after, a body stays as it was given, and a request that fails
leaves the grammar as it was. -/
theorem runs_keep_names_and_bodies (settings : Settings) (requests : List (Request S)) :
    let g := ({ settings } : Grammar S).run requests
    (g.rules.map Rule.name).Nodup ∧
    (∀ name id, g.ruleId? name = some id ↔ ∃ rule, g.rule? id = some rule ∧ rule.name = name) ∧
    (∀ id rule, g.rule? id = some rule → rule.ending.rule = id) ∧
    (∀ name id, g.ruleId? name = some id → ∀ later, (g.run later).ruleId? name = some id ∧
      (g.run later).declare name = (id, g.run later)) ∧
    (∀ request name id, request.name? = some name → (g.perform request).2 = .ok (.number id) →
      ∀ later, ((g.perform request).1.run later).ruleId? name = some id ∧
        ((g.perform request).1.run later).declare name =
          (id, (g.perform request).1.run later)) ∧
    (∀ id body, g.body? id = some body → ∀ later, (g.run later).body? id = some body) ∧
    (∀ request err, (g.perform request).2 = .error err → (g.perform request).1 = g) := by
  intro g
  have hindexed : g.Indexed := (develops_run _ requests).indexed (.empty settings)
  refine ⟨hindexed.names_nodup, hindexed.ruleId?_iff, hindexed.ending_rule, ?_, ?_, ?_, ?_⟩
  · intro name id hid later
    have hlater := (g.develops_run later).ruleId? hindexed hid
    exact ⟨hlater, declare_of_ruleId? hlater⟩
  · intro request name id hname hid later
    have hnext : (g.perform request).1.Indexed := (g.develops_perform request).indexed hindexed
    have hlater := (develops_run _ later).ruleId? hnext (ruleId?_perform hname hid)
    exact ⟨hlater, declare_of_ruleId? hlater⟩
  · intro id body hbody later
    exact (g.develops_run later).body? hbody
  · intro request err
    exact perform_of_error

/-- Here a rule is declared, gets its body and is to be added once more, which fails; a
rule of another name can be added. -/
theorem runs_keep_names_and_bodies_word :
    let body : Expr CharClass := .epsilon none
    let requests : List (Request CharClass) := [.declare "word", .define ⟨0⟩ body]
    let g := ({} : Grammar CharClass).run requests
    (g.perform (.addRule "word" body)).1 = g ∧
      (∀ later, (g.run later).declare "word" = (⟨0⟩, g.run later) ∧
        (g.run later).body? ⟨0⟩ = some body) ∧
      ∀ later, ((g.perform (.addRule "line" body)).1.run later).ruleId? "line" = some ⟨1⟩ := by
  intro body requests g
  obtain ⟨-, -, -, hnumber, hanswer, hbody, hfail⟩ :=
    runs_keep_names_and_bodies (S := CharClass) {} requests
  refine ⟨hfail (.addRule "word" body) (.duplicateRule "word") rfl, ?_, ?_⟩
  · intro later
    exact ⟨(hnumber "word" ⟨0⟩ rfl later).2, hbody ⟨0⟩ body rfl later⟩
  · intro later
    exact (hanswer (.addRule "line" body) "line" ⟨1⟩ rfl rfl later).1

end Grammar

end GrammarTree
