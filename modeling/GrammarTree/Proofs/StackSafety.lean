import Mathlib.Tactic.SplitIfs
import GrammarTree.StackProgram
import GrammarTree.Proofs.PrintingBounds
import GrammarTree.Proofs.RuleTable

/-!
# Stack programs stay within bounds

The machine of this module fails where a stack program would reach for a character,
a rule or a position among arms that is not there.  It never fails, whatever the
bytes and the limits are, and it does what the plain machine does.

The invariant of a run says how high the stack is, which errors there are, and that
every choice anywhere on the stack is sound.  Doubling the arms of a choice by `dup`
and `or` soon leaves behind what its ledger can store, so soundness must not depend
on the number of arms.

Main results:

- Definitions `Instr.ofByte?` and `Machine.step?`: bytes and instructions with checks.
- Theorem `Machine.Fits.step`: an instruction keeps the invariant.
- Theorem `Machine.programs_stay_within_bounds`: no program fails, and everything that
  it leaves on the stack can be printed.
- Theorem `Machine.programs_stay_within_bounds_doubled`: a program of 33 bytes whose
  choice has more arms than its ledger can tell apart.
-/

namespace GrammarTree

/-! ## Reading bytes with checks -/

namespace Instr

/-- The instruction of a byte, if the alphabet has the character that it asks for. -/
def ofByte? (byte : Nat) : Option Instr :=
  match byte % 16 with
  | 0 | 1 | 2 | 3 => alphabet[byte / 16 % alphabet.length]?.map char
  | _ => some (ofByte byte)

/-- The program of a list of bytes, if all of them can be read. -/
def decode? (bytes : List Nat) : Option (List Instr) :=
  bytes.mapM ofByte?

/-- The alphabet has a character for every byte. -/
theorem ofByte?_eq (byte : Nat) : ofByte? byte = some (ofByte byte) := by
  have hlt : byte / 16 % alphabet.length < alphabet.length := Nat.mod_lt _ (by decide)
  have hchar : alphabet[byte / 16 % alphabet.length]? =
      some (alphabet.getD (byte / 16 % alphabet.length) 'a') := by
    rw [List.getD_eq_getElem?_getD, List.getElem?_eq_getElem hlt, Option.getD_some]
  unfold ofByte?
  split
  case h_5 => rfl
  all_goals
    rename_i hlow
    rw [hchar]
    simp [ofByte, hlow]

/-- Every list of bytes is a program. -/
theorem decode?_eq (bytes : List Nat) : decode? bytes = some (decode bytes) :=
  mapM_some_of_forall fun byte _ => ofByte?_eq byte

end Instr

/-! ## Placing arms with checks -/

namespace Choice

variable {α : Type}

/-- An arm placed at a position, if the position is there. -/
def placeAt? (arms : List α) (position : Nat) (arm : α) : Option (List α) :=
  if position ≤ arms.length then some (arms.insertIdx position arm) else none

/-- Arms placed one after the other from a position on. -/
def placeAll? (arms : List α) (position : Nat) : List α → Option (List α)
  | [] => some arms
  | arm :: rest =>
    (placeAt? arms position arm).bind fun placed => placeAll? placed (position + 1) rest

/-- Place a batch on one side of a choice, arm by arm. -/
def insert? (c : Choice α) (side : Side) (ordered : Bool) (batch : Batch α) :
    Option (Choice α) :=
  let position :=
    match side with
    | .front => 0
    | .back => c.arms.length
  (placeAll? c.arms position batch.arms).map fun arms =>
    { c.insert side ordered batch with arms }

/-- Arms that are placed behind some of the arms stand there in order. -/
theorem placeAll?_eq (front back new : List α) :
    placeAll? (front ++ back) front.length new = some (front ++ new ++ back) := by
  induction new generalizing front with
  | nil => simp [placeAll?]
  | cons arm rest ih =>
    have hinsert : (front ++ back).insertIdx front.length arm = front ++ [arm] ++ back := by
      rw [List.append_assoc]
      exact List.modifyTailIdx_add (List.cons arm) 0 front back
    have hfirst : placeAt? (front ++ back) front.length arm = some (front ++ [arm] ++ back) := by
      rw [placeAt?, if_pos (by simp), hinsert]
    have hrest := ih (front ++ [arm])
    rw [List.length_append, List.length_singleton] at hrest
    rw [placeAll?, hfirst, Option.bind_some, hrest]
    simp

/-- A batch can be placed on both sides of a choice. -/
theorem insert?_eq (c : Choice α) (side : Side) (ordered : Bool) (batch : Batch α) :
    c.insert? side ordered batch = some (c.insert side ordered batch) := by
  cases side with
  | front =>
    have hplace := placeAll?_eq [] c.arms batch.arms
    simp only [List.nil_append, List.length_nil] at hplace
    rw [insert?, hplace]
    rfl
  | back =>
    have hplace := placeAll?_eq c.arms [] batch.arms
    simp only [List.append_nil] at hplace
    rw [insert?, hplace]
    rfl

end Choice

/-- Join two operands arm by arm. -/
def Expr.alternate? {S : Type} (location : Location) (ordered : Bool) (left : Expr S)
    (leftRole : ArmRole) (right : Expr S) (rightRole : ArmRole) :
    Option (Expr S × List Diagnostic) :=
  match left.host? leftRole with
  | some host =>
    (host.insert? .back ordered (right.batch rightRole)).map fun c =>
      (ofKind location (.choice c), host.insertReports .back (right.batch rightRole))
  | none =>
    match right.host? rightRole with
    | some host =>
      (host.insert? .front ordered (left.batch leftRole)).map fun c =>
        (ofKind location (.choice c), host.insertReports .front (left.batch leftRole))
    | none =>
      (({ repetition := .once } : Choice (Expr S)).insert? .back ordered
        (left.batch leftRole)).bind fun host =>
          (host.insert? .back ordered (right.batch rightRole)).map fun c =>
            (ofKind location (.choice c), host.insertReports .back (right.batch rightRole))

/-- Two operands can always be joined arm by arm. -/
theorem Expr.alternate?_eq {S : Type} (location : Location) (ordered : Bool) (left : Expr S)
    (leftRole : ArmRole) (right : Expr S) (rightRole : ArmRole) :
    alternate? location ordered left leftRole right rightRole =
      some (alternate location ordered left leftRole right rightRole) := by
  simp only [alternate?, alternate, Choice.insert?_eq]
  cases left.host? leftRole with
  | some host => rfl
  | none =>
    cases right.host? rightRole with
    | some host => rfl
    | none => rfl

/-- Two operands of a draft joined arm by arm. -/
def Draft.alternate? {S Item : Type} [SymbolSet S Item] (d : Draft S) (ordered : Bool)
    (left : Expr S) (leftRole : ArmRole) (right : Expr S) (rightRole : ArmRole) :
    Option (Expr S × Draft S) :=
  let united :=
    if leftRole = .ordinary ∧ rightRole = .ordinary then left.uniteTerminals? right else none
  match united with
  | some terminal => some (terminal.withLocation (d.location.orElse terminal.location), d)
  | none =>
    (Expr.alternate? (d.locationFor [left, right]) ordered left leftRole right rightRole).map
      fun (e, reports) => (e, { d with log := d.log.writeAll reports })

/-- In a draft, too, two operands can always be joined arm by arm. -/
theorem Draft.alternate?_eq {S Item : Type} [SymbolSet S Item] (d : Draft S) (ordered : Bool)
    (left : Expr S) (leftRole : ArmRole) (right : Expr S) (rightRole : ArmRole) :
    d.alternate? ordered left leftRole right rightRole =
      some (d.alternate ordered left leftRole right rightRole) := by
  simp only [alternate?, alternate, Expr.alternate?_eq]
  generalize (if leftRole = .ordinary ∧ rightRole = .ordinary then
    left.uniteTerminals? right else none) = united
  cases united with
  | some terminal => rfl
  | none => rfl

/-! ## Running with checks -/

namespace Machine

/-- Replace the two topmost expressions by one, if they can be joined. -/
def applyJoin? (m : Machine)
    (op : Expr CharClass → Expr CharClass → Option (Expr CharClass × Draft CharClass)) :
    Option Machine :=
  match m.stack with
  | right :: left :: rest =>
    (op left right).map fun (e, draft) => { m with stack := e :: rest, draft }
  | _ => some m

/-- The effect of an instruction, if it reaches for a rule or a position that is there. -/
def step? (limits : Limits) (m : Machine) : Instr → Option Machine
  | .call index => m.rules[index % m.rules.length]?.map (m.pushCall limits)
  | .or => m.applyJoin? fun left right =>
    m.draft.alternate? false left .ordinary right .ordinary
  | .ordered => m.applyJoin? fun left right =>
    m.draft.alternate? true left .ordinary right .ordinary
  | .orDefault => m.applyJoin? fun left right =>
    m.draft.alternate? false left .ordinary right .default
  | .orError => m.applyJoin? fun left right =>
    m.draft.alternate? false left .ordinary right (.recovery true)
  | instr => some (m.step limits instr)

/-- Read bytes and run them as a program. -/
def runBytes? (limits : Limits) (bytes : List Nat) : Option Machine :=
  (Instr.decode? bytes).bind fun program =>
    (program.take limits.maxInstrs).foldlM (step? limits) (start limits)

/-- The machine after a number of instructions. -/
def after (limits : Limits) (program : List Instr) (count : Nat) : Machine :=
  ((program.take limits.maxInstrs).take count).foldl (step limits) (start limits)

/-- A join that never fails is a join. -/
theorem applyJoin?_eq {m : Machine}
    {op? : Expr CharClass → Expr CharClass → Option (Expr CharClass × Draft CharClass)}
    {op : Expr CharClass → Expr CharClass → Expr CharClass × Draft CharClass}
    (h : ∀ left right, op? left right = some (op left right)) :
    m.applyJoin? op? = some (m.applyJoin op) := by
  unfold applyJoin? applyJoin
  match m.stack with
  | [] => rfl
  | [_] => rfl
  | right :: left :: rest => simp only [h, Option.map_some]

/-- Where there are rules, an instruction never fails. -/
theorem step?_eq {m : Machine} (limits : Limits) (h : m.rules ≠ []) (instr : Instr) :
    m.step? limits instr = some (m.step limits instr) := by
  cases instr with
  | call index =>
    have hlt : index % m.rules.length < m.rules.length :=
      Nat.mod_lt _ (List.length_pos_iff.mpr h)
    simp only [step?, step, List.getElem?_eq_getElem hlt, Option.map_some]
  | or => exact applyJoin?_eq fun _ _ => Draft.alternate?_eq ..
  | ordered => exact applyJoin?_eq fun _ _ => Draft.alternate?_eq ..
  | orDefault => exact applyJoin?_eq fun _ _ => Draft.alternate?_eq ..
  | orError => exact applyJoin?_eq fun _ _ => Draft.alternate?_eq ..
  | _ => rfl

end Machine

/-! ## Sound choices everywhere -/

/-- A copy of a sound choice is sound. -/
theorem Kind.Sound.copy {S : Type} {k : Kind S (Expr S)} (h : k.Sound) :
    (k.map Expr.copy).forget.Sound := by
  match k with
  | .choice c => exact Choice.Sound.of_map h Expr.copy rfl rfl rfl id
  | .assertion ⟨.ahead _, _, _, _⟩ => trivial
  | .assertion ⟨.code _, _, _, _⟩ => trivial
  | .terminal _ | .sequence _ | .gate _ | .call _ | .ruleEnd _ | .defaultError => trivial

namespace Expr

variable {S : Type}

/-- An expression in which every choice is sound. -/
def SoundEverywhere (e : Expr S) : Prop :=
  e.Everywhere Kind.Sound

namespace SoundEverywhere

variable {e : Expr S}

/-- The choice at the root is sound. -/
theorem choice (h : e.SoundEverywhere) : ∀ inner, e.choice? = some inner → inner.Sound := by
  intro inner hinner
  rcases e with ⟨n, k⟩
  have hroot := h.root
  cases k with
  | choice c =>
    cases hinner
    exact hroot
  | _ => cases hinner

/-- Copies are sound everywhere. -/
theorem copy (h : e.SoundEverywhere) : e.copy.SoundEverywhere :=
  Everywhere.copy (fun _ hk => hk.copy) h

end SoundEverywhere

/-- Sequences of sound expressions are sound everywhere. -/
theorem soundEverywhere_sequence (location : Location) {parts : List (Expr S)}
    (h : ∀ part ∈ parts, part.SoundEverywhere) : (sequence location parts).SoundEverywhere :=
  everywhere_sequence location h fun _ => trivial

end Expr

namespace Draft

variable {S Item : Type} [SymbolSet S Item] (d : Draft S) {body left right e : Expr S}

/-- A join of sound operands is sound everywhere. -/
theorem soundEverywhere_alternate (ordered : Bool) (leftRole rightRole : ArmRole)
    (hleft : left.SoundEverywhere) (hright : right.SoundEverywhere) :
    (d.alternate ordered left leftRole right rightRole).1.SoundEverywhere := by
  refine everywhere_alternate (fun _ => trivial) ?_
  intro location
  refine Expr.everywhere_alternate hleft hright ?_
  intro c hc
  obtain ⟨host, side, batch, hjoin, -⟩ :=
    Expr.alternate_cases location ordered left leftRole right rightRole
  rw [hjoin] at hc
  cases hc
  exact Choice.sound_alternate hleft.choice hright.choice (congrArg Prod.fst hjoin)

/-- A loop around a sound body is sound everywhere. -/
theorem soundEverywhere_loop {repetition : Repetition} {greedy : Option Bool}
    (hbody : body.SoundEverywhere) (h : d.loop repetition greedy body = .ok e) :
    e.SoundEverywhere :=
  Expr.everywhere_loop hbody h (Choice.sound_loopChoice repetition greedy hbody.choice)

/-- At least one sound body is sound everywhere. -/
theorem soundEverywhere_plus (hbody : body.SoundEverywhere) (h : d.plus body = .ok e) :
    e.SoundEverywhere := by
  obtain ⟨rest, hrest, rfl⟩ := plus_eq_ok h
  refine Expr.soundEverywhere_sequence _ ?_
  simpa using ⟨hbody, d.soundEverywhere_loop hbody.copy hrest⟩

end Draft

/-! ## Errors -/

/-- An error about a loop directly inside a loop. -/
def BuildError.IsNestedLoop (err : BuildError) : Prop :=
  ∃ location outer inner, err = .nestedLoop location outer inner

namespace Draft

variable {S : Type} {d : Draft S} {body : Expr S} {err : BuildError}

/-- A loop can be refused for one reason only. -/
theorem isNestedLoop_of_loop {repetition : Repetition} {greedy : Option Bool}
    (h : d.loop repetition greedy body = .error err) : err.IsNestedLoop := by
  unfold loop Expr.loop at h
  split at h
  · split_ifs at h
    cases h
    exact ⟨_, _, _, rfl⟩
  · cases h

/-- At least one body is refused if its star is. -/
theorem isNestedLoop_of_plus (h : d.plus body = .error err) : err.IsNestedLoop := by
  unfold plus at h
  cases hrest : d.star body.copy with
  | error err' =>
    rw [hrest] at h
    cases h
    exact isNestedLoop_of_loop hrest
  | ok rest =>
    rw [hrest] at h
    cases h

end Draft

/-! ## The invariant of a run -/

namespace Machine

/-- What holds of a machine at every moment of a run. -/
structure Fits (limits : Limits) (m : Machine) : Prop where
  stack_le : m.stack.length ≤ limits.maxStack
  sound : ∀ e ∈ m.stack, e.SoundEverywhere
  errors : ∀ err ∈ m.errors, err.IsNestedLoop
  rules_ne : m.rules ≠ []
  declared : ∀ id ∈ m.rules, ∃ rule, m.draft.grammar.rule? id = some rule

namespace Fits

variable {limits : Limits} {m : Machine}

/-- Pushing keeps the stack within its limit. -/
theorem push (h : m.Fits limits) {e : Expr CharClass} (he : e.SoundEverywhere) :
    (m.push limits e).Fits limits := by
  unfold Machine.push
  split_ifs with hroom
  · exact ⟨hroom, List.forall_mem_cons.mpr ⟨he, h.sound⟩, h.errors, h.rules_ne, h.declared⟩
  · exact h

/-- The call of a declared rule does not fail. -/
theorem pushCall (h : m.Fits limits) {id : RuleId} (hid : id ∈ m.rules) :
    (m.pushCall limits id).Fits limits := by
  obtain ⟨rule, hrule⟩ := h.declared id hid
  have hcall : m.pushCall limits id = m.push limits
      (Expr.ofKind m.draft.location (.call ⟨id, rule.name, []⟩)) := by
    simp only [Machine.pushCall, Machine.push, Draft.call, Grammar.call, hrule]
  rw [hcall]
  exact h.push (Expr.everywhere_leaf rfl trivial)

/-- A loop takes the place of its body, or the body is lost. -/
theorem applyLoop (h : m.Fits limits)
    {op : Expr CharClass → Except BuildError (Expr CharClass)}
    (hok : ∀ {body e}, body.SoundEverywhere → op body = .ok e → e.SoundEverywhere)
    (herror : ∀ {body err}, op body = .error err → err.IsNestedLoop) :
    (m.applyLoop op).Fits limits := by
  unfold Machine.applyLoop
  split
  · exact h
  · rename_i body rest hstack
    have hheight := h.stack_le
    have hsound := h.sound
    rw [hstack] at hheight hsound
    obtain ⟨hbody, hrest⟩ := List.forall_mem_cons.mp hsound
    cases hop : op body with
    | ok e =>
      exact ⟨hheight, List.forall_mem_cons.mpr ⟨hok hbody hop, hrest⟩, h.errors, h.rules_ne,
        h.declared⟩
    | error err =>
      refine ⟨Nat.le_of_succ_le hheight, hrest, ?_, h.rules_ne, h.declared⟩
      intro other hother
      rcases List.mem_append.mp hother with hold | hnew
      · exact h.errors other hold
      · rw [List.mem_singleton.mp hnew]
        exact herror hop

/-- A join takes the place of its operands. -/
theorem applyJoin (h : m.Fits limits)
    {op : Expr CharClass → Expr CharClass → Expr CharClass × Draft CharClass}
    (hop : ∀ {left right}, left.SoundEverywhere → right.SoundEverywhere →
      (op left right).1.SoundEverywhere)
    (hgrammar : ∀ left right, (op left right).2.grammar = m.draft.grammar) :
    (m.applyJoin op).Fits limits := by
  unfold Machine.applyJoin
  split
  · rename_i right left rest hstack
    have hheight := h.stack_le
    have hsound := h.sound
    rw [hstack] at hheight hsound
    obtain ⟨hright, hbelow⟩ := List.forall_mem_cons.mp hsound
    obtain ⟨hleft, hrest⟩ := List.forall_mem_cons.mp hbelow
    refine ⟨Nat.le_of_succ_le hheight, List.forall_mem_cons.mpr ⟨hop hleft hright, hrest⟩,
      h.errors, h.rules_ne, ?_⟩
    intro id hid
    simp only [hgrammar]
    exact h.declared id hid
  · exact h

/-- Joining operands changes nothing about the rules. -/
theorem applyAlternate (h : m.Fits limits) (ordered : Bool) (rightRole : ArmRole) :
    (m.applyJoin fun left right =>
      m.draft.alternate ordered left .ordinary right rightRole).Fits limits := by
  refine h.applyJoin (m.draft.soundEverywhere_alternate ordered .ordinary rightRole) ?_
  intro left right
  unfold Draft.alternate
  dsimp only
  split <;> rfl

/-- An instruction keeps the invariant. -/
theorem step (h : m.Fits limits) (instr : Instr) : (m.step limits instr).Fits limits := by
  cases instr with
  | char c => exact h.push (Expr.everywhere_leaf rfl trivial)
  | call index =>
    rw [Machine.step]
    split
    · exact h
    · rename_i id hid
      exact h.pushCall (List.mem_of_getElem? hid)
  | dup =>
    rw [Machine.step]
    split
    · exact h
    · rename_i top rest hstack
      exact h.push (h.sound top (by simp [hstack])).copy
  | star => exact h.applyLoop m.draft.soundEverywhere_loop Draft.isNestedLoop_of_loop
  | opt => exact h.applyLoop m.draft.soundEverywhere_loop Draft.isNestedLoop_of_loop
  | plus => exact h.applyLoop m.draft.soundEverywhere_plus Draft.isNestedLoop_of_plus
  | seq =>
    rw [Machine.step]
    refine h.applyJoin ?_ ?_
    · intro left right hleft hright
      exact Expr.soundEverywhere_sequence _ (by simp [hleft, hright])
    · intro left right
      rfl
  | or => exact h.applyAlternate false .ordinary
  | ordered => exact h.applyAlternate true .ordinary
  | orDefault => exact h.applyAlternate false .default
  | orError => exact h.applyAlternate false (.recovery true)

/-- A program keeps the invariant. -/
theorem foldl (h : m.Fits limits) (program : List Instr) :
    (program.foldl (Machine.step limits) m).Fits limits := by
  induction program generalizing m with
  | nil => exact h
  | cons instr rest ih => exact ih (h.step instr)

/-- A program that is run with checks does not fail. -/
theorem foldlM_step? (h : m.Fits limits) (program : List Instr) :
    program.foldlM (step? limits) m = some (program.foldl (Machine.step limits) m) := by
  induction program generalizing m with
  | nil => rfl
  | cons instr rest ih =>
    rw [List.foldlM_cons, step?_eq limits h.rules_ne, Option.bind_eq_bind, Option.bind_some,
      ih (h.step instr), List.foldl_cons]

end Fits

/-! ## The start of a run -/

/-- A machine that has declared its rules and done nothing else. -/
structure Ready (m : Machine) : Prop where
  stack_eq : m.stack = []
  errors_eq : m.errors = []
  indexed : m.draft.grammar.Indexed
  declared : ∀ id ∈ m.rules, ∃ rule, m.draft.grammar.rule? id = some rule

/-- The machine with one more rule. -/
def declareRule (m : Machine) (name : String) : Machine :=
  { m with
    draft := (m.draft.declare name).2
    rules := m.rules ++ [(m.draft.declare name).1] }

/-- Rules that were declared before stay declared, and the new one is declared now. -/
theorem Ready.declareRule {m : Machine} (h : m.Ready) (name : String) :
    (m.declareRule name).Ready := by
  have hindexed := h.indexed.declare name
  refine ⟨h.stack_eq, h.errors_eq, hindexed, ?_⟩
  intro id hid
  rcases List.mem_append.mp hid with hold | hnew
  · obtain ⟨rule, hrule⟩ := h.declared id hold
    obtain ⟨later, hlater, -⟩ := (Grammar.Develops.refl.declare name).exists_later hrule
    exact ⟨later, hlater⟩
  · rw [List.mem_singleton.mp hnew]
    obtain ⟨rule, hrule, -⟩ :=
      (hindexed.ruleId?_iff _ _).mp (m.draft.grammar.ruleId?_declare name)
    exact ⟨rule, hrule⟩

/-- Declaring rules makes a machine ready with so many rules more. -/
theorem Ready.declareRules {m : Machine} (h : m.Ready) (numbers : List Nat) :
    let m' := numbers.foldl (fun m i => m.declareRule ("r" ++ toString i)) m
    m'.Ready ∧ m'.rules.length = m.rules.length + numbers.length := by
  induction numbers generalizing m with
  | nil => exact ⟨h, rfl⟩
  | cons i rest ih =>
    obtain ⟨hready, hlength⟩ := ih (h.declareRule ("r" ++ toString i))
    refine ⟨hready, hlength.trans ?_⟩
    simp only [Machine.declareRule, List.length_append, List.length_cons, List.length_nil]
    omega

/-- The invariant holds at the start, with any limits. -/
theorem fits_start (limits : Limits) : (start limits).Fits limits := by
  have hempty : ({} : Machine).Ready :=
    ⟨rfl, rfl, Grammar.Indexed.empty {}, by simp⟩
  obtain ⟨hready, hlength⟩ := hempty.declareRules (List.range (max limits.ruleCount 1))
  refine ⟨?_, ?_, ?_, ?_, hready.declared⟩
  · exact hready.stack_eq ▸ Nat.zero_le _
  · exact hready.stack_eq ▸ by simp
  · exact hready.errors_eq ▸ by simp
  · intro hnone
    change (start limits).rules.length = _ at hlength
    rw [hnone, List.length_range, List.length_nil] at hlength
    omega

/-- Whatever the bytes and the limits are, reading and running them never reaches for a
character, a rule or a position that is not there; the stack is never higher than its
limit; every error is about a loop inside a loop; and every expression that is left on the
stack is printed within the tables of its rows and within sixteen bits. -/
theorem programs_stay_within_bounds (limits : Limits) (bytes : List Nat) :
    let program := Instr.decode bytes
    runBytes? limits bytes = some (run limits program) ∧
    (∀ count, (after limits program count).stack.length ≤ limits.maxStack) ∧
    (∀ err ∈ (run limits program).errors, err.IsNestedLoop) ∧
    (∀ e ∈ (run limits program).stack, e.render? = some e.render) := by
  intro program
  have hrun : (run limits program).Fits limits := (fits_start limits).foldl _
  refine ⟨?_, ?_, hrun.errors, ?_⟩
  · rw [runBytes?, Instr.decode?_eq, Option.bind_some]
    exact (fits_start limits).foldlM_step? _
  · intro count
    exact ((fits_start limits).foldl _).stack_le
  · intro e he
    exact Expr.render?_eq (hrun.sound e he)

/-! ## More arms than positions -/

variable {limits : Limits} {m : Machine} {e : Expr CharClass} {c : Choice (Expr CharClass)}

/-- A plain choice takes in the operand behind it. -/
theorem alternate_of_plainChoice? (d : Draft CharClass) (ordered : Bool)
    (right : Expr CharClass) (h : e.plainChoice? = some c) :
    ∃ location, (d.alternate ordered e .ordinary right .ordinary).1 =
      .ofKind location (.choice (c.insert .back ordered (right.batch .ordinary))) := by
  have hunited : e.uniteTerminals? right = none := by
    rcases e with ⟨n, k⟩
    cases k with
    | terminal set => cases h
    | _ => rfl
  have hhost := Expr.host?_eq_some_iff.mpr ⟨rfl, h⟩
  refine ⟨d.locationFor [e, right], ?_⟩
  simp [Draft.alternate, hunited, Expr.alternate, hhost]

/-- A copy of a plain choice brings as many arms as the choice has. -/
theorem length_arms_batch_copy (h : e.plainChoice? = some c) :
    (e.copy.batch .ordinary).arms.length = c.arms.length := by
  obtain ⟨hchoice, hactions, honce⟩ := Expr.plainChoice?_eq_some_iff.mp h
  rcases e with ⟨n, k⟩
  cases k with
  | choice d =>
    cases hchoice
    have hcopy : ∃ copied, (Expr.node n (.choice c)).copy.plainChoice? = some copied ∧
        copied.arms.length = c.arms.length := by
      rw [Expr.copy_choice]
      exact ⟨_, Expr.plainChoice?_eq_some_iff.mpr ⟨rfl, hactions, honce⟩, List.length_map _⟩
    obtain ⟨copied, hplain, hlength⟩ := hcopy
    rw [Expr.batch_of_host? (Expr.host?_eq_some_iff.mpr ⟨rfl, hplain⟩)]
    exact hlength
  | _ => cases hchoice

/-- A plain choice that is alone on the stack gets twice as many arms by `dup` and `or`, and
a seam between the old arms and the new ones. -/
theorem stack_dup_or (hroom : 2 ≤ limits.maxStack) (hstack : m.stack = [e])
    (hplain : e.plainChoice? = some c) (harms : 0 < c.arms.length) :
    ∃ e' c', ([Instr.dup, Instr.or].foldl (step limits) m).stack = [e'] ∧
      e'.plainChoice? = some c' ∧ c'.arms.length = 2 * c.arms.length ∧
      ⟨0, Seam.clamp c.arms.length, Seam.clamp (2 * c.arms.length), false⟩ ∈ c'.seams := by
  have hdup : m.step limits .dup = { m with stack := [e.copy, e] } := by
    have hlt : 1 < limits.maxStack := hroom
    simp [step, hstack, push, hlt]
  obtain ⟨location, hjoin⟩ := alternate_of_plainChoice? m.draft false e.copy hplain
  have hbatch := length_arms_batch_copy hplain
  refine ⟨_, c.insert .back false (e.copy.batch .ordinary), ?_,
    Expr.plainChoice?_ofKind location ?_, ?_, ?_⟩
  · rw [List.foldl_cons, List.foldl_cons, List.foldl_nil, hdup, ← hjoin]
    rfl
  · rw [Choice.insert_repetition]
    exact (Expr.plainChoice?_eq_some_iff.mp hplain).2.2
  · rw [Choice.length_arms_insert, hbatch]
    omega
  · have hdouble : (2 * c.arms.length : Int) = (c.arms.length + c.arms.length : Nat) := by omega
    have hseam := Seam.between_eq_singleton harms
      (show c.arms.length < c.arms.length + c.arms.length by omega) false
    simp only [Choice.insert, hbatch, hseam, hdouble]
    exact List.mem_append_right _ (List.mem_singleton_self _)

/-- After some rounds of `dup` and `or` a plain choice has as many times twice its arms. -/
theorem stack_rounds (hroom : 2 ≤ limits.maxStack) (hstack : m.stack = [e])
    (hplain : e.plainChoice? = some c) (harms : 0 < c.arms.length) (rounds : Nat) :
    ∃ e' c', ((List.replicate rounds [Instr.dup, Instr.or]).flatten.foldl (step limits) m).stack =
        [e'] ∧
      e'.plainChoice? = some c' ∧ c'.arms.length = 2 ^ rounds * c.arms.length := by
  induction rounds generalizing m e c with
  | zero => exact ⟨e, c, hstack, hplain, by simp⟩
  | succ rounds ih =>
    obtain ⟨e₁, c₁, hstack₁, hplain₁, hlength₁, -⟩ := stack_dup_or hroom hstack hplain harms
    obtain ⟨e₂, c₂, hstack₂, hplain₂, hlength₂⟩ := ih hstack₁ hplain₁ (by omega)
    refine ⟨e₂, c₂, ?_, hplain₂, ?_⟩
    · rw [List.replicate_succ, List.flatten_cons, List.foldl_append]
      exact hstack₂
    · rw [hlength₂, hlength₁, Nat.pow_succ, Nat.mul_assoc]

/-- Two calls are joined, and the result is joined with a copy of itself fifteen times.  The
last seam of the 65536 arms has one position for its middle and its right end, and the row
is printed all the same. -/
theorem programs_stay_within_bounds_doubled :
    let limits : Limits := { ruleCount := 1 }
    let bytes := [4, 4, 7] ++ (List.replicate 15 [46, 7]).flatten
    ∃ e c, (run limits (Instr.decode bytes)).stack = [e] ∧ e.choice? = some c ∧
      c.arms.length = 65536 ∧ ⟨0, 32767, 32767, false⟩ ∈ c.seams ∧
      e.render? = some e.render := by
  intro limits bytes
  have hroom : 2 ≤ limits.maxStack := by decide
  have hprogram : (Instr.decode bytes).take limits.maxInstrs =
      [.call 0, .call 0, .or] ++
        ((List.replicate 14 [Instr.dup, Instr.or]).flatten ++ [.dup, .or]) := by
    decide
  have hfirst : ∃ e c, ([Instr.call 0, .call 0, .or].foldl (step limits) (start limits)).stack =
      [e] ∧ e.plainChoice? = some c ∧ c.arms.length = 2 := ⟨_, _, rfl, rfl, rfl⟩
  obtain ⟨e₀, c₀, hstack₀, hplain₀, hlength₀⟩ := hfirst
  obtain ⟨e₁, c₁, hstack₁, hplain₁, hlength₁⟩ :=
    stack_rounds hroom hstack₀ hplain₀ (by omega) 14
  rw [hlength₀] at hlength₁
  obtain ⟨e, c, hstack, hplain, hlength, hseam⟩ :=
    stack_dup_or hroom hstack₁ hplain₁ (by omega)
  rw [hlength₁] at hlength hseam
  have hrun : (run limits (Instr.decode bytes)).stack = [e] := by
    rw [run, hprogram, List.foldl_append, List.foldl_append]
    exact hstack
  refine ⟨e, c, hrun, (Expr.plainChoice?_eq_some_iff.mp hplain).1, hlength, hseam, ?_⟩
  exact (programs_stay_within_bounds limits bytes).2.2.2 e (by simp [hrun])

end Machine

end GrammarTree
