import GrammarTree.Draft
import GrammarTree.Symbol.CharClass

/-!
# Stack programs

A small language over the operators of a draft.  An instruction takes its
operands from a stack and pushes its result; one that finds too few operands is
skipped, so every list of bytes is a program.

Main definitions:

- `Instr.ofByte`: the instruction of a byte.
- `Machine.step`: the effect of one instruction.
- `run`: the effect of a program.
-/

namespace GrammarTree

/-- An instruction of a stack program. -/
inductive Instr where
  | char (c : Char)
  | call (index : Nat)
  | seq
  | or
  | ordered
  | orDefault
  | orError
  | star
  | opt
  | plus
  | dup
deriving DecidableEq

namespace Instr

/-- The characters that bytes can push. -/
def alphabet : List Char :=
  ['a', 'b', 'c', 'd', 'x', 'y', 'z', '0']

/-- The instruction of a byte: the low half chooses the instruction, the high half
its operand or variant. -/
def ofByte (byte : Nat) : Instr :=
  let high := byte / 16
  match byte % 16 with
  | 0 | 1 | 2 | 3 => char (alphabet.getD (high % alphabet.length) 'a')
  | 4 | 5 => call high
  | 6 => seq
  | 7 | 8 => or
  | 9 | 10 => ordered
  | 11 => orDefault
  | 12 => orError
  | 13 => star
  | 14 =>
    match high % 3 with
    | 0 => opt
    | 1 => plus
    | _ => dup
  | _ => ordered

/-- The program of a list of bytes. -/
def decode (bytes : List Nat) : List Instr :=
  bytes.map ofByte

end Instr

/-- The bounds within which a program runs. -/
structure Limits where
  /-- The number of rules that can be called; there is always one. -/
  ruleCount : Nat := 4
  /-- The number of instructions that are looked at. -/
  maxInstrs : Nat := 4096
  /-- The height of the stack. -/
  maxStack : Nat := 64
deriving DecidableEq

/-- The state of a running program; the top of the stack comes first. -/
structure Machine where
  draft : Draft CharClass := {}
  rules : List RuleId := []
  stack : List (Expr CharClass) := []
  errors : List BuildError := []

namespace Machine

/-- The machine before its first instruction, with the rules `r0`, `r1`, … -/
def start (limits : Limits) : Machine :=
  (List.range (max limits.ruleCount 1)).foldl
    (fun m i =>
      let (id, draft) := m.draft.declare ("r" ++ toString i)
      { m with draft, rules := m.rules ++ [id] })
    {}

/-- Push an expression, unless the stack is full. -/
def push (limits : Limits) (m : Machine) (e : Expr CharClass) : Machine :=
  if m.stack.length < limits.maxStack then { m with stack := e :: m.stack } else m

/-- Push a call of a rule, unless the stack is full. -/
def pushCall (limits : Limits) (m : Machine) (id : RuleId) : Machine :=
  if m.stack.length < limits.maxStack then
    match m.draft.call id [] with
    | .ok e => { m with stack := e :: m.stack }
    | .error err => { m with errors := m.errors ++ [err] }
  else m

/-- Replace the top of the stack.  If that fails the operand is lost and the error
is kept. -/
def applyLoop (m : Machine) (op : Expr CharClass → Except BuildError (Expr CharClass)) :
    Machine :=
  match m.stack with
  | [] => m
  | body :: rest =>
    match op body with
    | .ok e => { m with stack := e :: rest }
    | .error err => { m with stack := rest, errors := m.errors ++ [err] }

/-- Replace the two topmost expressions by one; the upper one is the right
operand. -/
def applyJoin (m : Machine)
    (op : Expr CharClass → Expr CharClass → Expr CharClass × Draft CharClass) : Machine :=
  match m.stack with
  | right :: left :: rest =>
    let (e, draft) := op left right
    { m with stack := e :: rest, draft }
  | _ => m

/-- The effect of an instruction. -/
def step (limits : Limits) (m : Machine) : Instr → Machine
  | .char c => m.push limits (m.draft.single c)
  | .call index =>
    match m.rules[index % m.rules.length]? with
    | none => m
    | some id => m.pushCall limits id
  | .dup =>
    match m.stack with
    | [] => m
    | top :: _ => m.push limits top.copy
  | .star => m.applyLoop m.draft.star
  | .opt => m.applyLoop m.draft.opt
  | .plus => m.applyLoop m.draft.plus
  | .seq => m.applyJoin fun left right => (m.draft.seq left right, m.draft)
  | .or => m.applyJoin fun left right =>
    m.draft.alternate false left .ordinary right .ordinary
  | .ordered => m.applyJoin fun left right =>
    m.draft.alternate true left .ordinary right .ordinary
  | .orDefault => m.applyJoin fun left right =>
    m.draft.alternate false left .ordinary right .default
  | .orError => m.applyJoin fun left right =>
    m.draft.alternate false left .ordinary right (.recovery true)

/-- Run a program. -/
def run (limits : Limits) (program : List Instr) : Machine :=
  (program.take limits.maxInstrs).foldl (step limits) (start limits)

end Machine

end GrammarTree
