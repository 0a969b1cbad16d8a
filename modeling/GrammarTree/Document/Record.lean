import GrammarTree.Document.Basic
import GrammarTree.Choice.Basic

/-!
# Stored values

The JSON form of settings, seams, spans, locations and repetitions.  A record is an
object with its fields in any order; unknown fields are passed over, and a field
must neither be repeated nor be missing.  A record may also be written as the array
of its fields.

Main definitions:

- `Document.record?`: the fields of a record.
- `Settings.ofDocument?` and `Settings.toDocument`, and so on for the other types.
-/

namespace GrammarTree

namespace Document

/-- A whole number within bounds. -/
def int? (least greatest : Int) : Document → Option Int
  | number (some value) => if least ≤ value && value ≤ greatest then some value else none
  | _ => none

/-- A natural number below a bound. -/
def nat? (bound : Nat) (d : Document) : Option Nat :=
  (d.int? 0 ((bound : Int) - 1)).map Int.toNat

/-- A truth value. -/
def bool? : Document → Option Bool
  | bool value => some value
  | _ => none

/-- The value of a field, which may occur once at most. -/
def field? (fields : List (String × Document)) (name : String) : Option (Option Document) :=
  match fields.filter fun f => f.1 == name with
  | [] => some none
  | [f] => some (some f.2)
  | _ => none

/-- The named fields of a record in the order of the names; a field that an object
does not mention is missing. -/
def record? (names : List String) : Document → Option (List (Option Document))
  | object fields =>
    match fields.mapM fun (name, value) => name.map fun name => (name, value) with
    | some fields => names.mapM (field? fields)
    | none => none
  | array items => if items.length = names.length then some (items.map some) else none
  | _ => none

end Document

open Document

namespace Settings

/-- Read settings. -/
def ofDocument? (d : Document) : Option Settings :=
  match d.record? ["alt_name_max_len", "warn_error_branch_position", "default_k",
      "token_rule_prefix_upper"] with
  | some [some armNameBudget, some warnMisplacedRecovery, some lookahead,
      some uppercaseTokens] => do
    return {
      armNameBudget := ← armNameBudget.nat? 0x10000000000000000
      warnMisplacedRecovery := ← warnMisplacedRecovery.bool?
      lookahead := ← lookahead.nat? 0x10000000000000000
      uppercaseTokens := ← uppercaseTokens.bool? }
  | _ => none

/-- Write settings. -/
def toDocument (s : Settings) : Document :=
  ofFields
    [("alt_name_max_len", ofInt s.armNameBudget),
      ("warn_error_branch_position", bool s.warnMisplacedRecovery),
      ("default_k", ofInt s.lookahead),
      ("token_rule_prefix_upper", bool s.uppercaseTokens)]

end Settings

namespace Seam

/-- Read a seam. -/
def ofDocument? (d : Document) : Option Seam :=
  match d.record? ["left", "mid", "right", "slash"] with
  | some [some left, some mid, some right, some ordered] => do
    return {
      left := ← left.int? least greatest
      mid := ← mid.int? least greatest
      right := ← right.int? least greatest
      ordered := ← ordered.bool? }
  | _ => none

/-- Write a seam. -/
def toDocument (s : Seam) : Document :=
  ofFields
    [("left", ofInt s.left), ("mid", ofInt s.mid), ("right", ofInt s.right),
      ("slash", bool s.ordered)]

end Seam

namespace Span

/-- Read an offset, which has 32 bits. -/
def offsetOfDocument? (d : Document) : Option Nat :=
  d.nat? 0x100000000

/-- Read a span. -/
def ofDocument? (d : Document) : Option Span :=
  match d.record? ["start", "end"] with
  | some [some start, some stop] => do
    return { start := ← offsetOfDocument? start, stop := ← offsetOfDocument? stop }
  | _ => none

/-- Write a span. -/
def toDocument (s : Span) : Document :=
  ofFields [("start", ofInt s.start), ("end", ofInt s.stop)]

end Span

namespace Location

/-- Read a location; the span may be null, and an object may leave it out. -/
def ofDocument? (d : Document) : Option Location :=
  match d.record? ["range"] with
  | some [none] => some none
  | some [some .null] => some none
  | some [some span] => (Span.ofDocument? span).map some
  | _ => none

/-- Write a location. -/
def toDocument (location : Location) : Document :=
  ofFields [("range",
    match location with
    | some span => span.toDocument
    | none => null)]

end Location

namespace Repetition

/-- The repetition of a stored name. -/
def ofName? (name : String) : Option Repetition :=
  if name = "None" then some once
  else if name = "Opt" then some optional
  else if name = "Star" then some star
  else none

/-- Read a repetition: its name, or an object that maps its name to null. -/
def ofDocument? : Document → Option Repetition
  | .text (some name) => ofName? name
  | .object [(some name, .null)] => ofName? name
  | _ => none

/-- Write a repetition. -/
def toDocument : Repetition → Document
  | once => ofString "None"
  | optional => ofString "Opt"
  | star => ofString "Star"

end Repetition

end GrammarTree
