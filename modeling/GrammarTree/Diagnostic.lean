import GrammarTree.Text.Excerpt

/-!
# Settings and diagnostics

The few choices a user can make about how a grammar is built and reported, and the
advice that is given while alternatives are joined.  A diagnostic never stops
construction: the first mark is kept, the conflict is reported, and a best-effort
tree results.

Main definitions:

- `Settings`: the choices that hold for a whole grammar.
- `Diagnostic.render` and `Diagnostic.renderWithContext`: the text of a
  diagnostic, alone or with an excerpt of the source.
- `Log.write`: collect a diagnostic, unless its concern is silenced.
-/

namespace GrammarTree

/-- The choices that hold for a whole grammar. -/
structure Settings where
  /-- The longest description, in characters, that an arm's name carries. -/
  armNameBudget : Nat := 40
  /-- Whether to warn about an error branch that does not come last. -/
  warnMisplacedRecovery : Bool := true
  /-- The number of tokens of lookahead a rule is declared with. -/
  lookahead : Nat := 2
  /-- Whether a rule whose name starts in upper case is a token rule. -/
  uppercaseTokens : Bool := true
deriving DecidableEq

/-! ## Diagnostics -/

/-- How serious a diagnostic is. -/
inductive Severity where
  | note
  | warning
  | error
deriving DecidableEq

namespace Severity

/-- The name of a severity. -/
def render : Severity → String
  | note => "note"
  | warning => "warning"
  | error => "error"

/-- Severities in increasing order. -/
def rank : Severity → Nat
  | note => 0
  | warning => 1
  | error => 2

/-- The graver of two severities. -/
def max (a b : Severity) : Severity :=
  if a.rank ≤ b.rank then b else a

end Severity

/-- What a diagnostic is about. -/
inductive Concern where
  /-- More than one arm is marked as the default. -/
  | duplicateDefault
  /-- More than one error branch is given. -/
  | duplicateRecovery
  /-- An error branch does not come last. -/
  | misplacedRecovery
deriving DecidableEq

namespace Concern

/-- The stable code by which tools recognise a concern. -/
def code : Concern → String
  | duplicateDefault => "alts::duplicate_default"
  | duplicateRecovery => "alts::duplicate_error_branch"
  | misplacedRecovery => "alts::error_branch_position"

end Concern

/-- One piece of advice about one place in the grammar. -/
structure Diagnostic where
  severity : Severity
  concern : Concern
  location : Location
  message : String
deriving DecidableEq

namespace Diagnostic

/-- A second default was found at a location; the first one stays. -/
def duplicateDefault (location : Location) : Diagnostic :=
  ⟨.error, .duplicateDefault, location, "there is already a default branch"⟩

/-- A second error branch was found at a location; the first one stays. -/
def duplicateRecovery (location : Location) : Diagnostic :=
  ⟨.error, .duplicateRecovery, location, "there is already an error branch"⟩

/-- The error branch at a location is followed by arms. -/
def misplacedRecovery (location : Location) : Diagnostic :=
  ⟨.warning, .misplacedRecovery, location,
    "the error branch should come last to avoid confusion"⟩

/-- Severity, code and message, and the location if there is one. -/
def render (d : Diagnostic) : String :=
  d.severity.render ++ "[" ++ d.concern.code ++ "]: " ++ d.message ++
    match d.location with
    | some span => " (at " ++ span.render ++ ")"
    | none => ""

/-- The text of a diagnostic followed by the marked stretch of the source, where
the source has such a stretch. -/
def renderWithContext (d : Diagnostic) (source : String) (width : Nat) : String :=
  d.render ++
    match d.location.bind fun span => Text.excerpt? source span width with
    | some e => "\n\nContext:\n  ..." ++ e.before ++ "[" ++ e.marked ++ "]" ++ e.after ++ "..."
    | none => ""

end Diagnostic

/-! ## Logs -/

/-- A record of diagnostics in the order they were written. -/
structure Log where
  entries : List Diagnostic := []
  silenced : List Concern := []
deriving DecidableEq

namespace Log

/-- Drop all later diagnostics about a concern. -/
def silence (log : Log) (concern : Concern) : Log :=
  if concern ∈ log.silenced then log else { log with silenced := log.silenced ++ [concern] }

/-- The empty log of a grammar with the given settings. -/
def ofSettings (settings : Settings) : Log :=
  if settings.warnMisplacedRecovery then {} else ({} : Log).silence .misplacedRecovery

/-- Add a diagnostic at the end, unless its concern is silenced. -/
def write (log : Log) (d : Diagnostic) : Log :=
  if d.concern ∈ log.silenced then log else { log with entries := log.entries ++ [d] }

/-- Add diagnostics one after the other. -/
def writeAll (log : Log) (ds : List Diagnostic) : Log :=
  ds.foldl write log

/-- Forget the diagnostics; silenced concerns stay silenced. -/
def clear (log : Log) : Log :=
  { log with entries := [] }

/-- The number of diagnostics of a severity. -/
def count (log : Log) (severity : Severity) : Nat :=
  log.entries.countP fun d => d.severity = severity

/-- The number of diagnostics about a concern. -/
def countConcern (log : Log) (concern : Concern) : Nat :=
  log.entries.countP fun d => d.concern = concern

/-- Whether any diagnostic is an error. -/
def hasErrors (log : Log) : Bool :=
  log.entries.any fun d => d.severity = .error

/-- The gravest severity in the log. -/
def gravest? (log : Log) : Option Severity :=
  log.entries.foldl
    (fun best d => some (match best with
      | none => d.severity
      | some severity => severity.max d.severity))
    none

end Log

end GrammarTree
