import GrammarTree.Choice.Ambiguity
import GrammarTree.Document.Record
import GrammarTree.Draft
import GrammarTree.Expr.Inspect
import GrammarTree.Expr.Printer
import GrammarTree.Expr.Same
import GrammarTree.Grammar.Nullable
import GrammarTree.StackProgram
import GrammarTree.Symbol.TokenClass
import GrammarTree.Proofs.JoinTree
import GrammarTree.Proofs.Ledger
import GrammarTree.Proofs.Flattening
import GrammarTree.Proofs.Reachable
import GrammarTree.Proofs.Grouping
import GrammarTree.Proofs.Reader
import GrammarTree.Proofs.ReadBack
import GrammarTree.Proofs.Meaning
import GrammarTree.Proofs.Nullability
import GrammarTree.Proofs.ReportRuns
import GrammarTree.Proofs.Marks
import GrammarTree.Proofs.MarkOrder
import GrammarTree.Proofs.Everywhere
import GrammarTree.Proofs.CanonicalForm
import GrammarTree.Proofs.RuleTable
import GrammarTree.Proofs.PrintingBounds
import GrammarTree.Proofs.StackSafety
import GrammarTree.Proofs.NodeChange
import GrammarTree.Proofs.Sameness
import GrammarTree.Proofs.Discarding
import GrammarTree.Proofs.ClosedGrammar
import GrammarTree.Proofs.NestedLoops
import GrammarTree.Proofs.Placing
import GrammarTree.Proofs.Residuals
import GrammarTree.Proofs.CharacterSets
import GrammarTree.Proofs.OperatorNullability
import GrammarTree.Proofs.SequenceLaws
import GrammarTree.Proofs.Segments
import GrammarTree.Proofs.ClassReader
import GrammarTree.Proofs.Enclosing
import GrammarTree.Proofs.Placeholders
import GrammarTree.Proofs.Excerpts
