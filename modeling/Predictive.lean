import Predictive.Command.Memory
import Predictive.Main
import Predictive.Proofs.Language
import Predictive.Proofs.Symbol.Table
import Predictive.Report.Export
import Predictive.Proofs.Grammar.WellFormed
import Predictive.Proofs.Factoring.Pass
import Predictive.Proofs.Factoring.Language
import Predictive.Proofs.LeftRecursion.Rules
import Predictive.Proofs.LeftRecursion.Language
import Predictive.Proofs.Grammar.Prepared
import Predictive.Proofs.Sets.Basic
import Predictive.Proofs.Sets.First
import Predictive.Proofs.Sets.Follow
import Predictive.Proofs.Parser.Basic
import Predictive.Proofs.Parser.Correct
import Predictive.Proofs.Parser.Halting
import Predictive.Proofs.Analysis
import Predictive.Proofs.Sets.Context
import Predictive.Proofs.LeftRecursion.Nullable
import Predictive.Proofs.LeftRecursion.Corner
import Predictive.Proofs.LeftRecursion.Search
import Predictive.Proofs.LeftRecursion.Detection
import Predictive.Proofs.LeftRecursion.Remainder
import Predictive.Proofs.Leftmost
import Predictive.Proofs.Parser.Unambiguous
import Predictive.Proofs.Parser.LeftRecursion
import Predictive.Proofs.Factoring.Cycle
import Predictive.Proofs.Grammar.Defined
import Predictive.Proofs.Outcome
import Predictive.Proofs.Reading.Line
import Predictive.Proofs.Reading.Load
import Predictive.Proofs.Grammar.Legible
import Predictive.Proofs.Report.Plain
import Predictive.Proofs.Table
import Predictive.Proofs.Factoring.Sets
import Predictive.Proofs.Reordering.Fresh
import Predictive.Proofs.Reordering.Grammar
import Predictive.Proofs.Reordering.Analysis
import Predictive.Proofs.Reading.Faultless
import Predictive.Proofs.Reordering.Text
import Predictive.Proofs.LeftRecursion.Sets
import Predictive.Proofs.Factoring.Grouping
import Predictive.Proofs.Factoring.Restore
import Predictive.Proofs.Factoring.Table
import Predictive.Proofs.Factoring.Passes
import Predictive.Proofs.Sets.Convergence
import Predictive.Proofs.Sets.Nullable
import Predictive.Proofs.Reading.Entered
import Predictive.Proofs.Reading.Columns
import Predictive.Proofs.Reading.FirstFault
import Predictive.Proofs.Token.Lexeme
import Predictive.Proofs.Token.Spaced
import Predictive.Proofs.Reading.Statement
import Predictive.Proofs.Reading.Layout
import Predictive.Proofs.LeftRecursion.Frame
import Predictive.Proofs.Grammar.Fresh
import Predictive.Proofs.Latex.Sign
import Predictive.Proofs.Report.Latex
import Predictive.Proofs.Report.Table
import Predictive.Proofs.Store.Symbols
import Predictive.Proofs.Store.Grammar
import Predictive.Proofs.Store.Reading
import Predictive.Proofs.Store.Factoring
import Predictive.Proofs.Store.Elimination
import Predictive.Proofs.Store.Edits
import Predictive.Proofs.Log
import Predictive.Proofs.CharSet.Flat
import Predictive.Proofs.Json
import Predictive.Proofs.Decimal
