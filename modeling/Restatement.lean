import Restatement.Adjacent
import Restatement.Cache.Owners
import Restatement.Cache.Recency
import Restatement.Caches
import Restatement.Command
import Restatement.Command.Arguments
import Restatement.Command.Basic
import Restatement.Command.Check
import Restatement.Command.Explain
import Restatement.Comment.Basic
import Restatement.Comment.Body
import Restatement.Comment.Classification
import Restatement.Comment.Delimiters
import Restatement.Comment.Policy
import Restatement.Comment.Wording
import Restatement.Construct
import Restatement.Entries
import Restatement.FileTree
import Restatement.FileTree.Discovery
import Restatement.Finding
import Restatement.Gloss
import Restatement.Json.Basic
import Restatement.Json.Literal
import Restatement.Json.Printer
import Restatement.Json.Reader
import Restatement.Language
import Restatement.Language.Grammar
import Restatement.LineIndex
import Restatement.LintError
import Restatement.Linter
import Restatement.Log.Event
import Restatement.Log.Level
import Restatement.Lowering
import Restatement.Main
import Restatement.Number.Binary64
import Restatement.Number.Decimal
import Restatement.ParsedFile
import Restatement.Path
import Restatement.Pattern
import Restatement.Pattern.Compiled
import Restatement.Pattern.Cursor
import Restatement.Pattern.Error
import Restatement.Pattern.Escape
import Restatement.Pattern.Flags
import Restatement.Pattern.Matcher
import Restatement.Pattern.Node
import Restatement.Pattern.Parser
import Restatement.Proofs.Agreement
import Restatement.Proofs.Attribution
import Restatement.Proofs.Backtracking
import Restatement.Proofs.BlockLines
import Restatement.Proofs.Capacities
import Restatement.Proofs.Categories
import Restatement.Proofs.CheckOutcomes
import Restatement.Proofs.CommentBodies
import Restatement.Proofs.CommentWording
import Restatement.Proofs.ConstructForms
import Restatement.Proofs.Delimiters
import Restatement.Proofs.DirectoryWalk
import Restatement.Proofs.DocumentOrder
import Restatement.Proofs.EncodedText
import Restatement.Proofs.ExitCodes
import Restatement.Proofs.FilesAsTexts
import Restatement.Proofs.Filters
import Restatement.Proofs.IgnorePatterns
import Restatement.Proofs.Isolation
import Restatement.Proofs.LastTouch
import Restatement.Proofs.LinePartition
import Restatement.Proofs.Loading
import Restatement.Proofs.Locality
import Restatement.Proofs.NormalForms
import Restatement.Proofs.Pairing
import Restatement.Proofs.PatternLimits
import Restatement.Proofs.Phrases
import Restatement.Proofs.PreOrder
import Restatement.Proofs.Precedence
import Restatement.Proofs.QuotedLiterals
import Restatement.Proofs.Rechecks
import Restatement.Proofs.Remembered
import Restatement.Proofs.Respelling
import Restatement.Proofs.Sensitivity
import Restatement.Proofs.ShiftedTree
import Restatement.Proofs.SourceOrder
import Restatement.Proofs.TokenLookup
import Restatement.Proofs.TokenScan
import Restatement.Proofs.Translation
import Restatement.Proofs.Truncation
import Restatement.Proofs.Verdict
import Restatement.Proofs.VerdictBounds
import Restatement.Report
import Restatement.Rule
import Restatement.Scoring
import Restatement.Settings.Basic
import Restatement.Settings.Count
import Restatement.Settings.Declaration
import Restatement.Settings.EnvFile
import Restatement.Settings.Library
import Restatement.Settings.Source
import Restatement.Settings.Standard
import Restatement.Settings.Validation
import Restatement.Snapshot
import Restatement.Source
import Restatement.Span
import Restatement.SyntaxTree
import Restatement.SyntaxTree.Capture
import Restatement.SyntaxTree.Literal
import Restatement.Text.Basic
import Restatement.Text.Blank
import Restatement.Text.Case
import Restatement.Text.Case.Tables
import Restatement.Text.Digit
import Restatement.Text.Encoding
import Restatement.Text.Identifier
import Restatement.Text.Newline
import Restatement.Text.NormalForm
import Restatement.Text.Numeral
import Restatement.Text.Printable
import Restatement.Text.Quoted
import Restatement.Text.Ranges
import Restatement.Text.Utf8
import Restatement.Text.Word
import Restatement.Workplace
