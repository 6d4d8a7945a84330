import BraceLint.Text.Basic
import BraceLint.Text.Position
import BraceLint.Text.Line
import BraceLint.Text.Blank
import BraceLint.Text.Table
import BraceLint.Text.Letter
import BraceLint.Text.Printable
import BraceLint.Text.Mark
import BraceLint.Text.Normal
import BraceLint.Text.Joining
import BraceLint.Text.Direction
import BraceLint.Syntax.Tree
import BraceLint.Syntax.Dialect
import BraceLint.Syntax.Token
import BraceLint.Syntax.Scan
import BraceLint.Syntax.Parse
import BraceLint.Syntax.Grammar.Name
import BraceLint.Syntax.Grammar.Parameter
import BraceLint.Syntax.Grammar.Type
import BraceLint.Syntax.Grammar.Function
import BraceLint.Syntax.Grammar.Class
import BraceLint.Syntax.Grammar.Markup
import BraceLint.Syntax.Grammar.Operator
import BraceLint.Syntax.Grammar.Primary
import BraceLint.Syntax.Grammar.Expression
import BraceLint.Syntax.Grammar.Declaration
import BraceLint.Syntax.Grammar.Statement
import BraceLint.Syntax.Grammar.Module
import BraceLint.Syntax.Program
import BraceLint.Url.Percent
import BraceLint.Url.Folding
import BraceLint.Url.Punycode
import BraceLint.Url.Domain
import BraceLint.Url.Host
import BraceLint.Url.Basic
import BraceLint.Url.Read
import BraceLint.MediaType
import BraceLint.Edit
import BraceLint.Diagnostic
import BraceLint.Rule.Basic
import BraceLint.Rule.Curly
import BraceLint.Rule.Selection
import BraceLint.Lint
import BraceLint.FixLoop
import BraceLint.Log
import BraceLint.Text.Quoted
import BraceLint.Json
import BraceLint.Report.Record
import BraceLint.Report.Terminal
import BraceLint.Report.Outline
import BraceLint.Session
import BraceLint.Command.Arguments
import BraceLint.Command.Store
import BraceLint.Command.Run
import BraceLint.Main
import BraceLint.Proofs.Span
import BraceLint.Proofs.Braces
import BraceLint.Proofs.Nesting
import BraceLint.Proofs.Findings
import BraceLint.Proofs.Positions
import BraceLint.Proofs.Outermost
import BraceLint.Proofs.Tracking
import BraceLint.Proofs.Passes
import BraceLint.Proofs.Confluence
import BraceLint.Proofs.Linted
import BraceLint.Proofs.SourceOrder
import BraceLint.Proofs.Settling
import BraceLint.Proofs.Tasks
import BraceLint.Proofs.Interleaving
import BraceLint.Proofs.ReportOrder
import BraceLint.Proofs.CleanFiles
import BraceLint.Proofs.Splicing
import BraceLint.Proofs.Shuffling
import BraceLint.Proofs.OnePass
import BraceLint.Proofs.Outcomes
import BraceLint.Proofs.RuleLists
import BraceLint.Proofs.LineColumn
import BraceLint.Proofs.PrintedLine
import BraceLint.Proofs.Underline
import BraceLint.Proofs.JsonToken
import BraceLint.Proofs.JsonValue
import BraceLint.Proofs.JsonRecord
