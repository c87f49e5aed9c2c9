import RepoAudit.Audit
import RepoAudit.CallGraph
import RepoAudit.Command.Arguments
import RepoAudit.Command.Count
import RepoAudit.Command.Report
import RepoAudit.Command.Run
import RepoAudit.Console.Constant
import RepoAudit.Console.Emoji
import RepoAudit.Console.Emoji.Names
import RepoAudit.Console.Grid
import RepoAudit.Console.Highlight
import RepoAudit.Console.Markup
import RepoAudit.Console.Panel
import RepoAudit.Console.Style
import RepoAudit.Console.Styled
import RepoAudit.Console.Wrap
import RepoAudit.DeadCode
import RepoAudit.Decimal.Binary
import RepoAudit.Decimal.Digits
import RepoAudit.Decimal.Layout
import RepoAudit.Decimal.Reader
import RepoAudit.Declaration
import RepoAudit.Discovery
import RepoAudit.Duplicate.Block
import RepoAudit.Duplicate.Comparison
import RepoAudit.GitLab.Client
import RepoAudit.GitLab.Text
import RepoAudit.Glob.Selector
import RepoAudit.Glob.Wildcard
import RepoAudit.Health
import RepoAudit.Issue.Basic
import RepoAudit.Issue.Review
import RepoAudit.Language
import RepoAudit.Llm.Answer
import RepoAudit.Llm.Provider
import RepoAudit.Llm.Settings
import RepoAudit.Main
import RepoAudit.Package.Import
import RepoAudit.Package.Manifest
import RepoAudit.Package.Name
import RepoAudit.Package.Report
import RepoAudit.Parsing
import RepoAudit.Path
import RepoAudit.Proofs.CallGraph
import RepoAudit.Proofs.DeadCode.Exact
import RepoAudit.Proofs.DeadCode.Extension
import RepoAudit.Proofs.DeadCode.LocalCalls
import RepoAudit.Proofs.Symbol.Change
import RepoAudit.Proofs.Symbol.Classes
import RepoAudit.Proofs.Symbol.ExportStep
import RepoAudit.Proofs.Symbol.ExportSurface
import RepoAudit.Proofs.Symbol.Extension
import RepoAudit.Proofs.Symbol.Grounded
import RepoAudit.Proofs.Symbol.Language
import RepoAudit.Proofs.Symbol.Locality
import RepoAudit.Proofs.Symbol.Lookup
import RepoAudit.Proofs.Symbol.MoreHops
import RepoAudit.Proofs.Symbol.Program
import RepoAudit.Proofs.Symbol.StarOrder
import RepoAudit.Proofs.Syntax.Tree
import RepoAudit.Proofs.Table
import RepoAudit.Settings.Basic
import RepoAudit.Settings.Toml
import RepoAudit.Settings.Toml.Basic
import RepoAudit.Settings.Toml.Entry
import RepoAudit.Settings.Toml.Line
import RepoAudit.Settings.Toml.Quoted
import RepoAudit.Settings.Toml.Scalar
import RepoAudit.Snapshot
import RepoAudit.Snapshot.Outside
import RepoAudit.Source
import RepoAudit.Symbol.Basic
import RepoAudit.Symbol.Export
import RepoAudit.Symbol.Index
import RepoAudit.Symbol.Name
import RepoAudit.Symbol.Pattern
import RepoAudit.Symbol.Program
import RepoAudit.Symbol.Resolve
import RepoAudit.Syntax.Cursor
import RepoAudit.Syntax.Kind
import RepoAudit.Syntax.Node
import RepoAudit.Syntax.Walk
import RepoAudit.Table
import RepoAudit.Text.Blank
import RepoAudit.Text.CharName
import RepoAudit.Text.CharName.AtoB
import RepoAudit.Text.CharName.CtoD
import RepoAudit.Text.CharName.EtoH
import RepoAudit.Text.CharName.ItoL
import RepoAudit.Text.CharName.MtoR
import RepoAudit.Text.CharName.StoZ
import RepoAudit.Text.CodePoint
import RepoAudit.Text.Digit
import RepoAudit.Text.Fence
import RepoAudit.Text.Lines
import RepoAudit.Text.Lower
import RepoAudit.Text.Pattern
import RepoAudit.Text.Printable
import RepoAudit.Text.Ranges
import RepoAudit.Text.Split
import RepoAudit.Text.Utf8
import RepoAudit.Text.Width
import RepoAudit.Text.Word
import RepoAudit.Total
import RepoAudit.Value.Basic
import RepoAudit.Value.Convert
import RepoAudit.Value.Moment
import RepoAudit.Value.Printer
import RepoAudit.Value.Reader
import RepoAudit.Volume
import RepoAudit.Wire
import RepoAudit.Proofs.Except
import RepoAudit.Proofs.DeadCode.Order
import RepoAudit.Proofs.CallGraph.Growth
import RepoAudit.Proofs.Symbol.Naming
import RepoAudit.Proofs.Text.Ends
import RepoAudit.Proofs.Volume
import RepoAudit.Proofs.Glob
import RepoAudit.Proofs.Comments.Bytes
import RepoAudit.Proofs.Comments.Classes
import RepoAudit.Proofs.Comments.Index
import RepoAudit.Proofs.Comments.Report
import RepoAudit.Proofs.Discovery
import RepoAudit.Proofs.Issue.Review
import RepoAudit.Proofs.Llm.Settings
import RepoAudit.Proofs.Audit
import RepoAudit.Proofs.Symbol.Pattern
import RepoAudit.Proofs.Symbol.Declared
import RepoAudit.Proofs.Symbol.Scopes
import RepoAudit.Proofs.Symbol.ExportMarker
import RepoAudit.Proofs.Symbol.Inheritance
import RepoAudit.Proofs.Symbol.ReexportChain
import RepoAudit.Proofs.Symbol.Hoisting
import RepoAudit.Proofs.Path
import RepoAudit.Proofs.Symbol.Specifier
import RepoAudit.Proofs.Package.Import
import RepoAudit.Proofs.Value.Reader
import RepoAudit.Proofs.Llm.Extraction
import RepoAudit.Proofs.Issue.Decode
import RepoAudit.Proofs.Llm.Generate
import RepoAudit.Proofs.Value.Keys
import RepoAudit.Proofs.Package.Report
import RepoAudit.Proofs.Glob.Describe
import RepoAudit.Proofs.Discovery.Listing
import RepoAudit.Proofs.GitLab.Publish
import RepoAudit.Proofs.Health
import RepoAudit.Proofs.Symbol.Destructuring
import RepoAudit.Proofs.Duplicate.Coverage
import RepoAudit.Proofs.Syntax.DocumentOrder
