import TagTemplate.Block.Opener
import TagTemplate.Block.Statement
import TagTemplate.Code.Ambient
import TagTemplate.Code.Body
import TagTemplate.Code.Builder
import TagTemplate.Code.Emitter
import TagTemplate.Code.Generate
import TagTemplate.Code.Instruction
import TagTemplate.Compile
import TagTemplate.Context
import TagTemplate.Datum
import TagTemplate.Environment
import TagTemplate.Error
import TagTemplate.Journal
import TagTemplate.Loader
import TagTemplate.Machine.Arguments
import TagTemplate.Machine.Call
import TagTemplate.Machine.Elements
import TagTemplate.Machine.ErrorClass
import TagTemplate.Machine.Evaluate
import TagTemplate.Machine.Execute
import TagTemplate.Machine.Failure
import TagTemplate.Machine.Function
import TagTemplate.Machine.Host
import TagTemplate.Machine.Member
import TagTemplate.Machine.Method
import TagTemplate.Machine.Operator
import TagTemplate.Machine.Render
import TagTemplate.Machine.Show
import TagTemplate.Machine.Value
import TagTemplate.Machine.Variable
import TagTemplate.Node
import TagTemplate.Plugin
import TagTemplate.Primitive
import TagTemplate.Scan.Parse
import TagTemplate.Scan.Tag
import TagTemplate.Script.Builtins
import TagTemplate.Script.Lexer
import TagTemplate.Script.Listing
import TagTemplate.Script.Literal
import TagTemplate.Script.Names
import TagTemplate.Script.Parse.Atom
import TagTemplate.Script.Parse.Basic
import TagTemplate.Script.Parse.Call
import TagTemplate.Script.Parse.Comprehension
import TagTemplate.Script.Parse.Expr
import TagTemplate.Script.Parse.Operator
import TagTemplate.Script.Parse.Param
import TagTemplate.Script.Parse.Pattern
import TagTemplate.Script.Parse.Place
import TagTemplate.Script.Parse.Rules
import TagTemplate.Script.Parse.Sequence
import TagTemplate.Script.Parse.Stmt
import TagTemplate.Script.Parse.Strings
import TagTemplate.Script.Parse.Target
import TagTemplate.Script.Placement
import TagTemplate.Script.Printer
import TagTemplate.Script.Scope
import TagTemplate.Script.Substitution
import TagTemplate.Script.Token
import TagTemplate.Script.Tree
import TagTemplate.Settings.Generating
import TagTemplate.Settings.Options
import TagTemplate.Settings.Scanning
import TagTemplate.Style
import TagTemplate.Tag
import TagTemplate.Text.Blank
import TagTemplate.Text.Classes
import TagTemplate.Text.Digits
import TagTemplate.Text.Encoding
import TagTemplate.Text.Html
import TagTemplate.Text.Lines
import TagTemplate.Text.Normal
import TagTemplate.Text.Path
import TagTemplate.Text.Quoted
import TagTemplate.Text.Ranges
import TagTemplate.Text.Similar
import TagTemplate.Text.Upper
import TagTemplate.Trim
import TagTemplate.Proofs.Lookup
import TagTemplate.Proofs.Scan.Escape
import TagTemplate.Proofs.Scan.Span
import TagTemplate.Proofs.Scan.Lossless
import TagTemplate.Proofs.Scan.Boundary
import TagTemplate.Proofs.Scan.FirstEnd
import TagTemplate.Proofs.Machine.Records
import TagTemplate.Proofs.Scan.Unterminated
import TagTemplate.Proofs.Scan.LineNumbers
import TagTemplate.Proofs.Scan.Edges
import TagTemplate.Proofs.Code.Forest
import TagTemplate.Proofs.Scan.Piece
import TagTemplate.Proofs.Scan.Print
import TagTemplate.Proofs.Render.Nesting
import TagTemplate.Proofs.Script.Spelling
import TagTemplate.Proofs.Script.Lexeme
import TagTemplate.Proofs.Script.Layout
import TagTemplate.Proofs.Script.Reading
import TagTemplate.Proofs.Script.Phrase
import TagTemplate.Proofs.Script.Grammar
import TagTemplate.Proofs.Script.Statement
import TagTemplate.Proofs.Script.Suite
import TagTemplate.Proofs.Code.Embedded
import TagTemplate.Proofs.Script.Scopes
import TagTemplate.Proofs.Code.Rows
import TagTemplate.Proofs.Script.Fitting
import TagTemplate.Proofs.Script.Numeral
import TagTemplate.Proofs.Code.RenderFunction
import TagTemplate.Proofs.Code.Straight
import TagTemplate.Proofs.Code.RenderLines
import TagTemplate.Proofs.Code.StraightTree
import TagTemplate.Proofs.Code.Levels
import TagTemplate.Proofs.Code.Failing
import TagTemplate.Proofs.Code.Moves
import TagTemplate.Proofs.Code.LineMarks
import TagTemplate.Proofs.Code.TrackedForest
import TagTemplate.Proofs.Code.Filled
import TagTemplate.Proofs.Machine.Ends
import TagTemplate.Proofs.Machine.Keeps
import TagTemplate.Proofs.Machine.Site
import TagTemplate.Proofs.Render.Underway
import TagTemplate.Proofs.Render.Function
import TagTemplate.Proofs.Render.Core
import TagTemplate.Proofs.Render.Start
import TagTemplate.Proofs.Render.Steps
import TagTemplate.Proofs.Render.Compiled
import TagTemplate.Proofs.Render.Straight
import TagTemplate.Proofs.Render.Asking
import TagTemplate.Proofs.Render.Choice
import TagTemplate.Proofs.Machine.ErrorClass
import TagTemplate.Proofs.Render.Nested
import TagTemplate.Proofs.Render.Reports
import TagTemplate.Proofs.Render.ErrorChain
import TagTemplate.Proofs.Render.DepthLimit
import TagTemplate.Proofs.Render.LayoutChain
import TagTemplate.Proofs.Render.Loaded
import TagTemplate.Proofs.Text.Lines
import TagTemplate.Proofs.Block.Stops
import TagTemplate.Proofs.Block.Remark
import TagTemplate.Proofs.Code.Frames
import TagTemplate.Proofs.Code.Columns
import TagTemplate.Proofs.Code.Remarks
import TagTemplate.Proofs.Text.Pieces
import TagTemplate.Proofs.Block.BodyLines
import TagTemplate.Proofs.Block.LineBreaks
import TagTemplate.Proofs.Script.RemarkedLine
import TagTemplate.Proofs.Script.LongText
import TagTemplate.Proofs.Code.Pasted
import TagTemplate.Proofs.Code.Shift
import TagTemplate.Proofs.Code.Literals
import TagTemplate.Proofs.Script.Nodes
import TagTemplate.Proofs.Script.Replacement
import TagTemplate.Proofs.Code.FreeNames
import TagTemplate.Proofs.Scan.Snippets
import TagTemplate.Proofs.Code.Scaffold
import TagTemplate.Proofs.Code.MarkPlaces
import TagTemplate.Proofs.Text.Html
import TagTemplate.Proofs.Render.Escaping
import TagTemplate.Proofs.Text.Path
import TagTemplate.Proofs.Loader.Place
import TagTemplate.Proofs.Loader.Directories
import TagTemplate.Proofs.Settings.Unambiguous
import TagTemplate.Proofs.Settings.Merging
import TagTemplate.Proofs.Machine.Reconfigured
import TagTemplate.Proofs.Text.Sequences
import TagTemplate.Proofs.Report.Decoration
import TagTemplate.Proofs.Script.Outcomes
import TagTemplate.Proofs.Script.Readable
import TagTemplate.Proofs.Script.Parsed
import TagTemplate.Proofs.Code.PatternHeads
import TagTemplate.Proofs.Script.Unbound
import TagTemplate.Proofs.Machine.Enclosing
import TagTemplate.Proofs.Code.MovedMargins
