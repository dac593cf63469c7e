import Inlay.Code.Calls
import Inlay.Code.Depth
import Inlay.Code.Expression
import Inlay.Code.Extent
import Inlay.Code.Layout
import Inlay.Code.Legality
import Inlay.Code.Lexeme
import Inlay.Code.Literal
import Inlay.Code.Matching
import Inlay.Code.Naming
import Inlay.Code.Number
import Inlay.Code.Reader
import Inlay.Code.Scope
import Inlay.Code.Skeleton
import Inlay.Code.Spelling.Constant
import Inlay.Code.Spelling.Expression
import Inlay.Code.Spelling.Statement
import Inlay.Code.Statement
import Inlay.Code.Syntax
import Inlay.Decimal.Exact
import Inlay.Decimal.Notation
import Inlay.Decimal.Places
import Inlay.Decimal.Shortest
import Inlay.Diagnostic.Report
import Inlay.Diagnostic.Snippet
import Inlay.Environment
import Inlay.Eval.Arguments
import Inlay.Eval.Braces
import Inlay.Eval.Builtins
import Inlay.Eval.Call
import Inlay.Eval.Classes
import Inlay.Eval.Control
import Inlay.Eval.Conversion
import Inlay.Eval.Expression
import Inlay.Eval.Iterate
import Inlay.Eval.MappingMethods
import Inlay.Eval.Mathematics
import Inlay.Eval.Membership
import Inlay.Eval.Methods
import Inlay.Eval.Names
import Inlay.Eval.Pattern
import Inlay.Eval.Power
import Inlay.Eval.Rounding
import Inlay.Eval.SequenceMethods
import Inlay.Eval.Sort
import Inlay.Eval.Statement
import Inlay.Eval.TextMethods
import Inlay.Eval.Unpack
import Inlay.Fault
import Inlay.Header
import Inlay.Indent.Lines
import Inlay.Indent.Resolve
import Inlay.Loader
import Inlay.Loader.Files
import Inlay.Program.Build
import Inlay.Program.Compile
import Inlay.Program.Include
import Inlay.Program.Names
import Inlay.Program.Rewritten
import Inlay.Proofs.Agreeing
import Inlay.Proofs.Aligning
import Inlay.Proofs.Allowed
import Inlay.Proofs.Assembling
import Inlay.Proofs.Balance
import Inlay.Proofs.Bodies
import Inlay.Proofs.Buffering
import Inlay.Proofs.Building
import Inlay.Proofs.Caching
import Inlay.Proofs.Colouring
import Inlay.Proofs.Colons
import Inlay.Proofs.Columns
import Inlay.Proofs.Comments
import Inlay.Proofs.Compilation
import Inlay.Proofs.Complete
import Inlay.Proofs.Desk
import Inlay.Proofs.Ending
import Inlay.Proofs.Entering
import Inlay.Proofs.Filling
import Inlay.Proofs.Following
import Inlay.Proofs.Grammar
import Inlay.Proofs.HeaderCode
import Inlay.Proofs.Heading
import Inlay.Proofs.Heads
import Inlay.Proofs.Holding
import Inlay.Proofs.Holes
import Inlay.Proofs.IncludeChain
import Inlay.Proofs.IncludeCode
import Inlay.Proofs.IncludeDepth
import Inlay.Proofs.Including
import Inlay.Proofs.Inheriting
import Inlay.Proofs.Lexing
import Inlay.Proofs.Listing
import Inlay.Proofs.Misplaced
import Inlay.Proofs.Namespace
import Inlay.Proofs.Normalizing
import Inlay.Proofs.Offsets
import Inlay.Proofs.Origins
import Inlay.Proofs.Outline
import Inlay.Proofs.Parsing
import Inlay.Proofs.Parts
import Inlay.Proofs.Passing
import Inlay.Proofs.Paths
import Inlay.Proofs.Places
import Inlay.Proofs.Placing
import Inlay.Proofs.Printing
import Inlay.Proofs.Reading
import Inlay.Proofs.Realigning
import Inlay.Proofs.Recency
import Inlay.Proofs.Refusing
import Inlay.Proofs.Remarks
import Inlay.Proofs.Replacing
import Inlay.Proofs.Reporting
import Inlay.Proofs.Resolving
import Inlay.Proofs.Rows
import Inlay.Proofs.Scanning
import Inlay.Proofs.Shaping
import Inlay.Proofs.Showing
import Inlay.Proofs.Skeletons
import Inlay.Proofs.Slots
import Inlay.Proofs.Verbatim
import Inlay.Proofs.Walk
import Inlay.Proofs.Traffic
import Inlay.Proofs.Unnesting
import Inlay.Proofs.Wrapping
import Inlay.Proofs.Writing
import Inlay.Render
import Inlay.RenderContext
import Inlay.RenderContext.Stack
import Inlay.Run
import Inlay.Session
import Inlay.Store
import Inlay.Text.Blank
import Inlay.Text.CharacterName
import Inlay.Text.CodePages
import Inlay.Text.Colour
import Inlay.Text.Dedent
import Inlay.Text.Digit
import Inlay.Text.Encoding
import Inlay.Text.Form
import Inlay.Text.FormTable
import Inlay.Text.Identifier
import Inlay.Text.Lines
import Inlay.Text.Lower
import Inlay.Text.NameTable.Aliases
import Inlay.Text.NameTable.Letters
import Inlay.Text.NameTable.OldScripts
import Inlay.Text.NameTable.Pictures
import Inlay.Text.NameTable.Scripts
import Inlay.Text.NameTable.Signs
import Inlay.Text.NameTable.Syllables
import Inlay.Text.NameTable.Symbols
import Inlay.Text.Printable
import Inlay.Text.Quoted
import Inlay.Text.Search
import Inlay.Text.Similarity
import Inlay.Text.Upper
import Inlay.Token
import Inlay.Token.Scan
import Inlay.Tree
import Inlay.Tree.Parse
import Inlay.Value
import Inlay.Value.Arithmetic
import Inlay.Value.Attribute
import Inlay.Value.AttributeNames
import Inlay.Value.Compare
import Inlay.Value.Dictionary
import Inlay.Value.Field
import Inlay.Value.Gap
import Inlay.Value.Key
import Inlay.Value.Kind
import Inlay.Value.Members
import Inlay.Value.Operation
import Inlay.Value.Reading
import Inlay.Value.Sequence
import Inlay.Value.Show
import Inlay.World
