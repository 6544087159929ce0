import ColumnSpec.Builtin.Args
import ColumnSpec.Builtin.Call
import ColumnSpec.Builtin.Numeric
import ColumnSpec.Builtin.Strings
import ColumnSpec.Clock.Calendar
import ColumnSpec.Clock.Format
import ColumnSpec.Command
import ColumnSpec.Config
import ColumnSpec.Conversion
import ColumnSpec.Expr.Eval
import ColumnSpec.Expr.Lexer
import ColumnSpec.Expr.Parser
import ColumnSpec.Expr.Standalone
import ColumnSpec.Expr.Syntax
import ColumnSpec.External
import ColumnSpec.Fault
import ColumnSpec.Input
import ColumnSpec.Main
import ColumnSpec.Number.Binary64
import ColumnSpec.Number.Decimal
import ColumnSpec.Output
import ColumnSpec.Pattern.Classes
import ColumnSpec.Pattern.Footprint
import ColumnSpec.Pattern.Machine
import ColumnSpec.Pattern.Library
import ColumnSpec.Pattern.Parse
import ColumnSpec.Pattern.Syntax
import ColumnSpec.Pattern.UnicodeClass
import ColumnSpec.Range
import ColumnSpec.Record
import ColumnSpec.Script.Compile
import ColumnSpec.Script.Item
import ColumnSpec.Script.Run
import ColumnSpec.Script.Token
import ColumnSpec.Script.Words
import ColumnSpec.Text.Age
import ColumnSpec.Text.Blank
import ColumnSpec.Text.Bytes
import ColumnSpec.Text.Case
import ColumnSpec.Text.Category
import ColumnSpec.Text.Fit
import ColumnSpec.Text.Fold
import ColumnSpec.Text.Property
import ColumnSpec.Text.Ranges
import ColumnSpec.Text.Script
import ColumnSpec.Text.Segment
import ColumnSpec.Text.Utf8Sequences
import ColumnSpec.Value.Arith
import ColumnSpec.Value.Basic
import ColumnSpec.Proofs.Blocks.Tree
import ColumnSpec.Proofs.Blocks.Execute
import ColumnSpec.Proofs.Blocks.Compile
import ColumnSpec.Proofs.Input.Stream
import ColumnSpec.Proofs.Input.Policy
import ColumnSpec.Proofs.Run.Fuel
import ColumnSpec.Proofs.Run.Shift
import ColumnSpec.Proofs.Run.Append
import ColumnSpec.Proofs.Run.Invariant
import ColumnSpec.Proofs.Run.Exhausted
import ColumnSpec.Proofs.InputUse.Marks
import ColumnSpec.Proofs.InputUse.OneCycle
import ColumnSpec.Proofs.Expr.Print
import ColumnSpec.Proofs.Expr.LexPrint
import ColumnSpec.Proofs.Expr.ParsePrint
import ColumnSpec.Proofs.Expr.Progress
import ColumnSpec.Proofs.Run.Breaks
import ColumnSpec.Proofs.Run.BreakSites
import ColumnSpec.Proofs.Encoding.Bytes
import ColumnSpec.Proofs.Value.Word
import ColumnSpec.Proofs.Encoding.Binary
import ColumnSpec.Proofs.Encoding.Conversion
import ColumnSpec.Proofs.Output.Routing
import ColumnSpec.Proofs.Output.Overlay
import ColumnSpec.Proofs.Expr.Assign
import ColumnSpec.Proofs.Record.Views
import ColumnSpec.Proofs.Record.Cache
import ColumnSpec.Proofs.Clock.Calendar
import ColumnSpec.Proofs.Clock.Scan
import ColumnSpec.Proofs.Clock.RoundTrip
import ColumnSpec.Proofs.Clock.Dates
import ColumnSpec.Proofs.Builtin.Text
import ColumnSpec.Proofs.Run.Functions
import ColumnSpec.Proofs.Checked.Basic
import ColumnSpec.Proofs.Checked.Builtin
import ColumnSpec.Proofs.Checked.Record
import ColumnSpec.Proofs.Config.TextForm
import ColumnSpec.Proofs.Words.Splitting
import ColumnSpec.Proofs.Pattern.Replace
import ColumnSpec.Proofs.Fields.Built
import ColumnSpec.Proofs.Fields.Placement
