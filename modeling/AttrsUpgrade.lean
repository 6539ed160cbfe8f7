import AttrsUpgrade.Files.CommandLine
import AttrsUpgrade.Files.Path
import AttrsUpgrade.Grammar.Expr
import AttrsUpgrade.Grammar.Parser
import AttrsUpgrade.Grammar.Stmt
import AttrsUpgrade.Import.Add
import AttrsUpgrade.Import.Basic
import AttrsUpgrade.Import.Export
import AttrsUpgrade.Import.Quoted
import AttrsUpgrade.Import.Remove
import AttrsUpgrade.Main
import AttrsUpgrade.Scope.Basic
import AttrsUpgrade.Scope.Scan
import AttrsUpgrade.Text.Blank
import AttrsUpgrade.Text.CharName
import AttrsUpgrade.Text.CharName.Alias
import AttrsUpgrade.Text.CharName.From0000
import AttrsUpgrade.Text.CharName.From0900
import AttrsUpgrade.Text.CharName.From10000
import AttrsUpgrade.Text.CharName.From12000
import AttrsUpgrade.Text.CharName.From13000
import AttrsUpgrade.Text.CharName.From1400
import AttrsUpgrade.Text.CharName.From16000
import AttrsUpgrade.Text.CharName.From1D000
import AttrsUpgrade.Text.CharName.From1F000
import AttrsUpgrade.Text.CharName.From2000
import AttrsUpgrade.Text.CharName.From3000
import AttrsUpgrade.Text.Charset.All
import AttrsUpgrade.Text.Charset.Ascii
import AttrsUpgrade.Text.Charset.Basic
import AttrsUpgrade.Text.Charset.Big5
import AttrsUpgrade.Text.Charset.Dos
import AttrsUpgrade.Text.Charset.EucJp
import AttrsUpgrade.Text.Charset.Gb18030
import AttrsUpgrade.Text.Charset.Gb2312
import AttrsUpgrade.Text.Charset.Gbk
import AttrsUpgrade.Text.Charset.Hkscs
import AttrsUpgrade.Text.Charset.Iso8859
import AttrsUpgrade.Text.Charset.Jis0208
import AttrsUpgrade.Text.Charset.JisX0213
import AttrsUpgrade.Text.Charset.Johab
import AttrsUpgrade.Text.Charset.KsX1001
import AttrsUpgrade.Text.Charset.Macintosh
import AttrsUpgrade.Text.Charset.Regional
import AttrsUpgrade.Text.Charset.ShiftJis
import AttrsUpgrade.Text.Charset.ShiftJis2004
import AttrsUpgrade.Text.Charset.Windows
import AttrsUpgrade.Text.Charset.Windows932
import AttrsUpgrade.Text.Charset.Windows949
import AttrsUpgrade.Text.Charset.Windows950
import AttrsUpgrade.Text.Encoding
import AttrsUpgrade.Text.Escaped
import AttrsUpgrade.Text.Half
import AttrsUpgrade.Text.Identifier
import AttrsUpgrade.Text.Join
import AttrsUpgrade.Text.Literal
import AttrsUpgrade.Text.Search
import AttrsUpgrade.Text.SevenBit.Hz
import AttrsUpgrade.Text.SevenBit.Iso2022
import AttrsUpgrade.Text.SevenBit.Utf7
import AttrsUpgrade.Text.Sorted
import AttrsUpgrade.Text.Span
import AttrsUpgrade.Token.Basic
import AttrsUpgrade.Token.Lexeme
import AttrsUpgrade.Token.Lexer
import AttrsUpgrade.Tree.ArgOrder
import AttrsUpgrade.Tree.Basic
import AttrsUpgrade.Tree.Lines
import AttrsUpgrade.Tree.Parts
import AttrsUpgrade.Tree.Printer
import AttrsUpgrade.Tree.Walk
import AttrsUpgrade.Upgrade.Decorator
import AttrsUpgrade.Upgrade.Field
import AttrsUpgrade.Upgrade.Pass
import AttrsUpgrade.Upgrade.Transform
import AttrsUpgrade.Proofs.Nodes
import AttrsUpgrade.Proofs.Visit
import AttrsUpgrade.Proofs.Flag
import AttrsUpgrade.Proofs.Nesting
import AttrsUpgrade.Proofs.FieldValue
import AttrsUpgrade.Proofs.ImportFrame
import AttrsUpgrade.Proofs.SkipRule
import AttrsUpgrade.Proofs.FieldNames
import AttrsUpgrade.Proofs.Independence
import AttrsUpgrade.Proofs.Frame
import AttrsUpgrade.Proofs.Gather
import AttrsUpgrade.Proofs.Bindings
import AttrsUpgrade.Proofs.ScanSteps
import AttrsUpgrade.Proofs.RunSteps
import AttrsUpgrade.Proofs.Meaning
import AttrsUpgrade.Proofs.Needs
import AttrsUpgrade.Proofs.Accesses
import AttrsUpgrade.Proofs.Openings
import AttrsUpgrade.Proofs.NewNames
import AttrsUpgrade.Proofs.Scheduling
import AttrsUpgrade.Proofs.Carryover
import AttrsUpgrade.Proofs.Files
import AttrsUpgrade.Proofs.Beside
import AttrsUpgrade.Proofs.Filled
import AttrsUpgrade.Proofs.Untouched
import AttrsUpgrade.Proofs.Defaults
import AttrsUpgrade.Proofs.Enclosing
import AttrsUpgrade.Proofs.ExitCode
import AttrsUpgrade.Proofs.Grown
import AttrsUpgrade.Proofs.Undone
import AttrsUpgrade.Proofs.Settled
import AttrsUpgrade.Proofs.ImportUse
import AttrsUpgrade.Proofs.Thinned
import AttrsUpgrade.Proofs.ImportDelta
import AttrsUpgrade.Proofs.Attached
import AttrsUpgrade.Proofs.Decisions
import AttrsUpgrade.Proofs.FieldCall
import AttrsUpgrade.Proofs.TypeArgument
import AttrsUpgrade.Proofs.ClassDecorators
