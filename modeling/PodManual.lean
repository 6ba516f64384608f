import PodManual.Command.Rows
import PodManual.Command.Run
import PodManual.CommandLine.Request
import PodManual.CommandLine.Switch
import PodManual.Console.Colour
import PodManual.Console.Handler
import PodManual.Console.Literal.Expression
import PodManual.Console.Literal.Fault
import PodManual.Console.Literal.Formatted
import PodManual.Console.Literal.Grammar
import PodManual.Console.Literal.Node
import PodManual.Console.Literal.Number
import PodManual.Console.Literal.Quote
import PodManual.Console.Literal.Reader
import PodManual.Console.Literal.Rule
import PodManual.Console.Literal.Slip
import PodManual.Console.Literal.Token
import PodManual.Console.Markup
import PodManual.Console.Style
import PodManual.Dependency.Declared
import PodManual.Dependency.Resolve
import PodManual.Dialect
import PodManual.Document
import PodManual.Event
import PodManual.Extract
import PodManual.Failure
import PodManual.FileTree.Basic
import PodManual.FileTree.Lookup
import PodManual.FileTree.Named
import PodManual.FileTree.Write
import PodManual.Instruction
import PodManual.Main
import PodManual.Page.Basic
import PodManual.Page.Body
import PodManual.Page.Contents
import PodManual.Page.Fragment
import PodManual.Page.Paragraph
import PodManual.Path
import PodManual.Program
import PodManual.Proofs.Dependency.Lookup
import PodManual.Proofs.Dependency.Search
import PodManual.Proofs.Document.Reading
import PodManual.Registry
import PodManual.Report
import PodManual.Run.Basic
import PodManual.Settings.Basic
import PodManual.Settings.EnvFile
import PodManual.Source
import PodManual.Survey
import PodManual.Text.Basic
import PodManual.Text.Blank
import PodManual.Text.Case
import PodManual.Text.CharacterName
import PodManual.Text.Digit
import PodManual.Text.Identifier
import PodManual.Text.NameTable
import PodManual.Text.Quoted
import PodManual.Text.Range
import PodManual.Text.Utf8
import PodManual.Text.Word
import PodManual.Traced
import PodManual.Proofs.Dependency.Termination
import PodManual.Proofs.Dependency.Worklist
import PodManual.Proofs.Dependency.Accounting
import PodManual.Proofs.Dependency.Closure
import PodManual.Proofs.Extract.Blocks
import PodManual.Proofs.Extract.Written
import PodManual.Proofs.Document.Coherence
import PodManual.Proofs.Document.Reference
import PodManual.Proofs.Page.Nesting
import PodManual.Proofs.Page.Tree
import PodManual.Proofs.Page.Outline
import PodManual.Proofs.Page.Token
import PodManual.Proofs.FileTree.Follow
import PodManual.Proofs.FileTree.Listing
import PodManual.Proofs.Text.Order
import PodManual.Proofs.Survey.Found
import PodManual.Proofs.Dependency.Origin
import PodManual.Proofs.Dependency.Containment
import PodManual.Proofs.Dependency.Refusal
import PodManual.Proofs.Console.Verbatim
import PodManual.Proofs.Program.Fatal
import PodManual.Proofs.Instruction.Line
import PodManual.Proofs.Dependency.Section
import PodManual.Proofs.Settings.Influence
import PodManual.Proofs.Program.Verbosity
import PodManual.Proofs.Json.Grammar
import PodManual.Proofs.Json.Reading
import PodManual.Proofs.Report.Spelling
import PodManual.Proofs.Program.Lossless
import PodManual.Proofs.Dependency.Redundant
import PodManual.Proofs.Page.Join
import PodManual.Proofs.Page.Visible
import PodManual.Proofs.Source.LineEnd
import PodManual.Proofs.Extract.Continued
import PodManual.Proofs.Page.Anchor
import PodManual.Proofs.Page.Recovered
import PodManual.Proofs.Registry.Serving
