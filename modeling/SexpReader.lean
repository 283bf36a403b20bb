import SexpReader.CharClass
import SexpReader.Token
import SexpReader.Diagnostic
import SexpReader.Lexeme.Layout
import SexpReader.Lexeme.Scanner
import SexpReader.Node
import SexpReader.Node.Builder
import SexpReader.Node.Canonical
import SexpReader.Node.Depth
import SexpReader.Node.Flatten
import SexpReader.Node.Lookahead
import SexpReader.Node.Printer
import SexpReader.Text.Hex
import SexpReader.Text.Printable
import SexpReader.Text.Literal
import SexpReader.Text.JsonString
import SexpReader.Text.Newline
import SexpReader.Text.Quoted
import SexpReader.Text.Utf8
import SexpReader.Data
import SexpReader.Read
import SexpReader.Value
import SexpReader.Value.Display
import SexpReader.Value.Equality
import SexpReader.Value.Fault
import SexpReader.Value.Report
import SexpReader.Value.Construct
import SexpReader.Value.Field
import SexpReader.Value.Sequence
import SexpReader.Value.SequenceScanner
import SexpReader.Value.Composition
import SexpReader.Value.Characters
import SexpReader.Value.Reading
import SexpReader.ErrorKind
import SexpReader.Command.Level
import SexpReader.Command.PathName
import SexpReader.Command.Files
import SexpReader.Command.Request
import SexpReader.Command.Response
import SexpReader.Command.Listing
import SexpReader.Command.Run
import SexpReader.Main
import SexpReader.Proofs.Lexeme.Feeding
import SexpReader.Proofs.Lexeme.Tokenizing
import SexpReader.Proofs.Lexeme.Unfinished
import SexpReader.Proofs.Lexeme.Relocation
import SexpReader.Proofs.Lexeme.Extension
import SexpReader.Proofs.Lexeme.Quotation
import SexpReader.Proofs.Lexeme.Placement
import SexpReader.Proofs.Lexeme.Registers
import SexpReader.Proofs.Lexeme.Rounds
import SexpReader.Proofs.Node.Building
import SexpReader.Proofs.Node.Frames
import SexpReader.Proofs.Node.Verdict
import SexpReader.Proofs.Node.Printing
import SexpReader.Proofs.Node.RoundTrip
import SexpReader.Proofs.Node.Canonical
import SexpReader.Proofs.Node.Concatenation
import SexpReader.Proofs.Node.Extension
import SexpReader.Proofs.Node.Depth
import SexpReader.Proofs.Text.Utf8
import SexpReader.Proofs.Data
import SexpReader.Command.Process
import SexpReader.Proofs.Node.Alphabet
import SexpReader.Proofs.Text.Newline
import SexpReader.Proofs.Command.Process
import SexpReader.Proofs.Command.Listing
import SexpReader.Proofs.Command.AllOrNothing
import SexpReader.Proofs.Command.Stability
import SexpReader.Proofs.Text.Decoding
import SexpReader.Proofs.Command.Decoding
import SexpReader.Proofs.Value.Parsing
import SexpReader.Proofs.Value.Nodes
import SexpReader.Proofs.Value.Construction
import SexpReader.Proofs.Value.Composition
import SexpReader.Proofs.Value.Printing
