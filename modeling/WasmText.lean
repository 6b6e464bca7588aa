import WasmText.CharCursor
import WasmText.Diagnostic.Rendered
import WasmText.Parse.Session
import WasmText.Source
import WasmText.Proofs.Grammar
import WasmText.Proofs.Reading
import WasmText.Proofs.Reading.Clauses
import WasmText.Proofs.Reading.Signature
import WasmText.Proofs.Reading.Module
import WasmText.Proofs.Lexeme.Longest
import WasmText.Proofs.Lexeme.Number
import WasmText.Proofs.Lexeme.Item
import WasmText.Proofs.Lexeme.Stands
import WasmText.Proofs.Cutting
import WasmText.Proofs.Printable
import WasmText.Proofs.Printing
import WasmText.Proofs.RoundTrip
import WasmText.Proofs.Lexeme.Fault
import WasmText.Proofs.Failing
import WasmText.Proofs.FirstWrong
import WasmText.Proofs.Lossless
import WasmText.Proofs.Lexeme.Line
import WasmText.Proofs.Lines
import WasmText.Proofs.Layout
import WasmText.Proofs.Openings
import WasmText.Proofs.Phases
import WasmText.Proofs.StringTokens
import WasmText.Proofs.Noninterference
import WasmText.Proofs.PrefixFree
import WasmText.Proofs.Expected
import WasmText.Proofs.Registration
import WasmText.Proofs.Unquoting
import WasmText.Proofs.Excerpt
import WasmText.Proofs.Caret
import WasmText.Proofs.LineOfByte
import WasmText.Proofs.References
import WasmText.Proofs.ReportLayout
import WasmText.Proofs.ClauseLists
import WasmText.Proofs.Lexeme.Patterns
import WasmText.Proofs.ByteCursor
import WasmText.Proofs.Sessions
import WasmText.Scanner
import WasmText.Proofs.Scanning
