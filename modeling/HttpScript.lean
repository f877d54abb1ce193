import HttpScript.Capture
import HttpScript.CommandLine.Arguments
import HttpScript.CommandLine.Program
import HttpScript.CommandLine.Replay
import HttpScript.Console
import HttpScript.Decimal.Binary
import HttpScript.Decimal.Layout
import HttpScript.Decimal.Reading
import HttpScript.Decimal.Shortest
import HttpScript.Entries
import HttpScript.Environment
import HttpScript.Files
import HttpScript.Http.DirectSession
import HttpScript.Http.HeaderLines
import HttpScript.Http.Message
import HttpScript.Http.Proxy
import HttpScript.Http.Session
import HttpScript.Http.Url
import HttpScript.Http.Wire
import HttpScript.Json.Printer
import HttpScript.Json.Reader
import HttpScript.Json.Value
import HttpScript.Log
import HttpScript.Login
import HttpScript.Main
import HttpScript.Proofs.Capture
import HttpScript.Proofs.Capture.Reports
import HttpScript.Proofs.Capture.Variables
import HttpScript.Proofs.CommandLine.Gates
import HttpScript.Proofs.Console
import HttpScript.Proofs.Decimal
import HttpScript.Proofs.Decimal.Exact
import HttpScript.Proofs.Decimal.Nearest
import HttpScript.Proofs.Decimal.Overflow
import HttpScript.Proofs.Decimal.Rounding
import HttpScript.Proofs.Entries
import HttpScript.Proofs.Except
import HttpScript.Proofs.Http.HeaderLines
import HttpScript.Proofs.Json.Characters
import HttpScript.Proofs.Json.Faults
import HttpScript.Proofs.Json.Grammar
import HttpScript.Proofs.Json.LineStarts
import HttpScript.Proofs.Json.NonFinite
import HttpScript.Proofs.Json.NumberLiterals
import HttpScript.Proofs.Json.Numbers
import HttpScript.Proofs.Json.Refusals
import HttpScript.Proofs.Json.Rereading
import HttpScript.Proofs.Json.Returns
import HttpScript.Proofs.Json.Strings
import HttpScript.Proofs.Json.Writing
import HttpScript.Proofs.Login
import HttpScript.Proofs.Run.Body
import HttpScript.Proofs.Run.Composition
import HttpScript.Proofs.Run.Crash
import HttpScript.Proofs.Run.Delivery
import HttpScript.Proofs.Run.Exits
import HttpScript.Proofs.Run.Flow
import HttpScript.Proofs.Run.Message
import HttpScript.Proofs.Run.Order
import HttpScript.Proofs.Run.Prepare
import HttpScript.Proofs.Run.Progress
import HttpScript.Proofs.Run.Records
import HttpScript.Proofs.Run.Redaction
import HttpScript.Proofs.Run.Scenario
import HttpScript.Proofs.Run.Secrecy
import HttpScript.Proofs.Run.Steps
import HttpScript.Proofs.Script.ArgumentErrors
import HttpScript.Proofs.Script.Arguments
import HttpScript.Proofs.Script.BodyCheck
import HttpScript.Proofs.Script.BodyEnd
import HttpScript.Proofs.Script.BodyErrors
import HttpScript.Proofs.Script.BodyNumbers
import HttpScript.Proofs.Script.Braces
import HttpScript.Proofs.Script.CaptureNames
import HttpScript.Proofs.Script.Columns
import HttpScript.Proofs.Script.Completeness
import HttpScript.Proofs.Script.Composition
import HttpScript.Proofs.Script.Faults
import HttpScript.Proofs.Script.JoinedTokens
import HttpScript.Proofs.Script.Keywords
import HttpScript.Proofs.Script.LetterCase
import HttpScript.Proofs.Script.LiteralErrors
import HttpScript.Proofs.Script.Loading
import HttpScript.Proofs.Script.Outcome
import HttpScript.Proofs.Script.Places
import HttpScript.Proofs.Script.Problems
import HttpScript.Proofs.Script.Provenance
import HttpScript.Proofs.Script.Renumbering
import HttpScript.Proofs.Script.Source
import HttpScript.Proofs.Script.Tokens
import HttpScript.Proofs.Script.Words
import HttpScript.Proofs.Settings
import HttpScript.Proofs.Settings.Timeout
import HttpScript.Proofs.Template.Grammar
import HttpScript.Proofs.Template.Json
import HttpScript.Proofs.Text.Case
import HttpScript.Proofs.Text.LineEnds
import HttpScript.Proofs.Text.Lines
import HttpScript.Proofs.Text.Search
import HttpScript.Proofs.Text.Utf8
import HttpScript.Query.Builtin
import HttpScript.Query.Document
import HttpScript.Query.Evaluate
import HttpScript.Query.Filter
import HttpScript.Query.Lexeme
import HttpScript.Query.Number
import HttpScript.Query.Operation
import HttpScript.Query.Results
import HttpScript.Query.Stream
import HttpScript.Query.Syntax
import HttpScript.Query.Value
import HttpScript.Run.Execute
import HttpScript.Run.Prepare
import HttpScript.Run.Step
import HttpScript.Script.Keyword
import HttpScript.Script.Line
import HttpScript.Script.Load
import HttpScript.Script.Problem
import HttpScript.Script.Reader
import HttpScript.Script.Request
import HttpScript.Script.SyntaxError
import HttpScript.Script.Token
import HttpScript.Settings
import HttpScript.Surroundings
import HttpScript.Template.Basic
import HttpScript.Template.Json
import HttpScript.Text.Base64
import HttpScript.Text.Blank
import HttpScript.Text.Case
import HttpScript.Text.DecimalDigit
import HttpScript.Text.Encoding
import HttpScript.Text.Literal
import HttpScript.Text.Percent
import HttpScript.Text.Printable
import HttpScript.Text.Punycode
import HttpScript.Text.Ranges
import HttpScript.Text.Utf8
import HttpScript.Yaml.Cursor
import HttpScript.Yaml.Document
import HttpScript.Yaml.Implicit
import HttpScript.Yaml.Node
import HttpScript.Yaml.Reader
import HttpScript.Yaml.ScalarText
import HttpScript.Yaml.Timestamp
import HttpScript.Yaml.Token
import HttpScript.Yaml.TokenStream
import HttpScript.Yaml.Value
