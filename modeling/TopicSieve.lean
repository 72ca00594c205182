import TopicSieve.Config.Basic
import TopicSieve.Config.Reader
import TopicSieve.Config.Writer
import TopicSieve.Console.Arguments
import TopicSieve.Console.Files
import TopicSieve.Console.Log
import TopicSieve.Console.Run
import TopicSieve.Console.Terminal
import TopicSieve.Consumer
import TopicSieve.Instant.Basic
import TopicSieve.Instant.Date
import TopicSieve.Instant.Printer
import TopicSieve.Instant.Reader
import TopicSieve.Json.Fault
import TopicSieve.Json.Number
import TopicSieve.Json.Printer
import TopicSieve.Json.Reader
import TopicSieve.Json.String
import TopicSieve.Json.Value
import TopicSieve.Main
import TopicSieve.Message.Basic
import TopicSieve.Message.Envelope
import TopicSieve.Message.Reader
import TopicSieve.Number.Binary64
import TopicSieve.Number.Power
import TopicSieve.Number.Shortest
import TopicSieve.Proofs.Config.Faults
import TopicSieve.Proofs.Config.Hidden
import TopicSieve.Proofs.Config.RoundTrip
import TopicSieve.Proofs.Config.Secrets
import TopicSieve.Proofs.Config.StartTime
import TopicSieve.Proofs.Console.CommandLine
import TopicSieve.Proofs.Console.Configuration
import TopicSieve.Proofs.Console.Counting
import TopicSieve.Proofs.Console.Options
import TopicSieve.Proofs.Console.Replacement
import TopicSieve.Proofs.Console.RoundTrip
import TopicSieve.Proofs.Console.Secrecy
import TopicSieve.Proofs.Instant.Calendar
import TopicSieve.Proofs.Instant.Strict
import TopicSieve.Proofs.Instant.Written
import TopicSieve.Proofs.Json.Anywhere
import TopicSieve.Proofs.Json.Composites
import TopicSieve.Proofs.Json.Printing
import TopicSieve.Proofs.Json.Reading
import TopicSieve.Proofs.Json.Rereading
import TopicSieve.Proofs.Json.Strings
import TopicSieve.Proofs.Json.Values
import TopicSieve.Proofs.Message.Envelopes
import TopicSieve.Proofs.Message.Fields
import TopicSieve.Proofs.Message.HeaderObjects
import TopicSieve.Proofs.Message.LineEnds
import TopicSieve.Proofs.Message.LineNumbers
import TopicSieve.Proofs.Message.Lines
import TopicSieve.Proofs.Message.Members
import TopicSieve.Proofs.Message.Payloads
import TopicSieve.Proofs.Message.PlainLines
import TopicSieve.Proofs.Message.RoundTrip
import TopicSieve.Proofs.Query.Accounting
import TopicSieve.Proofs.Query.Casing
import TopicSieve.Proofs.Query.Concatenation
import TopicSieve.Proofs.Query.Escape
import TopicSieve.Proofs.Query.Explanation
import TopicSieve.Proofs.Query.History
import TopicSieve.Proofs.Query.JsonForm
import TopicSieve.Proofs.Query.KeyEquality
import TopicSieve.Proofs.Query.Keys
import TopicSieve.Proofs.Query.LastWrite
import TopicSieve.Proofs.Query.Listing
import TopicSieve.Proofs.Query.Merging
import TopicSieve.Proofs.Query.Names
import TopicSieve.Proofs.Query.Occurrence
import TopicSieve.Proofs.Query.Override
import TopicSieve.Proofs.Query.Quotation
import TopicSieve.Proofs.Query.Reading
import TopicSieve.Proofs.Query.RoundTrip
import TopicSieve.Proofs.Query.Scanner
import TopicSieve.Proofs.Query.Spacing
import TopicSieve.Proofs.Query.Spelling
import TopicSieve.Proofs.Query.TermGrammar
import TopicSieve.Proofs.Query.Tiling
import TopicSieve.Proofs.Query.TokenForm
import TopicSieve.Proofs.Query.Written
import TopicSieve.Proofs.Scan.Composition
import TopicSieve.Proofs.Scan.Deletion
import TopicSieve.Proofs.Scan.Ending
import TopicSieve.Proofs.Scan.Record
import TopicSieve.Proofs.Scan.Tally
import TopicSieve.Proofs.Text.Classes
import TopicSieve.Proofs.Text.Cursors
import TopicSieve.Proofs.Text.Cutting
import TopicSieve.Proofs.Text.Digits
import TopicSieve.Proofs.Text.Folding
import TopicSieve.Proofs.Text.Slices
import TopicSieve.Proofs.Text.Utf8
import TopicSieve.Proofs.Toml.Documents
import TopicSieve.Proofs.Toml.Excerpts
import TopicSieve.Proofs.Toml.Strings
import TopicSieve.Query.Filter
import TopicSieve.Query.FilterMap
import TopicSieve.Query.Lexer
import TopicSieve.Query.Pattern
import TopicSieve.Query.Printer
import TopicSieve.Query.Term
import TopicSieve.Query.Token
import TopicSieve.Query.Warning
import TopicSieve.Scan
import TopicSieve.Table
import TopicSieve.Text.Basic
import TopicSieve.Text.Blank
import TopicSieve.Text.Case
import TopicSieve.Text.Cursor
import TopicSieve.Text.Letter
import TopicSieve.Text.Quoted
import TopicSieve.Text.Ranges
import TopicSieve.Text.Sorted
import TopicSieve.Text.Utf8
import TopicSieve.Text.Width
import TopicSieve.Text.WidthTable
import TopicSieve.Toml.Document
import TopicSieve.Toml.Excerpt
import TopicSieve.Toml.Reader
import TopicSieve.Toml.Scalar
import TopicSieve.Toml.String
import TopicSieve.Toml.Value
import TopicSieve.Toml.Writer
