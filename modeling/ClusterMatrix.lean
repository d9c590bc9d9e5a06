import ClusterMatrix.AllowList
import ClusterMatrix.Catalog.Basic
import ClusterMatrix.Catalog.Latest
import ClusterMatrix.Catalog.Selection
import ClusterMatrix.Charset.Basic
import ClusterMatrix.Charset.Chinese
import ClusterMatrix.Charset.Escaped
import ClusterMatrix.Charset.Guess
import ClusterMatrix.Charset.Iso2022
import ClusterMatrix.Charset.Japanese
import ClusterMatrix.Charset.Korean
import ClusterMatrix.Charset.Label
import ClusterMatrix.Charset.SingleByte
import ClusterMatrix.Charset.Strips
import ClusterMatrix.Charset.Tables.Big5
import ClusterMatrix.Charset.Tables.Big5Added
import ClusterMatrix.Charset.Tables.Gb18030
import ClusterMatrix.Charset.Tables.Gb2312
import ClusterMatrix.Charset.Tables.Jisx0208
import ClusterMatrix.Charset.Tables.Jisx0212
import ClusterMatrix.Charset.Tables.Jisx0213
import ClusterMatrix.Charset.Tables.Ksx1001
import ClusterMatrix.Charset.Tables.SingleByte
import ClusterMatrix.Charset.Tables.Windows932
import ClusterMatrix.Charset.Unicode
import ClusterMatrix.Charset.Utf7
import ClusterMatrix.Compress.Bits
import ClusterMatrix.Compress.Checksum
import ClusterMatrix.Compress.Container
import ClusterMatrix.Compress.Huffman
import ClusterMatrix.Compress.Inflate
import ClusterMatrix.Decimal.Layout
import ClusterMatrix.Decimal.Shortest
import ClusterMatrix.Environment
import ClusterMatrix.Event
import ClusterMatrix.Fetch
import ClusterMatrix.Http.Client
import ClusterMatrix.Http.Endpoint
import ClusterMatrix.Http.Host
import ClusterMatrix.Http.Label
import ClusterMatrix.Http.LabelContext
import ClusterMatrix.Http.LabelRanges
import ClusterMatrix.Http.Message
import ClusterMatrix.Http.Percent
import ClusterMatrix.Http.Reference
import ClusterMatrix.Http.Transfer
import ClusterMatrix.Json.Basic
import ClusterMatrix.Json.Compact
import ClusterMatrix.Json.Display
import ClusterMatrix.Json.Fault
import ClusterMatrix.Json.Indented
import ClusterMatrix.Json.Reader
import ClusterMatrix.Main
import ClusterMatrix.Markup.Color
import ClusterMatrix.Markup.Emoji
import ClusterMatrix.Markup.EmojiNames
import ClusterMatrix.Markup.Handler
import ClusterMatrix.Markup.Literal
import ClusterMatrix.Markup.Literal.Number
import ClusterMatrix.Markup.Literal.Quoted
import ClusterMatrix.Markup.Shown
import ClusterMatrix.Markup.Style
import ClusterMatrix.Markup.Tag
import ClusterMatrix.Options
import ClusterMatrix.Proofs.Catalog.Latest
import ClusterMatrix.Proofs.Catalog.Selection
import ClusterMatrix.Proofs.Json.Compact
import ClusterMatrix.Proofs.Workflow.Escape
import ClusterMatrix.Proofs.Workflow.Lines
import ClusterMatrix.Run.Catalog
import ClusterMatrix.Run.Job
import ClusterMatrix.Run.Matrix
import ClusterMatrix.Run.Outcome
import ClusterMatrix.Run.Stage
import ClusterMatrix.Run.Tables
import ClusterMatrix.Run.Versions
import ClusterMatrix.Settings
import ClusterMatrix.Table.Basic
import ClusterMatrix.Table.Cell
import ClusterMatrix.Table.Line
import ClusterMatrix.Text.Alphanumeric
import ClusterMatrix.Text.Blank
import ClusterMatrix.Text.CaseRanges
import ClusterMatrix.Text.Composition
import ClusterMatrix.Text.Digit
import ClusterMatrix.Text.Grapheme
import ClusterMatrix.Text.Hex
import ClusterMatrix.Text.Lower
import ClusterMatrix.Text.Names
import ClusterMatrix.Text.Names.Ancient
import ClusterMatrix.Text.Names.Eastern
import ClusterMatrix.Text.Names.Hieroglyphs
import ClusterMatrix.Text.Names.Other
import ClusterMatrix.Text.Names.Pictographs
import ClusterMatrix.Text.Names.Southern
import ClusterMatrix.Text.Names.Symbols
import ClusterMatrix.Text.Names.Western
import ClusterMatrix.Text.Numeral
import ClusterMatrix.Text.Printable
import ClusterMatrix.Text.Punycode
import ClusterMatrix.Text.Quoted
import ClusterMatrix.Text.Ragged
import ClusterMatrix.Text.Ranges
import ClusterMatrix.Text.Spanned
import ClusterMatrix.Text.Split
import ClusterMatrix.Text.Upper
import ClusterMatrix.Text.Width
import ClusterMatrix.Text.WidthRanges
import ClusterMatrix.Text.Words
import ClusterMatrix.Version.Basic
import ClusterMatrix.Version.Coerce
import ClusterMatrix.Version.Runs
import ClusterMatrix.Workflow.Command
import ClusterMatrix.Workflow.Escape
import ClusterMatrix.Workflow.Input
import ClusterMatrix.Workflow.Output
import ClusterMatrix.Workflow.Record
import ClusterMatrix.Workflow.Session
import ClusterMatrix.Proofs.Table.Lines
import ClusterMatrix.Proofs.Run.Output
import ClusterMatrix.Proofs.Run.Failure
import ClusterMatrix.Proofs.Catalog.Fate
import ClusterMatrix.Proofs.Workflow.Decode
import ClusterMatrix.Proofs.Workflow.Commands
import ClusterMatrix.Proofs.Json.Part
import ClusterMatrix.Proofs.Json.Spelling
import ClusterMatrix.Proofs.Json.Reading
import ClusterMatrix.Proofs.Json.Readable
import ClusterMatrix.Proofs.Catalog.Provenance
import ClusterMatrix.Proofs.Catalog.Restrict
import ClusterMatrix.Proofs.Run.Agreement
import ClusterMatrix.Proofs.Run.Selections
import ClusterMatrix.Proofs.Catalog.Maximum
import ClusterMatrix.Proofs.Http.Requests
import ClusterMatrix.Proofs.Json.Unambiguous
import ClusterMatrix.Proofs.Run.Inputs
import ClusterMatrix.Proofs.Run.Listing
import ClusterMatrix.Proofs.Text.Digits
import ClusterMatrix.Proofs.Version.Runs
import ClusterMatrix.Proofs.Version.Search
import ClusterMatrix.Proofs.Catalog.FirstFault
import ClusterMatrix.Proofs.Catalog.Malformed
import ClusterMatrix.Proofs.Catalog.Offence
import ClusterMatrix.Proofs.Json.Grammar
import ClusterMatrix.Proofs.Json.Strings
import ClusterMatrix.Proofs.Json.Numbers
import ClusterMatrix.Proofs.Json.Derivation
import ClusterMatrix.Proofs.Json.Documents
import ClusterMatrix.Proofs.Json.Printed
import ClusterMatrix.Proofs.Settings.Distributions
import ClusterMatrix.Proofs.Catalog.Unseen
import ClusterMatrix.Proofs.Catalog.Narrowing
import ClusterMatrix.Proofs.Catalog.Shapes
import ClusterMatrix.Proofs.Json.Members
import ClusterMatrix.Proofs.Http.Bodies
import ClusterMatrix.Proofs.Http.Answers
import ClusterMatrix.Proofs.Version.Decimal
import ClusterMatrix.Proofs.Catalog.Absent
import ClusterMatrix.Proofs.Options.Distributions
import ClusterMatrix.Proofs.Run.Spellings
import ClusterMatrix.Proofs.Table.Page
import ClusterMatrix.Proofs.Markup.Unmarked
import ClusterMatrix.Proofs.Run.Tables
import ClusterMatrix.Proofs.Workflow.Codes
import ClusterMatrix.Proofs.Text.Blank
import ClusterMatrix.Proofs.Workflow.Input
