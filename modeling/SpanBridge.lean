import SpanBridge.Text.Blank
import SpanBridge.Text.DecimalDigit
import SpanBridge.Text.LetterCase
import SpanBridge.Text.LineBreak
import SpanBridge.Text.Utf8
import SpanBridge.Number.Reading
import SpanBridge.Number.Shortest
import SpanBridge.Value.Display
import SpanBridge.Value.Order
import SpanBridge.Value.Mapping
import SpanBridge.Json.Encode
import SpanBridge.Json.Printer
import SpanBridge.Json.Reader
import SpanBridge.Address
import SpanBridge.Zipkin.Span
import SpanBridge.Zipkin.Tags
import SpanBridge.Zipkin.Timing
import SpanBridge.Otlp.Document
import SpanBridge.Conversion
import SpanBridge.LocalAddress
import SpanBridge.Trace.Readable
import SpanBridge.Exporter
import SpanBridge.Pipeline
import SpanBridge.Cli.Command
import SpanBridge.Main
import SpanBridge.Proofs.Number.DigitLimit
import SpanBridge.Proofs.Entries
import SpanBridge.Proofs.Mapping
import SpanBridge.Proofs.Outcome
import SpanBridge.Proofs.Attribute
import SpanBridge.Proofs.Conversion
import SpanBridge.Proofs.ServiceName
import SpanBridge.Proofs.Tags
import SpanBridge.Proofs.Address.Canonical
import SpanBridge.Proofs.Pipeline
import SpanBridge.Proofs.Otlp.Readable
import SpanBridge.Proofs.Exporter.Batch
import SpanBridge.Proofs.Exporter.Run
import SpanBridge.Proofs.Exporter.Escape
import SpanBridge.Proofs.Json.Grammar
import SpanBridge.Proofs.Json.Numeral
import SpanBridge.Proofs.Json.Complete
import SpanBridge.Proofs.Json.Sound
import SpanBridge.Proofs.Json.Printed
import SpanBridge.Proofs.RenderedText
import SpanBridge.Proofs.Sorting
import SpanBridge.Proofs.Otlp.Shaped
import SpanBridge.Proofs.Otlp.Refusal
import SpanBridge.Proofs.ReadFailure
import SpanBridge.Proofs.Text.Utf8
import SpanBridge.Proofs.Json.LineBreak
import SpanBridge.Proofs.Files.FileTree
import SpanBridge.Proofs.Cli.Options
import SpanBridge.Proofs.Cli.Command
import SpanBridge.Proofs.Otlp.Layout
import SpanBridge.Proofs.Objects
import SpanBridge.Proofs.Otlp.Composition
import SpanBridge.Proofs.Number.ExactValue
import SpanBridge.Proofs.Otlp.Payload
import SpanBridge.Proofs.Otlp.Accepted
import SpanBridge.Proofs.Outline
import SpanBridge.Proofs.Otlp.Extension
import SpanBridge.Proofs.Otlp.Extended
import SpanBridge.Proofs.Extension
import SpanBridge.Proofs.Exporter.Console
import SpanBridge.Proofs.Composition
import SpanBridge.Proofs.Json.Strict
import SpanBridge.Proofs.KeyName
import SpanBridge.Proofs.SpanShape
import SpanBridge.Proofs.LocalAddress
import SpanBridge.Proofs.LookupOrder
import SpanBridge.Proofs.Endpoint
import SpanBridge.Proofs.Questions
import SpanBridge.Proofs.Cli.Effects
import SpanBridge.Proofs.TagPass
import SpanBridge.Proofs.TagOrder
import SpanBridge.Proofs.ReadableRecord
import SpanBridge.Proofs.Timing
import SpanBridge.Proofs.Number.Rounding
import SpanBridge.Proofs.ValueText
import SpanBridge.Proofs.SequenceText
import SpanBridge.Proofs.Text.LetterCase
import SpanBridge.Proofs.Otlp.LetterCase
import SpanBridge.Proofs.ParentLink
import SpanBridge.Proofs.KeyForm
import SpanBridge.Proofs.AttributeList
import SpanBridge.Proofs.Json.Nesting
