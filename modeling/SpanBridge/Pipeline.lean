import SpanBridge.Failure

/-!
# From an OTLP text to a Zipkin text

`Pipeline.readSpans` reads the spans of an OTLP text, `Pipeline.convertSpans` converts them in turn,
and `Pipeline.convertText` does all of it for one known address and writes the result.
-/

set_option autoImplicit false
set_option relaxedAutoImplicit false

namespace SpanBridge.Pipeline

/-- Reads the spans of an OTLP text. -/
def readSpans (text : String) : Except Failure (List SpanRecord) := do
  let document ← (Json.read text).mapError Failure.json
  (Otlp.decode document).mapError Failure.otlp

/-- Converts spans in turn up to the first that fails. -/
def convertSpans {σ : Type} (source : AddressSource σ) (spans : List SpanRecord) (state : σ) :
    Conversion.Outcome σ (Except Failure (List ZipkinSpan)) :=
  Conversion.convertAll Failure.conversion source (spans.map Except.ok) state

/-- Writes spans as one array without superfluous blanks. -/
def render (memory : Zipkin.Memory) (indent : Option Int) (spans : List ZipkinSpan) :
    Except Failure String :=
  (Zipkin.renderCompact memory indent spans).mapError Failure.render

/-- Converts an OTLP text into a Zipkin text for a host with an address. -/
def convertText (memory : Zipkin.Memory) (text : String) (address : Option String)
    (indent : Option Int) : Except Failure String := do
  let spans ← readSpans text
  let converted ← (convertSpans (.constant address) spans ()).result
  render memory indent converted

end SpanBridge.Pipeline
