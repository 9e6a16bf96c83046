import SpanBridge.Conversion
import SpanBridge.Json.Reader
import SpanBridge.Otlp.Document
import SpanBridge.Trace.Readable

/-!
# Failures

Everything that can go wrong on the way from a text or a handed over span to a written Zipkin span,
by the stage in which it went wrong.
-/

set_option autoImplicit false
set_option relaxedAutoImplicit false

namespace SpanBridge

/-- A failure by its stage. -/
inductive Failure where
  | json (error : Json.ReadError)
  | otlp (error : Otlp.OtlpError)
  | record (error : RecordError)
  | readable (error : ReadableError)
  | conversion (error : ConversionError)
  | render (error : Zipkin.RenderError)
  deriving DecidableEq, Repr

def Json.ReadError.category : Json.ReadError → Category
  | .malformed _ => .malformed
  | .tooManyDigits _ => .invalid

namespace Failure

def message : Failure → String
  | .json error => error.message
  | .otlp error => error.message
  | .record error => error.message
  | .readable error => error.message
  | .conversion error => error.message
  | .render error => error.message

def category : Failure → Category
  | .json error => error.category
  | .otlp error => error.category
  | .record error => error.category
  | .readable error => error.category
  | .conversion error => error.category
  | .render error => error.category

end Failure
end SpanBridge
