import SpanBridge.AddressSource
import SpanBridge.Notice
import SpanBridge.Value.Display
import SpanBridge.Zipkin.Span
import SpanBridge.Zipkin.Tags
import SpanBridge.Zipkin.Timing

/-!
# Conversion of a span

`Conversion.withoutAddress` turns a span record into a Zipkin span that lacks only the address of
its host; all that can be wrong with the record shows here. `Conversion.locate` then puts an address
in, unless the text is none. `Conversion.convert` does both and asks the source in between, so that
the source is asked exactly for the records that are in order.
-/

set_option autoImplicit false
set_option relaxedAutoImplicit false

namespace SpanBridge

/-- Why a span cannot be converted. -/
inductive ConversionError where
  | attribute (error : AttributeError)
  | missingKind
  | source (error : SourceError)
  deriving DecidableEq, Repr

def ConversionError.message : ConversionError → String
  | .attribute error => error.message
  | .missingKind => Value.null.shown
  | .source error => error.message

def ConversionError.category : ConversionError → Category
  | .attribute error => error.category
  | .missingKind => .unknownKey
  | .source error => error.category

namespace Conversion

/-- The Zipkin role of a kind. An internal span has none. -/
def roleOf : SpanKind → Option ZipkinKind
  | .internal => none
  | .server => some .server
  | .client => some .client
  | .producer => some .producer
  | .consumer => some .consumer

/-- The name of a service that its resource does not name. -/
def unknownService : String := "unknown_service"

/-- The name of the service that a resource belongs to. -/
def serviceName (resource : Mapping) : Except AttributeError String :=
  match resource.find? (.str "service.name") with
  | some name => if name.isTruthy then name.attributeText else .ok unknownService
  | none => .ok unknownService

/-- A span with all but the address of its host. -/
def withoutAddress (span : SpanRecord) : Except ConversionError ZipkinSpan := do
  let timing := Zipkin.Timing.between span.start span.finish
  let tags ← (Zipkin.tagsOf span).mapError ConversionError.attribute
  let kind ← span.kind.elim (throw .missingKind) pure
  let serviceName ← (serviceName span.resource).mapError ConversionError.attribute
  return {
    traceId := span.traceId
    id := span.spanId
    parentId := span.parentId
    name := span.name
    kind := roleOf kind
    timestamp := timing.timestamp
    duration := timing.duration
    localEndpoint := { serviceName }
    tags }

/-- A span of the host whose address a source gave, in canonical form. A text that is no address is
ignored with a notice. -/
def locate (answer : Option String) (span : ZipkinSpan) : ZipkinSpan × List Notice :=
  match answer with
  | none => (span, [])
  | some text =>
    match Address.parse? text with
    | some address =>
      ({ span with localEndpoint := { span.localEndpoint with ip := some address.text } }, [])
    | none => (span, [.ignoredAddress (Text.quoted text)])

/-- What a conversion yields: the result, the notices, and the state of the source after it. -/
structure Outcome (σ α : Type) where
  result : α
  notices : List Notice
  state : σ

variable {σ ε : Type}

/-- Converts a span. The source is asked when nothing is wrong with the span itself. -/
def convert (source : AddressSource σ) (span : SpanRecord) (state : σ) :
    Outcome σ (Except ConversionError ZipkinSpan) :=
  match withoutAddress span with
  | .error error => ⟨.error error, [], state⟩
  | .ok converted =>
    match source.ask state with
    | (.error error, next) => ⟨.error (.source error), [], next⟩
    | (.ok answer, next) =>
      let (located, notices) := locate answer converted
      ⟨.ok located, notices, next⟩

/-- Converts a span that may have failed to come about. -/
def convertAttempt (lift : ConversionError → ε) (source : AddressSource σ)
    (attempt : Except ε SpanRecord) (state : σ) : Outcome σ (Except ε ZipkinSpan) :=
  match attempt with
  | .error error => ⟨.error error, [], state⟩
  | .ok span =>
    let outcome := convert source span state
    ⟨outcome.result.mapError lift, outcome.notices, outcome.state⟩

/-- Converts spans in turn, whichever of them fail. -/
def convertEach (lift : ConversionError → ε) (source : AddressSource σ) :
    List (Except ε SpanRecord) → σ → Outcome σ (List (Except ε ZipkinSpan))
  | [], state => ⟨[], [], state⟩
  | attempt :: attempts, state =>
    let first := convertAttempt lift source attempt state
    let others := convertEach lift source attempts first.state
    ⟨first.result :: others.result, first.notices ++ others.notices, others.state⟩

/-- Converts spans in turn up to the first that fails. -/
def convertAll (lift : ConversionError → ε) (source : AddressSource σ) :
    List (Except ε SpanRecord) → σ → Outcome σ (Except ε (List ZipkinSpan))
  | [], state => ⟨.ok [], [], state⟩
  | attempt :: attempts, state =>
    let first := convertAttempt lift source attempt state
    match first.result with
    | .error error => ⟨.error error, first.notices, first.state⟩
    | .ok span =>
      let others := convertAll lift source attempts first.state
      ⟨(span :: ·) <$> others.result, first.notices ++ others.notices, others.state⟩

end Conversion
end SpanBridge
