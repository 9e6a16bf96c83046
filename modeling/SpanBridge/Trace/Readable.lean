import SpanBridge.Text.Quoted
import SpanBridge.Trace.Record

/-!
# Spans as a tracing kit hands them over

A `ReadableSpan` is a finished span in the form in which instrumentation keeps it: identifiers are
integers and much may be missing. What a span cannot do without is its identity
(`ReadableSpan.identity`); `ReadableSpan.toDraft` fills in everything else that is missing. A span
that has not ended takes no time, and an empty version or schema counts as none.
-/

set_option autoImplicit false
set_option relaxedAutoImplicit false

namespace SpanBridge

/-- A context of which nothing needs to be known. -/
structure ReadableContext where
  traceId : Option Int := none
  spanId : Option Int := none
  deriving DecidableEq, Repr

/-- A status of which nothing needs to be known. -/
structure ReadableStatus where
  code : Option StatusCode := none
  description : Option String := none
  deriving DecidableEq, Repr

/-- A scope of which nothing needs to be known. -/
structure ReadableScope where
  name : Option String := none
  version : Option String := none
  schemaUrl : Option String := none
  deriving DecidableEq, Repr

/-- A finished span in the form in which instrumentation keeps it. -/
structure ReadableSpan where
  name : String
  context : Option ReadableContext := none
  parentId : Option Int := none
  kind : Option SpanKind := none
  start : Option Int := none
  finish : Option Int := none
  attributes : Option Mapping := none
  events : List Event := []
  status : Option ReadableStatus := none
  scope : Option ReadableScope := none
  /-- The attributes of the resource, where there is a resource that has some. -/
  resource : Option Mapping := none
  droppedAttributes : Int := 0
  droppedEvents : Int := 0
  deriving DecidableEq

/-- The hexadecimal text of an integer, filled up with zeros after the sign to a width. -/
def paddedHex (width : Nat) (number : Int) : String :=
  let digits := Nat.toDigits 16 number.natAbs
  let sign := if number < 0 then ['-'] else []
  String.ofList (sign ++ List.replicate (width - sign.length - digits.length) '0' ++ digits)

def traceIdText (id : Int) : String := paddedHex 32 id

def spanIdText (id : Int) : String := paddedHex 16 id

/-- A status with what is missing filled in. -/
def ReadableStatus.toStatus (status : ReadableStatus) : Status where
  code := status.code.getD .unset
  description := .str (status.description.getD "")

/-- A scope with what is missing filled in. -/
def ReadableScope.toScope (scope : ReadableScope) : Scope where
  name := .str (scope.name.getD "")
  version := (scope.version.elim .null Value.str).orNull
  schemaUrl := (scope.schemaUrl.elim .null Value.str).orNull

/-- What identifies a span: its trace and its own identifier. -/
structure SpanIdentity where
  traceId : Int
  spanId : Int
  deriving DecidableEq, Repr

/-- Why a span has no record. -/
inductive ReadableError where
  | missingContext
  | missingIdentifier
  | record (error : RecordError)
  deriving DecidableEq, Repr

def ReadableError.message : ReadableError → String
  | .missingContext => "'NoneType' object has no attribute 'trace_id'"
  | .missingIdentifier => "unsupported format string passed to NoneType.__format__"
  | .record error => error.message

def ReadableError.category : ReadableError → Category
  | .missingContext => .missingOperation
  | .missingIdentifier => .wrongType
  | .record error => error.category

namespace ReadableSpan

/-- The identity of a span, which is known when the span has a context with both identifiers. -/
def identity (span : ReadableSpan) : Except ReadableError SpanIdentity :=
  match span.context with
  | none => .error .missingContext
  | some ⟨some traceId, some spanId⟩ => .ok ⟨traceId, spanId⟩
  | some _ => .error .missingIdentifier

def startTime (span : ReadableSpan) : Int := span.start.getD 0

def finishTime (span : ReadableSpan) : Int := span.finish.getD span.startTime

def presentAttributes (span : ReadableSpan) : Mapping := span.attributes.getD .empty

/-- A span of a known identity with what is missing filled in, and with totals that count what was
dropped. -/
def toDraft (span : ReadableSpan) (identity : SpanIdentity) : SpanDraft where
  traceId := traceIdText identity.traceId
  spanId := spanIdText identity.spanId
  parentId := span.parentId.map spanIdText
  name := .str span.name
  kind := span.kind
  start := span.startTime
  finish := span.finishTime
  attributes := span.presentAttributes
  totalAttributes := some (span.presentAttributes.size + span.droppedAttributes)
  events := span.events
  totalEvents := some (span.events.length + span.droppedEvents)
  status := (span.status.map ReadableStatus.toStatus).getD {}
  resource := span.resource.getD .empty
  scope := (span.scope.map ReadableScope.toScope).getD .empty

/-- The record of a span. -/
def toRecord (span : ReadableSpan) : Except ReadableError SpanRecord := do
  let identity ← span.identity
  (span.toDraft identity).check.mapError ReadableError.record

end ReadableSpan
end SpanBridge
