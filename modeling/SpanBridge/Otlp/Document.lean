import SpanBridge.Otlp.AnyValue
import SpanBridge.Trace.Record

/-!
# OTLP documents

An OTLP document lists the spans of resources, in blocks by the scope that produced them. Blocks are
found in the current layout and in the former one, where scopes are called instrumentation
libraries. `Otlp.decode` reads the spans in the order of the document: within a resource the blocks
of the current layout come first.
-/

set_option autoImplicit false
set_option relaxedAutoImplicit false

namespace SpanBridge.Otlp

/-- Why a document yields no records. -/
inductive OtlpError where
  | document (error : DocumentError)
  | record (error : RecordError)
  deriving DecidableEq, Repr

def OtlpError.message : OtlpError → String
  | .document error => error.message
  | .record error => error.message

def OtlpError.category : OtlpError → Category
  | .document error => error.category
  | .record error => error.category

/-! ### Kinds and statuses -/

/-- The kind with a number. The number zero, which leaves the kind open, means an internal span. -/
def kindOfNumber? (number : Int) : Option SpanKind :=
  if number = 0 then some .internal
  else if number < 0 then none
  else SpanKind.all[(number - 1).toNat]?

def statusOfNumber? (number : Int) : Option StatusCode :=
  if number < 0 then none else StatusCode.all[number.toNat]?

/-- What follows a word at the start of a text, or all of the text. -/
def withoutStart (start text : String) : String :=
  ((start.toList.isPrefixOf? text.toList).map String.ofList).getD text

/-- The kind with a name in letters of any case, in short or with `SPAN_KIND_` before it. -/
def kindOfName? (name : String) : Option SpanKind :=
  let short := withoutStart "SPAN_KIND_" (Text.LetterCase.toCapital name)
  if short = "UNSPECIFIED" then some .internal else SpanKind.ofName? short

/-- The outcome with a name in letters of any case, in short or with `STATUS_CODE_` before it. -/
def statusOfName? (name : String) : Option StatusCode :=
  StatusCode.ofName? (withoutStart "STATUS_CODE_" (Text.LetterCase.toCapital name))

/-- A number that stands for itself, or a truth value that stands for zero or one. -/
def enumeration? : Json → Option Int
  | .int number => some number
  | .bool truth => some (if truth then 1 else 0)
  | _ => none

/-- Reads a kind given by number or name. Without one a span is internal. -/
def decodeKind (kind : Json) : Except DocumentError SpanKind :=
  let found : Option SpanKind := match kind with
    | .null => some .internal
    | .str name => kindOfName? name
    | _ => (enumeration? kind).bind kindOfNumber?
  found.elim (.error (.unknownKind kind.toValue.plain)) .ok

/-- Reads an outcome given by number or name. -/
def decodeStatusCode (code : Json) : Except DocumentError StatusCode :=
  let found : Option StatusCode := match code with
    | .str name => statusOfName? name
    | _ => (enumeration? code).bind statusOfNumber?
  found.elim (.error (.unknownStatus code.toValue.plain)) .ok

/-- Something present, or an empty object in place of something absent. -/
def orEmptyObject (document : Json) : Json := if document.isTruthy then document else .obj []

def decodeStatus (status : Json) : Except DocumentError Status := do
  let code ← decodeStatusCode (← ask (status.memberOr "code" (.int 0)))
  let message ← ask (status.memberOr "message" .null)
  return { code, description := if message.isTruthy then message.toValue else .str "" }

/-! ### Spans -/

def decodeEvent (event : Json) : Except DocumentError Event := do
  let name ← ask (event.memberOr "name" (.str ""))
  let timestamp ← ask (← ask (event.memberOr "timeUnixNano" (.int 0))).toInteger
  let attributes ← decodeAttributes (← ask (event.memberOr "attributes" (.arr [])))
  return { name := name.toValue, timestamp, attributes }

/-- Reads the member of a span that holds an integer, zero when it is not there. -/
def integerMember (name : String) (span : Json) : Except DocumentError Int := do
  ask (← ask (span.memberOr name (.int 0))).toInteger

/-- Reads a span of a resource and a scope as a draft. -/
def decodeDraft (resource : Mapping) (scope : Scope) (span : Json) :
    Except DocumentError SpanDraft := do
  let traceId ← ask (span.memberOr "traceId" .null)
  let spanId ← ask (span.memberOr "spanId" .null)
  if !traceId.isTruthy || !spanId.isTruthy then throw .missingSpanId
  let parentId ← ask (span.memberOr "parentSpanId" .null)
  let attributes ← decodeAttributes (← ask (span.memberOr "attributes" (.arr [])))
  let events ← (← ask (← ask (span.memberOr "events" (.arr []))).elements).mapM decodeEvent
  let traceId ← ask traceId.small
  let spanId ← ask spanId.small
  let parentId ← if parentId.isTruthy then some <$> ask parentId.small else pure none
  let name ← ask (span.memberOr "name" (.str ""))
  let kind ← decodeKind (← ask (span.memberOr "kind" .null))
  let start ← integerMember "startTimeUnixNano" span
  let finish ← integerMember "endTimeUnixNano" span
  let droppedAttributes ← integerMember "droppedAttributesCount" span
  let droppedEvents ← integerMember "droppedEventsCount" span
  let status ← decodeStatus (orEmptyObject (← ask (span.memberOr "status" .null)))
  return {
    traceId, spanId, parentId, start, finish, attributes, events, status, resource, scope
    name := name.toValue
    kind := some kind
    totalAttributes := some (attributes.size + droppedAttributes)
    totalEvents := some (events.length + droppedEvents) }

/-- Reads a span of a resource and a scope. -/
def decodeSpan (resource : Mapping) (scope : Scope) (span : Json) :
    Except OtlpError SpanRecord := do
  let draft ← (decodeDraft resource scope span).mapError OtlpError.document
  draft.check.mapError OtlpError.record

/-! ### Blocks and resources -/

/-- Spans by the scope that produced them. The spans are not looked at yet. -/
structure Block where
  scope : Scope
  spans : Json

/-- The name, version and schema of a library in a block, as a scope. -/
def decodeScope (library block : Json) : Except DocumentError Scope := do
  let name ← ask (library.memberOr "name" (.str ""))
  let version ← ask (library.memberOr "version" .null)
  let schemaUrl ← ask (block.memberOr "schemaUrl" .null)
  return ⟨name.toValue, version.toValue.orNull, schemaUrl.toValue.orNull⟩

/-- A block of the current layout. Without a scope its schema does not count either. -/
def decodeScopeBlock (block : Json) : Except DocumentError Block := do
  let library ← ask (block.memberOr "scope" .null)
  let scope ← if library.isTruthy then decodeScope library block else pure .empty
  return ⟨scope, ← ask (block.memberOr "spans" (.arr []))⟩

def decodeLibraryBlock (block : Json) : Except DocumentError Block := do
  let library ← ask (block.memberOr "instrumentationLibrary" .null)
  let scope ← decodeScope (orEmptyObject library) block
  return ⟨scope.toLegacy.toCurrent, ← ask (block.memberOr "spans" (.arr []))⟩

/-- The blocks of a resource, those of the current layout first. -/
def decodeBlocks (entry : Json) : Except DocumentError (List Block) := do
  let current ← ask (← ask (entry.memberOr "scopeSpans" (.arr []))).elements
  let current ← current.mapM decodeScopeBlock
  let former ← ask (← ask (entry.memberOr "instrumentationLibrarySpans" (.arr []))).elements
  let former ← former.mapM decodeLibraryBlock
  return current ++ former

/-- The attributes of a resource and its blocks. -/
def decodeEntryHead (entry : Json) : Except DocumentError (Mapping × List Block) := do
  let resource ← ask (entry.memberOr "resource" (.obj []))
  let attributes ← decodeAttributes (← ask (resource.memberOr "attributes" (.arr [])))
  return (attributes, ← decodeBlocks entry)

def decodeBlock (resource : Mapping) (block : Block) : Except OtlpError (List SpanRecord) := do
  let spans ← (ask block.spans.elements).mapError OtlpError.document
  spans.mapM (decodeSpan resource block.scope)

def decodeResource (entry : Json) : Except OtlpError (List SpanRecord) := do
  let (resource, blocks) ← (decodeEntryHead entry).mapError OtlpError.document
  return (← blocks.mapM (decodeBlock resource)).flatten

/-- The list of resources of a document. -/
def resourceSpans? : Json → Option Json
  | .obj members => members.lookup "resourceSpans"
  | _ => none

/-- Reads the spans of a document. -/
def decode (document : Json) : Except OtlpError (List SpanRecord) := do
  match resourceSpans? document with
  | none => throw (.document .missingResourceSpans)
  | some resources =>
    let entries ← (ask resources.elements).mapError OtlpError.document
    return (← entries.mapM decodeResource).flatten

end SpanBridge.Otlp
