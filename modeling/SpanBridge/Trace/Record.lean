import SpanBridge.Category
import SpanBridge.Trace.Scope
import SpanBridge.Value.Mapping

/-!
# Span records

A `SpanRecord` is a finished span. It is built from a `SpanDraft`, which may leave out what has a
default, by `SpanDraft.check`: the identifiers are not empty, the span does not end before it
starts, and the totals are at least what is still present. Limits may have dropped attributes and
events; the totals count these too.
-/

set_option autoImplicit false
set_option relaxedAutoImplicit false

namespace SpanBridge

/-- The role of a span in a trace. -/
inductive SpanKind where
  | internal
  | server
  | client
  | producer
  | consumer
  deriving DecidableEq, Repr

def SpanKind.name : SpanKind → String
  | .internal => "INTERNAL"
  | .server => "SERVER"
  | .client => "CLIENT"
  | .producer => "PRODUCER"
  | .consumer => "CONSUMER"

def SpanKind.all : List SpanKind := [.internal, .server, .client, .producer, .consumer]

def SpanKind.ofName? (name : String) : Option SpanKind := all.find? fun kind ↦ kind.name = name

/-- The outcome of what a span describes. -/
inductive StatusCode where
  | unset
  | ok
  | error
  deriving DecidableEq, Repr

def StatusCode.name : StatusCode → String
  | .unset => "UNSET"
  | .ok => "OK"
  | .error => "ERROR"

def StatusCode.all : List StatusCode := [.unset, .ok, .error]

def StatusCode.ofName? (name : String) : Option StatusCode :=
  all.find? fun code ↦ code.name = name

/-- An outcome with a description, which is empty when there is none. -/
structure Status where
  code : StatusCode := .unset
  description : Value := .str ""
  deriving DecidableEq, Repr

/-- Something that happened during a span, at a time in nanoseconds. -/
structure Event where
  name : Value
  timestamp : Int
  attributes : Mapping := .empty
  deriving DecidableEq

/-- A span before it is checked. Times are in nanoseconds since the epoch. A total that is not given
is what is present. -/
structure SpanDraft where
  traceId : String
  spanId : String
  name : Value
  start : Int
  finish : Int
  parentId : Option String := none
  kind : Option SpanKind := some .internal
  attributes : Mapping := .empty
  totalAttributes : Option Int := none
  events : List Event := []
  totalEvents : Option Int := none
  status : Status := {}
  resource : Mapping := .empty
  scope : Scope := .empty
  deriving DecidableEq

/-- A finished span. -/
structure SpanRecord where
  traceId : String
  spanId : String
  name : Value
  start : Int
  finish : Int
  parentId : Option String
  kind : Option SpanKind
  attributes : Mapping
  totalAttributes : Int
  events : List Event
  totalEvents : Int
  status : Status
  resource : Mapping
  scope : Scope
  spanId_ne_empty : spanId ≠ ""
  traceId_ne_empty : traceId ≠ ""
  start_le_finish : start ≤ finish
  attributes_le_total : attributes.size ≤ totalAttributes
  events_le_total : events.length ≤ totalEvents
  deriving DecidableEq

/-- Why a draft is no span. -/
inductive RecordError where
  | emptySpanId
  | emptyTraceId
  | endBeforeStart
  | attributeTotal
  | eventTotal
  deriving DecidableEq, Repr

def RecordError.message : RecordError → String
  | .emptySpanId => "span_id cannot be empty"
  | .emptyTraceId => "trace_id cannot be empty"
  | .endBeforeStart => "end_time_unix_nano cannot precede start_time_unix_nano"
  | .attributeTotal => "total_attribute_count cannot be less than the attributes present"
  | .eventTotal => "total_recorded_events cannot be less than the events present"

def RecordError.category (_ : RecordError) : Category := .invalid

namespace SpanDraft

/-- The total of attributes, which is what is present unless it is given. -/
def attributeTotal (draft : SpanDraft) : Int := draft.totalAttributes.getD draft.attributes.size

/-- The total of events, which is what is present unless it is given. -/
def eventTotal (draft : SpanDraft) : Int := draft.totalEvents.getD draft.events.length

/-- The span of a draft. The first condition that fails is reported. -/
def check (draft : SpanDraft) : Except RecordError SpanRecord :=
  if spanId : draft.spanId = "" then .error .emptySpanId
  else if traceId : draft.traceId = "" then .error .emptyTraceId
  else if times : draft.finish < draft.start then .error .endBeforeStart
  else if attributes : draft.attributeTotal < draft.attributes.size then .error .attributeTotal
  else if events : draft.eventTotal < draft.events.length then .error .eventTotal
  else .ok
    { draft with
      totalAttributes := draft.attributeTotal
      totalEvents := draft.eventTotal
      spanId_ne_empty := spanId
      traceId_ne_empty := traceId
      start_le_finish := Int.not_lt.1 times
      attributes_le_total := Int.not_lt.1 attributes
      events_le_total := Int.not_lt.1 events }

end SpanDraft

namespace SpanRecord

def droppedAttributes (span : SpanRecord) : Int := span.totalAttributes - span.attributes.size

def droppedEvents (span : SpanRecord) : Int := span.totalEvents - span.events.length

end SpanRecord
end SpanBridge
