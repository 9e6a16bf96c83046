import SpanBridge.Address
import SpanBridge.Category
import SpanBridge.Json.Encode
import SpanBridge.Json.Printer
import SpanBridge.Value.Mapping

/-!
# Zipkin spans

A `ZipkinSpan` and its JSON form. Members that a span does not have are left out. `Zipkin.render`
writes spans as one array; with an indent every member has a line of its own, and otherwise the
array is on one line. How large an indent may be depends on the memory of the machine, which is a
parameter.
-/

set_option autoImplicit false
set_option relaxedAutoImplicit false

namespace SpanBridge

/-- The role of a span in the Zipkin model. -/
inductive ZipkinKind where
  | client
  | server
  | producer
  | consumer
  deriving DecidableEq, Repr

def ZipkinKind.name : ZipkinKind → String
  | .client => "CLIENT"
  | .server => "SERVER"
  | .producer => "PRODUCER"
  | .consumer => "CONSUMER"

/-- The service and host that recorded a span. -/
structure Endpoint where
  serviceName : String
  ip : Option String := none
  deriving DecidableEq, Repr

/-- A span in the Zipkin model. Times are in microseconds. -/
structure ZipkinSpan where
  traceId : String
  id : String
  name : Value
  timestamp : Int
  duration : Int
  localEndpoint : Endpoint
  parentId : Option String := none
  kind : Option ZipkinKind := none
  tags : Mapping := .empty
  debug : Option Bool := none
  shared : Option Bool := none
  deriving DecidableEq

/-- A member of an object, if it has a value. -/
def memberIf (name : String) (value : Option Value) : List (Value × Value) :=
  match value with
  | some value => [(.str name, value)]
  | none => []

/-- The members of an endpoint: its service and, under the version of the address, the canonical
text of its address. -/
def Endpoint.members (endpoint : Endpoint) : Except AddressError (List (Value × Value)) := do
  let service : Value × Value := (.str "serviceName", .str endpoint.serviceName)
  match endpoint.ip with
  | none | some "" => return [service]
  | some ip =>
    let address ← Address.parse ip
    return [service, (.str (if address.isV4 then "ipv4" else "ipv6"), .str address.text)]

/-- The members of a span in their order. -/
def ZipkinSpan.members (span : ZipkinSpan) : Except AddressError (List (Value × Value)) := do
  let endpoint ← span.localEndpoint.members
  return memberIf "traceId" (some (.str span.traceId))
    ++ memberIf "parentId" ((span.parentId.filter (· ≠ "")).map Value.str)
    ++ memberIf "id" (some (.str span.id))
    ++ memberIf "kind" (span.kind.map fun kind ↦ .str kind.name)
    ++ memberIf "name" (some span.name)
    ++ memberIf "timestamp" (some (.int span.timestamp))
    ++ memberIf "duration" (some (.int span.duration))
    ++ memberIf "localEndpoint" (some (.map endpoint))
    ++ memberIf "tags" (if span.tags.isEmpty then none else some (.map span.tags.entries))
    ++ memberIf "debug" (span.debug.map Value.bool)
    ++ memberIf "shared" (span.shared.map Value.bool)

namespace Zipkin

/-- Why spans cannot be written. -/
inductive RenderError where
  | address (error : AddressError)
  | indentOutOfRange
  | indentTooLarge
  | encode (error : Json.EncodeError)
  deriving DecidableEq, Repr

def RenderError.message : RenderError → String
  | .address error => error.message
  | .indentOutOfRange => "cannot fit 'int' into an index-sized integer"
  | .indentTooLarge => ""
  | .encode error => error.message

def RenderError.category : RenderError → Category
  | .address _ => .invalid
  | .indentOutOfRange => .overflow
  | .indentTooLarge => .memory
  | .encode (.keyType _) | .encode (.unsupported _) => .wrongType
  | .encode (.tooManyDigits _) => .invalid

/-- The memory of a machine, by the greatest number of blanks for each level of indentation with
which the text of spans still fits into it. -/
abbrev Memory := List ZipkinSpan → Nat

/-- A memory that holds so many blanks for each level, whatever the spans are. -/
def Memory.upTo (limit : Nat) : Memory := fun _ ↦ limit

/-- A memory that holds every number of blanks that fits a word of 64 bits. -/
def Memory.ample : Memory := .upTo 0x7fffffffffffffff

/-- The layout for an indent, given how many blanks there is memory for. A number of spaces below
zero counts as none; one that does not fit a word of 64 bits is refused, and so is one that does not
fit into memory. -/
def layoutFor (limit : Nat) (oneLine : Json.Layout) : Option Int → Except RenderError Json.Layout
  | none => .ok oneLine
  | some spaces =>
    if spaces < -0x8000000000000000 ∨ 0x8000000000000000 ≤ spaces then .error .indentOutOfRange
    else if limit < spaces.toNat then .error .indentTooLarge
    else .ok (.indented spaces.toNat)

/-- The array of spans as a value. -/
def arrayOf (spans : List ZipkinSpan) : Except AddressError Value := do
  return .list ((← spans.mapM ZipkinSpan.members).map Value.map)

/-- The text of an array of spans on a machine with a memory. -/
def render (memory : Memory) (oneLine : Json.Layout) (indent : Option Int)
    (spans : List ZipkinSpan) : Except RenderError String := do
  let value ← (arrayOf spans).mapError RenderError.address
  let layout ← layoutFor (memory spans) oneLine indent
  let document ← (Json.ofValue value).mapError RenderError.encode
  return document.print layout

/-- The text of an array of spans, without any blanks unless there is an indent. -/
def renderCompact (memory : Memory) (indent : Option Int) (spans : List ZipkinSpan) :
    Except RenderError String :=
  render memory .compact indent spans

/-- The text of an array of spans for a console: on one line with spaces unless there is an indent.
-/
def renderConsole (memory : Memory) (indent : Option Int) (spans : List ZipkinSpan) :
    Except RenderError String :=
  render memory .spaced indent spans

end Zipkin
end SpanBridge
