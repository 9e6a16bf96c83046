import SpanBridge.Proofs.Otlp.Draft

/-!
# Spellings of spans in OTLP

OTLP leaves a writer some freedom: integers are numbers or texts of numbers, enumerations are
numbers or names, and a member with its default may be left out. `SpellsValue`, `SpellsStatus`,
`SpellsSpan` and the other relations here say which documents spell a value, a status, a span and so
on, whatever the order of the members and whatever else an object holds. `SpellsDocument` is the
relation for whole documents, with one resource for each span.
-/

set_option autoImplicit false
set_option relaxedAutoImplicit false

namespace SpanBridge.Otlp

/-- The member of an object with a name. A member that is left out counts as its default. -/
def memberIn (members : List (String × Json)) (name : String) (default : Json) : Json :=
  (members.lookup name).getD default

/-! ### Numbers and texts -/

/-- An integer is a number, or the text of one that has not too many digits. -/
inductive SpellsInteger (number : Int) : Json → Prop where
  | number : SpellsInteger number (.int number)
  | text (h : Number.WithinLimit number) : SpellsInteger number (.str (Number.integerText number))

/-- A double precision number is a number, or its name if it is not finite. -/
inductive SpellsDouble : Double → Json → Prop where
  | number (number : Double) : SpellsDouble number (.double number)
  | nan : SpellsDouble .nan (.str "NaN")
  | infinity : SpellsDouble (.infinite false) (.str "Infinity")
  | minusInfinity : SpellsDouble (.infinite true) (.str "-Infinity")

/-- A text that may be missing. No text, the empty text and nothing are the same. -/
inductive SpellsOptionalText : Value → Json → Prop where
  | null : SpellsOptionalText .null .null
  | empty : SpellsOptionalText .null (.str "")
  | text {text : String} (h : text ≠ "") : SpellsOptionalText (.str text) (.str text)

/-- The identifier of a parent, if there is one. -/
inductive SpellsParent : Option String → Json → Prop where
  | null : SpellsParent none .null
  | empty : SpellsParent none (.str "")
  | id {id : String} (h : id ≠ "") : SpellsParent (some id) (.str id)

/-! ### Enumerations -/

/-- The number of a kind. The number zero leaves the kind open. -/
def kindNumber : SpanKind → Int
  | .internal => 1
  | .server => 2
  | .client => 3
  | .producer => 4
  | .consumer => 5

def statusNumber : StatusCode → Int
  | .unset => 0
  | .ok => 1
  | .error => 2

/-- A kind is its number or, in letters of any case, its name with or without `SPAN_KIND_` before
it. Nothing is an internal span. -/
inductive SpellsKind : SpanKind → Json → Prop where
  | null : SpellsKind .internal .null
  | number (kind : SpanKind) : SpellsKind kind (.int (kindNumber kind))
  | short {kind : SpanKind} {text : String} (h : Text.LetterCase.toCapital text = kind.name) :
    SpellsKind kind (.str text)
  | long {kind : SpanKind} {text : String}
      (h : Text.LetterCase.toCapital text = "SPAN_KIND_" ++ kind.name) :
    SpellsKind kind (.str text)

/-- An outcome is its number or, in letters of any case, its name with or without `STATUS_CODE_`
before it. -/
inductive SpellsStatusCode : StatusCode → Json → Prop where
  | number (code : StatusCode) : SpellsStatusCode code (.int (statusNumber code))
  | short {code : StatusCode} {text : String} (h : Text.LetterCase.toCapital text = code.name) :
    SpellsStatusCode code (.str text)
  | long {code : StatusCode} {text : String}
      (h : Text.LetterCase.toCapital text = "STATUS_CODE_" ++ code.name) :
    SpellsStatusCode code (.str text)

/-- A status is an object with a code and a message. Nothing is a status that is not set. -/
inductive SpellsStatus : Status → Json → Prop where
  | null : SpellsStatus {} .null
  | object {status : Status} {members : List (String × Json)} {message : String}
      (hcode : SpellsStatusCode status.code (memberIn members "code" (.int 0)))
      (hmessage : memberIn members "message" (.str "") = .str message)
      (hdescription : status.description = .str message) :
    SpellsStatus status (.obj members)

/-! ### Attributes -/

/-- A scalar is an object with one member, whose name tells its kind. -/
inductive SpellsScalar : Scalar → Json → Prop where
  | string (text : String) : SpellsScalar (.string text) (.obj [("stringValue", .str text)])
  | boolean (truth : Bool) : SpellsScalar (.boolean truth) (.obj [("boolValue", .bool truth)])
  | long {number : Int} {document : Json} (h : SpellsInteger number document) :
    SpellsScalar (.long number) (.obj [("intValue", document)])
  | double {number : Double} {document : Json} (h : SpellsDouble number document) :
    SpellsScalar (.double number) (.obj [("doubleValue", document)])

/-- A value is a scalar or an array of scalars of one kind. -/
inductive SpellsValue : Value → Json → Prop where
  | scalar {scalar : Scalar} {document : Json} (h : SpellsScalar scalar document) :
    SpellsValue scalar.toValue document
  | sequence {scalars : List Scalar} {documents : List Json} {attr : Attribute}
      (hkind : Attribute.ofScalars scalars = .ok attr)
      (hitems : List.Forall₂ SpellsScalar scalars documents) :
    SpellsValue (.tuple (scalars.map Scalar.toValue))
      (.obj [("arrayValue", .obj [("values", .arr documents)])])
  | nothing : SpellsValue (.tuple []) (.obj [("arrayValue", .obj [])])

/-- An attribute is an object with its key, which is a text, and its value. -/
inductive SpellsEntry : Value × Value → Json → Prop where
  | entry {key : String} {value : Value} {members : List (String × Json)} {document : Json}
      (hne : key ≠ "") (hkey : members.lookup "key" = some (.str key))
      (hvalue : members.lookup "value" = some document) (h : SpellsValue value document) :
    SpellsEntry (.str key, value) (.obj members)

/-- Attributes are a list in their order. -/
inductive SpellsAttributes (mapping : Mapping) : Json → Prop where
  | list {documents : List Json} (h : List.Forall₂ SpellsEntry mapping.entries documents) :
    SpellsAttributes mapping (.arr documents)

/-! ### Spans -/

/-- An event is an object with its name, its time and its attributes. -/
inductive SpellsEvent : Event → Json → Prop where
  | event {event : Event} {members : List (String × Json)} {name : String}
      (hname : memberIn members "name" (.str "") = .str name) (hnameEq : event.name = .str name)
      (htime : SpellsInteger event.timestamp (memberIn members "timeUnixNano" (.int 0)))
      (hattributes : SpellsAttributes event.attributes (memberIn members "attributes" (.arr []))) :
    SpellsEvent event (.obj members)

/-- The members of a span. The totals are given by what was dropped. -/
structure SpellsSpan (draft : SpanDraft) (members : List (String × Json)) : Prop where
  traceId : members.lookup "traceId" = some (.str draft.traceId)
  spanId : members.lookup "spanId" = some (.str draft.spanId)
  parentId : SpellsParent draft.parentId (memberIn members "parentSpanId" .null)
  name : ∃ name, memberIn members "name" (.str "") = .str name ∧ draft.name = .str name
  kind : ∃ kind, SpellsKind kind (memberIn members "kind" .null) ∧ draft.kind = some kind
  start : SpellsInteger draft.start (memberIn members "startTimeUnixNano" (.int 0))
  finish : SpellsInteger draft.finish (memberIn members "endTimeUnixNano" (.int 0))
  attributes : SpellsAttributes draft.attributes (memberIn members "attributes" (.arr []))
  events : ∃ documents, memberIn members "events" (.arr []) = .arr documents ∧
    List.Forall₂ SpellsEvent draft.events documents
  totalAttributes : ∃ dropped,
    SpellsInteger dropped (memberIn members "droppedAttributesCount" (.int 0)) ∧
      draft.totalAttributes = some (draft.attributes.size + dropped)
  totalEvents : ∃ dropped,
    SpellsInteger dropped (memberIn members "droppedEventsCount" (.int 0)) ∧
      draft.totalEvents = some (draft.events.length + dropped)
  status : SpellsStatus draft.status (memberIn members "status" .null)

/-! ### Documents -/

/-- The scope of a block is an object with a name and perhaps a version, beside a schema. A block
without such an object has the empty scope. -/
inductive SpellsScope : Scope → List (String × Json) → Prop where
  | object {scope : Scope} {block library : List (String × Json)} {name : String}
      (hscope : block.lookup "scope" = some (.obj library))
      (hname : library.lookup "name" = some (.str name)) (hnameEq : scope.name = .str name)
      (hversion : SpellsOptionalText scope.version (memberIn library "version" .null))
      (hschema : SpellsOptionalText scope.schemaUrl (memberIn block "schemaUrl" .null)) :
    SpellsScope scope block
  | missing {block : List (String × Json)} (hscope : block.lookup "scope" = none) :
    SpellsScope .empty block

/-- A resource with one block of one span. -/
inductive SpellsResource : SpanDraft → Json → Prop where
  | resource {draft : SpanDraft} {entry resource block span : List (String × Json)}
      (hresource : memberIn entry "resource" (.obj []) = .obj resource)
      (hattributes : SpellsAttributes draft.resource (memberIn resource "attributes" (.arr [])))
      (hblock : entry.lookup "scopeSpans" = some (.arr [.obj block]))
      (hformer : entry.lookup "instrumentationLibrarySpans" = none)
      (hscope : SpellsScope draft.scope block)
      (hspans : block.lookup "spans" = some (.arr [.obj span])) (hspan : SpellsSpan draft span) :
    SpellsResource draft (.obj entry)

/-- A document with one resource for each record. -/
inductive SpellsDocument : List SpanRecord → Json → Prop where
  | document {records : List SpanRecord} {members : List (String × Json)} {entries : List Json}
      (hresources : members.lookup "resourceSpans" = some (.arr entries))
      (h : List.Forall₂ (fun record ↦ SpellsResource record.toDraft) records entries) :
    SpellsDocument records (.obj members)

end SpanBridge.Otlp
