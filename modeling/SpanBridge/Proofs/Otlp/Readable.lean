import SpanBridge.Proofs.Frozen
import SpanBridge.Proofs.Identifier
import SpanBridge.Proofs.Otlp.RoundTrip
import SpanBridge.Proofs.Tags

/-!
# Two ways to one span

A finished span reaches the conversion as it is or through its OTLP document. `SpellsReadable` says
which documents spell a readable span, with what is missing left out or filled in, and
`readable_agrees_with_document` says that both ways end alike: either both fail with one message or
the two records are converted to the same span. They need not be the same record, since a document
does not tell a list from a tuple.
-/

set_option autoImplicit false
set_option relaxedAutoImplicit false

namespace SpanBridge

/-- A value that is an attribute, a sequence either as a list or as a tuple, with its integers
within the digit limit. -/
def Value.IsClosed (value : Value) : Prop := value.frozen.IsWritable

/-- A mapping of such values under texts that are not empty. -/
def Mapping.IsClosed (mapping : Mapping) : Prop :=
  ∀ entry ∈ mapping.entries, (∃ key, key ≠ "" ∧ entry.1 = .str key) ∧ entry.2.IsClosed

/-- An event with a text as its name. -/
structure Event.IsClosed (event : Event) : Prop where
  name : ∃ text, event.name = .str text
  attributes : event.attributes.IsClosed

/-- A span with an identity and a kind, with attributes of the kinds there are, and with counts
within the digit limit. -/
structure ReadableSpan.IsClosed (span : ReadableSpan) : Prop where
  identity : ∃ identity, span.identity = .ok identity
  kind : span.kind ≠ none
  attributes : ∀ mapping, span.attributes = some mapping → mapping.IsClosed
  events : ∀ event ∈ span.events, event.IsClosed
  resource : ∀ mapping, span.resource = some mapping → mapping.IsClosed
  droppedAttributes : Number.WithinLimit span.droppedAttributes
  droppedEvents : Number.WithinLimit span.droppedEvents

theorem Mapping.IsClosed.empty : Mapping.empty.IsClosed := nofun

theorem Mapping.IsClosed.getD {given : Option Mapping}
    (h : ∀ mapping, given = some mapping → mapping.IsClosed) : (given.getD .empty).IsClosed := by
  cases given with
  | none => exact .empty
  | some mapping => exact h mapping rfl

/-- Frozen closed attributes can be spelled. -/
theorem Mapping.IsClosed.isSpellable {mapping : Mapping} (h : mapping.IsClosed) :
    mapping.frozen.IsSpellable := by
  intro entry hentry
  obtain ⟨given, hgiven, rfl⟩ := List.mem_map.1 hentry
  obtain ⟨hkey, attr, -, hattr⟩ := h given hgiven
  exact ⟨hkey, attr, hattr⟩

theorem Mapping.IsClosed.allHaveText {mapping : Mapping} (h : mapping.IsClosed) :
    Zipkin.AllHaveText mapping := by
  intro entry hentry
  rw [← Value.attributeText_frozen]
  exact (h entry hentry).2.exists_attributeText

theorem Event.IsClosed.isSpellable {event : Event} (h : event.IsClosed) :
    event.frozen.IsSpellable := ⟨h.name, h.attributes.isSpellable⟩

namespace Otlp

/-! ### Spellings of readable spans -/

/-- A text that may be missing, as it is given. -/
inductive SpellsGiven : Option String → Json → Prop where
  | missing : SpellsGiven none .null
  | text (text : String) : SpellsGiven (some text) (.str text)

/-- The scope of a block is an object with a name, which is empty when there is none. A span without
a scope stands in a block without such an object. -/
inductive SpellsReadableScope : Option ReadableScope → List (String × Json) → Prop where
  | object {scope : ReadableScope} {block library : List (String × Json)}
      (hscope : block.lookup "scope" = some (.obj library))
      (hname : library.lookup "name" = some (.str (scope.name.getD "")))
      (hversion : SpellsGiven scope.version (memberIn library "version" .null))
      (hschema : SpellsGiven scope.schemaUrl (memberIn block "schemaUrl" .null)) :
    SpellsReadableScope (some scope) block
  | missing {block : List (String × Json)} (hscope : block.lookup "scope" = none) :
    SpellsReadableScope none block

/-- The members of a readable span: identifiers in hexadecimal, a start that is zero when it is
missing, an end that is the start when it is missing, and the counts of what was dropped. -/
structure SpellsReadableSpan (span : ReadableSpan) (members : List (String × Json)) : Prop where
  identity : ∃ identity, span.identity = .ok identity ∧
    members.lookup "traceId" = some (.str (traceIdText identity.traceId)) ∧
    members.lookup "spanId" = some (.str (spanIdText identity.spanId))
  parentId : SpellsParent (span.parentId.map spanIdText) (memberIn members "parentSpanId" .null)
  name : memberIn members "name" (.str "") = .str span.name
  kind : ∃ kind, SpellsKind kind (memberIn members "kind" .null) ∧ span.kind = some kind
  start : SpellsInteger (span.start.getD 0) (memberIn members "startTimeUnixNano" (.int 0))
  finish : SpellsInteger (span.finish.getD (span.start.getD 0))
    (memberIn members "endTimeUnixNano" (.int 0))
  attributes : SpellsAttributes (span.attributes.getD .empty).frozen
    (memberIn members "attributes" (.arr []))
  events : ∃ documents, memberIn members "events" (.arr []) = .arr documents ∧
    List.Forall₂ (fun event ↦ SpellsEvent event.frozen) span.events documents
  droppedAttributes : SpellsInteger span.droppedAttributes
    (memberIn members "droppedAttributesCount" (.int 0))
  droppedEvents : SpellsInteger span.droppedEvents
    (memberIn members "droppedEventsCount" (.int 0))
  status : SpellsStatus
    { code := (span.status.bind (·.code)).getD .unset
      description := .str ((span.status.bind (·.description)).getD "") }
    (memberIn members "status" .null)

/-- A document with one resource, one block and one span. -/
inductive SpellsReadable (span : ReadableSpan) : Json → Prop where
  | document {members entry resource block spanMembers : List (String × Json)}
      (hresources : members.lookup "resourceSpans" = some (.arr [.obj entry]))
      (hresource : memberIn entry "resource" (.obj []) = .obj resource)
      (hattributes : SpellsAttributes (span.resource.getD .empty).frozen
        (memberIn resource "attributes" (.arr [])))
      (hblock : entry.lookup "scopeSpans" = some (.arr [.obj block]))
      (hformer : entry.lookup "instrumentationLibrarySpans" = none)
      (hscope : SpellsReadableScope span.scope block)
      (hspans : block.lookup "spans" = some (.arr [.obj spanMembers]))
      (hspan : SpellsReadableSpan span spanMembers) :
    SpellsReadable span (.obj members)

/-! ### The draft of a readable span -/

/-- A text that may be missing is spelled as given. -/
theorem spellsOptionalText_of_given {given : Option String} {document : Json}
    (h : SpellsGiven given document) :
    SpellsOptionalText (given.elim .null Value.str).orNull document := by
  cases h with
  | missing => exact .null
  | text text =>
    by_cases hempty : text = ""
    · rw [hempty]
      exact .empty
    · have hsome : (Value.str text).orNull = .str text := if_pos (decide_eq_true hempty)
      rw [Option.elim_some, hsome]
      exact .text hempty

/-- The scope of a readable span is spelled by its block. -/
theorem spellsScope_of_readable {scope : Option ReadableScope} {block : List (String × Json)}
    (h : SpellsReadableScope scope block) :
    SpellsScope ((scope.map ReadableScope.toScope).getD .empty) block := by
  cases h with
  | object hscope hname hversion hschema =>
    exact .object hscope hname rfl (spellsOptionalText_of_given hversion)
      (spellsOptionalText_of_given hschema)
  | missing hscope => exact .missing hscope

/-- The status of a readable span, or the one that stands for none. -/
theorem status_readable (status : Option ReadableStatus) :
    (status.map ReadableStatus.toStatus).getD {} =
      { code := (status.bind (·.code)).getD .unset
        description := .str ((status.bind (·.description)).getD "") } := by
  cases status <;> rfl

/-- What spells a readable span spells its frozen draft. -/
theorem spellsSpan_of_readable {span : ReadableSpan} {members : List (String × Json)}
    (h : SpellsReadableSpan span members) :
    ∃ identity, span.identity = .ok identity ∧
      SpellsSpan (span.toDraft identity).frozen members := by
  obtain ⟨identity, hidentity, htraceId, hspanId⟩ := h.identity
  obtain ⟨documents, hdocuments, hevents⟩ := h.events
  exact ⟨identity, hidentity, {
    traceId := htraceId
    spanId := hspanId
    parentId := h.parentId
    name := ⟨span.name, h.name, rfl⟩
    kind := h.kind
    start := h.start
    finish := h.finish
    attributes := h.attributes
    events := ⟨documents, hdocuments, List.forall₂_map_left_iff.2 hevents⟩
    totalAttributes := ⟨span.droppedAttributes, h.droppedAttributes, by
      rw [SpanDraft.attributes_frozen, Mapping.size_frozen]
      rfl⟩
    totalEvents := ⟨span.droppedEvents, h.droppedEvents, by
      rw [SpanDraft.events_frozen, List.length_map]
      rfl⟩
    status := by
      rw [show (span.toDraft identity).frozen.status =
        (span.status.map ReadableStatus.toStatus).getD {} from rfl, status_readable]
      exact h.status }⟩

/-- A document that spells a readable span has one resource, which spells its frozen draft. -/
theorem spellsResource_of_readable {span : ReadableSpan} {document : Json}
    (h : SpellsReadable span document) :
    ∃ identity members entry, span.identity = .ok identity ∧ document = .obj members ∧
      members.lookup "resourceSpans" = some (.arr [entry]) ∧
        SpellsResource (span.toDraft identity).frozen entry := by
  cases h with
  | document hresources hresource hattributes hblock hformer hscope hspans hspan =>
    obtain ⟨identity, hidentity, hspells⟩ := spellsSpan_of_readable hspan
    exact ⟨identity, _, _, hidentity, rfl, hresources, .resource hresource hattributes hblock
      hformer (spellsScope_of_readable hscope) hspans hspells⟩

/-- The identifiers of a readable span are written in small letters. -/
theorem isSmall_readable (span : ReadableSpan) (identity : SpanIdentity) :
    IsSmall (span.toDraft identity).frozen where
  traceId := toSmall_paddedHex 32 identity.traceId
  spanId := toSmall_paddedHex 16 identity.spanId
  parentId := by
    intro id hid
    obtain ⟨parent, -, rfl⟩ := Option.map_eq_some_iff.1 hid
    exact toSmall_paddedHex 16 parent
  traceId_ne := paddedHex_ne_empty 32 identity.traceId
  spanId_ne := paddedHex_ne_empty 16 identity.spanId

/-- A document that spells a span is read as the frozen record of the draft of the span, or fails as
the draft does. -/
theorem decode_of_spellsReadable {span : ReadableSpan} {document : Json}
    (h : SpellsReadable span document) :
    ∃ identity, span.identity = .ok identity ∧
      decode document = ((span.toDraft identity).check.map fun record ↦
        [record.frozen]).mapError OtlpError.record := by
  obtain ⟨identity, members, entry, hidentity, rfl, hresources, hentry⟩ :=
    spellsResource_of_readable h
  have hsmall : ∀ draft ∈ [(span.toDraft identity).frozen], IsSmall draft :=
    List.forall_mem_singleton.2 (isSmall_readable span identity)
  refine ⟨identity, hidentity, ?_⟩
  rw [decode_of_spells hresources (.cons hentry .nil) hsmall, List.mapM_cons, List.mapM_nil,
    SpanDraft.check_frozen]
  cases (span.toDraft identity).check <;> rfl

/-! ### The record of a readable span -/

/-- The record of a closed span is convertible. -/
theorem isConvertible_of_toRecord {span : ReadableSpan} {record : SpanRecord} (h : span.IsClosed)
    (hrecord : span.toRecord = .ok record) : Conversion.IsConvertible record := by
  obtain ⟨identity, -, hdraft⟩ := ReadableSpan.toRecord_eq_ok_iff_toDraft.1 hrecord
  have hattributes : record.attributes = span.presentAttributes :=
    congrArg SpanDraft.attributes hdraft.symm
  have hevents : record.events = span.events := congrArg SpanDraft.events hdraft.symm
  have hresource : record.resource = span.resource.getD .empty :=
    congrArg SpanDraft.resource hdraft.symm
  have hkind : record.kind = span.kind := congrArg SpanDraft.kind hdraft.symm
  have htotalAttributes : record.totalAttributes =
      span.presentAttributes.size + span.droppedAttributes :=
    Option.some.inj (congrArg SpanDraft.totalAttributes hdraft.symm)
  have htotalEvents : record.totalEvents = span.events.length + span.droppedEvents :=
    Option.some.inj (congrArg SpanDraft.totalEvents hdraft.symm)
  exact {
    attributes := hattributes ▸ (Mapping.IsClosed.getD h.attributes).allHaveText
    service := Conversion.hasServiceName_of_allHaveText
      (hresource ▸ (Mapping.IsClosed.getD h.resource).allHaveText)
    drops := by
      rw [Zipkin.DropsWritable, SpanRecord.droppedAttributes, SpanRecord.droppedEvents,
        htotalAttributes, htotalEvents, hattributes, hevents, add_sub_cancel_left,
        add_sub_cancel_left]
      exact ⟨h.droppedAttributes, h.droppedEvents⟩
    kind := hkind ▸ h.kind }

/-! ### Every readable span has a spelling -/

theorem exists_spellsGiven (given : Option String) : ∃ document, SpellsGiven given document := by
  cases given with
  | none => exact ⟨_, .missing⟩
  | some text => exact ⟨_, .text text⟩

theorem exists_spellsReadableSpan {span : ReadableSpan} (h : span.IsClosed) :
    ∃ members, SpellsReadableSpan span members := by
  obtain ⟨identity, hidentity⟩ := h.identity
  obtain ⟨kind, hkind⟩ := Option.ne_none_iff_exists'.1 h.kind
  obtain ⟨parent, hparent⟩ : ∃ document, SpellsParent (span.parentId.map spanIdText) document := by
    refine exists_spellsParent fun id hid ↦ ?_
    obtain ⟨number, -, rfl⟩ := Option.map_eq_some_iff.1 hid
    exact paddedHex_ne_empty 16 number
  obtain ⟨attributes, hattributes⟩ :=
    exists_spellsAttributes (Mapping.IsClosed.getD h.attributes).isSpellable
  obtain ⟨events, hevents⟩ := exists_forall₂ fun event hevent ↦
    exists_spellsEvent (h.events event hevent).isSpellable
  refine ⟨[("traceId", .str (traceIdText identity.traceId)),
    ("spanId", .str (spanIdText identity.spanId)), ("parentSpanId", parent),
    ("name", .str span.name),
    ("kind", .int (kindNumber kind)), ("startTimeUnixNano", .int (span.start.getD 0)),
    ("endTimeUnixNano", .int (span.finish.getD (span.start.getD 0))), ("attributes", attributes),
    ("events", .arr events), ("droppedAttributesCount", .int span.droppedAttributes),
    ("droppedEventsCount", .int span.droppedEvents),
    ("status", .obj [("code", .int (statusNumber ((span.status.bind (·.code)).getD .unset))),
      ("message", .str ((span.status.bind (·.description)).getD ""))])], ?_⟩
  exact {
    identity := ⟨identity, hidentity, rfl, rfl⟩
    parentId := hparent
    name := rfl
    kind := ⟨kind, .number kind, hkind⟩
    start := .number
    finish := .number
    attributes := hattributes
    events := ⟨events, rfl, hevents⟩
    droppedAttributes := .number
    droppedEvents := .number
    status := .object (.number _) rfl rfl }

theorem exists_spellsReadableScope (scope : Option ReadableScope) (spans : Json) :
    ∃ block, block.lookup "spans" = some spans ∧ SpellsReadableScope scope block := by
  cases scope with
  | none => exact ⟨[("spans", spans)], rfl, .missing rfl⟩
  | some scope =>
    obtain ⟨version, hversion⟩ := exists_spellsGiven scope.version
    obtain ⟨schema, hschema⟩ := exists_spellsGiven scope.schemaUrl
    exact ⟨[("scope", .obj [("name", .str (scope.name.getD "")), ("version", version)]),
      ("schemaUrl", schema), ("spans", spans)], rfl, .object rfl rfl hversion hschema⟩

theorem exists_spellsReadable {span : ReadableSpan} (h : span.IsClosed) :
    ∃ document, SpellsReadable span document := by
  obtain ⟨members, hmembers⟩ := exists_spellsReadableSpan h
  obtain ⟨block, hspans, hscope⟩ := exists_spellsReadableScope span.scope (.arr [.obj members])
  obtain ⟨resource, hresource⟩ :=
    exists_spellsAttributes (Mapping.IsClosed.getD h.resource).isSpellable
  exact ⟨.obj [("resourceSpans", .arr [.obj [("resource", .obj [("attributes", resource)]),
    ("scopeSpans", .arr [.obj block])]])],
    .document rfl rfl hresource rfl rfl hscope hspans hmembers⟩

/-! ### Agreement -/

/-- Two records that are converted to the same span, with the same notices, whatever the source.
There is such a span whenever the source answers. -/
def ConvertedAlike (first second : SpanRecord) : Prop :=
  ∀ (σ : Type) (source : AddressSource σ) (state : σ),
    Conversion.convert source first state = Conversion.convert source second state ∧
      ((∃ answer, (source.ask state).1 = .ok answer) →
        ∃ span, (Conversion.convert source first state).result = .ok span)

/-- A convertible record and its frozen form are converted alike. -/
theorem convertedAlike_frozen {record : SpanRecord} (h : Conversion.IsConvertible record) :
    ConvertedAlike record record.frozen := by
  intro σ source state
  obtain ⟨bare, hbare⟩ := (Conversion.exists_withoutAddress_iff record).2 h
  constructor
  · exact Conversion.convert_eq_of_withoutAddress (Conversion.withoutAddress_frozen record).symm
      source state
  · rintro ⟨answer, hanswer⟩
    exact ⟨_, Conversion.convert_eq_ok_iff.2 ⟨bare, answer, hbare, hanswer, rfl⟩⟩

/-- A readable span has a spelling. The record of the span and the record that is read from a
spelling are converted to the same span, or there is neither and both fail with one message. -/
theorem readable_agrees_with_document {span : ReadableSpan} (h : span.IsClosed) :
    (∃ document, SpellsReadable span document) ∧
      ∀ document, SpellsReadable span document →
        (∃ record decoded, span.toRecord = .ok record ∧ decode document = .ok [decoded] ∧
          ConvertedAlike record decoded) ∨
        ∃ error, span.toRecord = .error (.record error) ∧
          decode document = .error (.record error) ∧
          (ReadableError.record error).category = .invalid ∧
            (OtlpError.record error).category = .invalid ∧
            (OtlpError.record error).message = (ReadableError.record error).message := by
  refine ⟨exists_spellsReadable h, fun document hdocument ↦ ?_⟩
  obtain ⟨identity, hidentity, hdecode⟩ := decode_of_spellsReadable hdocument
  cases hcheck : (span.toDraft identity).check with
  | ok record =>
    rw [hcheck] at hdecode
    have hrecord := ReadableSpan.toRecord_eq_ok_iff.2 ⟨identity, hidentity, hcheck⟩
    exact .inl ⟨record, record.frozen, hrecord, hdecode,
      convertedAlike_frozen (isConvertible_of_toRecord h hrecord)⟩
  | error error =>
    rw [hcheck] at hdecode
    exact .inr ⟨error, ReadableSpan.toRecord_eq_record_error_iff.2 ⟨identity, hidentity, hcheck⟩,
      hdecode, rfl, rfl, rfl⟩

/-- A span without an end, with a list among its attributes and a scope whose version is empty. -/
def unendedSpan : ReadableSpan where
  name := "op"
  context := some ⟨some 0xabc, some 0x2⟩
  kind := some .server
  start := some 1000
  attributes := some (Mapping.empty.insert (.str "flags") (.list [.bool true, .bool false]))
  scope := some { version := some "" }
  droppedEvents := 4

def unendedMembers : List (String × Json) :=
  [("traceId", .str "00000000000000000000000000000abc"), ("spanId", .str "0000000000000002"),
    ("name", .str "op"), ("kind", .int 2), ("startTimeUnixNano", .str "1000"),
    ("endTimeUnixNano", .str "1000"),
    ("attributes", .arr
      [.obj [("key", .str "flags"), ("value", .obj [("arrayValue", .obj [("values", .arr
        [.obj [("boolValue", .bool true)], .obj [("boolValue", .bool false)]])])])]]),
    ("droppedEventsCount", .int 4)]

def unendedDocument : Json :=
  .obj [("resourceSpans", .arr [.obj [("scopeSpans", .arr [.obj
    [("scope", .obj [("name", .str ""), ("version", .str "")]),
      ("spans", .arr [.obj unendedMembers])]])]])]

theorem isClosed_unendedSpan : unendedSpan.IsClosed where
  identity := ⟨_, rfl⟩
  kind := nofun
  attributes := by
    rintro _ ⟨⟩ entry hentry
    obtain rfl := List.mem_singleton.1 hentry
    exact ⟨⟨"flags", by decide, rfl⟩, .booleans [true, false], nofun, rfl⟩
  events := nofun
  resource := nofun
  droppedAttributes := by decide
  droppedEvents := by decide

theorem spellsReadableSpan_unendedSpan : SpellsReadableSpan unendedSpan unendedMembers := by
  have htraceId : traceIdText 0xabc = "00000000000000000000000000000abc" := by decide +kernel
  have hspanId : spanIdText 0x2 = "0000000000000002" := by decide +kernel
  have htext : Number.integerText 1000 = "1000" := by decide
  have htime : SpellsInteger 1000 (.str "1000") := htext ▸ SpellsInteger.text (by decide)
  have hflags : Attribute.ofScalars [.boolean true, .boolean false] =
      .ok (.booleans [true, false]) := by decide
  exact {
    identity := ⟨⟨0xabc, 0x2⟩, rfl, congrArg (some ∘ Json.str) htraceId.symm,
      congrArg (some ∘ Json.str) hspanId.symm⟩
    parentId := .null
    name := rfl
    kind := ⟨.server, .number .server, rfl⟩
    start := htime
    finish := htime
    attributes := .list (.cons (.entry (by decide) rfl rfl (.sequence hflags
      (.cons (.boolean true) (.cons (.boolean false) .nil)))) .nil)
    events := ⟨[], rfl, .nil⟩
    droppedAttributes := .number
    droppedEvents := .number
    status := .null }

theorem spellsReadable_unendedSpan : SpellsReadable unendedSpan unendedDocument :=
  .document rfl rfl (.list .nil) rfl rfl (.object rfl rfl (.text "") .missing) rfl
    spellsReadableSpan_unendedSpan

/-- A span without an end has different records on both ways, which are converted alike. -/
theorem unendedSpan_agrees :
    unendedSpan.IsClosed ∧ SpellsReadable unendedSpan unendedDocument ∧
      ∃ record decoded, unendedSpan.toRecord = .ok record ∧
        decode unendedDocument = .ok [decoded] ∧ record ≠ decoded ∧
          ConvertedAlike record decoded := by
  have hdiffer : unendedSpan.toRecord.toOption.isSome = true ∧
      unendedSpan.toRecord.toOption.map ([·]) ≠ (decode unendedDocument).toOption := by
    decide +kernel
  refine ⟨isClosed_unendedSpan, spellsReadable_unendedSpan, ?_⟩
  rcases (readable_agrees_with_document isClosed_unendedSpan).2 _ spellsReadable_unendedSpan with
    ⟨record, decoded, hrecord, hdecoded, halike⟩ | ⟨error, herror, -⟩
  · refine ⟨record, decoded, hrecord, hdecoded, ?_, halike⟩
    rintro rfl
    rw [hrecord, hdecoded] at hdiffer
    exact hdiffer.2 rfl
  · rw [herror] at hdiffer
    cases hdiffer.1

end Otlp
end SpanBridge
