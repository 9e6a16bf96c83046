import SpanBridge.Proofs.Otlp.Decoding

/-!
# Records in OTLP and back

A record of plain texts, attributes and small identifiers (`SpanRecord.IsSpellable`) has a spelling,
and a document that spells records is read as exactly these records in their order
(`decode_spelling`).
-/

set_option autoImplicit false
set_option relaxedAutoImplicit false

namespace SpanBridge

/-- A mapping of attributes under texts that are not empty. -/
def Mapping.IsSpellable (mapping : Mapping) : Prop :=
  ∀ entry ∈ mapping.entries,
    (∃ key, key ≠ "" ∧ entry.1 = .str key) ∧ ∃ attr : Attribute, entry.2 = attr.toValue

/-- A value that is nothing or a text that is not empty. -/
def Value.IsOptionalText (value : Value) : Prop :=
  value = .null ∨ ∃ text, text ≠ "" ∧ value = .str text

/-- A scope with a text as its name, whose version and schema are missing or not empty. -/
structure Scope.IsSpellable (scope : Scope) : Prop where
  name : ∃ text, scope.name = .str text
  version : scope.version.IsOptionalText
  schemaUrl : scope.schemaUrl.IsOptionalText

/-- An event with a text as its name. -/
structure Event.IsSpellable (event : Event) : Prop where
  name : ∃ text, event.name = .str text
  attributes : event.attributes.IsSpellable

/-- A draft that OTLP can spell: its identifiers are in small letters, its texts are texts, and its
attributes are attributes under texts that are not empty. -/
structure SpanDraft.IsSpellable (draft : SpanDraft) : Prop where
  traceId : Text.LetterCase.toSmall draft.traceId = draft.traceId
  spanId : Text.LetterCase.toSmall draft.spanId = draft.spanId
  parentId : ∀ id, draft.parentId = some id → id ≠ "" ∧ Text.LetterCase.toSmall id = id
  name : ∃ text, draft.name = .str text
  kind : draft.kind ≠ none
  attributes : draft.attributes.IsSpellable
  events : ∀ event ∈ draft.events, event.IsSpellable
  description : ∃ text, draft.status.description = .str text
  resource : draft.resource.IsSpellable
  scope : draft.scope.IsSpellable

namespace Otlp

/-- A draft that can be spelled has identifiers in small letters. -/
theorem isSmall_of_isSpellable {draft : SpanDraft} (h : draft.IsSpellable)
    (htraceId : draft.traceId ≠ "") (hspanId : draft.spanId ≠ "") : IsSmall draft where
  traceId := h.traceId
  spanId := h.spanId
  parentId := fun id hid ↦ (h.parentId id hid).2
  traceId_ne := htraceId
  spanId_ne := hspanId

/-! ### Every record has a spelling -/

theorem exists_spellsScalar (scalar : Scalar) : ∃ document, SpellsScalar scalar document := by
  cases scalar with
  | string text => exact ⟨_, .string text⟩
  | boolean truth => exact ⟨_, .boolean truth⟩
  | long number => exact ⟨_, .long .number⟩
  | double number => exact ⟨_, .double (.number number)⟩

/-- Every sequence of one kind has a spelling. -/
theorem exists_spellsSequence {scalars : List Scalar} {attr : Attribute}
    (h : Attribute.ofScalars scalars = .ok attr) :
    ∃ document, SpellsValue (.tuple (scalars.map Scalar.toValue)) document := by
  obtain ⟨documents, hdocuments⟩ :=
    exists_forall₂ (R := SpellsScalar) fun scalar (_ : scalar ∈ scalars) ↦
      exists_spellsScalar scalar
  exact ⟨_, .sequence h hdocuments⟩

theorem exists_spellsValue (attr : Attribute) : ∃ document, SpellsValue attr.toValue document := by
  have hscalar : ∀ scalar : Scalar, ∃ document, SpellsValue scalar.toValue document :=
    fun scalar ↦ (exists_spellsScalar scalar).imp fun _ hspelled ↦ .scalar hspelled
  have hsequence : ∀ {scalars : List Scalar} {items : List Value} {attr : Attribute},
      Attribute.ofScalars scalars = .ok attr → scalars.map Scalar.toValue = items →
        ∃ document, SpellsValue (.tuple items) document := by
    rintro scalars _ attr hkind rfl
    exact exists_spellsSequence hkind
  cases attr with
  | string text => exact hscalar (.string text)
  | boolean truth => exact hscalar (.boolean truth)
  | long number => exact hscalar (.long number)
  | double number => exact hscalar (.double number)
  | strings items => exact hsequence (Attribute.ofScalars_strings items) List.map_map
  | booleans items =>
    cases items with
    | nil => exact ⟨_, .nothing⟩
    | cons item items => exact hsequence (Attribute.ofScalars_booleans item items) List.map_map
  | longs items =>
    cases items with
    | nil => exact ⟨_, .nothing⟩
    | cons item items => exact hsequence (Attribute.ofScalars_longs item items) List.map_map
  | doubles items =>
    cases items with
    | nil => exact ⟨_, .nothing⟩
    | cons item items => exact hsequence (Attribute.ofScalars_doubles item items) List.map_map

theorem exists_spellsAttributes {mapping : Mapping} (h : mapping.IsSpellable) :
    ∃ document, SpellsAttributes mapping document := by
  have hentry : ∀ entry ∈ mapping.entries, ∃ document, SpellsEntry entry document := by
    rintro ⟨key, value⟩ hmem
    obtain ⟨⟨text, hne, hkey⟩, attr, hvalue⟩ := h _ hmem
    obtain rfl : key = .str text := hkey
    obtain rfl : value = attr.toValue := hvalue
    obtain ⟨document, hdocument⟩ := exists_spellsValue attr
    exact ⟨.obj [("key", .str text), ("value", document)], .entry hne rfl rfl hdocument⟩
  obtain ⟨documents, hdocuments⟩ := exists_forall₂ hentry
  exact ⟨_, .list hdocuments⟩

theorem exists_spellsEvent {event : Event} (h : event.IsSpellable) :
    ∃ document, SpellsEvent event document := by
  obtain ⟨name, hname⟩ := h.name
  obtain ⟨attributes, hattributes⟩ := exists_spellsAttributes h.attributes
  exact ⟨.obj [("name", .str name), ("timeUnixNano", .int event.timestamp),
    ("attributes", attributes)], .event rfl hname .number hattributes⟩

theorem exists_spellsOptionalText {value : Value} (h : value.IsOptionalText) :
    ∃ document, SpellsOptionalText value document := by
  rcases h with rfl | ⟨text, hne, rfl⟩
  · exact ⟨_, .null⟩
  · exact ⟨_, .text hne⟩

theorem exists_spellsParent {parent : Option String} (h : ∀ id, parent = some id → id ≠ "") :
    ∃ document, SpellsParent parent document := by
  cases parent with
  | none => exact ⟨_, .null⟩
  | some id => exact ⟨_, .id (h id rfl)⟩

/-- A draft that can be spelled has a span that spells it. -/
theorem exists_spellsSpan {draft : SpanDraft} {attributes events : Int} (h : draft.IsSpellable)
    (hattributes : draft.totalAttributes = some attributes)
    (hevents : draft.totalEvents = some events) : ∃ members, SpellsSpan draft members := by
  obtain ⟨name, hname⟩ := h.name
  obtain ⟨kind, hkind⟩ := Option.ne_none_iff_exists'.1 h.kind
  obtain ⟨description, hdescription⟩ := h.description
  obtain ⟨parent, hparent⟩ := exists_spellsParent fun id hid ↦ (h.parentId id hid).1
  obtain ⟨attributeList, hattributeList⟩ := exists_spellsAttributes h.attributes
  obtain ⟨eventList, heventList⟩ := exists_forall₂ fun event hevent ↦
    exists_spellsEvent (h.events event hevent)
  refine ⟨[("traceId", .str draft.traceId), ("spanId", .str draft.spanId),
    ("parentSpanId", parent), ("name", .str name), ("kind", .int (kindNumber kind)),
    ("startTimeUnixNano", .int draft.start), ("endTimeUnixNano", .int draft.finish),
    ("attributes", attributeList), ("events", .arr eventList),
    ("droppedAttributesCount", .int (attributes - draft.attributes.size)),
    ("droppedEventsCount", .int (events - draft.events.length)),
    ("status", .obj [("code", .int (statusNumber draft.status.code)),
      ("message", .str description)])], ?_⟩
  exact {
    traceId := rfl
    spanId := rfl
    parentId := hparent
    name := ⟨name, rfl, hname⟩
    kind := ⟨kind, .number kind, hkind⟩
    start := .number
    finish := .number
    attributes := hattributeList
    events := ⟨eventList, rfl, heventList⟩
    totalAttributes := ⟨_, .number, by rw [hattributes, add_sub_cancel]⟩
    totalEvents := ⟨_, .number, by rw [hevents, add_sub_cancel]⟩
    status := .object (.number _) rfl hdescription }

theorem exists_spellsResource {draft : SpanDraft} {attributes events : Int} (h : draft.IsSpellable)
    (hattributes : draft.totalAttributes = some attributes)
    (hevents : draft.totalEvents = some events) : ∃ entry, SpellsResource draft entry := by
  obtain ⟨span, hspan⟩ := exists_spellsSpan h hattributes hevents
  obtain ⟨resource, hresource⟩ := exists_spellsAttributes h.resource
  obtain ⟨name, hname⟩ := h.scope.name
  obtain ⟨version, hversion⟩ := exists_spellsOptionalText h.scope.version
  obtain ⟨schema, hschema⟩ := exists_spellsOptionalText h.scope.schemaUrl
  exact ⟨.obj [("resource", .obj [("attributes", resource)]),
    ("scopeSpans", .arr [.obj [("scope", .obj [("name", .str name), ("version", version)]),
      ("schemaUrl", schema), ("spans", .arr [.obj span])]])],
    .resource rfl hresource rfl rfl (.object rfl rfl hname hversion hschema) rfl hspan⟩

/-! ### A spelling is read as what it spells -/

/-- The drafts of records become the records. -/
theorem mapM_check_toDraft (records : List SpanRecord) :
    ((records.map SpanRecord.toDraft).mapM fun draft ↦ draft.check.mapError OtlpError.record) =
      .ok records := by
  induction records with
  | nil => rfl
  | cons record records ih =>
    rw [List.map_cons, List.mapM_cons, record.check_toDraft, ih]
    rfl

/-- Records that OTLP can spell have a spelling, and each document that spells them is read as
exactly these records in their order. -/
theorem decode_spelling {records : List SpanRecord}
    (h : ∀ record ∈ records, record.toDraft.IsSpellable) :
    (∃ document, SpellsDocument records document) ∧
      ∀ document, SpellsDocument records document → decode document = .ok records := by
  constructor
  · obtain ⟨entries, hentries⟩ := exists_forall₂ fun record hrecord ↦
      exists_spellsResource (h record hrecord) rfl rfl
    exact ⟨.obj [("resourceSpans", .arr entries)], .document rfl hentries⟩
  · intro document hdocument
    cases hdocument with
    | document hresources hentries =>
      have hsmall : ∀ draft ∈ records.map SpanRecord.toDraft, IsSmall draft := by
        intro draft hdraft
        obtain ⟨record, hrecord, rfl⟩ := List.mem_map.1 hdraft
        exact isSmall_of_isSpellable (h record hrecord) record.traceId_ne_empty
          record.spanId_ne_empty
      rw [decode_of_spells hresources (List.forall₂_map_left_iff.2 hentries) hsmall]
      exact mapM_check_toDraft records

/-- A record with a parent, attributes of two kinds, a failure and a scope. -/
def spelledRecord : SpanRecord where
  traceId := "0a"
  spanId := "0b"
  name := .str "op"
  start := 1000
  finish := 2000
  parentId := some "0c"
  kind := some .client
  attributes := (Mapping.empty.insert (.str "n") (.int 7)).insert (.str "flags")
    (.tuple [.bool true, .bool false])
  totalAttributes := 5
  events := []
  totalEvents := 0
  status := { code := .error, description := .str "down" }
  resource := .empty
  scope := { name := .str "lib", version := .str "1" }
  spanId_ne_empty := by decide
  traceId_ne_empty := by decide
  start_le_finish := by decide
  attributes_le_total := by decide
  events_le_total := by decide

/-- A spelling of the record with texts and names where they may stand. -/
def spelledSpan : List (String × Json) :=
  [("traceId", .str "0a"), ("spanId", .str "0b"), ("parentSpanId", .str "0c"), ("name", .str "op"),
    ("kind", .str "span_kind_client"), ("startTimeUnixNano", .str "1000"),
    ("endTimeUnixNano", .int 2000),
    ("attributes", .arr
      [.obj [("key", .str "n"), ("value", .obj [("intValue", .str "7")])],
        .obj [("key", .str "flags"), ("value", .obj [("arrayValue", .obj [("values", .arr
          [.obj [("boolValue", .bool true)], .obj [("boolValue", .bool false)]])])])]]),
    ("droppedAttributesCount", .int 3),
    ("status", .obj [("message", .str "down"), ("code", .str "ERROR")])]

def spelledDocument : Json :=
  .obj [("resourceSpans", .arr [.obj [("scopeSpans", .arr [.obj
    [("scope", .obj [("name", .str "lib"), ("version", .str "1")]),
      ("spans", .arr [.obj spelledSpan])]])]])]

theorem isSpellable_spelledRecord : spelledRecord.toDraft.IsSpellable where
  traceId := by decide +kernel
  spanId := by decide +kernel
  parentId := by
    rintro _ ⟨⟩
    exact ⟨by decide, by decide +kernel⟩
  name := ⟨"op", rfl⟩
  kind := nofun
  attributes := by
    have hentries : spelledRecord.toDraft.attributes.entries =
        [(.str "n", .int 7), (.str "flags", .tuple [.bool true, .bool false])] := by
      decide
    intro entry hentry
    rw [hentries, List.mem_cons, List.mem_singleton] at hentry
    rcases hentry with rfl | rfl
    · exact ⟨⟨"n", by decide, rfl⟩, .long 7, rfl⟩
    · exact ⟨⟨"flags", by decide, rfl⟩, .booleans [true, false], rfl⟩
  events := nofun
  description := ⟨"down", rfl⟩
  resource := nofun
  scope := ⟨⟨"lib", rfl⟩, .inr ⟨"1", by decide, rfl⟩, .inl rfl⟩

theorem spellsSpan_spelledRecord : SpellsSpan spelledRecord.toDraft spelledSpan where
  traceId := rfl
  spanId := rfl
  parentId := .id (by decide)
  name := ⟨"op", rfl, rfl⟩
  kind := ⟨.client, .long (by decide +kernel), rfl⟩
  start := by
    have htext : Number.integerText 1000 = "1000" := by decide
    have hinteger : SpellsInteger 1000 (.str "1000") := htext ▸ SpellsInteger.text (by decide)
    exact hinteger
  finish := .number
  attributes := by
    have htext : Number.integerText 7 = "7" := by decide
    have hinteger : SpellsInteger 7 (.str "7") := htext ▸ SpellsInteger.text (by decide)
    have hflags : Attribute.ofScalars [.boolean true, .boolean false] =
        .ok (.booleans [true, false]) := by decide
    exact .list (.cons (.entry (by decide) rfl rfl (.scalar (.long hinteger)))
      (.cons (.entry (by decide) rfl rfl (.sequence hflags
        (.cons (.boolean true) (.cons (.boolean false) .nil)))) .nil))
  events := ⟨[], rfl, .nil⟩
  totalAttributes := ⟨3, .number, rfl⟩
  totalEvents := ⟨0, .number, rfl⟩
  status := .object (.short (by decide +kernel)) rfl rfl

theorem spellsDocument_spelledRecord : SpellsDocument [spelledRecord] spelledDocument :=
  .document rfl (.cons (.resource rfl (.list .nil) rfl rfl
    (.object rfl rfl rfl (.text (by decide)) .null) rfl spellsSpan_spelledRecord) .nil)

/-- A document with an integer beyond 53 bits and a long name of its kind is decoded to its record.
-/
theorem decode_spelledDocument :
    SpellsDocument [spelledRecord] spelledDocument ∧
      decode spelledDocument = .ok [spelledRecord] := by
  have hspellable : ∀ record ∈ [spelledRecord], record.toDraft.IsSpellable :=
    List.forall_mem_singleton.2 isSpellable_spelledRecord
  exact ⟨spellsDocument_spelledRecord,
    (decode_spelling hspellable).2 _ spellsDocument_spelledRecord⟩

end Otlp
end SpanBridge
