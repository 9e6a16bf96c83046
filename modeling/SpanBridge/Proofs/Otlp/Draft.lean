import SpanBridge.Otlp.Document
import SpanBridge.Proofs.Otlp.AnyValue
import SpanBridge.Proofs.Record

/-!
# What a span of a document says

`IsDraftOf` relates the members of a span to the draft that is read from it, field by field, and
`decodeDraft_eq_ok_iff` says that reading yields exactly such drafts. Events, scopes, blocks and
resources have a lemma of this form each, so that nothing else needs to follow the order in which a
document is read.
-/

set_option autoImplicit false
set_option relaxedAutoImplicit false

namespace SpanBridge.Otlp

/-! ### Parts of a span -/

/-- An event is decoded exactly when its three members are. -/
theorem decodeEvent_eq_ok_iff {document : Json} {event : Event} :
    decodeEvent document = .ok event ↔
      ∃ name time attributes, document.memberOr "name" (.str "") = .ok name ∧
        event.name = name.toValue ∧ document.memberOr "timeUnixNano" (.int 0) = .ok time ∧
        time.toInteger = .ok event.timestamp ∧
        document.memberOr "attributes" (.arr []) = .ok attributes ∧
        decodeAttributes attributes = .ok event.attributes := by
  obtain ⟨eventName, timestamp, eventAttributes⟩ := event
  simp only [decodeEvent, bind_eq_ok_iff, ask_eq_ok_iff, pure_eq_ok, Except.ok.injEq,
    Event.mk.injEq]
  constructor
  · rintro ⟨name, hname, time, htime, _, hinteger, attributes, hattributes, _, hdecoded, rfl, rfl,
      rfl⟩
    exact ⟨name, time, attributes, hname, rfl, htime, hinteger, hattributes, hdecoded⟩
  · rintro ⟨name, time, attributes, hname, rfl, htime, hinteger, hattributes, hdecoded⟩
    exact ⟨name, hname, time, htime, _, hinteger, attributes, hattributes, _, hdecoded, rfl, rfl,
      rfl⟩

/-- An integer member is read exactly when there is an integer in its place. -/
theorem integerMember_eq_ok_iff {span : Json} {name : String} {number : Int} :
    integerMember name span = .ok number ↔
      ∃ member, span.memberOr name (.int 0) = .ok member ∧ member.toInteger = .ok number := by
  simp only [integerMember, bind_eq_ok_iff, ask_eq_ok_iff]

/-- A status is decoded exactly when its code is, with the message beside it. -/
theorem decodeStatus_eq_ok_iff {document : Json} {status : Status} :
    decodeStatus document = .ok status ↔
      ∃ code message, document.memberOr "code" (.int 0) = .ok code ∧
        decodeStatusCode code = .ok status.code ∧
        document.memberOr "message" .null = .ok message ∧
        status.description = if message.isTruthy then message.toValue else .str "" := by
  obtain ⟨statusCode, description⟩ := status
  simp only [decodeStatus, bind_eq_ok_iff, ask_eq_ok_iff, pure_eq_ok, Except.ok.injEq,
    Status.mk.injEq]
  constructor
  · rintro ⟨code, hcode, _, hdecoded, message, hmessage, rfl, rfl⟩
    exact ⟨code, message, hcode, hdecoded, hmessage, rfl⟩
  · rintro ⟨code, message, hcode, hdecoded, hmessage, rfl⟩
    exact ⟨code, hcode, _, hdecoded, message, hmessage, rfl, rfl⟩

/-- The identifier of a parent. What is not present names none. -/
def parentOf (document : Json) : Except DocumentError (Option String) :=
  if document.isTruthy then some <$> ask document.small else .ok none

/-! ### Drafts -/

/-- A draft that holds what the members of a span say, with the resource and the scope that the span
stands under. -/
structure IsDraftOf (resource : Mapping) (scope : Scope) (span : Json) (draft : SpanDraft) :
    Prop where
  traceId : ∃ id, span.memberOr "traceId" .null = .ok id ∧ id.isTruthy = true ∧
    id.small = .ok draft.traceId
  spanId : ∃ id, span.memberOr "spanId" .null = .ok id ∧ id.isTruthy = true ∧
    id.small = .ok draft.spanId
  parentId : ∃ id, span.memberOr "parentSpanId" .null = .ok id ∧ parentOf id = .ok draft.parentId
  attributes : ∃ list, span.memberOr "attributes" (.arr []) = .ok list ∧
    decodeAttributes list = .ok draft.attributes
  events : ∃ list items, span.memberOr "events" (.arr []) = .ok list ∧ list.elements = .ok items ∧
    items.mapM decodeEvent = .ok draft.events
  name : ∃ name, span.memberOr "name" (.str "") = .ok name ∧ draft.name = name.toValue
  kind : ∃ document kind, span.memberOr "kind" .null = .ok document ∧
    decodeKind document = .ok kind ∧ draft.kind = some kind
  start : integerMember "startTimeUnixNano" span = .ok draft.start
  finish : integerMember "endTimeUnixNano" span = .ok draft.finish
  totalAttributes : ∃ dropped, integerMember "droppedAttributesCount" span = .ok dropped ∧
    draft.totalAttributes = some (draft.attributes.size + dropped)
  totalEvents : ∃ dropped, integerMember "droppedEventsCount" span = .ok dropped ∧
    draft.totalEvents = some (draft.events.length + dropped)
  status : ∃ document, span.memberOr "status" .null = .ok document ∧
    decodeStatus (orEmptyObject document) = .ok draft.status
  resource : draft.resource = resource
  scope : draft.scope = scope

/-- The draft decoded from a span is a draft of it. -/
theorem IsDraftOf.of_decodeDraft {resource : Mapping} {scope : Scope} {span : Json}
    {draft : SpanDraft} (h : decodeDraft resource scope span = .ok draft) :
    IsDraftOf resource scope span draft := by
  obtain ⟨traceId, htraceId, h⟩ := bind_eq_ok_iff.1 h
  obtain ⟨spanId, hspanId, h⟩ := bind_eq_ok_iff.1 h
  obtain ⟨hpresent, h⟩ := refuse_eq_ok_iff.1 h
  obtain ⟨parentId, hparentId, h⟩ := bind_eq_ok_iff.1 h
  obtain ⟨attributeList, hattributeList, h⟩ := bind_eq_ok_iff.1 h
  obtain ⟨attributes, hattributes, h⟩ := bind_eq_ok_iff.1 h
  obtain ⟨eventList, heventList, h⟩ := bind_eq_ok_iff.1 h
  obtain ⟨eventItems, heventItems, h⟩ := bind_eq_ok_iff.1 h
  obtain ⟨events, hevents, h⟩ := bind_eq_ok_iff.1 h
  obtain ⟨smallTraceId, hsmallTraceId, h⟩ := bind_eq_ok_iff.1 h
  obtain ⟨smallSpanId, hsmallSpanId, h⟩ := bind_eq_ok_iff.1 h
  obtain ⟨parent, hparent, h⟩ := choose_bind_eq_ok_iff.1 h
  obtain ⟨name, hname, h⟩ := bind_eq_ok_iff.1 h
  obtain ⟨kindMember, hkindMember, h⟩ := bind_eq_ok_iff.1 h
  obtain ⟨kind, hkind, h⟩ := bind_eq_ok_iff.1 h
  obtain ⟨start, hstart, h⟩ := bind_eq_ok_iff.1 h
  obtain ⟨finish, hfinish, h⟩ := bind_eq_ok_iff.1 h
  obtain ⟨droppedAttributes, hdroppedAttributes, h⟩ := bind_eq_ok_iff.1 h
  obtain ⟨droppedEvents, hdroppedEvents, h⟩ := bind_eq_ok_iff.1 h
  obtain ⟨statusMember, hstatusMember, h⟩ := bind_eq_ok_iff.1 h
  obtain ⟨status, hstatus, h⟩ := bind_eq_ok_iff.1 h
  obtain rfl := Except.ok.inj h
  simp only [Bool.or_eq_true, Bool.not_eq_true', not_or, Bool.not_eq_false] at hpresent
  exact {
    traceId := ⟨traceId, ask_eq_ok_iff.1 htraceId, hpresent.1, ask_eq_ok_iff.1 hsmallTraceId⟩
    spanId := ⟨spanId, ask_eq_ok_iff.1 hspanId, hpresent.2, ask_eq_ok_iff.1 hsmallSpanId⟩
    parentId := ⟨parentId, ask_eq_ok_iff.1 hparentId, hparent⟩
    attributes := ⟨attributeList, ask_eq_ok_iff.1 hattributeList, hattributes⟩
    events := ⟨eventList, eventItems, ask_eq_ok_iff.1 heventList, ask_eq_ok_iff.1 heventItems,
      hevents⟩
    name := ⟨name, ask_eq_ok_iff.1 hname, rfl⟩
    kind := ⟨kindMember, kind, ask_eq_ok_iff.1 hkindMember, hkind, rfl⟩
    start := hstart
    finish := hfinish
    totalAttributes := ⟨droppedAttributes, hdroppedAttributes, rfl⟩
    totalEvents := ⟨droppedEvents, hdroppedEvents, rfl⟩
    status := ⟨statusMember, ask_eq_ok_iff.1 hstatusMember, hstatus⟩
    resource := rfl
    scope := rfl }

/-- A span is decoded as the draft of it. -/
theorem IsDraftOf.decodeDraft_eq {resource : Mapping} {scope : Scope} {span : Json}
    {draft : SpanDraft} (h : IsDraftOf resource scope span draft) :
    decodeDraft resource scope span = .ok draft := by
  obtain ⟨traceId, htraceId, htrace, hsmallTraceId⟩ := h.traceId
  obtain ⟨spanId, hspanId, hspan, hsmallSpanId⟩ := h.spanId
  obtain ⟨parentId, hparentId, hparent⟩ := h.parentId
  obtain ⟨attributeList, hattributeList, hattributes⟩ := h.attributes
  obtain ⟨eventList, eventItems, heventList, heventItems, hevents⟩ := h.events
  obtain ⟨name, hname, hnameEq⟩ := h.name
  obtain ⟨kindMember, kind, hkindMember, hkind, hkindEq⟩ := h.kind
  obtain ⟨droppedAttributes, hdroppedAttributes, htotalAttributes⟩ := h.totalAttributes
  obtain ⟨droppedEvents, hdroppedEvents, htotalEvents⟩ := h.totalEvents
  obtain ⟨statusMember, hstatusMember, hstatus⟩ := h.status
  have hpresent : ¬(!traceId.isTruthy || !spanId.isTruthy) = true := by simp [htrace, hspan]
  refine bind_eq_ok_iff.2 ⟨traceId, ask_eq_ok_iff.2 htraceId, ?_⟩
  refine bind_eq_ok_iff.2 ⟨spanId, ask_eq_ok_iff.2 hspanId, ?_⟩
  refine refuse_eq_ok_iff.2 ⟨hpresent, ?_⟩
  refine bind_eq_ok_iff.2 ⟨parentId, ask_eq_ok_iff.2 hparentId, ?_⟩
  refine bind_eq_ok_iff.2 ⟨attributeList, ask_eq_ok_iff.2 hattributeList, ?_⟩
  refine bind_eq_ok_iff.2 ⟨draft.attributes, hattributes, ?_⟩
  refine bind_eq_ok_iff.2 ⟨eventList, ask_eq_ok_iff.2 heventList, ?_⟩
  refine bind_eq_ok_iff.2 ⟨eventItems, ask_eq_ok_iff.2 heventItems, ?_⟩
  refine bind_eq_ok_iff.2 ⟨draft.events, hevents, ?_⟩
  refine bind_eq_ok_iff.2 ⟨draft.traceId, ask_eq_ok_iff.2 hsmallTraceId, ?_⟩
  refine bind_eq_ok_iff.2 ⟨draft.spanId, ask_eq_ok_iff.2 hsmallSpanId, ?_⟩
  refine choose_bind_eq_ok_iff.2 ⟨draft.parentId, hparent, ?_⟩
  refine bind_eq_ok_iff.2 ⟨name, ask_eq_ok_iff.2 hname, ?_⟩
  refine bind_eq_ok_iff.2 ⟨kindMember, ask_eq_ok_iff.2 hkindMember, ?_⟩
  refine bind_eq_ok_iff.2 ⟨kind, hkind, ?_⟩
  refine bind_eq_ok_iff.2 ⟨draft.start, h.start, ?_⟩
  refine bind_eq_ok_iff.2 ⟨draft.finish, h.finish, ?_⟩
  refine bind_eq_ok_iff.2 ⟨droppedAttributes, hdroppedAttributes, ?_⟩
  refine bind_eq_ok_iff.2 ⟨droppedEvents, hdroppedEvents, ?_⟩
  refine bind_eq_ok_iff.2 ⟨statusMember, ask_eq_ok_iff.2 hstatusMember, ?_⟩
  refine bind_eq_ok_iff.2 ⟨draft.status, hstatus, ?_⟩
  rw [pure_eq_ok, ← hnameEq, ← hkindEq, ← htotalAttributes, ← htotalEvents, ← h.resource,
    ← h.scope]

/-- Reading a span yields exactly the drafts that hold what its members say. -/
theorem decodeDraft_eq_ok_iff {resource : Mapping} {scope : Scope} {span : Json}
    {draft : SpanDraft} :
    decodeDraft resource scope span = .ok draft ↔ IsDraftOf resource scope span draft :=
  ⟨.of_decodeDraft, IsDraftOf.decodeDraft_eq⟩

/-- Reading a span yields exactly the records that give what its members say. -/
theorem decodeSpan_eq_ok_iff {resource : Mapping} {scope : Scope} {span : Json}
    {record : SpanRecord} :
    decodeSpan resource scope span = .ok record ↔
      IsDraftOf resource scope span record.toDraft := by
  rw [decodeSpan, bind_eq_ok_iff]
  constructor
  · rintro ⟨draft, hdraft, hcheck⟩
    have hmembers := decodeDraft_eq_ok_iff.1 (mapError_eq_ok_iff.1 hdraft)
    obtain ⟨_, -, hattributes⟩ := hmembers.totalAttributes
    obtain ⟨_, -, hevents⟩ := hmembers.totalEvents
    rwa [← (SpanDraft.check_eq_ok_iff hattributes hevents).1 (mapError_eq_ok_iff.1 hcheck)]
  · intro h
    exact ⟨record.toDraft, mapError_eq_ok_iff.2 (decodeDraft_eq_ok_iff.2 h),
      mapError_eq_ok_iff.2 record.check_toDraft⟩

/-- The dropped attributes of a record are those that its span counts. -/
theorem IsDraftOf.droppedAttributes {resource : Mapping} {scope : Scope} {span : Json}
    {record : SpanRecord} (h : IsDraftOf resource scope span record.toDraft) :
    integerMember "droppedAttributesCount" span = .ok record.droppedAttributes := by
  obtain ⟨dropped, hdropped, htotal⟩ := h.totalAttributes
  have hcount : record.droppedAttributes = dropped := sub_eq_of_eq_add' (Option.some.inj htotal)
  rw [hdropped, hcount]

/-- The dropped events of a record are those that its span counts. -/
theorem IsDraftOf.droppedEvents {resource : Mapping} {scope : Scope} {span : Json}
    {record : SpanRecord} (h : IsDraftOf resource scope span record.toDraft) :
    integerMember "droppedEventsCount" span = .ok record.droppedEvents := by
  obtain ⟨dropped, hdropped, htotal⟩ := h.totalEvents
  have hcount : record.droppedEvents = dropped := sub_eq_of_eq_add' (Option.some.inj htotal)
  rw [hdropped, hcount]

/-! ### Blocks -/

/-- A scope is decoded exactly when its name, its version and its schema are read. -/
theorem decodeScope_eq_ok_iff {library block : Json} {scope : Scope} :
    decodeScope library block = .ok scope ↔
      ∃ name version schema, library.memberOr "name" (.str "") = .ok name ∧
        library.memberOr "version" .null = .ok version ∧
        block.memberOr "schemaUrl" .null = .ok schema ∧
        scope = ⟨name.toValue, version.toValue.orNull, schema.toValue.orNull⟩ := by
  simp only [decodeScope, bind_eq_ok_iff, ask_eq_ok_iff, pure_eq_ok, Except.ok.injEq]
  constructor
  · rintro ⟨name, hname, version, hversion, schema, hschema, rfl⟩
    exact ⟨name, version, schema, hname, hversion, hschema, rfl⟩
  · rintro ⟨name, version, schema, hname, hversion, hschema, rfl⟩
    exact ⟨name, hname, version, hversion, schema, hschema, rfl⟩

/-- The scope of a block of the current layout. -/
def scopeOf (library block : Json) : Except DocumentError Scope :=
  if library.isTruthy then decodeScope library block else .ok .empty

theorem decodeScopeBlock_eq_ok_iff {document : Json} {block : Block} :
    decodeScopeBlock document = .ok block ↔
      ∃ library, document.memberOr "scope" .null = .ok library ∧
        scopeOf library document = .ok block.scope ∧
        document.memberOr "spans" (.arr []) = .ok block.spans := by
  constructor
  · intro h
    obtain ⟨library, hlibrary, h⟩ := bind_eq_ok_iff.1 h
    obtain ⟨scope, hscope, h⟩ := choose_bind_eq_ok_iff.1 h
    obtain ⟨spans, hspans, h⟩ := bind_eq_ok_iff.1 h
    obtain rfl := Except.ok.inj h
    exact ⟨library, ask_eq_ok_iff.1 hlibrary, hscope, ask_eq_ok_iff.1 hspans⟩
  · rintro ⟨library, hlibrary, hscope, hspans⟩
    refine bind_eq_ok_iff.2 ⟨library, ask_eq_ok_iff.2 hlibrary, ?_⟩
    refine choose_bind_eq_ok_iff.2 ⟨block.scope, hscope, ?_⟩
    exact bind_eq_ok_iff.2 ⟨block.spans, ask_eq_ok_iff.2 hspans, rfl⟩

theorem decodeLibraryBlock_eq_ok_iff {document : Json} {block : Block} :
    decodeLibraryBlock document = .ok block ↔
      ∃ library, document.memberOr "instrumentationLibrary" .null = .ok library ∧
        decodeScope (orEmptyObject library) document = .ok block.scope ∧
        document.memberOr "spans" (.arr []) = .ok block.spans := by
  constructor
  · intro h
    obtain ⟨library, hlibrary, h⟩ := bind_eq_ok_iff.1 h
    obtain ⟨scope, hscope, h⟩ := bind_eq_ok_iff.1 h
    obtain ⟨spans, hspans, h⟩ := bind_eq_ok_iff.1 h
    obtain rfl := Except.ok.inj h
    exact ⟨library, ask_eq_ok_iff.1 hlibrary, hscope, ask_eq_ok_iff.1 hspans⟩
  · rintro ⟨library, hlibrary, hscope, hspans⟩
    refine bind_eq_ok_iff.2 ⟨library, ask_eq_ok_iff.2 hlibrary, ?_⟩
    refine bind_eq_ok_iff.2 ⟨block.scope, hscope, ?_⟩
    exact bind_eq_ok_iff.2 ⟨block.spans, ask_eq_ok_iff.2 hspans, rfl⟩

/-- The items of the list that an object holds under a name, none when it is not there. -/
def listMember (name : String) (document : Json) : Except DocumentError (List Json) := do
  ask (← ask (document.memberOr name (.arr []))).elements

/-- A list member is read exactly when there is a list in its place, or none. -/
theorem listMember_eq_ok_iff {name : String} {document : Json} {items : List Json} :
    listMember name document = .ok items ↔
      ∃ list, document.memberOr name (.arr []) = .ok list ∧ list.elements = .ok items := by
  simp only [listMember, bind_eq_ok_iff, ask_eq_ok_iff]

/-- The blocks of an entry are decoded exactly when those of both layouts are. -/
theorem decodeBlocks_eq_ok_iff {entry : Json} {blocks : List Block} :
    decodeBlocks entry = .ok blocks ↔
      ∃ currentItems current formerItems former,
        listMember "scopeSpans" entry = .ok currentItems ∧
        currentItems.mapM decodeScopeBlock = .ok current ∧
        listMember "instrumentationLibrarySpans" entry = .ok formerItems ∧
        formerItems.mapM decodeLibraryBlock = .ok former ∧ blocks = current ++ former := by
  simp only [decodeBlocks, listMember, bind_eq_ok_iff, pure_eq_ok, Except.ok.injEq]
  constructor
  · rintro ⟨currentList, hcurrentList, currentItems, hcurrentItems, current, hcurrent, formerList,
      hformerList, formerItems, hformerItems, former, hformer, rfl⟩
    exact ⟨currentItems, current, formerItems, former, ⟨currentList, hcurrentList, hcurrentItems⟩,
      hcurrent, ⟨formerList, hformerList, hformerItems⟩, hformer, rfl⟩
  · rintro ⟨currentItems, current, formerItems, former, ⟨currentList, hcurrentList, hcurrentItems⟩,
      hcurrent, ⟨formerList, hformerList, hformerItems⟩, hformer, rfl⟩
    exact ⟨currentList, hcurrentList, currentItems, hcurrentItems, current, hcurrent, formerList,
      hformerList, formerItems, hformerItems, former, hformer, rfl⟩

/-- The head of an entry is decoded exactly when its attributes and blocks are. -/
theorem decodeEntryHead_eq_ok_iff {entry : Json} {attributes : Mapping} {blocks : List Block} :
    decodeEntryHead entry = .ok (attributes, blocks) ↔
      ∃ resource list, entry.memberOr "resource" (.obj []) = .ok resource ∧
        resource.memberOr "attributes" (.arr []) = .ok list ∧
        decodeAttributes list = .ok attributes ∧ decodeBlocks entry = .ok blocks := by
  simp only [decodeEntryHead, bind_eq_ok_iff, ask_eq_ok_iff, pure_eq_ok, Except.ok.injEq,
    Prod.mk.injEq]
  constructor
  · rintro ⟨resource, hresource, list, hlist, _, hattributes, _, hblocks, rfl, rfl⟩
    exact ⟨resource, list, hresource, hlist, hattributes, hblocks⟩
  · rintro ⟨resource, list, hresource, hlist, hattributes, hblocks⟩
    exact ⟨resource, hresource, list, hlist, _, hattributes, _, hblocks, rfl, rfl⟩

/-! ### Records -/

theorem decodeBlock_eq_ok_iff {resource : Mapping} {block : Block} {records : List SpanRecord} :
    decodeBlock resource block = .ok records ↔
      ∃ spans, block.spans.elements = .ok spans ∧
        spans.mapM (decodeSpan resource block.scope) = .ok records := by
  simp only [decodeBlock, bind_eq_ok_iff, mapError_eq_ok_iff, ask_eq_ok_iff]

theorem decodeResource_eq_ok_iff {entry : Json} {records : List SpanRecord} :
    decodeResource entry = .ok records ↔
      ∃ resource blocks lists, decodeEntryHead entry = .ok (resource, blocks) ∧
        blocks.mapM (decodeBlock resource) = .ok lists ∧ records = lists.flatten := by
  simp only [decodeResource, bind_eq_ok_iff, mapError_eq_ok_iff, pure_eq_ok, Except.ok.injEq,
    Prod.exists]
  constructor
  · rintro ⟨resource, blocks, hhead, lists, hlists, rfl⟩
    exact ⟨resource, blocks, lists, hhead, hlists, rfl⟩
  · rintro ⟨resource, blocks, lists, hhead, hlists, rfl⟩
    exact ⟨resource, blocks, hhead, lists, hlists, rfl⟩

/-- A document is decoded exactly when it lists resources and all of them are decoded. -/
theorem decode_eq_ok_iff {document : Json} {records : List SpanRecord} :
    decode document = .ok records ↔
      ∃ resources entries lists, resourceSpans? document = some resources ∧
        resources.elements = .ok entries ∧ entries.mapM decodeResource = .ok lists ∧
        records = lists.flatten := by
  unfold decode
  cases hresources : resourceSpans? document with
  | none => simp [throw_eq_error]
  | some resources =>
    simp only [bind_eq_ok_iff, mapError_eq_ok_iff, ask_eq_ok_iff, pure_eq_ok, Except.ok.injEq,
      Option.some.injEq]
    constructor
    · rintro ⟨entries, hentries, lists, hlists, rfl⟩
      exact ⟨resources, entries, lists, rfl, hentries, hlists, rfl⟩
    · rintro ⟨_, entries, lists, rfl, hentries, hlists, rfl⟩
      exact ⟨entries, hentries, lists, hlists, rfl⟩

end SpanBridge.Otlp
