import SpanBridge.Proofs.Otlp.Draft

/-!
# Which records a document yields

A record is writable when every part of it that a span is made of can be written. All records of a
document whose integers are within the digit limit are writable (`isWritable_of_decode`). The proof
follows the document from the outside in: blocks, resources, spans and then the fields of a span.
-/

set_option autoImplicit false
set_option relaxedAutoImplicit false

namespace SpanBridge

/-- A value that has a document. -/
def Value.HasDocument (value : Value) : Prop := ∃ document, Json.ofValue value = .ok document

/-- A scope whose name and version have documents. -/
def Scope.IsWritable (scope : Scope) : Prop :=
  scope.name.HasDocument ∧ scope.version.HasDocument

/-- A record with a kind, whose texts have documents, whose attributes can be written and whose
numbers are within the digit limit. -/
structure SpanRecord.IsWritable (record : SpanRecord) : Prop where
  name : record.name.HasDocument
  kind : record.kind ≠ none
  attributes : record.attributes.IsWritable
  events : ∀ event ∈ record.events, event.attributes.IsWritable
  resource : record.resource.IsWritable
  scope : record.scope.IsWritable
  description : record.status.description.HasDocument
  start : Number.WithinLimit record.start
  finish : Number.WithinLimit record.finish
  droppedAttributes : Number.WithinLimit record.droppedAttributes
  droppedEvents : Number.WithinLimit record.droppedEvents

/-- The value of a bounded document can be written. -/
theorem Json.IsBounded.hasDocument {document : Json} (h : document.IsBounded) :
    document.toValue.HasDocument := ⟨document, Json.ofValue_toValue h⟩

/-- What stands in for a missing value can be written. -/
theorem Value.HasDocument.orNull {value : Value} (h : value.HasDocument) :
    value.orNull.HasDocument := by
  unfold Value.orNull
  split
  · exact h
  · exact ⟨.null, rfl⟩

theorem Scope.IsWritable.empty : Scope.empty.IsWritable := ⟨⟨.str "", rfl⟩, ⟨.null, rfl⟩⟩

namespace Otlp

/-! ### Blocks and resources -/

/-- A bounded document stays so when an empty object stands for what counts as false. -/
theorem isBounded_orEmptyObject {document : Json} (h : document.IsBounded) :
    (orEmptyObject document).IsBounded := by
  unfold orEmptyObject
  split
  · exact h
  · exact .obj (by simp)

theorem isWritable_of_decodeScope {library block : Json} {scope : Scope}
    (hlibrary : library.IsBounded) (h : decodeScope library block = .ok scope) :
    scope.IsWritable := by
  obtain ⟨name, version, schema, hname, hversion, -, rfl⟩ := decodeScope_eq_ok_iff.1 h
  have hname := Json.isBounded_of_memberOr hlibrary (.str "") hname
  have hversion := Json.isBounded_of_memberOr hlibrary .null hversion
  exact ⟨hname.hasDocument, hversion.hasDocument.orNull⟩

/-- A block with a writable scope and spans that are bounded. -/
def Block.IsWritable (block : Block) : Prop := block.scope.IsWritable ∧ block.spans.IsBounded

theorem isWritable_of_decodeScopeBlock {document : Json} {block : Block} (h : document.IsBounded)
    (hblock : decodeScopeBlock document = .ok block) : block.IsWritable := by
  obtain ⟨library, hlibrary, hscope, hspans⟩ := decodeScopeBlock_eq_ok_iff.1 hblock
  refine ⟨?_, Json.isBounded_of_memberOr h (.arr (by simp)) hspans⟩
  unfold scopeOf at hscope
  split at hscope
  · exact isWritable_of_decodeScope (Json.isBounded_of_memberOr h .null hlibrary) hscope
  · exact Except.ok.inj hscope ▸ .empty

theorem isWritable_of_decodeLibraryBlock {document : Json} {block : Block}
    (h : document.IsBounded) (hblock : decodeLibraryBlock document = .ok block) :
    block.IsWritable := by
  obtain ⟨library, hlibrary, hscope, hspans⟩ := decodeLibraryBlock_eq_ok_iff.1 hblock
  have hbounded := isBounded_orEmptyObject (Json.isBounded_of_memberOr h .null hlibrary)
  exact ⟨isWritable_of_decodeScope hbounded hscope,
    Json.isBounded_of_memberOr h (.arr (by simp)) hspans⟩

theorem isBounded_of_listMember {document : Json} {name : String} {items : List Json}
    (h : document.IsBounded) (hitems : listMember name document = .ok items) :
    ∀ item ∈ items, item.IsBounded := by
  obtain ⟨list, hlist, helements⟩ := listMember_eq_ok_iff.1 hitems
  exact Json.isBounded_of_elements (Json.isBounded_of_memberOr h (.arr (by simp)) hlist) helements

theorem isWritable_of_decodeBlocks {entry : Json} {blocks : List Block} (h : entry.IsBounded)
    (hblocks : decodeBlocks entry = .ok blocks) : ∀ block ∈ blocks, block.IsWritable := by
  obtain ⟨currentItems, current, formerItems, former, hcurrentItems, hcurrent, hformerItems,
    hformer, rfl⟩ := decodeBlocks_eq_ok_iff.1 hblocks
  intro block hblock
  rcases List.mem_append.1 hblock with hblock | hblock
  · obtain ⟨item, hitem, hdecoded⟩ := exists_mem_of_mapM_eq_ok hcurrent hblock
    exact isWritable_of_decodeScopeBlock (isBounded_of_listMember h hcurrentItems item hitem)
      hdecoded
  · obtain ⟨item, hitem, hdecoded⟩ := exists_mem_of_mapM_eq_ok hformer hblock
    exact isWritable_of_decodeLibraryBlock (isBounded_of_listMember h hformerItems item hitem)
      hdecoded

theorem isWritable_of_decodeEntryHead {entry : Json} {resource : Mapping} {blocks : List Block}
    (h : entry.IsBounded) (hhead : decodeEntryHead entry = .ok (resource, blocks)) :
    resource.IsWritable ∧ ∀ block ∈ blocks, block.IsWritable := by
  obtain ⟨member, list, hmember, hlist, hattributes, hblocks⟩ :=
    decodeEntryHead_eq_ok_iff.1 hhead
  have hmember := Json.isBounded_of_memberOr h (.obj (by simp)) hmember
  have hlist := Json.isBounded_of_memberOr hmember (.arr (by simp)) hlist
  exact ⟨isWritable_of_decodeAttributes hlist hattributes, isWritable_of_decodeBlocks h hblocks⟩

/-! ### Spans -/

theorem isWritable_of_decodeEvent {document : Json} {event : Event} (h : document.IsBounded)
    (hevent : decodeEvent document = .ok event) : event.attributes.IsWritable := by
  obtain ⟨_, _, attributes, -, -, -, -, hattributes, hdecoded⟩ := decodeEvent_eq_ok_iff.1 hevent
  exact isWritable_of_decodeAttributes
    (Json.isBounded_of_memberOr h (.arr (by simp)) hattributes) hdecoded

/-- An integer member of a bounded span keeps within the limit on digits. -/
theorem withinLimit_of_integerMember {span : Json} {name : String} {number : Int}
    (h : span.IsBounded) (hnumber : integerMember name span = .ok number) :
    Number.WithinLimit number := by
  obtain ⟨member, hmember, hinteger⟩ := integerMember_eq_ok_iff.1 hnumber
  exact Json.withinLimit_of_toInteger
    (Json.isBounded_of_memberOr h (.int (by decide)) hmember) hinteger

theorem hasDocument_of_decodeStatus {document : Json} {status : Status} (h : document.IsBounded)
    (hstatus : decodeStatus document = .ok status) : status.description.HasDocument := by
  obtain ⟨_, message, -, -, hmessage, hdescription⟩ := decodeStatus_eq_ok_iff.1 hstatus
  rw [hdescription]
  split
  · exact (Json.isBounded_of_memberOr h .null hmessage).hasDocument
  · exact ⟨.str "", rfl⟩

/-- A record of a bounded span under a writable resource and scope is writable. -/
theorem isWritable_of_decodeSpan {resource : Mapping} {scope : Scope} {span : Json}
    {record : SpanRecord} (h : span.IsBounded) (hresource : resource.IsWritable)
    (hscope : scope.IsWritable) (hrecord : decodeSpan resource scope span = .ok record) :
    record.IsWritable := by
  have hmembers := decodeSpan_eq_ok_iff.1 hrecord
  obtain ⟨attributeList, hattributeList, hattributes⟩ := hmembers.attributes
  obtain ⟨eventList, eventItems, heventList, heventItems, hevents⟩ := hmembers.events
  obtain ⟨name, hname, hnameEq⟩ := hmembers.name
  obtain ⟨_, kind, -, -, hkind⟩ := hmembers.kind
  obtain ⟨statusMember, hstatusMember, hstatus⟩ := hmembers.status
  have hnameValue : record.name = name.toValue := hnameEq
  have hkindValue : record.kind = some kind := hkind
  have hresourceValue : record.resource = resource := hmembers.resource
  have hscopeValue : record.scope = scope := hmembers.scope
  have heventsBounded : ∀ event ∈ record.events, event.attributes.IsWritable := by
    intro event hevent
    obtain ⟨item, hitem, hdecoded⟩ := exists_mem_of_mapM_eq_ok hevents hevent
    have hlist := Json.isBounded_of_memberOr h (.arr (by simp)) heventList
    exact isWritable_of_decodeEvent (Json.isBounded_of_elements hlist heventItems item hitem)
      hdecoded
  exact {
    name := hnameValue ▸ (Json.isBounded_of_memberOr h (.str "") hname).hasDocument
    kind := by simp [hkindValue]
    attributes := isWritable_of_decodeAttributes
      (Json.isBounded_of_memberOr h (.arr (by simp)) hattributeList) hattributes
    events := heventsBounded
    resource := hresourceValue ▸ hresource
    scope := hscopeValue ▸ hscope
    description := hasDocument_of_decodeStatus
      (isBounded_orEmptyObject (Json.isBounded_of_memberOr h .null hstatusMember)) hstatus
    start := withinLimit_of_integerMember h hmembers.start
    finish := withinLimit_of_integerMember h hmembers.finish
    droppedAttributes := withinLimit_of_integerMember h hmembers.droppedAttributes
    droppedEvents := withinLimit_of_integerMember h hmembers.droppedEvents }

/-- All records of a bounded document are writable. -/
theorem isWritable_of_decode {document : Json} {records : List SpanRecord}
    (h : document.IsBounded) (hdecode : decode document = .ok records) :
    ∀ record ∈ records, record.IsWritable := by
  obtain ⟨resources, entries, lists, hresources, hentries, hlists, rfl⟩ :=
    decode_eq_ok_iff.1 hdecode
  have hresourcesBounded : resources.IsBounded := by
    cases document with
    | obj members => exact h.of_lookup hresources
    | _ => cases hresources
  intro record hrecord
  obtain ⟨list, hlist, hrecord⟩ := List.mem_flatten.1 hrecord
  obtain ⟨entry, hentry, hresource⟩ := exists_mem_of_mapM_eq_ok hlists hlist
  obtain ⟨resource, blocks, lists, hhead, hblocks, rfl⟩ := decodeResource_eq_ok_iff.1 hresource
  obtain ⟨hwritable, hblocksWritable⟩ := isWritable_of_decodeEntryHead
    (Json.isBounded_of_elements hresourcesBounded hentries entry hentry) hhead
  obtain ⟨list, hlist, hrecord⟩ := List.mem_flatten.1 hrecord
  obtain ⟨block, hblock, hspans⟩ := exists_mem_of_mapM_eq_ok hblocks hlist
  obtain ⟨spans, helements, hspans⟩ := decodeBlock_eq_ok_iff.1 hspans
  obtain ⟨span, hspan, hdecoded⟩ := exists_mem_of_mapM_eq_ok hspans hrecord
  obtain ⟨hscope, hbounded⟩ := hblocksWritable block hblock
  exact isWritable_of_decodeSpan (Json.isBounded_of_elements hbounded helements span hspan)
    hwritable hscope hdecoded

end Otlp
end SpanBridge
