import SpanBridge.Proofs.Attribute
import SpanBridge.Proofs.Conversion
import SpanBridge.Proofs.Record

/-!
# Lists and tuples in records

Attributes may hold a sequence as a list or as a tuple. `SpanRecord.frozen` turns every list among
the attributes of a record into a tuple. The conversion does not see the difference
(`withoutAddress_frozen`), and neither does the check of a draft (`check_frozen`).
-/

set_option autoImplicit false
set_option relaxedAutoImplicit false

namespace SpanBridge

/-- A mapping with its lists as tuples. -/
def Mapping.frozen (mapping : Mapping) : Mapping where
  entries := mapping.entries.map fun entry ↦ (entry.1, entry.2.frozen)
  distinct := by
    rw [Entries.Distinct, List.pairwise_map]
    exact mapping.distinct

/-- An event with the lists among its attributes as tuples. -/
def Event.frozen (event : Event) : Event := { event with attributes := event.attributes.frozen }

/-- A draft with the lists among its attributes as tuples. -/
def SpanDraft.frozen (draft : SpanDraft) : SpanDraft :=
  { draft with
    attributes := draft.attributes.frozen
    events := draft.events.map Event.frozen
    resource := draft.resource.frozen }

namespace Mapping

@[simp] theorem entries_frozen (mapping : Mapping) :
    mapping.frozen.entries = mapping.entries.map fun entry ↦ (entry.1, entry.2.frozen) := rfl

@[simp] theorem size_frozen (mapping : Mapping) : mapping.frozen.size = mapping.size :=
  List.length_map _

/-- What is found in a frozen mapping is the frozen value. -/
theorem find?_frozen (mapping : Mapping) (key : Value) :
    mapping.frozen.find? key = (mapping.find? key).map Value.frozen := by
  simp only [find?, Entries.find?, entries_frozen, List.find?_map, Option.map_map]
  rfl

end Mapping

/-- A record with the lists among its attributes as tuples. -/
def SpanRecord.frozen (record : SpanRecord) : SpanRecord :=
  { record with
    attributes := record.attributes.frozen
    events := record.events.map Event.frozen
    resource := record.resource.frozen
    attributes_le_total := by
      rw [Mapping.size_frozen]
      exact record.attributes_le_total
    events_le_total := by
      rw [List.length_map]
      exact record.events_le_total }

/-! ### Fields -/

@[simp] theorem SpanDraft.attributes_frozen (draft : SpanDraft) :
    draft.frozen.attributes = draft.attributes.frozen := rfl

@[simp] theorem SpanDraft.events_frozen (draft : SpanDraft) :
    draft.frozen.events = draft.events.map Event.frozen := rfl

@[simp] theorem SpanRecord.attributes_frozen (record : SpanRecord) :
    record.frozen.attributes = record.attributes.frozen := rfl

@[simp] theorem SpanRecord.resource_frozen (record : SpanRecord) :
    record.frozen.resource = record.resource.frozen := rfl

/-! ### Checks -/

/-- Freezing does not change how many attributes there were. -/
theorem SpanDraft.attributeTotal_frozen (draft : SpanDraft) :
    draft.frozen.attributeTotal = draft.attributeTotal := by
  simp [attributeTotal, frozen]

/-- Freezing does not change how many events there were. -/
theorem SpanDraft.eventTotal_frozen (draft : SpanDraft) :
    draft.frozen.eventTotal = draft.eventTotal := by
  simp [eventTotal, frozen]

/-- Freezing a draft freezes its record and keeps its error. -/
theorem SpanDraft.check_frozen (draft : SpanDraft) :
    draft.frozen.check = SpanRecord.frozen <$> draft.check := by
  have hattributes : draft.frozen.attributeTotal < draft.frozen.attributes.size ↔
      draft.attributeTotal < draft.attributes.size := by
    rw [attributeTotal_frozen, attributes_frozen, Mapping.size_frozen]
  have hevents : draft.frozen.eventTotal < draft.frozen.events.length ↔
      draft.eventTotal < draft.events.length := by
    rw [eventTotal_frozen, events_frozen, List.length_map]
  unfold check
  refine guard_eq_map Iff.rfl fun _ _ ↦ ?_
  refine guard_eq_map Iff.rfl fun _ _ ↦ ?_
  refine guard_eq_map Iff.rfl fun _ _ ↦ ?_
  refine guard_eq_map hattributes fun _ _ ↦ ?_
  refine guard_eq_map hevents fun _ _ ↦ ?_
  rw [map_ok, Except.ok.injEq]
  simp only [SpanRecord.frozen, attributeTotal_frozen, eventTotal_frozen]
  rfl

/-! ### Conversion -/

namespace Conversion

/-- Tags do not tell a list from a tuple. -/
theorem attributeTags_frozen (attributes : Mapping) :
    Zipkin.attributeTags attributes.frozen = Zipkin.attributeTags attributes := by
  rw [Zipkin.attributeTags, Mapping.entries_frozen, List.foldlM_map]
  simp only [Value.attributeText_frozen]
  rfl

/-- The name of a service does not tell a list from a tuple. -/
theorem serviceName_frozen (resource : Mapping) :
    serviceName resource.frozen = serviceName resource := by
  rw [serviceName, serviceName, Mapping.find?_frozen]
  cases resource.find? (.str "service.name") with
  | none => rfl
  | some name => simp only [Option.map_some, Value.isTruthy_frozen, Value.attributeText_frozen]

theorem tagsOf_frozen (record : SpanRecord) :
    Zipkin.tagsOf record.frozen = Zipkin.tagsOf record := by
  have hattributes : record.frozen.droppedAttributes = record.droppedAttributes :=
    congrArg (fun size : Nat ↦ record.totalAttributes - size) (Mapping.size_frozen _)
  have hevents : record.frozen.droppedEvents = record.droppedEvents :=
    congrArg (fun count : Nat ↦ record.totalEvents - count) (List.length_map _)
  rw [Zipkin.tagsOf, Zipkin.tagsOf, hattributes, hevents, SpanRecord.attributes_frozen,
    attributeTags_frozen]
  rfl

/-- A record and its frozen form are converted alike. -/
theorem withoutAddress_frozen (record : SpanRecord) :
    withoutAddress record.frozen = withoutAddress record := by
  rw [withoutAddress, withoutAddress, tagsOf_frozen, SpanRecord.resource_frozen,
    serviceName_frozen]
  rfl

/-- Records with the same span before the source is asked are converted alike. -/
theorem convert_eq_of_withoutAddress {σ : Type} {first second : SpanRecord}
    (h : withoutAddress first = withoutAddress second) (source : AddressSource σ) (state : σ) :
    convert source first state = convert source second state := by
  rw [convert, convert, h]

end Conversion
end SpanBridge
