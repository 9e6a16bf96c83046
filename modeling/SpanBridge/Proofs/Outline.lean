import Mathlib.Data.Rat.Floor
import SpanBridge.Proofs.Conversion
import SpanBridge.Proofs.Identifier
import SpanBridge.Proofs.Otlp.Composition

/-!
# What every record keeps

The outline of a span consists of its identifiers, its times and the counts of what it dropped. It
is sound when both identifiers are there, the span does not end before it starts and no count is
negative. Records come from drafts, from documents and from spans as a tracing kit hands them over.
On each of these ways a record has the outline that was given, and this outline is sound
(`outline_of_every_record`). A draft whose outline is not sound is refused for the first of its
faults (`SpanDraft.check_eq_error_iff`). Documents and tracing kits do not get as far as an empty
identifier: the first refuse it themselves, and the second cannot write one.
-/

set_option autoImplicit false
set_option relaxedAutoImplicit false

namespace SpanBridge

/-! ### Outlines -/

/-- The identifiers of a span, its times, and how many attributes and events it dropped. -/
structure Outline where
  traceId : String
  spanId : String
  start : Int
  finish : Int
  droppedAttributes : Int
  droppedEvents : Int
  deriving DecidableEq, Repr

/-- The identifiers are not empty, the end is not before the start, and no count is negative. -/
structure Outline.IsSound (outline : Outline) : Prop where
  traceId : outline.traceId ≠ ""
  spanId : outline.spanId ≠ ""
  times : outline.start ≤ outline.finish
  droppedAttributes : 0 ≤ outline.droppedAttributes
  droppedEvents : 0 ≤ outline.droppedEvents

/-- The duration in microseconds. A span that took some time took one of them at least. -/
def Outline.duration (outline : Outline) : Int :=
  if outline.start = outline.finish then 0
  else max 1 ⌊((outline.finish - outline.start : Int) : ℚ) / 1000⌋

def SpanDraft.outline (draft : SpanDraft) : Outline where
  traceId := draft.traceId
  spanId := draft.spanId
  start := draft.start
  finish := draft.finish
  droppedAttributes := draft.attributeTotal - draft.attributes.size
  droppedEvents := draft.eventTotal - draft.events.length

def SpanRecord.outline (record : SpanRecord) : Outline where
  traceId := record.traceId
  spanId := record.spanId
  start := record.start
  finish := record.finish
  droppedAttributes := record.droppedAttributes
  droppedEvents := record.droppedEvents

/-- The outline of a span as a tracing kit hands it over, given its identity. -/
def ReadableSpan.outline (span : ReadableSpan) (identity : SpanIdentity) : Outline where
  traceId := traceIdText identity.traceId
  spanId := spanIdText identity.spanId
  start := span.start.getD 0
  finish := span.finish.getD (span.start.getD 0)
  droppedAttributes := span.droppedAttributes
  droppedEvents := span.droppedEvents

/-! ### Faults of a draft -/

/-- The faults in the order in which a draft is checked for them. -/
def RecordError.inOrder : List RecordError :=
  [.emptySpanId, .emptyTraceId, .endBeforeStart, .attributeTotal, .eventTotal]

namespace SpanDraft

/-- A draft has a fault. A total that is not given is none. -/
def HasFault (draft : SpanDraft) : RecordError → Prop
  | .emptySpanId => draft.spanId = ""
  | .emptyTraceId => draft.traceId = ""
  | .endBeforeStart => draft.finish < draft.start
  | .attributeTotal => ∃ total ∈ draft.totalAttributes, total < draft.attributes.size
  | .eventTotal => ∃ total ∈ draft.totalEvents, total < draft.events.length

instance (draft : SpanDraft) : DecidablePred draft.HasFault
  | .emptySpanId | .emptyTraceId => inferInstanceAs (Decidable (_ = _))
  | .endBeforeStart => inferInstanceAs (Decidable (_ < _))
  | .attributeTotal | .eventTotal => inferInstanceAs (Decidable (∃ total ∈ (_ : Option Int), _))

def firstFault? (draft : SpanDraft) : Option RecordError :=
  RecordError.inOrder.find? fun fault ↦ draft.HasFault fault

/-- The first fault of a draft is one of its faults. -/
theorem hasFault_of_firstFault {draft : SpanDraft} {fault : RecordError}
    (h : draft.firstFault? = some fault) : draft.HasFault fault := by
  simpa using List.find?_some h

variable (draft : SpanDraft)

/-- There is no first fault exactly when there is none at all. -/
theorem firstFault_eq_none_iff : draft.firstFault? = none ↔ ∀ fault, ¬draft.HasFault fault := by
  rw [firstFault?, List.find?_eq_none]
  constructor
  · intro h fault
    have hmem : fault ∈ RecordError.inOrder := by cases fault <;> decide
    simpa using h fault hmem
  · intro h fault _
    simpa using h fault

/-- The count of attributes is too small exactly when the draft has this fault. -/
theorem attributeTotal_lt_iff :
    draft.attributeTotal < draft.attributes.size ↔ draft.HasFault .attributeTotal := by
  cases h : draft.totalAttributes <;> simp [attributeTotal, HasFault, h]

/-- The count of events is too small exactly when the draft has this fault. -/
theorem eventTotal_lt_iff :
    draft.eventTotal < draft.events.length ↔ draft.HasFault .eventTotal := by
  cases h : draft.totalEvents <;> simp [eventTotal, HasFault, h]

/-- A draft without a fault has a sound outline, and only such a draft has one. -/
theorem outline_isSound_iff : draft.outline.IsSound ↔ ∀ fault, ¬draft.HasFault fault := by
  constructor
  · rintro ⟨htraceId, hspanId, htimes, hattributes, hevents⟩ fault
    cases fault with
    | emptySpanId => exact hspanId
    | emptyTraceId => exact htraceId
    | endBeforeStart => exact Int.not_lt.2 htimes
    | attributeTotal =>
      rw [← attributeTotal_lt_iff]
      exact Int.not_lt.2 (Int.sub_nonneg.1 hattributes)
    | eventTotal =>
      rw [← eventTotal_lt_iff]
      exact Int.not_lt.2 (Int.sub_nonneg.1 hevents)
  · intro h
    exact {
      traceId := h .emptyTraceId
      spanId := h .emptySpanId
      times := Int.not_lt.1 (h .endBeforeStart)
      droppedAttributes :=
        Int.sub_nonneg.2 (Int.not_lt.1 ((attributeTotal_lt_iff draft).not.2 (h .attributeTotal)))
      droppedEvents :=
        Int.sub_nonneg.2 (Int.not_lt.1 ((eventTotal_lt_iff draft).not.2 (h .eventTotal))) }

variable {draft}

/-! ### Checking a draft -/

/-- A draft is refused for its first fault. -/
theorem check_of_firstFault {fault : RecordError} (h : draft.firstFault? = some fault) :
    draft.check = .error fault := by
  have hspanId : draft.spanId = "" ↔ draft.HasFault .emptySpanId := .rfl
  have htraceId : draft.traceId = "" ↔ draft.HasFault .emptyTraceId := .rfl
  have htimes : draft.finish < draft.start ↔ draft.HasFault .endBeforeStart := .rfl
  simp only [firstFault?, RecordError.inOrder, List.find?_cons] at h
  simp only [check, hspanId, htraceId, htimes, attributeTotal_lt_iff, eventTotal_lt_iff]
  -- the check and the search go through the faults in the same order
  repeat' split at h
  all_goals simp_all

theorem exists_check_of_isSound (h : draft.outline.IsSound) :
    ∃ record, draft.check = .ok record := by
  have hattributes : ¬draft.attributeTotal < draft.attributes.size :=
    Int.not_lt.2 (Int.sub_nonneg.1 h.droppedAttributes)
  have hevents : ¬draft.eventTotal < draft.events.length :=
    Int.not_lt.2 (Int.sub_nonneg.1 h.droppedEvents)
  have hspanId : draft.spanId ≠ "" := h.spanId
  have htraceId : draft.traceId ≠ "" := h.traceId
  have htimes : ¬draft.finish < draft.start := Int.not_lt.2 h.times
  rw [check, dif_neg hspanId, dif_neg htraceId, dif_neg htimes, dif_neg hattributes,
    dif_neg hevents]
  exact ⟨_, rfl⟩

/-- Checking a draft reports its first fault. -/
theorem check_eq_error_iff {fault : RecordError} :
    draft.check = .error fault ↔ draft.firstFault? = some fault := by
  refine ⟨fun h ↦ ?_, check_of_firstFault⟩
  cases hfirst : draft.firstFault? with
  | none =>
    obtain ⟨record, hrecord⟩ := exists_check_of_isSound
      (draft.outline_isSound_iff.2 (draft.firstFault_eq_none_iff.1 hfirst))
    rw [hrecord] at h
    cases h
  | some first =>
    rw [check_of_firstFault hfirst] at h
    rw [Except.error.inj h]

/-- Checking a draft yields a record when the outline is sound. -/
theorem exists_check_iff : (∃ record, draft.check = .ok record) ↔ draft.outline.IsSound := by
  refine ⟨?_, exists_check_of_isSound⟩
  rintro ⟨record, hrecord⟩
  rw [outline_isSound_iff, ← firstFault_eq_none_iff, Option.eq_none_iff_forall_ne_some]
  intro fault hfault
  rw [check_of_firstFault hfault] at hrecord
  cases hrecord

/-- The record of a draft has its outline. -/
theorem outline_of_check {record : SpanRecord} (h : draft.check = .ok record) :
    record.outline = draft.outline := by
  calc
    record.outline
    _ = record.toDraft.outline := rfl
    _ = draft.filled.outline := by rw [SpanRecord.toDraft_of_check h]
    _ = draft.outline := rfl

/-- An identifier that is not empty is not reported as empty. -/
theorem ne_empty_of_check {fault : RecordError} (hspanId : draft.spanId ≠ "")
    (htraceId : draft.traceId ≠ "") (h : draft.check = .error fault) :
    fault ≠ .emptySpanId ∧ fault ≠ .emptyTraceId := by
  have hfault := hasFault_of_firstFault (check_eq_error_iff.1 h)
  constructor
  · rintro rfl
    exact hspanId hfault
  · rintro rfl
    exact htraceId hfault

end SpanDraft

/-- The outline of a record is sound. -/
theorem SpanRecord.outline_isSound (record : SpanRecord) : record.outline.IsSound where
  traceId := record.traceId_ne_empty
  spanId := record.spanId_ne_empty
  times := record.start_le_finish
  droppedAttributes := Int.sub_nonneg.2 record.attributes_le_total
  droppedEvents := Int.sub_nonneg.2 record.events_le_total

/-! ### Durations -/

/-- The duration is the difference in whole microseconds, at least one unless the times are equal.
-/
theorem duration_between {start finish : Int} (h : start ≤ finish) :
    (Zipkin.Timing.between start finish).duration =
      if start = finish then 0 else max 1 ⌊((finish - start : Int) : ℚ) / 1000⌋ := by
  have hfloor : ⌊((finish - start : Int) : ℚ) / 1000⌋ = (finish - start) / 1000 :=
    Rat.floor_intCast_div_natCast (finish - start) 1000
  rw [hfloor]
  show (if (finish - start) / 1000 = 0 ∧ start < finish then 1 else (finish - start) / 1000) = _
  split <;> split <;> omega

/-- A span lasts as long as the outline of its record says. -/
theorem duration_of_convert {σ : Type} {source : AddressSource σ} {record : SpanRecord}
    {state : σ} {span : ZipkinSpan}
    (h : (Conversion.convert source record state).result = .ok span) :
    span.duration = record.outline.duration := by
  obtain ⟨bare, answer, hbare, -, rfl⟩ := Conversion.convert_eq_ok_iff.1 h
  obtain ⟨tags, kind, service, -, -, -, rfl⟩ := Conversion.withoutAddress_eq_ok_iff.1 hbare
  rw [Conversion.locate_spanOf]
  exact duration_between record.start_le_finish

/-! ### Documents -/

namespace Otlp

/-- An object gives an identifier under a name: a text that is not empty, in any letters. -/
def GivesId (name : String) (document : Json) (id : String) : Prop :=
  ∃ text, document.memberOr name .null = .ok (.str text) ∧ text ≠ "" ∧
    id = Text.LetterCase.toSmall text

/-- A document gives no empty identifier. -/
theorem GivesId.ne_empty {name id : String} {document : Json} (h : GivesId name document id) :
    id ≠ "" := by
  obtain ⟨text, -, htext, rfl⟩ := h
  exact toSmall_ne_empty htext

/-- A member that is read as an identifier gives it. -/
theorem givesId_of_small {name id : String} {document member : Json}
    (hmember : document.memberOr name .null = .ok member) (htruthy : member.isTruthy = true)
    (hsmall : member.small = .ok id) : GivesId name document id := by
  cases member with
  | str text =>
    exact ⟨text, hmember, of_decide_eq_true htruthy, (Except.ok.inj hsmall).symm⟩
  | _ => cases hsmall

/-- The members of a span give an outline. Missing times and counts are zero. -/
structure GivesOutline (span : Json) (outline : Outline) : Prop where
  traceId : GivesId "traceId" span outline.traceId
  spanId : GivesId "spanId" span outline.spanId
  start : integerMember "startTimeUnixNano" span = .ok outline.start
  finish : integerMember "endTimeUnixNano" span = .ok outline.finish
  droppedAttributes : integerMember "droppedAttributesCount" span = .ok outline.droppedAttributes
  droppedEvents : integerMember "droppedEventsCount" span = .ok outline.droppedEvents

variable {resource : Mapping} {scope : Scope} {span : Json}

theorem IsDraftOf.givesTraceId {draft : SpanDraft} (h : IsDraftOf resource scope span draft) :
    GivesId "traceId" span draft.traceId := by
  obtain ⟨id, hid, htruthy, hsmall⟩ := h.traceId
  exact givesId_of_small hid htruthy hsmall

theorem IsDraftOf.givesSpanId {draft : SpanDraft} (h : IsDraftOf resource scope span draft) :
    GivesId "spanId" span draft.spanId := by
  obtain ⟨id, hid, htruthy, hsmall⟩ := h.spanId
  exact givesId_of_small hid htruthy hsmall

/-- A decoded span gives the outline of its record. -/
theorem givesOutline_of_decodeSpan {record : SpanRecord}
    (h : decodeSpan resource scope span = .ok record) : GivesOutline span record.outline := by
  have hdraft := decodeSpan_eq_ok_iff.1 h
  exact {
    traceId := hdraft.givesTraceId
    spanId := hdraft.givesSpanId
    start := hdraft.start
    finish := hdraft.finish
    droppedAttributes := hdraft.droppedAttributes
    droppedEvents := hdraft.droppedEvents }

/-- No decoded span is refused for an empty identifier. -/
theorem ne_empty_of_decodeSpan {fault : RecordError}
    (h : decodeSpan resource scope span = .error (.record fault)) :
    fault ≠ .emptySpanId ∧ fault ≠ .emptyTraceId := by
  rcases bind_eq_error_iff.1 h with h | ⟨draft, hdraft, h⟩
  · obtain ⟨_, -, hcause⟩ := mapError_eq_error_iff.1 h
    cases hcause
  · obtain ⟨cause, hcheck, hcause⟩ := mapError_eq_error_iff.1 h
    obtain rfl := OtlpError.record.inj hcause
    have hmembers := decodeDraft_eq_ok_iff.1 (mapError_eq_ok_iff.1 hdraft)
    exact SpanDraft.ne_empty_of_check hmembers.givesSpanId.ne_empty
      hmembers.givesTraceId.ne_empty hcheck

/-- Only spans are refused for a fault. -/
theorem document_ne_record {α : Type} {attempt : Except DocumentError α} {fault : RecordError} :
    attempt.mapError OtlpError.document ≠ .error (.record fault) := by
  intro h
  obtain ⟨_, -, hcause⟩ := mapError_eq_error_iff.1 h
  cases hcause

/-- A block fails on a record where one of its spans does. -/
theorem exists_decodeSpan_of_decodeBlock {block : Block} {fault : RecordError}
    (h : decodeBlock resource block = .error (.record fault)) :
    ∃ span, decodeSpan resource block.scope span = .error (.record fault) := by
  rcases bind_eq_error_iff.1 h with h | ⟨spans, -, h⟩
  · exact absurd h document_ne_record
  · obtain ⟨span, -, hspan⟩ := exists_mem_of_mapM_eq_error h
    exact ⟨span, hspan⟩

/-- A resource fails on a record where one of its blocks does. -/
theorem exists_decodeBlock_of_decodeResource {entry : Json} {fault : RecordError}
    (h : decodeResource entry = .error (.record fault)) :
    ∃ resource block, decodeBlock resource block = .error (.record fault) := by
  rcases bind_eq_error_iff.1 h with h | ⟨⟨resource, blocks⟩, -, h⟩
  · exact absurd h document_ne_record
  rcases bind_eq_error_iff.1 h with h | ⟨_, -, h⟩
  · obtain ⟨block, -, hblock⟩ := exists_mem_of_mapM_eq_error h
    exact ⟨resource, block, hblock⟩
  · cases h

/-- A document fails on a record where one of its resources does. -/
theorem exists_decodeResource_of_decode {document : Json} {fault : RecordError}
    (h : decode document = .error (.record fault)) :
    ∃ entry, decodeResource entry = .error (.record fault) := by
  unfold decode at h
  split at h
  · cases h
  rcases bind_eq_error_iff.1 h with h | ⟨entries, -, h⟩
  · exact absurd h document_ne_record
  rcases bind_eq_error_iff.1 h with h | ⟨_, -, h⟩
  · obtain ⟨entry, -, hentry⟩ := exists_mem_of_mapM_eq_error h
    exact ⟨entry, hentry⟩
  · cases h

/-- No document is refused for an empty identifier of a record. -/
theorem ne_empty_of_decode {document : Json} {fault : RecordError}
    (h : decode document = .error (.record fault)) :
    fault ≠ .emptySpanId ∧ fault ≠ .emptyTraceId := by
  obtain ⟨entry, hentry⟩ := exists_decodeResource_of_decode h
  obtain ⟨resource, block, hblock⟩ := exists_decodeBlock_of_decodeResource hentry
  obtain ⟨span, hspan⟩ := exists_decodeSpan_of_decodeBlock hblock
  exact ne_empty_of_decodeSpan hspan

/-- The spans of a document give the outlines of its records, in order. -/
theorem forall₂_givesOutline {document : Json} {records : List SpanRecord}
    (h : decode document = .ok records) :
    List.Forall₂ (fun raw record ↦ GivesOutline raw.span record.outline) (rawSpans document)
      records := by
  refine (forall₂_isRecordOf_rawSpans h).imp ?_
  rintro raw record ⟨resource, block, -, -, hspan⟩
  exact givesOutline_of_decodeSpan hspan

end Otlp

/-! ### Spans of a tracing kit -/

namespace ReadableSpan

/-- The draft of a readable span has the outline that the span has with this identity. -/
theorem outline_toDraft (span : ReadableSpan) (identity : SpanIdentity) :
    (span.toDraft identity).outline = span.outline identity := by
  rw [SpanDraft.outline, ReadableSpan.outline, Outline.mk.injEq]
  exact ⟨rfl, rfl, rfl, rfl, add_sub_cancel_left _ _, add_sub_cancel_left _ _⟩

variable {span : ReadableSpan}

/-- The record of a span has the outline that the identity of the span gives. -/
theorem outline_of_toRecord {record : SpanRecord} (h : span.toRecord = .ok record) :
    ∃ identity, span.identity = .ok identity ∧ record.outline = span.outline identity := by
  obtain ⟨identity, hidentity, hcheck⟩ := toRecord_eq_ok_iff.1 h
  exact ⟨identity, hidentity,
    (SpanDraft.outline_of_check hcheck).trans (span.outline_toDraft identity)⟩

/-- The spans with a record are those with an identity that makes their outline sound. -/
theorem exists_toRecord_iff_isSound :
    (∃ record, span.toRecord = .ok record) ↔
      ∃ identity, span.identity = .ok identity ∧ (span.outline identity).IsSound := by
  simp only [toRecord_eq_ok_iff, ← outline_toDraft, ← SpanDraft.exists_check_iff]
  constructor
  · rintro ⟨record, identity, hidentity, hcheck⟩
    exact ⟨identity, hidentity, record, hcheck⟩
  · rintro ⟨identity, hidentity, record, hcheck⟩
    exact ⟨record, identity, hidentity, hcheck⟩

/-- No span is refused for an empty identifier. -/
theorem ne_empty_of_toRecord {fault : RecordError} (h : span.toRecord = .error (.record fault)) :
    fault ≠ .emptySpanId ∧ fault ≠ .emptyTraceId := by
  obtain ⟨identity, -, hcheck⟩ := toRecord_eq_record_error_iff.1 h
  exact SpanDraft.ne_empty_of_check (paddedHex_ne_empty 16 identity.spanId)
    (paddedHex_ne_empty 32 identity.traceId) hcheck

end ReadableSpan

/-! ### All records -/

/-- Records have the outline that was given, on every way on which they come about, and every
record has a sound outline, from which the duration of its span follows. What has no sound outline
is refused: a draft for its first fault, and neither a document nor a span of a tracing kit for an
empty identifier. A span of a tracing kit without an identity has no record either. -/
theorem outline_of_every_record :
    (∀ draft : SpanDraft,
      (∀ record, draft.check = .ok record → record.outline = draft.outline) ∧
      ((∃ record, draft.check = .ok record) ↔ draft.outline.IsSound) ∧
      ∀ fault, draft.check = .error fault ↔ draft.firstFault? = some fault) ∧
    (∀ document,
      (∀ records, Otlp.decode document = .ok records →
        List.Forall₂ (fun raw record ↦ Otlp.GivesOutline raw.span record.outline)
          (Otlp.rawSpans document) records) ∧
      ∀ fault, Otlp.decode document = .error (.record fault) →
        fault ≠ .emptySpanId ∧ fault ≠ .emptyTraceId) ∧
    (∀ span : ReadableSpan,
      (∀ record, span.toRecord = .ok record →
        ∃ identity, span.identity = .ok identity ∧ record.outline = span.outline identity) ∧
      ((∃ record, span.toRecord = .ok record) ↔
        ∃ identity, span.identity = .ok identity ∧ (span.outline identity).IsSound) ∧
      ∀ fault, span.toRecord = .error (.record fault) →
        fault ≠ .emptySpanId ∧ fault ≠ .emptyTraceId) ∧
    ∀ record : SpanRecord, record.outline.IsSound ∧
      ∀ {σ : Type} (source : AddressSource σ) state span,
        (Conversion.convert source record state).result = .ok span →
          span.duration = record.outline.duration := by
  refine ⟨fun draft ↦ ?drafts, fun document ↦ ?documents, fun span ↦ ?readable, fun record ↦ ?all⟩
  case drafts =>
    exact ⟨fun _ ↦ draft.outline_of_check, draft.exists_check_iff, fun _ ↦ draft.check_eq_error_iff⟩
  case documents =>
    exact ⟨fun _ ↦ Otlp.forall₂_givesOutline, fun _ ↦ Otlp.ne_empty_of_decode⟩
  case readable =>
    exact ⟨fun _ ↦ span.outline_of_toRecord, span.exists_toRecord_iff_isSound,
      fun _ ↦ span.ne_empty_of_toRecord⟩
  case all =>
    exact ⟨record.outline_isSound, fun _ _ _ ↦ duration_of_convert⟩

/-- A draft without a trace that ends before it starts. -/
def backwardDraft : SpanDraft where
  traceId := ""
  spanId := "0b"
  name := .str "op"
  start := 2
  finish := 1

/-- A document with one span, given how many attributes it dropped. -/
def droppingDocument (count : Int) : Json :=
  .obj [("resourceSpans", .arr [.obj [("scopeSpans", .arr [.obj [("spans", .arr [.obj
    [("traceId", .str "0A"), ("spanId", .str "0b"), ("endTimeUnixNano", .str "500"),
      ("droppedAttributesCount", .int count)]])]])]])]

/-- A span of a tracing kit that has not ended, given how many events it dropped. -/
def runningSpan (count : Int) : ReadableSpan where
  name := "op"
  context := some ⟨some 0xa, some 0⟩
  start := some 1500
  droppedEvents := count

/-- A record of a span that took half a microsecond. -/
def briefRecord : SpanRecord where
  traceId := "2a"
  spanId := "2b"
  name := .str "op"
  start := 400
  finish := 900
  parentId := none
  kind := some .internal
  attributes := .empty
  totalAttributes := 3
  events := []
  totalEvents := 4
  status := {}
  resource := .empty
  scope := .empty
  spanId_ne_empty := by decide
  traceId_ne_empty := by decide
  start_le_finish := by decide
  attributes_le_total := by decide
  events_le_total := by decide

/-- Times out of order are found before empty identifiers, and a brief span lasts a microsecond. -/
theorem outline_of_brief_records :
    backwardDraft.check = .error .emptyTraceId ∧
    (∃ record, briefRecord.toDraft.check = .ok record ∧
      record.outline = briefRecord.toDraft.outline) ∧
    (∃ records, Otlp.decode (droppingDocument 1) = .ok records ∧
      List.Forall₂ (fun raw record ↦ Otlp.GivesOutline raw.span record.outline)
        (Otlp.rawSpans (droppingDocument 1)) records) ∧
    (Otlp.decode (droppingDocument (-1)) = .error (.record .attributeTotal) ∧
      RecordError.attributeTotal ≠ .emptySpanId ∧ RecordError.attributeTotal ≠ .emptyTraceId) ∧
    (∃ record identity, (runningSpan 1).toRecord = .ok record ∧
      (runningSpan 1).identity = .ok identity ∧
        record.outline = (runningSpan 1).outline identity) ∧
    ((runningSpan (-1)).toRecord = .error (.record .eventTotal) ∧
      RecordError.eventTotal ≠ .emptySpanId ∧ RecordError.eventTotal ≠ .emptyTraceId) ∧
    ∃ span, (Conversion.convert (.constant none) briefRecord ()).result = .ok span ∧
      span.duration = briefRecord.outline.duration := by
  obtain ⟨hdrafts, hdocuments, hreadable, hrecords⟩ := outline_of_every_record
  refine ⟨?first, ?draft, ?document, ?refused, ?readable, ?unreadable, ?duration⟩
  case first => exact ((hdrafts backwardDraft).2.2 .emptyTraceId).2 (by decide)
  case draft =>
    exact ⟨briefRecord, briefRecord.check_toDraft, (hdrafts _).1 _ briefRecord.check_toDraft⟩
  case document =>
    obtain ⟨records, hdecode⟩ : ∃ records, Otlp.decode (droppingDocument 1) = .ok records :=
      exists_of_toBool (by decide +kernel)
    exact ⟨records, hdecode, (hdocuments _).1 _ hdecode⟩
  case refused =>
    have hdecode : Otlp.decode (droppingDocument (-1)) = .error (.record .attributeTotal) := by
      decide +kernel
    exact ⟨hdecode, (hdocuments _).2 _ hdecode⟩
  case readable =>
    have hsound : ((runningSpan 1).outline ⟨0xa, 0⟩).IsSound :=
      ⟨by decide +kernel, by decide +kernel, by decide, by decide, by decide⟩
    obtain ⟨record, hrecord⟩ := (hreadable (runningSpan 1)).2.1.2 ⟨⟨0xa, 0⟩, rfl, hsound⟩
    obtain ⟨identity, hidentity, houtline⟩ := (hreadable _).1 _ hrecord
    exact ⟨record, identity, hrecord, hidentity, houtline⟩
  case unreadable =>
    have hrefused : (runningSpan (-1)).toRecord = .error (.record .eventTotal) := by
      decide +kernel
    exact ⟨hrefused, (hreadable _).2.2 _ hrefused⟩
  case duration =>
    obtain ⟨span, hspan⟩ :
        ∃ span, (Conversion.convert (.constant none) briefRecord ()).result = .ok span :=
      exists_of_toBool (by decide +kernel)
    exact ⟨span, hspan, (hrecords briefRecord).2 _ _ _ hspan⟩

end SpanBridge
