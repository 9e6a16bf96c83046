import SpanBridge.Proofs.Outcome
import SpanBridge.Trace.Readable

/-!
# Records as drafts

A record is a draft that gives everything, and checking this draft gives the record back
(`check_toDraft`). A draft that passes its check gives the record of the same fields, with the
totals that it leaves out filled in (`check_eq_ok_iff`). The record of a readable span is therefore
the one that gives everything as the draft of the span does (`toRecord_eq_ok_iff_toDraft`). Kinds
and outcomes are known by their names.
-/

set_option autoImplicit false
set_option relaxedAutoImplicit false

namespace SpanBridge

/-- A kind is found under its own name only. -/
theorem SpanKind.ofName?_eq_some_iff {name : String} {kind : SpanKind} :
    SpanKind.ofName? name = some kind ↔ name = kind.name := by
  constructor
  · intro h
    rw [SpanKind.ofName?] at h
    simpa [eq_comm] using List.find?_some h
  · rintro rfl
    cases kind <;> decide

theorem StatusCode.ofName?_eq_some_iff {name : String} {code : StatusCode} :
    StatusCode.ofName? name = some code ↔ name = code.name := by
  constructor
  · intro h
    rw [StatusCode.ofName?] at h
    simpa [eq_comm] using List.find?_some h
  · rintro rfl
    cases code <;> decide

/-- A record as a draft that gives everything. -/
def SpanRecord.toDraft (record : SpanRecord) : SpanDraft :=
  { record with
    totalAttributes := some record.totalAttributes
    totalEvents := some record.totalEvents }

def SpanDraft.filled (draft : SpanDraft) : SpanDraft :=
  { draft with
    totalAttributes := some draft.attributeTotal
    totalEvents := some draft.eventTotal }

theorem SpanDraft.filled_eq_self {draft : SpanDraft} {attributes events : Int}
    (hattributes : draft.totalAttributes = some attributes)
    (hevents : draft.totalEvents = some events) : draft.filled = draft := by
  obtain ⟨traceId, spanId, name, start, finish, parentId, kind, _, _, _, _, status, resource,
    scope⟩ := draft
  obtain rfl := hattributes
  obtain rfl := hevents
  rfl

namespace SpanRecord

/-- The draft of a record is the filled draft that it comes from. -/
theorem toDraft_of_check {draft : SpanDraft} {record : SpanRecord} (h : draft.check = .ok record) :
    record.toDraft = draft.filled := by
  unfold SpanDraft.check at h
  split at h
  · cases h
  split at h
  · cases h
  split at h
  · cases h
  split at h
  · cases h
  split at h
  · cases h
  obtain rfl := Except.ok.inj h
  rfl

/-- A record as a draft passes its check. -/
theorem check_toDraft (record : SpanRecord) : record.toDraft.check = .ok record := by
  have hspanId : ¬record.toDraft.spanId = "" := record.spanId_ne_empty
  have htraceId : ¬record.toDraft.traceId = "" := record.traceId_ne_empty
  have htimes : ¬record.toDraft.finish < record.toDraft.start :=
    Int.not_lt.2 record.start_le_finish
  have hattributes : ¬record.toDraft.attributeTotal < record.toDraft.attributes.size :=
    Int.not_lt.2 record.attributes_le_total
  have hevents : ¬record.toDraft.eventTotal < record.toDraft.events.length :=
    Int.not_lt.2 record.events_le_total
  rw [SpanDraft.check, dif_neg hspanId, dif_neg htraceId, dif_neg htimes, dif_neg hattributes,
    dif_neg hevents]
  rfl

end SpanRecord

/-- The records that come of a draft: those that give everything as the draft does. -/
theorem SpanDraft.check_eq_ok_iff {draft : SpanDraft} {record : SpanRecord}
    {attributes events : Int} (hattributes : draft.totalAttributes = some attributes)
    (hevents : draft.totalEvents = some events) :
    draft.check = .ok record ↔ draft = record.toDraft := by
  constructor
  · intro h
    rw [SpanRecord.toDraft_of_check h, filled_eq_self hattributes hevents]
  · rintro rfl
    exact record.check_toDraft

/-! ### Readable spans -/

namespace ReadableSpan

variable {span : ReadableSpan}

theorem identity_eq_missingContext_iff :
    span.identity = .error .missingContext ↔ span.context = none := by
  unfold identity
  split <;> simp_all

/-- A context that lacks one of the identifiers. -/
theorem identity_eq_missingIdentifier_iff :
    span.identity = .error .missingIdentifier ↔
      ∃ context, span.context = some context ∧
        (context.traceId = none ∨ context.spanId = none) := by
  unfold identity
  cases span.context with
  | none => simp
  | some context => obtain ⟨_ | traceId, _ | spanId⟩ := context <;> simp

theorem identity_ne_record (error : RecordError) : span.identity ≠ .error (.record error) := by
  unfold identity
  split <;> nofun

/-- A record comes of a span with an identity whose draft passes its check. -/
theorem toRecord_eq_ok_iff {record : SpanRecord} :
    span.toRecord = .ok record ↔
      ∃ identity, span.identity = .ok identity ∧ (span.toDraft identity).check = .ok record := by
  simp only [toRecord, bind_eq_ok_iff, mapError_eq_ok_iff]

/-- A record's error comes from a span that has an identity. -/
theorem toRecord_eq_record_error_iff {error : RecordError} :
    span.toRecord = .error (.record error) ↔
      ∃ identity, span.identity = .ok identity ∧
        (span.toDraft identity).check = .error error := by
  simp [toRecord, bind_eq_error_iff, mapError_eq_error_iff, identity_ne_record]

/-- A span without a record either has no identity or has a draft that fails its check. -/
theorem toRecord_eq_error_iff {error : ReadableError} :
    span.toRecord = .error error ↔
      span.identity = .error error ∨
        ∃ identity fault, span.identity = .ok identity ∧
          (span.toDraft identity).check = .error fault ∧ error = .record fault := by
  simp [toRecord, bind_eq_error_iff, mapError_eq_error_iff, eq_comm (a := error)]

/-- The record gives everything as the draft does. -/
theorem toRecord_eq_ok_iff_toDraft {record : SpanRecord} :
    span.toRecord = .ok record ↔
      ∃ identity, span.identity = .ok identity ∧ span.toDraft identity = record.toDraft := by
  rw [toRecord_eq_ok_iff]
  exact exists_congr fun identity ↦ and_congr_right' (SpanDraft.check_eq_ok_iff rfl rfl)

end ReadableSpan
end SpanBridge
