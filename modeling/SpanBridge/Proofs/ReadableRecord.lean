import SpanBridge.Proofs.Otlp.Readable
import SpanBridge.Proofs.Outline

/-!
# The record of a span of a tracing kit

A span that instrumentation hands over has a record exactly when it has an identity and is
consistent (`exists_toRecord_iff`): with what is missing filled in it does not end before it starts,
and no count of what was dropped is negative. A span without an identity is refused for this
whatever else it holds (`toRecord_eq_missingContext_iff`, `toRecord_eq_missingIdentifier_iff`), with
an error that is not the one for unacceptable values. The record keeps the counts, the attributes
and the events (`outline_of_toRecord`, `toRecord_eq_ok_iff_toDraft`). Its identifiers are texts, and
since these can be read back, one span is the parent of another one in the records exactly when it
is in what was handed over (`parentId_eq_some_iff`).
-/

set_option autoImplicit false
set_option relaxedAutoImplicit false

namespace SpanBridge.ReadableSpan

/-- A span does not end before it starts, where a missing start is zero and a missing end is the
start, and no count of what it dropped is negative. -/
@[mk_iff] structure IsConsistent (span : ReadableSpan) : Prop where
  times : span.start.getD 0 ≤ span.finish.getD (span.start.getD 0)
  droppedAttributes : 0 ≤ span.droppedAttributes
  droppedEvents : 0 ≤ span.droppedEvents

/-- A record keeps what a span of a given identity dropped and what it still has. Identifiers within
the range of their width are spelled by digits only, and those of a parent lead to the record of the
parent. -/
structure IsRecordedAs (span : ReadableSpan) (identity : SpanIdentity) (record : SpanRecord) :
    Prop where
  droppedAttributes : record.droppedAttributes = span.droppedAttributes
  droppedEvents : record.droppedEvents = span.droppedEvents
  attributes : record.attributes = span.attributes.getD .empty
  events : record.events = span.events
  traceId : 0 ≤ identity.traceId → identity.traceId < 2 ^ 128 →
    SpellsIdentifier 32 identity.traceId record.traceId
  spanId : 0 ≤ identity.spanId → identity.spanId < 2 ^ 64 →
    SpellsIdentifier 16 identity.spanId record.spanId
  root : span.parentId = none → record.parentId = none
  child : ∀ id, span.parentId = some id → ∃ text, record.parentId = some text ∧
    (0 ≤ id → id < 2 ^ 64 → SpellsIdentifier 16 id text)
  parent : ∀ (other : ReadableSpan) (otherIdentity : SpanIdentity) (parent : SpanRecord),
    other.identity = .ok otherIdentity → other.toRecord = .ok parent →
      (record.parentId = some parent.spanId ↔ span.parentId = some otherIdentity.spanId)

/-! ### When there is a record -/

section Existence

variable {span : ReadableSpan}

/-- With an identity the outline is sound exactly when times and counters are consistent. -/
theorem outline_isSound_iff (identity : SpanIdentity) :
    (span.outline identity).IsSound ↔ span.IsConsistent :=
  ⟨fun h ↦ ⟨h.times, h.droppedAttributes, h.droppedEvents⟩, fun h ↦
    ⟨paddedHex_ne_empty 32 _, paddedHex_ne_empty 16 _, h.times, h.droppedAttributes,
      h.droppedEvents⟩⟩

/-- A readable span becomes a record exactly when it has an identity and is consistent. -/
theorem exists_toRecord_iff :
    (∃ record, span.toRecord = .ok record) ↔
      (∃ identity, span.identity = .ok identity) ∧ span.IsConsistent := by
  rw [exists_toRecord_iff_isSound]
  simp only [outline_isSound_iff, exists_and_right]

/-- A span is refused for its values exactly when it has an identity and is not consistent. -/
theorem exists_record_error_iff :
    (∃ fault, span.toRecord = .error (.record fault)) ↔
      (∃ identity, span.identity = .ok identity) ∧ ¬span.IsConsistent := by
  constructor
  · rintro ⟨fault, hfault⟩
    obtain ⟨identity, hidentity, -⟩ := toRecord_eq_record_error_iff.1 hfault
    refine ⟨⟨identity, hidentity⟩, fun hconsistent ↦ ?_⟩
    obtain ⟨record, hrecord⟩ := exists_toRecord_iff.2 ⟨⟨identity, hidentity⟩, hconsistent⟩
    rw [hrecord] at hfault
    cases hfault
  · rintro ⟨⟨identity, hidentity⟩, hinconsistent⟩
    cases hcheck : (span.toDraft identity).check with
    | ok record =>
      have hrecord := toRecord_eq_ok_iff.2 ⟨identity, hidentity, hcheck⟩
      exact absurd (exists_toRecord_iff.1 ⟨record, hrecord⟩).2 hinconsistent
    | error fault => exact ⟨fault, toRecord_eq_record_error_iff.2 ⟨identity, hidentity, hcheck⟩⟩

/-- Only the values of a span are refused as unacceptable. -/
theorem exists_invalid_iff :
    (∃ error, span.toRecord = .error error ∧ error.category = .invalid) ↔
      ∃ fault, span.toRecord = .error (.record fault) := by
  constructor
  · rintro ⟨error, herror, hcategory⟩
    cases error with
    | missingContext => cases hcategory
    | missingIdentifier => cases hcategory
    | record fault => exact ⟨fault, herror⟩
  · rintro ⟨fault, hfault⟩
    exact ⟨.record fault, hfault, rfl⟩

theorem toRecord_eq_missingContext_iff :
    span.toRecord = .error .missingContext ↔ span.context = none := by
  rw [toRecord_eq_error_iff, ← identity_eq_missingContext_iff]
  exact or_iff_left fun ⟨_, _, _, _, hcause⟩ ↦ nomatch hcause

/-- A span is refused for a missing identifier exactly when its context lacks one. -/
theorem toRecord_eq_missingIdentifier_iff :
    span.toRecord = .error .missingIdentifier ↔
      ∃ context, span.context = some context ∧
        (context.traceId = none ∨ context.spanId = none) := by
  rw [toRecord_eq_error_iff, ← identity_eq_missingIdentifier_iff]
  exact or_iff_left fun ⟨_, _, _, _, hcause⟩ ↦ nomatch hcause

end Existence

/-! ### What is in the record -/

section Record

variable {span : ReadableSpan} {record : SpanRecord}

/-- The parent id of a record is the written one of its span. -/
theorem parentId_of_toRecord (h : span.toRecord = .ok record) :
    record.parentId = span.parentId.map spanIdText := by
  obtain ⟨_, -, hdraft⟩ := toRecord_eq_ok_iff_toDraft.1 h
  exact congrArg SpanDraft.parentId hdraft.symm

/-- The span id of a record is the written one of its span. -/
theorem spanId_of_toRecord {identity : SpanIdentity} (hidentity : span.identity = .ok identity)
    (h : span.toRecord = .ok record) : record.spanId = spanIdText identity.spanId := by
  obtain ⟨_, hsame, houtline⟩ := outline_of_toRecord h
  obtain rfl := Except.ok.inj (hidentity.symm.trans hsame)
  exact congrArg Outline.spanId houtline

theorem spellsIdentifier_traceIdText {id : Int} (hnonneg : 0 ≤ id) (hfits : id < 2 ^ 128) :
    SpellsIdentifier 32 id (traceIdText id) :=
  spellsIdentifier_paddedHex (by decide) hnonneg (by omega)

theorem spellsIdentifier_spanIdText {id : Int} (hnonneg : 0 ≤ id) (hfits : id < 2 ^ 64) :
    SpellsIdentifier 16 id (spanIdText id) :=
  spellsIdentifier_paddedHex (by decide) hnonneg (by omega)

/-- The records of two spans are child and parent when the spans are. -/
theorem parentId_eq_some_iff {other : ReadableSpan} {otherIdentity : SpanIdentity}
    {parent : SpanRecord} (h : span.toRecord = .ok record)
    (hidentity : other.identity = .ok otherIdentity) (hother : other.toRecord = .ok parent) :
    record.parentId = some parent.spanId ↔ span.parentId = some otherIdentity.spanId := by
  rw [parentId_of_toRecord h, spanId_of_toRecord hidentity hother, Option.map_eq_some_iff]
  constructor
  · rintro ⟨id, hid, htext⟩
    rw [hid, paddedHex_injective 16 htext]
  · exact fun hid ↦ ⟨otherIdentity.spanId, hid, rfl⟩

theorem isRecordedAs_of_toRecord (h : span.toRecord = .ok record) :
    ∃ identity, span.identity = .ok identity ∧ span.IsRecordedAs identity record := by
  obtain ⟨identity, hidentity, hdraft⟩ := toRecord_eq_ok_iff_toDraft.1 h
  have houtline : record.outline = span.outline identity := by
    rw [← span.outline_toDraft, hdraft]
    rfl
  have htraceId : record.traceId = traceIdText identity.traceId :=
    congrArg Outline.traceId houtline
  have hspanId : record.spanId = spanIdText identity.spanId := congrArg Outline.spanId houtline
  exact ⟨identity, hidentity, {
    droppedAttributes := congrArg Outline.droppedAttributes houtline
    droppedEvents := congrArg Outline.droppedEvents houtline
    attributes := congrArg SpanDraft.attributes hdraft.symm
    events := congrArg SpanDraft.events hdraft.symm
    traceId := fun hnonneg hfits ↦ htraceId ▸ spellsIdentifier_traceIdText hnonneg hfits
    spanId := fun hnonneg hfits ↦ hspanId ▸ spellsIdentifier_spanIdText hnonneg hfits
    root := fun hroot ↦ by rw [parentId_of_toRecord h, hroot, Option.map_none]
    child := fun id hid ↦
      ⟨spanIdText id, by rw [parentId_of_toRecord h, hid, Option.map_some],
        spellsIdentifier_spanIdText⟩
    parent := fun _ _ _ ↦ parentId_eq_some_iff h }⟩

end Record

/-- The consistent spans with an identity have a record, which keeps what they hold. Other spans
with an identity are refused as unacceptable, and spans without an identity for lack of it, whether
they are consistent or not. -/
theorem toRecord_exact (span : ReadableSpan) :
    ((∃ error, span.toRecord = .error error ∧ error.category = .invalid) ↔
      (∃ identity, span.identity = .ok identity) ∧
        (span.finish.getD (span.start.getD 0) < span.start.getD 0 ∨
          span.droppedAttributes < 0 ∨ span.droppedEvents < 0)) ∧
    (span.toRecord = .error .missingContext ↔ span.context = none) ∧
    (span.toRecord = .error .missingIdentifier ↔
      ∃ context, span.context = some context ∧
        (context.traceId = none ∨ context.spanId = none)) ∧
    ((∃ record, span.toRecord = .ok record) ↔
      (∃ identity, span.identity = .ok identity) ∧ span.IsConsistent) ∧
    ∀ record, span.toRecord = .ok record →
      ∃ identity, span.identity = .ok identity ∧ span.IsRecordedAs identity record := by
  refine ⟨?refused, toRecord_eq_missingContext_iff, toRecord_eq_missingIdentifier_iff,
    exists_toRecord_iff, fun _ ↦ isRecordedAs_of_toRecord⟩
  have hinconsistent : ¬span.IsConsistent ↔
      span.finish.getD (span.start.getD 0) < span.start.getD 0 ∨
        span.droppedAttributes < 0 ∨ span.droppedEvents < 0 := by
    rw [isConsistent_iff]
    omega
  rw [exists_invalid_iff, exists_record_error_iff, hinconsistent]

/-- A span whose identifiers are zero, which has not started. -/
def zeroSpan : ReadableSpan where
  name := "root"
  context := some ⟨some 0, some 0⟩
  droppedEvents := 3

/-- A span with the greatest identifiers and the parent zero, which has not ended. -/
def childOfZero : ReadableSpan where
  name := "child"
  context := some ⟨some (2 ^ 128 - 1), some (2 ^ 64 - 1)⟩
  parentId := some 0
  start := some (-5)
  droppedAttributes := 2

/-- The greatest trace id and a parent id of zero are written with all their digits. -/
theorem toRecord_exact_childOfZero :
    ∃ child root, childOfZero.toRecord = .ok child ∧ zeroSpan.toRecord = .ok root ∧
      child.parentId = some root.spanId ∧ child.droppedAttributes = 2 ∧
      SpellsIdentifier 32 (2 ^ 128 - 1) child.traceId ∧ SpellsIdentifier 16 0 root.spanId := by
  obtain ⟨-, -, -, hexists, hrecorded⟩ := toRecord_exact childOfZero
  obtain ⟨-, -, -, hexists', hrecorded'⟩ := toRecord_exact zeroSpan
  obtain ⟨child, hchild⟩ := hexists.2 ⟨⟨_, rfl⟩, by decide, by decide, by decide⟩
  obtain ⟨root, hroot⟩ := hexists'.2 ⟨⟨_, rfl⟩, by decide, by decide, by decide⟩
  obtain ⟨_, ⟨⟩, h⟩ := hrecorded child hchild
  obtain ⟨_, ⟨⟩, h'⟩ := hrecorded' root hroot
  exact ⟨child, root, hchild, hroot, (h.parent zeroSpan ⟨0, 0⟩ root rfl hroot).2 rfl,
    h.droppedAttributes, h.traceId (by decide) (by decide), h'.spanId (by decide) (by decide)⟩

/-- A span without a context, given how many events it dropped. -/
def contextlessSpan (count : Int) : ReadableSpan where
  name := "op"
  droppedEvents := count

/-- A span whose context has no identifier for it. -/
def namelessSpan : ReadableSpan where
  name := "op"
  context := some ⟨some 1, none⟩

/-- A consistent span may be without a record, and one that is not consistent may be refused for
something else. -/
theorem no_record_without_identity :
    ((contextlessSpan 0).IsConsistent ∧ (contextlessSpan 0).toRecord = .error .missingContext) ∧
    (¬(contextlessSpan (-1)).IsConsistent ∧
      (contextlessSpan (-1)).toRecord = .error .missingContext) ∧
    (namelessSpan.IsConsistent ∧ namelessSpan.toRecord = .error .missingIdentifier) ∧
    ReadableError.missingContext.category ≠ .invalid ∧
    ReadableError.missingIdentifier.category ≠ .invalid := by
  refine ⟨⟨⟨?_, ?_, ?_⟩, rfl⟩, ⟨fun h ↦ ?_, rfl⟩, ⟨⟨?_, ?_, ?_⟩, rfl⟩, nofun, nofun⟩
  case refine_4 => exact absurd h.droppedEvents (by decide)
  all_goals decide

end SpanBridge.ReadableSpan
