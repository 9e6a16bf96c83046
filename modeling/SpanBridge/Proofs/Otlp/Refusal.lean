import SpanBridge.Proofs.Otlp.ValueShape

/-!
# Which documents are refused as invalid

Reading a document of the right shape fails only for what is invalid, and a document of another
shape is never read (`judges_decode`). Attributes, events, spans and the scopes of blocks are judged
one by one. The scopes of all blocks of a resource are read before the spans of the first, so a
resource is judged in two parts that are joined at the end (`judges_decodeResource`).
-/

set_option autoImplicit false
set_option relaxedAutoImplicit false

namespace SpanBridge.Otlp

/-! ### Attributes -/

theorem judges_decodeEntry {attributes : Mapping} {entry : Json} :
    Judges DocumentError.category (decodeEntry attributes entry)
      (IsObjectOf IsAttribute entry) := by
  cases entry with
  | obj members =>
    rw [isObjectOf_obj, decodeEntry]
    simp only [memberOr_obj, ask_ok, ok_bind]
    refine .refuse rfl fun hkey ↦ ?_
    have hpresent : (memberIn members "key" .null).isTruthy = true := by simpa using hkey
    refine ((judgesValues _).value.bind fun _ _ ↦ judges_toKey.ask.map).congr ⟨?_, ?_⟩
    · rintro ⟨hvalue, hkey⟩
      exact ⟨fun _ ↦ hkey, hvalue⟩
    · intro h
      exact ⟨h.value, h.key hpresent⟩
  | _ =>
    refine .unshaped ?_
    rintro ⟨_, ⟨⟩, _⟩

theorem judges_decodeAttributes {document : Json} :
    Judges DocumentError.category (decodeAttributes document) (IsAttributes document) :=
  .list ask_eq_ok_iff fun _ _ ↦ .foldlM fun _ _ _ ↦ judges_decodeEntry

/-! ### Spans -/

theorem judges_decodeEvent {event : Json} :
    Judges DocumentError.category (decodeEvent event) (IsObjectOf IsEvent event) := by
  cases event with
  | obj members =>
    rw [isObjectOf_obj, decodeEvent]
    simp only [memberOr_obj, ask_ok, ok_bind]
    refine (judges_toInteger.ask.bind fun _ _ ↦ judges_decodeAttributes.map).congr ⟨?_, ?_⟩
    · rintro ⟨htime, hattributes⟩
      exact ⟨htime, hattributes⟩
    · intro h
      exact ⟨h.time, h.attributes⟩
  | _ =>
    refine .unshaped ?_
    rintro ⟨_, ⟨⟩, _⟩

theorem judges_decodeKind {kind : Json} : Judges DocumentError.category (decodeKind kind) True :=
  .found rfl

theorem judges_decodeStatusCode {code : Json} :
    Judges DocumentError.category (decodeStatusCode code) True := .found rfl

theorem judges_decodeStatus {status : Json} :
    Judges DocumentError.category (decodeStatus status) (IsObject status) := by
  cases status with
  | obj members =>
    rw [decodeStatus]
    simp only [memberOr_obj, ask_ok, ok_bind]
    exact judges_decodeStatusCode.map.congr (iff_of_true trivial ⟨members, rfl⟩)
  | _ =>
    refine .unshaped ?_
    rintro ⟨_, ⟨⟩⟩

/-- What reads an object reads nothing in place of something absent. -/
theorem Judges.orEmptyObject {α : Type} {read : Json → Except DocumentError α} {document : Json}
    (h : ∀ document, Judges DocumentError.category (read document) (IsObject document)) :
    Judges DocumentError.category (read (orEmptyObject document))
      (IfPresent IsObject document) := by
  unfold Otlp.orEmptyObject
  split
  · next hpresent =>
    exact (h document).congr ⟨fun hobject _ ↦ hobject, fun hobject ↦ hobject hpresent⟩
  · next habsent =>
    exact (h (.obj [])).congr (iff_of_true ⟨[], rfl⟩ fun hpresent ↦ absurd hpresent habsent)

/-- Reading an integer member judges whether it is finite. -/
theorem judges_integerMember {members : List (String × Json)} {name : String} :
    Judges DocumentError.category (integerMember name (.obj members))
      (IsFinite (memberIn members name (.int 0))) := by
  rw [integerMember, memberOr_obj, ask_ok, ok_bind]
  exact judges_toInteger.ask

/-- Reading a parent judges whether it is a text, if it is there. -/
theorem judges_parentOf {parent : Json} :
    Judges DocumentError.category (parentOf parent) (IfPresent Json.IsString parent) := by
  unfold parentOf
  split
  · next hpresent =>
    exact judges_small.ask.map.congr ⟨fun h _ ↦ h, fun h ↦ h hpresent⟩
  · next habsent => exact .ok fun hpresent ↦ absurd hpresent habsent

theorem judges_decodeDraft {resource : Mapping} {scope : Scope} {span : Json} :
    Judges DocumentError.category (decodeDraft resource scope span) (IsObjectOf IsSpan span) := by
  cases span with
  | obj members =>
    rw [isObjectOf_obj, decodeDraft]
    simp only [memberOr_obj, ask_ok, ok_bind]
    -- Past the guard both identifiers are present, so that they have to be texts.
    refine .refuse rfl fun hids ↦ ?_
    have hpresent : (memberIn members "traceId" .null).isTruthy = true ∧
        (memberIn members "spanId" .null).isTruthy = true := by simpa using hids
    refine .congr (.bind judges_decodeAttributes fun _ _ ↦
      .listBind ask_eq_ok_iff (fun _ _ ↦ .mapM fun _ _ ↦ judges_decodeEvent) fun _ ↦
      .bind judges_small.ask fun _ _ ↦ .bind judges_small.ask fun _ _ ↦
      .choose judges_parentOf fun _ ↦ .bind judges_decodeKind fun _ _ ↦
      .bind judges_integerMember fun _ _ ↦ .bind judges_integerMember fun _ _ ↦
      .bind judges_integerMember fun _ _ ↦ .bind judges_integerMember fun _ _ ↦
      .map (.orEmptyObject fun _ ↦ judges_decodeStatus)) ⟨?_, ?_⟩
    · rintro ⟨hattributes, hevents, htraceId, hspanId, hparentId, -, hstart, hfinish,
        hdroppedAttributes, hdroppedEvents, hstatus⟩
      exact ⟨fun _ ↦ htraceId, fun _ ↦ hspanId, hparentId, hattributes, hevents, hstart, hfinish,
        hdroppedAttributes, hdroppedEvents, hstatus⟩
    · intro h
      exact ⟨h.attributes, h.events, h.traceId hpresent.1, h.spanId hpresent.2, h.parentId, trivial,
        h.start, h.finish, h.droppedAttributes, h.droppedEvents, h.status⟩
  | _ =>
    refine .unshaped ?_
    rintro ⟨_, ⟨⟩, _⟩

theorem judges_decodeSpan {resource : Mapping} {scope : Scope} {span : Json} :
    Judges OtlpError.category (decodeSpan resource scope span) (IsObjectOf IsSpan span) := by
  have hcheck : ∀ draft : SpanDraft,
      Judges OtlpError.category (draft.check.mapError OtlpError.record) True := by
    intro draft
    cases draft.check with
    | ok record => exact .ok trivial
    | error error => exact .invalid rfl
  have hdraft : Judges OtlpError.category
      ((decodeDraft resource scope span).mapError OtlpError.document) (IsObjectOf IsSpan span) :=
    judges_decodeDraft.mapError fun _ ↦ rfl
  exact (hdraft.bind fun draft _ ↦ hcheck draft).congr (and_iff_left trivial)

/-! ### Blocks -/

theorem judges_decodeScope {library : Json} {block : List (String × Json)} :
    Judges DocumentError.category (decodeScope library (.obj block)) (IsObject library) := by
  cases library with
  | obj members => exact .ok ⟨members, rfl⟩
  | _ =>
    refine .unshaped ?_
    rintro ⟨_, ⟨⟩⟩

/-- The scope of a block, apart from its spans. -/
def HasScope (library : String) (members : List (String × Json)) : Prop :=
  IfPresent IsObject (memberIn members library .null)

theorem judges_decodeScopeBlock {block : Json} :
    Judges DocumentError.category (decodeScopeBlock block)
      (IsObjectOf (HasScope "scope") block) := by
  cases block with
  | obj members =>
    rw [isObjectOf_obj, decodeScopeBlock]
    simp only [memberOr_obj, ask_ok, ok_bind]
    refine (Judges.choose ?_ fun _ ↦ .ok trivial).congr (and_iff_left trivial)
    split
    · next hpresent => exact judges_decodeScope.congr ⟨fun h _ ↦ h, fun h ↦ h hpresent⟩
    · next habsent => exact .ok fun hpresent ↦ absurd hpresent habsent
  | _ =>
    refine .unshaped ?_
    rintro ⟨_, ⟨⟩, _⟩

theorem judges_decodeLibraryBlock {block : Json} :
    Judges DocumentError.category (decodeLibraryBlock block)
      (IsObjectOf (HasScope "instrumentationLibrary") block) := by
  cases block with
  | obj members =>
    rw [isObjectOf_obj, decodeLibraryBlock]
    simp only [memberOr_obj, ask_ok, ok_bind]
    exact (Judges.orEmptyObject fun _ ↦ judges_decodeScope).map
  | _ =>
    refine .unshaped ?_
    rintro ⟨_, ⟨⟩, _⟩

/-- Decoding the blocks of an entry judges their scopes in both layouts. -/
theorem judges_decodeBlocks {members : List (String × Json)} :
    Judges DocumentError.category (decodeBlocks (.obj members))
      (IsListOf (IsObjectOf (HasScope "scope")) (memberIn members "scopeSpans" (.arr [])) ∧
        IsListOf (IsObjectOf (HasScope "instrumentationLibrary"))
          (memberIn members "instrumentationLibrarySpans" (.arr []))) := by
  rw [decodeBlocks]
  simp only [memberOr_obj, ask_ok, ok_bind]
  exact .listBind ask_eq_ok_iff (fun _ _ ↦ .mapM fun _ _ ↦ judges_decodeScopeBlock) fun _ ↦
    .congr (.listBind ask_eq_ok_iff (fun _ _ ↦ .mapM fun _ _ ↦ judges_decodeLibraryBlock) fun _ ↦
      .ok trivial) (and_iff_left trivial)

/-- What is asked of a resource apart from the spans of its blocks. -/
structure HasHead (members : List (String × Json)) : Prop where
  resource : IsObjectOf (fun resource ↦ IsAttributes (memberIn resource "attributes" (.arr [])))
    (memberIn members "resource" (.obj []))
  current : IsListOf (IsObjectOf (HasScope "scope")) (memberIn members "scopeSpans" (.arr []))
  former : IsListOf (IsObjectOf (HasScope "instrumentationLibrary"))
    (memberIn members "instrumentationLibrarySpans" (.arr []))

theorem judges_attributesOf {resource : Json} :
    Judges DocumentError.category
      (ask (resource.memberOr "attributes" (.arr [])) >>= decodeAttributes)
      (IsObjectOf (fun members ↦ IsAttributes (memberIn members "attributes" (.arr [])))
        resource) := by
  cases resource with
  | obj members =>
    rw [isObjectOf_obj, memberOr_obj, ask_ok, ok_bind]
    exact judges_decodeAttributes
  | _ =>
    refine .unshaped ?_
    rintro ⟨_, ⟨⟩, _⟩

/-- Decoding the head of an entry judges its resource and its scopes. -/
theorem judges_decodeEntryHead {members : List (String × Json)} :
    Judges DocumentError.category (decodeEntryHead (.obj members)) (HasHead members) := by
  rw [decodeEntryHead, memberOr_obj, ask_ok, ok_bind]
  simp only [← bind_assoc]
  refine .congr (.bind judges_attributesOf fun _ _ ↦ .map judges_decodeBlocks) ⟨?_, ?_⟩
  · rintro ⟨hresource, hcurrent, hformer⟩
    exact ⟨hresource, hcurrent, hformer⟩
  · intro h
    exact ⟨h.resource, h.current, h.former⟩

/-! ### Spans of blocks -/

def HasSpans (members : List (String × Json)) : Prop :=
  IsListOf (IsObjectOf IsSpan) (memberIn members "spans" (.arr []))

/-- Blocks are shaped where their scopes and their spans are. -/
theorem isListOf_isBlock_iff {library : String} {document : Json} :
    IsListOf (IsObjectOf (IsBlock library)) document ↔
      IsListOf (IsObjectOf (HasScope library)) document ∧
        IsListOf (IsObjectOf HasSpans) document := by
  constructor
  · rintro ⟨items, hitems, hall⟩
    refine ⟨⟨items, hitems, fun item hitem ↦ ?_⟩, items, hitems, fun item hitem ↦ ?_⟩
    · obtain ⟨members, rfl, h⟩ := hall item hitem
      exact ⟨members, rfl, h.library⟩
    · obtain ⟨members, rfl, h⟩ := hall item hitem
      exact ⟨members, rfl, h.spans⟩
  · rintro ⟨⟨items, hitems, hscopes⟩, hspans⟩
    rw [isListOf_iff hitems] at hspans
    refine ⟨items, hitems, fun item hitem ↦ ?_⟩
    obtain ⟨members, rfl, hscope⟩ := hscopes item hitem
    exact ⟨members, rfl, hscope, isObjectOf_obj.1 (hspans _ hitem)⟩

/-- The spans of blocks are shaped where those of their documents are. -/
theorem forall_spans_iff {items : List Json} {blocks : List Block}
    (h : List.Forall₂ (fun item block ↦ item.memberOr "spans" (.arr []) = .ok block.spans) items
      blocks) :
    (∀ block ∈ blocks, IsListOf (IsObjectOf IsSpan) block.spans) ↔
      ∀ item ∈ items, IsObjectOf HasSpans item := by
  induction h with
  | nil => simp
  | @cons item block items blocks hspans _ ih =>
    rw [List.forall_mem_cons, List.forall_mem_cons, ih]
    refine and_congr_left' ?_
    cases item with
    | obj members =>
      rw [isObjectOf_obj, ← Except.ok.inj hspans]
      rfl
    | _ => cases hspans

/-- The items of a list member are the elements in its place. -/
theorem elements_of_listMember {members : List (String × Json)} {name : String} {items : List Json}
    (h : listMember name (.obj members) = .ok items) :
    (memberIn members name (.arr [])).elements = .ok items := by
  rw [listMember, memberOr_obj, ask_ok, ok_bind] at h
  exact ask_eq_ok_iff.1 h

/-- The spans of decoded blocks are shaped where those of both layouts are. -/
theorem forall_spans_iff_of_decodeBlocks {members : List (String × Json)} {blocks : List Block}
    (h : decodeBlocks (.obj members) = .ok blocks) :
    (∀ block ∈ blocks, IsListOf (IsObjectOf IsSpan) block.spans) ↔
      IsListOf (IsObjectOf HasSpans) (memberIn members "scopeSpans" (.arr [])) ∧
        IsListOf (IsObjectOf HasSpans)
          (memberIn members "instrumentationLibrarySpans" (.arr [])) := by
  obtain ⟨currentItems, current, formerItems, former, hcurrentItems, hcurrent, hformerItems,
    hformer, rfl⟩ := decodeBlocks_eq_ok_iff.1 h
  have hcurrentSpans := (mapM_eq_ok_iff.1 hcurrent).imp fun item block hblock ↦ by
    obtain ⟨_, _, _, hspans⟩ := decodeScopeBlock_eq_ok_iff.1 hblock
    exact hspans
  have hformerSpans := (mapM_eq_ok_iff.1 hformer).imp fun item block hblock ↦ by
    obtain ⟨_, _, _, hspans⟩ := decodeLibraryBlock_eq_ok_iff.1 hblock
    exact hspans
  rw [List.forall_mem_append, forall_spans_iff hcurrentSpans, forall_spans_iff hformerSpans,
    isListOf_iff (elements_of_listMember hcurrentItems),
    isListOf_iff (elements_of_listMember hformerItems)]

theorem judges_decodeBlock {resource : Mapping} {block : Block} :
    Judges OtlpError.category (decodeBlock resource block)
      (IsListOf (IsObjectOf IsSpan) block.spans) :=
  .list (mapError_eq_ok_iff.trans ask_eq_ok_iff) fun _ _ ↦ .mapM fun _ _ ↦ judges_decodeSpan

/-! ### Documents -/

theorem judges_decodeResource {entry : Json} :
    Judges OtlpError.category (decodeResource entry) (IsObjectOf IsResource entry) := by
  cases entry with
  | obj members =>
    -- The blocks are known only once all their scopes have been read.
    have hspans : ∀ resource blocks, decodeEntryHead (.obj members) = .ok (resource, blocks) →
        Judges OtlpError.category (blocks.mapM (decodeBlock resource))
          (IsListOf (IsObjectOf HasSpans) (memberIn members "scopeSpans" (.arr [])) ∧
            IsListOf (IsObjectOf HasSpans)
              (memberIn members "instrumentationLibrarySpans" (.arr []))) := by
      intro resource blocks hhead
      obtain ⟨_, _, -, -, -, hblocks⟩ := decodeEntryHead_eq_ok_iff.1 hhead
      exact .congr (.mapM fun _ _ ↦ judges_decodeBlock) (forall_spans_iff_of_decodeBlocks hblocks)
    rw [isObjectOf_obj, decodeResource]
    refine .congr (.bind (.mapError judges_decodeEntryHead fun _ ↦ rfl) fun head hhead ↦
      .map (hspans head.1 head.2 (mapError_eq_ok_iff.1 hhead))) ⟨?_, ?_⟩
    · rintro ⟨hhead, hcurrent, hformer⟩
      exact ⟨hhead.resource, isListOf_isBlock_iff.2 ⟨hhead.current, hcurrent⟩,
        isListOf_isBlock_iff.2 ⟨hhead.former, hformer⟩⟩
    · intro h
      obtain ⟨hcurrentHead, hcurrent⟩ := isListOf_isBlock_iff.1 h.current
      obtain ⟨hformerHead, hformer⟩ := isListOf_isBlock_iff.1 h.former
      exact ⟨⟨h.resource, hcurrentHead, hformerHead⟩, hcurrent, hformer⟩
  | _ =>
    refine .unshaped ?_
    rintro ⟨_, ⟨⟩, _⟩

/-- Reading a document judges its shape. -/
theorem judges_decode {document : Json} :
    Judges OtlpError.category (decode document) (IsShaped document) := by
  unfold decode
  cases hresources : resourceSpans? document with
  | none => exact .invalid rfl
  | some resources =>
    obtain ⟨members, rfl⟩ : IsObject document := by
      cases document with
      | obj members => exact ⟨members, rfl⟩
      | _ => cases hresources
    refine .congr (.listBind (mapError_eq_ok_iff.trans ask_eq_ok_iff)
      (fun _ _ ↦ .mapM fun _ _ ↦ judges_decodeResource) fun _ ↦ .ok trivial) ?_
    rw [and_true]
    constructor
    · rintro h _ _ ⟨⟩ hlookup
      rwa [Option.some.inj (hlookup.symm.trans hresources)]
    · intro h
      exact h members resources rfl hresources

end SpanBridge.Otlp
