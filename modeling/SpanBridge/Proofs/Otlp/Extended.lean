import SpanBridge.Proofs.Otlp.Composition
import SpanBridge.Proofs.Otlp.Extension

/-!
# Reading extended documents

What is read of a document is read of an extended one too, part by part: values, attributes, events,
spans, blocks and resources. One thing changes on the way. In the current layout an empty scope
counts as missing, and then the schema of its block does not count either; a scope that is extended
is not empty any more. So the records of an extended document are the same but for the schemas of
their scopes (`carries_decode`).
-/

set_option autoImplicit false
set_option relaxedAutoImplicit false

namespace SpanBridge

/-- Records that differ in the schemas of their scopes at most. -/
def SpanRecord.AlikeButSchema (record record' : SpanRecord) : Prop :=
  record'.mapScope Otlp.withoutSchema = record.mapScope Otlp.withoutSchema

/-- Only the scope that a record has matters. -/
theorem SpanRecord.mapScope_congr {record : SpanRecord} {f g : Scope → Scope}
    (h : f record.scope = g record.scope) : record.mapScope f = record.mapScope g := by
  rw [mapScope, mapScope, h]

namespace Otlp

variable {document document' : Json}

/-! ### Values -/

/-- The scalar of a value depends on its known kinds only. -/
theorem scalarMember?_congr {members members' : List (String × Json)}
    (h : ∀ kind ∈ valueKinds.dropLast, members'.lookup kind = members.lookup kind) :
    scalarMember? members' = scalarMember? members := by
  unfold scalarMember?
  generalize valueKinds.dropLast = kinds at h ⊢
  induction kinds with
  | nil => rfl
  | cons kind kinds ih =>
    rw [List.findSome?_cons, List.findSome?_cons, h kind List.mem_cons_self,
      ih fun other hother ↦ h other (List.mem_cons_of_mem _ hother)]

/-- What is read of a document in the places where values are read is read of another. -/
def ReadsAlike : Reading → Json → Json → Prop
  | .part .value, document, document' => Carries Eq (decodeValue document) (decodeValue document')
  | .part .array, document, document' => Carries Eq (arrayItems document) (arrayItems document')
  | .list .value, document, document' =>
    Carries Eq (decodeSequence document) (decodeSequence document')
  | _, _, _ => True

theorem ReadsAlike.refl (reading : Reading) (document : Json) :
    ReadsAlike reading document document := by
  unfold ReadsAlike
  split <;> first | exact .refl _ | trivial

/-- An object is read as a value of the kinds without parts, if it has one of them, and otherwise as
the array that it has. -/
theorem carries_decodeValue_obj {members members' : List (String × Json)}
    (hscalar : ∀ kind ∈ valueKinds.dropLast, members'.lookup kind = members.lookup kind)
    (harray : Option.Rel (ReadsAlike (.part .array)) (members.lookup "arrayValue")
      (members'.lookup "arrayValue")) :
    Carries Eq (decodeValue (.obj members)) (decodeValue (.obj members')) := by
  rw [decodeValue, decodeValue, scalarMember?_congr hscalar, arrayMember?_eq, arrayMember?_eq]
  cases scalarMember? members with
  | some value => exact .refl value
  | none =>
    generalize members.lookup "arrayValue" = found, members'.lookup "arrayValue" = found' at harray
    cases harray with
    | none => exact .of_ne_ok fun _ ↦ unsupported_ne_ok
    | some hitems =>
      have hitems : Carries Eq (arrayItems _) (arrayItems _) := hitems
      exact hitems.bind fun items _ h ↦ h ▸ .refl (sequenceOf items)

/-- An array whose values are read alike has the same items. -/
theorem carries_arrayItems_obj {members members' : List (String × Json)}
    (h : Option.Rel (ReadsAlike (.list .value)) (members.lookup "values")
      (members'.lookup "values")) :
    Carries Eq (arrayItems (.obj members)) (arrayItems (.obj members')) := by
  rw [arrayItems, arrayItems, valuesMember?_eq, valuesMember?_eq]
  generalize members.lookup "values" = found, members'.lookup "values" = found' at h
  cases h with
  | none => exact .refl _
  | some hvalues => exact hvalues

/-- Values, arrays and lists of values are read of extended ones. The three depend on each other, so
that this is one statement; the induction is on how the document is extended. -/
theorem Extends.readsAlike {reading : Reading} (h : Extends reading document document') :
    ReadsAlike reading document document' := by
  induction h with
  | refl reading document => exact .refl reading document
  | @part part changes added members hchanges hadded hperm hnames ih =>
    cases part with
    | value =>
      have hplain : ∀ kind ∈ valueKinds.dropLast, Part.value.reading? kind = some .plain := by
        decide
      refine carries_decodeValue_obj (fun kind hkind ↦ ?_)
        (lookup_of_changes ih hadded hperm hnames rfl)
      exact eq_of_rel_plain (lookup_of_changes hchanges hadded hperm hnames (hplain kind hkind))
    | array => exact carries_arrayItems_obj (lookup_of_changes ih hadded hperm hnames rfl)
    | _ => trivial
  | @list part changes hchanges ih =>
    cases part with
    | value =>
      show Carries Eq (decodeSequence _) (decodeSequence _)
      rw [decodeSequence, decodeSequence, decodeItems_eq, decodeItems_eq, ← List.forall₂_eq_eq_eq]
      refine .mapM ?_
      rw [List.forall₂_map_left_iff, List.forall₂_map_right_iff, List.forall₂_same]
      exact ih
    | _ => trivial

theorem carries_decodeValue (h : Extends (.part .value) document document') :
    Carries Eq (decodeValue document) (decodeValue document') :=
  h.readsAlike

/-! ### Attributes, events and statuses -/

theorem carries_decodeEntry (h : Extends (.part .attribute) document document')
    (attributes : Mapping) :
    Carries Eq (decodeEntry attributes document) (decodeEntry attributes document') := by
  unfold decodeEntry
  rw [h.memberOr_eq "key" rfl]
  refine .bind_same fun key ↦ ?_
  split
  · exact .refl _
  · refine (h.memberOr "value" rfl _).bind fun _ _ hmember ↦ ?_
    exact (carries_decodeValue hmember).bind fun value _ heq ↦ heq ▸ .refl _

theorem carries_decodeAttributes (h : Extends (.list .attribute) document document') :
    Carries Eq (decodeAttributes document) (decodeAttributes document') :=
  h.elements.bind fun _ _ hentries ↦
    .foldlM (hentries.imp fun _ _ hentry ↦ carries_decodeEntry hentry) .empty

theorem carries_decodeEvent (h : Extends (.part .event) document document') :
    Carries Eq (decodeEvent document) (decodeEvent document') := by
  unfold decodeEvent
  rw [h.memberOr_eq "name" rfl, h.memberOr_eq "timeUnixNano" rfl]
  refine .bind_same fun name ↦ .bind_same fun time ↦ .bind_same fun timestamp ↦ ?_
  refine (h.memberOr "attributes" rfl _).bind fun _ _ hlist ↦ ?_
  exact (carries_decodeAttributes hlist).bind fun attributes _ heq ↦ heq ▸ .refl _

/-- An extended status is decoded as before, or fails as before. -/
theorem decodeStatus_congr (h : Extends (.part .status) document document') :
    decodeStatus document' = decodeStatus document := by
  rw [decodeStatus, decodeStatus, h.memberOr_eq "code" rfl, h.memberOr_eq "message" rfl]

/-! ### Spans -/

/-- An extended part has its integer members as before. -/
theorem integerMember_congr {part : Part} (h : Extends (.part part) document document')
    (name : String) (hread : part.reading? name = some .plain) :
    integerMember name document' = integerMember name document := by
  rw [integerMember, integerMember, h.memberOr_eq name hread]

/-- An extended span says what the span says. -/
theorem IsDraftOf.extended {resource : Mapping} {scope : Scope} {span span' : Json}
    {draft : SpanDraft} (hdraft : IsDraftOf resource scope span draft)
    (h : Extends (.part .span) span span') : IsDraftOf resource scope span' draft where
  traceId := h.memberOr_eq "traceId" rfl _ ▸ hdraft.traceId
  spanId := h.memberOr_eq "spanId" rfl _ ▸ hdraft.spanId
  parentId := h.memberOr_eq "parentSpanId" rfl _ ▸ hdraft.parentId
  attributes := by
    obtain ⟨list, hlist, hattributes⟩ := hdraft.attributes
    obtain ⟨list', hlist', hextends⟩ := h.memberOr "attributes" rfl _ _ (ask_eq_ok_iff.2 hlist)
    obtain ⟨_, hattributes', rfl⟩ := carries_decodeAttributes hextends _ hattributes
    exact ⟨list', ask_eq_ok_iff.1 hlist', hattributes'⟩
  events := by
    obtain ⟨list, items, hlist, hitems, hevents⟩ := hdraft.events
    obtain ⟨list', hlist', hextends⟩ := h.memberOr "events" rfl _ _ (ask_eq_ok_iff.2 hlist)
    obtain ⟨items', hitems', hextends⟩ := hextends.elements _ (ask_eq_ok_iff.2 hitems)
    obtain ⟨_, hevents', heq⟩ :=
      Carries.mapM (hextends.imp fun _ _ hevent ↦ carries_decodeEvent hevent) _ hevents
    obtain rfl := List.forall₂_eq_eq_eq ▸ heq
    exact ⟨list', items', ask_eq_ok_iff.1 hlist', ask_eq_ok_iff.1 hitems', hevents'⟩
  name := h.memberOr_eq "name" rfl _ ▸ hdraft.name
  kind := h.memberOr_eq "kind" rfl _ ▸ hdraft.kind
  start := integerMember_congr h "startTimeUnixNano" rfl ▸ hdraft.start
  finish := integerMember_congr h "endTimeUnixNano" rfl ▸ hdraft.finish
  totalAttributes := integerMember_congr h "droppedAttributesCount" rfl ▸ hdraft.totalAttributes
  totalEvents := integerMember_congr h "droppedEventsCount" rfl ▸ hdraft.totalEvents
  status := by
    obtain ⟨status, hstatus, hdecoded⟩ := hdraft.status
    obtain ⟨status', hstatus', hextends⟩ := h.memberOr "status" rfl _ _ (ask_eq_ok_iff.2 hstatus)
    exact ⟨status', ask_eq_ok_iff.1 hstatus',
      decodeStatus_congr hextends.orEmptyObject ▸ hdecoded⟩
  resource := hdraft.resource
  scope := hdraft.scope

/-- An extended span is decoded as before, up to the schema of its scope. -/
theorem carries_decodeSpan {resource : Mapping} {scope scope' : Scope}
    (hscope : withoutSchema scope' = withoutSchema scope)
    (h : Extends (.part .span) document document') :
    Carries SpanRecord.AlikeButSchema (decodeSpan resource scope document)
      (decodeSpan resource scope' document') := by
  intro record hrecord
  have hdraft := decodeSpan_eq_ok_iff.1 hrecord
  have hrecord' := decodeSpan_eq_ok_iff.2 (hdraft.extended h)
  refine ⟨record.mapScope fun _ ↦ scope', ?_, ?_⟩
  · rw [decodeSpan_mapScope (fun _ ↦ scope') resource scope, hrecord']
    rfl
  · have hown : record.scope = scope := hdraft.scope
    have hscopes : withoutSchema scope' = withoutSchema record.scope := hown ▸ hscope
    exact SpanRecord.mapScope_congr (f := fun _ ↦ withoutSchema scope') hscopes

/-! ### Scopes and blocks -/

/-- An extended scope in an extended block is decoded as before. -/
theorem decodeScope_congr {layout : Layout} {library library' block block' : Json}
    (hlibrary : Extends (.part .scope) library library')
    (hblock : Extends (.part (.block layout)) block block') :
    decodeScope library' block' = decodeScope library block := by
  have hschema : (Part.block layout).reading? "schemaUrl" = some .plain := by
    cases layout <;> rfl
  rw [decodeScope, decodeScope, hlibrary.memberOr_eq "name" rfl,
    hlibrary.memberOr_eq "version" rfl, hblock.memberOr_eq "schemaUrl" hschema]

/-- But for the schema a missing scope is read as an empty one, in either layout. -/
theorem readScope_withoutSchema (layout : Layout) (block : Json) :
    withoutSchema <$> layout.readScope block =
      (ask (block.memberOr layout.scopeName .null) >>= fun library ↦
        withoutSchema <$> decodeScope (orEmptyObject library) block) := by
  cases layout with
  | former =>
    rw [Layout.readScope, map_bind]
    refine bind_congr fun library ↦ ?_
    cases decodeScope (orEmptyObject library) block <;> rfl
  | current =>
    rw [Layout.readScope, map_bind]
    show (ask (block.memberOr "scope" .null) >>= _) = (ask (block.memberOr "scope" .null) >>= _)
    cases hfound : block.memberOr "scope" .null with
    | error error => rfl
    | ok library =>
      rw [ask_ok, ok_bind, ok_bind]
      cases htruthy : library.isTruthy with
      | true => rw [if_pos rfl, orEmptyObject, if_pos htruthy]
      | false =>
        obtain ⟨schema, hschema⟩ := exists_memberOr hfound "schemaUrl" .null
        rw [if_neg Bool.false_ne_true, orEmptyObject, if_neg (by simp [htruthy]), decodeScope,
          hschema]
        rfl

/-- An extended block has its scope as before, up to the schema. -/
theorem carries_readScope {layout : Layout}
    (h : Extends (.part (.block layout)) document document') :
    Carries (fun scope scope' ↦ withoutSchema scope' = withoutSchema scope)
      (layout.readScope document) (layout.readScope document') := by
  have hread : (Part.block layout).reading? layout.scopeName = some (.part .scope) := by
    cases layout <;> rfl
  intro scope hscope
  have hmapped : withoutSchema <$> layout.readScope document = .ok (withoutSchema scope) := by
    rw [hscope]
    rfl
  rw [readScope_withoutSchema] at hmapped
  obtain ⟨library, hlibrary, hmapped⟩ := bind_eq_ok_iff.1 hmapped
  obtain ⟨library', hlibrary', hextends⟩ := h.memberOr _ hread _ _ hlibrary
  have hmapped' : withoutSchema <$> layout.readScope document' = .ok (withoutSchema scope) := by
    rw [readScope_withoutSchema, hlibrary', ok_bind, decodeScope_congr hextends.orEmptyObject h,
      hmapped]
  exact map_eq_ok_iff.1 hmapped'

/-- Blocks with the same scope but for the schema, and with spans of which the second extend the
first. -/
structure Block.Extends (block block' : Block) : Prop where
  scope : withoutSchema block'.scope = withoutSchema block.scope
  spans : Otlp.Extends (.list .span) block.spans block'.spans

/-- An extended block is read as an extension of the block. -/
theorem carries_readBlock {layout : Layout}
    (h : Extends (.part (.block layout)) document document') :
    Carries Block.Extends (layout.readBlock document) (layout.readBlock document') := by
  have hread : (Part.block layout).reading? "spans" = some (.list .span) := by
    cases layout <;> rfl
  rw [Layout.readBlock_eq, Layout.readBlock_eq]
  exact (carries_readScope h).bind fun _ _ hscope ↦
    (h.memberOr "spans" hread _).map fun _ _ hspans ↦ ⟨hscope, hspans⟩

theorem carries_layoutBlocks (layout : Layout) (h : Extends (.part .entry) document document') :
    Carries (List.Forall₂ Block.Extends) (layoutBlocks layout document)
      (layoutBlocks layout document') := by
  have hread : Part.entry.reading? layout.blocksName = some (.list (.block layout)) := by
    cases layout <;> rfl
  exact (h.listMember _ hread).bind fun _ _ hblocks ↦
    .mapM (hblocks.imp fun _ _ hblock ↦ carries_readBlock hblock)

theorem carries_decodeBlocks (h : Extends (.part .entry) document document') :
    Carries (List.Forall₂ Block.Extends) (decodeBlocks document) (decodeBlocks document') := by
  rw [decodeBlocks_eq_layoutBlocks, decodeBlocks_eq_layoutBlocks]
  exact (carries_layoutBlocks .current h).inTurn (carries_layoutBlocks .former h)

/-! ### Records -/

theorem carries_decodeBlock {resource : Mapping} {block block' : Block}
    (h : block.Extends block') :
    Carries (List.Forall₂ SpanRecord.AlikeButSchema) (decodeBlock resource block)
      (decodeBlock resource block') :=
  h.spans.elements.mapError.bind fun _ _ hspans ↦
    .mapM (hspans.imp fun _ _ hspan ↦ carries_decodeSpan h.scope hspan)

theorem carries_decodeAll {resource : Mapping} {blocks blocks' : List Block}
    (h : List.Forall₂ Block.Extends blocks blocks') :
    Carries (List.Forall₂ SpanRecord.AlikeButSchema) (decodeAll resource blocks)
      (decodeAll resource blocks') :=
  (Carries.mapM (h.imp fun _ _ hblock ↦ carries_decodeBlock hblock)).map fun _ _ hlists ↦
    List.rel_flatten hlists

theorem carries_resourceAttributes (h : Extends (.part .entry) document document') :
    Carries Eq (resourceAttributes document) (resourceAttributes document') :=
  (h.memberOr "resource" rfl _).bind fun _ _ hresource ↦
    (hresource.memberOr "attributes" rfl _).bind fun _ _ hlist ↦ carries_decodeAttributes hlist

theorem carries_decodeResource (h : Extends (.part .entry) document document') :
    Carries (List.Forall₂ SpanRecord.AlikeButSchema) (decodeResource document)
      (decodeResource document') := by
  intro records hrecords
  obtain ⟨attributes, blocks, hattributes, hblocks, hall⟩ :=
    decodeResource_eq_ok_iff_decodeAll.1 hrecords
  obtain ⟨_, hattributes', rfl⟩ := carries_resourceAttributes h _ hattributes
  obtain ⟨blocks', hblocks', hextends⟩ := carries_decodeBlocks h _ hblocks
  obtain ⟨records', hall', halike⟩ := carries_decodeAll hextends _ hall
  exact ⟨records', decodeResource_eq_ok_iff_decodeAll.2 ⟨_, blocks', hattributes', hblocks', hall'⟩,
    halike⟩

/-- An extended document lists extended resources. -/
theorem resourceSpans?_of_extends (h : Extends (.part .document) document document') :
    Option.Rel (Extends (.list .entry)) (resourceSpans? document) (resourceSpans? document') := by
  cases h with
  | refl =>
    cases resourceSpans? document with
    | none => exact .none
    | some resources => exact .some (.refl _ _)
  | part changes added hchanges hadded hperm hnames =>
    exact lookup_of_changes hchanges hadded hperm hnames rfl

/-- Of an extended document the same records are read, but for the schemas of their scopes. -/
theorem carries_decode (h : Extends (.part .document) document document') :
    Carries (List.Forall₂ SpanRecord.AlikeButSchema) (decode document) (decode document') := by
  have hresources := resourceSpans?_of_extends h
  unfold decode
  generalize resourceSpans? document = found, resourceSpans? document' = found' at hresources
  cases hresources with
  | none => exact .of_ne_ok nofun
  | some hlist =>
    refine hlist.elements.mapError.bind fun _ _ hentries ↦ ?_
    refine (Carries.mapM (hentries.imp fun _ _ hentry ↦ carries_decodeResource hentry)).bind ?_
    exact fun _ _ hlists ↦ .ok (List.rel_flatten hlists)

end Otlp
end SpanBridge
