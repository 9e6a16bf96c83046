import SpanBridge.Pipeline
import SpanBridge.Proofs.Otlp.LetterCase
import SpanBridge.Proofs.Outline

/-!
# Links between spans

A span names its parent and its trace by identifiers, which a document may write in letters of any
case. The identifiers of a converted span are those of its span in the document in small letters
(`forall₂_givesIds`), so that a link between spans is kept when both ends of it have the same
letters (`keepsLinks_of_forall₂`). The case of letters makes no difference to anything else that is
read of a document either (`letter_case_is_ignored`).
-/

set_option autoImplicit false
set_option relaxedAutoImplicit false

namespace SpanBridge.Pipeline

open Otlp Text.LetterCase

/-- A span of a document gives the identifiers of a converted span. -/
structure GivesIds (span : Json) (converted : ZipkinSpan) : Prop where
  traceId : GivesId "traceId" span converted.traceId
  id : GivesId "spanId" span converted.id
  parentId : ∃ document, span.memberOr "parentSpanId" .null = .ok document ∧
    parentOf document = .ok converted.parentId

theorem givesIds_of_isRecordOf {raw : RawSpan} {record : SpanRecord} {span : ZipkinSpan} {σ : Type}
    {source : AddressSource σ} {state : σ} (h : IsRecordOf raw record)
    (hspan : (Conversion.convert source record state).result = .ok span) :
    GivesIds raw.span span := by
  obtain ⟨resource, block, -, -, hrecord⟩ := h
  have hdraft := decodeSpan_eq_ok_iff.1 hrecord
  obtain ⟨htraceId, hid, hparentId⟩ := Conversion.identifiers_of_convert hspan
  exact {
    traceId := htraceId ▸ hdraft.givesTraceId
    id := hid ▸ hdraft.givesSpanId
    parentId := hparentId ▸ hdraft.parentId }

theorem forall₂_givesIds {document : Json} {records : List SpanRecord} {spans : List ZipkinSpan}
    {σ : Type} {source : AddressSource σ} {state : σ} (h : decode document = .ok records)
    (hspans : (convertSpans source records state).result = .ok spans) :
    List.Forall₂ (fun raw span ↦ GivesIds raw.span span) (rawSpans document) spans := by
  have hboth := exists_forall₂_comp.1
    ⟨records, forall₂_isRecordOf_rawSpans h, Conversion.forall₂_of_convertAll hspans⟩
  refine hboth.imp ?_
  rintro raw span ⟨record, hrecord, state, hspan⟩
  exact givesIds_of_isRecordOf hrecord hspan

/-! ### Links -/

/-- Two objects hold the same text under their names, up to the case of letters. -/
def SharesText (name name' : String) (document document' : Json) : Prop :=
  ∃ text text', document.memberOr name .null = .ok (.str text) ∧
    document'.memberOr name' .null = .ok (.str text') ∧ SameLetters text text'

/-- Converted spans are linked as the spans of a document that they come from, which they stand
beside: spans with the same trace have the same trace, and a span has the parent it names. -/
structure KeepsLinks (pairs : List (RawSpan × ZipkinSpan)) : Prop where
  trace : ∀ first ∈ pairs, ∀ second ∈ pairs,
    SharesText "traceId" "traceId" first.1.span second.1.span →
      first.2.traceId = second.2.traceId
  parent : ∀ child ∈ pairs, ∀ parent ∈ pairs,
    SharesText "parentSpanId" "spanId" child.1.span parent.1.span →
      child.2.parentId = some parent.2.id

/-- An identifier is the small form of the text under its name. -/
theorem eq_toSmall_of_givesId {name id text : String} {document : Json}
    (h : GivesId name document id)
    (htext : document.memberOr name .null = .ok (.str text)) : text ≠ "" ∧ id = toSmall text := by
  obtain ⟨given, hgiven, hne, hid⟩ := h
  obtain rfl := Json.str.inj (Except.ok.inj (hgiven.symm.trans htext))
  exact ⟨hne, hid⟩

/-- Spans that have the identifiers given keep the links between them. -/
theorem keepsLinks_of_forall₂ {raws : List RawSpan} {spans : List ZipkinSpan}
    (h : List.Forall₂ (fun raw span ↦ GivesIds raw.span span) raws spans) :
    KeepsLinks (raws.zip spans) where
  trace first hfirst second hsecond := by
    rintro ⟨text, text', htext, htext', hletters⟩
    obtain ⟨-, hid⟩ := eq_toSmall_of_givesId (List.forall₂_zip h hfirst).traceId htext
    obtain ⟨-, hid'⟩ := eq_toSmall_of_givesId (List.forall₂_zip h hsecond).traceId htext'
    rw [hid, hid', hletters.toSmall_eq]
  parent child hchild parent hparent := by
    rintro ⟨text, text', htext, htext', hletters⟩
    obtain ⟨hne, hid⟩ := eq_toSmall_of_givesId (List.forall₂_zip h hparent).id htext'
    obtain ⟨document, hdocument, hparentId⟩ := (List.forall₂_zip h hchild).parentId
    obtain rfl := Except.ok.inj (hdocument.symm.trans htext)
    have htruthy := isTruthy_str (hletters.eq_empty_iff.not.2 hne)
    rw [parentOf, if_pos htruthy] at hparentId
    rw [hid, ← hletters.toSmall_eq]
    exact (Except.ok.inj hparentId).symm

/-! ### The case of letters -/

/-- The case of the letters from A to Z makes no difference in the identifiers of spans, in the
names of their kinds and in the codes of their statuses. A document with letters of another case
there yields the same records or fails with an error of the same category. Links between spans that
have the same letters are kept in the spans that they are converted to. A text is a kind or a code
when its capital form is the name of one, with one word before it or none. -/
theorem letter_case_is_ignored :
    (∀ document document', RecasedDocument document document' →
      (decode document').mapError OtlpError.category =
        (decode document).mapError OtlpError.category) ∧
    (∀ document records, decode document = .ok records →
      ∀ {σ : Type} (source : AddressSource σ) state spans,
        (convertSpans source records state).result = .ok spans →
          spans.length = (rawSpans document).length ∧ KeepsLinks ((rawSpans document).zip spans)) ∧
    (∀ text kind, decodeKind (.str text) = .ok kind ↔
      IsNameIn "SPAN_KIND_" kind.name text ∨
        kind = .internal ∧ IsNameIn "SPAN_KIND_" "UNSPECIFIED" text) ∧
    ∀ text code, decodeStatusCode (.str text) = .ok code ↔
      IsNameIn "STATUS_CODE_" code.name text := by
  refine ⟨?case, ?links, ?kind, ?code⟩
  case case => exact fun _ _ h ↦ (agrees_decode h).mapError_eq
  case links =>
    intro document records h σ source state spans hspans
    have hids := forall₂_givesIds h hspans
    exact ⟨hids.length_eq.symm, keepsLinks_of_forall₂ hids⟩
  case kind => exact fun _ _ ↦ decodeKind_str_eq_ok_iff
  case code => exact fun _ _ ↦ decodeStatusCode_str_eq_ok_iff

/-- A span with its identifiers, its kind and the code of its status. -/
def parentSpan (traceId spanId kind code : String) : Json :=
  .obj [("traceId", .str traceId), ("spanId", .str spanId), ("kind", .str kind),
    ("status", .obj [("code", .str code)])]

/-- A document with a span and its child. -/
def linkedDocument (parent : Json) : Json :=
  .obj [("resourceSpans", .arr [.obj [("scopeSpans", .arr [.obj [("spans", .arr [parent,
    .obj [("traceId", .str "0aΣ"), ("spanId", .str "c"), ("parentSpanId", .str "bΣ")]])]])]])]

/-- The parent span is recased where its texts are. -/
theorem recased_parentSpan {traceId traceId' spanId spanId' kind kind' code code' : String}
    (htraceId : SameLetters traceId traceId') (hspanId : SameLetters spanId spanId')
    (hkind : SameLetters kind kind') (hcode : SameLetters code code') :
    RecasedSpan (parentSpan traceId spanId kind code) (parentSpan traceId' spanId' kind' code') :=
  .obj (.cons ⟨rfl, Recased.str htraceId⟩ (.cons ⟨rfl, Recased.str hspanId⟩
    (.cons ⟨rfl, Recased.str hkind⟩ (.cons ⟨rfl, ChangesMembers.obj
      (.cons ⟨rfl, Recased.str hcode⟩ .nil)⟩ .nil))))

/-- The document of two linked spans is recased where the parent is. -/
theorem recased_linkedDocument {parent parent' : Json} (h : RecasedSpan parent parent') :
    RecasedDocument (linkedDocument parent) (linkedDocument parent') := by
  refine .obj (.cons ⟨rfl, ChangesItems.arr (.cons ?entry .nil)⟩ .nil)
  refine ChangesMembers.obj (.cons ⟨rfl, ChangesItems.arr (.cons ?block .nil)⟩ .nil)
  exact ChangesMembers.obj (.cons ⟨rfl, ChangesItems.arr (.cons h (.cons (.refl _) .nil))⟩ .nil)

/-- A final sigma and letters with several capitals are recased in a parent span and its child. -/
theorem letter_case_is_ignored_linkedDocument :
    let document := linkedDocument (parentSpan "0AΣ" "BΣ" "SPAN_KIND_ſerVER" "Status_Code_oK")
    let document' := linkedDocument (parentSpan "0aΣ" "bΣ" "span_kind_ſERver" "sTATUS_cODE_Ok")
    (decode document').mapError OtlpError.category =
      (decode document).mapError OtlpError.category ∧
    (∃ records spans, decode document = .ok records ∧
      (convertSpans (.constant none) records ()).result = .ok spans ∧ spans.length = 2 ∧
        KeepsLinks ((rawSpans document).zip spans)) ∧
    decodeKind (.str "SPAN_KIND_ſerVER") = .ok .server ∧
    decodeStatusCode (.str "Status_Code_oK") = .ok .ok := by
  intro document document'
  obtain ⟨hcase, hlinks, hkind, hcode⟩ := letter_case_is_ignored
  refine ⟨?case, ?links, ?kind, ?code⟩
  case case =>
    have hparent := @recased_parentSpan "0AΣ" "0aΣ" "BΣ" "bΣ" "SPAN_KIND_ſerVER" "span_kind_ſERver"
      "Status_Code_oK" "sTATUS_cODE_Ok" (by decide) (by decide) (by decide) (by decide)
    exact hcase _ _ (recased_linkedDocument hparent)
  case links =>
    obtain ⟨records, hdecode⟩ : ∃ records, decode document = .ok records :=
      exists_of_toBool (by decide +kernel)
    have hconverts : ((decode document).toOption.map fun records ↦
        (convertSpans (.constant none) records ()).result.toBool) = some true := by decide +kernel
    rw [hdecode] at hconverts
    obtain ⟨spans, hspans⟩ := exists_of_toBool (Option.some.inj hconverts)
    exact ⟨records, spans, hdecode, hspans, hlinks document records hdecode _ _ _ hspans⟩
  case kind => exact (hkind _ _).2 (.inl (by decide +kernel))
  case code => exact (hcode _ _).2 (by decide +kernel)

end SpanBridge.Pipeline
