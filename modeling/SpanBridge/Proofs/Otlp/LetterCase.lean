import SpanBridge.Proofs.Otlp.Composition
import SpanBridge.Proofs.Otlp.Extension
import SpanBridge.Proofs.Text.LetterCase

/-!
# Documents that differ in the case of letters

The identifiers of a span, its kind and the code of its status are read in letters of any case.
`RecasedDocument` relates documents that differ in nothing but the case of letters there: it says
for each part of a document which of its members may change, and how. What is read of the one part
then agrees with what is read of the other, from a status up to the whole document
(`agrees_decode`). What is agreed on are the records and the categories of errors, since the
message about an unknown name shows the name as it is written.
-/

set_option autoImplicit false
set_option relaxedAutoImplicit false

namespace SpanBridge.Otlp

open Text.LetterCase

/-! ### Changes -/

/-- What may stand in place of a part of a document. -/
abbrev Change : Type := Json → Json → Prop

/-- A text may change the case of its letters. -/
inductive Recased : Change where
  | refl (document : Json) : Recased document document
  | str {text text' : String} (h : SameLetters text text') : Recased (.str text) (.str text')

/-- The change for the members under a name. A member for which there is none stays as it is. -/
def changeAt (changes : List (String × Change)) (name : String) : Change :=
  (changes.lookup name).getD Eq

/-- Members may change, each as the changes say for its name. -/
inductive ChangesMembers (changes : List (String × Change)) : Change where
  | refl (document : Json) : ChangesMembers changes document document
  | obj {members members' : List (String × Json)}
      (h : List.Forall₂ (fun member member' ↦ member'.1 = member.1 ∧
        changeAt changes member.1 member.2 member'.2) members members') :
    ChangesMembers changes (.obj members) (.obj members')

/-- The items of a list may change. -/
inductive ChangesItems (change : Change) : Change where
  | refl (document : Json) : ChangesItems change document document
  | arr {items items' : List Json} (h : List.Forall₂ change items items') :
    ChangesItems change (.arr items) (.arr items')

/-- A status with its code in letters of another case. -/
def RecasedStatus : Change := ChangesMembers [("code", Recased)]

/-- A span with its identifiers, its kind and its status in letters of another case. -/
def RecasedSpan : Change :=
  ChangesMembers [("traceId", Recased), ("spanId", Recased), ("parentSpanId", Recased),
    ("kind", Recased), ("status", RecasedStatus)]

/-- A block of either layout with its spans in letters of another case. -/
def RecasedBlock : Change := ChangesMembers [("spans", ChangesItems RecasedSpan)]

/-- A resource with its spans in letters of another case. -/
def RecasedEntry : Change :=
  ChangesMembers [("scopeSpans", ChangesItems RecasedBlock),
    ("instrumentationLibrarySpans", ChangesItems RecasedBlock)]

/-- A document with its spans in letters of another case. -/
def RecasedDocument : Change := ChangesMembers [("resourceSpans", ChangesItems RecasedEntry)]

/-- Two attempts to read a document that succeed with related results or fail in one category. -/
abbrev ReadAgrees {α α' : Type} (R : α → α' → Prop) :
    Except DocumentError α → Except DocumentError α' → Prop :=
  Agrees DocumentError.category R

/-- Errors of a document keep their categories when they become errors of reading records. -/
theorem agrees_mapError {α α' : Type} {R : α → α' → Prop} {attempt : Except DocumentError α}
    {attempt' : Except DocumentError α'} (h : ReadAgrees R attempt attempt') :
    Agrees OtlpError.category R (attempt.mapError OtlpError.document)
      (attempt'.mapError OtlpError.document) :=
  Agrees.mapError (f := OtlpError.document) h

namespace ChangesMembers

variable {changes : List (String × Change)} {change : Change} {document document' : Json}

/-- Members found under a name are changed as members of this name are. -/
theorem rel_lookup {members members' : List (String × Json)}
    (h : List.Forall₂ (fun member member' ↦ member'.1 = member.1 ∧
      changeAt changes member.1 member.2 member'.2) members members') (name : String) :
    Option.Rel (changeAt changes name) (members.lookup name) (members'.lookup name) := by
  induction h with
  | nil => exact .none
  | @cons member member' _ _ hmember _ ih =>
    obtain ⟨hname, hvalue⟩ := hmember
    rw [Entries.lookup_cons_eq, Entries.lookup_cons_eq, hname]
    split
    · next heq => exact .some (heq ▸ hvalue)
    · exact ih

/-- A member that is read of a changed part is changed as the changes say. -/
theorem memberOr (h : ChangesMembers changes document document') (name : String)
    (hname : changeAt changes name = change) (hrefl : ∀ value, change value value)
    (default : Json) :
    ReadAgrees change (ask (document.memberOr name default))
      (ask (document'.memberOr name default)) := by
  cases h with
  | refl => exact .refl hrefl _
  | obj h => exact .ok (getD_of_rel (hname ▸ rel_lookup h name) (hrefl default))

/-- A member for which there is no change stays as it is. -/
theorem memberOr_eq (h : ChangesMembers changes document document') (name : String)
    (hname : changeAt changes name = Eq) (default : Json) :
    document'.memberOr name default = document.memberOr name default := by
  cases h with
  | refl => rfl
  | obj h =>
    have hvalue := getD_of_rel (hname ▸ rel_lookup h name) (Eq.refl default)
    exact congrArg Except.ok hvalue.symm

/-- An integer member that is not changed is read as before. -/
theorem integerMember_eq (h : ChangesMembers changes document document') (name : String)
    (hname : changeAt changes name = Eq) :
    integerMember name document' = integerMember name document := by
  rw [integerMember, integerMember, h.memberOr_eq name hname]

/-- Changed members stay so when an empty object stands for what counts as false. -/
theorem orEmptyObject (h : ChangesMembers changes document document') :
    ChangesMembers changes (orEmptyObject document) (orEmptyObject document') := by
  cases h with
  | refl => exact .refl _
  | obj h =>
    rw [orEmptyObject_obj, orEmptyObject_obj]
    exact .obj h

end ChangesMembers

/-- Changed items are as many as before. -/
theorem ChangesItems.elements {change : Change} {document document' : Json}
    (h : ChangesItems change document document') (hrefl : ∀ item, change item item) :
    ReadAgrees (List.Forall₂ change) (ask document.elements) (ask document'.elements) := by
  cases h with
  | refl => exact .refl (fun _ ↦ List.forall₂_same.2 fun item _ ↦ hrefl item) _
  | arr h => exact .ok h

/-! ### Texts -/

section Texts

variable {document document' : Json} (h : Recased document document')

include h

/-- A recased document counts as true as before. -/
theorem Recased.isTruthy_eq : document'.isTruthy = document.isTruthy := by
  cases h with
  | refl => rfl
  | str h => exact decide_eq_decide.2 (not_congr h.eq_empty_iff.symm)

/-- A recased document has the same small letters. -/
theorem Recased.small_eq : document'.small = document.small := by
  cases h with
  | refl => rfl
  | str h => exact congrArg Except.ok h.toSmall_eq.symm

theorem agrees_decodeKind : ReadAgrees Eq (decodeKind document) (decodeKind document') := by
  cases h with
  | refl => exact .refl (fun _ ↦ rfl) _
  | @str text text' h =>
    rw [decodeKind, decodeKind, kindOfName?, h.toCapital_eq, ← kindOfName?]
    cases kindOfName? text' with
    | none => exact .error rfl
    | some kind => exact .ok rfl

theorem agrees_decodeStatusCode :
    ReadAgrees Eq (decodeStatusCode document) (decodeStatusCode document') := by
  cases h with
  | refl => exact .refl (fun _ ↦ rfl) _
  | @str text text' h =>
    rw [decodeStatusCode, decodeStatusCode, statusOfName?, h.toCapital_eq, ← statusOfName?]
    cases statusOfName? text' with
    | none => exact .error rfl
    | some code => exact .ok rfl

end Texts

/-! ### Spans -/

section Spans

variable {document document' : Json}

theorem agrees_decodeStatus (h : RecasedStatus document document') :
    ReadAgrees Eq (decodeStatus document) (decodeStatus document') := by
  unfold decodeStatus
  rw [h.memberOr_eq "message" rfl]
  refine (h.memberOr "code" rfl .refl _).bind fun _ _ hcode ↦ ?_
  exact (agrees_decodeStatusCode hcode).bind fun code _ heq ↦ heq ▸ .refl (fun _ ↦ rfl) _

theorem agrees_decodeDraft (resource : Mapping) (scope : Scope)
    (h : RecasedSpan document document') :
    ReadAgrees Eq (decodeDraft resource scope document) (decodeDraft resource scope document') := by
  unfold decodeDraft
  rw [h.memberOr_eq "attributes" rfl, h.memberOr_eq "events" rfl, h.memberOr_eq "name" rfl,
    h.integerMember_eq "startTimeUnixNano" rfl, h.integerMember_eq "endTimeUnixNano" rfl,
    h.integerMember_eq "droppedAttributesCount" rfl, h.integerMember_eq "droppedEventsCount" rfl]
  refine (h.memberOr "traceId" rfl .refl _).bind fun traceId traceId' htraceId ↦ ?_
  refine (h.memberOr "spanId" rfl .refl _).bind fun spanId spanId' hspanId ↦ ?_
  rw [htraceId.isTruthy_eq, hspanId.isTruthy_eq, htraceId.small_eq, hspanId.small_eq]
  split
  · exact .error rfl
  refine (h.memberOr "parentSpanId" rfl .refl _).bind fun parentId parentId' hparentId ↦ ?_
  rw [hparentId.isTruthy_eq, hparentId.small_eq]
  refine .bind_same fun list ↦ .bind_same fun attributes ↦ ?_
  refine .bind_same fun eventList ↦ .bind_same fun items ↦ .bind_same fun events ↦ ?_
  refine .bind_same fun smallTraceId ↦ .bind_same fun smallSpanId ↦ ?_
  refine .choose_bind_same fun parent ↦ .bind_same fun name ↦ ?_
  refine (h.memberOr "kind" rfl .refl _).bind fun _ _ hkind ↦ ?_
  refine (agrees_decodeKind hkind).bind fun kind _ heq ↦ heq ▸ ?_
  refine .bind_same fun start ↦ .bind_same fun finish ↦ ?_
  refine .bind_same fun droppedAttributes ↦ .bind_same fun droppedEvents ↦ ?_
  refine (h.memberOr "status" rfl .refl _).bind fun _ _ hstatus ↦ ?_
  have hobject : RecasedStatus _ _ := hstatus.orEmptyObject
  exact (agrees_decodeStatus hobject).bind fun status _ heq ↦ heq ▸ .refl (fun _ ↦ rfl) _

/-- A recased span has the same record. -/
theorem agrees_decodeSpan (resource : Mapping) (scope : Scope)
    (h : RecasedSpan document document') :
    Agrees OtlpError.category Eq (decodeSpan resource scope document)
      (decodeSpan resource scope document') :=
  (agrees_mapError (agrees_decodeDraft resource scope h)).bind fun _ _ heq ↦
    heq ▸ .refl (fun _ ↦ rfl) _

end Spans

/-! ### Blocks, resources and documents -/

/-- Blocks of one scope whose spans differ in the case of letters. -/
structure Block.Recased (block block' : Block) : Prop where
  scope : block'.scope = block.scope
  spans : ChangesItems RecasedSpan block.spans block'.spans

section Documents

variable {document document' : Json}

theorem agrees_readBlock {layout : Layout} (h : RecasedBlock document document') :
    ReadAgrees Block.Recased (layout.readBlock document) (layout.readBlock document') := by
  have hscope : layout.readScope document' = layout.readScope document := by
    refine Layout.readScope_congr (h.memberOr_eq _ ?_ _) (h.memberOr_eq _ rfl _)
    cases layout <;> rfl
  rw [Layout.readBlock_eq, Layout.readBlock_eq, hscope]
  exact .bind_same fun scope ↦ (h.memberOr "spans" rfl .refl _).map fun _ _ hspans ↦ ⟨rfl, hspans⟩

theorem agrees_layoutBlocks (layout : Layout) (h : RecasedEntry document document') :
    ReadAgrees (List.Forall₂ Block.Recased) (layoutBlocks layout document)
      (layoutBlocks layout document') := by
  have hname : changeAt [("scopeSpans", ChangesItems RecasedBlock),
      ("instrumentationLibrarySpans", ChangesItems RecasedBlock)] layout.blocksName =
        ChangesItems RecasedBlock := by
    cases layout <;> rfl
  refine ((h.memberOr _ hname .refl _).bind fun _ _ hlist ↦ hlist.elements .refl).bind ?_
  exact fun _ _ hblocks ↦ .mapM (hblocks.imp fun _ _ hblock ↦ agrees_readBlock hblock)

theorem agrees_decodeBlock (resource : Mapping) {block block' : Block}
    (h : block.Recased block') :
    Agrees OtlpError.category Eq (decodeBlock resource block) (decodeBlock resource block') := by
  unfold decodeBlock
  rw [h.scope, ← List.forall₂_eq_eq_eq]
  refine (agrees_mapError (h.spans.elements .refl)).bind fun _ _ hspans ↦ ?_
  exact .mapM (hspans.imp fun _ _ hspan ↦ agrees_decodeSpan resource block.scope hspan)

theorem agrees_decodeBlocks (h : RecasedEntry document document') :
    ReadAgrees (List.Forall₂ Block.Recased) (decodeBlocks document) (decodeBlocks document') := by
  rw [decodeBlocks_eq_layoutBlocks, decodeBlocks_eq_layoutBlocks]
  exact (agrees_layoutBlocks .current h).inTurn (agrees_layoutBlocks .former h)

theorem agrees_decodeAll (resource : Mapping) {blocks blocks' : List Block}
    (h : List.Forall₂ Block.Recased blocks blocks') :
    Agrees OtlpError.category Eq (decodeAll resource blocks) (decodeAll resource blocks') := by
  refine (Agrees.mapM (h.imp fun _ _ ↦ agrees_decodeBlock resource)).map fun _ _ hlists ↦ ?_
  exact congrArg List.flatten (List.forall₂_eq_eq_eq ▸ hlists)

theorem agrees_decodeResource (h : RecasedEntry document document') :
    Agrees OtlpError.category Eq (decodeResource document) (decodeResource document') := by
  have hattributes : resourceAttributes document' = resourceAttributes document := by
    rw [resourceAttributes, resourceAttributes, h.memberOr_eq "resource" rfl]
  have hhead : ReadAgrees (fun head head' ↦ head'.1 = head.1 ∧
      List.Forall₂ Block.Recased head.2 head'.2) (decodeEntryHead document)
        (decodeEntryHead document') := by
    rw [decodeEntryHead_eq, decodeEntryHead_eq, hattributes]
    exact .bind_same fun _ ↦ (agrees_decodeBlocks h).map fun _ _ hblocks ↦ ⟨rfl, hblocks⟩
  rw [decodeResource_eq, decodeResource_eq]
  refine (agrees_mapError hhead).bind fun head head' hheads ↦ ?_
  rw [hheads.1]
  exact agrees_decodeAll head.1 hheads.2

/-- A recased document lists recased resources. -/
theorem rel_resourceSpans (h : RecasedDocument document document') :
    Option.Rel (ChangesItems RecasedEntry) (resourceSpans? document)
      (resourceSpans? document') := by
  cases h with
  | refl =>
    cases resourceSpans? document with
    | none => exact .none
    | some resources => exact .some (.refl resources)
  | obj h => exact ChangesMembers.rel_lookup h "resourceSpans"

/-- Documents that differ in the case of letters yield the same records, or are both refused with an
error of the same category. -/
theorem agrees_decode (h : RecasedDocument document document') :
    Agrees OtlpError.category Eq (decode document) (decode document') := by
  have hresources := rel_resourceSpans h
  unfold decode
  generalize resourceSpans? document = found, resourceSpans? document' = found' at hresources
  cases hresources with
  | none => exact .error rfl
  | some hlist =>
    refine (agrees_mapError (hlist.elements .refl)).bind fun _ _ hentries ↦ ?_
    refine (Agrees.mapM (hentries.imp fun _ _ ↦ agrees_decodeResource)).bind fun _ _ hlists ↦ ?_
    exact .ok (congrArg List.flatten (List.forall₂_eq_eq_eq ▸ hlists))

end Documents

end SpanBridge.Otlp
