import SpanBridge.Proofs.Mapping
import SpanBridge.Proofs.Otlp.Spelling

/-!
# Spellings are read as what they spell

Each relation of `SpanBridge.Proofs.Otlp.Spelling` is undone by the function that reads such a
document: integers, values, attributes, events and scopes one by one, and then the span of a
resource (`decodeResource_of_spells`), whose identifiers must be in small letters already. A kind
and a code are known by the capital form of their name, which may have one word before it
(`decodeKind_str_eq_ok_iff`, `decodeStatusCode_str_eq_ok_iff`).
-/

set_option autoImplicit false
set_option relaxedAutoImplicit false

namespace SpanBridge.Otlp

theorem memberOr_obj (members : List (String × Json)) (name : String) (default : Json) :
    (Json.obj members).memberOr name default = .ok (memberIn members name default) := rfl

/-- A member that is there is found in its place. -/
theorem memberIn_of_lookup {members : List (String × Json)} {name : String} {document : Json}
    (h : members.lookup name = some document) (default : Json) :
    memberIn members name default = document := by
  rw [memberIn, h, Option.getD_some]

/-! ### Numbers and texts -/

theorem toInteger_of_spells {number : Int} {document : Json} (h : SpellsInteger number document) :
    document.toInteger = .ok number := by
  cases h with
  | number => rfl
  | text hlimit => rw [Json.toInteger, Number.readInteger_integerText hlimit]; rfl

theorem toDouble_of_spells {number : Double} {document : Json} (h : SpellsDouble number document) :
    document.toDouble = .ok number := by
  cases h with
  | number => rfl
  | nan => rfl
  | infinity => rfl
  | minusInfinity => rfl

theorem orNull_of_spells {value : Value} {document : Json} (h : SpellsOptionalText value document) :
    document.toValue.orNull = value := by
  cases h with
  | null => rfl
  | empty => rfl
  | text hne => exact if_pos (decide_eq_true hne)

theorem isTruthy_str {text : String} (h : text ≠ "") : (Json.str text).isTruthy = true :=
  decide_eq_true h

theorem parentOf_of_spells {parent : Option String} {document : Json}
    (h : SpellsParent parent document)
    (hsmall : ∀ id, parent = some id → Text.LetterCase.toSmall id = id) :
    parentOf document = .ok parent := by
  cases h with
  | null => rfl
  | empty => rfl
  | id hne =>
    rw [parentOf, if_pos (isTruthy_str hne), Json.small, hsmall _ rfl]
    rfl

/-! ### Enumerations -/

/-- A prefix that is there is taken away. -/
theorem withoutStart_append (start rest : String) : withoutStart start (start ++ rest) = rest := by
  have hrest : start.toList.isPrefixOf? (start ++ rest).toList = some rest.toList := by
    rw [List.isPrefixOf?_eq_some_iff_append_eq, String.toList_append]
  rw [withoutStart, hrest, Option.map_some, Option.getD_some, String.ofList_toList]

/-- A text has a name as its capital form, in short or with a word before it. -/
def IsNameIn (start name text : String) : Prop :=
  Text.LetterCase.toCapital text = name ∨ Text.LetterCase.toCapital text = start ++ name

instance (start name : String) : DecidablePred (IsNameIn start name) := fun text ↦
  inferInstanceAs (Decidable (Text.LetterCase.toCapital text = name ∨
    Text.LetterCase.toCapital text = start ++ name))

/-- A text without the word at its start is a name when it is the name, with the word or without. -/
theorem withoutStart_eq_iff {start name : String} (hname : withoutStart start name = name)
    (text : String) : withoutStart start text = name ↔ text = name ∨ text = start ++ name := by
  constructor
  · intro h
    unfold withoutStart at h
    cases hrest : start.toList.isPrefixOf? text.toList with
    | none =>
      rw [hrest] at h
      exact .inl h
    | some rest =>
      rw [hrest, Option.map_some, Option.getD_some] at h
      obtain rfl := h
      rw [List.isPrefixOf?_eq_some_iff_append_eq] at hrest
      refine .inr (String.toList_inj.1 ?_)
      rw [String.toList_append, String.toList_ofList, hrest]
  · rintro (rfl | rfl)
    · exact hname
    · exact withoutStart_append start name

/-- A text is read as the kind that it names. The name that leaves the kind open stands for an
internal span. -/
theorem decodeKind_str_eq_ok_iff {text : String} {kind : SpanKind} :
    decodeKind (.str text) = .ok kind ↔ IsNameIn "SPAN_KIND_" kind.name text ∨
      kind = .internal ∧ IsNameIn "SPAN_KIND_" "UNSPECIFIED" text := by
  have hname : withoutStart "SPAN_KIND_" kind.name = kind.name := by
    cases kind <;> decide
  have hopen : kind.name ≠ "UNSPECIFIED" := by
    cases kind <;> decide
  have hfound : decodeKind (.str text) = .ok kind ↔ kindOfName? text = some kind := by
    rw [decodeKind]
    cases kindOfName? text <;> simp
  rw [hfound, IsNameIn, IsNameIn, ← withoutStart_eq_iff hname, ← withoutStart_eq_iff (by decide),
    kindOfName?]
  split
  · next hshort => simp [hshort, hopen.symm, eq_comm]
  · next hshort => simp [hshort, SpanKind.ofName?_eq_some_iff]

/-- A text is read as the code that it names. -/
theorem decodeStatusCode_str_eq_ok_iff {text : String} {code : StatusCode} :
    decodeStatusCode (.str text) = .ok code ↔ IsNameIn "STATUS_CODE_" code.name text := by
  have hname : withoutStart "STATUS_CODE_" code.name = code.name := by
    cases code <;> decide
  have hfound : decodeStatusCode (.str text) = .ok code ↔ statusOfName? text = some code := by
    rw [decodeStatusCode]
    cases statusOfName? text <;> simp
  rw [hfound, IsNameIn, ← withoutStart_eq_iff hname, statusOfName?,
    StatusCode.ofName?_eq_some_iff]

theorem decodeKind_of_spells {kind : SpanKind} {document : Json} (h : SpellsKind kind document) :
    decodeKind document = .ok kind := by
  cases h with
  | null => rfl
  | number => cases kind <;> rfl
  | short hcapital => exact decodeKind_str_eq_ok_iff.2 (.inl (.inl hcapital))
  | long hcapital => exact decodeKind_str_eq_ok_iff.2 (.inl (.inr hcapital))

theorem decodeStatusCode_of_spells {code : StatusCode} {document : Json}
    (h : SpellsStatusCode code document) : decodeStatusCode document = .ok code := by
  cases h with
  | number => cases code <;> rfl
  | short hcapital => exact decodeStatusCode_str_eq_ok_iff.2 (.inl hcapital)
  | long hcapital => exact decodeStatusCode_str_eq_ok_iff.2 (.inr hcapital)

theorem orEmptyObject_obj (members : List (String × Json)) :
    orEmptyObject (.obj members) = .obj members := by
  cases members <;> rfl

/-- A message that is left out is the empty text. -/
theorem description_of_message {members : List (String × Json)} {message : String}
    (h : memberIn members "message" (.str "") = .str message) :
    (if (memberIn members "message" .null).isTruthy then
      (memberIn members "message" .null).toValue else .str "") = .str message := by
  unfold memberIn at h ⊢
  cases hlookup : members.lookup "message" with
  | none =>
    rw [hlookup] at h
    obtain rfl := Json.str.inj h
    rfl
  | some document =>
    rw [hlookup] at h
    obtain rfl : document = .str message := h
    by_cases hempty : message = ""
    · rw [hempty]
      rfl
    · exact if_pos (isTruthy_str hempty)

theorem decodeStatus_of_spells {status : Status} {document : Json}
    (h : SpellsStatus status document) : decodeStatus (orEmptyObject document) = .ok status := by
  cases h with
  | null => rfl
  | @object _ members message hcode hmessage hdescription =>
    rw [orEmptyObject_obj, decodeStatus_eq_ok_iff]
    refine ⟨_, _, memberOr_obj _ _ _, decodeStatusCode_of_spells hcode, memberOr_obj _ _ _, ?_⟩
    rw [hdescription]
    exact (description_of_message hmessage).symm

/-! ### Attributes -/

/-- An object with one member is a value of the kind of its name. -/
theorem decodeValue_single {kind : String} (hkind : kind ∈ valueKinds.dropLast) (payload : Json) :
    decodeValue (.obj [(kind, payload)]) = decodeScalar kind payload := by
  rcases mem_dropLast_valueKinds_iff.1 hkind with rfl | rfl | rfl | rfl <;> rfl

theorem decodeValue_of_spellsScalar {scalar : Scalar} {document : Json}
    (h : SpellsScalar scalar document) : decodeValue document = .ok scalar.toValue := by
  cases h with
  | string => rfl
  | boolean => rfl
  | long hinteger =>
    rw [decodeValue_single (by decide)]
    show Value.int <$> ask _ = _
    rw [toInteger_of_spells hinteger]
    rfl
  | double hdouble =>
    rw [decodeValue_single (by decide)]
    show Value.double <$> ask _ = _
    rw [toDouble_of_spells hdouble]
    rfl

theorem decodeItems_of_spells {scalars : List Scalar} {documents : List Json}
    (h : List.Forall₂ SpellsScalar scalars documents) :
    decodeItems documents = .ok (scalars.map Scalar.toValue) := by
  induction h with
  | nil => rfl
  | cons hitem _ ih =>
    rw [decodeItems, decodeValue_of_spellsScalar hitem, ih]
    rfl

/-- Scalars of one kind make a sequence. -/
theorem sequenceOf_eq_ok {scalars : List Scalar} {attr : Attribute}
    (h : Attribute.ofScalars scalars = .ok attr) :
    sequenceOf (scalars.map Scalar.toValue) = .ok (.tuple (scalars.map Scalar.toValue)) := by
  rw [sequenceOf, Attribute.ofValue_tuple, h]
  rfl

theorem decodeValue_of_spells {value : Value} {document : Json} (h : SpellsValue value document) :
    decodeValue document = .ok value := by
  cases h with
  | scalar hscalar => exact decodeValue_of_spellsScalar hscalar
  | sequence hkind hitems =>
    show (do sequenceOf (← decodeItems _)) = _
    rw [decodeItems_of_spells hitems, ok_bind, sequenceOf_eq_ok hkind]
  | nothing => rfl

theorem decodeEntry_of_spells {attributes : Mapping} {entry : Value × Value} {document : Json}
    (h : SpellsEntry entry document) :
    decodeEntry attributes document = .ok (attributes.insertAlike entry.1 entry.2) := by
  cases h with
  | entry hne hkey hvalue hspelled =>
    refine decodeEntry_eq_ok_iff.2 ⟨.str _, _, .str _, _, ?_, isTruthy_str hne, ?_,
      decodeValue_of_spells hspelled, rfl, rfl⟩
    · rw [memberOr_obj, memberIn_of_lookup hkey]
    · rw [memberOr_obj, memberIn_of_lookup hvalue]

/-- Attributes under texts come in the order of their entries. -/
theorem foldlM_decodeEntry {entries : List (Value × Value)} {documents : List Json}
    (h : List.Forall₂ SpellsEntry entries documents) {sofar : Mapping}
    (hdistinct : Entries.Distinct Value.Alike (sofar.entries ++ entries)) :
    ∃ result, documents.foldlM decodeEntry sofar = .ok result ∧
      result.entries = sofar.entries ++ entries := by
  induction h generalizing sofar with
  | nil => exact ⟨sofar, rfl, by simp⟩
  | @cons entry document entries documents hentry _ ih =>
    have hnew : ∀ old ∈ sofar.entries, ¬Value.Alike old.1 entry.1 := fun old hold ↦
      (List.pairwise_append.1 hdistinct).2.2 old hold entry List.mem_cons_self
    have hinsert : (sofar.insertAlike entry.1 entry.2).entries = sofar.entries ++ [entry] :=
      Entries.insert_of_new hnew
    obtain ⟨result, hresult, hentries⟩ := @ih (sofar.insertAlike entry.1 entry.2)
      (by rwa [hinsert, List.append_assoc, List.singleton_append])
    refine ⟨result, ?_, ?_⟩
    · rw [List.foldlM_cons, decodeEntry_of_spells hentry, ok_bind, hresult]
    · rw [hentries, hinsert, List.append_assoc, List.singleton_append]

theorem exists_str_of_spells {entries : List (Value × Value)} {documents : List Json}
    (h : List.Forall₂ SpellsEntry entries documents) :
    ∀ entry ∈ entries, ∃ key, entry.1 = .str key := by
  induction h with
  | nil => simp
  | cons hentry _ ih =>
    refine List.forall_mem_cons.2 ⟨?_, ih⟩
    cases hentry with
    | @entry key => exact ⟨key, rfl⟩

/-- Texts that are not the same key are not alike either. -/
theorem distinct_alike {entries : List (Value × Value)}
    (h : ∀ entry ∈ entries, ∃ key, entry.1 = .str key)
    (hdistinct : Entries.Distinct Value.Same entries) : Entries.Distinct Value.Alike entries := by
  refine List.Pairwise.imp_of_mem (fun {first second} _ hsecond hapart halike ↦ ?_) hdistinct
  obtain ⟨key, hkey⟩ := h second hsecond
  rw [hkey] at hapart halike
  exact hapart ((Value.plain_str key first.1).2 ((Value.alike_str_iff first.1 key).1 halike))

theorem decodeAttributes_of_spells {mapping : Mapping} {document : Json}
    (h : SpellsAttributes mapping document) : decodeAttributes document = .ok mapping := by
  cases h with
  | list hentries =>
    have hdistinct := distinct_alike (exists_str_of_spells hentries) mapping.distinct
    obtain ⟨result, hresult, heq⟩ := @foldlM_decodeEntry _ _ hentries Mapping.empty hdistinct
    rw [show result = mapping from Mapping.ext heq] at hresult
    exact hresult

/-! ### Spans -/

theorem decodeEvent_of_spells {event : Event} {document : Json} (h : SpellsEvent event document) :
    decodeEvent document = .ok event := by
  cases h with
  | event hname hnameEq htime hattributes =>
    refine decodeEvent_eq_ok_iff.2 ⟨_, _, _, memberOr_obj _ _ _, ?_, memberOr_obj _ _ _,
      toInteger_of_spells htime, memberOr_obj _ _ _, decodeAttributes_of_spells hattributes⟩
    rw [hnameEq, hname]
    rfl

/-- A list is read where each of its items is. -/
theorem mapM_of_forall₂ {α β ε : Type} {R : α → β → Prop} {f : β → Except ε α} {values : List α}
    {documents : List β} (hf : ∀ {value document}, R value document → f document = .ok value)
    (h : List.Forall₂ R values documents) : documents.mapM f = .ok values :=
  mapM_eq_ok_iff.2 (List.Forall₂.flip (h.imp fun _ _ ↦ hf))

/-- The identifiers of a draft are in small letters, and those of itself and its trace are there. -/
structure IsSmall (draft : SpanDraft) : Prop where
  traceId : Text.LetterCase.toSmall draft.traceId = draft.traceId
  spanId : Text.LetterCase.toSmall draft.spanId = draft.spanId
  parentId : ∀ id, draft.parentId = some id → Text.LetterCase.toSmall id = id
  traceId_ne : draft.traceId ≠ ""
  spanId_ne : draft.spanId ≠ ""

theorem integerMember_of_spells {number : Int} {name : String} {members : List (String × Json)}
    (h : SpellsInteger number (memberIn members name (.int 0))) :
    integerMember name (.obj members) = .ok number :=
  integerMember_eq_ok_iff.2 ⟨_, memberOr_obj _ _ _, toInteger_of_spells h⟩

/-- A span that spells a draft is read as this draft. -/
theorem isDraftOf_of_spells {draft : SpanDraft} {members : List (String × Json)}
    (h : SpellsSpan draft members) (hsmall : IsSmall draft) :
    IsDraftOf draft.resource draft.scope (.obj members) draft := by
  obtain ⟨name, hname, hnameEq⟩ := h.name
  obtain ⟨kind, hkind, hkindEq⟩ := h.kind
  obtain ⟨documents, hdocuments, hevents⟩ := h.events
  obtain ⟨droppedAttributes, hdroppedAttributes, htotalAttributes⟩ := h.totalAttributes
  obtain ⟨droppedEvents, hdroppedEvents, htotalEvents⟩ := h.totalEvents
  exact {
    traceId := ⟨_, (memberOr_obj _ _ _).trans (congrArg _ (memberIn_of_lookup h.traceId _)),
      isTruthy_str hsmall.traceId_ne, congrArg _ hsmall.traceId⟩
    spanId := ⟨_, (memberOr_obj _ _ _).trans (congrArg _ (memberIn_of_lookup h.spanId _)),
      isTruthy_str hsmall.spanId_ne, congrArg _ hsmall.spanId⟩
    parentId := ⟨_, memberOr_obj _ _ _, parentOf_of_spells h.parentId hsmall.parentId⟩
    attributes := ⟨_, memberOr_obj _ _ _, decodeAttributes_of_spells h.attributes⟩
    events := ⟨_, documents, memberOr_obj _ _ _, by rw [hdocuments]; rfl,
      mapM_of_forall₂ decodeEvent_of_spells hevents⟩
    name := ⟨_, memberOr_obj _ _ _, by rw [hname, hnameEq]; rfl⟩
    kind := ⟨_, kind, memberOr_obj _ _ _, decodeKind_of_spells hkind, hkindEq⟩
    start := integerMember_of_spells h.start
    finish := integerMember_of_spells h.finish
    totalAttributes := ⟨droppedAttributes, integerMember_of_spells hdroppedAttributes,
      htotalAttributes⟩
    totalEvents := ⟨droppedEvents, integerMember_of_spells hdroppedEvents, htotalEvents⟩
    status := ⟨_, memberOr_obj _ _ _, decodeStatus_of_spells h.status⟩
    resource := rfl
    scope := rfl }

/-! ### Documents -/

theorem isTruthy_obj {members : List (String × Json)} {name : String} {document : Json}
    (h : members.lookup name = some document) : (Json.obj members).isTruthy = true := by
  cases members with
  | nil => cases h
  | cons member members => rfl

theorem scopeOf_of_spells {scope : Scope} {block library : List (String × Json)} {name : String}
    (hname : library.lookup "name" = some (.str name)) (hnameEq : scope.name = .str name)
    (hversion : SpellsOptionalText scope.version (memberIn library "version" .null))
    (hschema : SpellsOptionalText scope.schemaUrl (memberIn block "schemaUrl" .null)) :
    scopeOf (.obj library) (.obj block) = .ok scope := by
  rw [scopeOf, if_pos (isTruthy_obj hname), decodeScope_eq_ok_iff]
  refine ⟨_, _, _, memberOr_obj _ _ _, memberOr_obj _ _ _, memberOr_obj _ _ _, ?_⟩
  rw [memberIn_of_lookup hname, orNull_of_spells hversion, orNull_of_spells hschema, Json.toValue,
    ← hnameEq]

theorem decodeScopeBlock_of_spells {scope : Scope} {block : List (String × Json)} {spans : Json}
    (h : SpellsScope scope block) (hspans : block.lookup "spans" = some spans) :
    decodeScopeBlock (.obj block) = .ok ⟨scope, spans⟩ := by
  have hspansMember : (Json.obj block).memberOr "spans" (.arr []) = .ok spans := by
    rw [memberOr_obj, memberIn_of_lookup hspans]
  cases h with
  | object hscope hname hnameEq hversion hschema =>
    refine decodeScopeBlock_eq_ok_iff.2
      ⟨_, ?_, scopeOf_of_spells hname hnameEq hversion hschema, hspansMember⟩
    rw [memberOr_obj, memberIn_of_lookup hscope]
  | missing hscope =>
    refine decodeScopeBlock_eq_ok_iff.2 ⟨.null, ?_, rfl, hspansMember⟩
    rw [memberOr_obj, memberIn, hscope]
    rfl

theorem decodeBlocks_of_spells {scope : Scope} {entry block : List (String × Json)} {spans : Json}
    (hblock : entry.lookup "scopeSpans" = some (.arr [.obj block]))
    (hformer : entry.lookup "instrumentationLibrarySpans" = none) (hscope : SpellsScope scope block)
    (hspans : block.lookup "spans" = some spans) :
    decodeBlocks (.obj entry) = .ok [⟨scope, spans⟩] := by
  refine decodeBlocks_eq_ok_iff.2 ⟨[.obj block], [⟨scope, spans⟩], [], [], ?_, ?_, ?_, rfl, rfl⟩
  · rw [listMember, memberOr_obj, memberIn_of_lookup hblock]
    rfl
  · rw [List.mapM_cons, decodeScopeBlock_of_spells hscope hspans]
    rfl
  · rw [listMember, memberOr_obj, memberIn, hformer]
    rfl

/-- A span that spells a draft is read as the record of the draft, or fails as the draft does. -/
theorem decodeSpan_of_spells {draft : SpanDraft} {members : List (String × Json)}
    (h : SpellsSpan draft members) (hsmall : IsSmall draft) :
    decodeSpan draft.resource draft.scope (.obj members) =
      draft.check.mapError OtlpError.record := by
  rw [decodeSpan, decodeDraft_eq_ok_iff.2 (isDraftOf_of_spells h hsmall), mapError_ok, ok_bind]

/-- A resource with one span is read as the record of its draft, or fails as the draft does. -/
theorem decodeResource_of_spells {draft : SpanDraft} {entry : Json} (h : SpellsResource draft entry)
    (hsmall : IsSmall draft) :
    decodeResource entry = (fun record ↦ [record]) <$> draft.check.mapError OtlpError.record := by
  cases h with
  | @resource entry resource block span hresource hattributes hblock hformer hscope hspans hspan =>
    have hhead : decodeEntryHead (.obj entry) =
        .ok (draft.resource, [⟨draft.scope, .arr [.obj span]⟩]) := by
      refine decodeEntryHead_eq_ok_iff.2 ⟨_, _, memberOr_obj _ _ _, ?_,
        decodeAttributes_of_spells hattributes,
        decodeBlocks_of_spells hblock hformer hscope hspans⟩
      rw [hresource, memberOr_obj]
    have hblockRead : decodeBlock draft.resource ⟨draft.scope, .arr [.obj span]⟩ =
        (fun record ↦ [record]) <$> draft.check.mapError OtlpError.record := by
      rw [decodeBlock, Json.elements, ask_ok, mapError_ok, ok_bind, List.mapM_cons,
        decodeSpan_of_spells hspan hsmall]
      cases draft.check <;> rfl
    rw [decodeResource, hhead, mapError_ok, ok_bind]
    dsimp only
    rw [List.mapM_cons, hblockRead]
    cases draft.check <;> rfl

/-- A step that yields one result for each item yields their list. -/
theorem flatten_mapM_singleton {α β ε : Type} (f : α → Except ε β) (items : List α) :
    (List.flatten <$> items.mapM fun item ↦ (fun result ↦ [result]) <$> f item) =
      items.mapM f := by
  induction items with
  | nil => rfl
  | cons item items ih =>
    rw [List.mapM_cons, List.mapM_cons, ← ih]
    cases f item with
    | error error => rfl
    | ok result =>
      cases items.mapM fun item ↦ (fun result ↦ [result]) <$> f item <;> rfl

theorem mapM_decodeResource_of_spells {drafts : List SpanDraft} {entries : List Json}
    (h : List.Forall₂ SpellsResource drafts entries) (hsmall : ∀ draft ∈ drafts, IsSmall draft) :
    entries.mapM decodeResource = drafts.mapM fun draft ↦
      (fun record ↦ [record]) <$> draft.check.mapError OtlpError.record := by
  induction h with
  | nil => rfl
  | cons hentry _ ih =>
    rw [List.mapM_cons, List.mapM_cons, decodeResource_of_spells hentry (hsmall _ (by simp)),
      ih fun draft hdraft ↦ hsmall draft (List.mem_cons_of_mem _ hdraft)]

/-- A document with a resource for each draft is read as the records of the drafts, or fails as the
first draft does that has no record. -/
theorem decode_of_spells {drafts : List SpanDraft} {members : List (String × Json)}
    {entries : List Json} (hresources : members.lookup "resourceSpans" = some (.arr entries))
    (h : List.Forall₂ SpellsResource drafts entries) (hsmall : ∀ draft ∈ drafts, IsSmall draft) :
    decode (.obj members) = drafts.mapM fun draft ↦ draft.check.mapError OtlpError.record := by
  have hfound : resourceSpans? (.obj members) = some (.arr entries) := hresources
  rw [decode, hfound]
  dsimp only
  rw [Json.elements, ask_ok, mapError_ok, ok_bind, mapM_decodeResource_of_spells h hsmall]
  exact flatten_mapM_singleton (fun draft ↦ draft.check.mapError OtlpError.record) drafts

end SpanBridge.Otlp
