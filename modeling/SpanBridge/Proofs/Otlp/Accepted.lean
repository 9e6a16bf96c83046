import SpanBridge.Proofs.Otlp.Composition
import SpanBridge.Proofs.Otlp.Payload
import SpanBridge.Proofs.Otlp.Refusal

/-!
# What the payloads of an accepted document say

The times and counts of spans and events and the integers and truth values among attributes all come
from payloads of the document. `ReadsRecord` relates a span of a document to a record through all
places where such payloads stand, for any way in which integers and truth values are given.
`KeepsSpan` says of the same places that nothing is converted there.

A document is read as records that relate to its spans in this way, and its payloads give all that
the records say exactly if nothing is converted (`decode_payloads`). There are documents that are
accepted though something is converted (`payloads_are_converted`).
-/

set_option autoImplicit false
set_option relaxedAutoImplicit false

namespace SpanBridge.Otlp

/-! ### Places of payloads -/

section Places

-- How integers and truth values are given.
variable (integer : Json → Int → Prop) (boolean : Json → Bool → Prop)

/-- A scalar that an object says by the kind that counts. -/
inductive ReadsScalar : Json → Scalar → Prop where
  | string {members : List (String × Json)} {payload : Json}
      (hfirst : IsFirstKind members "stringValue" payload) :
    ReadsScalar (.obj members) (.string payload.toValue.plain)
  | boolean {members : List (String × Json)} {payload : Json} {truth : Bool}
      (hfirst : IsFirstKind members "boolValue" payload) (h : boolean payload truth) :
    ReadsScalar (.obj members) (.boolean truth)
  | long {members : List (String × Json)} {payload : Json} {number : Int}
      (hfirst : IsFirstKind members "intValue" payload) (h : integer payload number) :
    ReadsScalar (.obj members) (.long number)
  | double {members : List (String × Json)} {payload : Json} {number : Double}
      (hfirst : IsFirstKind members "doubleValue" payload) (h : payload.toDouble = .ok number) :
    ReadsScalar (.obj members) (.double number)

/-- A value is a scalar or an array of scalars. -/
inductive ReadsValue : Json → Value → Prop where
  | scalar {document : Json} {scalar : Scalar} (h : ReadsScalar integer boolean document scalar) :
    ReadsValue document scalar.toValue
  | array {members : List (String × Json)} {payload : Json} {scalars : List Scalar}
      (hfirst : IsFirstKind members "arrayValue" payload)
      (hitems : List.Forall₂ (ReadsScalar integer boolean) (itemsAt "values" payload) scalars) :
    ReadsValue (.obj members) (.tuple (scalars.map Scalar.toValue))

/-- A key with its value. -/
inductive ReadsEntry : Json → Value × Value → Prop where
  | entry {members : List (String × Json)} {key value : Value}
      (hkey : (memberIn members "key" .null).toKey = .ok key)
      (hvalue : ReadsValue integer boolean (memberIn members "value" (.obj [])) value) :
    ReadsEntry (.obj members) (key, value)

/-- The attributes that are listed in an object. A key that comes again takes its last value. -/
def ReadsAttributes (document : Json) (attributes : Mapping) : Prop :=
  ∃ entries, List.Forall₂ (ReadsEntry integer boolean) (itemsAt "attributes" document) entries ∧
    attributes = Mapping.empty.insertAllAlike entries

/-- The member of an object that holds an integer, zero when it is not there. -/
def ReadsMember (name : String) (document : Json) (number : Int) : Prop :=
  ∃ payload, document.memberOr name (.int 0) = .ok payload ∧ integer payload number

/-- The time and the attributes of an event. -/
structure ReadsEvent (document : Json) (event : Event) : Prop where
  timestamp : ReadsMember integer "timeUnixNano" document event.timestamp
  attributes : ReadsAttributes integer boolean document event.attributes

/-- The times, counts and attributes of a record, its events and its resource. -/
structure ReadsRecord (raw : RawSpan) (record : SpanRecord) : Prop where
  start : ReadsMember integer "startTimeUnixNano" raw.span record.start
  finish : ReadsMember integer "endTimeUnixNano" raw.span record.finish
  droppedAttributes : ReadsMember integer "droppedAttributesCount" raw.span record.droppedAttributes
  droppedEvents : ReadsMember integer "droppedEventsCount" raw.span record.droppedEvents
  attributes : ReadsAttributes integer boolean raw.span record.attributes
  events : List.Forall₂ (ReadsEvent integer boolean) (itemsAt "events" raw.span) record.events
  resource : ∃ resource, raw.entry.memberOr "resource" (.obj []) = .ok resource ∧
    ReadsAttributes integer boolean resource record.resource

end Places

/-! ### Places where nothing is converted -/

/-- A scalar whose payload gives what is read. -/
def KeepsScalar (document : Json) : Prop :=
  ∀ members kind payload, document = .obj members → IsFirstKind members kind payload →
    (kind = "intValue" → KeepsInteger payload) ∧ (kind = "boolValue" → KeepsBoolean payload)

/-- A scalar whose payload gives what is read, or an array of such scalars. -/
def KeepsValue (document : Json) : Prop :=
  KeepsScalar document ∧ ∀ members payload, document = .obj members →
    IsFirstKind members "arrayValue" payload → ∀ item ∈ itemsAt "values" payload, KeepsScalar item

/-- A key with a value whose payloads give what is read. -/
def KeepsEntry (document : Json) : Prop :=
  ∀ value, document.memberOr "value" (.obj []) = .ok value → KeepsValue value

/-- Attributes whose payloads give what is read. -/
def KeepsAttributes (document : Json) : Prop :=
  ∀ entry ∈ itemsAt "attributes" document, KeepsEntry entry

/-- A member that gives the integer that is read. -/
def KeepsMember (name : String) (document : Json) : Prop :=
  ∀ payload, document.memberOr name (.int 0) = .ok payload → KeepsInteger payload

/-- An event whose payloads give what is read. -/
structure KeepsEvent (document : Json) : Prop where
  timestamp : KeepsMember "timeUnixNano" document
  attributes : KeepsAttributes document

/-- A span whose payloads, with those of its events and its resource, give what is read. -/
structure KeepsSpan (raw : RawSpan) : Prop where
  start : KeepsMember "startTimeUnixNano" raw.span
  finish : KeepsMember "endTimeUnixNano" raw.span
  droppedAttributes : KeepsMember "droppedAttributesCount" raw.span
  droppedEvents : KeepsMember "droppedEventsCount" raw.span
  attributes : KeepsAttributes raw.span
  events : ∀ event ∈ itemsAt "events" raw.span, KeepsEvent event
  resource : ∀ resource, raw.entry.memberOr "resource" (.obj []) = .ok resource →
    KeepsAttributes resource

/-- Whether a scalar is kept is decided by its payload. -/
theorem keepsScalar_iff_of_isFirstKind {members : List (String × Json)} {kind : String}
    {payload : Json} (hfirst : IsFirstKind members kind payload) :
    KeepsScalar (.obj members) ↔ (kind = "intValue" → KeepsInteger payload) ∧
      (kind = "boolValue" → KeepsBoolean payload) := by
  constructor
  · intro h
    exact h members kind payload rfl hfirst
  · rintro h _ _ _ ⟨⟩ hother
    obtain ⟨rfl, rfl⟩ := hfirst.unique hother
    exact h

/-- An object that says a scalar says no array. -/
theorem ReadsScalar.not_isFirstKind {integer : Json → Int → Prop} {boolean : Json → Bool → Prop}
    {members : List (String × Json)} {scalar : Scalar} {payload : Json}
    (h : ReadsScalar integer boolean (.obj members) scalar) :
    ¬IsFirstKind members "arrayValue" payload := by
  intro harray
  cases h with
  | string hfirst | boolean hfirst | long hfirst | double hfirst =>
    exact absurd (hfirst.unique harray).1 (by decide)

/-- A scalar is given where it is read and kept. -/
theorem readsScalar_iff (document : Json) (scalar : Scalar) :
    ReadsScalar GivesInteger GivesBoolean document scalar ↔
      ReadsScalar ReadsInteger ReadsBoolean document scalar ∧ KeepsScalar document := by
  constructor
  · intro h
    cases h with
    | string hfirst =>
      exact ⟨.string hfirst, (keepsScalar_iff_of_isFirstKind hfirst).2 (by simp)⟩
    | boolean hfirst h =>
      obtain ⟨hread, hkeeps⟩ := givesBoolean_iff.1 h
      exact ⟨.boolean hfirst hread, (keepsScalar_iff_of_isFirstKind hfirst).2 (by simpa)⟩
    | long hfirst h =>
      obtain ⟨hread, hkeeps⟩ := givesInteger_iff.1 h
      exact ⟨.long hfirst hread, (keepsScalar_iff_of_isFirstKind hfirst).2 (by simpa)⟩
    | double hfirst h =>
      exact ⟨.double hfirst h, (keepsScalar_iff_of_isFirstKind hfirst).2 (by simp)⟩
  · rintro ⟨h, hkeeps⟩
    cases h with
    | string hfirst => exact .string hfirst
    | boolean hfirst hread =>
      have hpayload := ((keepsScalar_iff_of_isFirstKind hfirst).1 hkeeps).2 rfl
      exact .boolean hfirst (givesBoolean_iff.2 ⟨hread, hpayload⟩)
    | long hfirst hread =>
      have hpayload := ((keepsScalar_iff_of_isFirstKind hfirst).1 hkeeps).1 rfl
      exact .long hfirst (givesInteger_iff.2 ⟨hread, hpayload⟩)
    | double hfirst h => exact .double hfirst h

/-- A value is given where it is read and all its scalars are kept. -/
theorem readsValue_iff {document : Json} {value : Value} :
    ReadsValue GivesInteger GivesBoolean document value ↔
      ReadsValue ReadsInteger ReadsBoolean document value ∧ KeepsValue document := by
  constructor
  · intro h
    cases h with
    | scalar h =>
      obtain ⟨hread, hkeeps⟩ := (readsScalar_iff _ _).1 h
      -- Only one kind of an object counts, so nothing is asked of an array beside a scalar.
      refine ⟨.scalar hread, hkeeps, ?_⟩
      rintro _ _ rfl harray
      exact absurd harray hread.not_isFirstKind
    | array hfirst hitems =>
      obtain ⟨hread, hkeeps⟩ := (forall₂_iff_and readsScalar_iff).1 hitems
      refine ⟨.array hfirst hread, (keepsScalar_iff_of_isFirstKind hfirst).2 (by simp), ?_⟩
      rintro _ _ ⟨⟩ harray
      obtain ⟨-, rfl⟩ := hfirst.unique harray
      exact hkeeps
  · rintro ⟨h, hscalar, harray⟩
    cases h with
    | scalar h => exact .scalar ((readsScalar_iff _ _).2 ⟨h, hscalar⟩)
    | array hfirst hitems =>
      have hkeeps := harray _ _ rfl hfirst
      exact .array hfirst ((forall₂_iff_and readsScalar_iff).2 ⟨hitems, hkeeps⟩)

theorem readsEntry_iff (document : Json) (entry : Value × Value) :
    ReadsEntry GivesInteger GivesBoolean document entry ↔
      ReadsEntry ReadsInteger ReadsBoolean document entry ∧ KeepsEntry document := by
  constructor
  · rintro ⟨hkey, hvalue⟩
    obtain ⟨hread, hkeeps⟩ := readsValue_iff.1 hvalue
    refine ⟨.entry hkey hread, ?_⟩
    rintro _ ⟨⟩
    exact hkeeps
  · rintro ⟨⟨hkey, hvalue⟩, hkeeps⟩
    exact .entry hkey (readsValue_iff.2 ⟨hvalue, hkeeps _ rfl⟩)

theorem readsAttributes_iff {document : Json} {attributes : Mapping} :
    ReadsAttributes GivesInteger GivesBoolean document attributes ↔
      ReadsAttributes ReadsInteger ReadsBoolean document attributes ∧
        KeepsAttributes document := by
  unfold ReadsAttributes KeepsAttributes
  simp only [forall₂_iff_and readsEntry_iff, and_right_comm, exists_and_right]

theorem readsMember_iff {name : String} {document : Json} {number : Int} :
    ReadsMember GivesInteger name document number ↔
      ReadsMember ReadsInteger name document number ∧ KeepsMember name document := by
  constructor
  · rintro ⟨payload, hpayload, hgives⟩
    obtain ⟨hread, hkeeps⟩ := givesInteger_iff.1 hgives
    refine ⟨⟨payload, hpayload, hread⟩, fun other hother ↦ ?_⟩
    obtain rfl := Except.ok.inj (hpayload.symm.trans hother)
    exact hkeeps
  · rintro ⟨⟨payload, hpayload, hread⟩, hkeeps⟩
    exact ⟨payload, hpayload, givesInteger_iff.2 ⟨hread, hkeeps payload hpayload⟩⟩

theorem readsEvent_iff (document : Json) (event : Event) :
    ReadsEvent GivesInteger GivesBoolean document event ↔
      ReadsEvent ReadsInteger ReadsBoolean document event ∧ KeepsEvent document := by
  constructor
  · rintro ⟨htimestamp, hattributes⟩
    obtain ⟨htime, hkeepsTime⟩ := readsMember_iff.1 htimestamp
    obtain ⟨hentries, hkeeps⟩ := readsAttributes_iff.1 hattributes
    exact ⟨⟨htime, hentries⟩, ⟨hkeepsTime, hkeeps⟩⟩
  · rintro ⟨h, hkeeps⟩
    exact ⟨readsMember_iff.2 ⟨h.timestamp, hkeeps.timestamp⟩,
      readsAttributes_iff.2 ⟨h.attributes, hkeeps.attributes⟩⟩

/-- The payloads of a span give what a record says exactly if the record is read from them and none
of them is converted. -/
theorem readsRecord_iff (raw : RawSpan) (record : SpanRecord) :
    ReadsRecord GivesInteger GivesBoolean raw record ↔
      ReadsRecord ReadsInteger ReadsBoolean raw record ∧ KeepsSpan raw := by
  constructor
  · intro h
    obtain ⟨hstart, hkeepsStart⟩ := readsMember_iff.1 h.start
    obtain ⟨hfinish, hkeepsFinish⟩ := readsMember_iff.1 h.finish
    obtain ⟨hdroppedAttributes, hkeepsDroppedAttributes⟩ := readsMember_iff.1 h.droppedAttributes
    obtain ⟨hdroppedEvents, hkeepsDroppedEvents⟩ := readsMember_iff.1 h.droppedEvents
    obtain ⟨hattributes, hkeepsAttributes⟩ := readsAttributes_iff.1 h.attributes
    obtain ⟨hevents, hkeepsEvents⟩ := (forall₂_iff_and readsEvent_iff).1 h.events
    obtain ⟨resource, hresource, hread⟩ := h.resource
    obtain ⟨hread, hkeepsResource⟩ := readsAttributes_iff.1 hread
    refine ⟨⟨hstart, hfinish, hdroppedAttributes, hdroppedEvents, hattributes, hevents,
      ⟨resource, hresource, hread⟩⟩, ⟨hkeepsStart, hkeepsFinish, hkeepsDroppedAttributes,
      hkeepsDroppedEvents, hkeepsAttributes, hkeepsEvents, fun other hother ↦ ?_⟩⟩
    obtain rfl := Except.ok.inj (hresource.symm.trans hother)
    exact hkeepsResource
  · rintro ⟨h, hkeeps⟩
    obtain ⟨resource, hresource, hread⟩ := h.resource
    exact {
      start := readsMember_iff.2 ⟨h.start, hkeeps.start⟩
      finish := readsMember_iff.2 ⟨h.finish, hkeeps.finish⟩
      droppedAttributes := readsMember_iff.2 ⟨h.droppedAttributes, hkeeps.droppedAttributes⟩
      droppedEvents := readsMember_iff.2 ⟨h.droppedEvents, hkeeps.droppedEvents⟩
      attributes := readsAttributes_iff.2 ⟨h.attributes, hkeeps.attributes⟩
      events := (forall₂_iff_and readsEvent_iff).2 ⟨h.events, hkeeps.events⟩
      resource := ⟨resource, hresource,
        readsAttributes_iff.2 ⟨hread, hkeeps.resource resource hresource⟩⟩ }

/-! ### Values -/

theorem isObject_of_decodeValue {document : Json} {value : Value}
    (h : decodeValue document = .ok value) : IsObject document := by
  obtain ⟨members, rfl, -⟩ := cases_of_decodeValue h
  exact ⟨members, rfl⟩

/-- A value that was read is the scalar or the sequence of items of the kind that counts. -/
theorem exists_isFirstKind_of_decodeValue {document : Json} {value : Value}
    (h : decodeValue document = .ok value) :
    ∃ members kind payload, document = .obj members ∧ IsFirstKind members kind payload ∧
      if kind = "arrayValue" then
        ∃ items, arrayItems payload = .ok items ∧ sequenceOf items = .ok value
      else decodeScalar kind payload = .ok value := by
  obtain ⟨members, rfl⟩ := isObject_of_decodeValue h
  rcases isFirstKind_or_unknown members with ⟨kind, payload, hfirst⟩ | hunknown
  · refine ⟨members, kind, payload, rfl, hfirst, ?_⟩
    rw [decodeValue_of_isFirstKind hfirst] at h
    split
    · next hkind =>
      rw [if_pos hkind] at h
      exact bind_eq_ok_iff.1 h
    · next hkind => rwa [if_neg hkind] at h
  · rw [decodeValue_of_unknown hunknown] at h
    exact absurd h unsupported_ne_ok

/-- The items of a sequence are scalars. -/
theorem exists_scalars_of_sequenceOf {items : List Value} {value : Value}
    (h : sequenceOf items = .ok value) :
    ∃ scalars : List Scalar, items = scalars.map Scalar.toValue ∧ value = .tuple items := by
  obtain ⟨attr, hattr, hpure⟩ := bind_eq_ok_iff.1 h
  obtain ⟨scalars, hscalars, -⟩ := bind_eq_ok_iff.1 (mapError_eq_ok_iff.1 hattr)
  exact ⟨scalars, (Attribute.map_toValue_of_mapM hscalars).symm, (Except.ok.inj hpure).symm⟩

/-- A decoded payload is a scalar that is read from it. -/
theorem exists_readsScalar_of_decodeScalar {members : List (String × Json)} {kind : String}
    {payload : Json} {value : Value} (hfirst : IsFirstKind members kind payload)
    (hkind : kind ≠ "arrayValue") (h : decodeScalar kind payload = .ok value) :
    ∃ scalar : Scalar, value = scalar.toValue ∧
      ReadsScalar ReadsInteger ReadsBoolean (.obj members) scalar := by
  rcases mem_dropLast_valueKinds_iff.1 (hfirst.mem_of_ne hkind) with rfl | rfl | rfl | rfl
  · obtain rfl := Except.ok.inj h
    exact ⟨.string _, rfl, .string hfirst⟩
  · obtain rfl := Except.ok.inj h
    exact ⟨.boolean _, rfl, .boolean hfirst (readsBoolean_isTruthy payload)⟩
  · obtain ⟨number, hnumber, rfl⟩ := map_eq_ok_iff.1 h
    exact ⟨.long number, rfl, .long hfirst (readsInteger_of_toInteger (ask_eq_ok_iff.1 hnumber))⟩
  · obtain ⟨number, hnumber, rfl⟩ := map_eq_ok_iff.1 h
    exact ⟨.double number, rfl, .double hfirst (ask_eq_ok_iff.1 hnumber)⟩

/-- A decoded scalar is read from its document. -/
theorem readsScalar_of_decodeValue {document : Json} {scalar : Scalar}
    (h : decodeValue document = .ok scalar.toValue) :
    ReadsScalar ReadsInteger ReadsBoolean document scalar := by
  obtain ⟨members, kind, payload, rfl, hfirst, hread⟩ := exists_isFirstKind_of_decodeValue h
  split at hread
  · obtain ⟨items, -, hsequence⟩ := hread
    obtain ⟨scalars, -, hvalue⟩ := exists_scalars_of_sequenceOf hsequence
    cases scalar <;> cases hvalue
  · next hkind =>
    obtain ⟨found, hfound, hreads⟩ := exists_readsScalar_of_decodeScalar hfirst hkind hread
    obtain rfl : scalar = found := by
      have := congrArg Scalar.ofValue hfound
      simpa using this
    exact hreads

/-- The items of an array that was read are the values that it lists. -/
theorem mapM_itemsAt_of_arrayItems {payload : Json} {items : List Value}
    (h : arrayItems payload = .ok items) :
    (itemsAt "values" payload).mapM decodeValue = .ok items := by
  cases payload with
  | obj members =>
    rw [arrayItems, valuesMember?_eq] at h
    rw [itemsAt]
    cases hvalues : members.lookup "values" with
    | none =>
      rw [hvalues] at h
      exact h
    | some values =>
      rw [hvalues, Option.map_some, Option.getD_some, decodeSequence_eq] at h
      obtain ⟨documents, hdocuments, hitems⟩ := bind_eq_ok_iff.1 h
      -- The items of a text and of an object are texts, and no text is a value.
      have hobjects : ∀ document ∈ documents, IsObject document :=
        ((List.forall₂_and_left documents items).1 ((mapM_eq_ok_iff.1 hitems).imp
          fun document item hitem ↦ ⟨isObject_of_decodeValue hitem, hitem⟩)).1
      rwa [Option.elim_some, listItems_of_elements (ask_eq_ok_iff.1 hdocuments) hobjects]
  | _ =>
    unfold arrayItems at h
    split at h
    · cases h
    · exact h

/-- A decoded value is read from its document. -/
theorem readsValue_of_decodeValue {document : Json} {value : Value}
    (h : decodeValue document = .ok value) :
    ReadsValue ReadsInteger ReadsBoolean document value := by
  obtain ⟨members, kind, payload, rfl, hfirst, hread⟩ := exists_isFirstKind_of_decodeValue h
  split at hread
  · next hkind =>
    subst hkind
    obtain ⟨items, hitems, hsequence⟩ := hread
    obtain ⟨scalars, rfl, rfl⟩ := exists_scalars_of_sequenceOf hsequence
    refine .array hfirst ?_
    have hvalues := mapM_eq_ok_iff.1 (mapM_itemsAt_of_arrayItems hitems)
    exact (List.forall₂_map_right_iff.1 hvalues).imp fun _ _ ↦ readsScalar_of_decodeValue
  · next hkind =>
    obtain ⟨scalar, rfl, hscalar⟩ := exists_readsScalar_of_decodeScalar hfirst hkind hread
    exact .scalar hscalar

/-! ### Attributes -/

/-- A decoded attribute adds the entry that is read from its document. -/
theorem exists_readsEntry_of_decodeEntry {attributes next : Mapping} {document : Json}
    (h : decodeEntry attributes document = .ok next) :
    ∃ entry, ReadsEntry ReadsInteger ReadsBoolean document entry ∧
      next = attributes.insertAlike entry.1 entry.2 := by
  obtain ⟨keyDocument, valueDocument, key, value, hkeyDocument, -, hvalueDocument, hvalue, hkey,
    rfl⟩ := decodeEntry_eq_ok_iff.1 h
  obtain ⟨members, rfl⟩ := isObject_of_memberOr hkeyDocument
  obtain rfl := Except.ok.inj hkeyDocument
  obtain rfl := Except.ok.inj hvalueDocument
  exact ⟨(key, value), .entry hkey (readsValue_of_decodeValue hvalue), rfl⟩

/-- The entries of a list are read one after another, whatever attributes came before. -/
theorem exists_entries_of_foldlM {documents : List Json} {sofar attributes : Mapping}
    (h : documents.foldlM decodeEntry sofar = .ok attributes) :
    ∃ entries, List.Forall₂ (ReadsEntry ReadsInteger ReadsBoolean) documents entries ∧
      attributes = sofar.insertAllAlike entries := by
  induction documents generalizing sofar with
  | nil => exact ⟨[], .nil, (Except.ok.inj h).symm⟩
  | cons document documents ih =>
    rw [List.foldlM_cons] at h
    obtain ⟨next, hnext, hrest⟩ := bind_eq_ok_iff.1 h
    obtain ⟨entry, hentry, rfl⟩ := exists_readsEntry_of_decodeEntry hnext
    obtain ⟨entries, hentries, rfl⟩ := ih hrest
    exact ⟨entry :: entries, .cons hentry hentries, rfl⟩

theorem isObject_of_readsEntry {integer : Json → Int → Prop} {boolean : Json → Bool → Prop}
    {document : Json} {entry : Value × Value} (h : ReadsEntry integer boolean document entry) :
    IsObject document := by
  cases h
  exact ⟨_, rfl⟩

theorem readsAttributes_of_decodeAttributes {document list : Json} {attributes : Mapping}
    (hlist : document.memberOr "attributes" (.arr []) = .ok list)
    (h : decodeAttributes list = .ok attributes) :
    ReadsAttributes ReadsInteger ReadsBoolean document attributes := by
  obtain ⟨items, hitems, hfold⟩ := bind_eq_ok_iff.1 h
  obtain ⟨entries, hentries, rfl⟩ := exists_entries_of_foldlM hfold
  have hmember := listMember_eq_ok_iff.2 ⟨list, hlist, ask_eq_ok_iff.1 hitems⟩
  refine ⟨entries, ?_, rfl⟩
  rwa [itemsAt_of_forall₂ (fun _ _ ↦ isObject_of_readsEntry) hmember hentries]

/-! ### Records -/

theorem readsEvent_of_decodeEvent {document : Json} {event : Event}
    (h : decodeEvent document = .ok event) :
    ReadsEvent ReadsInteger ReadsBoolean document event := by
  obtain ⟨name, time, list, -, -, htime, hinteger, hlist, hattributes⟩ :=
    decodeEvent_eq_ok_iff.1 h
  exact ⟨⟨time, htime, readsInteger_of_toInteger hinteger⟩,
    readsAttributes_of_decodeAttributes hlist hattributes⟩

theorem readsMember_of_integerMember {name : String} {document : Json} {number : Int}
    (h : integerMember name document = .ok number) :
    ReadsMember ReadsInteger name document number := by
  obtain ⟨payload, hpayload, hinteger⟩ := integerMember_eq_ok_iff.1 h
  exact ⟨payload, hpayload, readsInteger_of_toInteger hinteger⟩

theorem IsDraftOf.readsEvents {resource : Mapping} {scope : Scope} {span : Json} {draft : SpanDraft}
    (h : IsDraftOf resource scope span draft) :
    List.Forall₂ (ReadsEvent ReadsInteger ReadsBoolean) (itemsAt "events" span) draft.events := by
  obtain ⟨list, items, hlist, hitems, hevents⟩ := h.events
  have hreads := (mapM_eq_ok_iff.1 hevents).imp fun _ _ ↦ readsEvent_of_decodeEvent
  have hmember := listMember_eq_ok_iff.2 ⟨list, hlist, hitems⟩
  rwa [itemsAt_of_forall₂ (fun _ _ hevent ↦ ?_) hmember hreads]
  obtain ⟨payload, hpayload, -⟩ := hevent.timestamp
  exact isObject_of_memberOr hpayload

theorem IsRecordOf.readsRecord {raw : RawSpan} {record : SpanRecord} (h : IsRecordOf raw record) :
    ReadsRecord ReadsInteger ReadsBoolean raw record := by
  obtain ⟨resource, block, hresource, -, hspan⟩ := h
  have hdraft := decodeSpan_eq_ok_iff.1 hspan
  obtain ⟨list, hlist, hattributes⟩ := hdraft.attributes
  obtain ⟨document, hdocument, hread⟩ := bind_eq_ok_iff.1 hresource
  obtain ⟨resourceList, hresourceList, hresourceAttributes⟩ := bind_eq_ok_iff.1 hread
  have hsame : record.resource = resource := hdraft.resource
  exact {
    start := readsMember_of_integerMember hdraft.start
    finish := readsMember_of_integerMember hdraft.finish
    droppedAttributes := readsMember_of_integerMember hdraft.droppedAttributes
    droppedEvents := readsMember_of_integerMember hdraft.droppedEvents
    attributes := readsAttributes_of_decodeAttributes hlist hattributes
    events := hdraft.readsEvents
    resource := by
      rw [hsame]
      exact ⟨document, ask_eq_ok_iff.1 hdocument,
        readsAttributes_of_decodeAttributes (ask_eq_ok_iff.1 hresourceList) hresourceAttributes⟩ }

/-- A document is read as records whose integers and truth values its payloads give or count as, or
it is refused, as invalid if it has the right shape. The payloads of an accepted document give all
integers and truth values exactly if none of them is converted. A payload in place of an integer
gives one, counts as one, or is itself refused: as invalid unless it is infinite. -/
theorem decode_payloads (document : Json) :
    ((∃ records, decode document = .ok records ∧
        List.Forall₂ (ReadsRecord ReadsInteger ReadsBoolean) (rawSpans document) records ∧
        (List.Forall₂ (ReadsRecord GivesInteger GivesBoolean) (rawSpans document) records ↔
          ∀ raw ∈ rawSpans document, KeepsSpan raw)) ∨
      ∃ error, decode document = .error error ∧
        (error.category = .invalid ∨ ¬IsShaped document)) ∧
    ∀ payload : Json,
      (∃ number, payload.toInteger = .ok number ∧ ReadsInteger payload number) ∨
      (payload.toInteger = .error (.badInteger payload.toValue.shown) ∧
        ∀ number, ¬ReadsInteger payload number) ∨
      ∃ negative, payload = .double (.infinite negative) ∧
        payload.toInteger = .error .infiniteInteger := by
  refine ⟨?_, toInteger_cases⟩
  cases hdecode : decode document with
  | ok records =>
    have hreads := (forall₂_isRecordOf_rawSpans hdecode).imp fun _ _ ↦ IsRecordOf.readsRecord
    exact .inl ⟨records, rfl, hreads,
      (forall₂_iff_and readsRecord_iff).trans (and_iff_right hreads)⟩
  | error error =>
    refine .inr ⟨error, rfl, ?_⟩
    by_cases hshaped : IsShaped document
    · exact .inl (judges_decode.invalid_of_error hdecode hshaped)
    · exact .inr hshaped

/-! ### Payloads that do not give what is read -/

/-- A document with one span that has the given members beside its identifiers. -/
def spanWith (members : List (String × Json)) : Json :=
  documentOf [.obj [("scopeSpans", .arr [.obj [("spans",
    .arr [.obj ([("traceId", .str "0a"), ("spanId", .str "0b")] ++ members)])]])]]

def half : Double := .nearest false 1 2

/-- A span from half a nanosecond to one nanosecond. -/
def halfSpan : Json :=
  spanWith [("startTimeUnixNano", .double half), ("endTimeUnixNano", .int 1)]

/-- A span with a truth value as its end. -/
def truthSpan : Json := spanWith [("endTimeUnixNano", .bool true)]

/-- A value with a text in place of a truth value. -/
def wordValue : List (String × Json) := [("boolValue", .str "false")]

/-- A span with that value as an attribute. -/
def wordSpan : Json :=
  spanWith [("attributes", .arr [.obj [("key", .str "k"), ("value", .obj wordValue)]])]

theorem value?_half : half.value? = some (1 / 2) := by
  have hbits : half = .finite false 1022 0 := by decide +kernel
  rw [hbits]
  norm_num [Double.value?, Double.significand, Double.scale, Double.leastScale]

theorem not_givesInteger_half (number : Int) : ¬GivesInteger (.double half) number := by
  intro h
  cases h with
  | double h =>
    have hhalf : (1 / 2 : ℚ) = number := Option.some.inj (value?_half.symm.trans h)
    have htwice : (1 : ℤ) = 2 * number := by
      have : (1 : ℚ) = 2 * number := by linarith
      exact_mod_cast this
    omega

theorem not_readsValue_word {integer : Json → Int → Prop} (value : Value) :
    ¬ReadsValue integer GivesBoolean (.obj wordValue) value := by
  have hword : IsFirstKind wordValue "boolValue" (.str "false") := ⟨by decide, rfl⟩
  intro h
  cases h with
  | scalar hscalar =>
    cases hscalar with
    | boolean hfirst hgives =>
      obtain ⟨-, rfl⟩ := hfirst.unique hword
      cases hgives
    | string hfirst | long hfirst | double hfirst =>
      exact absurd (hfirst.unique hword).1 (by decide)
  | array hfirst => exact absurd (hfirst.unique hword).1 (by decide)

theorem not_forall₂_cons {α β : Type} {R : α → β → Prop} {item : α} {items : List α}
    {results : List β} (h : ∀ result, ¬R item result) :
    ¬List.Forall₂ R (item :: items) results := by
  intro hall
  cases hall with
  | cons hfirst => exact h _ hfirst

/-- Half a nanosecond is accepted as an integer, so is a truth value, and a text is accepted as a
truth value. An infinite time is refused, but not as invalid. -/
theorem payloads_are_converted :
    (∃ records, decode halfSpan = .ok records ∧
      ¬List.Forall₂ (ReadsRecord GivesInteger GivesBoolean) (rawSpans halfSpan) records) ∧
    (∃ records, decode truthSpan = .ok records ∧
      ¬List.Forall₂ (ReadsRecord GivesInteger GivesBoolean) (rawSpans truthSpan) records) ∧
    (∃ records, decode wordSpan = .ok records ∧
      ¬List.Forall₂ (ReadsRecord GivesInteger GivesBoolean) (rawSpans wordSpan) records) ∧
    decode (spanWith [("startTimeUnixNano", .double (.infinite false))]) =
      .error (.document (.shape .infiniteInteger)) := by
  refine ⟨?_, ?_, ?_, by decide +kernel⟩
  · have haccepted : (decode halfSpan).toBool = true := by decide +kernel
    obtain ⟨records, hrecords⟩ := exists_of_toBool haccepted
    refine ⟨records, hrecords, not_forall₂_cons fun record hread ↦ ?_⟩
    obtain ⟨payload, hpayload, hgives⟩ := hread.start
    obtain rfl := Except.ok.inj hpayload
    exact not_givesInteger_half _ hgives
  · have haccepted : (decode truthSpan).toBool = true := by decide +kernel
    obtain ⟨records, hrecords⟩ := exists_of_toBool haccepted
    refine ⟨records, hrecords, not_forall₂_cons fun record hread ↦ ?_⟩
    obtain ⟨payload, hpayload, hgives⟩ := hread.finish
    obtain rfl := Except.ok.inj hpayload
    cases hgives
  · have haccepted : (decode wordSpan).toBool = true := by decide +kernel
    obtain ⟨records, hrecords⟩ := exists_of_toBool haccepted
    refine ⟨records, hrecords, not_forall₂_cons fun record hread ↦ ?_⟩
    obtain ⟨entries, hentries, -⟩ := hread.attributes
    refine not_forall₂_cons (fun entry hentry ↦ ?_) hentries
    cases hentry with
    | entry hkey hvalue => exact not_readsValue_word _ hvalue

end SpanBridge.Otlp
