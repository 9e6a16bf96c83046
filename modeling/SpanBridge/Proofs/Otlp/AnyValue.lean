import SpanBridge.Proofs.Attribute
import SpanBridge.Proofs.Otlp.Shape

/-!
# Which attribute values a document yields

Reading a value of a bounded document gives a text, a truth value, an integer within the digit
limit, a number, or a tuple of these of one kind (`isWritable_of_decodeValue`), so that it has a
text. The attributes of a document hold such values only, under keys that have names
(`isWritable_of_decodeAttributes`).
-/

set_option autoImplicit false
set_option relaxedAutoImplicit false

namespace SpanBridge

/-- A value that is an attribute whose integers are all within the digit limit. -/
def Value.IsWritable (value : Value) : Prop :=
  ∃ attr : Attribute, attr.IsWritable ∧ value = attr.toValue

/-- A mapping that can be written: its keys have names and its values have texts. -/
def Mapping.IsWritable (mapping : Mapping) : Prop :=
  ∀ entry ∈ mapping.entries,
    (∃ name, Json.nameOfKey entry.1 = .ok name) ∧ entry.2.IsWritable

theorem Value.IsWritable.exists_attributeText {value : Value} (h : value.IsWritable) :
    ∃ text, value.attributeText = .ok text := by
  obtain ⟨attr, hattr, rfl⟩ := h
  rw [Attribute.attributeText_toValue]
  exact (Attribute.exists_text_iff attr).2 hattr

theorem Mapping.IsWritable.empty : Mapping.empty.IsWritable := by
  intro entry hentry
  cases hentry

/-- An attribute that can be written keeps a mapping so. -/
theorem Mapping.IsWritable.insertAlike {mapping : Mapping} {key value : Value}
    (h : mapping.IsWritable) (hkey : ∃ name, Json.nameOfKey key = .ok name)
    (hvalue : value.IsWritable) : (mapping.insertAlike key value).IsWritable := by
  intro entry hentry
  constructor
  · rcases Entries.exists_key_of_mem_insert hentry with hsame | ⟨old, hold, hsame⟩
    · exact hsame ▸ hkey
    · exact hsame ▸ (h old hold).1
  · rcases Entries.value_of_mem_insert hentry with hnew | hold
    · exact hnew ▸ hvalue
    · exact (h entry hold).2

namespace Otlp

/-! ### The recursion on documents -/

/-- The kinds without parts. -/
theorem mem_dropLast_valueKinds_iff {kind : String} : kind ∈ valueKinds.dropLast ↔
    kind = "stringValue" ∨ kind = "boolValue" ∨ kind = "intValue" ∨ kind = "doubleValue" := by
  simp [valueKinds]

theorem arrayMember?_eq (members : List (String × Json)) :
    arrayMember? members = (members.lookup "arrayValue").map arrayItems := by
  induction members with
  | nil => rfl
  | cons member members ih =>
    obtain ⟨name, payload⟩ := member
    rw [arrayMember?, Entries.lookup_cons_eq, ih, apply_ite (Option.map arrayItems),
      Option.map_some]
    exact if_congr eq_comm rfl rfl

theorem valuesMember?_eq (members : List (String × Json)) :
    valuesMember? members = (members.lookup "values").map decodeSequence := by
  induction members with
  | nil => rfl
  | cons member members ih =>
    obtain ⟨name, payload⟩ := member
    rw [valuesMember?, Entries.lookup_cons_eq, ih, apply_ite (Option.map decodeSequence),
      Option.map_some]
    exact if_congr eq_comm rfl rfl

theorem decodeItems_eq (items : List Json) : decodeItems items = items.mapM decodeValue := by
  induction items with
  | nil => rfl
  | cons item items ih => rw [decodeItems, ih, List.mapM_cons]

/-! ### Values -/

/-- A scalar of a bounded payload can be written. -/
theorem isWritable_of_decodeScalar {kind : String} {payload : Json} {value : Value}
    (h : payload.IsBounded) (hvalue : decodeScalar kind payload = .ok value) :
    value.IsWritable := by
  unfold decodeScalar at hvalue
  split at hvalue
  · obtain rfl := Except.ok.inj hvalue
    exact ⟨.string _, by simp [Attribute.IsWritable, Attribute.integers], rfl⟩
  split at hvalue
  · obtain rfl := Except.ok.inj hvalue
    exact ⟨.boolean _, by simp [Attribute.IsWritable, Attribute.integers], rfl⟩
  split at hvalue
  · obtain ⟨number, hnumber, rfl⟩ := map_eq_ok_iff.1 hvalue
    have hlimit := Json.withinLimit_of_toInteger h (ask_eq_ok_iff.1 hnumber)
    exact ⟨.long number, by simpa [Attribute.IsWritable, Attribute.integers], rfl⟩
  · obtain ⟨number, -, rfl⟩ := map_eq_ok_iff.1 hvalue
    exact ⟨.double number, by simp [Attribute.IsWritable, Attribute.integers], rfl⟩

theorem unsupported_ne_ok {α : Type} {items : List Value} {value : α} :
    unsupported items ≠ .ok value := by
  intro h
  obtain ⟨sorted, -, hthrow⟩ := bind_eq_ok_iff.1 h
  cases hthrow

theorem decodeText_ne_ok {α : Type} {text : String} {value : α} : decodeText text ≠ .ok value := by
  intro h
  unfold decodeText at h
  split at h
  · cases h
  · exact unsupported_ne_ok h

/-- A value that was read is a scalar of an object or the sequence of the items of its array. -/
theorem cases_of_decodeValue {document : Json} {value : Value}
    (h : decodeValue document = .ok value) :
    ∃ members, document = .obj members ∧
      ((∃ kind payload, members.lookup kind = some payload ∧
          decodeScalar kind payload = .ok value) ∨
        ∃ payload items, members.lookup "arrayValue" = some payload ∧
          arrayItems payload = .ok items ∧ sequenceOf items = .ok value) := by
  cases document with
  | obj members =>
    refine ⟨members, rfl, ?_⟩
    rw [decodeValue] at h
    split at h
    · next attempt hscalar =>
      obtain ⟨kind, -, hkind⟩ := List.exists_of_findSome?_eq_some hscalar
      obtain ⟨payload, hpayload, rfl⟩ := Option.map_eq_some_iff.1 hkind
      exact .inl ⟨kind, payload, hpayload, h⟩
    · rw [arrayMember?_eq] at h
      cases hpayload : members.lookup "arrayValue" with
      | none =>
        rw [hpayload] at h
        exact absurd h unsupported_ne_ok
      | some payload =>
        rw [hpayload] at h
        obtain ⟨items, hitems, hvalue⟩ := bind_eq_ok_iff.1 h
        exact .inr ⟨payload, items, rfl, hitems, hvalue⟩
  | str text =>
    rw [decodeValue] at h
    exact absurd h decodeText_ne_ok
  | arr items =>
    rw [decodeValue] at h
    split at h
    · cases h
    · exact absurd h unsupported_ne_ok
  | _ => cases h

theorem eq_nil_of_mapM_decodeText {α : Type} {texts : List α} {spelling : α → String}
    {items : List Value} (h : texts.mapM (fun text ↦ decodeText (spelling text)) = .ok items) :
    items = [] := by
  refine List.eq_nil_iff_forall_not_mem.2 fun item hitem ↦ ?_
  obtain ⟨text, -, htext⟩ := exists_mem_of_mapM_eq_ok h hitem
  exact decodeText_ne_ok htext

/-- The items of a decoded sequence are decoded from bounded documents. -/
theorem exists_decodeValue_of_decodeSequence {payload : Json} {items : List Value}
    (h : payload.IsBounded) (hitems : decodeSequence payload = .ok items) :
    ∀ item ∈ items, ∃ document : Json, document.IsBounded ∧ decodeValue document = .ok item := by
  cases h with
  | arr hall =>
    rw [decodeSequence, decodeItems_eq] at hitems
    intro item hitem
    obtain ⟨document, hdocument, hvalue⟩ := exists_mem_of_mapM_eq_ok hitems hitem
    exact ⟨document, hall document hdocument, hvalue⟩
  | str text =>
    rw [decodeSequence] at hitems
    simp [eq_nil_of_mapM_decodeText hitems]
  | obj hall =>
    rw [decodeSequence] at hitems
    simp [eq_nil_of_mapM_decodeText hitems]
  | _ => cases hitems

/-- The items of an array that was read are values that were read. -/
theorem exists_decodeValue_of_arrayItems {payload : Json} {items : List Value}
    (h : payload.IsBounded) (hitems : arrayItems payload = .ok items) :
    ∀ item ∈ items, ∃ document : Json, document.IsBounded ∧ decodeValue document = .ok item := by
  cases payload with
  | obj members =>
    rw [arrayItems, valuesMember?_eq] at hitems
    cases hvalues : members.lookup "values" with
    | none =>
      rw [hvalues] at hitems
      obtain rfl := Except.ok.inj hitems
      simp
    | some values =>
      rw [hvalues] at hitems
      exact exists_decodeValue_of_decodeSequence (h.of_lookup hvalues) hitems
  | _ =>
    unfold arrayItems at hitems
    split at hitems
    · cases hitems
    · obtain rfl := Except.ok.inj hitems
      simp

/-- The integers of a sequence that was read are integers among its items. -/
theorem isWritable_of_sequenceOf {items : List Value} {value : Value}
    (hlimit : ∀ number, Value.int number ∈ items → Number.WithinLimit number)
    (h : sequenceOf items = .ok value) : value.IsWritable := by
  obtain ⟨attr, hattr, hpure⟩ := bind_eq_ok_iff.1 h
  obtain rfl := Except.ok.inj hpure
  have htuple := Attribute.toValue_of_ofValue_tuple (mapError_eq_ok_iff.1 hattr)
  exact ⟨attr, fun number hnumber ↦ hlimit number (Attribute.int_mem_of_toValue htuple hnumber),
    htuple.symm⟩

/-- An integer that a bounded document has as its value is within the digit limit. -/
theorem withinLimit_of_decodeValue {document : Json} {number : Int} (h : document.IsBounded)
    (hvalue : decodeValue document = .ok (.int number)) : Number.WithinLimit number := by
  obtain ⟨members, rfl, ⟨kind, payload, hpayload, hscalar⟩ | ⟨payload, items, -, -, hsequence⟩⟩ :=
    cases_of_decodeValue hvalue
  · obtain ⟨attr, hattr, heq⟩ := isWritable_of_decodeScalar (h.of_lookup hpayload) hscalar
    exact Attribute.withinLimit_of_toValue_int hattr heq.symm
  · obtain ⟨attr, -, hpure⟩ := bind_eq_ok_iff.1 hsequence
    cases hpure

/-- A value of a bounded document has a text. -/
theorem isWritable_of_decodeValue {document : Json} {value : Value} (h : document.IsBounded)
    (hvalue : decodeValue document = .ok value) : value.IsWritable := by
  obtain ⟨members, rfl, ⟨kind, payload, hpayload, hscalar⟩ |
    ⟨payload, items, hpayload, hitems, hsequence⟩⟩ := cases_of_decodeValue hvalue
  · exact isWritable_of_decodeScalar (h.of_lookup hpayload) hscalar
  · refine isWritable_of_sequenceOf (fun number hnumber ↦ ?_) hsequence
    obtain ⟨item, hbounded, hitem⟩ :=
      exists_decodeValue_of_arrayItems (h.of_lookup hpayload) hitems _ hnumber
    exact withinLimit_of_decodeValue hbounded hitem

/-! ### Attributes -/

/-- An attribute is decoded with a key that counts as true and a value. -/
theorem decodeEntry_eq_ok_iff {attributes next : Mapping} {entry : Json} :
    decodeEntry attributes entry = .ok next ↔
      ∃ keyDocument valueDocument key value, entry.memberOr "key" .null = .ok keyDocument ∧
        keyDocument.isTruthy = true ∧ entry.memberOr "value" (.obj []) = .ok valueDocument ∧
        decodeValue valueDocument = .ok value ∧ keyDocument.toKey = .ok key ∧
        next = attributes.insertAlike key value := by
  simp only [decodeEntry, bind_eq_ok_iff, ask_eq_ok_iff, refuse_eq_ok_iff, pure_eq_ok,
    Except.ok.injEq, Bool.not_eq_true', Bool.not_eq_false]
  constructor
  · rintro ⟨keyDocument, hkeyDocument, htruthy, valueDocument, hvalueDocument, value, hvalue, key,
      hkey, rfl⟩
    exact ⟨keyDocument, valueDocument, key, value, hkeyDocument, htruthy, hvalueDocument, hvalue,
      hkey, rfl⟩
  · rintro ⟨keyDocument, valueDocument, key, value, hkeyDocument, htruthy, hvalueDocument, hvalue,
      hkey, rfl⟩
    exact ⟨keyDocument, hkeyDocument, htruthy, valueDocument, hvalueDocument, value, hvalue, key,
      hkey, rfl⟩

/-- An attribute of a bounded document keeps what can be written. -/
theorem isWritable_of_decodeEntry {attributes next : Mapping} {entry : Json}
    (hentry : entry.IsBounded) (h : attributes.IsWritable)
    (hnext : decodeEntry attributes entry = .ok next) : next.IsWritable := by
  obtain ⟨keyDocument, valueDocument, key, value, hkeyDocument, -, hvalueDocument, hvalue, hkey,
    rfl⟩ := decodeEntry_eq_ok_iff.1 hnext
  have hkeyBounded := Json.isBounded_of_memberOr hentry .null hkeyDocument
  have hvalueBounded := Json.isBounded_of_memberOr hentry (.obj (by simp)) hvalueDocument
  exact h.insertAlike (Json.exists_nameOfKey_of_toKey hkeyBounded hkey)
    (isWritable_of_decodeValue hvalueBounded hvalue)

/-- The attributes of a bounded document can be written. -/
theorem isWritable_of_decodeAttributes {document : Json} {attributes : Mapping}
    (h : document.IsBounded) (hattributes : decodeAttributes document = .ok attributes) :
    attributes.IsWritable := by
  obtain ⟨entries, hentries, hfold⟩ := bind_eq_ok_iff.1 hattributes
  have hall := Json.isBounded_of_elements h (ask_eq_ok_iff.1 hentries)
  exact foldlM_invariant Mapping.IsWritable hfold .empty fun sofar entry hentry hsofar next hnext ↦
    isWritable_of_decodeEntry (hall entry hentry) hsofar hnext

end Otlp
end SpanBridge
