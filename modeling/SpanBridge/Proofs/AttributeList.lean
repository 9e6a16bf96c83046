import SpanBridge.Proofs.KeyForm
import SpanBridge.Proofs.Outline
import SpanBridge.Proofs.Pipeline

/-!
# Lists of attributes

A list of attributes is read entry by entry, and its first entry that cannot be read decides how it
is refused (`decodeAttributes_eq`). Two lists one after the other therefore fail as the first of
them that fails, and otherwise yield one mapping, in which the second list overrides the first and
adds its new keys to the end (`isMerge_of_writes`). In the mapping of a list each key stands once,
where it first came, with the value of its last entry (`isListedIn_of_writes`). An entry under a key
that came before counts for nothing else: it is neither counted as an attribute nor as one that was
dropped (`attributes_are_merged`).
-/

set_option autoImplicit false
set_option relaxedAutoImplicit false

namespace SpanBridge.Otlp

/-! ### Entries -/

/-- The key under which an entry lists its value. -/
def listedKey : Json → Value
  | .obj members => (memberIn members "key" .null).toValue
  | _ => .null

/-- An entry lists its value under a text. -/
def HasTextKey (entry : Json) : Prop := ∃ key, listedKey entry = .str key

def listedValue (entry : Json) : Except DocumentError Value := do
  decodeValue (← ask (entry.memberOr "value" (.obj [])))

/-- Reads the key and the value of an entry. -/
def readEntry (entry : Json) : Except DocumentError (Value × Value) := do
  let key ← ask (entry.memberOr "key" .null)
  if !key.isTruthy then throw .missingKey
  let value ← listedValue entry
  return (← ask key.toKey, value)

/-- An entry is decoded by reading it and then writing it under its key. -/
theorem decodeEntry_eq (attributes : Mapping) (entry : Json) :
    decodeEntry attributes entry =
      (fun write ↦ attributes.insertAlike write.1 write.2) <$> readEntry entry := by
  unfold decodeEntry readEntry listedValue
  cases ask (entry.memberOr "key" .null) with
  | error error => rfl
  | ok key =>
    simp only [ok_bind]
    split
    · rfl
    cases ask (entry.memberOr "value" (.obj [])) with
    | error error => rfl
    | ok document =>
      simp only [ok_bind]
      cases decodeValue document with
      | error error => rfl
      | ok value => cases key.toKey <;> rfl

/-- A key is the value of the document from which it comes. -/
theorem toValue_of_toKey {document : Json} {key : Value} (h : document.toKey = .ok key) :
    document.toValue = key := by
  cases document with
  | arr items => cases h
  | obj members => cases h
  | _ => exact Except.ok.inj h

/-- What is read of an entry is what it lists. -/
theorem listed_of_readEntry {entry : Json} {write : Value × Value}
    (h : readEntry entry = .ok write) :
    IsObject entry ∧ write.1 = listedKey entry ∧ listedValue entry = .ok write.2 := by
  obtain ⟨document, hdocument, h⟩ := bind_eq_ok_iff.1 h
  obtain ⟨-, h⟩ := refuse_eq_ok_iff.1 h
  obtain ⟨value, hvalue, h⟩ := bind_eq_ok_iff.1 h
  obtain ⟨key, hkey, h⟩ := bind_eq_ok_iff.1 h
  obtain rfl := Except.ok.inj h
  have hmember := ask_eq_ok_iff.1 hdocument
  obtain ⟨members, rfl⟩ := isObject_of_memberOr hmember
  obtain rfl := Except.ok.inj hmember
  exact ⟨⟨members, rfl⟩, (toValue_of_toKey (ask_eq_ok_iff.1 hkey)).symm, hvalue⟩

/-! ### Lists -/

/-- Writes that are read of the entries of a list. -/
abbrev ReadAs (entries : List Json) (writes : List (Value × Value)) : Prop :=
  List.Forall₂ (fun entry write ↦ readEntry entry = .ok write) entries writes

/-- Decoding entries one after another is reading all of them and then writing them in turn. -/
theorem foldlM_decodeEntry_eq (entries : List Json) (sofar : Mapping) :
    entries.foldlM decodeEntry sofar = sofar.insertAllAlike <$> entries.mapM readEntry := by
  induction entries generalizing sofar with
  | nil => rfl
  | cons entry entries ih =>
    rw [List.foldlM_cons, List.mapM_cons, decodeEntry_eq]
    cases readEntry entry with
    | error error => rfl
    | ok write =>
      refine (ih _).trans ?_
      rw [ok_bind]
      cases entries.mapM readEntry <;> rfl

theorem decodeAttributes_eq (entries : List Json) :
    decodeAttributes (.arr entries) = Mapping.empty.insertAllAlike <$> entries.mapM readEntry :=
  foldlM_decodeEntry_eq entries .empty

/-- A list is decoded when all its entries can be read, and holds what they write in turn. -/
theorem decodeAttributes_eq_ok_iff {entries : List Json} {attributes : Mapping} :
    decodeAttributes (.arr entries) = .ok attributes ↔
      ∃ writes, ReadAs entries writes ∧ Mapping.empty.insertAllAlike writes = attributes := by
  rw [decodeAttributes_eq, map_eq_ok_iff]
  simp only [mapM_eq_ok_iff]

/-- A list fails like the first of its entries that cannot be read. -/
theorem decodeAttributes_eq_error_iff {entries : List Json} {error : DocumentError} :
    decodeAttributes (.arr entries) = .error error ↔ entries.mapM readEntry = .error error := by
  rw [decodeAttributes_eq]
  cases entries.mapM readEntry <;> simp

theorem ReadAs.keys_eq {entries : List Json} {writes : List (Value × Value)}
    (h : ReadAs entries writes) : writes.map Prod.fst = entries.map listedKey := by
  induction h with
  | nil => rfl
  | cons hread _ ih => rw [List.map_cons, List.map_cons, ih, (listed_of_readEntry hread).2.1]

section Append

variable {first second : List Json} {error : DocumentError}

/-- A list fails as it does up to some entry. -/
theorem decodeAttributes_append_of_error (h : decodeAttributes (.arr first) = .error error) :
    decodeAttributes (.arr (first ++ second)) = .error error := by
  rw [decodeAttributes_eq_error_iff] at h ⊢
  rw [List.mapM_append, h, error_bind]

/-- A fault in the second of two lists is the fault of both together, where the first has none. -/
theorem decodeAttributes_append_of_ok {before : Mapping}
    (hfirst : decodeAttributes (.arr first) = .ok before)
    (hsecond : decodeAttributes (.arr second) = .error error) :
    decodeAttributes (.arr (first ++ second)) = .error error := by
  obtain ⟨writes, hwrites, -⟩ := decodeAttributes_eq_ok_iff.1 hfirst
  rw [decodeAttributes_eq_error_iff] at hsecond ⊢
  rw [List.mapM_append, mapM_eq_ok_iff.2 hwrites, ok_bind, hsecond, error_bind]

end Append

/-! ### Keys and values of a list -/

/-- A mapping with the keys of two others: those of the first in their order and then the new ones
of the second, each of them once. Under a key stands the value of the second, if it has one. -/
structure IsMerge (before after merged : Mapping) : Prop where
  keys : merged.keys = before.keys ++ after.keys.filter fun key ↦ decide (key ∉ before.keys)
  once : merged.keys.Nodup
  value : ∀ key, merged.find? (.str key) = (after.find? (.str key)).or (before.find? (.str key))

/-- The mapping of a list of entries: each key stands once, in the order in which the keys first
come, and has the value of its last entry. -/
structure IsListedIn (entries : List Json) (attributes : Mapping) : Prop where
  keys : attributes.keys = (entries.map listedKey).eraseDups
  value : ∀ earlier entry later, entries = earlier ++ entry :: later →
    listedKey entry ∉ later.map listedKey →
      ∃ value, listedValue entry = .ok value ∧ attributes.find? (listedKey entry) = some value

theorem exists_str_of_readAs {entries : List Json} {writes : List (Value × Value)}
    (h : ReadAs entries writes) (hkeys : ∀ entry ∈ entries, HasTextKey entry) :
    ∀ write ∈ writes, ∃ key, write.1 = .str key := by
  intro write hwrite
  obtain ⟨entry, hentry, hread⟩ := exists_mem_of_forall₂ h hwrite
  obtain ⟨-, hkey, -⟩ := listed_of_readEntry hread
  exact hkey ▸ hkeys entry hentry

/-- Writing two lists of entries under texts merges the attributes of the one into those of the
other. -/
theorem isMerge_of_writes {first second : List (Value × Value)}
    (h : ∀ write ∈ first ++ second, ∃ key, write.1 = .str key) :
    IsMerge (Mapping.empty.insertAllAlike first) (Mapping.empty.insertAllAlike second)
      (Mapping.empty.insertAllAlike (first ++ second)) := by
  obtain ⟨hfirst, hsecond⟩ := List.forall_mem_append.1 h
  refine ⟨?keys, ?once, fun key ↦ ?value⟩
  case keys =>
    rw [Mapping.keys_insertAllAlike h, Mapping.keys_insertAllAlike hfirst,
      Mapping.keys_insertAllAlike hsecond, List.map_append, eraseDups_append_filter]
  case once =>
    rw [Mapping.keys_insertAllAlike h]
    exact nodup_eraseDups _
  case value =>
    rw [Mapping.find?_str_insertAllAlike, Mapping.find?_str_insertAllAlike,
      Mapping.find?_str_insertAllAlike, List.reverse_append, Entries.find?, List.find?_append,
      Option.map_or]
    rfl

/-- Under the key of the last entry of this key stands its value. -/
theorem find?_of_last {earlier later : List (Value × Value)} {key : String} {value : Value}
    (h : .str key ∉ later.map Prod.fst) :
    (Mapping.empty.insertAllAlike (earlier ++ (.str key, value) :: later)).find? (.str key) =
      some value := by
  have hlater : later.reverse.find? (fun write ↦ Value.Alike write.1 (.str key)) = none := by
    rw [List.find?_eq_none]
    intro write hwrite halike
    refine h (List.mem_map.2 ⟨write, List.mem_reverse.1 hwrite, ?_⟩)
    exact (Value.alike_str_iff write.1 key).1 (of_decide_eq_true halike)
  rw [Mapping.find?_str_insertAllAlike, Entries.find?, List.reverse_append, List.reverse_cons,
    List.append_assoc, List.find?_append, hlater]
  simp [Value.Alike.refl]

/-- Attributes under texts hold each key of the list once, with the last value that the list gives
it. -/
theorem isListedIn_of_writes {entries : List Json} {writes : List (Value × Value)}
    (h : ReadAs entries writes) (hkeys : ∀ entry ∈ entries, HasTextKey entry) :
    IsListedIn entries (Mapping.empty.insertAllAlike writes) where
  keys := by rw [Mapping.keys_insertAllAlike (exists_str_of_readAs h hkeys), h.keys_eq]
  value earlier entry later hsplit hlast := by
    subst hsplit
    obtain ⟨key, hkey⟩ := hkeys entry (by simp)
    rw [ReadAs, ← mapM_eq_ok_iff, List.mapM_append] at h
    obtain ⟨before, -, h⟩ := bind_eq_ok_iff.1 h
    obtain ⟨others, hothers, h⟩ := bind_eq_ok_iff.1 h
    obtain rfl := Except.ok.inj h
    obtain ⟨write, after, hread, hafter, rfl⟩ := List.forall₂_cons_left_iff.1
      (mapM_eq_ok_iff.1 hothers)
    obtain ⟨-, hwrite, hvalue⟩ := listed_of_readEntry hread
    obtain ⟨writtenKey, value⟩ := write
    obtain rfl : writtenKey = .str key := hwrite.trans hkey
    rw [← ReadAs.keys_eq hafter] at hlast
    rw [hkey] at hlast ⊢
    exact ⟨value, hvalue, find?_of_last hlast⟩

/-! ### Spans -/

/-- The form of the key under which an entry lists its value. Keys are the same when they have the
same form, and a text is its own form. -/
def listedForm (entry : Json) : Value := (listedKey entry).keyForm

/-- The attributes of a record are those listed in its span. Each key stands once, in the order in
which the keys first come there, so that they are as many as there are different keys. What the
record dropped is what the span says that it dropped, and the tags of the attributes have their
keys. -/
structure CountsAttributes (raw : RawSpan) (record : SpanRecord) : Prop where
  keys : record.attributes.keyForms = ((itemsAt "attributes" raw.span).map listedForm).eraseDups
  size : record.attributes.size = ((itemsAt "attributes" raw.span).map listedForm).toFinset.card
  dropped : integerMember "droppedAttributesCount" raw.span = .ok record.droppedAttributes
  tags : ∀ tags, Zipkin.attributeTags record.attributes = .ok tags →
    tags.keys = record.attributes.keys

theorem exists_readAs_itemsAt {document list : Json} {attributes : Mapping}
    (hlist : document.memberOr "attributes" (.arr []) = .ok list)
    (h : decodeAttributes list = .ok attributes) :
    ∃ writes, ReadAs (itemsAt "attributes" document) writes ∧
      Mapping.empty.insertAllAlike writes = attributes := by
  obtain ⟨items, hitems, hfold⟩ := bind_eq_ok_iff.1 h
  obtain ⟨writes, hwrites, heq⟩ := decodeAttributes_eq_ok_iff.1 hfold
  have hmember := listMember_eq_ok_iff.2 ⟨list, hlist, ask_eq_ok_iff.1 hitems⟩
  have hobject : ∀ entry write, readEntry entry = .ok write → IsObject entry :=
    fun _ _ hread ↦ (listed_of_readEntry hread).1
  refine ⟨writes, ?_, heq⟩
  rwa [itemsAt_of_forall₂ hobject hmember hwrites]

theorem ReadAs.forms_eq {entries : List Json} {writes : List (Value × Value)}
    (h : ReadAs entries writes) :
    Entries.forms Value.keyForm writes = entries.map listedForm := by
  have hforms := congrArg (List.map Value.keyForm) h.keys_eq
  rwa [List.map_map, List.map_map] at hforms

/-- A record counts the attributes that are listed in its span. -/
theorem countsAttributes_of_isRecordOf {raw : RawSpan} {record : SpanRecord}
    (h : IsRecordOf raw record) : CountsAttributes raw record := by
  obtain ⟨resource, block, -, -, hspan⟩ := h
  obtain ⟨list, hlist, hattributes⟩ := (decodeSpan_eq_ok_iff.1 hspan).attributes
  obtain ⟨writes, hwrites, heq⟩ := exists_readAs_itemsAt hlist hattributes
  have hkeys : record.attributes.keyForms =
      ((itemsAt "attributes" raw.span).map listedForm).eraseDups := by
    rw [← hwrites.forms_eq, ← Mapping.keyForms_insertAllAlike, heq]
    rfl
  have hsize : record.attributes.size = record.attributes.keyForms.length :=
    (List.length_map _).symm
  have hdropped := (givesOutline_of_decodeSpan hspan).droppedAttributes
  refine ⟨hkeys, ?size, hdropped, fun tags htags ↦ ?tags⟩
  case size =>
    rw [hsize, hkeys, ← List.toFinset_card_of_nodup (nodup_eraseDups _)]
    exact congrArg Finset.card (Finset.ext fun form ↦ by simp)
  case tags => exact Zipkin.keys_eq_of_attributeTags (Zipkin.attributeTags_eq_ok_iff.1 htags).2

/-- Lists of attributes one after the other are read as a merge, in which the second overrides the
first. They fail as the first does, or else as the second does. Under texts each key stands once,
where it first came, with the value of its last entry. So the attributes of every record of an
accepted document are as many as there are different keys in the list of its span, none of them
counts as dropped, and their tags have the same keys in the same order. They have tags if the
integers of the document can be written, as those of a text can. -/
theorem attributes_are_merged :
    (∀ first second : List Json,
      (∀ error, decodeAttributes (.arr first) = .error error →
        decodeAttributes (.arr (first ++ second)) = .error error) ∧
      (∀ before error, decodeAttributes (.arr first) = .ok before →
        decodeAttributes (.arr second) = .error error →
          decodeAttributes (.arr (first ++ second)) = .error error) ∧
      ∀ before after, (∀ entry ∈ first ++ second, HasTextKey entry) →
        decodeAttributes (.arr first) = .ok before → decodeAttributes (.arr second) = .ok after →
          ∃ merged, decodeAttributes (.arr (first ++ second)) = .ok merged ∧
            IsMerge before after merged ∧ IsListedIn (first ++ second) merged) ∧
    ∀ document records, decode document = .ok records →
      List.Forall₂ CountsAttributes (rawSpans document) records ∧
      (document.IsBounded → ∀ record ∈ records, ∃ tags,
        Zipkin.attributeTags record.attributes = .ok tags) := by
  refine ⟨fun first second ↦ ⟨?first, ?second, ?merge⟩, fun document records h ↦ ⟨?spans, ?tags⟩⟩
  case first => exact fun _ ↦ decodeAttributes_append_of_error
  case second => exact fun _ _ ↦ decodeAttributes_append_of_ok
  case merge =>
    intro before after hkeys hbefore hafter
    obtain ⟨writes, hwrites, rfl⟩ := decodeAttributes_eq_ok_iff.1 hbefore
    obtain ⟨writes', hwrites', rfl⟩ := decodeAttributes_eq_ok_iff.1 hafter
    have hboth : ReadAs (first ++ second) (writes ++ writes') := List.rel_append hwrites hwrites'
    exact ⟨_, decodeAttributes_eq_ok_iff.2 ⟨_, hboth, rfl⟩,
      isMerge_of_writes (exists_str_of_readAs hboth hkeys), isListedIn_of_writes hboth hkeys⟩
  case spans =>
    exact (forall₂_isRecordOf_rawSpans h).imp fun _ _ ↦ countsAttributes_of_isRecordOf
  case tags =>
    intro hbounded record hrecord
    have hwritable := isWritable_of_decode hbounded h record hrecord
    exact Zipkin.exists_attributeTags (Conversion.allHaveText_of_isWritable hwritable.attributes)

def countEntry (key : String) (count : Int) : Json :=
  .obj [("key", .str key), ("value", .obj [("intValue", .int count)])]

/-- A text with a span that lists one key twice and says that it dropped three attributes. -/
def repeatingText : String :=
  "\x7b\"resourceSpans\":[\x7b\"scopeSpans\":[\x7b\"spans\":[\x7b\"traceId\":\"0A\"," ++
    "\"spanId\":\"0b\",\"droppedAttributesCount\":3,\"attributes\":[" ++
    "\x7b\"key\":\"k\",\"value\":\x7b\"intValue\":\"7\"\x7d\x7d," ++
    "\x7b\"key\":\"k\",\"value\":\x7b\"boolValue\":true\x7d\x7d]\x7d]\x7d]\x7d]\x7d"

theorem attributes_are_merged_repeatingText :
    (∃ before after merged, decodeAttributes (.arr [countEntry "a" 1, countEntry "b" 2]) =
        .ok before ∧
      decodeAttributes (.arr [countEntry "c" 3, countEntry "a" 4]) = .ok after ∧
      decodeAttributes (.arr [countEntry "a" 1, countEntry "b" 2, countEntry "c" 3,
        countEntry "a" 4]) = .ok merged ∧ IsMerge before after merged) ∧
    decodeAttributes (.arr [countEntry "" 1, .null]) = .error .missingKey ∧
    decodeAttributes (.arr [countEntry "a" 1, countEntry "" 2]) = .error .missingKey ∧
    ∃ document records, Json.read repeatingText = .ok document ∧ decode document = .ok records ∧
      List.Forall₂ CountsAttributes (rawSpans document) records ∧
      ∀ record ∈ records, ∃ tags, Zipkin.attributeTags record.attributes = .ok tags := by
  obtain ⟨hlists, hspans⟩ := attributes_are_merged
  refine ⟨?merge, ?first, ?second, ?spans⟩
  case merge =>
    obtain ⟨before, hbefore⟩ : ∃ before, decodeAttributes
        (.arr [countEntry "a" 1, countEntry "b" 2]) = .ok before :=
      exists_of_toBool (by decide +kernel)
    obtain ⟨after, hafter⟩ : ∃ after, decodeAttributes
        (.arr [countEntry "c" 3, countEntry "a" 4]) = .ok after :=
      exists_of_toBool (by decide +kernel)
    have hkeys : ∀ entry ∈ [countEntry "a" 1, countEntry "b" 2] ++
        [countEntry "c" 3, countEntry "a" 4], HasTextKey entry := by
      simp [HasTextKey, countEntry, listedKey, memberIn, Json.toValue]
    obtain ⟨merged, hmerged, hmerge, -⟩ := (hlists _ _).2.2 before after hkeys hbefore hafter
    exact ⟨before, after, merged, hbefore, hafter, hmerged, hmerge⟩
  case first => exact (hlists [countEntry "" 1] [.null]).1 .missingKey (by decide +kernel)
  case second =>
    obtain ⟨before, hbefore⟩ : ∃ before, decodeAttributes (.arr [countEntry "a" 1]) = .ok before :=
      exists_of_toBool (by decide +kernel)
    exact (hlists [countEntry "a" 1] [countEntry "" 2]).2.1 before _ hbefore (by decide +kernel)
  case spans =>
    obtain ⟨document, hread⟩ : ∃ document, Json.read repeatingText = .ok document :=
      exists_of_toBool (by decide +kernel)
    have haccepted : (Pipeline.readSpans repeatingText).toBool = true := by decide +kernel
    obtain ⟨records, hrecords⟩ := exists_of_toBool haccepted
    rw [Pipeline.readSpans, hread, mapError_ok, ok_bind, mapError_eq_ok_iff] at hrecords
    obtain ⟨hcounts, htags⟩ := hspans document records hrecords
    exact ⟨document, records, hread, hrecords, hcounts, htags (Json.isBounded_of_read hread)⟩

end SpanBridge.Otlp
