import SpanBridge.Proofs.Json.Strict
import SpanBridge.Proofs.KeyName
import SpanBridge.Proofs.Objects

/-!
# The shape of written spans

Whatever was read, a written span has identifiers, times and an endpoint of the types of the Zipkin
model (`Zipkin.HasFrame`). Its name and its tags are of these types (`Zipkin.HasShape`) exactly when
what the record passes on unread is made of texts and its keys have different names
(`SpanRecord.IsTyped`); then the array is strict JSON (`Pipeline.written_shape`). Numbers and other
values in these places are passed on as they are (`Pipeline.untyped_values_are_passed_on`).
-/

set_option autoImplicit false
set_option relaxedAutoImplicit false

namespace SpanBridge

/-! ### Entries and members -/

namespace Json

theorem isString_iff {value : Value} {document : Json} (h : ofValue value = .ok document) :
    document.IsString ↔ ∃ text, value = .str text := by
  constructor
  · rintro ⟨text, rfl⟩
    cases value with
    | str other => exact ⟨other, rfl⟩
    | int number =>
      obtain ⟨_, -, hnumber⟩ := bind_eq_ok_iff.1 h
      cases hnumber
    | list items | tuple items | map entries =>
      rw [ofValue] at h
      obtain ⟨_, -, hdocument⟩ := bind_eq_ok_iff.1 h
      cases hdocument
    | _ => cases h
  · rintro ⟨text, rfl⟩
    exact ⟨text, (Except.ok.inj h).symm⟩

/-- A member that an entry becomes. -/
def IsMemberOf (entry : Value × Value) (member : String × Json) : Prop :=
  nameOfKey entry.1 = .ok member.1 ∧ ofValue entry.2 = .ok member.2

/-- Entries are written exactly when each of them is. -/
theorem ofEntries_eq_ok_iff {entries : List (Value × Value)} {members : List (String × Json)} :
    ofEntries entries = .ok members ↔ List.Forall₂ IsMemberOf entries members := by
  induction entries generalizing members with
  | nil => cases members <;> simp [ofEntries]
  | cons entry entries ih =>
    obtain ⟨key, value⟩ := entry
    simp only [ofEntries, bind_eq_ok_iff, pure_eq_ok, Except.ok.injEq, ih,
      List.forall₂_cons_left_iff, IsMemberOf]
    constructor
    · rintro ⟨name, hname, document, hdocument, rest, hrest, rfl⟩
      exact ⟨(name, document), rest, ⟨hname, hdocument⟩, hrest, rfl⟩
    · rintro ⟨⟨name, document⟩, rest, ⟨hname, hdocument⟩, hrest, rfl⟩
      exact ⟨name, hname, document, hdocument, rest, hrest, rfl⟩

/-- A mapping is written as the object of its members. -/
theorem ofValue_map_eq_ok_iff {entries : List (Value × Value)} {document : Json} :
    ofValue (.map entries) = .ok document ↔
      ∃ members, List.Forall₂ IsMemberOf entries members ∧ .obj members = document := by
  rw [ofValue]
  simp only [bind_eq_ok_iff, ofEntries_eq_ok_iff, pure_eq_ok, Except.ok.injEq]

variable {entries : List (Value × Value)} {members : List (String × Json)}

theorem map_nameOfKey (h : List.Forall₂ IsMemberOf entries members) :
    (entries.map fun entry ↦ nameOfKey entry.1) = (members.map Prod.fst).map Except.ok := by
  induction h with
  | nil => rfl
  | cons hmember _ ih => rw [List.map_cons, List.map_cons, List.map_cons, ih, hmember.1]

/-- Members have different names exactly when the keys of their entries do. -/
theorem nodup_names_iff (h : List.Forall₂ IsMemberOf entries members) :
    (members.map Prod.fst).Nodup ↔ (entries.map fun entry ↦ nameOfKey entry.1).Nodup := by
  rw [map_nameOfKey h]
  exact (List.nodup_map_iff fun _ _ ↦ Except.ok.inj).symm

/-- Members are found under the names of the texts under which their entries are found. -/
theorem lookup_rel (h : List.Forall₂ IsMemberOf entries members)
    (hkeys : ∀ entry ∈ entries, ∃ name, entry.1 = .str name) (name : String) :
    Option.Rel (fun value document ↦ ofValue value = .ok document) (entries.lookup (.str name))
      (members.lookup name) := by
  induction h with
  | nil => exact .none
  | @cons entry member entries members hmember _ ih =>
    obtain ⟨⟨key, hkey⟩, hkeys⟩ := List.forall_mem_cons.1 hkeys
    obtain ⟨hname, hvalue⟩ := hmember
    rw [hkey] at hname
    rw [Entries.lookup_cons_eq, Entries.lookup_cons_eq, hkey, ← Except.ok.inj hname]
    by_cases hfound : name = key
    · rw [if_pos (congrArg Value.str hfound), if_pos hfound]
      exact .some hvalue
    · rw [if_neg fun heq ↦ hfound (Value.str.inj heq), if_neg hfound]
      exact ih hkeys

theorem forall_isString_iff (h : List.Forall₂ IsMemberOf entries members) :
    (∀ member ∈ members, member.2.IsString) ↔
      ∀ entry ∈ entries, ∃ text, entry.2 = .str text := by
  induction h with
  | nil => simp
  | cons hmember _ ih => rw [List.forall_mem_cons, List.forall_mem_cons, isString_iff hmember.2, ih]

end Json

/-! ### The members of a span -/

/-- An optional member is found under its name only. -/
theorem lookup_memberIf (name other : String) (value : Option Value) :
    (memberIf name value).lookup (.str other) = if other = name then value else none := by
  cases value with
  | none => simp [memberIf]
  | some value => simp [memberIf, Entries.lookup_cons_eq]

/-- The members of a span by their names. -/
structure ZipkinSpan.HasMembers (span : ZipkinSpan) (members : List (Value × Value)) : Prop where
  traceId : members.lookup (.str "traceId") = some (.str span.traceId)
  parentId : members.lookup (.str "parentId") =
    (span.parentId.filter (· ≠ "")).map Value.str
  id : members.lookup (.str "id") = some (.str span.id)
  name : members.lookup (.str "name") = some span.name
  timestamp : members.lookup (.str "timestamp") = some (.int span.timestamp)
  duration : members.lookup (.str "duration") = some (.int span.duration)
  localEndpoint : ∃ endpoint, span.localEndpoint.members = .ok endpoint ∧
    members.lookup (.str "localEndpoint") = some (.map endpoint)
  tags : members.lookup (.str "tags") =
    if span.tags.isEmpty then none else some (.map span.tags.entries)

/-- The members of a span are as its fields say. -/
theorem ZipkinSpan.hasMembers {span : ZipkinSpan} {members : List (Value × Value)}
    (h : span.members = .ok members) : span.HasMembers members := by
  obtain ⟨endpoint, hendpoint, hmembers⟩ := bind_eq_ok_iff.1 h
  obtain rfl := Except.ok.inj hmembers
  constructor
  case localEndpoint => exact ⟨endpoint, hendpoint, by simp [List.lookup_append, lookup_memberIf]⟩
  all_goals simp [List.lookup_append, lookup_memberIf]

/-- The keys of a span are texts. -/
theorem ZipkinSpan.exists_name_of_members {span : ZipkinSpan} {members : List (Value × Value)}
    (h : span.members = .ok members) : ∀ entry ∈ members, ∃ name, entry.1 = .str name := by
  intro entry hentry
  have hmem := (keys_members_sublist h).subset (List.mem_map_of_mem hentry)
  obtain ⟨name, -, hname⟩ := List.mem_map.1 hmem
  exact ⟨name, hname.symm⟩

/-- The members of an endpoint are texts under texts. -/
theorem Endpoint.exists_text_of_members {endpoint : Endpoint} {members : List (Value × Value)}
    (h : endpoint.members = .ok members) :
    ∀ member ∈ members, ∃ name text, member = (.str name, .str text) := by
  unfold Endpoint.members at h
  split at h
  · obtain rfl := Except.ok.inj h
    exact List.forall_mem_singleton.2 ⟨_, _, rfl⟩
  · obtain rfl := Except.ok.inj h
    exact List.forall_mem_singleton.2 ⟨_, _, rfl⟩
  · obtain ⟨address, -, hmembers⟩ := bind_eq_ok_iff.1 h
    obtain rfl := Except.ok.inj hmembers
    exact List.forall_mem_cons.2 ⟨⟨_, _, rfl⟩, List.forall_mem_singleton.2 ⟨_, _, rfl⟩⟩

namespace Zipkin

/-! ### Shapes -/

/-- Members of the types of the Zipkin model, but for the name and the tags: identifiers that are
texts, times that are integers and an endpoint of texts. Tags are an object if there are any. -/
structure HasFrame (members : List (String × Json)) : Prop where
  traceId : ∃ text, members.lookup "traceId" = some (.str text)
  parentId : ∀ document, members.lookup "parentId" = some document → document.IsString
  id : ∃ text, members.lookup "id" = some (.str text)
  timestamp : ∃ number, members.lookup "timestamp" = some (.int number)
  duration : ∃ number, members.lookup "duration" = some (.int number)
  localEndpoint : ∃ endpoint, members.lookup "localEndpoint" = some (.obj endpoint) ∧
    ∀ member ∈ endpoint, member.2.IsString
  tags : ∀ document, members.lookup "tags" = some document → ∃ tags, document = .obj tags

/-- Members of the types of the Zipkin model: besides the frame a name that is a text, and tags that
are texts under different names. -/
structure HasShape (members : List (String × Json)) : Prop extends HasFrame members where
  name : ∃ text, members.lookup "name" = some (.str text)
  texts : ∀ tags, members.lookup "tags" = some (.obj tags) →
    (tags.map Prod.fst).Nodup ∧ ∀ tag ∈ tags, tag.2.IsString

/-- Tags that are texts and are written under different names. -/
def AreTexts (tags : List (Value × Value)) : Prop :=
  (tags.map fun tag ↦ Json.nameOfKey tag.1).Nodup ∧ ∀ tag ∈ tags, ∃ text, tag.2 = .str text

theorem exists_of_rel_some {α β : Type} {R : α → β → Prop} {value : α} {found : Option β}
    (h : Option.Rel R (some value) found) : ∃ result, found = some result ∧ R value result := by
  cases h with
  | some hrel => exact ⟨_, rfl, hrel⟩

/-- Tags are texts under different names exactly when the members written for them are. -/
theorem areTexts_iff {tags : List (Value × Value)} {members : List (String × Json)}
    (h : List.Forall₂ Json.IsMemberOf tags members) :
    AreTexts tags ↔ (members.map Prod.fst).Nodup ∧ ∀ member ∈ members, member.2.IsString := by
  rw [AreTexts, Json.nodup_names_iff h, Json.forall_isString_iff h]

section Members

variable {entries : List (Value × Value)} {members : List (String × Json)}

/-- A text is found again under the name of its key. -/
theorem lookup_str (h : List.Forall₂ Json.IsMemberOf entries members)
    (hkeys : ∀ entry ∈ entries, ∃ name, entry.1 = .str name) {name text : String}
    (hentry : entries.lookup (.str name) = some (.str text)) :
    members.lookup name = some (.str text) := by
  obtain ⟨document, hdocument, hvalue⟩ := exists_of_rel_some (hentry ▸ Json.lookup_rel h hkeys name)
  rw [hdocument, ← Except.ok.inj hvalue]

theorem lookup_int (h : List.Forall₂ Json.IsMemberOf entries members)
    (hkeys : ∀ entry ∈ entries, ∃ name, entry.1 = .str name) {name : String} {number : Int}
    (hentry : entries.lookup (.str name) = some (.int number)) :
    members.lookup name = some (.int number) := by
  obtain ⟨document, hdocument, hvalue⟩ := exists_of_rel_some (hentry ▸ Json.lookup_rel h hkeys name)
  obtain ⟨_, -, hnumber⟩ := bind_eq_ok_iff.1 hvalue
  rw [hdocument, ← Except.ok.inj hnumber]

theorem lookup_map (h : List.Forall₂ Json.IsMemberOf entries members)
    (hkeys : ∀ entry ∈ entries, ∃ name, entry.1 = .str name) {name : String}
    {inner : List (Value × Value)} (hentry : entries.lookup (.str name) = some (.map inner)) :
    ∃ innerMembers, members.lookup name = some (.obj innerMembers) ∧
      List.Forall₂ Json.IsMemberOf inner innerMembers := by
  obtain ⟨document, hdocument, hvalue⟩ := exists_of_rel_some (hentry ▸ Json.lookup_rel h hkeys name)
  obtain ⟨innerMembers, hinner, rfl⟩ := Json.ofValue_map_eq_ok_iff.1 hvalue
  exact ⟨innerMembers, hdocument, hinner⟩

theorem lookup_none (h : List.Forall₂ Json.IsMemberOf entries members)
    (hkeys : ∀ entry ∈ entries, ∃ name, entry.1 = .str name) {name : String}
    (hentry : entries.lookup (.str name) = none) : members.lookup name = none := by
  have hrel := Json.lookup_rel h hkeys name
  rw [hentry] at hrel
  generalize members.lookup name = found at hrel
  cases hrel
  rfl

end Members

/-- The tags of the object of a span. -/
theorem lookup_tags {span : ZipkinSpan} {entries : List (Value × Value)}
    {members : List (String × Json)} (h : List.Forall₂ Json.IsMemberOf entries members)
    (hentries : span.members = .ok entries) :
    span.tags.entries = [] ∧ members.lookup "tags" = none ∨
      ∃ tags, members.lookup "tags" = some (.obj tags) ∧
        List.Forall₂ Json.IsMemberOf span.tags.entries tags := by
  have hkeys := ZipkinSpan.exists_name_of_members hentries
  have htags := (ZipkinSpan.hasMembers hentries).tags
  split at htags
  · next hempty => exact .inl ⟨List.isEmpty_iff.1 hempty, lookup_none h hkeys htags⟩
  · exact .inr (lookup_map h hkeys htags)

/-- An object written for a span has the frame of one. -/
theorem hasFrame_of_members {span : ZipkinSpan} {entries : List (Value × Value)}
    {members : List (String × Json)} (h : List.Forall₂ Json.IsMemberOf entries members)
    (hentries : span.members = .ok entries) : HasFrame members := by
  have hspan := ZipkinSpan.hasMembers hentries
  have hkeys := ZipkinSpan.exists_name_of_members hentries
  refine {
    traceId := ⟨_, lookup_str h hkeys hspan.traceId⟩
    parentId := fun document hdocument ↦ ?_
    id := ⟨_, lookup_str h hkeys hspan.id⟩
    timestamp := ⟨_, lookup_int h hkeys hspan.timestamp⟩
    duration := ⟨_, lookup_int h hkeys hspan.duration⟩
    localEndpoint := ?_
    tags := fun document hdocument ↦ ?_ }
  · cases hparent : span.parentId.filter (· ≠ "") with
    | none =>
      have hnone := hspan.parentId
      rw [hparent] at hnone
      rw [lookup_none h hkeys hnone] at hdocument
      cases hdocument
    | some parent =>
      have hsome := hspan.parentId
      rw [hparent] at hsome
      rw [lookup_str h hkeys hsome] at hdocument
      exact ⟨parent, (Option.some.inj hdocument).symm⟩
  · obtain ⟨endpoint, hendpoint, hlookup⟩ := hspan.localEndpoint
    obtain ⟨endpointMembers, hmembers, hinner⟩ := lookup_map h hkeys hlookup
    refine ⟨endpointMembers, hmembers, (Json.forall_isString_iff hinner).2 fun entry hentry ↦ ?_⟩
    obtain ⟨name, text, rfl⟩ := Endpoint.exists_text_of_members hendpoint entry hentry
    exact ⟨text, rfl⟩
  · rcases lookup_tags h hentries with ⟨-, hnone⟩ | ⟨tags, hsome, -⟩
    · rw [hnone] at hdocument
      cases hdocument
    · rw [hsome] at hdocument
      exact ⟨tags, (Option.some.inj hdocument).symm⟩

/-- An object has the shape exactly when the name of its span is a text and its tags are. -/
theorem hasShape_iff_of_members {span : ZipkinSpan} {entries : List (Value × Value)}
    {members : List (String × Json)} (h : List.Forall₂ Json.IsMemberOf entries members)
    (hentries : span.members = .ok entries) :
    HasShape members ↔ (∃ text, span.name = .str text) ∧ AreTexts span.tags.entries := by
  have hkeys := ZipkinSpan.exists_name_of_members hentries
  have hname : (∃ text, members.lookup "name" = some (.str text)) ↔
      ∃ text, span.name = .str text := by
    have hlookup := (ZipkinSpan.hasMembers hentries).name
    obtain ⟨document, hdocument, hvalue⟩ :=
      exists_of_rel_some (hlookup ▸ Json.lookup_rel h hkeys "name")
    rw [← Json.isString_iff hvalue, hdocument]
    simp [Json.IsString]
  have htags : (∀ tags, members.lookup "tags" = some (.obj tags) →
      (tags.map Prod.fst).Nodup ∧ ∀ tag ∈ tags, tag.2.IsString) ↔ AreTexts span.tags.entries := by
    rcases lookup_tags h hentries with ⟨hempty, hnone⟩ | ⟨tags, hsome, htags⟩
    · rw [hempty, hnone]
      simp [AreTexts]
    · rw [hsome, areTexts_iff htags]
      simp
  rw [← hname, ← htags]
  exact ⟨fun hshape ↦ ⟨hshape.name, hshape.texts⟩,
    fun ⟨hname, htexts⟩ ↦ ⟨hasFrame_of_members h hentries, hname, htexts⟩⟩

end Zipkin

/-! ### Typed records -/

/-- A record that passes on texts: its name, the name and the version of its scope and the
description of an error, as far as they are written. Its attributes are written under different
names. -/
structure SpanRecord.IsTyped (record : SpanRecord) : Prop where
  name : ∃ text, record.name = .str text
  scopeName : record.scope.name.isTruthy = true → ∃ text, record.scope.name = .str text
  scopeVersion : record.scope.version ≠ .null → ∃ text, record.scope.version = .str text
  description : record.status.code = .error → record.status.description.isTruthy = true →
    ∃ text, record.status.description = .str text
  keys : (record.attributes.keys.map Json.nameOfKey).Nodup

instance decidableExistsStr (value : Value) : Decidable (∃ text, value = .str text) :=
  match value with
  | .str text => isTrue ⟨text, rfl⟩
  | .null | .bool _ | .int _ | .double _ | .bytes _ | .list _ | .tuple _ | .map _ =>
    isFalse fun ⟨_, h⟩ ↦ nomatch h

/-- The texts of a record are those of its own and those of its tags. -/
theorem SpanRecord.isTyped_iff_and (record : SpanRecord) :
    record.IsTyped ↔ (∃ text, record.name = .str text) ∧
      (record.scope.name.isTruthy = true → ∃ text, record.scope.name = .str text) ∧
      (record.scope.version ≠ .null → ∃ text, record.scope.version = .str text) ∧
      (record.status.code = .error → record.status.description.isTruthy = true →
        ∃ text, record.status.description = .str text) ∧
      (record.attributes.keys.map Json.nameOfKey).Nodup :=
  ⟨fun ⟨hname, hscopeName, hscopeVersion, hdescription, hkeys⟩ ↦
      ⟨hname, hscopeName, hscopeVersion, hdescription, hkeys⟩,
    fun ⟨hname, hscopeName, hscopeVersion, hdescription, hkeys⟩ ↦
      ⟨hname, hscopeName, hscopeVersion, hdescription, hkeys⟩⟩

instance (record : SpanRecord) : Decidable record.IsTyped :=
  decidable_of_iff _ record.isTyped_iff_and.symm

namespace Zipkin

theorem forall_mem_tagIf {condition : Bool} {name value : Value} {property : Value × Value → Prop} :
    (∀ tag ∈ tagIf condition name value, property tag) ↔
      (condition = true → property (name, value)) := by
  cases condition <;> simp [tagIf]

/-- The derived tags are texts exactly when scope and status are described by texts. -/
theorem forall_text_derivedTags_iff (record : SpanRecord) :
    (∀ tag ∈ derivedTags record, ∃ text, tag.2 = .str text) ↔
      (record.scope.name.isTruthy = true → ∃ text, record.scope.name = .str text) ∧
      (record.scope.version ≠ .null → ∃ text, record.scope.version = .str text) ∧
      (record.status.code = .error → record.status.description.isTruthy = true →
        ∃ text, record.status.description = .str text) := by
  simp only [derivedTags, List.forall_mem_append, forall_mem_tagIf, and_assoc]
  cases hdescription : record.status.description.isTruthy with
  | true => simp; tauto
  | false => simp; tauto

/-- All tags are texts exactly when the derived ones are. -/
theorem forall_text_exactTags_iff (record : SpanRecord) :
    (∀ tag ∈ exactTags record, ∃ text, tag.2 = .str text) ↔
      ∀ tag ∈ derivedTags record, ∃ text, tag.2 = .str text := by
  have honce : ((derivedTags record).map Prod.fst).Nodup :=
    (keys_derivedTags_sublist record).nodup (by decide)
  constructor
  · intro h tag htag
    by_cases hkey : tag.1 ∈ record.attributes.keys
    · -- an attribute of this name has the value of the tag
      obtain ⟨entry, hentry, heq⟩ := List.mem_map.1 hkey
      have hvalue := h _ (List.mem_append_left _ (List.mem_map_of_mem hentry))
      rw [heq, Entries.lookup_of_mem honce htag] at hvalue
      exact hvalue
    · exact h tag (List.mem_append_right _ (List.mem_filter.2 ⟨htag, decide_eq_true hkey⟩))
  · intro h tag htag
    rcases List.mem_append.1 htag with htag | htag
    · obtain ⟨entry, -, rfl⟩ := List.mem_map.1 htag
      cases hlookup : (derivedTags record).lookup entry.1 with
      | none => exact ⟨_, rfl⟩
      | some value => exact h (entry.1, value) (Entries.mem_of_lookup hlookup)
    · exact h tag (List.mem_of_mem_filter htag)

/-- The tags of a record are texts under different names exactly when it passes on texts. -/
theorem isTyped_iff (record : SpanRecord) :
    record.IsTyped ↔ (∃ text, record.name = .str text) ∧ AreTexts (exactTags record) := by
  rw [AreTexts, nodup_names_exactTags_iff, forall_text_exactTags_iff, forall_text_derivedTags_iff]
  rw [SpanRecord.isTyped_iff_and]
  tauto

end Zipkin

namespace Pipeline

/-- The object of a record is that of a span with its name and exactly its tags. -/
theorem IsWrittenAs.exists_span {answer : Option String} {record : SpanRecord} {object : Json}
    (h : IsWrittenAs answer record object) :
    ∃ span, Zipkin.IsObjectOf span object ∧ span.name = record.name ∧
      span.tags.entries = Zipkin.exactTags record := by
  obtain ⟨span, hspan, hobject⟩ := h
  obtain ⟨bare, hbare, rfl⟩ := map_eq_ok_iff.1 hspan
  obtain ⟨tags, kind, service, htags, -, -, rfl⟩ := Conversion.withoutAddress_eq_ok_iff.1 hbare
  rw [Conversion.locate_spanOf] at hobject
  exact ⟨_, hobject, rfl, (Zipkin.tagsOf_eq_ok_iff.1 htags).2.2⟩

/-- An object written for a record has the shape exactly when the record is typed. -/
theorem IsWrittenAs.hasShape_iff {answer : Option String} {record : SpanRecord} {object : Json}
    (h : IsWrittenAs answer record object) :
    ∃ members, object = .obj members ∧ Zipkin.HasFrame members ∧
      (Zipkin.HasShape members ↔ record.IsTyped) := by
  obtain ⟨span, ⟨entries, hentries, hobject⟩, hname, htags⟩ := h.exists_span
  obtain ⟨members, hmembers, rfl⟩ := Json.ofValue_map_eq_ok_iff.1 hobject
  refine ⟨members, rfl, Zipkin.hasFrame_of_members hmembers hentries, ?_⟩
  rw [Zipkin.hasShape_iff_of_members hmembers hentries, Zipkin.isTyped_iff, hname, htags]

end Pipeline

/-! ### Objects of texts -/

/-- A value of which nothing is lost when it is written. -/
def Value.IsWrittenExactly (value : Value) : Prop :=
  ∀ document, Json.ofValue value = .ok document → document.IsExact

theorem isWrittenExactly_str (text : String) : (Value.str text).IsWrittenExactly := by
  intro document h
  rw [← Except.ok.inj h]
  exact .str text

theorem isWrittenExactly_bool (truth : Bool) : (Value.bool truth).IsWrittenExactly := by
  intro document h
  rw [← Except.ok.inj h]
  exact .bool truth

theorem isWrittenExactly_int (number : Int) : (Value.int number).IsWrittenExactly := by
  intro document h
  by_cases hlimit : Number.WithinLimit number
  · obtain rfl := Except.ok.inj ((Json.ofInteger_eq_ok hlimit).symm.trans h)
    exact .int hlimit
  · rw [Json.ofValue, Json.ofInteger, Number.writeInteger_eq_error hlimit] at h
    cases h

/-- A mapping is written exactly where its values are and its names differ. -/
theorem isWrittenExactly_map {entries : List (Value × Value)}
    (hentries : ∀ entry ∈ entries, entry.2.IsWrittenExactly)
    (hnames : (entries.map fun entry ↦ Json.nameOfKey entry.1).Nodup) :
    (Value.map entries).IsWrittenExactly := by
  intro document h
  obtain ⟨members, hmembers, rfl⟩ := Json.ofValue_map_eq_ok_iff.1 h
  refine .obj ?_ (List.pairwise_map.1 ((Json.nodup_names_iff hmembers).2 hnames))
  clear hnames h
  induction hmembers with
  | nil => exact List.forall_mem_nil _
  | cons hmember _ ih =>
    obtain ⟨hentry, hentries⟩ := List.forall_mem_cons.1 hentries
    exact List.forall_mem_cons.2 ⟨hentry _ hmember.2, ih hentries⟩

/-- Different texts are different names. -/
theorem nodup_names_of_nodup_keys {entries : List (Value × Value)}
    (hkeys : ∀ entry ∈ entries, ∃ name, entry.1 = .str name)
    (h : (entries.map Prod.fst).Nodup) :
    (entries.map fun entry ↦ Json.nameOfKey entry.1).Nodup := by
  have hnames : ((entries.map Prod.fst).map Json.nameOfKey).Nodup := by
    refine h.map_on fun first hfirst second hsecond heq ↦ ?_
    obtain ⟨entry, hentry, rfl⟩ := List.mem_map.1 hfirst
    obtain ⟨other, hother, rfl⟩ := List.mem_map.1 hsecond
    obtain ⟨name, hname⟩ := hkeys entry hentry
    obtain ⟨name', hname'⟩ := hkeys other hother
    rw [hname, hname'] at heq ⊢
    exact congrArg Value.str (Except.ok.inj heq)
  rwa [List.map_map] at hnames

namespace Zipkin

theorem isWrittenExactly_endpoint {endpoint : Endpoint} {members : List (Value × Value)}
    (h : endpoint.members = .ok members) : (Value.map members).IsWrittenExactly := by
  have htexts := Endpoint.exists_text_of_members h
  refine isWrittenExactly_map (fun member hmember ↦ ?_)
    (nodup_names_of_nodup_keys (fun member hmember ↦ ?_) (Endpoint.nodup_keys h))
  · obtain ⟨name, text, rfl⟩ := htexts member hmember
    exact isWrittenExactly_str text
  · obtain ⟨name, text, rfl⟩ := htexts member hmember
    exact ⟨name, rfl⟩

/-- A span whose name and tags are texts becomes an object of which nothing is lost. -/
theorem isExact_of_isObjectOf {span : ZipkinSpan} {object : Json} (h : IsObjectOf span object)
    (hname : ∃ text, span.name = .str text) (htags : AreTexts span.tags.entries) :
    object.IsExact := by
  obtain ⟨entries, hentries, hobject⟩ := h
  obtain ⟨endpoint, hendpoint, -⟩ := (ZipkinSpan.hasMembers hentries).localEndpoint
  have hspanName : span.name.IsWrittenExactly := by
    obtain ⟨text, htext⟩ := hname
    rw [htext]
    exact isWrittenExactly_str text
  have hspanTags : (Value.map span.tags.entries).IsWrittenExactly := by
    refine isWrittenExactly_map (fun tag htag ↦ ?_) htags.1
    obtain ⟨text, htext⟩ := htags.2 tag htag
    rw [htext]
    exact isWrittenExactly_str text
  obtain ⟨members, hmembers, hexact⟩ :=
    @ZipkinSpan.exists_members (fun entry ↦ entry.2.IsWrittenExactly) span endpoint hendpoint
      (fun _ ↦ isWrittenExactly_str) (fun _ ↦ isWrittenExactly_bool) hspanName
      (isWrittenExactly_int _) (isWrittenExactly_int _) (isWrittenExactly_endpoint hendpoint)
      hspanTags
  obtain rfl := Except.ok.inj (hentries.symm.trans hmembers)
  have hnames : (ZipkinSpan.memberNames.map Value.str).Nodup := by decide
  exact isWrittenExactly_map hexact (nodup_names_of_nodup_keys
    (ZipkinSpan.exists_name_of_members hentries)
    (hnames.sublist (ZipkinSpan.keys_members_sublist hentries))) object hobject

end Zipkin

namespace Pipeline

/-- A typed record is written as an exact object. -/
theorem IsWrittenAs.isExact {answer : Option String} {record : SpanRecord} {object : Json}
    (h : IsWrittenAs answer record object) (htyped : record.IsTyped) : object.IsExact := by
  obtain ⟨span, hobject, hname, htags⟩ := h.exists_span
  rw [Zipkin.isTyped_iff, ← hname, ← htags] at htyped
  exact Zipkin.isExact_of_isObjectOf hobject htyped.1 htyped.2

/-- Of whatever text the spans are read and for whatever host, each is written as an object with the
frame of the Zipkin model. The object has the shape of the model exactly when its record passes on
texts, and if all of them do then the array is written as strict JSON and read back. -/
theorem written_shape {text : String} {records : List SpanRecord}
    (h : readSpans text = .ok records) (answer : Option String) :
    ∃ objects, List.Forall₂ (fun record object ↦ ∃ members, object = Json.obj members ∧
        Zipkin.HasFrame members ∧ (Zipkin.HasShape members ↔ record.IsTyped)) records objects ∧
      ∀ limit indent layout, Zipkin.layoutFor limit .compact indent = .ok layout →
        convertText (.upTo limit) text answer indent = .ok ((Json.arr objects).print layout) ∧
          ((∀ record ∈ records, record.IsTyped) →
            Json.IsStrict ((Json.arr objects).print layout) ∧
              Json.read ((Json.arr objects).print layout) = .ok (.arr objects)) := by
  obtain ⟨spans, hspans, hrenders⟩ := (convert_and_render_of_readSpans h).2 answer
  obtain ⟨written, hwritten⟩ := (hrenders (.upTo 0) none).1.2 nofun
  have hwrites : writeSpans (.upTo 0) answer none records = .ok written :=
    bind_eq_ok_iff.2 ⟨spans, hspans, hwritten⟩
  obtain ⟨objects, -, hobjects, -⟩ := writeSpans_eq_ok_iff.1 hwrites
  refine ⟨objects, hobjects.imp fun _ _ ↦ IsWrittenAs.hasShape_iff,
    fun limit indent layout hlayout ↦ ⟨?written, fun htyped ↦ ?strict⟩⟩
  case written =>
    rw [convertText_eq, h, ok_bind]
    exact writeSpans_eq_ok_iff.2 ⟨objects, layout, hobjects, hlayout, rfl⟩
  case strict =>
    have hexact : (Json.arr objects).IsExact := by
      refine .arr fun object hobject ↦ ?_
      obtain ⟨record, hrecord, hwrittenAs⟩ := exists_mem_of_forall₂ hobjects hobject
      exact hwrittenAs.isExact (htyped record hrecord)
    have hseparating := Zipkin.isSeparating_of_layoutFor Json.Layout.isSeparating_compact hlayout
    exact ⟨Json.isStrict_print hseparating hexact, Json.read_print hseparating hexact⟩

/-- A text with one span that has some more members. -/
def textWithSpan (members : String) : String :=
  "\x7b\"resourceSpans\":[\x7b\"scopeSpans\":[\x7b\"scope\":\x7b\"name\":\"lib\"\x7d,\"spans\":[" ++
    "\x7b\"traceId\":\"0a\",\"spanId\":\"0b\"," ++ members ++ "\x7d]\x7d]\x7d]\x7d"

/-- What is written for the span, by what is written for its name and its attributes. -/
def writtenSpan (name attributes : String) : String :=
  "[\x7b\"traceId\":\"0a\",\"id\":\"0b\",\"name\":" ++ name ++
    ",\"timestamp\":0,\"duration\":0," ++
    "\"localEndpoint\":\x7b\"serviceName\":\"unknown_service\"\x7d,\"tags\":\x7b" ++ attributes ++
    "\"otel.scope.name\":\"lib\",\"otel.library.name\":\"lib\"\x7d\x7d]"

/-- An attribute with a key that is no text. -/
def typedSpan : String :=
  textWithSpan "\"name\":\"op\",\"attributes\":[\x7b\"key\":1,\"value\":\x7b\"intValue\":7\x7d\x7d]"

/-- A text with one typed span is written with an object that has the shape. -/
theorem written_shape_typedSpan :
    ∃ objects layout, objects.length = 1 ∧
      (∀ object ∈ objects, ∃ members, object = Json.obj members ∧ Zipkin.HasShape members) ∧
      convertText (.upTo 2) typedSpan (some "::1") (some 2) =
        .ok ((Json.arr objects).print layout) ∧
      Json.IsStrict ((Json.arr objects).print layout) := by
  have hread : (readSpans typedSpan).toOption.map (fun records ↦
      (records.length, decide (∀ record ∈ records, record.IsTyped))) = some (1, true) := by
    decide +kernel
  cases hrecords : readSpans typedSpan with
  | error failure =>
    rw [hrecords] at hread
    cases hread
  | ok records =>
    rw [hrecords] at hread
    obtain ⟨hlength, htyped⟩ := Prod.mk.inj (Option.some.inj hread)
    have htyped : ∀ record ∈ records, record.IsTyped := of_decide_eq_true htyped
    obtain ⟨objects, hobjects, hwritten⟩ := written_shape hrecords (some "::1")
    obtain ⟨hconverted, hstrict⟩ := hwritten 2 (some 2) (.indented 2) rfl
    refine ⟨objects, .indented 2, hobjects.length_eq.symm.trans hlength, fun object hobject ↦ ?_,
      hconverted, (hstrict htyped).1⟩
    obtain ⟨record, hrecord, members, hmembers, -, hshape⟩ := exists_mem_of_forall₂ hobjects hobject
    exact ⟨members, hmembers, hshape.2 (htyped record hrecord)⟩

/-- A name that is a number, two keys with one name and a name that is not finite are written as
they are. -/
theorem untyped_values_are_passed_on :
    convertText .ample (textWithSpan "\"name\":5") none none = .ok (writtenSpan "5" "") ∧
      convertText .ample (textWithSpan ("\"attributes\":[" ++
        "\x7b\"key\":1,\"value\":\x7b\"stringValue\":\"a\"\x7d\x7d," ++
        "\x7b\"key\":\"1\",\"value\":\x7b\"stringValue\":\"b\"\x7d\x7d]")) none none =
          .ok (writtenSpan "\"\"" "\"1\":\"a\",\"1\":\"b\",") ∧
      convertText .ample (textWithSpan "\"name\":NaN") none none = .ok (writtenSpan "NaN" "") ∧
      ¬Json.IsStrict (writtenSpan "NaN" "") := by
  refine ⟨by decide +kernel, by decide +kernel, by decide +kernel, fun hstrict ↦ ?_⟩
  have hmem : 'N' ∈ Json.outsideStrings false (writtenSpan "NaN" "").toList := by decide +kernel
  exact (hstrict.2 'N' hmem).1 rfl

end Pipeline
end SpanBridge
