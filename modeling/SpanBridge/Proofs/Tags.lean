import SpanBridge.Proofs.Attribute
import SpanBridge.Proofs.Conversion
import SpanBridge.Proofs.Mapping

/-!
# The tags of a converted span

The passes over the tags of a span write into one mapping, and each of their eight names may be the
name of an attribute as well. `derivedTags` lists what they write, in the order in which they do
(`tagsOf_eq_ok_iff`). The tags of a converted span are then the attributes in their order, each with
its own text or with what a pass wrote over it, followed by the derived tags whose names are no
attributes (`convert_tags_exact`, which also says when a span is converted).
-/

set_option autoImplicit false
set_option relaxedAutoImplicit false

namespace SpanBridge.Zipkin

/-! ### Attributes -/

/-- The tag of an attribute: its text. -/
def tagOf (value : Value) : Value := .str (value.attributeText.toOption.getD "")

/-- Every value of a mapping has a text. -/
def AllHaveText (attributes : Mapping) : Prop :=
  ∀ entry ∈ attributes.entries, ∃ text, entry.2.attributeText = .ok text

theorem tagOf_eq {value : Value} {text : String} (h : value.attributeText = .ok text) :
    tagOf value = .str text := by
  rw [tagOf, h]
  rfl

/-- The tags that attributes give, one after another. -/
def attributeWrites (attributes : Mapping) : List (Value × Value) :=
  attributes.entries.map fun entry ↦ (entry.1, tagOf entry.2)

/-- Tags are added to those there exactly when all values have texts. -/
theorem foldlM_attributeTags_eq_ok_iff {entries : List (Value × Value)} {start tags : Mapping} :
    entries.foldlM (fun (tags : Mapping) entry ↦ do
      let text ← entry.2.attributeText
      return tags.insert entry.1 (.str text)) start = .ok tags ↔
        (∀ entry ∈ entries, ∃ text, entry.2.attributeText = .ok text) ∧
          tags = start.insertAll (entries.map fun entry ↦ (entry.1, tagOf entry.2)) := by
  induction entries generalizing start with
  | nil => simp [Mapping.insertAll, pure_eq_ok, eq_comm]
  | cons entry entries ih =>
    simp only [List.foldlM_cons, bind_eq_ok_iff, pure_eq_ok, Except.ok.injEq, List.forall_mem_cons,
      List.map_cons, Mapping.insertAll]
    constructor
    · rintro ⟨next, ⟨text, htext, rfl⟩, hrest⟩
      obtain ⟨hall, rfl⟩ := ih.1 hrest
      exact ⟨⟨⟨text, htext⟩, hall⟩, by rw [tagOf_eq htext]⟩
    · rintro ⟨⟨⟨text, htext⟩, hall⟩, rfl⟩
      exact ⟨_, ⟨text, htext, rfl⟩, ih.2 ⟨hall, by rw [tagOf_eq htext]⟩⟩

/-- Attributes become tags exactly when all of them have texts. -/
theorem attributeTags_eq_ok_iff {attributes tags : Mapping} :
    attributeTags attributes = .ok tags ↔
      AllHaveText attributes ∧ tags.entries = attributeWrites attributes := by
  have hdistinct : Entries.Distinct Value.Same (attributeWrites attributes) := by
    rw [attributeWrites, Entries.Distinct, List.pairwise_map]
    exact attributes.distinct
  have hentries : (Mapping.empty.insertAll (attributeWrites attributes)).entries =
      attributeWrites attributes := by
    rw [Mapping.entries_insertAll, Entries.insertAll_of_distinct (by simpa [Mapping.empty])]
    rfl
  rw [attributeTags, foldlM_attributeTags_eq_ok_iff]
  refine and_congr_right fun _ ↦ ⟨?_, fun h ↦ Mapping.ext (h.trans hentries.symm)⟩
  rintro rfl
  exact hentries

theorem exists_attributeTags {attributes : Mapping} (h : AllHaveText attributes) :
    ∃ tags, attributeTags attributes = .ok tags :=
  ⟨_, foldlM_attributeTags_eq_ok_iff.2 ⟨h, rfl⟩⟩

/-! ### Derived tags -/

/-- A tag that is written under a condition. -/
def tagIf (condition : Bool) (name value : Value) : List (Value × Value) :=
  if condition then [(name, value)] else []

/-- What a pass writes into tags that name an error or do not. -/
def TagPass.writes (namesError : Bool) : TagPass → List (Value × Value)
  | .scope origin =>
    tagIf origin.name.isTruthy scopeNameTag origin.name
      ++ tagIf (origin.version ≠ .null) scopeVersionTag origin.version
      ++ tagIf origin.name.isTruthy libraryNameTag origin.name
      ++ tagIf (origin.version ≠ .null) libraryVersionTag origin.version
  | .status outcome =>
    tagIf (outcome.code ≠ .unset) statusTag (.str outcome.code.name)
      ++ tagIf (outcome.code = .error && (outcome.description.isTruthy || !namesError)) errorTag
        (if outcome.description.isTruthy then outcome.description else .str "")
  | .drops attributes events =>
    tagIf (0 < attributes) droppedAttributesTag (.str (Number.integerText attributes))
      ++ tagIf (0 < events) droppedEventsTag (.str (Number.integerText events))

/-- What the passes write: the scope under both of its names, the status, the error and the positive
counts of what was dropped. An error without a description is written, as the empty text, unless an
attribute names the error. -/
def derivedTags (span : SpanRecord) : List (Value × Value) :=
  tagIf span.scope.name.isTruthy scopeNameTag span.scope.name
    ++ tagIf (span.scope.version ≠ .null) scopeVersionTag span.scope.version
    ++ tagIf span.scope.name.isTruthy libraryNameTag span.scope.name
    ++ tagIf (span.scope.version ≠ .null) libraryVersionTag span.scope.version
    ++ tagIf (span.status.code ≠ .unset) statusTag (.str span.status.code.name)
    ++ tagIf (span.status.code = .error &&
        (span.status.description.isTruthy || !span.attributes.contains errorTag)) errorTag
      (if span.status.description.isTruthy then span.status.description else .str "")
    ++ tagIf (0 < span.droppedAttributes) droppedAttributesTag
      (.str (Number.integerText span.droppedAttributes))
    ++ tagIf (0 < span.droppedEvents) droppedEventsTag
      (.str (Number.integerText span.droppedEvents))

/-- The tags of a converted span: its attributes, each with its text unless a derived tag has its
name, and then the derived tags whose names are no attributes. -/
def exactTags (span : SpanRecord) : List (Value × Value) :=
  span.attributes.entries.map
      (fun entry ↦ (entry.1, ((derivedTags span).lookup entry.1).getD (tagOf entry.2)))
    ++ (derivedTags span).filter fun tag ↦ decide (tag.1 ∉ span.attributes.keys)

/-- The counts of what a span dropped can be written. -/
def DropsWritable (span : SpanRecord) : Prop :=
  Number.WithinLimit span.droppedAttributes ∧ Number.WithinLimit span.droppedEvents

theorem insertAll_tagIf (tags : Mapping) (condition : Bool) (name value : Value) :
    tags.insertAll (tagIf condition name value) = tags.insertIf condition name value := by
  cases condition <;> rfl

/-! ### Passes -/

theorem scopeTags_eq (scope : Scope) (tags : Mapping) (namesError : Bool) :
    scopeTags scope tags = tags.insertAll ((TagPass.scope scope).writes namesError) := by
  simp only [TagPass.writes, Mapping.insertAll_append, insertAll_tagIf]
  rfl

theorem contains_insertIf_of_ne (tags : Mapping) (condition : Bool) {name text : String}
    (value : Value) (hne : name ≠ text) :
    (tags.insertIf condition (.str name) value).contains (.str text) =
      tags.contains (.str text) := by
  cases condition
  · rfl
  · exact Mapping.contains_str_insert_of_ne tags value hne

/-- The names of a scope are no name of an error. -/
theorem contains_errorTag_scopeTags (scope : Scope) (tags : Mapping) :
    (scopeTags scope tags).contains errorTag = tags.contains errorTag := by
  simp only [scopeTags, tagNameAndVersion, errorTag, scopeNameTag, scopeVersionTag, libraryNameTag,
    libraryVersionTag]
  rw [contains_insertIf_of_ne _ _ _ (by decide), contains_insertIf_of_ne _ _ _ (by decide),
    contains_insertIf_of_ne _ _ _ (by decide), contains_insertIf_of_ne _ _ _ (by decide)]

theorem statusTags_eq (status : Status) (tags : Mapping) :
    statusTags status tags =
      tags.insertAll ((TagPass.status status).writes (tags.contains errorTag)) := by
  simp only [TagPass.writes, Mapping.insertAll_append, insertAll_tagIf]
  have hcontains : (tags.insert statusTag (.str status.code.name)).contains errorTag =
      tags.contains errorTag :=
    Mapping.contains_str_insert_of_ne tags _ (by decide)
  cases hcode : status.code with
  | unset => simp [statusTags, hcode, Mapping.insertIf]
  | ok => simp [statusTags, hcode, Mapping.insertIf]
  | error =>
    rw [hcode] at hcontains
    cases hdescription : status.description.isTruthy with
    | true => simp [statusTags, hcode, hdescription, Mapping.insertIf]
    | false => simp [statusTags, hcode, hdescription, hcontains, Mapping.insertIf]

/-- A count becomes a tag where it is positive, and then its digits are within the limit. -/
theorem countTag_eq_ok_iff {name : Value} {count : Int} {tags result : Mapping} :
    countTag name count tags = .ok result ↔
      (0 < count → Number.WithinLimit count) ∧
        result = tags.insertAll (tagIf (0 < count) name (.str (Number.integerText count))) := by
  by_cases hpositive : 0 < count
  · by_cases hlimit : Number.WithinLimit count
    · simp [countTag, tagIf, hpositive, hlimit, Attribute.longText_eq_ok hlimit, pure_eq_ok,
        Mapping.insertAll, eq_comm]
    · simp [countTag, hpositive, hlimit, Attribute.longText_eq_error hlimit]
  · simp [countTag, tagIf, hpositive, pure_eq_ok, Mapping.insertAll, eq_comm]

/-- A count with too many digits is refused. -/
theorem countTag_eq_error {name : Value} {count : Int} (tags : Mapping)
    (h : ¬(0 < count → Number.WithinLimit count)) :
    countTag name count tags = .error (.tooManyDigits .writing) := by
  obtain ⟨hpositive, hlong⟩ := Classical.not_imp.1 h
  rw [countTag, if_pos hpositive, Attribute.longText_eq_error hlong, error_bind]

/-- Zero is within the limit on digits, so a count may be asked for it whether it is written or not.
-/
theorem withinLimit_of_pos_iff {count : Int} (h : 0 ≤ count) :
    (0 < count → Number.WithinLimit count) ↔ Number.WithinLimit count := by
  refine ⟨fun hpositive ↦ ?_, fun hlimit _ ↦ hlimit⟩
  rcases h.lt_or_eq with hlt | rfl
  · exact hpositive hlt
  · decide

theorem droppedAttributes_nonneg (span : SpanRecord) : 0 ≤ span.droppedAttributes :=
  Int.sub_nonneg.2 span.attributes_le_total

theorem droppedEvents_nonneg (span : SpanRecord) : 0 ≤ span.droppedEvents :=
  Int.sub_nonneg.2 span.events_le_total

theorem keys_eq_of_attributeTags {attributes tags : Mapping}
    (h : tags.entries = attributeWrites attributes) : tags.keys = attributes.keys := by
  rw [Mapping.keys, h, attributeWrites, List.map_map]
  rfl

/-- The passes write the derived tags over the tags of the attributes. -/
theorem tagsOf_eq_ok_iff_insertAll {span : SpanRecord} {result : Mapping} :
    tagsOf span = .ok result ↔
      DropsWritable span ∧ ∃ tags, attributeTags span.attributes = .ok tags ∧
        result = tags.insertAll (derivedTags span) := by
  have hpasses : ∀ tags : Mapping, TagPass.applyAll tags [.scope span.scope, .status span.status,
      .drops span.droppedAttributes span.droppedEvents] =
        dropTags span.droppedAttributes span.droppedEvents
          (statusTags span.status (scopeTags span.scope tags)) := fun tags ↦ by
    simp only [TagPass.applyAll, List.foldlM_cons, List.foldlM_nil, TagPass.apply, ok_bind]
    exact bind_pure _
  have hderived : ∀ tags, attributeTags span.attributes = .ok tags →
      (tags.insertAll (derivedTags span)) =
        ((statusTags span.status (scopeTags span.scope tags)).insertAll
          (tagIf (0 < span.droppedAttributes) droppedAttributesTag
            (.str (Number.integerText span.droppedAttributes)))).insertAll
          (tagIf (0 < span.droppedEvents) droppedEventsTag
            (.str (Number.integerText span.droppedEvents))) := fun tags htags ↦ by
    have hkeys := keys_eq_of_attributeTags (attributeTags_eq_ok_iff.1 htags).2
    have hcontains : (scopeTags span.scope tags).contains errorTag =
        span.attributes.contains errorTag := by
      rw [contains_errorTag_scopeTags, Bool.eq_iff_iff, errorTag, Mapping.contains_str_iff,
        Mapping.contains_str_iff, hkeys]
    rw [statusTags_eq, hcontains, scopeTags_eq _ _ false, ← Mapping.insertAll_append,
      ← Mapping.insertAll_append, ← Mapping.insertAll_append]
    simp only [derivedTags, TagPass.writes, List.append_assoc]
  simp only [tagsOf, bind_eq_ok_iff, hpasses, dropTags, countTag_eq_ok_iff,
    withinLimit_of_pos_iff (droppedAttributes_nonneg span),
    withinLimit_of_pos_iff (droppedEvents_nonneg span)]
  constructor
  · rintro ⟨tags, htags, middle, ⟨hattributes, rfl⟩, hevents, rfl⟩
    exact ⟨⟨hattributes, hevents⟩, tags, htags, (hderived tags htags).symm⟩
  · rintro ⟨⟨hattributes, hevents⟩, tags, htags, rfl⟩
    exact ⟨tags, htags, _, ⟨hattributes, rfl⟩, hevents, hderived tags htags⟩

/-! ### The whole mapping -/

/-- The names under which the passes write, in their order. -/
def derivedNames : List Value :=
  [scopeNameTag, scopeVersionTag, libraryNameTag, libraryVersionTag, statusTag, errorTag,
    droppedAttributesTag, droppedEventsTag]

theorem keys_tagIf_sublist (condition : Bool) (name value : Value) :
    ((tagIf condition name value).map Prod.fst).Sublist [name] := by
  cases condition
  · exact List.nil_sublist _
  · exact .refl _

theorem tagIf_subset {condition condition' : Bool} (h : condition = true → condition' = true)
    (name value : Value) : tagIf condition name value ⊆ tagIf condition' name value := by
  cases condition with
  | false => exact List.nil_subset _
  | true => rw [h rfl]; exact List.Subset.refl _

theorem lookup_tagIf (condition : Bool) (name value key : Value) :
    (tagIf condition name value).lookup key =
      if condition ∧ key = name then some value else none := by
  cases condition with
  | false => simp [tagIf]
  | true => simp [tagIf, Entries.lookup_cons_eq]

/-- Derived tags stand in the order of their names. -/
theorem keys_derivedTags_sublist (span : SpanRecord) :
    ((derivedTags span).map Prod.fst).Sublist derivedNames := by
  simp only [derivedTags, List.map_append, List.append_assoc]
  iterate 7 refine .append (keys_tagIf_sublist _ _ _) ?_
  exact keys_tagIf_sublist _ _ _

theorem plain_of_mem_derivedNames {name : Value} (h : name ∈ derivedNames) :
    Entries.Plain Value.Same name := by
  simp only [derivedNames, List.mem_cons, List.not_mem_nil, or_false] at h
  rcases h with rfl | rfl | rfl | rfl | rfl | rfl | rfl | rfl <;> exact Value.plain_str _

/-- The exact tags are those of the attributes with the derived ones inserted. -/
theorem entries_insertAll_derivedTags {span : SpanRecord} {tags : Mapping}
    (h : tags.entries = attributeWrites span.attributes) :
    (tags.insertAll (derivedTags span)).entries = exactTags span := by
  have hsublist := keys_derivedTags_sublist span
  have hplain : ∀ tag ∈ derivedTags span, Entries.Plain Value.Same tag.1 := fun tag htag ↦
    plain_of_mem_derivedNames (hsublist.subset (List.mem_map_of_mem htag))
  have honce : ((derivedTags span).map Prod.fst).Nodup := hsublist.nodup (by decide)
  have hkeys : tags.entries.map Prod.fst = span.attributes.keys := keys_eq_of_attributeTags h
  rw [Mapping.entries_insertAll, Entries.insertAll_eq hplain honce tags.distinct, hkeys, h,
    attributeWrites, List.map_map]
  rfl

/-- A record has tags exactly when its attributes have texts and its counts can be written. -/
theorem tagsOf_eq_ok_iff {span : SpanRecord} {tags : Mapping} :
    tagsOf span = .ok tags ↔
      AllHaveText span.attributes ∧ DropsWritable span ∧ tags.entries = exactTags span := by
  rw [tagsOf_eq_ok_iff_insertAll]
  constructor
  · rintro ⟨hdrops, attributes, hattributes, rfl⟩
    obtain ⟨htexts, hentries⟩ := attributeTags_eq_ok_iff.1 hattributes
    exact ⟨htexts, hdrops, entries_insertAll_derivedTags hentries⟩
  · rintro ⟨htexts, hdrops, hexact⟩
    obtain ⟨attributes, hattributes⟩ := exists_attributeTags htexts
    have hentries := (attributeTags_eq_ok_iff.1 hattributes).2
    exact ⟨hdrops, attributes, hattributes,
      Mapping.ext (hexact.trans (entries_insertAll_derivedTags hentries).symm)⟩

/-- A record has tags where its attributes have texts and its counts can be written. -/
theorem exists_tagsOf_iff (span : SpanRecord) :
    (∃ tags, tagsOf span = .ok tags) ↔ AllHaveText span.attributes ∧ DropsWritable span := by
  constructor
  · rintro ⟨tags, htags⟩
    obtain ⟨htexts, hdrops, -⟩ := tagsOf_eq_ok_iff.1 htags
    exact ⟨htexts, hdrops⟩
  · rintro ⟨htexts, hdrops⟩
    obtain ⟨attributes, hattributes⟩ := exists_attributeTags htexts
    exact ⟨_, tagsOf_eq_ok_iff_insertAll.2 ⟨hdrops, attributes, hattributes, rfl⟩⟩

end SpanBridge.Zipkin

namespace SpanBridge.Conversion

open Zipkin

/-- A record can become a span: its attributes have texts, so has the name of its service, its
counts of dropped items can be written, and it has a kind. -/
structure IsConvertible (record : SpanRecord) : Prop where
  attributes : AllHaveText record.attributes
  service : HasServiceName record.resource
  drops : DropsWritable record
  kind : record.kind ≠ none

/-- A span is made up to its address exactly when its record is convertible. -/
theorem exists_withoutAddress_iff (record : SpanRecord) :
    (∃ span, withoutAddress record = .ok span) ↔ IsConvertible record := by
  constructor
  · rintro ⟨span, hspan⟩
    obtain ⟨tags, kind, service, htags, hkind, hservice, -⟩ := withoutAddress_eq_ok_iff.1 hspan
    obtain ⟨htexts, hdrops⟩ := (exists_tagsOf_iff record).1 ⟨tags, htags⟩
    exact ⟨htexts, (exists_serviceName_iff _).1 ⟨service, hservice⟩, hdrops, by simp [hkind]⟩
  · rintro ⟨htexts, hservice, hdrops, hkind⟩
    obtain ⟨tags, htags⟩ := (exists_tagsOf_iff record).2 ⟨htexts, hdrops⟩
    obtain ⟨service, hservice⟩ := (exists_serviceName_iff _).2 hservice
    obtain ⟨kind, hkind⟩ := Option.ne_none_iff_exists'.1 hkind
    exact ⟨_, withoutAddress_eq_ok_iff.2 ⟨tags, kind, service, htags, hkind, hservice, rfl⟩⟩

/-- A service has a name when all the attributes of its resource have texts. -/
theorem hasServiceName_of_allHaveText {resource : Mapping} (h : AllHaveText resource) :
    HasServiceName resource := by
  intro name hname _
  obtain ⟨entry, hentry, rfl⟩ := Option.map_eq_some_iff.1 hname
  exact h entry (List.mem_of_find?_eq_some hentry)

/-- A record is converted exactly when it can become a span and the source has an answer, and the
tags of the span are exactly those of the record. -/
theorem convert_tags_exact {σ : Type} (source : AddressSource σ) (record : SpanRecord) (state : σ) :
    ((∃ span, (convert source record state).result = .ok span) ↔
        IsConvertible record ∧ ∃ answer, (source.ask state).1 = .ok answer) ∧
      ∀ span, (convert source record state).result = .ok span →
        span.tags.entries = exactTags record := by
  constructor
  · rw [← exists_withoutAddress_iff]
    constructor
    · rintro ⟨span, hspan⟩
      obtain ⟨bare, answer, hbare, hanswer, -⟩ := convert_eq_ok_iff.1 hspan
      exact ⟨⟨bare, hbare⟩, answer, hanswer⟩
    · rintro ⟨⟨bare, hbare⟩, answer, hanswer⟩
      exact ⟨_, convert_eq_ok_iff.2 ⟨bare, answer, hbare, hanswer, rfl⟩⟩
  · intro span hspan
    obtain ⟨bare, answer, hbare, -, rfl⟩ := convert_eq_ok_iff.1 hspan
    obtain ⟨tags, kind, service, htags, -, -, rfl⟩ := withoutAddress_eq_ok_iff.1 hbare
    rw [locate_spanOf]
    exact (tagsOf_eq_ok_iff.1 htags).2.2

/-! ### Records that are not converted -/

/-- A record with one attribute, given its kind, its resource and how many attributes there were. -/
def taggedRecord (kind : Option SpanKind) (resource : Mapping) (dropped : Nat) : SpanRecord where
  traceId := "1a"
  spanId := "1b"
  name := .str "op"
  start := 500
  finish := 700
  parentId := none
  kind
  attributes := Mapping.empty.insert (.str "http.method") (.str "GET")
  totalAttributes := 1 + dropped
  events := []
  totalEvents := 2
  status := {}
  resource
  scope := .empty
  spanId_ne_empty := by decide
  traceId_ne_empty := by decide
  start_le_finish := by decide
  attributes_le_total := Int.le_add_of_nonneg_right (Int.natCast_nonneg dropped)
  events_le_total := by decide

/-- A resource whose service has no text. -/
def namelessResource : Mapping :=
  Mapping.empty.insert serviceKey (.map [(.str "name", .str "api")])

theorem allHaveText_taggedRecord (kind : Option SpanKind) (resource : Mapping) (dropped : Nat) :
    AllHaveText (taggedRecord kind resource dropped).attributes := by
  intro entry hentry
  obtain rfl := List.mem_singleton.1 hentry
  exact ⟨"GET", rfl⟩

theorem droppedAttributes_taggedRecord (kind : Option SpanKind) (resource : Mapping)
    (dropped : Nat) : (taggedRecord kind resource dropped).droppedAttributes = dropped :=
  add_sub_cancel_left 1 (dropped : Int)

theorem isConvertible_of_convert {σ : Type} {source : AddressSource σ} {record : SpanRecord}
    {state : σ} {span : ZipkinSpan} (h : (convert source record state).result = .ok span) :
    IsConvertible record := by
  obtain ⟨bare, answer, hbare, -, -⟩ := convert_eq_ok_iff.1 h
  exact (exists_withoutAddress_iff record).1 ⟨bare, hbare⟩

/-- Attributes with texts alone do not make a span: a missing kind, a service without a text, a
count with too many digits and a source without an answer each prevent it. -/
theorem texts_do_not_suffice :
    (∀ record ∈ [taggedRecord none .empty 0, taggedRecord (some .server) namelessResource 0,
        taggedRecord (some .server) .empty (10 ^ Number.digitLimit)],
      AllHaveText record.attributes ∧
        ¬∃ span, (convert (.constant none) record ()).result = .ok span) ∧
      ¬∃ span, (convert .scripted (taggedRecord (some .server) .empty 0)
        [.error (.unavailable "no network")]).result = .ok span := by
  simp only [List.forall_mem_cons, List.not_mem_nil, IsEmpty.forall_iff, implies_true, and_true,
    allHaveText_taggedRecord, true_and]
  refine ⟨⟨?kind, ?service, ?count⟩, ?source⟩
  case kind =>
    rintro ⟨span, hspan⟩
    exact (isConvertible_of_convert hspan).kind rfl
  case service =>
    rintro ⟨span, hspan⟩
    obtain ⟨text, htext⟩ := (isConvertible_of_convert hspan).service _ rfl rfl
    cases htext
  case count =>
    rintro ⟨span, hspan⟩
    have hlimit := (isConvertible_of_convert hspan).drops.1
    rw [droppedAttributes_taggedRecord, Number.withinLimit_iff, Int.natAbs_natCast] at hlimit
    exact lt_irrefl _ hlimit
  case source =>
    rintro ⟨span, hspan⟩
    obtain ⟨bare, answer, -, hanswer, -⟩ := convert_eq_ok_iff.1 hspan
    cases hanswer

end SpanBridge.Conversion
