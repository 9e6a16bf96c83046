import SpanBridge.Proofs.Rendering

/-!
# Whatever is read can be converted and written

The spans of a text that was read are writable records, so each of them is converted whatever
address the source answers with, and the result is written in every layout that exists
(`convert_and_render_of_readSpans`). Only an indent that fits no word or no memory is refused
(`indent_beyond_word_is_refused`).
-/

set_option autoImplicit false
set_option relaxedAutoImplicit false

namespace SpanBridge

/-- A record whose span can be written once it is converted: what is not turned into text by the
conversion has a document. -/
structure SpanRecord.IsPrintable (record : SpanRecord) : Prop where
  name : record.name.HasDocument
  keys : ∀ entry ∈ record.attributes.entries, ∃ name, Json.nameOfKey entry.1 = .ok name
  scope : record.scope.IsWritable
  description : record.status.description.HasDocument
  start : Number.WithinLimit record.start
  finish : Number.WithinLimit record.finish

theorem SpanRecord.IsWritable.isPrintable {record : SpanRecord} (h : record.IsWritable) :
    record.IsPrintable where
  name := h.name
  keys := fun entry hentry ↦ (h.attributes entry hentry).1
  scope := h.scope
  description := h.description
  start := h.start
  finish := h.finish

/-! ### Conversion of writable records -/

namespace Conversion

open Zipkin

theorem allHaveText_of_isWritable {attributes : Mapping} (h : attributes.IsWritable) :
    AllHaveText attributes := fun entry hentry ↦ (h entry hentry).2.exists_attributeText

theorem isConvertible_of_isWritable {record : SpanRecord} (h : record.IsWritable) :
    IsConvertible record where
  attributes := allHaveText_of_isWritable h.attributes
  service := hasServiceName_of_allHaveText (allHaveText_of_isWritable h.resource)
  drops := ⟨h.droppedAttributes, h.droppedEvents⟩
  kind := h.kind

/-! ### Tags and times of printable records -/

theorem isRenderableTag_of_mem_tagIf {condition : Bool} {name value : Value}
    (hname : ∃ text, name = .str text) (hvalue : value.HasDocument) :
    ∀ tag ∈ tagIf condition name value, IsRenderableTag tag := by
  obtain ⟨text, rfl⟩ := hname
  intro tag htag
  cases condition with
  | false => cases htag
  | true =>
    obtain rfl := List.mem_singleton.1 htag
    exact isRenderableTag_str hvalue

/-- Every derived tag of a printable record can be rendered. -/
theorem isRenderableTag_of_mem_derivedTags {record : SpanRecord} (h : record.IsPrintable) :
    ∀ tag ∈ derivedTags record, IsRenderableTag tag := by
  have herror : (if record.status.description.isTruthy then record.status.description
      else .str "").HasDocument := by
    split
    · exact h.description
    · exact hasDocument_str ""
  simp only [derivedTags, List.forall_mem_append, and_assoc]
  refine ⟨?scopeName, ?scopeVersion, ?libraryName, ?libraryVersion, ?status, ?error, ?attributes,
    ?events⟩
  case scopeName => exact isRenderableTag_of_mem_tagIf ⟨_, rfl⟩ h.scope.1
  case scopeVersion => exact isRenderableTag_of_mem_tagIf ⟨_, rfl⟩ h.scope.2
  case libraryName => exact isRenderableTag_of_mem_tagIf ⟨_, rfl⟩ h.scope.1
  case libraryVersion => exact isRenderableTag_of_mem_tagIf ⟨_, rfl⟩ h.scope.2
  case status => exact isRenderableTag_of_mem_tagIf ⟨_, rfl⟩ (hasDocument_str _)
  case error => exact isRenderableTag_of_mem_tagIf ⟨_, rfl⟩ herror
  case attributes => exact isRenderableTag_of_mem_tagIf ⟨_, rfl⟩ (hasDocument_str _)
  case events => exact isRenderableTag_of_mem_tagIf ⟨_, rfl⟩ (hasDocument_str _)

/-- Every tag of a printable record can be rendered. -/
theorem isRenderableTag_of_mem_exactTags {record : SpanRecord} (h : record.IsPrintable) :
    ∀ tag ∈ exactTags record, IsRenderableTag tag := by
  have hderived := isRenderableTag_of_mem_derivedTags h
  intro tag htag
  rcases List.mem_append.1 htag with htag | htag
  · obtain ⟨entry, hentry, rfl⟩ := List.mem_map.1 htag
    refine ⟨h.keys entry hentry, ?_⟩
    cases hlookup : (derivedTags record).lookup entry.1 with
    | none => exact hasDocument_str _
    | some value => exact (hderived (entry.1, value) (Entries.mem_of_lookup hlookup)).2
  · exact hderived tag (List.mem_of_mem_filter htag)

/-- Rounding to microseconds takes more digits away than a difference of two times can add. -/
theorem withinLimit_timing {start finish : Int} (hstart : Number.WithinLimit start)
    (hfinish : Number.WithinLimit finish) :
    Number.WithinLimit (Timing.between start finish).timestamp ∧
      Number.WithinLimit (Timing.between start finish).duration := by
  have hduration : Number.WithinLimit (toMicros (finish - start)) := by
    rw [Number.withinLimit_iff] at hstart hfinish ⊢
    unfold toMicros
    generalize 10 ^ Number.digitLimit = bound at hstart hfinish
    omega
  constructor
  · exact hstart.of_natAbs_le (Int.natAbs_ediv_le_natAbs start 1000)
  · unfold Timing.between
    dsimp only
    split
    · exact Number.withinLimit_of_natAbs_lt_pow (k := 1) (by decide) (by decide)
    · exact hduration

/-- The address of a converted span is the canonical text of the address of an answer. -/
theorem exists_address_of_convert {σ : Type} {source : AddressSource σ} {record : SpanRecord}
    {state : σ} {span : ZipkinSpan} (hspan : (convert source record state).result = .ok span)
    {ip : String} (hip : span.localEndpoint.ip = some ip) :
    ∃ address, Address.parse? ip = some address := by
  obtain ⟨bare, answer, hbare, -, rfl⟩ := convert_eq_ok_iff.1 hspan
  obtain ⟨tags, kind, service, -, -, -, rfl⟩ := withoutAddress_eq_ok_iff.1 hbare
  rw [locate_spanOf] at hip
  obtain ⟨address, haddress, rfl⟩ := Option.map_eq_some_iff.1 hip
  obtain ⟨given, -, hgiven⟩ := Option.bind_eq_some_iff.1 haddress
  exact ⟨address, Address.parse?_text_of_parse? hgiven⟩

/-- A span that was converted from a printable record can be written. -/
theorem isRenderable_of_isPrintable {σ : Type} {source : AddressSource σ} {record : SpanRecord}
    {state : σ} {span : ZipkinSpan} (h : record.IsPrintable)
    (hspan : (convert source record state).result = .ok span) : span.IsRenderable := by
  have haddress := fun ip (hip : span.localEndpoint.ip = some ip) ↦
    exists_address_of_convert hspan hip
  obtain ⟨bare, answer, hbare, -, rfl⟩ := convert_eq_ok_iff.1 hspan
  obtain ⟨tags, kind, service, htags, -, -, rfl⟩ := withoutAddress_eq_ok_iff.1 hbare
  obtain ⟨htimestamp, hduration⟩ := withinLimit_timing h.start h.finish
  rw [locate_spanOf] at haddress ⊢
  exact {
    address := haddress
    name := h.name
    timestamp := htimestamp
    duration := hduration
    tags := fun tag htag ↦ by
      refine isRenderableTag_of_mem_exactTags h tag ?_
      rw [← (tagsOf_eq_ok_iff.1 htags).2.2]
      exact htag }

/-- The span of a record that can be written can be rendered. -/
theorem isRenderable_of_convert {σ : Type} {source : AddressSource σ} {record : SpanRecord}
    {state : σ} {span : ZipkinSpan} (h : record.IsWritable)
    (hspan : (convert source record state).result = .ok span) : span.IsRenderable :=
  isRenderable_of_isPrintable h.isPrintable hspan

/-! ### Several records -/

/-- Records in order are all converted by a source that always answers. -/
theorem exists_convertAll {σ ε : Type} {source : AddressSource σ} {lift : ConversionError → ε}
    (hsource : ∀ state, ∃ answer, (source.ask state).1 = .ok answer) {records : List SpanRecord}
    (h : ∀ record ∈ records, IsConvertible record) (state : σ) :
    ∃ spans, (convertAll lift source (records.map .ok) state).result = .ok spans ∧
      ∀ span ∈ spans, ∃ record ∈ records, ∃ state,
        (convert source record state).result = .ok span := by
  induction records generalizing state with
  | nil => exact ⟨[], rfl, by simp⟩
  | cons record records ih =>
    obtain ⟨bare, hbare⟩ := (exists_withoutAddress_iff record).2 (h record List.mem_cons_self)
    obtain ⟨answer, hanswer⟩ := hsource state
    have hfirst := convert_eq_ok_iff.2 ⟨bare, answer, hbare, hanswer, rfl⟩
    obtain ⟨others, hothers, hfrom⟩ :=
      ih (fun other hother ↦ h other (List.mem_cons_of_mem _ hother))
        (convert source record state).state
    refine ⟨(locate answer bare).1 :: others, ?_, List.forall_mem_cons.2 ⟨?_, ?_⟩⟩
    · simp only [List.map_cons, convertAll, convertAttempt, hfirst, mapError_ok, hothers, map_ok]
    · exact ⟨record, List.mem_cons_self, state, hfirst⟩
    · intro span hspan
      obtain ⟨other, hother, htail⟩ := hfrom span hspan
      exact ⟨other, List.mem_cons_of_mem _ hother, htail⟩

end Conversion

/-! ### The whole way -/

namespace Pipeline

/-- The text of spans for a host whose address is known. -/
def writeSpans (memory : Zipkin.Memory) (address : Option String) (indent : Option Int)
    (spans : List SpanRecord) : Except Failure String := do
  let converted ← (convertSpans (.constant address) spans ()).result
  render memory indent converted

/-- A text is converted by writing the spans that are read from it. -/
theorem convertText_eq (memory : Zipkin.Memory) (text : String) (address : Option String)
    (indent : Option Int) :
    convertText memory text address indent =
      readSpans text >>= writeSpans memory address indent := rfl

/-- The values of the attributes of a record, of its events and of its resource. -/
def storedValues (record : SpanRecord) : List Value :=
  (record.attributes :: record.resource :: record.events.map (·.attributes)).flatMap fun mapping ↦
    mapping.entries.map (·.2)

/-- Every value stored in a record that can be written can be written. -/
theorem isWritable_of_mem_storedValues {record : SpanRecord} (h : record.IsWritable) {value : Value}
    (hvalue : value ∈ storedValues record) : value.IsWritable := by
  obtain ⟨mapping, hmapping, hmem⟩ := List.mem_flatMap.1 hvalue
  obtain ⟨entry, hentry, rfl⟩ := List.mem_map.1 hmem
  have hwritable : mapping.IsWritable := by
    rcases List.mem_cons.1 hmapping with rfl | hmapping
    · exact h.attributes
    rcases List.mem_cons.1 hmapping with rfl | hmapping
    · exact h.resource
    obtain ⟨event, hevent, rfl⟩ := List.mem_map.1 hmapping
    exact h.events event hevent
  exact (hwritable entry hentry).2

/-- Every record that is read can be written. -/
theorem isWritable_of_readSpans {text : String} {records : List SpanRecord}
    (h : readSpans text = .ok records) : ∀ record ∈ records, record.IsWritable := by
  obtain ⟨document, hdocument, hdecode⟩ := bind_eq_ok_iff.1 h
  exact Otlp.isWritable_of_decode (Json.isBounded_of_read (mapError_eq_ok_iff.1 hdocument))
    (mapError_eq_ok_iff.1 hdecode)

/-- Each attribute value of a text that was read is an attribute with a text. The records are
converted whatever the address is. They are written exactly when the indent fits a word and there is
memory for it, and refused for nothing but their indent. -/
theorem convert_and_render_of_readSpans {text : String} {records : List SpanRecord}
    (h : readSpans text = .ok records) :
    (∀ record ∈ records, ∀ value ∈ storedValues record,
      (∃ attr : Attribute, attr.IsWritable ∧ value = attr.toValue) ∧
        ∃ written, value.attributeText = .ok written) ∧
      ∀ address, ∃ spans, (convertSpans (.constant address) records ()).result = .ok spans ∧
        ∀ memory indent,
          ((∃ written, render memory indent spans = .ok written) ↔
            Zipkin.IndentFits (memory spans) indent) ∧
          ∀ failure, render memory indent spans = .error failure ↔
            ∃ error, failure = .render error ∧
              Zipkin.RefusesIndent (memory spans) indent error := by
  have hwritable := isWritable_of_readSpans h
  constructor
  · intro record hrecord value hvalue
    have hstored := isWritable_of_mem_storedValues (hwritable record hrecord) hvalue
    exact ⟨hstored, hstored.exists_attributeText⟩
  · intro address
    have hanswers : ∀ state, ∃ answer,
        ((AddressSource.constant address).ask state).1 = .ok answer := fun _ ↦ ⟨address, rfl⟩
    obtain ⟨spans, hspans, hfrom⟩ := @Conversion.exists_convertAll _ _ _ Failure.conversion
      hanswers records (fun record hrecord ↦
        Conversion.isConvertible_of_isWritable (hwritable record hrecord)) ()
    refine ⟨spans, hspans, fun memory indent ↦ ?_⟩
    have hrenderable : ∀ span ∈ spans, span.IsRenderable := by
      intro span hspan
      obtain ⟨record, hrecord, state, hconverted⟩ := hfrom span hspan
      exact Conversion.isRenderable_of_convert (hwritable record hrecord) hconverted
    simp only [render, mapError_eq_ok_iff, mapError_eq_error_iff, Zipkin.renderCompact,
      Zipkin.render_eq_error_iff hrenderable]
    exact ⟨Zipkin.exists_render_iff hrenderable, fun failure ↦
      ⟨fun ⟨error, hrefuses, heq⟩ ↦ ⟨error, heq.symm, hrefuses⟩,
        fun ⟨error, heq, hrefuses⟩ ↦ ⟨error, hrefuses, heq.symm⟩⟩⟩

/-- The text of a span with an integer that is written as a text. -/
def oneSpanText : String :=
  "\x7b\"resourceSpans\":[\x7b\"scopeSpans\":[\x7b\"spans\":[\x7b\"traceId\":\"0A\"," ++
    "\"spanId\":\"0b\",\"attributes\":[\x7b\"key\":\"k\",\"value\":" ++
    "\x7b\"intValue\":\"7\"\x7d\x7d]\x7d]\x7d]\x7d]\x7d"

theorem convert_and_render_oneSpanText :
    ∃ records, readSpans oneSpanText = .ok records ∧
      records.flatMap storedValues = [.int 7] ∧
      ∃ spans, (convertSpans (.constant (some "::1")) records ()).result = .ok spans ∧
        (∃ written, render (.upTo 2) (some 2) spans = .ok written) ∧
          render (.upTo 2) (some 3) spans = .error (.render .indentTooLarge) := by
  have hvalues : (readSpans oneSpanText).toOption.map (·.flatMap storedValues) = some [.int 7] := by
    decide +kernel
  cases hrecords : readSpans oneSpanText with
  | error failure =>
    rw [hrecords] at hvalues
    cases hvalues
  | ok records =>
    rw [hrecords] at hvalues
    obtain ⟨spans, hspans, hrender⟩ :=
      (convert_and_render_of_readSpans hrecords).2 (some "::1")
    have hfits : Zipkin.IndentFits (Zipkin.Memory.upTo 2 spans) (some 2) := by
      rintro _ ⟨⟩
      exact ⟨by decide, le_rfl⟩
    have hrefuses : Zipkin.RefusesIndent (Zipkin.Memory.upTo 2 spans) (some 3) .indentTooLarge :=
      ⟨3, rfl, .inr ⟨by decide, Int.lt_succ 2, rfl⟩⟩
    exact ⟨records, rfl, Option.some.inj hvalues, spans, hspans,
      (hrender (.upTo 2) (some 2)).1.2 hfits,
      ((hrender (.upTo 2) (some 3)).2 _).2 ⟨_, rfl, hrefuses⟩⟩

/-- A text without spans is read, but not written with an indent beyond a word, however much memory
there is, nor with one beyond the memory. -/
theorem indent_beyond_word_is_refused :
    readSpans "\x7b\"resourceSpans\":[]\x7d" = .ok [] ∧
      convertText .ample "\x7b\"resourceSpans\":[]\x7d" none (some 0x8000000000000000) =
        .error (.render .indentOutOfRange) ∧
      convertText (.upTo 0x4000000000) "\x7b\"resourceSpans\":[]\x7d" none
        (some 0x4000000000000000) = .error (.render .indentTooLarge) := by
  decide +kernel

end Pipeline
end SpanBridge
