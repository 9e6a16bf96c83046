import SpanBridge.Proofs.Pipeline
import SpanBridge.Proofs.RenderedText

/-!
# The objects of an array of spans

Spans are written as one array, and each of them is an object in it
(`Zipkin.render_eq_ok_iff_objects`). For a host whose address is known each record becomes one
object, whatever stands beside it (`Pipeline.writeSpans_eq_ok_iff`).
-/

set_option autoImplicit false
set_option relaxedAutoImplicit false

namespace SpanBridge

/-- Items are written exactly when each of them is. -/
theorem Json.ofItems_eq_ok_iff {items : List Value} {documents : List Json} :
    Json.ofItems items = .ok documents ↔
      List.Forall₂ (fun item document ↦ Json.ofValue item = .ok document) items documents := by
  induction items generalizing documents with
  | nil => cases documents <;> simp [Json.ofItems]
  | cons item items ih =>
    simp only [Json.ofItems, bind_eq_ok_iff, pure_eq_ok, Except.ok.injEq, ih,
      List.forall₂_cons_left_iff]
    constructor
    · rintro ⟨document, hdocument, rest, hrest, rfl⟩
      exact ⟨document, rest, hdocument, hrest, rfl⟩
    · rintro ⟨document, rest, hdocument, hrest, rfl⟩
      exact ⟨document, hdocument, rest, hrest, rfl⟩

namespace Zipkin

/-- An object with the members of a span. -/
def IsObjectOf (span : ZipkinSpan) (object : Json) : Prop :=
  ∃ members, span.members = .ok members ∧ Json.ofValue (.map members) = .ok object

/-- Spans have an array of documents exactly when each of them has an object. -/
theorem exists_arrayOf_iff {spans : List ZipkinSpan} {document : Json} :
    (∃ value, arrayOf spans = .ok value ∧ Json.ofValue value = .ok document) ↔
      ∃ objects, List.Forall₂ IsObjectOf spans objects ∧ document = .arr objects := by
  have harray : ∀ value, arrayOf spans = .ok value ↔
      ∃ lists, List.Forall₂ (fun span members ↦ ZipkinSpan.members span = .ok members) spans lists ∧
        .list (lists.map Value.map) = value := fun value ↦ by
    simp only [arrayOf, bind_eq_ok_iff, mapM_eq_ok_iff, pure_eq_ok, Except.ok.injEq]
  have hobjects : ∀ lists : List (List (Value × Value)),
      Json.ofValue (.list (lists.map Value.map)) = .ok document ↔
        ∃ objects, List.Forall₂ (fun members object ↦ Json.ofValue (.map members) = .ok object)
          lists objects ∧ .arr objects = document := fun lists ↦ by
    rw [Json.ofValue]
    simp only [bind_eq_ok_iff, Json.ofItems_eq_ok_iff, List.forall₂_map_left_iff, pure_eq_ok,
      Except.ok.injEq]
  simp only [harray]
  constructor
  · rintro ⟨_, ⟨lists, hlists, rfl⟩, hdocument⟩
    obtain ⟨objects, hdocuments, rfl⟩ := (hobjects lists).1 hdocument
    exact ⟨objects, exists_forall₂_comp.1 ⟨lists, hlists, hdocuments⟩, rfl⟩
  · rintro ⟨objects, hspans, rfl⟩
    obtain ⟨lists, hlists, hdocuments⟩ := exists_forall₂_comp.2 hspans
    exact ⟨_, ⟨lists, hlists, rfl⟩, (hobjects lists).2 ⟨objects, hdocuments, rfl⟩⟩

/-- What is written is the array of the objects of the spans. -/
theorem render_eq_ok_iff_objects {memory : Memory} {oneLine : Json.Layout} {indent : Option Int}
    {spans : List ZipkinSpan} {written : String} :
    render memory oneLine indent spans = .ok written ↔
      ∃ objects layout, List.Forall₂ IsObjectOf spans objects ∧
        layoutFor (memory spans) oneLine indent = .ok layout ∧
          (Json.arr objects).print layout = written := by
  simp only [render, bind_eq_ok_iff, mapError_eq_ok_iff, pure_eq_ok, Except.ok.injEq]
  constructor
  · rintro ⟨value, hvalue, layout, hlayout, document, hdocument, rfl⟩
    obtain ⟨objects, hobjects, rfl⟩ := exists_arrayOf_iff.1 ⟨value, hvalue, hdocument⟩
    exact ⟨objects, layout, hobjects, hlayout, rfl⟩
  · rintro ⟨objects, layout, hobjects, hlayout, rfl⟩
    obtain ⟨value, hvalue, hdocument⟩ := exists_arrayOf_iff.2 ⟨objects, hobjects, rfl⟩
    exact ⟨value, hvalue, layout, hlayout, _, hdocument, rfl⟩

end Zipkin

namespace Pipeline

/-- The object of a record for a host whose address is known. -/
def IsWrittenAs (answer : Option String) (record : SpanRecord) (object : Json) : Prop :=
  ∃ span, Conversion.atAddress answer record = .ok span ∧ Zipkin.IsObjectOf span object

/-- With a source that answers always alike, records are converted exactly when each of them is. -/
theorem convertSpans_constant_eq_ok_iff {answer : Option String} {records : List SpanRecord}
    {spans : List ZipkinSpan} :
    (convertSpans (.constant answer) records ()).result = .ok spans ↔
      List.Forall₂ (fun record span ↦ Conversion.atAddress answer record = .ok span)
        records spans := by
  simp only [convertSpans, Conversion.result_convertAll_constant, mapM_eq_ok_iff,
    mapError_eq_ok_iff]

/-- What is written for records is the array of their objects. -/
theorem writeSpans_eq_ok_iff {limit : Nat} {answer : Option String} {indent : Option Int}
    {records : List SpanRecord} {written : String} :
    writeSpans (.upTo limit) answer indent records = .ok written ↔
      ∃ objects layout, List.Forall₂ (IsWrittenAs answer) records objects ∧
        Zipkin.layoutFor limit .compact indent = .ok layout ∧
          (Json.arr objects).print layout = written := by
  simp only [writeSpans, bind_eq_ok_iff, convertSpans_constant_eq_ok_iff, render,
    Zipkin.renderCompact, Zipkin.Memory.upTo, mapError_eq_ok_iff,
    Zipkin.render_eq_ok_iff_objects]
  constructor
  · rintro ⟨spans, hspans, objects, layout, hobjects, hlayout, rfl⟩
    exact ⟨objects, layout, exists_forall₂_comp.1 ⟨spans, hspans, hobjects⟩, hlayout, rfl⟩
  · rintro ⟨objects, layout, hrecords, hlayout, rfl⟩
    obtain ⟨spans, hspans, hobjects⟩ := exists_forall₂_comp.2 hrecords
    exact ⟨spans, hspans, objects, layout, hobjects, hlayout, rfl⟩

end Pipeline
end SpanBridge
