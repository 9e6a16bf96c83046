import SpanBridge.Proofs.Composition
import SpanBridge.Proofs.Otlp.Extended

/-!
# Conversion of extended documents

The members that nothing reads and the order of members make no difference: what is written for an
extended document is what is written for the document (`Pipeline.convertDocument_of_extends`). The
records may differ in the schemas of their scopes, which no tag shows.
-/

set_option autoImplicit false
set_option relaxedAutoImplicit false

namespace SpanBridge

/-! ### Schemas are not converted -/

theorem Conversion.withoutAddress_withoutSchema (record : SpanRecord) :
    withoutAddress (record.mapScope Otlp.withoutSchema) = withoutAddress record := rfl

/-- Records that differ in nothing but the schemas of their scopes are converted to one span. -/
theorem Conversion.atAddress_of_alikeButSchema {record record' : SpanRecord}
    (h : record.AlikeButSchema record') (answer : Option String) :
    atAddress answer record' = atAddress answer record := by
  have hbare : withoutAddress record' = withoutAddress record := by
    rw [← withoutAddress_withoutSchema record', h, withoutAddress_withoutSchema]
  rw [atAddress, atAddress, hbare]

namespace Pipeline

open Otlp

/-- Records that differ in nothing but the schemas of their scopes are written alike. -/
theorem writeSpans_of_alikeButSchema {records records' : List SpanRecord}
    (h : List.Forall₂ SpanRecord.AlikeButSchema records records') (memory : Zipkin.Memory)
    (answer : Option String) (indent : Option Int) :
    writeSpans memory answer indent records' = writeSpans memory answer indent records := by
  have hspans : (convertSpans (.constant answer) records' ()).result =
      (convertSpans (.constant answer) records ()).result := by
    rw [convertSpans, convertSpans, Conversion.result_convertAll_constant,
      Conversion.result_convertAll_constant]
    refine (mapM_eq_of_forall₂ (h.imp fun record record' halike ↦ ?_)).symm
    rw [Conversion.atAddress_of_alikeButSchema halike]
  rw [writeSpans, writeSpans, hspans]

/-- An accepted document that is extended is accepted, with the same records but for the schemas of
scopes, and what is written for it stays the same to the character, or fails in the same way. -/
theorem convertDocument_of_extends {document document' : Json} {records : List SpanRecord}
    (hextends : Extends (.part .document) document document')
    (hdecode : decode document = .ok records) :
    (∃ records', decode document' = .ok records' ∧
      List.Forall₂ SpanRecord.AlikeButSchema records records') ∧
    ∀ memory answer indent,
      convertDocument memory answer indent document' =
        convertDocument memory answer indent document := by
  obtain ⟨records', hdecode', halike⟩ := carries_decode hextends records hdecode
  refine ⟨⟨records', hdecode', halike⟩, fun memory answer indent ↦ ?_⟩
  rw [convertDocument, convertDocument, hdecode, hdecode', mapError_ok, mapError_ok, ok_bind,
    ok_bind, writeSpans_of_alikeButSchema halike]

/-! ### An empty scope that is extended -/

/-- A document with one block that has a schema, given its scope and its span. -/
def schemaDocument (scope span : Json) : Json :=
  documentOf [.obj [("scopeSpans", .arr [.obj
    [("scope", scope), ("schemaUrl", .str "u"), ("spans", .arr [span])]])]]

def bareValue : Json := .obj [("arrayValue", .obj [])]

/-- The same with further members of the array and of the value. -/
def fullValue : Json := .obj [("arrayValue", .obj [("size", .int 0)]), ("bytesValue", .null)]

def bareSpan : Json :=
  .obj [("traceId", .str "0a"), ("spanId", .str "0b"),
    ("attributes", .arr [.obj [("key", .str "k"), ("value", bareValue)]])]

/-- The same with a further member. The members of the attribute and of the span stand in the
opposite order. -/
def fullSpan : Json :=
  .obj [("flags", .int 1), ("attributes", .arr [.obj [("value", fullValue), ("key", .str "k")]]),
    ("spanId", .str "0b"), ("traceId", .str "0a")]

/-- An empty part is extended by members that nothing reads. -/
theorem extends_of_added {part : Part} {added : List (String × Json)}
    (hadded : ∀ member ∈ added, part.reading? member.1 = none)
    (hnames : (added.map Prod.fst).Nodup) : Extends (.part part) (.obj []) (.obj added) :=
  Extends.part [] added (by simp) hadded (.refl _) hnames

/-- A part is extended where the only item of one of its lists is. -/
theorem extends_of_item {part item : Part} {name : String} {value value' : Json}
    (hread : part.reading? name = some (.list item)) (h : Extends (.part item) value value') :
    Extends (.part part) (.obj [(name, .arr [value])]) (.obj [(name, .arr [value'])]) := by
  have hlist : Extends (.list item) (.arr [value]) (.arr [value']) :=
    .list [(value, value')] (List.forall_mem_singleton.2 h)
  refine .part [(name, .arr [value], .arr [value'])] [] ?_ (by simp) (.refl _) (by simp)
  rw [List.forall_mem_singleton, hread]
  exact hlist

/-- A span with nothing but identifiers is extended by members that nothing reads. -/
theorem extends_fullSpan : Extends (.part .span) bareSpan fullSpan := by
  have harray : Extends (.part .array) (.obj []) (.obj [("size", .int 0)]) :=
    extends_of_added (by decide) (by decide)
  have hvalue : Extends (.part .value) bareValue fullValue :=
    .part [("arrayValue", .obj [], .obj [("size", .int 0)])] [("bytesValue", .null)]
      (List.forall_mem_singleton.2 harray) (by decide) (.refl _) (by decide)
  have hattribute : Extends (.part .attribute) (.obj [("key", .str "k"), ("value", bareValue)])
      (.obj [("value", fullValue), ("key", .str "k")]) :=
    .part [("key", .str "k", .str "k"), ("value", bareValue, fullValue)] []
      (List.forall_mem_cons.2 ⟨.refl _ _, List.forall_mem_singleton.2 hvalue⟩) (by decide)
      (List.reverse_perm _).symm (by decide)
  have hlist := Extends.list [(_, _)] (List.forall_mem_singleton.2 hattribute)
  exact .part [("traceId", .str "0a", .str "0a"), ("spanId", .str "0b", .str "0b"),
    ("attributes", _, _)] [("flags", .int 1)] (List.forall_mem_cons.2 ⟨.refl _ _,
      List.forall_mem_cons.2 ⟨.refl _ _, List.forall_mem_singleton.2 hlist⟩⟩) (by decide)
    (List.reverse_perm _).symm (by decide)

/-- A document is extended where its scope and its span are. -/
theorem extends_schemaDocument {scope scope' span span' : Json}
    (hscope : Extends (.part .scope) scope scope') (hspan : Extends (.part .span) span span') :
    Extends (.part .document) (schemaDocument scope span) (schemaDocument scope' span') := by
  have hspans : Extends (.list .span) (.arr [span]) (.arr [span']) :=
    .list [(span, span')] (List.forall_mem_singleton.2 hspan)
  have hblock : Extends (.part (.block .current))
      (.obj [("scope", scope), ("schemaUrl", .str "u"), ("spans", .arr [span])])
      (.obj [("scope", scope'), ("schemaUrl", .str "u"), ("spans", .arr [span'])]) :=
    .part [("scope", scope, scope'), ("schemaUrl", .str "u", .str "u"),
      ("spans", .arr [span], .arr [span'])] [] (List.forall_mem_cons.2 ⟨hscope,
        List.forall_mem_cons.2 ⟨.refl _ _, List.forall_mem_singleton.2 hspans⟩⟩) (by decide)
      (.refl _) (by simp)
  exact extends_of_item rfl (extends_of_item rfl hblock)

/-- The scope is not empty any more, so that the schema of the block counts. It is not written. -/
theorem convertDocument_fullSpan :
    let document := schemaDocument (.obj []) bareSpan
    let document' := schemaDocument (.obj [("droppedAttributesCount", .int 0)]) fullSpan
    (∃ records, decode document = .ok records ∧
      (∃ records', decode document' = .ok records' ∧
        List.Forall₂ SpanRecord.AlikeButSchema records records') ∧
      ∀ memory answer indent,
        convertDocument memory answer indent document' =
          convertDocument memory answer indent document) ∧
    List.map (·.scope) <$> decode document' ≠ List.map (·.scope) <$> decode document := by
  intro document document'
  have hscope : Extends (.part .scope) (.obj []) (.obj [("droppedAttributesCount", .int 0)]) :=
    extends_of_added (by decide) (by decide)
  obtain ⟨records, hdecode⟩ : ∃ records, decode document = .ok records :=
    exists_of_toBool (by decide +kernel)
  exact ⟨⟨records, hdecode,
    convertDocument_of_extends (extends_schemaDocument hscope extends_fullSpan) hdecode⟩,
    by decide +kernel⟩

end Pipeline
end SpanBridge
