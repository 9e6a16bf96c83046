import SpanBridge.Proofs.Objects
import SpanBridge.Proofs.Otlp.Composition

/-!
# Conversion part by part

A document with the resources of two others is read and written as the one followed by the other,
each of its spans becomes one record, and where a document is cut into blocks and resources makes no
difference (`Pipeline.conversion_in_parts`).
-/

set_option autoImplicit false
set_option relaxedAutoImplicit false

namespace SpanBridge.Pipeline

open Otlp

/-- Converts a document for a host whose address is known. -/
def convertDocument (memory : Zipkin.Memory) (answer : Option String) (indent : Option Int)
    (document : Json) : Except Failure String := do
  writeSpans memory answer indent (← (decode document).mapError Failure.otlp)

/-- A text is converted by converting the document that is read from it. -/
theorem convertText_eq_convertDocument (memory : Zipkin.Memory) (text : String)
    (answer : Option String) (indent : Option Int) :
    convertText memory text answer indent =
      ((Json.read text).mapError Failure.json >>= convertDocument memory answer indent) := by
  rw [convertText_eq, readSpans, bind_assoc]
  rfl

/-- A document is converted when it is decoded and its records are written. -/
theorem convertDocument_eq_ok_iff {memory : Zipkin.Memory} {answer : Option String}
    {indent : Option Int} {document : Json} {written : String} :
    convertDocument memory answer indent document = .ok written ↔
      ∃ records, decode document = .ok records ∧
        writeSpans memory answer indent records = .ok written := by
  simp only [convertDocument, bind_eq_ok_iff, mapError_eq_ok_iff]

/-- The arrays of two documents one after the other are the array of both. -/
theorem convertDocument_append {first second document : Json}
    (h : decode document = inTurn (decode first) (decode second)) {limit : Nat}
    {answer : Option String} {indent : Option Int} {firstText secondText : String}
    (hfirst : convertDocument (.upTo limit) answer indent first = .ok firstText)
    (hsecond : convertDocument (.upTo limit) answer indent second = .ok secondText) :
    ∃ layout firstObjects secondObjects, firstText = (Json.arr firstObjects).print layout ∧
      secondText = (Json.arr secondObjects).print layout ∧
        convertDocument (.upTo limit) answer indent document =
          .ok ((Json.arr (firstObjects ++ secondObjects)).print layout) := by
  obtain ⟨records, hrecords, hwritten⟩ := convertDocument_eq_ok_iff.1 hfirst
  obtain ⟨records', hrecords', hwritten'⟩ := convertDocument_eq_ok_iff.1 hsecond
  obtain ⟨objects, layout, hobjects, hlayout, rfl⟩ := writeSpans_eq_ok_iff.1 hwritten
  obtain ⟨objects', layout', hobjects', hlayout', rfl⟩ := writeSpans_eq_ok_iff.1 hwritten'
  obtain rfl := Except.ok.inj (hlayout.symm.trans hlayout')
  refine ⟨layout, objects, objects', rfl, rfl,
    convertDocument_eq_ok_iff.2 ⟨records ++ records', ?_, ?_⟩⟩
  · exact h.trans (inTurn_eq_ok_iff.2 ⟨records, records', hrecords, hrecords', rfl⟩)
  · exact writeSpans_eq_ok_iff.2
      ⟨objects ++ objects', layout, List.rel_append hobjects hobjects', hlayout, rfl⟩

/-- Conversion goes part by part. A document with the resources of two others is read as the one and
then the other, up to the first failure, and so is its array written. Each span of an accepted
document becomes one record, in the order of the document and under its own resource and scope.
Splitting a block changes nothing, and splitting a resource that uses one layout changes nothing
about what is accepted. -/
theorem conversion_in_parts :
    (∀ first second document firstEntries secondEntries,
      resourceSpans? first = some (.arr firstEntries) →
      resourceSpans? second = some (.arr secondEntries) →
      resourceSpans? document = some (.arr (firstEntries ++ secondEntries)) →
        decode document = (do return (← decode first) ++ (← decode second)) ∧
        ∀ limit answer indent firstText secondText,
          convertDocument (.upTo limit) answer indent first = .ok firstText →
          convertDocument (.upTo limit) answer indent second = .ok secondText →
            ∃ layout firstObjects secondObjects,
              firstText = (Json.arr firstObjects).print layout ∧
              secondText = (Json.arr secondObjects).print layout ∧
              convertDocument (.upTo limit) answer indent document =
                .ok ((Json.arr (firstObjects ++ secondObjects)).print layout)) ∧
    (∀ document records, decode document = .ok records →
      List.Forall₂ IsRecordOf (rawSpans document) records) ∧
    (∀ entry entry' document document', SplitsBlockOf entry entry' →
      Replaces [entry] [entry'] document document' → decode document' = decode document) ∧
    (∀ layout entry first second document document', SplitsEntry layout entry first second →
      Replaces [entry] [first, second] document document' →
        ∀ records, decode document' = .ok records ↔ decode document = .ok records) := by
  refine ⟨?append, ?order, ?block, ?entry⟩
  case append =>
    intro first second document firstEntries secondEntries hfirst hsecond hdocument
    have happend := decode_append hfirst hsecond hdocument
    exact ⟨happend, fun _ _ _ _ _ ↦ convertDocument_append happend⟩
  case order => exact fun _ _ ↦ forall₂_isRecordOf_rawSpans
  case block => exact fun _ _ _ _ hsplits hreplaces ↦ decode_of_splitsBlockOf hreplaces hsplits
  case entry =>
    exact fun _ _ _ _ _ _ hsplits hreplaces _ ↦ decode_eq_ok_iff_of_splitsEntry hreplaces hsplits

/-! ### A document with three spans -/

def rawSpan (id : String) : Json := .obj [("traceId", .str "0a"), ("spanId", .str id)]

def rawBlock (spans : List Json) : Json :=
  .obj [("scope", .obj [("name", .str "lib")]), ("schemaUrl", .str "u"), ("spans", .arr spans)]

def rawEntry (blocks : List Json) : Json := .obj [("scopeSpans", .arr blocks)]

/-- What is written for a span with an identifier. -/
def spanText (id : String) : String :=
  "\x7b\"traceId\":\"0a\",\"id\":\"" ++ id ++ "\",\"name\":\"\",\"timestamp\":0,\"duration\":0," ++
    "\"localEndpoint\":\x7b\"serviceName\":\"unknown_service\"\x7d," ++
    "\"tags\":\x7b\"otel.scope.name\":\"lib\",\"otel.library.name\":\"lib\"\x7d\x7d"

/-- Three spans in two resources, or in two blocks of one, are converted as they are one after
another. -/
theorem conversion_in_parts_threeSpans :
    let first := rawEntry [rawBlock [rawSpan "1", rawSpan "2"]]
    let second := rawEntry [rawBlock [rawSpan "3"]]
    let blocks := rawEntry [rawBlock [rawSpan "1"], rawBlock [rawSpan "2"]]
    let entries := [rawEntry [rawBlock [rawSpan "1"]], rawEntry [rawBlock [rawSpan "2"]]]
    (∃ layout firstObjects secondObjects,
      "[" ++ spanText "1" ++ "," ++ spanText "2" ++ "]" = (Json.arr firstObjects).print layout ∧
      "[" ++ spanText "3" ++ "]" = (Json.arr secondObjects).print layout ∧
      convertDocument (.upTo 0) none none (documentOf [first, second]) =
        .ok ((Json.arr (firstObjects ++ secondObjects)).print layout)) ∧
    (∃ records, decode (documentOf [first, second]) = .ok records ∧
      List.Forall₂ IsRecordOf (rawSpans (documentOf [first, second])) records) ∧
    decode (documentOf [blocks]) = decode (documentOf [first]) ∧
    ∀ records, decode (documentOf entries) = .ok records ↔
      decode (documentOf [blocks]) = .ok records := by
  intro first second blocks entries
  obtain ⟨happend, horder, hblock, hentry⟩ := conversion_in_parts
  have hfirst : convertDocument (.upTo 0) none none (documentOf [first]) =
      .ok ("[" ++ spanText "1" ++ "," ++ spanText "2" ++ "]") := by decide +kernel
  have hsecond : convertDocument (.upTo 0) none none (documentOf [second]) =
      .ok ("[" ++ spanText "3" ++ "]") := by decide +kernel
  refine ⟨?append, ?order, ?block, ?entry⟩
  case append =>
    exact (happend _ _ (documentOf [first, second]) [first] [second] rfl rfl rfl).2 0 none none _ _
      hfirst hsecond
  case order =>
    have haccepted : (decode (documentOf [first, second])).toBool = true := by decide +kernel
    obtain ⟨records, hrecords⟩ := exists_of_toBool haccepted
    exact ⟨records, hrecords, horder _ _ hrecords⟩
  case block =>
    refine hblock first blocks _ _ ⟨rfl, .current, [], rawBlock [rawSpan "1", rawSpan "2"],
      rawBlock [rawSpan "1"], rawBlock [rawSpan "2"], [], ?_, rfl, rfl, rfl⟩ ⟨[], [], rfl, rfl⟩
    have hparts : ∀ part ∈ [rawBlock [rawSpan "1"], rawBlock [rawSpan "2"]],
        ∃ spans, part = rawBlock spans := by simp
    refine ⟨fun part hpart ↦ ?_, fun part hpart ↦ ?_, _, _, rfl, rfl, rfl⟩ <;>
      obtain ⟨spans, rfl⟩ := hparts part hpart <;> rfl
  case entry =>
    have hparts : ∀ part ∈ blocks :: entries, ∃ blocks, part = rawEntry blocks := by
      simp [blocks, entries]
    refine hentry .current blocks _ _ _ _ ⟨fun part hpart ↦ ?_, fun part hpart ↦ ?_, _, _, rfl, rfl,
      rfl⟩ ⟨[], [], rfl, rfl⟩
    · obtain ⟨blocks, rfl⟩ := hparts part hpart
      rfl
    · obtain ⟨blocks, rfl⟩ := hparts part (List.mem_cons_of_mem _ hpart)
      rfl

end SpanBridge.Pipeline
