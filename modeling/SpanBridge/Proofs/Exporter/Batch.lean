import SpanBridge.Exporter
import SpanBridge.Proofs.Conversion
import SpanBridge.Proofs.Record

/-!
# How a batch ends

The spans of a batch are converted in turn (`Exporter.Converts`) up to the first that fails
(`Exporter.Fails`); exactly one of the two happens (`converts_or_fails`). Something
is wrong with a batch when a span cannot be converted or the converted spans cannot be written
(`Exporter.Refuses`). `Exporter.Ends` lists the four ways in which a batch can end, and
`ends_exportBatch` says that every batch ends in one of them. What a batch delivers and which
failures escape from it follow from there by cases.
-/

set_option autoImplicit false
set_option relaxedAutoImplicit false

namespace SpanBridge.Exporter

variable {σ : Type} {source : AddressSource σ}

/-! ### Conversion of a batch -/

/-- The spans of a batch are all converted, each one with the state that the source is left in by
those before it. -/
inductive Converts (source : AddressSource σ) :
    List ReadableSpan → σ → List ZipkinSpan → σ → Prop where
  | nil {state : σ} : Converts source [] state [] state
  | cons {span : ReadableSpan} {spans : List ReadableSpan} {record : SpanRecord}
      {converted : ZipkinSpan} {others : List ZipkinSpan} {state final : σ}
      (hrecord : span.toRecord = .ok record)
      (hspan : (Conversion.convert source record state).result = .ok converted)
      (hothers : Converts source spans (Conversion.convert source record state).state others
        final) :
    Converts source (span :: spans) state (converted :: others) final

/-- A span of a batch cannot be converted although all those before it were. -/
inductive Fails (source : AddressSource σ) : List ReadableSpan → σ → Failure → Prop where
  | readable {span : ReadableSpan} {spans : List ReadableSpan} {state : σ} {error : ReadableError}
      (hrecord : span.toRecord = .error error) :
    Fails source (span :: spans) state (.readable error)
  | conversion {span : ReadableSpan} {spans : List ReadableSpan} {record : SpanRecord} {state : σ}
      {error : ConversionError} (hrecord : span.toRecord = .ok record)
      (hspan : (Conversion.convert source record state).result = .error error) :
    Fails source (span :: spans) state (.conversion error)
  | later {span : ReadableSpan} {spans : List ReadableSpan} {record : SpanRecord}
      {converted : ZipkinSpan} {state : σ} {failure : Failure}
      (hrecord : span.toRecord = .ok record)
      (hspan : (Conversion.convert source record state).result = .ok converted)
      (hothers : Fails source spans (Conversion.convert source record state).state failure) :
    Fails source (span :: spans) state failure

/-- Either all spans of a batch are converted or one of them is the first that cannot be. -/
theorem converts_or_fails (source : AddressSource σ) (spans : List ReadableSpan) (state : σ) :
    (∃ converted final, Converts source spans state converted final) ∨
      ∃ failure, Fails source spans state failure := by
  induction spans generalizing state with
  | nil => exact .inl ⟨[], state, .nil⟩
  | cons span spans ih =>
    cases hrecord : span.toRecord with
    | error error => exact .inr ⟨_, .readable hrecord⟩
    | ok record =>
      cases hspan : (Conversion.convert source record state).result with
      | error error => exact .inr ⟨_, .conversion hrecord hspan⟩
      | ok converted =>
        rcases ih (Conversion.convert source record state).state with
          ⟨others, final, hothers⟩ | ⟨failure, hothers⟩
        · exact .inl ⟨_, _, .cons hrecord hspan hothers⟩
        · exact .inr ⟨_, .later hrecord hspan hothers⟩

/-- The spans of a batch up to the first that cannot be converted. -/
def convertBatch (source : AddressSource σ) (spans : List ReadableSpan) (state : σ) :
    Conversion.Outcome σ (Except Failure (List ZipkinSpan)) :=
  Conversion.convertAll Failure.conversion source
    (spans.map fun span ↦ span.toRecord.mapError Failure.readable) state

/-- A batch whose spans can be converted one after another is converted to these spans. -/
theorem result_convertBatch_of_converts {spans : List ReadableSpan} {state final : σ}
    {converted : List ZipkinSpan} (h : Converts source spans state converted final) :
    (convertBatch source spans state).result = .ok converted := by
  induction h with
  | nil => rfl
  | cons hrecord hspan _ ih =>
    unfold convertBatch at ih
    simp only [convertBatch, List.map_cons, hrecord, mapError_ok, Conversion.convertAll,
      Conversion.convertAttempt, hspan, ih, map_ok]

/-- A batch fails like the first of its spans that cannot be converted. -/
theorem result_convertBatch_of_fails {spans : List ReadableSpan} {state : σ} {failure : Failure}
    (h : Fails source spans state failure) :
    (convertBatch source spans state).result = .error failure := by
  induction h with
  | readable hrecord =>
    simp only [convertBatch, List.map_cons, hrecord, mapError_error, Conversion.convertAll,
      Conversion.convertAttempt]
  | conversion hrecord hspan =>
    simp only [convertBatch, List.map_cons, hrecord, mapError_ok, Conversion.convertAll,
      Conversion.convertAttempt, hspan, mapError_error]
  | later hrecord hspan _ ih =>
    unfold convertBatch at ih
    simp only [convertBatch, List.map_cons, hrecord, mapError_ok, Conversion.convertAll,
      Conversion.convertAttempt, hspan, ih, map_error]

/-- A batch that is converted has no span that fails. -/
theorem Converts.not_fails {spans : List ReadableSpan} {state final : σ}
    {converted : List ZipkinSpan} {failure : Failure}
    (h : Converts source spans state converted final) : ¬Fails source spans state failure := by
  intro hfails
  have hok := result_convertBatch_of_converts h
  rw [result_convertBatch_of_fails hfails] at hok
  cases hok

/-- A batch has a first failing span exactly when its conversion ends with the failure of that span.
-/
theorem fails_iff {spans : List ReadableSpan} {state : σ} {failure : Failure} :
    Fails source spans state failure ↔
      (convertBatch source spans state).result = .error failure := by
  constructor
  · exact result_convertBatch_of_fails
  · intro hresult
    rcases converts_or_fails source spans state with
      ⟨converted, final, hconverts⟩ | ⟨other, hother⟩
    · rw [result_convertBatch_of_converts hconverts] at hresult
      cases hresult
    · rw [result_convertBatch_of_fails hother] at hresult
      exact Except.error.inj hresult ▸ hother

/-- A batch fails in one way at most. -/
theorem Fails.unique {spans : List ReadableSpan} {state : σ} {first second : Failure}
    (h : Fails source spans state first) (h' : Fails source spans state second) :
    first = second := by
  rw [fails_iff] at h h'
  exact Except.error.inj (h.symm.trans h')

/-- What fails in the conversion of a batch is the building of a record or its conversion. -/
theorem Fails.readable_or_conversion {spans : List ReadableSpan} {state : σ} {failure : Failure}
    (h : Fails source spans state failure) :
    (∃ error, failure = .readable error) ∨ ∃ error, failure = .conversion error := by
  induction h with
  | readable _ => exact .inl ⟨_, rfl⟩
  | conversion _ _ => exact .inr ⟨_, rfl⟩
  | later _ _ _ ih => exact ih

/-- A batch is converted to one list of spans. -/
theorem Converts.unique {spans : List ReadableSpan} {state final final' : σ}
    {first second : List ZipkinSpan} (h : Converts source spans state first final)
    (h' : Converts source spans state second final') : first = second := by
  have hok := result_convertBatch_of_converts h
  rw [result_convertBatch_of_converts h'] at hok
  exact (Except.ok.inj hok).symm

/-- The text of the identifier of a span, where there is one. -/
def idText? (span : ReadableSpan) : Option String :=
  span.identity.toOption.map fun identity ↦ spanIdText identity.spanId

/-- The record of a span has the identifier of the span. -/
theorem idText?_of_toRecord {span : ReadableSpan} {record : SpanRecord}
    (h : span.toRecord = .ok record) : idText? span = some record.spanId := by
  obtain ⟨identity, hidentity, hdraft⟩ := ReadableSpan.toRecord_eq_ok_iff_toDraft.1 h
  have hspanId : spanIdText identity.spanId = record.spanId := congrArg SpanDraft.spanId hdraft
  rw [idText?, hidentity, ← hspanId]
  rfl

/-- The converted spans are those of the batch in their order. Each span of the batch has an
identifier therefore. -/
theorem Converts.ids_eq {spans : List ReadableSpan} {state final : σ}
    {converted : List ZipkinSpan} (h : Converts source spans state converted final) :
    converted.map (fun span ↦ some span.id) = spans.map idText? := by
  induction h with
  | nil => rfl
  | cons hrecord hspan _ ih =>
    obtain ⟨-, hid, -⟩ := Conversion.identifiers_of_convert hspan
    rw [List.map_cons, List.map_cons, ih, hid, idText?_of_toRecord hrecord]

/-! ### Notices of a batch -/

/-- An answer that is no address is reported with a warning. -/
theorem level_of_mem_notices_locate {answer : Option String} {span : ZipkinSpan}
    {notice : Notice} (h : notice ∈ (Conversion.locate answer span).2) :
    notice.level = .warning := by
  unfold Conversion.locate at h
  split at h
  · cases h
  split at h
  · cases h
  · obtain rfl := List.mem_singleton.1 h
    rfl

/-- The conversion of one record only warns. -/
theorem level_of_mem_notices_convert {record : SpanRecord} {state : σ} {notice : Notice}
    (h : notice ∈ (Conversion.convert source record state).notices) : notice.level = .warning := by
  unfold Conversion.convert at h
  cases hbare : Conversion.withoutAddress record with
  | error error =>
    rw [hbare] at h
    cases h
  | ok bare =>
    rw [hbare] at h
    cases hask : source.ask state with
    | mk answer next =>
      rw [hask] at h
      cases answer with
      | error error => cases h
      | ok answer => exact level_of_mem_notices_locate h

/-- Conversion only warns; it is the exporter that reports an error. -/
theorem level_of_mem_notices_convertBatch {spans : List ReadableSpan} {state : σ}
    {notice : Notice} (h : notice ∈ (convertBatch source spans state).notices) :
    notice.level = .warning := by
  induction spans generalizing state with
  | nil => cases h
  | cons span spans ih =>
    unfold convertBatch at h ih
    rw [List.map_cons] at h
    cases hrecord : span.toRecord with
    | error error =>
      rw [hrecord] at h
      cases h
    | ok record =>
      simp only [hrecord, mapError_ok, Conversion.convertAll, Conversion.convertAttempt] at h
      cases hspan : (Conversion.convert source record state).result with
      | error error =>
        simp only [hspan, mapError_error] at h
        exact level_of_mem_notices_convert h
      | ok converted =>
        simp only [hspan, mapError_ok] at h
        rcases List.mem_append.1 h with h | h
        · exact level_of_mem_notices_convert h
        · exact ih h

/-- A report with notices before its own. -/
def Report.after (notices : List Notice) (report : Report) : Report :=
  { report with notices := notices ++ report.notices }

@[simp] theorem Report.notices_after (notices : List Notice) (report : Report) :
    (report.after notices).notices = notices ++ report.notices := rfl

/-! ### Text of a batch -/

/-- The console is off, or the spans can be written for it. -/
def CanWrite (exporter : Exporter) (spans : List ZipkinSpan) : Prop :=
  exporter.consoleOutput = true →
    ∃ text, Zipkin.renderConsole exporter.memory exporter.indent spans = .ok text

/-- What the console shows of spans: their one text when it is on. -/
def Shows (exporter : Exporter) (spans : List ZipkinSpan) (printed : Option String) : Prop :=
  if exporter.consoleOutput then
    ∃ text, Zipkin.renderConsole exporter.memory exporter.indent spans = .ok text ∧
      printed = some text
  else printed = none

/-- The text for the console is what the console shows. -/
theorem payload_eq_ok_iff {exporter : Exporter} {spans : List ZipkinSpan}
    {payload : Option String} :
    exporter.payload spans = .ok payload ↔ exporter.Shows spans payload := by
  unfold Exporter.payload Shows
  split
  · exact map_eq_ok_iff.trans (exists_congr fun _ ↦ and_congr mapError_eq_ok_iff eq_comm)
  · rw [Except.ok.injEq]
    exact eq_comm

/-- There is no text for the console only where it is on and the spans cannot be written. -/
theorem payload_eq_error_iff {exporter : Exporter} {spans : List ZipkinSpan} {failure : Failure} :
    exporter.payload spans = .error failure ↔
      exporter.consoleOutput = true ∧
        ∃ error, Zipkin.renderConsole exporter.memory exporter.indent spans = .error error ∧
          failure = .render error := by
  unfold Exporter.payload
  cases exporter.consoleOutput with
  | false => simp
  | true => cases Zipkin.renderConsole exporter.memory exporter.indent spans <;> simp [eq_comm]

/-- Spans that have a text for the console can be written. -/
theorem canWrite_of_payload {exporter : Exporter} {spans : List ZipkinSpan}
    {payload : Option String} (h : exporter.payload spans = .ok payload) :
    exporter.CanWrite spans := by
  intro hconsole
  have hshows := payload_eq_ok_iff.1 h
  rw [Shows, if_pos hconsole] at hshows
  obtain ⟨text, htext, -⟩ := hshows
  exact ⟨text, htext⟩

/-- Spans that have no text for the console cannot be written. -/
theorem not_canWrite_of_payload {exporter : Exporter} {spans : List ZipkinSpan}
    {failure : Failure} (h : exporter.payload spans = .error failure) :
    ¬exporter.CanWrite spans := by
  intro hwrite
  obtain ⟨hconsole, error, herror, -⟩ := payload_eq_error_iff.1 h
  obtain ⟨text, htext⟩ := hwrite hconsole
  rw [htext] at herror
  cases herror

/-! ### Ends of a batch -/

/-- What is wrong with a batch: a span cannot be converted, or the converted spans cannot be
written. -/
inductive Refuses (source : AddressSource σ) (exporter : Exporter) (spans : List ReadableSpan)
    (state : σ) : Failure → Prop where
  | unconverted {failure : Failure} (hfails : Fails source spans state failure) :
    Refuses source exporter spans state failure
  | unwritten {converted : List ZipkinSpan} {final : σ} {failure : Failure} (hspans : spans ≠ [])
      (hconverts : Converts source spans state converted final)
      (hpayload : exporter.payload converted = .error failure) :
    Refuses source exporter spans state failure

/-- Nothing can be wrong with an empty batch. -/
theorem Refuses.ne_nil {exporter : Exporter} {spans : List ReadableSpan} {state : σ}
    {failure : Failure} (h : Refuses source exporter spans state failure) : spans ≠ [] := by
  cases h with
  | unconverted hfails => cases hfails <;> exact List.cons_ne_nil _ _
  | unwritten hspans => exact hspans

/-- A batch with which something is wrong has no converted spans that can be written. -/
theorem Refuses.not_canWrite {exporter : Exporter} {spans : List ReadableSpan} {state final : σ}
    {failure : Failure} {converted : List ZipkinSpan}
    (h : Refuses source exporter spans state failure)
    (hconverts : Converts source spans state converted final) : ¬exporter.CanWrite converted := by
  cases h with
  | unconverted hfails => exact absurd hfails hconverts.not_fails
  | unwritten _ hother hpayload =>
    rw [hconverts.unique hother]
    exact not_canWrite_of_payload hpayload

/-- One thing is wrong with a batch at most. -/
theorem Refuses.unique {exporter : Exporter} {spans : List ReadableSpan} {state : σ}
    {first second : Failure} (h : Refuses source exporter spans state first)
    (h' : Refuses source exporter spans state second) : first = second := by
  cases h with
  | unconverted hfails =>
    cases h' with
    | unconverted hother => exact hfails.unique hother
    | unwritten _ hconverts => exact absurd hfails hconverts.not_fails
  | unwritten _ hconverts hpayload =>
    cases h' with
    | unconverted hfails => exact absurd hfails hconverts.not_fails
    | unwritten _ hother hpayload' =>
      rw [hother.unique hconverts, hpayload] at hpayload'
      exact Except.error.inj hpayload'

/-- The ways in which a batch can end: it comes after the end of the exporter, it is empty,
something is wrong with it, or it is delivered. -/
inductive Ends (source : AddressSource σ) (exporter : Exporter) (spans : List ReadableSpan)
    (state : σ) : Report → Prop where
  | late (hshut : exporter.isShutDown = true) :
    Ends source exporter spans state
      { result := .failure, notices := [.alreadyShutDown spans.length] }
  | empty (hopen : exporter.isShutDown = false) (hspans : spans = []) :
    Ends source exporter spans state { result := .success }
  | refused {failure : Failure} {warnings : List Notice} (hopen : exporter.isShutDown = false)
      (hrefuses : Refuses source exporter spans state failure)
      (hwarnings : ∀ notice ∈ warnings, notice.level = .warning) :
    Ends source exporter spans state ((refuse spans.length failure).after warnings)
  | delivered {converted : List ZipkinSpan} {final : σ} {payload : Option String}
      {warnings : List Notice} (hopen : exporter.isShutDown = false) (hspans : spans ≠ [])
      (hconverts : Converts source spans state converted final)
      (hpayload : exporter.payload converted = .ok payload)
      (hwarnings : ∀ notice ∈ warnings, notice.level = .warning) :
    Ends source exporter spans state ((exporter.deliver converted payload).after warnings)

/-- Every batch ends in one of these ways. -/
theorem ends_exportBatch (source : AddressSource σ) (exporter : Exporter)
    (spans : List ReadableSpan) (state : σ) :
    Ends source exporter spans state (exportBatch source exporter spans state).1 := by
  unfold exportBatch
  split
  · next hshut => exact .late hshut
  · next hshut =>
    have hopen : exporter.isShutDown = false := Bool.eq_false_iff.2 hshut
    split
    · next hspans => exact .empty hopen (List.isEmpty_iff.1 hspans)
    · next hspans =>
      have hne : spans ≠ [] := fun heq ↦ hspans (List.isEmpty_iff.2 heq)
      have hwarnings : ∀ notice ∈ (convertBatch source spans state).notices,
          notice.level = .warning := fun _ ↦ level_of_mem_notices_convertBatch
      rcases converts_or_fails source spans state with
        ⟨converted, final, hconverts⟩ | ⟨failure, hfails⟩
      · have hresult := result_convertBatch_of_converts hconverts
        unfold convertBatch at hresult
        cases hpayload : exporter.payload converted with
        | error failure =>
          simp only [hresult, hpayload]
          exact .refused hopen (.unwritten hne hconverts hpayload) hwarnings
        | ok payload =>
          simp only [hresult, hpayload]
          exact .delivered hopen hne hconverts hpayload hwarnings
      · have hresult := result_convertBatch_of_fails hfails
        unfold convertBatch at hresult
        simp only [hresult]
        exact .refused hopen (.unconverted hfails) hwarnings

end SpanBridge.Exporter
