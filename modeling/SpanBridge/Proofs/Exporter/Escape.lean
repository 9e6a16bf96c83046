import SpanBridge.Proofs.Exporter.Run
import SpanBridge.Proofs.Pipeline

/-!
# Failures that escape from a batch

A batch reports a failure of its own, unless the failure is of a category that it passes on to its
caller. Five kinds of failure escape so: a span without a context, a span without a kind, a source
that is unavailable, and an indent that fits no word or no memory (`escapes_readable_iff`,
`escapes_conversion_iff`, `escapes_render_iff`). A batch ends with success or failure except when
one of them is the first thing that is wrong with it (`batch_ends_unless_escape`), and all else that
is wrong with it is reported once.
-/

set_option autoImplicit false
set_option relaxedAutoImplicit false

namespace SpanBridge.Exporter

variable {σ : Type}

/-! ### Which failures escape -/

/-- A failure that a batch does not report but passes on. -/
def Escapes (failure : Failure) : Prop := failsBatch failure.category = false

/-- Of the failures to build a record only the one for a missing context escapes. -/
theorem escapes_readable_iff {error : ReadableError} :
    Escapes (.readable error) ↔ error = .missingContext := by
  cases error with
  | missingContext => exact iff_of_true rfl rfl
  | missingIdentifier | record cause => exact iff_of_false nofun nofun

/-- Of the failures to convert a record those for a missing kind and for an unavailable source
escape. -/
theorem escapes_conversion_iff {error : ConversionError} :
    Escapes (.conversion error) ↔
      error = .missingKind ∨ ∃ message, error = .source (.unavailable message) := by
  cases error with
  | missingKind => exact iff_of_true rfl (.inl rfl)
  | source cause => cases cause <;> simp [Escapes, failsBatch, Failure.category,
      ConversionError.category, SourceError.category, Category.isInvalid]
  | _ cause => cases cause <;> simp [Escapes, failsBatch, Failure.category,
      ConversionError.category, AttributeError.category, Category.isInvalid]

/-- Of the failures to write spans those for the indent escape. -/
theorem escapes_render_iff {error : Zipkin.RenderError} :
    Escapes (.render error) ↔ error = .indentOutOfRange ∨ error = .indentTooLarge := by
  cases error with
  | address | indentOutOfRange | indentTooLarge =>
    simp [Escapes, failsBatch, Failure.category, Zipkin.RenderError.category, Category.isInvalid]
  | encode cause => cases cause <;> simp [Escapes, failsBatch, Failure.category,
      Zipkin.RenderError.category, Category.isInvalid]

/-- A failure that escapes is not reported. -/
theorem refuse_of_escapes {spans : Nat} {failure : Failure} (h : Escapes failure) :
    refuse spans failure = { result := .escaped failure } :=
  if_neg (Bool.eq_false_iff.1 h)

/-- A failure that does not escape fails the batch and is reported. -/
theorem refuse_of_not_escapes {spans : Nat} {failure : Failure} (h : ¬Escapes failure) :
    refuse spans failure =
      { result := .failure, notices := [.conversionFailed spans failure.message] } :=
  if_pos (Bool.eq_true_of_not_eq_false h)

/-! ### What is wrong with a batch -/

/-- Something is wrong with a batch that is not reported: the first span that cannot be converted
has no context, has no kind or finds the source unavailable, or all spans are converted for a
console whose indent does not fit. -/
def HasEscape (source : AddressSource σ) (exporter : Exporter) (spans : List ReadableSpan)
    (state : σ) : Prop :=
  Fails source spans state (.readable .missingContext) ∨
    Fails source spans state (.conversion .missingKind) ∨
    (∃ message, Fails source spans state (.conversion (.source (.unavailable message)))) ∨
    (spans ≠ [] ∧ exporter.consoleOutput = true ∧
      ∃ converted final, Converts source spans state converted final ∧
        ¬Zipkin.IndentFits (exporter.memory converted) exporter.indent)

/-- Converted spans are located, so that their addresses can be written. -/
theorem Converts.isLocated {source : AddressSource σ} {spans : List ReadableSpan}
    {state final : σ} {converted : List ZipkinSpan}
    (h : Converts source spans state converted final) :
    ∀ span ∈ converted, span.localEndpoint.IsLocated := by
  induction h with
  | nil => exact fun span hspan ↦ absurd hspan List.not_mem_nil
  | cons _ hspan _ ih =>
    exact List.forall_mem_cons.2
      ⟨fun _ hip _ ↦ Conversion.exists_address_of_convert hspan hip, ih⟩

/-- A failure that escapes has one of the causes that are named. -/
theorem hasEscape_of_escapes {source : AddressSource σ} {exporter : Exporter}
    {spans : List ReadableSpan} {state : σ} {failure : Failure}
    (h : Refuses source exporter spans state failure) (hescapes : Escapes failure) :
    HasEscape source exporter spans state := by
  cases h with
  | unconverted hfails =>
    obtain ⟨error, rfl⟩ | ⟨error, rfl⟩ := hfails.readable_or_conversion
    · obtain rfl := escapes_readable_iff.1 hescapes
      exact .inl hfails
    · rcases escapes_conversion_iff.1 hescapes with rfl | ⟨message, rfl⟩
      · exact .inr (.inl hfails)
      · exact .inr (.inr (.inl ⟨message, hfails⟩))
  | @unwritten converted _ _ hspans hconverts hpayload =>
    obtain ⟨hconsole, error, herror, rfl⟩ := payload_eq_error_iff.1 hpayload
    have hindent : ¬Zipkin.IndentFits (exporter.memory converted) exporter.indent := by
      rcases Zipkin.render_eq_error hconverts.isLocated herror with
        ⟨-, hindent⟩ | ⟨⟨cause, rfl⟩, -⟩
      · exact hindent
      · exact absurd (escapes_render_iff.1 hescapes) (by simp)
    exact .inr (.inr (.inr ⟨hspans, hconsole, _, _, hconverts, hindent⟩))

/-- Each of the causes that are named lets a failure escape. -/
theorem HasEscape.exists_escapes {source : AddressSource σ} {exporter : Exporter}
    {spans : List ReadableSpan} {state : σ} (h : HasEscape source exporter spans state) :
    ∃ failure, Refuses source exporter spans state failure ∧ Escapes failure := by
  rcases h with hcontext | hkind | ⟨message, hsource⟩ |
    ⟨hspans, hconsole, converted, final, hconverts, hindent⟩
  · exact ⟨_, .unconverted hcontext, escapes_readable_iff.2 rfl⟩
  · exact ⟨_, .unconverted hkind, escapes_conversion_iff.2 (.inl rfl)⟩
  · exact ⟨_, .unconverted hsource, escapes_conversion_iff.2 (.inr ⟨message, rfl⟩)⟩
  · cases hrender : Zipkin.renderConsole exporter.memory exporter.indent converted with
    | ok text =>
      obtain ⟨value, -, hrest⟩ := bind_eq_ok_iff.1 hrender
      obtain ⟨layout, hlayout, -⟩ := bind_eq_ok_iff.1 hrest
      exact absurd (Zipkin.exists_layoutFor_iff.1 ⟨layout, hlayout⟩) hindent
    | error error =>
      have hpayload := payload_eq_error_iff.2 ⟨hconsole, error, hrender, rfl⟩
      refine ⟨_, .unwritten hspans hconverts hpayload, escapes_render_iff.2 ?_⟩
      rcases Zipkin.render_eq_error hconverts.isLocated hrender with ⟨herror, -⟩ | ⟨-, hfits⟩
      · exact herror
      · exact absurd hfits hindent

/-! ### How a batch ends -/

/-- An open exporter refuses a batch with which something is wrong. -/
theorem Refuses.exists_report {source : AddressSource σ} {exporter : Exporter}
    {spans : List ReadableSpan} {state : σ} {failure : Failure}
    (h : Refuses source exporter spans state failure) (hopen : exporter.isShutDown = false) :
    ∃ warnings, (∀ notice ∈ warnings, notice.level = .warning) ∧
      (exportBatch source exporter spans state).1 =
        (refuse spans.length failure).after warnings := by
  have hends := ends_exportBatch source exporter spans state
  generalize (exportBatch source exporter spans state).1 = report at hends
  cases hends with
  | late hshut =>
    rw [hopen] at hshut
    cases hshut
  | empty _ hspans => exact absurd hspans h.ne_nil
  | refused _ hother hwarnings => exact ⟨_, hwarnings, by rw [h.unique hother]⟩
  | delivered _ _ hconverts hpayload =>
    exact absurd (canWrite_of_payload hpayload) (h.not_canWrite hconverts)

/-- What an open exporter does not refuse succeeds, and what comes too late fails. -/
theorem returns_of_not_refuses {source : AddressSource σ} {exporter : Exporter}
    {spans : List ReadableSpan} {state : σ}
    (h : exporter.isShutDown = true ∨ ¬∃ failure, Refuses source exporter spans state failure) :
    (exportBatch source exporter spans state).1.result = .success ∨
      (exportBatch source exporter spans state).1.result = .failure := by
  have hends := ends_exportBatch source exporter spans state
  generalize (exportBatch source exporter spans state).1 = report at hends ⊢
  cases hends with
  | late => exact .inr rfl
  | empty => exact .inl rfl
  | refused hopen hrefuses =>
    rcases h with hshut | hnone
    · rw [hopen] at hshut
      cases hshut
    · exact absurd ⟨_, hrefuses⟩ hnone
  | delivered => exact .inl (result_deliver _ _ _)

/-- What is wrong with a batch and does not escape fails the batch. It is the one error reported. -/
theorem Refuses.fails_with_one_error {source : AddressSource σ} {exporter : Exporter}
    {spans : List ReadableSpan} {state : σ} {failure : Failure}
    (h : Refuses source exporter spans state failure) (hopen : exporter.isShutDown = false)
    (hquiet : ¬HasEscape source exporter spans state) :
    (exportBatch source exporter spans state).1.result = .failure ∧
      (exportBatch source exporter spans state).1.notices.filter (·.level = .error) =
        [.conversionFailed spans.length failure.message] := by
  obtain ⟨warnings, hwarnings, heq⟩ := h.exists_report hopen
  rw [heq, refuse_of_not_escapes fun hescapes ↦ hquiet (hasEscape_of_escapes h hescapes)]
  have hnone : warnings.filter (·.level = .error) = [] := by
    rw [List.filter_eq_nil_iff]
    intro notice hnotice
    simp [hwarnings notice hnotice]
  exact ⟨rfl, by rw [Report.notices_after, List.filter_append, hnone]; rfl⟩

/-- A batch of a run ends with success or failure unless it comes to an open exporter and a failure
escapes from it. Whatever else is wrong with a batch fails it and is reported in one error. -/
theorem batch_ends_unless_escape {source : AddressSource σ} {exporter : Exporter} {state : σ}
    {uses : List Step} {entry : Moment σ} {spans : List ReadableSpan}
    (h : entry ∈ history source exporter state uses) (huse : entry.use = .batch spans) :
    ((entry.report.result = .success ∨ entry.report.result = .failure) ↔
        entry.exporter.isShutDown = true ∨ ¬HasEscape source entry.exporter spans entry.state) ∧
      ∀ failure, entry.exporter.isShutDown = false →
        Refuses source entry.exporter spans entry.state failure →
        ¬HasEscape source entry.exporter spans entry.state →
        entry.report.result = .failure ∧
          entry.report.notices.filter (·.level = .error) =
            [.conversionFailed spans.length failure.message] := by
  have hreport : entry.report = (exportBatch source entry.exporter spans entry.state).1 := by
    rw [← moment_of_mem_history h, huse]
    rfl
  rw [hreport]
  refine ⟨⟨?_, ?_⟩, fun failure hopen hrefuses hquiet ↦
    hrefuses.fails_with_one_error hopen hquiet⟩
  · intro hreturns
    by_cases hshut : entry.exporter.isShutDown = true
    · exact .inl hshut
    · refine .inr fun hescape ↦ ?_
      obtain ⟨failure, hrefuses, hescapes⟩ := hescape.exists_escapes
      obtain ⟨warnings, -, heq⟩ := hrefuses.exists_report (Bool.eq_false_iff.2 hshut)
      rw [heq, refuse_of_escapes hescapes] at hreturns
      rcases hreturns with hsuccess | hfailure
      · cases hsuccess
      · cases hfailure
  · intro hquiet
    by_cases hrefuses : entry.exporter.isShutDown = false ∧
        ∃ failure, Refuses source entry.exporter spans entry.state failure
    · obtain ⟨hopen, failure, hrefuses⟩ := hrefuses
      have hnone := hquiet.resolve_left (Bool.eq_false_iff.1 hopen)
      exact .inr (hrefuses.fails_with_one_error hopen hnone).1
    · refine returns_of_not_refuses ((Classical.not_and_iff_not_or_not.1 hrefuses).imp_left ?_)
      exact Bool.eq_true_of_not_eq_false

/-- A span of which only the kind and the attributes are given. -/
def plainSpan (kind : Option SpanKind) (attributes : Mapping) : ReadableSpan where
  name := "op"
  context := some ⟨some 1, some 2⟩
  kind
  attributes := some attributes

/-- The batch of a span with an attribute that has no text. -/
def nestedBatch : List ReadableSpan :=
  [plainSpan (some .server) (Mapping.empty.insert (.str "k") (.list [.list []]))]

/-- A value of no kind fails its batch and is reported with the text that conversion gives for it.
-/
theorem nestedBatch_fails :
    (moment (.constant none) {} () (.batch nestedBatch)).report.result = .failure ∧
      (moment (.constant none) {} () (.batch nestedBatch)).report.notices.filter
          (·.level = .error) =
        [.conversionFailed 1 "Unsupported attribute value type: list"] := by
  have hfails : Fails (.constant none) nestedBatch ()
      (.conversion (.attribute (.unsupportedType "list"))) :=
    fails_iff.2 (by decide +kernel)
  have hquiet : ¬HasEscape (.constant none) {} nestedBatch () := by
    rintro (hcontext | hkind | ⟨message, hsource⟩ | ⟨-, -, converted, final, hconverts, -⟩)
    · cases hfails.unique hcontext
    · cases hfails.unique hkind
    · cases hfails.unique hsource
    · exact hconverts.not_fails hfails
  have hmem : moment (.constant none) {} () (.batch nestedBatch) ∈
      history (.constant none) {} () [.batch nestedBatch] := List.mem_cons_self
  exact (batch_ends_unless_escape hmem rfl).2 _ rfl (.unconverted hfails) hquiet

/-- A span without a context, a span without a kind, a source that is unavailable, and an indent
beyond a word or beyond the memory each let a failure escape from a batch. -/
theorem batches_escape :
    (run (.constant none) { consoleOutput := false } ()
        [.batch [{ plainSpan (some .server) .empty with context := none }]]).map (·.1.result) =
        [.escaped (.readable .missingContext)] ∧
      (run (.constant none) { consoleOutput := false } ()
        [.batch [plainSpan none .empty]]).map (·.1.result) =
        [.escaped (.conversion .missingKind)] ∧
      (run .scripted { consoleOutput := false } [.error (.unavailable "no network")]
        [.batch [plainSpan (some .server) .empty]]).map (·.1.result) =
        [.escaped (.conversion (.source (.unavailable "no network")))] ∧
      (run (.constant none) { indent := some 0x8000000000000000 } ()
        [.batch [plainSpan (some .server) .empty]]).map (·.1.result) =
        [.escaped (.render .indentOutOfRange)] ∧
      (run (.constant none) { indent := some 3, memory := .upTo 2 } ()
        [.batch [plainSpan (some .server) .empty]]).map (·.1.result) =
        [.escaped (.render .indentTooLarge)] := by
  decide +kernel

end SpanBridge.Exporter
