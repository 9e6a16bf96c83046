import SpanBridge.Failure
import SpanBridge.Trace.Readable

/-!
# The exporter

An `Exporter` takes finished spans in batches, converts each batch as a whole, writes it to the
console if it is told to, and hands its spans to a callback. `Exporter.step` is one use of it: a
batch, a change of its settings, or its end. A batch that cannot be converted or written is not
delivered at all, and after the end no batch is.
-/

set_option autoImplicit false
set_option relaxedAutoImplicit false

namespace SpanBridge

/-- What receives each converted span. It may reject one with a message. -/
abbrev Callback := ZipkinSpan → Option String

/-- The settings and condition of an exporter, and the memory of its machine. -/
structure Exporter where
  consoleOutput : Bool := true
  indent : Option Int := none
  callback : Option Callback := none
  isShutDown : Bool := false
  memory : Zipkin.Memory := .ample

namespace Exporter

/-- One use of an exporter. -/
inductive Step where
  | batch (spans : List ReadableSpan)
  | shutDown
  | forceFlush
  | setConsoleOutput (enabled : Bool)
  | setIndent (indent : Option Int)
  | setCallback (callback : Option Callback)

/-- How a step ended. -/
inductive Result where
  | success
  | failure
  | flushed
  | done
  | escaped (failure : Failure)
  deriving DecidableEq, Repr

/-- What a step yields: how it ended, the text on the console, the spans that the callback received,
and the notices. -/
structure Report where
  result : Result
  printed : Option String := none
  received : List ZipkinSpan := []
  notices : List Notice := []

/-- Whether a failed conversion fails the batch. Other failures escape to the caller. -/
def failsBatch (category : Category) : Bool := category.isInvalid || category = .wrongType

/-- The text for the console, if there is to be one. -/
def payload (exporter : Exporter) (spans : List ZipkinSpan) : Except Failure (Option String) :=
  if exporter.consoleOutput then
    some <$> (Zipkin.renderConsole exporter.memory exporter.indent spans).mapError Failure.render
  else .ok none

/-- Hands spans to a callback. A rejected span is reported and the next one follows. -/
def rejections (callback : Callback) (spans : List ZipkinSpan) : List Notice :=
  spans.filterMap fun span ↦ (callback span).map (Notice.callbackFailed span.id)

/-- Delivers converted spans and the text for the console. -/
def deliver (exporter : Exporter) (spans : List ZipkinSpan) (payload : Option String) : Report :=
  match exporter.callback with
  | none => { result := .success, printed := payload }
  | some callback =>
    { result := .success, printed := payload, received := spans,
      notices := rejections callback spans }

/-- The report of a batch of a number of spans that failed. -/
def refuse (spans : Nat) (failure : Failure) : Report :=
  if failsBatch failure.category then
    { result := .failure, notices := [.conversionFailed spans failure.message] }
  else { result := .escaped failure }

variable {σ : Type}

/-- Converts and delivers a batch. -/
def exportBatch (source : AddressSource σ) (exporter : Exporter) (spans : List ReadableSpan)
    (state : σ) : Report × σ :=
  if exporter.isShutDown then
    ({ result := .failure, notices := [.alreadyShutDown spans.length] }, state)
  else if spans.isEmpty then ({ result := .success }, state)
  else
    let records := spans.map fun span ↦ span.toRecord.mapError Failure.readable
    let outcome := Conversion.convertAll Failure.conversion source records state
    let report :=
      match outcome.result with
      | .error failure => refuse spans.length failure
      | .ok converted =>
        match exporter.payload converted with
        | .error failure => refuse spans.length failure
        | .ok payload => exporter.deliver converted payload
    ({ report with notices := outcome.notices ++ report.notices }, outcome.state)

/-- One use of an exporter: what it yields, the exporter and the state of the source after it. -/
def step (source : AddressSource σ) (exporter : Exporter) (state : σ) :
    Step → Report × Exporter × σ
  | .batch spans =>
    let (report, next) := exportBatch source exporter spans state
    (report, exporter, next)
  | .shutDown => ({ result := .done }, { exporter with isShutDown := true }, state)
  | .forceFlush => ({ result := .flushed }, exporter, state)
  | .setConsoleOutput enabled =>
    ({ result := .done }, { exporter with consoleOutput := enabled }, state)
  | .setIndent indent => ({ result := .done }, { exporter with indent }, state)
  | .setCallback callback => ({ result := .done }, { exporter with callback }, state)

/-- The reports of uses one after another, each with the state of the source after it. -/
def run (source : AddressSource σ) (exporter : Exporter) (state : σ) :
    List Step → List (Report × σ)
  | [] => []
  | use :: uses =>
    let (report, exporter, state) := step source exporter state use
    (report, state) :: run source exporter state uses

end Exporter
end SpanBridge
