import SpanBridge.Proofs.Exporter.Escape

/-!
# The console changes nothing else

A batch is written for the console before any of it is delivered, so that a failure to write it
would fail the batch. `Exporter.quiet` keeps the console off. What a use of an exporter yields with
the console off is what it yields with the console on, less what is printed (`step_quiet`), and so
it is with every use of a run (`console_changes_nothing`). The names of attributes must have a
spelling as names of members for this, times must be within the digit limit, and the indent of a
console that is on must fit (`indent_below_word_fails_batch`). The values of attributes may be of
any type: a value is turned into text in the conversion or fails it.
-/

set_option autoImplicit false
set_option relaxedAutoImplicit false

namespace SpanBridge

/-- A span whose attributes have keys that can be names of members, and whose times are within the
digit limit. -/
structure ReadableSpan.IsPrintable (span : ReadableSpan) : Prop where
  keys : ∀ entry ∈ span.presentAttributes.entries, ∃ name, Json.nameOfKey entry.1 = .ok name
  start : Number.WithinLimit span.startTime
  finish : Number.WithinLimit span.finishTime

namespace Exporter

/-! ### Without the console -/

def quiet (exporter : Exporter) : Exporter :=
  { exporter with consoleOutput := false, indent := none }

def Step.quiet : Step → Step
  | .setConsoleOutput _ => .setConsoleOutput false
  | .setIndent _ => .setIndent none
  | use => use

def Report.unprinted (report : Report) : Report := { report with printed := none }

/-- A batch that is refused prints nothing anyway. -/
theorem unprinted_refuse (spans : Nat) (failure : Failure) :
    (refuse spans failure).unprinted = refuse spans failure := by
  unfold refuse
  split <;> rfl

/-- A delivery less what it prints is the delivery with the console off. -/
theorem unprinted_deliver (exporter : Exporter) (spans : List ZipkinSpan)
    (payload : Option String) :
    (exporter.deliver spans payload).unprinted = exporter.quiet.deliver spans none := by
  unfold deliver
  cases hcallback : exporter.callback with
  | none => simp [quiet, hcallback, Report.unprinted]
  | some callback => simp [quiet, hcallback, Report.unprinted]

/-! ### Printable batches -/

/-- The record of a printable span is printable: all else that is printed of it are texts. -/
theorem isPrintable_of_toRecord {span : ReadableSpan} {record : SpanRecord} (h : span.IsPrintable)
    (hrecord : span.toRecord = .ok record) : record.IsPrintable := by
  obtain ⟨identity, -, hdraft⟩ := ReadableSpan.toRecord_eq_ok_iff_toDraft.1 hrecord
  have hname : record.name = .str span.name := (congrArg SpanDraft.name hdraft).symm
  have hattributes : record.attributes = span.presentAttributes :=
    (congrArg SpanDraft.attributes hdraft).symm
  have hscope : record.scope = (span.scope.map ReadableScope.toScope).getD .empty :=
    (congrArg SpanDraft.scope hdraft).symm
  have hstatus : record.status = (span.status.map ReadableStatus.toStatus).getD {} :=
    (congrArg SpanDraft.status hdraft).symm
  have hstart : record.start = span.startTime := (congrArg SpanDraft.start hdraft).symm
  have hfinish : record.finish = span.finishTime := (congrArg SpanDraft.finish hdraft).symm
  exact {
    name := hname ▸ hasDocument_str span.name
    keys := hattributes ▸ h.keys
    scope := by
      rw [hscope]
      cases span.scope with
      | none => exact .empty
      | some scope =>
        refine ⟨hasDocument_str _, Value.HasDocument.orNull ?_⟩
        cases scope.version with
        | none => exact ⟨.null, rfl⟩
        | some version => exact hasDocument_str version
    description := by
      rw [hstatus]
      cases span.status <;> exact hasDocument_str _
    start := hstart ▸ h.start
    finish := hfinish ▸ h.finish }

variable {σ : Type} {source : AddressSource σ}

/-- What printable spans are converted to can be written. -/
theorem Converts.isRenderable {spans : List ReadableSpan} {state final : σ}
    {converted : List ZipkinSpan} (h : Converts source spans state converted final)
    (hspans : ∀ span ∈ spans, span.IsPrintable) : ∀ span ∈ converted, span.IsRenderable := by
  induction h with
  | nil => exact nofun
  | cons hrecord hspan _ ih =>
    obtain ⟨hfirst, hothers⟩ := List.forall_mem_cons.1 hspans
    exact List.forall_mem_cons.2 ⟨Conversion.isRenderable_of_isPrintable
      (isPrintable_of_toRecord hfirst hrecord) hspan, ih hothers⟩

/-- The indent of the console fits for converted spans, if the console is on. -/
def IndentFits (exporter : Exporter) (converted : List ZipkinSpan) : Prop :=
  exporter.consoleOutput = true → Zipkin.IndentFits (exporter.memory converted) exporter.indent

/-- Printable spans that were converted are written exactly where the indent fits. -/
theorem exists_payload_iff {exporter : Exporter} {spans : List ReadableSpan} {state final : σ}
    {converted : List ZipkinSpan} (hspans : ∀ span ∈ spans, span.IsPrintable)
    (hconverts : Converts source spans state converted final) :
    (∃ payload, exporter.payload converted = .ok payload) ↔ exporter.IndentFits converted := by
  have hrender := @Zipkin.exists_render_iff exporter.memory .spaced exporter.indent converted
    (hconverts.isRenderable hspans)
  unfold IndentFits payload
  cases exporter.consoleOutput with
  | false => simp
  | true =>
    rw [if_pos rfl, forall_prop_of_true rfl, ← hrender]
    simp [map_eq_ok_iff, mapError_eq_ok_iff, Zipkin.renderConsole]

/-! ### One use -/

/-- An indent is set that fits for what a batch is converted to, if it is converted. -/
def FitsBatch (source : AddressSource σ) (exporter : Exporter) (spans : List ReadableSpan)
    (state : σ) : Prop :=
  ∀ converted final, Converts source spans state converted final → exporter.IndentFits converted

/-- A batch of printable spans that comes while an indent is set that fits. Other uses are
printable. -/
def IsPrintableUse (source : AddressSource σ) (exporter : Exporter) (use : Step) (state : σ) :
    Prop :=
  ∀ spans, use = .batch spans →
    (∀ span ∈ spans, span.IsPrintable) ∧ FitsBatch source exporter spans state

/-- A batch yields with the console off what it yields otherwise, less what is printed. -/
theorem exportBatch_quiet {exporter : Exporter} {spans : List ReadableSpan} {state : σ}
    (hspans : ∀ span ∈ spans, span.IsPrintable) (hfits : FitsBatch source exporter spans state) :
    exportBatch source exporter.quiet spans state =
      Prod.map Report.unprinted id (exportBatch source exporter spans state) := by
  have hshut : exporter.quiet.isShutDown = exporter.isShutDown := rfl
  unfold exportBatch
  rw [hshut]
  split
  · rfl
  split
  · rfl
  rcases converts_or_fails source spans state with ⟨converted, final, hconverts⟩ | ⟨failure, hfails⟩
  · have hresult := result_convertBatch_of_converts hconverts
    unfold convertBatch at hresult
    obtain ⟨payload, hpayload⟩ :=
      (exists_payload_iff hspans hconverts).2 (hfits converted final hconverts)
    have hquiet : exporter.quiet.payload converted = .ok none := rfl
    simp only [hresult, hpayload, hquiet, ← unprinted_deliver exporter converted payload]
    rfl
  · have hresult := result_convertBatch_of_fails hfails
    unfold convertBatch at hresult
    simp only [hresult]
    rw [← unprinted_refuse]
    rfl

/-- A use with the console off yields what it yields otherwise, less what is printed, and leaves the
exporter and the source the same but for the console. -/
theorem step_quiet {exporter : Exporter} {use : Step} {state : σ}
    (h : IsPrintableUse source exporter use state) :
    step source exporter.quiet state use.quiet =
      Prod.map Report.unprinted (Prod.map quiet id) (step source exporter state use) := by
  cases use with
  | batch spans =>
    obtain ⟨hspans, hfits⟩ := h spans rfl
    show ((exportBatch source exporter.quiet spans state).1, exporter.quiet,
      (exportBatch source exporter.quiet spans state).2) = _
    rw [exportBatch_quiet hspans hfits]
    rfl
  | shutDown | forceFlush | setConsoleOutput | setIndent | setCallback => rfl

/-! ### Runs -/

/-- A run with the console off is the run less what it prints. -/
theorem run_quiet {exporter : Exporter} {state : σ} {uses : List Step}
    (h : ∀ entry ∈ history source exporter state uses,
      IsPrintableUse source entry.exporter entry.use entry.state) :
    run source exporter.quiet state (uses.map Step.quiet) =
      (run source exporter state uses).map (Prod.map Report.unprinted id) := by
  induction uses generalizing exporter state with
  | nil => rfl
  | cons use uses ih =>
    obtain ⟨hfirst, hothers⟩ := List.forall_mem_cons.1 h
    have hstep : step source exporter.quiet state use.quiet =
        Prod.map Report.unprinted (Prod.map quiet id) (step source exporter state use) :=
      step_quiet hfirst
    rw [List.map_cons, run, hstep]
    exact congrArg (List.cons _) (ih hothers)

/-- Keeping the console off changes no batch. -/
theorem quiet_eq_batch_iff {use : Step} {spans : List ReadableSpan} :
    use.quiet = .batch spans ↔ use = .batch spans := by
  cases use <;> simp [Step.quiet]

theorem batch_mem_map_quiet_iff {uses : List Step} {spans : List ReadableSpan} :
    .batch spans ∈ uses.map Step.quiet ↔ .batch spans ∈ uses := by
  simp [List.mem_map, quiet_eq_batch_iff]

/-- At every batch of a run an indent is set that fits, if the batch is converted and the console is
on then. -/
def FitsThroughout (source : AddressSource σ) (exporter : Exporter) (state : σ)
    (uses : List Step) : Prop :=
  ∀ entry ∈ history source exporter state uses, ∀ spans, entry.use = .batch spans →
    FitsBatch source entry.exporter spans entry.state

/-- The batches in the history of a run are batches of the run. -/
theorem batch_mem_of_mem_history {exporter : Exporter} {state : σ} {uses : List Step}
    {entry : Moment σ} {spans : List ReadableSpan}
    (h : entry ∈ history source exporter state uses) (huse : entry.use = .batch spans) :
    .batch spans ∈ uses := by
  rw [← use_history source exporter state uses, ← huse]
  exact List.mem_map_of_mem h

/-- A run of printable batches under indents that fit differs from the one with the console off in
nothing but what is printed. -/
theorem run_quiet_of_fitsThroughout {exporter : Exporter} {state : σ} {uses : List Step}
    (hspans : ∀ spans, .batch spans ∈ uses → ∀ span ∈ spans, span.IsPrintable)
    (hfits : FitsThroughout source exporter state uses) :
    run source exporter.quiet state (uses.map Step.quiet) =
      (run source exporter state uses).map (Prod.map Report.unprinted id) :=
  run_quiet fun entry hentry spans huse ↦
    ⟨hspans spans (batch_mem_of_mem_history hentry huse), hfits entry hentry spans huse⟩

/-- Two runs that differ in nothing but their consoles, one of which may be off, yield the same at
every use but for what they print: the same result, the same spans to the callback, the same notices
and as many questions to the source. The indents of their consoles must fit. Nothing else can keep a
converted batch from being written. -/
theorem console_changes_nothing {exporter exporter' : Exporter} {uses uses' : List Step}
    (hexporter : exporter.quiet = exporter'.quiet)
    (huses : uses.map Step.quiet = uses'.map Step.quiet)
    (hspans : ∀ spans, .batch spans ∈ uses → ∀ span ∈ spans, span.IsPrintable)
    (source : AddressSource σ) (state : σ × Nat) :
    (FitsThroughout source.counted exporter state uses →
      FitsThroughout source.counted exporter' state uses' →
        (run source.counted exporter state uses).map (Prod.map Report.unprinted id) =
          (run source.counted exporter' state uses').map (Prod.map Report.unprinted id)) ∧
    ∀ entry ∈ history source.counted exporter state uses, ∀ spans converted final,
      entry.use = .batch spans → Converts source.counted spans entry.state converted final →
        ((∃ payload, entry.exporter.payload converted = .ok payload) ↔
          entry.exporter.IndentFits converted) := by
  constructor
  · intro hfits hfits'
    have hspans' : ∀ spans, .batch spans ∈ uses' → ∀ span ∈ spans, span.IsPrintable := by
      intro spans hmem
      rw [← batch_mem_map_quiet_iff, ← huses, batch_mem_map_quiet_iff] at hmem
      exact hspans spans hmem
    calc
      (run source.counted exporter state uses).map (Prod.map Report.unprinted id)
      _ = run source.counted exporter.quiet state (uses.map Step.quiet) :=
        (run_quiet_of_fitsThroughout hspans hfits).symm
      _ = run source.counted exporter'.quiet state (uses'.map Step.quiet) := by
        rw [hexporter, huses]
      _ = (run source.counted exporter' state uses').map (Prod.map Report.unprinted id) :=
        run_quiet_of_fitsThroughout hspans' hfits'
  · intro entry hentry spans converted final huse hconverts
    exact exists_payload_iff (hspans spans (batch_mem_of_mem_history hentry huse)) hconverts

/-- A batch of one span with an attribute of any value. -/
def keyedBatch (value : Value) : List ReadableSpan :=
  [plainSpan (some .server) (Mapping.empty.insert (.str "k") value)]

theorem isPrintable_keyedBatch (value : Value) : ∀ span ∈ keyedBatch value, span.IsPrintable := by
  intro span hspan
  obtain rfl := List.mem_singleton.1 hspan
  have hzero : Number.WithinLimit 0 := by decide
  refine ⟨fun entry hentry ↦ ?_, hzero, hzero⟩
  obtain rfl := List.mem_singleton.1 hentry
  exact ⟨"k", rfl⟩

/-- Two batches, of which the second cannot be converted, after a change of the console. -/
def consoleUses (enabled : Bool) : List Step :=
  [.setConsoleOutput enabled, .batch (keyedBatch (.int 1)), .batch (keyedBatch (.map []))]

/-- A batch that is delivered and one that fails yield the same with the console on and off. -/
theorem console_changes_nothing_keyedBatch :
    let exporter : Exporter := { indent := some 2, memory := .upTo 2 }
    (run (AddressSource.constant none).counted exporter ((), 0) (consoleUses true)).map
        (Prod.map Report.unprinted id) =
      (run (AddressSource.constant none).counted exporter ((), 0) (consoleUses false)).map
        (Prod.map Report.unprinted id) ∧
    ∀ entry ∈ history (AddressSource.constant none).counted exporter ((), 0) (consoleUses true),
      ∀ spans converted final, entry.use = .batch spans →
        Converts (AddressSource.constant none).counted spans entry.state converted final →
          ((∃ payload, entry.exporter.payload converted = .ok payload) ↔
            entry.exporter.IndentFits converted) := by
  intro exporter
  have hspans : ∀ spans, .batch spans ∈ consoleUses true → ∀ span ∈ spans, span.IsPrintable := by
    intro spans hmem
    simp only [consoleUses, List.mem_cons, reduceCtorEq, Step.batch.injEq, List.not_mem_nil,
      or_false, false_or] at hmem
    rcases hmem with rfl | rfl <;> exact isPrintable_keyedBatch _
  have hfits : ∀ enabled, FitsThroughout (AddressSource.constant none).counted exporter ((), 0)
      (consoleUses enabled) := by
    intro enabled
    have hindent : Zipkin.IndentFits 2 (some 2) := by
      rintro _ ⟨⟩
      decide
    simp [FitsThroughout, FitsBatch, consoleUses, history, moment, step, IndentFits, exporter,
      Zipkin.Memory.upTo, hindent]
  have huses : (consoleUses true).map Step.quiet = (consoleUses false).map Step.quiet := rfl
  obtain ⟨hruns, hwritten⟩ :=
    console_changes_nothing rfl huses hspans (AddressSource.constant none) ((), 0)
  exact ⟨hruns (hfits true) (hfits false), hwritten⟩

/-- An indent below a word fails a batch that is delivered while the console is off. -/
theorem indent_below_word_fails_batch :
    let batch := keyedBatch (.int 1)
    let indent : Option Int := some (-0x8000000000000001)
    (∀ span ∈ batch, span.IsPrintable) ∧
      (run (.constant none) { indent, consoleOutput := true } () [.batch batch]).map (·.1.result) =
        [.escaped (.render .indentOutOfRange)] ∧
      (run (.constant none) { indent, consoleOutput := false } () [.batch batch]).map (·.1.result) =
        [.success] := by
  exact ⟨isPrintable_keyedBatch _, by decide +kernel, by decide +kernel⟩

end Exporter
end SpanBridge
