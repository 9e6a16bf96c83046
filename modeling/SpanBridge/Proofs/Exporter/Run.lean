import SpanBridge.Proofs.Exporter.Batch

/-!
# Delivery over a run

A run of an exporter is a list of uses. `Exporter.history` keeps with each use the exporter and the
state of the source that it met, and its report. `IsWhole` says of one use that it delivers a batch
as a whole and in order or delivers nothing (`isWhole_step`); `run_delivers_whole_batches` says so
of every use of a run and draws the conclusions for the run: the identifiers that the callbacks
receive are those of the delivered batches one after another, and after the end of the exporter
there are none.
-/

set_option autoImplicit false
set_option relaxedAutoImplicit false

namespace SpanBridge.Exporter

variable {σ : Type}

/-! ### One use -/

/-- A use in a run: the exporter and the state of the source before it, and its report. -/
structure Moment (σ : Type) where
  exporter : Exporter
  state : σ
  use : Step
  report : Report

/-- A report that delivers nothing. -/
def Report.IsSilent (report : Report) : Prop := report.printed = none ∧ report.received = []

/-- A batch is delivered as a whole and in order, or nothing of it is. -/
structure DeliversWhole (source : AddressSource σ) (exporter : Exporter) (state : σ)
    (spans : List ReadableSpan) (report : Report) : Prop where
  success_iff : report.result = .success ↔
    exporter.isShutDown = false ∧
      (spans = [] ∨ ∃ converted final, Converts source spans state converted final ∧
        exporter.CanWrite converted)
  whole : report.result = .success → spans ≠ [] →
    ∃ converted final, Converts source spans state converted final ∧
      exporter.Shows converted report.printed ∧
      report.received = if exporter.callback.isSome then converted else []
  nothing : report.result ≠ .success ∨ spans = [] → report.IsSilent

/-- A use delivers a whole batch or nothing. Only a batch can succeed. -/
def Moment.IsWhole (source : AddressSource σ) (moment : Moment σ) : Prop :=
  match moment.use with
  | .batch spans => DeliversWhole source moment.exporter moment.state spans moment.report
  | _ => moment.report.result ≠ .success ∧ moment.report.IsSilent

/-- A batch that is refused does not succeed, whether the failure escapes or not. -/
theorem result_refuse_ne_success (spans : Nat) (failure : Failure) :
    (refuse spans failure).result ≠ .success := by
  unfold refuse
  split <;> exact nofun

/-- A batch that is refused delivers nothing. -/
theorem isSilent_refuse (spans : Nat) (failure : Failure) : (refuse spans failure).IsSilent := by
  unfold refuse
  split <;> exact ⟨rfl, rfl⟩

theorem Report.IsSilent.after {report : Report} (h : report.IsSilent) (notices : List Notice) :
    (report.after notices).IsSilent := h

/-- A batch that is delivered succeeds, whatever the callback rejects. -/
theorem result_deliver (exporter : Exporter) (spans : List ZipkinSpan) (payload : Option String) :
    (exporter.deliver spans payload).result = .success := by
  unfold deliver
  split <;> rfl

theorem printed_deliver (exporter : Exporter) (spans : List ZipkinSpan) (payload : Option String) :
    (exporter.deliver spans payload).printed = payload := by
  unfold deliver
  split <;> rfl

/-- The callback receives all spans of a delivered batch, and nothing where there is none. -/
theorem received_deliver (exporter : Exporter) (spans : List ZipkinSpan)
    (payload : Option String) :
    (exporter.deliver spans payload).received =
      if exporter.callback.isSome then spans else [] := by
  unfold deliver
  split <;> next hcallback => simp [hcallback]

/-- A batch that fails delivers nothing. It comes too late, or something is wrong with it. -/
theorem DeliversWhole.of_failed {source : AddressSource σ} {exporter : Exporter} {state : σ}
    {spans : List ReadableSpan} {report : Report} (hresult : report.result ≠ .success)
    (hsilent : report.IsSilent)
    (hcause : exporter.isShutDown = true ∨
      ∃ failure, Refuses source exporter spans state failure) :
    DeliversWhole source exporter state spans report where
  success_iff := by
    refine iff_of_false hresult ?_
    rintro ⟨hopen, hdeliverable⟩
    rcases hcause with hshut | ⟨failure, hrefuses⟩
    · rw [hopen] at hshut
      cases hshut
    · rcases hdeliverable with hempty | ⟨converted, final, hconverts, hwrite⟩
      · exact hrefuses.ne_nil hempty
      · exact hrefuses.not_canWrite hconverts hwrite
  whole := fun hsuccess ↦ absurd hsuccess hresult
  nothing := fun _ ↦ hsilent

/-- However a batch ends, it is delivered as a whole or not at all. -/
theorem deliversWhole_of_ends {source : AddressSource σ} {exporter : Exporter} {state : σ}
    {spans : List ReadableSpan} {report : Report} (h : Ends source exporter spans state report) :
    DeliversWhole source exporter state spans report := by
  cases h with
  | late hshut => exact .of_failed nofun ⟨rfl, rfl⟩ (.inl hshut)
  | empty hopen hspans =>
    exact {
      success_iff := iff_of_true rfl ⟨hopen, .inl hspans⟩
      whole := fun _ hne ↦ absurd hspans hne
      nothing := fun _ ↦ ⟨rfl, rfl⟩ }
  | refused hopen hrefuses =>
    exact .of_failed (result_refuse_ne_success _ _) ((isSilent_refuse _ _).after _)
      (.inr ⟨_, hrefuses⟩)
  | delivered hopen hspans hconverts hpayload =>
    have hresult := result_deliver exporter
    exact {
      success_iff := iff_of_true (hresult _ _)
        ⟨hopen, .inr ⟨_, _, hconverts, canWrite_of_payload hpayload⟩⟩
      whole := fun _ _ ↦ ⟨_, _, hconverts,
        (printed_deliver exporter _ _).symm ▸ payload_eq_ok_iff.1 hpayload,
        received_deliver exporter _ _⟩
      nothing := by
        rintro (hrefused | hempty)
        · exact absurd (hresult _ _) hrefused
        · exact absurd hempty hspans }

/-- What a use in a run is, whatever came before it. -/
def moment (source : AddressSource σ) (exporter : Exporter) (state : σ) (use : Step) : Moment σ :=
  ⟨exporter, state, use, (step source exporter state use).1⟩

/-- One use of an exporter delivers a whole batch or nothing. -/
theorem isWhole_step (source : AddressSource σ) (exporter : Exporter) (state : σ) (use : Step) :
    (moment source exporter state use).IsWhole source := by
  cases use with
  | batch spans => exact deliversWhole_of_ends (ends_exportBatch source exporter spans state)
  | shutDown | forceFlush | setConsoleOutput | setIndent | setCallback =>
    exact ⟨nofun, rfl, rfl⟩

/-- After a use an exporter is at its end if it was before or if the use ends it. -/
theorem isShutDown_step (source : AddressSource σ) (exporter : Exporter) (state : σ)
    (use : Step) :
    (step source exporter state use).2.1.isShutDown = true ↔
      exporter.isShutDown = true ∨ use = .shutDown := by
  cases use with
  | shutDown => exact iff_of_true rfl (.inr rfl)
  | batch | forceFlush | setConsoleOutput | setIndent | setCallback =>
    exact ⟨.inl, fun h ↦ h.resolve_right nofun⟩

/-! ### Runs -/

/-- The uses of a run with what each of them met and yielded. -/
def history (source : AddressSource σ) (exporter : Exporter) (state : σ) :
    List Step → List (Moment σ)
  | [] => []
  | use :: uses =>
    moment source exporter state use ::
      history source (step source exporter state use).2.1 (step source exporter state use).2.2 uses

theorem history_cons (source : AddressSource σ) (exporter : Exporter) (state : σ) (use : Step)
    (uses : List Step) :
    history source exporter state (use :: uses) =
      moment source exporter state use ::
        history source (step source exporter state use).2.1 (step source exporter state use).2.2
          uses := rfl

/-- The identifiers of the batch that a use delivers to a callback. -/
def Moment.deliveredIds (moment : Moment σ) : List (Option String) :=
  match moment.use with
  | .batch spans =>
    if moment.report.result = .success ∧ moment.exporter.callback.isSome then
      spans.map idText?
    else []
  | _ => []

/-- A history has the uses of its run in their order. -/
theorem use_history (source : AddressSource σ) (exporter : Exporter) (state : σ)
    (uses : List Step) : (history source exporter state uses).map (·.use) = uses := by
  induction uses generalizing exporter state with
  | nil => rfl
  | cons use uses ih => exact congrArg (use :: ·) (ih _ _)

/-- A history has the reports of its run in their order. -/
theorem report_history (source : AddressSource σ) (exporter : Exporter) (state : σ)
    (uses : List Step) :
    (history source exporter state uses).map (·.report) =
      (run source exporter state uses).map Prod.fst := by
  induction uses generalizing exporter state with
  | nil => rfl
  | cons use uses ih => exact congrArg (List.cons _) (ih _ _)

/-- Each entry of a history is the use of the exporter and of the state that it met. -/
theorem moment_of_mem_history {source : AddressSource σ} {exporter : Exporter} {state : σ}
    {uses : List Step} {entry : Moment σ} (h : entry ∈ history source exporter state uses) :
    moment source entry.exporter entry.state entry.use = entry := by
  induction uses generalizing exporter state with
  | nil => cases h
  | cons use uses ih =>
    rcases List.mem_cons.1 h with rfl | h
    · rfl
    · exact ih h

/-- Every use in a run delivers a whole batch or nothing. -/
theorem isWhole_of_mem_history {source : AddressSource σ} {exporter : Exporter} {state : σ}
    {uses : List Step} {entry : Moment σ} (h : entry ∈ history source exporter state uses) :
    entry.IsWhole source :=
  moment_of_mem_history h ▸ isWhole_step source entry.exporter entry.state entry.use

/-- An exporter is at its end from the use on that ends it. -/
theorem isShutDown_of_history {source : AddressSource σ} {exporter : Exporter} {state : σ}
    {uses : List Step} {before after : List (Moment σ)} {entry : Moment σ}
    (h : history source exporter state uses = before ++ entry :: after) :
    entry.exporter.isShutDown = true ↔
      exporter.isShutDown = true ∨ .shutDown ∈ before.map (·.use) := by
  induction uses generalizing exporter state before with
  | nil => simp [history] at h
  | cons use uses ih =>
    cases before with
    | nil =>
      obtain ⟨rfl, -⟩ := List.cons.inj h
      exact (or_iff_left List.not_mem_nil).symm
    | cons first before =>
      rw [history_cons, List.cons_append] at h
      obtain ⟨rfl, hrest⟩ := List.cons.inj h
      rw [ih hrest, isShutDown_step, or_assoc, List.map_cons, List.mem_cons]
      exact or_congr_right (or_congr_left eq_comm)

/-- What a callback receives at a use are the spans of the batch that it delivers. -/
theorem Moment.IsWhole.ids_eq {source : AddressSource σ} {moment : Moment σ}
    (h : moment.IsWhole source) :
    moment.report.received.map (fun span ↦ some span.id) = moment.deliveredIds := by
  unfold Moment.IsWhole at h
  unfold Moment.deliveredIds
  split at h
  · next spans huse =>
    by_cases hsuccess : moment.report.result = .success
    · -- The empty batch succeeds too, and is the only one to do so without being delivered.
      by_cases hspans : spans = []
      · rw [(h.nothing (.inr hspans)).2, hspans, List.map_nil, List.map_nil, ite_self]
      · obtain ⟨converted, final, hconverts, -, hreceived⟩ := h.whole hsuccess hspans
        rw [hreceived, apply_ite (List.map fun span : ZipkinSpan ↦ some span.id), List.map_nil,
          hconverts.ids_eq]
        simp only [hsuccess, true_and]
    · rw [(h.nothing (.inl hsuccess)).2, List.map_nil, if_neg fun hboth ↦ hsuccess hboth.1]
  · rw [h.2.2]
    rfl

/-! ### After the end -/

/-- A use of an exporter at its end delivers nothing. -/
theorem Moment.IsWhole.silent {source : AddressSource σ} {moment : Moment σ}
    (h : moment.IsWhole source) (hshut : moment.exporter.isShutDown = true) :
    moment.report.result ≠ .success ∧ moment.report.IsSilent := by
  unfold Moment.IsWhole at h
  split at h
  · have hrefused : moment.report.result ≠ .success := by
      intro hsuccess
      have hopen := (h.success_iff.1 hsuccess).1
      rw [hshut] at hopen
      cases hopen
    exact ⟨hrefused, h.nothing (.inl hrefused)⟩
  · exact h

/-- An exporter at its end stays there and delivers nothing, whatever the uses. -/
theorem silent_of_isShutDown {source : AddressSource σ} {exporter : Exporter} {state : σ}
    {uses : List Step} {entry : Report × σ} (hshut : exporter.isShutDown = true)
    (h : entry ∈ run source exporter state uses) :
    entry.1.result ≠ .success ∧ entry.1.IsSilent := by
  induction uses generalizing exporter state with
  | nil => cases h
  | cons use uses ih =>
    rcases List.mem_cons.1 h with rfl | h
    · exact (isWhole_step source exporter state use).silent hshut
    · exact ih ((isShutDown_step source exporter state use).2 (.inl hshut)) h

/-- From the use on that ends the exporter nothing is delivered. -/
theorem silent_after_shutDown {source : AddressSource σ} {exporter : Exporter} {state : σ}
    {before after : List Step} {entry : Report × σ}
    (h : entry ∈ (run source exporter state (before ++ .shutDown :: after)).drop before.length) :
    entry.1.result ≠ .success ∧ entry.1.IsSilent := by
  induction before generalizing exporter state with
  | nil =>
    rcases List.mem_cons.1 h with rfl | h
    · exact isWhole_step source exporter state .shutDown
    · exact silent_of_isShutDown rfl h
  | cons use before ih => exact ih h

/-! ### Whole runs -/

/-- Every use of a run delivers a whole batch in order or nothing, and no batch is delivered after
the end. The callbacks of a run receive the spans of the delivered batches one batch after another,
and from the end on the run is silent. -/
theorem run_delivers_whole_batches (source : AddressSource σ) (exporter : Exporter) (state : σ)
    (uses : List Step) :
    (history source exporter state uses).map (·.use) = uses ∧
      (history source exporter state uses).map (·.report) =
        (run source exporter state uses).map Prod.fst ∧
      (∀ before entry after, history source exporter state uses = before ++ entry :: after →
        entry.IsWhole source ∧
          (entry.exporter.isShutDown = true ↔
            exporter.isShutDown = true ∨ .shutDown ∈ before.map (·.use))) ∧
      ((run source exporter state uses).flatMap fun entry ↦
          entry.1.received.map fun span ↦ some span.id) =
        (history source exporter state uses).flatMap Moment.deliveredIds ∧
      ∀ before after, uses = before ++ .shutDown :: after →
        ∀ entry ∈ (run source exporter state uses).drop before.length,
          entry.1.result ≠ .success ∧ entry.1.IsSilent := by
  refine ⟨use_history .., report_history .., ?_, ?_, ?_⟩
  · intro before entry after hsplit
    have hmem : entry ∈ history source exporter state uses :=
      hsplit ▸ List.mem_append_right before List.mem_cons_self
    exact ⟨isWhole_of_mem_history hmem, isShutDown_of_history hsplit⟩
  · have hids : (history source exporter state uses).flatMap Moment.deliveredIds =
        ((history source exporter state uses).map (·.report)).flatMap fun report ↦
          report.received.map fun span ↦ some span.id := by
      rw [List.flatMap_map]
      exact List.flatMap_congr fun entry hentry ↦ (isWhole_of_mem_history hentry).ids_eq.symm
    rw [hids, report_history, List.flatMap_map]
  · intro before after hends entry hentry
    subst hends
    exact silent_after_shutDown hentry

end SpanBridge.Exporter
