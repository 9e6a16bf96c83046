import SpanBridge.Failure
import SpanBridge.Proofs.AddressSource
import SpanBridge.Proofs.Outcome
import SpanBridge.Proofs.Record
import SpanBridge.Proofs.Tags

/-!
# Which records ask for the address

Drafts are converted in turn, whichever of them fail. A draft asks the source once when nothing is
wrong with it, and not at all when anything is (`convertDrafts_cons`). So the questions of a run are
counted by the results that an answer led to (`state_convertDrafts`), and a draft that fails for a
reason of its own might as well not be there (`convertDrafts_kept`).
-/

set_option autoImplicit false
set_option relaxedAutoImplicit false

namespace SpanBridge.Conversion

variable {σ : Type} (source : AddressSource σ)

/-- The conversion of drafts in turn, with the number of questions to the source. -/
def convertDrafts (drafts : List SpanDraft) (state : σ × Nat) :
    Outcome (σ × Nat) (List (Except Failure ZipkinSpan)) :=
  convertEach Failure.conversion source.counted
    (drafts.map fun draft ↦ draft.check.mapError Failure.record) state

/-- What a draft yields before the source is asked. -/
def bareOf (draft : SpanDraft) : Except Failure ZipkinSpan := do
  let record ← draft.check.mapError Failure.record
  (withoutAddress record).mapError Failure.conversion

/-- A span without an address after the answer of the source. -/
def answered (bare : ZipkinSpan) : SourceAnswer → Except Failure ZipkinSpan × List Notice
  | .ok answer => (.ok (locate answer bare).1, (locate answer bare).2)
  | .error error => (.error (.conversion (.source error)), [])

/-- A result to which an answer of the source led: a span, or the failure of the source. -/
def isAnswered : Except Failure ZipkinSpan → Bool
  | .ok _ | .error (.conversion (.source _)) => true
  | .error _ => false

/-- The answer to a bare span counts as one. -/
theorem isAnswered_answered (bare : ZipkinSpan) (answer : SourceAnswer) :
    isAnswered (answered bare answer).1 = true := by
  cases answer <;> rfl

/-- Nothing that comes before the question fails with the source's error. -/
theorem ne_source_of_withoutAddress {record : SpanRecord} {error : ConversionError}
    (h : withoutAddress record = .error error) (cause : SourceError) : error ≠ .source cause := by
  rintro rfl
  cases hkind : record.kind <;>
    simp [withoutAddress, hkind, bind_eq_error_iff, mapError_eq_error_iff, throw_eq_error,
      pure_eq_ok] at h

/-- Anything that is wrong with a draft itself is not the failure of a source. -/
theorem isAnswered_of_bareOf {draft : SpanDraft} {failure : Failure}
    (h : bareOf draft = .error failure) : isAnswered (.error failure) = false := by
  rcases bind_eq_error_iff.1 h with h | ⟨record, -, h⟩
  · obtain ⟨cause, -, rfl⟩ := mapError_eq_error_iff.1 h
    rfl
  · obtain ⟨error, herror, rfl⟩ := mapError_eq_error_iff.1 h
    rcases error with cause | _ | cause
    · rfl
    · rfl
    · exact absurd rfl (ne_source_of_withoutAddress herror cause)

/-! ### One draft -/

/-- A draft with something wrong leaves the source alone, any other puts one question to it. -/
theorem convertAttempt_draft (draft : SpanDraft) (state : σ × Nat) :
    convertAttempt Failure.conversion source.counted (draft.check.mapError Failure.record) state =
      match bareOf draft with
      | .error failure => ⟨.error failure, [], state⟩
      | .ok bare =>
        let (answer, next) := source.ask state.1
        ⟨(answered bare answer).1, (answered bare answer).2, (next, state.2 + 1)⟩ := by
  unfold bareOf
  cases draft.check with
  | error error => rfl
  | ok record =>
    simp only [mapError_ok, ok_bind, convertAttempt, convert]
    cases withoutAddress record with
    | error error => rfl
    | ok bare =>
      simp only [AddressSource.counted, mapError_ok]
      cases (source.ask state.1).1 with
      | error error => rfl
      | ok answer => rfl

/-- The first draft asks before the others, if it asks at all. -/
theorem convertDrafts_cons (draft : SpanDraft) (drafts : List SpanDraft) (state : σ × Nat) :
    convertDrafts source (draft :: drafts) state =
      match bareOf draft with
      | .error failure =>
        { convertDrafts source drafts state with
          result := .error failure :: (convertDrafts source drafts state).result }
      | .ok bare =>
        let (answer, next) := source.ask state.1
        let others := convertDrafts source drafts (next, state.2 + 1)
        ⟨(answered bare answer).1 :: others.result, (answered bare answer).2 ++ others.notices,
          others.state⟩ := by
  rw [convertDrafts, List.map_cons, convertEach, convertAttempt_draft]
  cases bareOf draft <;> rfl

/-! ### Drafts in a row -/

theorem length_convertDrafts (drafts : List SpanDraft) (state : σ × Nat) :
    (convertDrafts source drafts state).result.length = drafts.length := by
  induction drafts generalizing state with
  | nil => rfl
  | cons draft drafts ih =>
    rw [convertDrafts_cons]
    cases bareOf draft <;> simp [ih]

/-- Drafts are converted in two parts, the second from the state that the first leaves. -/
theorem convertDrafts_append (before later : List SpanDraft) (state : σ × Nat) :
    convertDrafts source (before ++ later) state =
      let first := convertDrafts source before state
      let others := convertDrafts source later first.state
      ⟨first.result ++ others.result, first.notices ++ others.notices, others.state⟩ := by
  induction before generalizing state with
  | nil => rfl
  | cons draft before ih =>
    rw [List.cons_append, convertDrafts_cons, convertDrafts_cons]
    cases bareOf draft with
    | error failure =>
      dsimp only
      rw [ih]
      rfl
    | ok bare =>
      dsimp only
      rw [ih]
      simp only [List.cons_append, List.append_assoc]

/-- The questions of a run are counted by the results that an answer led to. -/
theorem state_convertDrafts (drafts : List SpanDraft) (state : σ) (asked : Nat) :
    let run := convertDrafts source drafts (source.after state asked, asked)
    run.state = (source.after state (asked + run.result.countP isAnswered),
      asked + run.result.countP isAnswered) := by
  induction drafts generalizing asked with
  | nil => rfl
  | cons draft drafts ih =>
    rw [convertDrafts_cons]
    cases hbare : bareOf draft with
    | error failure =>
      have hnot := isAnswered_of_bareOf hbare
      simpa [List.countP_cons, hnot] using ih asked
    | ok bare =>
      have hone := isAnswered_answered bare (source.answer state asked)
      simp only [AddressSource.ask_after, List.countP_cons, hone, if_true]
      rw [ih (asked + 1), Nat.add_right_comm, ← Nat.add_assoc]

/-- The drafts of a run that did not fail for a reason of their own. -/
def kept (drafts : List SpanDraft) (results : List (Except Failure ZipkinSpan)) : List SpanDraft :=
  ((drafts.zip results).filter fun attempt ↦ isAnswered attempt.2).map (·.1)

/-- Without the drafts that fail for a reason of their own, a run differs by their failures only. -/
theorem convertDrafts_kept (drafts : List SpanDraft) (state : σ × Nat) :
    let run := convertDrafts source drafts state
    convertDrafts source (kept drafts run.result) state =
      { run with result := run.result.filter isAnswered } := by
  induction drafts generalizing state with
  | nil => rfl
  | cons draft drafts ih =>
    rw [convertDrafts_cons]
    cases hbare : bareOf draft with
    | error failure =>
      have hnot := isAnswered_of_bareOf hbare
      simpa [kept, List.filter_cons, hnot] using ih state
    | ok bare =>
      have hone := isAnswered_answered bare (source.ask state.1).1
      have hrest := ih ((source.ask state.1).2, state.2 + 1)
      simp only [kept, List.zip_cons_cons, List.filter_cons, hone, if_true, List.map_cons]
        at hrest ⊢
      rw [convertDrafts_cons, hbare]
      simp only
      rw [hrest]

/-- A draft within a run asks once, and gets the next answer, when its result is due to an answer.
It asks not at all when it fails for a reason of its own. So the questions are as many as the
results that are due to an answer, and a run without the other drafts differs by their failures
only. -/
theorem convertDrafts_asks_in_order (source : AddressSource σ) (drafts : List SpanDraft)
    (state : σ) :
    let run := fun drafts ↦ convertDrafts source drafts (state, 0)
    let questions := (run drafts).result.countP isAnswered
    (∀ before draft later, drafts = before ++ draft :: later →
      ∃ result others, (run drafts).result = (run before).result ++ result :: others ∧
        (isAnswered result = true →
          (run (before ++ [draft])).state.2 = (run before).state.2 + 1 ∧
          ∃ bare, bareOf draft = .ok bare ∧
            result = (answered bare (source.answer state (run before).state.2)).1 ∧
            (run (before ++ [draft])).notices = (run before).notices ++
              (answered bare (source.answer state (run before).state.2)).2) ∧
        (isAnswered result = false →
          bareOf draft = result ∧ (run (before ++ [draft])).state = (run before).state ∧
            (run (before ++ [draft])).notices = (run before).notices)) ∧
    (run drafts).state = (source.after state questions, questions) ∧
    (run drafts).result.length = drafts.length ∧
    run (kept drafts (run drafts).result) =
      { run drafts with result := (run drafts).result.filter isAnswered } := by
  intro run questions
  have hstate (drafts : List SpanDraft) : (run drafts).state =
      (source.after state ((run drafts).result.countP isAnswered),
        (run drafts).result.countP isAnswered) := by
    simpa using state_convertDrafts source drafts state 0
  refine ⟨?_, hstate drafts, length_convertDrafts source drafts (state, 0),
    convertDrafts_kept source drafts (state, 0)⟩
  rintro before draft later rfl
  have hask : source.ask (run before).state.1 =
      (source.answer state (run before).state.2,
        source.after state ((run before).state.2 + 1)) := by
    rw [hstate before]
    exact AddressSource.ask_after source state _
  simp only [run] at hask
  simp only [run, convertDrafts_append, convertDrafts_cons]
  cases hbare : bareOf draft with
  | error failure =>
    have hnot := isAnswered_of_bareOf hbare
    refine ⟨_, _, rfl, fun h ↦ ?_, fun _ ↦ ⟨rfl, rfl, List.append_nil _⟩⟩
    exact absurd (h.symm.trans hnot) (by simp)
  | ok bare =>
    simp only [hask]
    refine ⟨_, _, rfl, fun _ ↦ ⟨rfl, bare, rfl, rfl, ?_⟩, fun h ↦ ?_⟩
    · exact congrArg _ (List.append_nil _)
    · exact absurd (h.symm.trans (isAnswered_answered _ _)) (by simp)

def plainDraft : SpanDraft := (taggedRecord (some .server) .empty 0).toDraft

/-- Drafts that are in order after others without an identifier or a kind. -/
def mixedDrafts : List SpanDraft :=
  [{ plainDraft with spanId := "" }, plainDraft, { plainDraft with kind := none }, plainDraft]

/-- The first draft that is in order gets the failure, and the second one the address, whether the
other drafts are there or not. -/
theorem convertDrafts_asks_in_order_mixed :
    let answers : List SourceAnswer := [.error (.unavailable "no network"), .ok (some "192.0.2.7")]
    let run := fun drafts ↦ convertDrafts .scripted drafts (answers, 0)
    (run mixedDrafts).result.map (fun result ↦ result.toOption.map (·.localEndpoint.ip)) =
        [none, none, none, some (some "192.0.2.7")] ∧
      (run mixedDrafts).state = ([.ok (some "192.0.2.7")], 2) ∧
      (run [plainDraft, plainDraft]).result = (run mixedDrafts).result.filter isAnswered ∧
      (run [plainDraft, plainDraft]).state = (run mixedDrafts).state := by
  intro answers run
  obtain ⟨-, hstate, -, hkept⟩ := convertDrafts_asks_in_order .scripted mixedDrafts answers
  have hquestions : (run mixedDrafts).result.countP isAnswered = 2 := by decide +kernel
  have hdrafts : kept mixedDrafts (run mixedDrafts).result = [plainDraft, plainDraft] := by
    decide +kernel
  have hwithout : run [plainDraft, plainDraft] =
      { run mixedDrafts with result := (run mixedDrafts).result.filter isAnswered } :=
    hdrafts ▸ hkept
  refine ⟨by decide +kernel, ?state, by rw [hwithout], by rw [hwithout]⟩
  rw [show (run mixedDrafts).state = _ from hstate, show List.countP _ _ = 2 from hquestions]
  rfl

end SpanBridge.Conversion
