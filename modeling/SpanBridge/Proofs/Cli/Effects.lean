import SpanBridge.Proofs.Cli.Command

/-!
# What a run changes

Everything that can fail before the output does so without touching a file (`run_load_keeps`,
`run_produce_keeps`), and a write that fails leaves all files as they were. So a run that fails
changes and prints nothing, and one that converts delivers its text once: to standard output, or to
the named file and to no other (`run_changes_only_output`).
-/

set_option autoImplicit false
set_option relaxedAutoImplicit false

namespace SpanBridge.Cli

variable (memory : Zipkin.Memory) (hostName : String) (resolutions : List Resolution)

/-! ### Reading and converting -/

/-- An action that keeps the tree ends with the tree with which it began. -/
theorem run_of_respects_eq {α : Type} {action : StateM FileTree α}
    (h : FileTree.Respects (· = ·) action) (tree : FileTree) :
    ∃ result, action.run tree = pure (result, tree) :=
  ⟨(action.run tree).1, Prod.ext rfl (h tree).symm⟩

/-- Loading the input touches no file. -/
theorem respects_load (input : String) :
    FileTree.Respects (· = ·) (load (.known memory hostName resolutions) input) := by
  unfold load
  refine (FileTree.respects_contains _).bind fun contained ↦ ?_
  split
  · exact .pure _
  · exact .pure _
  · refine (FileTree.respects_read _).bind fun content ↦ ?_
    split
    · exact .pure _
    · exact .pure _

/-- Computing the text touches no file. -/
theorem respects_produce (settings : Settings) (spans : List SpanRecord) :
    FileTree.Respects (· = ·) (produce (.known memory hostName resolutions) settings spans) := by
  unfold produce convert
  refine .bind ?_ fun converted ↦ ?_
  · split
    · exact (FileTree.Respects.pure (hostName, resolutions)).bind fun _ ↦ .pure _
    · exact .pure _
  · split
    · exact .pure _
    · exact .pure _

/-! ### Writing -/

/-- A file that is another one than before is the named output file. -/
def ChangesOnly (output : Option String) (before after : FileTree) : Prop :=
  ∀ names, after.file? names ≠ before.file? names →
    ∃ path, output = some path ∧ path ≠ "" ∧ after.locate (Path.parse path) = .ok names

/-- A run that failed prints nothing, and every file is as it was. -/
def FailsAlone (outcome : Outcome) (before after : FileTree) : Prop :=
  outcome.exitCode ≠ 0 ∧ outcome.output = "" ∧ before.KeepsFiles after

theorem failsAlone_failed (messages : List String) (error : RunError) {before after : FileTree}
    (h : before.KeepsFiles after) : FailsAlone (.failed messages error) before after := by
  refine ⟨?_, rfl, h⟩
  show exitCode error.category ≠ 0
  cases error.category <;> decide

/-- A text is delivered once, or the run fails and every file is as it was. -/
theorem run_deliver_effects (settings : Settings) (messages : List String) (text : String)
    (tree : FileTree) :
    ∃ outcome after,
      (deliver (.known memory hostName resolutions) settings messages text).run tree =
        pure (outcome, after) ∧
      (FailsAlone outcome tree after ∨ outcome.exitCode = 0 ∧
        Delivers settings.output.value? text outcome.output tree after ∧
        ChangesOnly settings.output.value? tree after) := by
  unfold deliver
  generalize settings.output.value? = output
  split
  · exact ⟨_, _, rfl, .inr ⟨rfl, ⟨rfl, rfl⟩, fun _ h ↦ absurd rfl h⟩⟩
  · exact ⟨_, _, rfl, .inr ⟨rfl, ⟨rfl, rfl⟩, fun _ h ↦ absurd rfl h⟩⟩
  · next path hne =>
    have hnamed : path ≠ "" := fun hempty ↦ hne (by rw [hempty])
    obtain ⟨prepared, hkeeps, hwritten⟩ :=
      FileTree.exists_prepared_of_write tree (Path.parse path) text.toUTF8.toList
    rw [StateT.run_bind]
    rcases hwritten with ⟨error, hwrite⟩ | ⟨after, hput, hwrite⟩
    · rw [show ((Environment.known memory hostName resolutions).files.write (Path.parse path)
        text.toUTF8.toList).run tree = _ from hwrite]
      exact ⟨_, prepared, rfl, .inl (failsAlone_failed messages _ hkeeps)⟩
    · rw [show ((Environment.known memory hostName resolutions).files.write (Path.parse path)
        text.toUTF8.toList).run tree = _ from hwrite]
      refine ⟨_, after, rfl, .inr ⟨rfl, ?_, fun names hchanged ↦ ⟨path, rfl, hnamed, ?_⟩⟩⟩
      · rw [Delivers]
        · exact ⟨rfl, FileTree.content_of_put hput⟩
        · exact fun hempty ↦ hnamed hempty
      · exact FileTree.locate_of_changed_by_put hput (hkeeps names ▸ hchanged)

/-- What the settings ask for fails alone, or the text that was computed is delivered. -/
theorem run_execute_effects (settings : Settings) (tree : FileTree) :
    ∃ outcome after,
      (execute (.known memory hostName resolutions) settings).run tree = pure (outcome, after) ∧
      (FailsAlone outcome tree after ∨ outcome.exitCode = 0 ∧ ∃ spans text,
        (load (.known memory hostName resolutions) settings.input).run tree =
          pure (.ok spans, tree) ∧
        (produce (.known memory hostName resolutions) settings spans).run tree =
          pure (.ok text, tree) ∧
        Delivers settings.output.value? text outcome.output tree after ∧
        ChangesOnly settings.output.value? tree after) := by
  obtain ⟨loaded, hload⟩ :=
    run_of_respects_eq (respects_load memory hostName resolutions settings.input) tree
  unfold execute
  rw [StateT.run_bind, hload, pure_bind]
  cases loaded with
  | error error => exact ⟨_, tree, rfl, .inl (failsAlone_failed _ error (.refl tree))⟩
  | ok spans =>
    obtain ⟨produced, hproduce⟩ :=
      run_of_respects_eq (respects_produce memory hostName resolutions settings spans) tree
    dsimp only
    rw [StateT.run_bind, hproduce, pure_bind]
    cases produced with
    | error error => exact ⟨_, tree, rfl, .inl (failsAlone_failed _ error (.refl tree))⟩
    | ok text =>
      obtain ⟨outcome, after, hdeliver, hends⟩ :=
        run_deliver_effects memory hostName resolutions settings _ text tree
      exact ⟨outcome, after, hdeliver, hends.imp_right fun ⟨hcode, hdelivers, hchanges⟩ ↦
        ⟨hcode, spans, text, rfl, hproduce, hdelivers, hchanges⟩⟩

/-- A run that fails prints nothing and leaves every file as it was, and makes none. A run that
converts has computed its text before anything is changed, and delivers it once: it is printed, or
the named file holds it and no other file is another one than before. -/
theorem run_changes_only_output (memory : Zipkin.Memory) (hostName : String)
    (resolutions : List Resolution) (tree : FileTree) (arguments : List String) :
    ∃ outcome after,
      (run (.known memory hostName resolutions) arguments).run tree = pure (outcome, after) ∧
      (outcome.exitCode ≠ 0 → outcome.output = "" ∧ tree.KeepsFiles after) ∧
      (outcome.exitCode = 0 → ∀ settings, parse arguments = .ok settings → ∃ spans text,
        (load (.known memory hostName resolutions) settings.input).run tree =
          pure (.ok spans, tree) ∧
        (produce (.known memory hostName resolutions) settings spans).run tree =
          pure (.ok text, tree) ∧
        Delivers settings.output.value? text outcome.output tree after ∧
        ChangesOnly settings.output.value? tree after) ∧
      ((∀ settings, parse arguments ≠ .ok settings) → after = tree) := by
  unfold run
  cases hparse : parse arguments with
  | error halt =>
    cases halt with
    | help => exact ⟨_, tree, rfl, fun h ↦ absurd rfl h, fun _ _ ↦ nofun, fun _ ↦ rfl⟩
    | version => exact ⟨_, tree, rfl, fun h ↦ absurd rfl h, fun _ _ ↦ nofun, fun _ ↦ rfl⟩
    | error error => exact ⟨_, tree, rfl, fun _ ↦ ⟨rfl, .refl tree⟩, nofun, fun _ ↦ rfl⟩
  | ok settings =>
    obtain ⟨outcome, after, hrun, hends⟩ :=
      run_execute_effects memory hostName resolutions settings tree
    refine ⟨outcome, after, hrun, fun hcode ↦ ?failed, fun hcode other hother ↦ ?converted,
      fun hnone ↦ absurd rfl (hnone settings)⟩
    case failed =>
      rcases hends with ⟨-, hprinted, hkeeps⟩ | ⟨hzero, -⟩
      · exact ⟨hprinted, hkeeps⟩
      · exact absurd hzero hcode
    case converted =>
      obtain rfl := Except.ok.inj hother
      rcases hends with ⟨hnonzero, -⟩ | ⟨-, hconverted⟩
      · exact absurd hcode hnonzero
      · exact hconverted

end SpanBridge.Cli
