import SpanBridge.Cli.Command
import SpanBridge.Proofs.Json.Nesting
import SpanBridge.Proofs.Otlp.Refusal

/-!
# How reading a text fails

A text that is no JSON is refused as malformed, unless a numeral of too many digits comes first. A
document of the right shape is refused as invalid or read, and a document of another shape is never
read: it fails with an operation on something of the wrong type or out of range, if nothing invalid
comes before. `Pipeline.readSpans_failures` puts these together for texts that are not nested too
deeply and says which exit code the command has for a file with such a text.
`Pipeline.shapes_escape` shows that documents of another shape do end the command with exit code
four.
-/

set_option autoImplicit false
set_option relaxedAutoImplicit false

namespace SpanBridge

/-! ### Categories of failures -/

/-- A failure with a document is one of four sorts. -/
theorem Otlp.OtlpError.category_cases (error : OtlpError) :
    error.category = .invalid ∨
      error.category ∈ [Category.wrongType, .missingOperation, .overflow] := by
  cases error with
  | record error => exact .inl rfl
  | document error =>
    cases error with
    | shape error => cases error <;> simp [category, DocumentError.category, ShapeError.category]
    | _ => exact .inl rfl

/-! ### The command -/

theorem FileTree.isDirectory_of_content {tree : FileTree} {path : Path} {content : List UInt8}
    (h : tree.content path = .ok content) : tree.isDirectory path = .ok false := by
  obtain ⟨place, hplace, hnode⟩ := bind_eq_ok_iff.1 h
  rw [isDirectory, hplace, ok_bind]
  split at hnode
  · next hfile =>
    rw [hfile]
    rfl
  · cases hnode
  · cases hnode

namespace Cli

variable {memory : Zipkin.Memory} {hostName : String} {resolutions : List Resolution}
  {tree : FileTree} {content : List UInt8}

/-- A file that is there is loaded, and nothing is changed. -/
theorem run_load {input : String} (h : tree.content (Path.parse input) = .ok content) :
    (load (.known memory hostName resolutions) input).run tree = pure (spansOf content, tree) := by
  have hdirectory := FileTree.isDirectory_of_content h
  have hcontains : (FileTree.system.contains (Path.parse input)).run tree =
      pure (.ok true, tree) := by
    simp [FileSystem.contains, FileTree.system, hdirectory]
  have hread : (FileTree.system.read (Path.parse input)).run tree = pure (.ok content, tree) := by
    simp [FileSystem.read, FileTree.system, h]
  simp [load, Environment.known, hcontains, hread]

/-- A file whose spans cannot be read ends the command, and nothing is changed. -/
theorem run_execute_of_unread (settings : Settings) {error : RunError}
    (h : tree.content (Path.parse settings.input) = .ok content)
    (herror : spansOf content = .error error) :
    (execute (.known memory hostName resolutions) settings).run tree =
      pure (.failed
        (if settings.verbose then ["Loading trace from: " ++ settings.input] else []) error,
        tree) := by
  simp [execute, run_load h, herror]

end Cli

namespace Pipeline

/-! ### Texts -/

/-- Only a text that is no document is malformed. -/
theorem category_of_malformed {error : Json.ReadError} (h : error.category = .malformed) :
    ∃ fault, error = .malformed fault := by
  cases error with
  | malformed fault => exact ⟨fault, rfl⟩
  | tooManyDigits error => cases h

/-- A failure is one with the text or one with the document that it is. -/
theorem readSpans_eq_error_iff {text : String} {failure : Failure} :
    readSpans text = .error failure ↔
      (∃ error, Json.read text = .error error ∧ failure = .json error) ∨
        ∃ document error, Json.read text = .ok document ∧ Otlp.decode document = .error error ∧
          failure = .otlp error := by
  rw [readSpans, bind_eq_error_iff, mapError_eq_error_iff]
  simp only [mapError_eq_ok_iff, mapError_eq_error_iff]
  constructor
  · rintro (⟨error, herror, rfl⟩ | ⟨document, hdocument, error, herror, rfl⟩)
    · exact .inl ⟨error, herror, rfl⟩
    · exact .inr ⟨document, error, hdocument, herror, rfl⟩
  · rintro (⟨error, herror, rfl⟩ | ⟨document, error, hdocument, herror, rfl⟩)
    · exact .inl ⟨error, herror, rfl⟩
    · exact .inr ⟨document, hdocument, error, herror, rfl⟩

/-- A text that is refused as malformed is not well-formed. -/
theorem not_isWellFormed_of_malformed {text : String} {failure : Failure}
    (h : readSpans text = .error failure) (hcategory : failure.category = .malformed) :
    ¬Json.IsWellFormed text := by
  rcases readSpans_eq_error_iff.1 h with ⟨error, herror, rfl⟩ | ⟨_, error, -, -, rfl⟩
  · obtain ⟨fault, rfl⟩ := category_of_malformed hcategory
    exact Json.not_isWellFormed_of_malformed herror
  · have hmalformed : error.category = .malformed := hcategory
    rcases error.category_cases with hinvalid | hmem
    · rw [hmalformed] at hinvalid
      cases hinvalid
    · rw [hmalformed] at hmem
      exact absurd hmem (by decide)

/-- A text that is not well-formed is refused as malformed, unless a numeral is too long. -/
theorem exists_failure_of_not_isWellFormed {text : String} (h : ¬Json.IsWellFormed text) :
    ∃ failure, readSpans text = .error failure ∧ (failure.category = .malformed ∨
      failure.category = .invalid ∧ ∃ count, Json.HasLongNumeral text.toList count) := by
  rcases Json.malformed_of_not_isWellFormed h with ⟨error, herror⟩ | ⟨count, hcount, herror⟩
  · exact ⟨_, readSpans_eq_error_iff.2 (.inl ⟨_, herror, rfl⟩), .inl rfl⟩
  · exact ⟨_, readSpans_eq_error_iff.2 (.inl ⟨_, herror, rfl⟩), .inr ⟨rfl, count, hcount⟩⟩

/-! ### Documents -/

/-- A failure that is not about something invalid comes from a document of another shape. -/
theorem not_isShaped_of_readSpans {text : String} {failure : Failure}
    (h : readSpans text = .error failure) (hcategory : failure.category.isInvalid = false) :
    ∃ document, Json.read text = .ok document ∧ ¬Otlp.IsShaped document ∧
      failure.category ∈ [Category.wrongType, .missingOperation, .overflow] := by
  rcases readSpans_eq_error_iff.1 h with ⟨error, -, rfl⟩ | ⟨document, error, hread, herror, rfl⟩
  · cases error <;> cases hcategory
  · have hvalid : error.category ≠ .invalid := by
      intro hinvalid
      have hfalse : error.category.isInvalid = false := hcategory
      rw [hinvalid] at hfalse
      cases hfalse
    refine ⟨document, hread, fun hshape ↦ ?_, error.category_cases.resolve_left hvalid⟩
    exact hvalid (Otlp.judges_decode.invalid_of_error herror hshape)

/-- A document without the shape is refused. -/
theorem exists_failure_of_not_isShaped {text : String} {document : Json}
    (h : Json.read text = .ok document) (hshape : ¬Otlp.IsShaped document) :
    ∃ failure, readSpans text = .error failure := by
  cases hdecode : Otlp.decode document with
  | ok records => exact absurd (Otlp.judges_decode.shape_of_ok hdecode) hshape
  | error error => exact ⟨_, readSpans_eq_error_iff.2 (.inr ⟨document, error, h, hdecode, rfl⟩)⟩

/-- The categories that reading can end with. -/
theorem category_of_readSpans {text : String} {failure : Failure}
    (h : readSpans text = .error failure) :
    failure.category ∈
      [Category.malformed, .invalid, .wrongType, .missingOperation, .overflow] := by
  rcases readSpans_eq_error_iff.1 h with ⟨error, -, rfl⟩ | ⟨_, error, -, -, rfl⟩
  · cases error <;> simp [Failure.category, Json.ReadError.category]
  · show error.category ∈ _
    rcases error.category_cases with hinvalid | hmem
    · simp [hinvalid]
    · exact List.mem_cons_of_mem _ (List.mem_cons_of_mem _ hmem)

/-- The command ends with exit code four just for the failures that are not about what is invalid.
-/
theorem exitCode_eq_four_iff {text : String} {failure : Failure}
    (h : readSpans text = .error failure) :
    Cli.exitCode failure.category = 4 ↔ failure.category.isInvalid = false := by
  have hall : ∀ category ∈
      [Category.malformed, .invalid, .wrongType, .missingOperation, .overflow],
      Cli.exitCode category = 4 ↔ category.isInvalid = false := by
    decide
  exact hall failure.category (category_of_readSpans h)

/-! ### Reading a text -/

/-- How reading a text fails that is not nested so deeply that a reader runs out of room. What is
refused as malformed is no JSON, and what is no JSON is refused as malformed or for a numeral of too
many digits. Any failure that is not about something invalid comes from a document of another shape,
which is as shallow as the text, and a document of another shape always fails. The command ends with
exit code four just when a file with this text fails in that way. -/
theorem readSpans_failures {text : String} (hshallow : Json.IsShallow text) :
    (∀ failure, readSpans text = .error failure → failure.category = .malformed →
      ¬Json.IsWellFormed text) ∧
    (¬Json.IsWellFormed text → ∃ failure, readSpans text = .error failure ∧
      (failure.category = .malformed ∨
        failure.category = .invalid ∧ ∃ count, Json.HasLongNumeral text.toList count)) ∧
    (∀ failure, readSpans text = .error failure → failure.category.isInvalid = false →
      ∃ document, Json.read text = .ok document ∧ document.depth ≤ Json.nestingLimit ∧
        ¬Otlp.IsShaped document ∧
        failure.category ∈ [Category.wrongType, .missingOperation, .overflow]) ∧
    (∀ document, Json.read text = .ok document → ¬Otlp.IsShaped document →
      ∃ failure, readSpans text = .error failure) ∧
    ∀ (content : List UInt8) (raw : String) (settings : Cli.Settings) (tree : FileTree)
      (memory : Zipkin.Memory) (hostName : String) (resolutions : List Resolution)
      (failure : Failure),
      tree.content (Path.parse settings.input) = .ok content →
      Text.Utf8.decode content = .ok raw → Text.unifyLineBreaks raw = text →
      readSpans text = .error failure →
      (((Cli.execute (.known memory hostName resolutions) settings).run tree).1.exitCode = 4 ↔
        failure.category.isInvalid = false) := by
  refine ⟨fun failure ↦ not_isWellFormed_of_malformed, exists_failure_of_not_isWellFormed,
    ?shape, fun document ↦ exists_failure_of_not_isShaped, ?command⟩
  case shape =>
    intro failure hfailure hcategory
    obtain ⟨document, hread, hshape, hmem⟩ := not_isShaped_of_readSpans hfailure hcategory
    exact ⟨document, hread, (Json.depth_le_nesting hread).trans hshallow, hshape, hmem⟩
  case command =>
    intro content raw settings tree memory hostName resolutions failure hcontent hraw htext hfailure
    have hspans : Cli.spansOf content = .error (.conversion failure) := by
      rw [Cli.spansOf, hraw, mapError_ok, ok_bind, htext, hfailure, mapError_error]
    rw [Cli.run_execute_of_unread settings hcontent hspans]
    exact exitCode_eq_four_iff hfailure

/-! ### Documents of another shape -/

/-- The text of a document whose list of resources is null. -/
def nullListText : String := "\x7b\"resourceSpans\":null\x7d"

/-- The text of a document with one span, whose members are given. -/
def textOfSpan (members : String) : String :=
  "\x7b\"resourceSpans\":[\x7b\"scopeSpans\":[\x7b\"spans\":[\x7b" ++ members ++
    "\x7d]\x7d]\x7d]\x7d"

/-- The text of a document with a span whose identifiers are numbers. -/
def numericIdText : String := textOfSpan "\"traceId\":10,\"spanId\":11"

/-- The text of a document with a span that starts at an infinite time. -/
def infiniteStartText : String :=
  textOfSpan "\"traceId\":\"0a\",\"spanId\":\"0b\",\"startTimeUnixNano\":1e999"

/-- An infinite time comes from a shallow document of another shape. -/
theorem readSpans_failures_infiniteStart :
    Json.IsShallow infiniteStartText ∧
      ∃ document, Json.read infiniteStartText = .ok document ∧
        document.depth ≤ Json.nestingLimit ∧ ¬Otlp.IsShaped document := by
  have hshallow : Json.IsShallow infiniteStartText := by decide +kernel
  have hfailure : readSpans infiniteStartText =
      .error (.otlp (.document (.shape .infiniteInteger))) := by decide +kernel
  obtain ⟨document, hread, hdepth, hshape, -⟩ :=
    (readSpans_failures hshallow).2.2.1 _ hfailure rfl
  exact ⟨hshallow, document, hread, hdepth, hshape⟩

theorem isWellFormed_of_otlp {text : String} {error : Otlp.OtlpError}
    (h : readSpans text = .error (.otlp error)) : Json.IsWellFormed text := by
  rcases readSpans_eq_error_iff.1 h with ⟨_, -, hfailure⟩ | ⟨document, _, hread, -, -⟩
  · cases hfailure
  · exact Json.isWellFormed_of_read hread

/-- A machine with a file of an ASCII text beside the working directory. -/
def traceFile (text : String) : FileTree where
  nodes := [(["data", "trace.json"], .file (text.toList.map fun c ↦ UInt8.ofNat c.toNat))]
  workingDirectory := ["work"]

theorem traceFile_content (text : String) :
    (traceFile text).content (Path.parse "../data/trace.json") =
      .ok (text.toList.map fun c ↦ UInt8.ofNat c.toNat) := by
  have hpath : Path.parse "../data/trace.json" = ⟨"", ["..", "data", "trace.json"]⟩ := by
    decide +kernel
  have hlocate : (traceFile text).locate ⟨"", ["..", "data", "trace.json"]⟩ =
      .ok ["data", "trace.json"] := by
    rw [FileTree.locate, if_neg (by simp [Path.text]), if_neg (by decide +kernel)]
    rfl
  rw [hpath, FileTree.content, hlocate]
  rfl

/-- A null in place of a list, a number in place of an identifier and an infinite time each make
reading a JSON text fail for a reason other than that it is invalid. -/
theorem shapes_escape :
    (Json.IsWellFormed nullListText ∧
      readSpans nullListText = .error (.otlp (.document (.shape (.notIterable "NoneType"))))) ∧
    (Json.IsWellFormed numericIdText ∧
      readSpans numericIdText = .error (.otlp (.document (.shape (.noSmallLetters "int"))))) ∧
    (Json.IsWellFormed infiniteStartText ∧
      readSpans infiniteStartText = .error (.otlp (.document (.shape .infiniteInteger)))) ∧
    ((Cli.run (.known .ample "host" []) ["../data/trace.json"]).run
      (traceFile nullListText)).1.exitCode = 4 := by
  have hparse : Cli.parse ["../data/trace.json"] =
      .ok ⟨"../data/trace.json", .absent, .absent, false, .absent, false⟩ := rfl
  have hnull : readSpans nullListText =
      .error (.otlp (.document (.shape (.notIterable "NoneType")))) := by decide +kernel
  have hnumber : readSpans numericIdText =
      .error (.otlp (.document (.shape (.noSmallLetters "int")))) := by decide +kernel
  have hinfinite : readSpans infiniteStartText =
      .error (.otlp (.document (.shape .infiniteInteger))) := by decide +kernel
  refine ⟨⟨isWellFormed_of_otlp hnull, hnull⟩, ⟨isWellFormed_of_otlp hnumber, hnumber⟩,
    ⟨isWellFormed_of_otlp hinfinite, hinfinite⟩, ?_⟩
  have hspans : Cli.spansOf (nullListText.toList.map fun c ↦ UInt8.ofNat c.toNat) =
      .error (.conversion (.otlp (.document (.shape (.notIterable "NoneType"))))) := by
    decide +kernel
  rw [Cli.run, hparse]
  dsimp only
  rw [Cli.run_execute_of_unread ⟨"../data/trace.json", .absent, .absent, false, .absent, false⟩
    (traceFile_content nullListText) hspans]
  exact rfl

end Pipeline
end SpanBridge
