import SpanBridge.Cli.Options
import SpanBridge.Files.FileTree
import SpanBridge.LocalAddress
import SpanBridge.Pipeline
import SpanBridge.Text.LineBreak
import SpanBridge.Text.Utf8

/-!
# The command

`Cli.run` carries out a command line: it reads an OTLP file, converts its spans and writes them to a
file or to standard output. It works in any `Environment` that can read and write files and knows
the network and how much memory there is. A run ends with an `Outcome`; its exit code tells the sort
of failure: a missing file, a text that is no JSON, unacceptable content, or anything else.
-/

set_option autoImplicit false
set_option relaxedAutoImplicit false

namespace SpanBridge.Cli

/-! ### Texts -/

def programName : String := "otel2zipkin"

def programVersion : String := "0.1.0"

def lines (texts : List String) : String := String.join (texts.map (· ++ "\n"))

def usageText : String := lines [
  "usage: otel2zipkin [-h] [-o OUTPUT] [--local-ip LOCAL_IP | --detect-local-ip]",
  "                   [--indent INDENT] [-v] [--version]",
  "                   input_file"]

/-- What the command does and what its options mean. -/
def helpText : String := usageText ++ lines [
  "",
  "Convert OpenTelemetry OTLP/JSON traces into Zipkin v2 JSON spans",
  "",
  "positional arguments:",
  "  input_file            Path to the input trace file (OTLP/JSON format)",
  "",
  "options:",
  "  -h, --help            show this help message and exit",
  "  -o OUTPUT, --output OUTPUT",
  "                        Output file path (defaults to stdout)",
  "  --local-ip LOCAL_IP   IP address to record on every span's local endpoint",
  "  --detect-local-ip     Record this host's own IP address on every span's",
  "                        local endpoint",
  "  --indent INDENT       Indent the JSON output by this many spaces (default:",
  "                        compact)",
  "  -v, --verbose         Enable verbose output",
  "  --version             show program's version number and exit",
  "",
  "Example: otel2zipkin trace.json -o zipkin.json --indent 2"]

/-! ### Failures -/

/-- Why a run fails once its command line is understood. -/
inductive RunError where
  | missingInput (path : String)
  | file (error : FileError)
  | encoding (error : Text.Utf8.DecodeError)
  | conversion (failure : Failure)
  /-- An indent is asked for, but not how many spaces. -/
  | blankIndent
  deriving DecidableEq, Repr

def RunError.message : RunError → String
  | .missingInput path => "Input file not found: " ++ path
  | .file error => error.message
  | .encoding error => error.message
  | .conversion failure => failure.message
  | .blankIndent => "can't multiply sequence by non-int of type 'list'"

def RunError.category : RunError → Category
  | .missingInput _ => .missingFile
  | .file error => error.category
  | .encoding _ => .undecodable
  | .conversion failure => failure.category
  | .blankIndent => .wrongType

/-- The exit code for a sort of failure. -/
def exitCode : Category → Nat
  | .missingFile => 1
  | .malformed => 2
  | .invalid | .undecodable => 3
  | .wrongType | .missingOperation | .unknownKey | .overflow | .memory | .system => 4

def RunError.report (error : RunError) : String :=
  let sort := match error.category with
    | .malformed => "Invalid JSON in input file: "
    | .invalid | .undecodable => "Invalid trace format: "
    | _ => ""
  "Error: " ++ sort ++ error.message

/-! ### Running -/

/-- What a run needs of the world around it. -/
structure Environment (m : Type → Type) where
  files : FileSystem m
  /-- The name of this host and what successive lookups of names find. -/
  network : m (String × List Resolution)
  memory : Zipkin.Memory

/-- How a run ends: its exit code and what it writes to standard output and standard error. -/
structure Outcome where
  exitCode : Nat
  output : String
  errors : String
  deriving DecidableEq, Repr

/-- The end of a run that fails after some messages. -/
def Outcome.failed (messages : List String) (error : RunError) : Outcome :=
  ⟨Cli.exitCode error.category, "", lines (messages ++ [error.report])⟩

/-- The spans of a file's content. -/
def spansOf (content : List UInt8) : Except RunError (List SpanRecord) := do
  let text ← (Text.Utf8.decode content).mapError RunError.encoding
  (Pipeline.readSpans (Text.unifyLineBreaks text)).mapError RunError.conversion

variable {m : Type → Type} [Monad m]

/-- Reads the spans of the input file. -/
def load (env : Environment m) (input : String) : m (Except RunError (List SpanRecord)) := do
  let path := Path.parse input
  match ← env.files.contains path with
  | .error error => return .error (.file error)
  | .ok false => return .error (.missingInput input)
  | .ok true =>
    match ← env.files.read path with
    | .error error => return .error (.file error)
    | .ok content => return spansOf content

/-- Converts spans for the host that the settings name. -/
def convert (env : Environment m) (settings : Settings) (spans : List SpanRecord) :
    m (Except Failure (List ZipkinSpan)) := do
  if settings.detectLocalIp then
    let (hostName, resolutions) ← env.network
    let source := LocalAddress.source none (.scripted hostName)
    return (Pipeline.convertSpans source spans { resolver := resolutions }).result
  else
    return (Pipeline.convertSpans (.constant settings.localIp.value?) spans ()).result

/-- The text of converted spans. An indent without a number is refused as soon as every span is
known to have its members. -/
def textOf (memory : Zipkin.Memory) (indent : Setting Int) (spans : List ZipkinSpan) :
    Except RunError String :=
  match indent with
  | .absent => (Pipeline.render memory none spans).mapError RunError.conversion
  | .value spaces => (Pipeline.render memory (some spaces) spans).mapError RunError.conversion
  | .blank => do
    let _ ← (Zipkin.arrayOf spans).mapError fun error ↦ .conversion (.render (.address error))
    throw .blankIndent

/-- The text of the spans after their conversion. -/
def produce (env : Environment m) (settings : Settings) (spans : List SpanRecord) :
    m (Except RunError String) := do
  match ← convert env settings spans with
  | .error failure => return .error (.conversion failure)
  | .ok converted => return textOf env.memory settings.indent converted

/-- Writes a text to a file, or to standard output when no file is named. -/
def deliver (env : Environment m) (settings : Settings) (messages : List String)
    (content : String) : m Outcome := do
  match settings.output.value? with
  | none | some "" => return ⟨0, content ++ "\n", lines messages⟩
  | some output =>
    match ← env.files.write (Path.parse output) content.toUTF8.toList with
    | .error error => return .failed messages (.file error)
    | .ok () =>
      let written := if settings.verbose then ["Output written to: " ++ output] else []
      return ⟨0, "", lines (messages ++ written)⟩

/-- Carries out what the settings ask for. -/
def execute (env : Environment m) (settings : Settings) : m Outcome := do
  let loading := if settings.verbose then ["Loading trace from: " ++ settings.input] else []
  match ← load env settings.input with
  | .error error => return .failed loading error
  | .ok spans =>
    let parsed :=
      if settings.verbose then ["Parsed " ++ toString spans.length ++ " spans"] else []
    match ← produce env settings spans with
    | .error error => return .failed (loading ++ parsed) error
    | .ok content => deliver env settings (loading ++ parsed) content

/-- Carries out a command line. -/
def run (env : Environment m) (arguments : List String) : m Outcome :=
  match parse arguments with
  | .error .help => return ⟨0, helpText, ""⟩
  | .error .version => return ⟨0, lines [programName ++ " " ++ programVersion], ""⟩
  | .error (.error error) =>
    return ⟨2, "", usageText ++ lines [programName ++ ": error: " ++ error.message]⟩
  | .ok settings => execute env settings

/-- A world of known files, a known network and a known memory. -/
def Environment.known (memory : Zipkin.Memory) (hostName : String)
    (resolutions : List Resolution) : Environment (StateM FileTree) where
  files := FileTree.system
  network := return (hostName, resolutions)
  memory

end SpanBridge.Cli
