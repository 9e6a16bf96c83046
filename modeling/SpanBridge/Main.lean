import SpanBridge.Cli.Command
import SpanBridge.HostTable

/-!
# The program

Carries out a command line on the files of this machine.
-/

set_option autoImplicit false
set_option relaxedAutoImplicit false

namespace SpanBridge.Program

/-- The result of a request, or the reason for which the system refused it. -/
def request {α : Type} (action : IO α) : IO (Except FileFault α) := do
  try
    return .ok (← action)
  catch error =>
    return .error <| match error with
      | .noFileOrDirectory _ _ _ => .notFound
      | .permissionDenied _ number description | .alreadyExists _ number description
      | .inappropriateType _ number description | .invalidArgument _ number description
      | .resourceExhausted _ number description => .ofNumber number.toNat description
      | other => .other 5 (toString other)

/-- The files of this machine. What cannot be read because it is a directory is one. -/
def files : FileSystem IO where
  isDirectory path := do
    match ← request (IO.FS.withFile path.text .read fun handle ↦ handle.read 1) with
    | .ok _ => return .ok false
    | .error .isADirectory => return .ok true
    | .error fault => return .error fault
  content path := request (return (← IO.FS.readBinFile path.text).toList)
  makeDirectory path := request (IO.FS.createDir path.text)
  put path content := request (IO.FS.writeBinFile path.text ⟨content.toArray⟩)

/-- A text of the system, or nothing when there is none. -/
def systemText (path : String) : IO String := do
  match ← request (IO.FS.readFile path) with
  | .ok text => return text
  | .error _ => return ""

/-- The name of this machine and what its host table has for that name. -/
def network : IO (String × List Resolution) := do
  let hostName := (← systemText "/etc/hostname").trimAscii.toString
  let table := HostTable.parse (← systemText "/etc/hosts")
  return (hostName, [table.resolve hostName])

/-- Indents are refused that would take more than some hundred gigabytes a line. -/
def memory : Zipkin.Memory := .upTo 0x4000000000

end SpanBridge.Program

/-- Carries out the command line of the program. -/
def main (arguments : List String) : IO UInt32 := do
  let machine : SpanBridge.Cli.Environment IO :=
    ⟨SpanBridge.Program.files, SpanBridge.Program.network, SpanBridge.Program.memory⟩
  let outcome ← SpanBridge.Cli.run machine arguments
  (← IO.getStdout).putStr outcome.output
  (← IO.getStderr).putStr outcome.errors
  return outcome.exitCode.toUInt32
