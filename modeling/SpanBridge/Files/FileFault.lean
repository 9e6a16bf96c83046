import SpanBridge.Category
import SpanBridge.Files.Path
import SpanBridge.Text.Quoted

/-!
# Refused requests

A file system refuses a request for a `FileFault`. Most faults have a number of the system besides
their description. A `FileError` is a fault together with the path that the request was about.
-/

set_option autoImplicit false
set_option relaxedAutoImplicit false

namespace SpanBridge

/-- Why a file system refuses a request. -/
inductive FileFault where
  | notFound
  | denied
  | alreadyExists
  | notADirectory
  | isADirectory
  | nameTooLong
  /-- The path holds a character that ends every path. -/
  | nullInPath
  | other (number : Nat) (description : String)
  deriving DecidableEq, Repr

namespace FileFault

/-- The number of a fault of the system. -/
def number? : FileFault → Option Nat
  | .notFound => some 2
  | .denied => some 13
  | .alreadyExists => some 17
  | .notADirectory => some 20
  | .isADirectory => some 21
  | .nameTooLong => some 36
  | .nullInPath => none
  | .other number _ => some number

def description : FileFault → String
  | .notFound => "No such file or directory"
  | .denied => "Permission denied"
  | .alreadyExists => "File exists"
  | .notADirectory => "Not a directory"
  | .isADirectory => "Is a directory"
  | .nameTooLong => "File name too long"
  | .nullInPath => "embedded null byte"
  | .other _ description => description

/-- The fault with a number of the system. -/
def ofNumber (number : Nat) (description : String) : FileFault :=
  let known : List FileFault :=
    [.notFound, .denied, .alreadyExists, .notADirectory, .isADirectory, .nameTooLong]
  (known.find? (·.number? = some number)).getD (.other number description)

/-- Whether a fault tells that nothing is at a path, be it that nothing can be. -/
def meansAbsent : FileFault → Bool
  | .notFound | .notADirectory | .nullInPath => true
  | .denied | .alreadyExists | .isADirectory | .nameTooLong | .other _ _ => false

end FileFault

/-- A refused request: the reason and the path that it was about. -/
structure FileError where
  fault : FileFault
  path : Path
  deriving DecidableEq, Repr

namespace FileError

def message (e : FileError) : String :=
  match e.fault.number? with
  | some number =>
    "[Errno " ++ toString number ++ "] " ++ e.fault.description ++ ": " ++
      Text.quoted e.path.text
  | none => e.fault.description

def category (e : FileError) : Category :=
  match e.fault with
  | .notFound => .missingFile
  | .nullInPath => .invalid
  | _ => .system

end FileError
end SpanBridge
