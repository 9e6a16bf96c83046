/-!
# Paths

A path is a root, which is empty for a path from the working directory, and the names along the way.
Empty names and single points are left out, so that several spellings give one path.
-/

set_option autoImplicit false
set_option relaxedAutoImplicit false

namespace SpanBridge

/-- A path to a file or directory. -/
structure Path where
  root : String
  names : List String
  deriving DecidableEq, Repr

namespace Path

/-- The root of a text: two leading slashes are a root of their own, any other number is one slash.
-/
def rootOf (chars : List Char) : String :=
  match (chars.takeWhile (· = '/')).length with
  | 0 => ""
  | 2 => "//"
  | _ => "/"

def parse (text : String) : Path where
  root := rootOf text.toList
  names := ((text.toList.splitOn '/').map String.ofList).filter fun name ↦
    name ≠ "" && name ≠ "."

def text (path : Path) : String :=
  if path.root = "" && path.names.isEmpty then "."
  else path.root ++ String.intercalate "/" path.names

def parent (path : Path) : Path := { path with names := path.names.dropLast }

end Path
end SpanBridge
