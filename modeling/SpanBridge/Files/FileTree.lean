import SpanBridge.Files.FileSystem

/-!
# Trees of files

A `FileTree` holds the files and directories of a machine, by the names that lead to them from the
root, and the working directory. A path without a root starts from the working directory, and the
name `..` leads one directory up, or nowhere else at the root. `FileTree.system` answers requests
from a tree and keeps in it what they change.
-/

set_option autoImplicit false
set_option relaxedAutoImplicit false

namespace SpanBridge

/-- What a name stands for. -/
inductive FileNode where
  | directory
  | file (content : List UInt8)
  deriving DecidableEq, Repr

/-- The files and directories of a machine by the names that lead to them from the root, and the
working directory. -/
structure FileTree where
  nodes : List (List String × FileNode)
  workingDirectory : List String := []
  deriving DecidableEq, Repr

namespace FileTree

/-- What the names lead to from the root. The working directory and all that leads to it are
directories, and so is what leads to something else. -/
def node? (tree : FileTree) (names : List String) : Option FileNode :=
  if names.isPrefixOf tree.workingDirectory then some .directory
  else
    (tree.nodes.lookup names).or
      (if tree.nodes.any fun node ↦ names.isPrefixOf node.1 then some .directory else none)

/-- Puts something where names lead to. -/
def insert (tree : FileTree) (names : List String) (node : FileNode) : FileTree :=
  { tree with nodes := (names, node) :: tree.nodes.filter (·.1 ≠ names) }

/-! ### Finding places -/

/-- The most bytes that a name may have. -/
def nameLimit : Nat := 255

/-- The most bytes that a path may have. -/
def pathLimit : Nat := 4095

/-- Where a path starts. -/
def start (tree : FileTree) (path : Path) : List String :=
  if path.root = "" then tree.workingDirectory else []

/-- Where a name leads to from a directory. -/
def enter (name : String) (directory : List String) : List String :=
  if name = ".." then directory.dropLast else directory ++ [name]

/-- Where names lead to, each from a directory. Whether something is there is left open. -/
def walk (tree : FileTree) : List String → List String → Except FileFault (List String)
  | place, [] => .ok place
  | place, name :: names =>
    match tree.node? place with
    | none => .error .notFound
    | some (.file _) => .error .notADirectory
    | some .directory =>
      if nameLimit < name.utf8ByteSize then .error .nameTooLong
      else walk tree (enter name place) names

/-- The place of a path, by the names that lead to it from the root. -/
def locate (tree : FileTree) (path : Path) : Except FileFault (List String) :=
  if path.text.contains '\x00' then .error .nullInPath
  else if pathLimit < path.text.utf8ByteSize then .error .nameTooLong
  else tree.walk (tree.start path) path.names

/-! ### Requests -/

/-- Whether a directory is at a path. -/
def isDirectory (tree : FileTree) (path : Path) : Except FileFault Bool := do
  match tree.node? (← tree.locate path) with
  | some .directory => return true
  | some (.file _) => return false
  | none => throw .notFound

def content (tree : FileTree) (path : Path) : Except FileFault (List UInt8) := do
  match tree.node? (← tree.locate path) with
  | some (.file content) => return content
  | some .directory => throw .isADirectory
  | none => throw .notFound

/-- Makes a directory in one that exists. -/
def makeDirectory (tree : FileTree) (path : Path) : Except FileFault FileTree := do
  let place ← tree.locate path
  match tree.node? place with
  | some _ => throw .alreadyExists
  | none => return tree.insert place .directory

/-- Replaces the file at a path or makes it. -/
def put (tree : FileTree) (path : Path) (content : List UInt8) : Except FileFault FileTree := do
  let place ← tree.locate path
  match tree.node? place with
  | some .directory => throw .isADirectory
  | _ => return tree.insert place (.file content)

/-- Keeps the changed tree, unless the change was refused. -/
def keep (changed : Except FileFault FileTree) : StateM FileTree (Except FileFault Unit) := do
  match changed with
  | .ok tree =>
    set tree
    return .ok ()
  | .error fault => return .error fault

/-- The file system that a tree is. -/
def system : FileSystem (StateM FileTree) where
  isDirectory path := return (← get).isDirectory path
  content path := return (← get).content path
  makeDirectory path := do keep ((← get).makeDirectory path)
  put path content := do keep ((← get).put path content)

/-! ### Trees and lists of files -/

/-- The files below the working directory with their paths from there. -/
def files (tree : FileTree) : List (String × List UInt8) :=
  tree.nodes.filterMap fun
    | (names, .file content) =>
      if tree.workingDirectory.isPrefixOf names then
        some (String.intercalate "/" (names.drop tree.workingDirectory.length), content)
      else none
    | (_, .directory) => none

/-- A tree of files and directories given by their paths. -/
def ofList (workingDirectory : List String) (nodes : List (String × FileNode)) : FileTree where
  nodes := nodes.map fun node ↦
    let path := Path.parse node.1
    (if path.root = "" then workingDirectory ++ path.names else path.names, node.2)
  workingDirectory

end FileTree
end SpanBridge
