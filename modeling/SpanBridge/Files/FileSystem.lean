import SpanBridge.Files.FileFault

/-!
# File systems

A `FileSystem` answers four requests. From them follow `contains`, `read` and `write`, which makes
the directories that lead to a file as far as they are missing. That a directory cannot be made
because it is there already is no failure.
-/

set_option autoImplicit false
set_option relaxedAutoImplicit false

namespace SpanBridge

/-- What answers requests about files. -/
structure FileSystem (m : Type → Type) where
  /-- Whether a directory is at a path. Fails when nothing is there. -/
  isDirectory : Path → m (Except FileFault Bool)
  /-- The content of a file. -/
  content : Path → m (Except FileFault (List UInt8))
  /-- Makes a directory in one that exists. -/
  makeDirectory : Path → m (Except FileFault Unit)
  /-- Replaces a file or makes it in a directory that exists. -/
  put : Path → List UInt8 → m (Except FileFault Unit)

namespace FileSystem

variable {m : Type → Type} [Monad m]

/-- Whether there is something at a path. -/
def contains (system : FileSystem m) (path : Path) : m (Except FileError Bool) := do
  match ← system.isDirectory path with
  | .ok _ => return .ok true
  | .error fault => return if fault.meansAbsent then .ok false else .error ⟨fault, path⟩

/-- The content of the file at a path. -/
def read (system : FileSystem m) (path : Path) : m (Except FileError (List UInt8)) := do
  return (← system.content path).mapError (⟨·, path⟩)

/-- Accepts that a directory could not be made if there is one. -/
def orExisting (system : FileSystem m) (path : Path) :
    Except FileFault Unit → m (Except FileError Unit)
  | .ok () => return .ok ()
  | .error .notFound => return .error ⟨.notFound, path⟩
  | .error fault => do
    match ← system.isDirectory path with
    | .ok true => return .ok ()
    | _ => return .error ⟨fault, path⟩

/-- Makes the directory that names lead to, and those on the way as far as they are missing. The
names are in reverse, the last one first. -/
def ensureDirectory (system : FileSystem m) (root : String) :
    List String → m (Except FileError Unit)
  | [] => return .ok ()
  | name :: above => do
    let path : Path := ⟨root, (name :: above).reverse⟩
    match ← system.makeDirectory path with
    | .error .notFound =>
      match ← ensureDirectory system root above with
      | .error error => return .error error
      | .ok () => system.orExisting path (← system.makeDirectory path)
    | made => system.orExisting path made

/-- Writes a file and makes the directories that lead to it. -/
def write (system : FileSystem m) (path : Path) (content : List UInt8) :
    m (Except FileError Unit) := do
  match ← system.ensureDirectory path.root path.parent.names.reverse with
  | .error error => return .error error
  | .ok () => return (← system.put path content).mapError (⟨·, path⟩)

end FileSystem
end SpanBridge
