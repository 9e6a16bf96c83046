import SpanBridge.Files.FileTree
import SpanBridge.Proofs.Outcome

/-!
# What a file system keeps

A file that was written has the content that was written (`FileTree.content_of_write`), whatever
directories had to be made for it. The path to it leads through directories only, and what is put in
a place that is no directory leaves every directory where it is
(`FileTree.node?_insert_of_directory`), so the path leads to the same place afterwards. No other
file is touched: the directories are made without touching any
(`FileTree.respects_ensureDirectory`), and `FileTree.exists_prepared_of_write` tells what a write
that fails leaves behind.
-/

set_option autoImplicit false
set_option relaxedAutoImplicit false

namespace SpanBridge.FileTree

/-- Taking away what names lead to leaves what other names lead to. -/
theorem lookup_filter_ne {names other : List String} (h : other ≠ names)
    (nodes : List (List String × FileNode)) :
    (nodes.filter (·.1 ≠ names)).lookup other = nodes.lookup other := by
  induction nodes with
  | nil => rfl
  | cons node nodes ih =>
    obtain ⟨key, node⟩ := node
    by_cases hkey : key = names
    · have hother : (other == key) = false := by simpa [hkey] using h
      rw [List.filter_cons_of_neg (by simpa using hkey), ih, List.lookup_cons, hother]
    · rw [List.filter_cons_of_pos (by simpa using hkey), List.lookup_cons, List.lookup_cons, ih]

@[simp] theorem workingDirectory_insert (tree : FileTree) (names : List String) (node : FileNode) :
    (tree.insert names node).workingDirectory = tree.workingDirectory := rfl

/-- Every name of a tree is one of the tree with something put into it. -/
theorem exists_mem_insert {tree : FileTree} {found : List String × FileNode}
    (h : found ∈ tree.nodes) (names : List String) (node : FileNode) :
    ∃ other, (found.1, other) ∈ (tree.insert names node).nodes := by
  by_cases hfound : found.1 = names
  · exact ⟨node, List.mem_cons.2 (.inl (by rw [hfound]))⟩
  · exact ⟨found.2, List.mem_cons_of_mem _ (List.mem_filter.2 ⟨h, by simpa using hfound⟩)⟩

/-- What is put in a place that is no directory leaves the directories where they are. -/
theorem node?_insert_of_directory {tree : FileTree} {names : List String} {node : FileNode}
    (hnames : tree.node? names ≠ some .directory) {place : List String}
    (h : tree.node? place = some .directory) :
    (tree.insert names node).node? place = some .directory := by
  have hne : place ≠ names := by
    rintro rfl
    exact hnames h
  have hlookup : (tree.insert names node).nodes.lookup place = tree.nodes.lookup place := by
    rw [insert, List.lookup_cons, beq_false_of_ne hne]
    exact lookup_filter_ne hne _
  unfold node? at h ⊢
  split at h
  · next hworking => exact if_pos hworking
  · next hworking =>
    rw [workingDirectory_insert, if_neg hworking, hlookup]
    rw [Option.or_eq_some_iff] at h ⊢
    refine h.imp id fun ⟨hnone, hprefix⟩ ↦ ⟨hnone, ?_⟩
    obtain ⟨hany, -⟩ := Option.ite_none_right_eq_some.1 hprefix
    obtain ⟨found, hfound, hleads⟩ := List.any_eq_true.1 hany
    obtain ⟨other, hother⟩ := exists_mem_insert hfound names node
    exact if_pos (List.any_eq_true.2 ⟨_, hother, hleads⟩)

/-- What is put in a place that is no directory is found there. -/
theorem node?_insert_self {tree : FileTree} {names : List String} {node : FileNode}
    (hnames : tree.node? names ≠ some .directory) :
    (tree.insert names node).node? names = some node := by
  have hworking : ¬names.isPrefixOf tree.workingDirectory := fun h ↦ hnames (if_pos h)
  rw [node?, workingDirectory_insert, if_neg hworking]
  simp [insert]

/-- A path leads through directories, so it leads to the same place as long as these stay. -/
theorem walk_of_directories {tree tree' : FileTree}
    (hkept : ∀ place, tree.node? place = some .directory → tree'.node? place = some .directory)
    {names start place : List String} (h : tree.walk start names = .ok place) :
    tree'.walk start names = .ok place := by
  induction names generalizing start with
  | nil => exact h
  | cons name names ih =>
    rw [walk] at h ⊢
    split at h
    · cases h
    · cases h
    · next hdirectory =>
      rw [hkept start hdirectory]
      split at h
      · cases h
      · next hlength =>
        rw [if_neg hlength]
        exact ih h

/-- Every path leads to the same place as long as the directories stay and the working directory is
the same. -/
theorem locate_of_directories {tree tree' : FileTree}
    (hworking : tree'.workingDirectory = tree.workingDirectory)
    (hkept : ∀ place, tree.node? place = some .directory → tree'.node? place = some .directory)
    {path : Path} {place : List String} (h : tree.locate path = .ok place) :
    tree'.locate path = .ok place := by
  have hstart : tree'.start path = tree.start path := by rw [start, start, hworking]
  unfold locate at h ⊢
  split at h
  · cases h
  · next hnull =>
    split at h
    · cases h
    · next hlength =>
      rw [if_neg hnull, if_neg hlength, hstart]
      exact walk_of_directories hkept h

/-! ### Files that stay -/

/-- The content of the file that names lead to. -/
def file? (tree : FileTree) (names : List String) : Option (List UInt8) :=
  match tree.node? names with
  | some (.file content) => some content
  | _ => none

/-- Names lead to a file where there is one with this content. -/
theorem file?_eq_some_iff {tree : FileTree} {names : List String} {content : List UInt8} :
    tree.file? names = some content ↔ tree.node? names = some (.file content) := by
  unfold file?
  split
  · next other heq => simp [heq]
  · next hother => exact ⟨nofun, fun h ↦ absurd h (hother content)⟩

/-- Whether a file is at a place, and which, does not depend on other places. -/
theorem node?_eq_file_iff {tree : FileTree} {names : List String} {content : List UInt8} :
    tree.node? names = some (.file content) ↔
      ¬names.isPrefixOf tree.workingDirectory ∧
        tree.nodes.lookup names = some (.file content) := by
  unfold node?
  split
  · next hworking => simp [hworking]
  · next hworking =>
    rw [Option.or_eq_some_iff]
    constructor
    · rintro (h | ⟨-, h⟩)
      · exact ⟨hworking, h⟩
      · cases (Option.ite_none_right_eq_some.1 h).2
    · exact fun h ↦ .inl h.2

/-- What is put at one place leaves the files at the others. -/
theorem file?_insert_of_ne {tree : FileTree} {names other : List String} (h : other ≠ names)
    (node : FileNode) : (tree.insert names node).file? other = tree.file? other := by
  have hlookup : (tree.insert names node).nodes.lookup other = tree.nodes.lookup other := by
    rw [insert, List.lookup_cons, beq_false_of_ne h]
    exact lookup_filter_ne h _
  refine Option.ext fun content ↦ ?_
  rw [file?_eq_some_iff, file?_eq_some_iff, node?_eq_file_iff, node?_eq_file_iff, hlookup,
    workingDirectory_insert]

/-- Every file is as it was, and there is no other one. -/
def KeepsFiles (before after : FileTree) : Prop := ∀ names, after.file? names = before.file? names

theorem KeepsFiles.refl (tree : FileTree) : KeepsFiles tree tree := fun _ ↦ rfl

theorem KeepsFiles.trans {first second third : FileTree} (h : KeepsFiles first second)
    (h' : KeepsFiles second third) : KeepsFiles first third := fun names ↦
  (h' names).trans (h names)

/-- A directory is made where nothing is yet. -/
theorem makeDirectory_eq_ok_iff {tree after : FileTree} {path : Path} :
    tree.makeDirectory path = .ok after ↔
      ∃ names, tree.locate path = .ok names ∧ tree.node? names = none ∧
        after = tree.insert names .directory := by
  unfold makeDirectory
  rw [bind_eq_ok_iff]
  refine exists_congr fun names ↦ and_congr_right fun _ ↦ ?_
  split
  · next hnode => simp [hnode, throw_eq_error]
  · next hnode => simp [hnode, pure_eq_ok, eq_comm]

/-- Making a directory leaves all files as they are. -/
theorem keepsFiles_of_makeDirectory {tree after : FileTree} {path : Path}
    (h : tree.makeDirectory path = .ok after) : KeepsFiles tree after := by
  obtain ⟨names, -, hnode, rfl⟩ := makeDirectory_eq_ok_iff.1 h
  intro other
  by_cases hother : other = names
  · subst hother
    have hfree : tree.node? other ≠ some .directory := by simp [hnode]
    simp only [file?, hnode, node?_insert_self hfree]
  · exact file?_insert_of_ne hother _

/-- A file is put where no directory is. -/
theorem put_eq_ok_iff {tree after : FileTree} {path : Path} {content : List UInt8} :
    tree.put path content = .ok after ↔
      ∃ names, tree.locate path = .ok names ∧ tree.node? names ≠ some .directory ∧
        after = tree.insert names (.file content) := by
  unfold put
  rw [bind_eq_ok_iff]
  refine exists_congr fun names ↦ and_congr_right fun _ ↦ ?_
  split
  · next hnode => simp [hnode, throw_eq_error]
  · next hnode =>
    have hfree : tree.node? names ≠ some .directory := fun h ↦ hnode h
    simp [hfree, pure_eq_ok, eq_comm]

/-- The path still leads to what was put there. -/
theorem locate_of_put {tree after : FileTree} {path : Path} {content : List UInt8}
    (h : tree.put path content = .ok after) :
    ∃ names, after.locate path = .ok names ∧ after = tree.insert names (.file content) ∧
      tree.node? names ≠ some .directory := by
  obtain ⟨names, hplace, hnode, rfl⟩ := put_eq_ok_iff.1 h
  have hkept := locate_of_directories (workingDirectory_insert tree names (.file content))
    (fun _ ↦ node?_insert_of_directory hnode) hplace
  exact ⟨names, hkept, rfl, hnode⟩

/-- What a file system put at a path is found there. -/
theorem content_of_put {tree after : FileTree} {path : Path} {content : List UInt8}
    (h : tree.put path content = .ok after) : after.content path = .ok content := by
  obtain ⟨names, hlocate, rfl, hnode⟩ := locate_of_put h
  rw [FileTree.content, hlocate, ok_bind, node?_insert_self hnode]
  rfl

/-- A file is put into the tree, or the tree stays as it is. -/
theorem run_put (tree : FileTree) (path : Path) (content : List UInt8) :
    (system.put path content).run tree =
      match tree.put path content with
      | .ok next => pure (.ok (), next)
      | .error fault => pure (.error fault, tree) := by
  show (keep (tree.put path content)).run tree = _
  cases tree.put path content <;> rfl

/-- Only the file at the path is another one than before. -/
theorem locate_of_changed_by_put {tree after : FileTree} {path : Path} {content : List UInt8}
    (h : tree.put path content = .ok after) {names : List String}
    (hchanged : after.file? names ≠ tree.file? names) :
    after.locate path = .ok names := by
  obtain ⟨place, hlocate, rfl, -⟩ := locate_of_put h
  have hnames : names = place := by_contra fun hne ↦ hchanged (file?_insert_of_ne hne _)
  rw [hnames]
  exact hlocate

/-! ### Actions -/

/-- An action changes a tree as a relation allows, whatever its result. -/
def Respects {α : Type} (relation : FileTree → FileTree → Prop) (action : StateM FileTree α) :
    Prop :=
  ∀ tree, relation tree (action.run tree).2

variable {α β : Type} {relation : FileTree → FileTree → Prop}

instance : Std.Refl KeepsFiles := ⟨KeepsFiles.refl⟩

instance : IsTrans FileTree KeepsFiles := ⟨fun _ _ _ ↦ KeepsFiles.trans⟩

section
variable [Std.Refl relation]

theorem Respects.pure (result : α) :
    Respects relation (Pure.pure result : StateM FileTree α) := fun tree ↦ Std.Refl.refl tree

theorem respects_isDirectory (path : Path) : Respects relation (system.isDirectory path) :=
  fun tree ↦ Std.Refl.refl tree

theorem respects_content (path : Path) : Respects relation (system.content path) :=
  fun tree ↦ Std.Refl.refl tree

variable [IsTrans FileTree relation]

omit [Std.Refl relation] in
/-- What two actions respect one after another is respected by both together. -/
theorem Respects.bind {action : StateM FileTree α} {next : α → StateM FileTree β}
    (h : Respects relation action) (hnext : ∀ result, Respects relation (next result)) :
    Respects relation (action >>= next) :=
  fun tree ↦ IsTrans.trans _ _ _ (h tree) (hnext _ _)

theorem respects_contains (path : Path) : Respects relation (system.contains path) := by
  refine (respects_isDirectory path).bind fun found ↦ ?_
  cases found with
  | ok => exact .pure _
  | error => exact .pure _

/-- Reading a file changes nothing. -/
theorem respects_read (path : Path) : Respects relation (system.read path) :=
  (respects_content path).bind fun _ ↦ .pure _

theorem respects_orExisting (path : Path) (made : Except FileFault Unit) :
    Respects relation (system.orExisting path made) := by
  unfold FileSystem.orExisting
  split
  · exact .pure _
  · exact .pure _
  · refine (respects_isDirectory path).bind fun found ↦ ?_
    split
    · exact .pure _
    · exact .pure _

end

/-- A request for a directory leaves all files as they are, granted or refused. -/
theorem respects_makeDirectory (path : Path) :
    Respects KeepsFiles (system.makeDirectory path) := by
  intro tree
  show KeepsFiles tree ((keep (tree.makeDirectory path)).run tree).2
  cases hmade : tree.makeDirectory path with
  | error fault => exact .refl tree
  | ok after => exact keepsFiles_of_makeDirectory hmade

/-- The directories on the way to a file are made without touching any file. -/
theorem respects_ensureDirectory (root : String) (names : List String) :
    Respects KeepsFiles (system.ensureDirectory root names) := by
  induction names with
  | nil => exact .pure _
  | cons name above ih =>
    unfold FileSystem.ensureDirectory
    refine (respects_makeDirectory _).bind fun made ↦ ?_
    split
    · refine ih.bind fun ensured ↦ ?_
      split
      · exact .pure _
      · exact (respects_makeDirectory _).bind fun made ↦ respects_orExisting _ made
    · exact respects_orExisting _ _

/-- A file is written last of all: up to there no file is touched. -/
theorem exists_prepared_of_write (tree : FileTree) (path : Path) (content : List UInt8) :
    ∃ prepared, KeepsFiles tree prepared ∧
      ((∃ error, (system.write path content).run tree = pure (.error error, prepared)) ∨
        ∃ after, prepared.put path content = .ok after ∧
          (system.write path content).run tree = pure (.ok (), after)) := by
  have hkeeps := respects_ensureDirectory path.root path.parent.names.reverse tree
  unfold FileSystem.write
  rw [StateT.run_bind]
  generalize (system.ensureDirectory path.root path.parent.names.reverse).run tree = ensured
    at hkeeps
  obtain ⟨made, prepared⟩ := ensured
  refine ⟨prepared, hkeeps, ?_⟩
  cases made with
  | error error => exact .inl ⟨error, rfl⟩
  | ok made =>
    have hafter : ((system.put path content).run prepared >>= fun (result, next) ↦
        (pure (result.mapError (FileError.mk · path), next) :
          Id (Except FileError Unit × FileTree))) =
        match prepared.put path content with
        | .ok next => pure (.ok (), next)
        | .error fault => pure (.error ⟨fault, path⟩, prepared) := by
      rw [run_put]
      cases prepared.put path content <;> rfl
    cases hput : prepared.put path content with
    | error fault =>
      rw [hput] at hafter
      exact .inl ⟨⟨fault, path⟩, hafter⟩
    | ok after =>
      rw [hput] at hafter
      exact .inr ⟨after, rfl, hafter⟩

end SpanBridge.FileTree
