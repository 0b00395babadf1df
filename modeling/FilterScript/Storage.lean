import FilterScript.Host

/-!
# Storage for generated files

Generated scripts are written below a folder that belongs to one process. The folder and the one for
scripts in it are made on first use and removed with all that is in them on cleaning up. The main
statements say when the folders are there.
-/

namespace FilterScript

/-- The storage of one process. -/
structure Storage where
  /-- The directory that the folder lies in, an absolute path. -/
  base : String
  /-- The name of the folder before the number of the process. -/
  label : String
  /-- The number of the process. -/
  processId : Nat
  /-- Whether the folders are made. -/
  initialized : Bool := false
  /-- The files that the storage can reach. -/
  files : FileTree String

namespace Storage

/-- The storage in an existing directory that holds nothing. -/
def inDirectory (base label : String) (processId : Nat) : Storage where
  base := base
  label := label
  processId := processId
  files := FileTree.addFolder ⟨[]⟩ (Path.names base)

/-! ## Paths -/

/-- The folder of the process. -/
def root (s : Storage) : String :=
  Path.joined s.base (s.label ++ "-" ++ Numeral.integerText s.processId)

/-- The absolute path of a path below the folder, or the folder itself for an empty one. -/
def path (s : Storage) (sub : String) : String :=
  if sub = "" then s.root else Path.resolve s.root sub

/-! ## Making and removing -/

/-- Makes the folders, once. -/
def init (s : Storage) : Except Fault Storage :=
  if s.initialized then .ok s
  else
    match s.files.makeFolders (Path.names (s.path "scripts")) with
    | some files => .ok { s with files := files, initialized := true }
    | none => .error .unreadable

/-- Whether each folder on the way along the segments of a path is there, from a place on. -/
def reaches (files : FileTree String) : List String → List (List Char) → Bool
  | place, [] => files.isFolder place
  | place, segment :: rest =>
    files.isFolder place &&
      (if segment = [] ∨ segment = ['.'] then reaches files place rest
      else if segment = ['.', '.'] then reaches files place.dropLast rest
      else reaches files (place ++ [String.ofList segment]) rest)

/-- Removes the folder of the process with all that is in it. -/
def cleanUp (s : Storage) : Storage :=
  if !s.initialized then s
  else if reaches s.files [] (s.root.toList.splitOn '/') then
    { s with files := s.files.remove (Path.names s.root), initialized := false }
  else { s with initialized := false }

/-- Making the folders of a storage that has them does nothing. -/
theorem init_of_initialized {s : Storage} (h : s.initialized = true) : s.init = .ok s := by
  simp [init, h]

/-- Cleaning up a storage without folders does nothing. -/
theorem cleanUp_of_not_initialized {s : Storage} (h : s.initialized = false) : s.cleanUp = s := by
  simp [cleanUp, h]

/-- After cleaning up the folders are to be made again. -/
theorem initialized_cleanUp (s : Storage) : s.cleanUp.initialized = false := by
  unfold cleanUp
  split
  · next h => simpa using h
  · split <;> rfl

/-! ## Reading and writing -/

/-- The path of an entry that is there. -/
def temp (s : Storage) (sub : String) : Except Fault (Storage × Option String) := do
  let s ← s.init
  let path := s.path sub
  pure (s, if (s.files.node? (Path.names path)).isSome then some path else none)

/-- Writes a file and makes the folders around it. What is made on the way stays if writing fails.
-/
def write (s : Storage) (sub content : String) : Storage × Except Fault String :=
  match s.init with
  | .error f => (s, .error f)
  | .ok s =>
    let path := s.path sub
    let place := Path.names path
    match s.files.makeFolders place.dropLast with
    | none => (s, .error .unreadable)
    | some files =>
      match files.write place content with
      | none => (s, .error .unreadable)
      | some files => ({ s with files := files }, .ok path)

/-- The content of the file at a path. -/
def content? (s : Storage) (path : String) : Option String :=
  s.files.content? (Path.names path)

end Storage

/-- The machine on which the folder of a storage and what is below it are as the storage has them. The
directory that the folder lies in has to be there on the machine: it is not added. -/
def Host.withFilesOf (h : Host) (s : Storage) : Host :=
  { h with files := h.files.graft (s.files.map .text) (Path.names s.root) }

end FilterScript
