import FilterScript.Proofs.Storage.ScriptFiles

/-!
# Runs of a storage

A storage is asked for paths and entries, to write files and to clean up, in any order. What its files
are at each moment is told by the tree that it began with and the files that were written since it was
cleaned up: each of them is there, and so are the folders above it and those of the storage.

* **One tree over another** (`laid`): a tree with the folders of a storage and files written into it.
* **Steps** (`Shows.init_cases`, `Shows.write_cases`, `Shows.move`): what is written is shown, and what fails
  leaves the folders only.
* **Cleaning up** (`Shows.node?_cleanUp`): nothing is left at the folder of the storage and below it.
* **The folder** (`IsAt.filePath`): the files of scripts are below it, and it stays where it is.
-/

namespace FilterScript.Storage

/-! ## Requests -/

/-- What a storage is asked for. -/
inductive Request where
  /-- A path below the folder. -/
  | path (sub : String)
  /-- The folders are made. -/
  | init
  /-- The path of an entry that is there. -/
  | temp (sub : String)
  /-- A file is written. -/
  | write (sub content : String)
  /-- The folder is removed. -/
  | cleanUp

/-- The storage after a request. If the folders cannot be made, nothing changes. -/
def move (s : Storage) : Request → Storage
  | .path _ => s
  | .init => s.init.toOption.getD s
  | .temp sub => ((s.temp sub).toOption.map Prod.fst).getD s
  | .write sub content => (s.write sub content).1
  | .cleanUp => s.cleanUp

/-- The storage after some requests. -/
def after (s : Storage) (requests : List Request) : Storage :=
  requests.foldl move s

/-- The files that are written after a request, if some were before it. -/
def writtenThen (s : Storage) (files : List (List String × String)) :
    Request → List (List String × String)
  | .write sub content =>
    match (s.write sub content).2 with
    | .ok path => (Path.names path, content) :: files
    | .error _ => files
  | .cleanUp => []
  | .path _ | .init | .temp _ => files

/-- The files that are written after some requests, if some were before them. -/
def writtenFrom (s : Storage) (files : List (List String × String)) :
    List Request → List (List String × String)
  | [] => files
  | request :: rest => (s.move request).writtenFrom (s.writtenThen files request) rest

/-- The places and the contents of the files that requests have written since the last cleaning up,
the latest first. -/
def written (s : Storage) (requests : List Request) : List (List String × String) :=
  s.writtenFrom [] requests

/-! ## One tree over another -/

/-- What is at a place of a tree after files were written over it, the latest first, with the
folders of a storage or without them. -/
def laid (t : FileTree String) (scripts : List String) (made : Bool)
    (files : List (List String × String)) (place : List String) : Option (FileNode String) :=
  match files.lookup place with
  | some content => some (.file content)
  | none =>
    if made = true ∧ place <+: scripts ∨ ∃ file ∈ files, place <+: file.1 then some .folder
    else t.node? place

section Laid

variable {t : FileTree String} {scripts place : List String} {made : Bool}
  {files : List (List String × String)}

/-- A file that is looked up is one of the files. -/
theorem mem_of_lookup_eq_some {content : String} (h : files.lookup place = some content) :
    (place, content) ∈ files := by
  obtain ⟨front, back, rfl, -⟩ := List.lookup_eq_some_iff.1 h
  exact List.mem_append_right front List.mem_cons_self

/-- Every one of the files is found at its place, with the content of the first one there. -/
theorem exists_lookup_of_mem {file : List String × String} (h : file ∈ files) :
    ∃ content, files.lookup file.1 = some content := by
  cases found : files.lookup file.1 with
  | some content => exact ⟨content, rfl⟩
  | none => simpa using List.lookup_eq_none_iff.1 found file h

/-- A place that none of the files is at finds nothing. -/
theorem lookup_eq_none (away : ∀ file ∈ files, file.1 ≠ place) : files.lookup place = none := by
  cases found : files.lookup place with
  | none => rfl
  | some content => exact absurd rfl (away _ (mem_of_lookup_eq_some found))

/-- A written place shows its file. -/
theorem laid_of_lookup {content : String} (h : files.lookup place = some content) :
    laid t scripts made files place = some (.file content) := by
  rw [laid, h]

/-- A place on the way to what was written shows a folder. -/
theorem laid_of_above (free : files.lookup place = none)
    (above : made = true ∧ place <+: scripts ∨ ∃ file ∈ files, place <+: file.1) :
    laid t scripts made files place = some .folder := by
  rw [laid, free]
  exact if_pos above

/-- Every other place shows what the tree has there. -/
theorem laid_of_apart (free : files.lookup place = none)
    (apart : ¬(made = true ∧ place <+: scripts ∨ ∃ file ∈ files, place <+: file.1)) :
    laid t scripts made files place = t.node? place := by
  rw [laid, free]
  exact if_neg apart

/-- Nothing written and no folder made: the tree as it was. -/
theorem laid_unmade (t : FileTree String) (scripts place : List String) :
    laid t scripts false [] place = t.node? place := by
  simp [laid]

/-- Only the folder for scripts was made. -/
theorem laid_made (t : FileTree String) (scripts place : List String) :
    laid t scripts true [] place = if place <+: scripts then some .folder else t.node? place := by
  simp [laid]

/-- A folder stays one where no file is written. -/
theorem laid_of_folder (free : files.lookup place = none) (folder : t.node? place = some .folder) :
    laid t scripts made files place = some .folder := by
  by_cases above : made = true ∧ place <+: scripts ∨ ∃ file ∈ files, place <+: file.1
  · exact laid_of_above free above
  · rw [laid_of_apart free above, folder]

end Laid

/-! ## Folders -/

/-- Whether a storage has not made its folders yet, in a directory that is there. -/
structure IsUnmade (s : Storage) : Prop where
  /-- The folder has a name of its own in the directory. -/
  name : '/' ∉ s.label.toList
  /-- The directory is there. -/
  walks : reaches s.files [] (s.base.toList.splitOn '/') = true
  /-- The folders are not made. -/
  idle : s.initialized = false

section Folders

variable {s : Storage} {base label : String} {place : List String}

/-- A storage that is set up in a directory has no file of its own yet. -/
theorem isUnmade_inDirectory (resolved : Path.IsResolved base) (name : '/' ∉ label.toList)
    (processId : Nat) : (inDirectory base label processId).IsUnmade where
  name := name
  walks := by
    refine reaches_of_plain resolved.isPlain [] fun place onWay => FileTree.isFolder_iff.2 ?_
    rw [List.nil_append, ← Path.names_of_isPlain resolved.isPlain] at onWay
    exact (FileTree.node?_addFolder_nil (Path.names base) place).trans (if_pos onWay)
  idle := rfl

/-- The folder of a process lies in its directory. -/
theorem names_root (name : '/' ∉ s.label.toList) :
    Path.names s.root =
      Path.names s.base ++ [s.label ++ "-" ++ Numeral.integerText s.processId] :=
  names_root_inDirectory name s.base s.processId

/-- What is on the way to the folder for scripts is on the way to the folder of the process, or is
the folder for scripts. -/
theorem prefix_scriptsPlace_iff {root : String} :
    place <+: scriptsPlace root ↔ place <+: Path.names root ∨ place = scriptsPlace root := by
  rw [scriptsPlace, List.prefix_concat_iff, or_comm]

/-- What is on the way into the folder of the process is there, as far as it is outside. -/
theorem IsUnmade.node?_of_onWay (h : s.IsUnmade) {other : List String}
    (inside : Path.names s.root <+: other) (onWay : place <+: other)
    (outside : ¬Path.names s.root <+: place) : s.files.node? place = some .folder := by
  have above := (List.prefix_or_prefix_of_prefix onWay inside).resolve_right outside
  have ne : place ≠ Path.names s.root := by
    intro same
    rw [same] at outside
    exact outside List.prefix_rfl
  rw [names_root h.name, List.prefix_concat_iff, ← names_root h.name] at above
  have walks : reaches s.files (placeOf []) (s.base.toList.splitOn '/') = true := h.walks
  refine FileTree.isFolder_iff.1
    (isFolder_of_reaches walks (fun place inside ne => ?_) (above.resolve_left ne))
  exact absurd (List.prefix_nil.1 inside) ne

end Folders

/-! ## Steps -/

/-- Whether a storage that began as another one holds some files written over those that were there,
with its folders where they are made. -/
structure Shows (start : Storage) (files : List (List String × String)) (s : Storage) : Prop where
  /-- The folder of the process is the same all the time. -/
  root_eq : s.root = start.root
  /-- What is at each place. -/
  nodes : ∀ place, s.files.node? place =
    laid start.files (scriptsPlace start.root) s.initialized files place
  /-- No file is written where a folder was. -/
  spares : ∀ file ∈ files, start.files.node? file.1 ≠ some .folder
  /-- No file is written in the place of the folders of the storage or above them. -/
  beside : ∀ file ∈ files, ¬file.1 <+: scriptsPlace start.root
  /-- No file is written before the folders are made. -/
  idle : s.initialized = false → files = []

section Steps

variable {start s made : Storage} {files : List (List String × String)} {place : List String}

/-- A storage without folders shows the files that it has. -/
theorem shows_self (idle : s.initialized = false) : Shows s [] s := by
  refine ⟨rfl, fun place => ?_, List.forall_mem_nil _, List.forall_mem_nil _, fun _ => rfl⟩
  rw [idle, laid_unmade]

/-- Before its folders are made, a storage has the files that it began with. -/
theorem Shows.node?_of_idle (h : Shows start files s) (idle : s.initialized = false)
    (place : List String) : s.files.node? place = start.files.node? place := by
  rw [h.nodes, idle, h.idle idle, laid_unmade]

/-- The path for a sub path depends on the root alone. -/
theorem path_eq_of_root_eq {other : Storage} (same : s.root = other.root) (sub : String) :
    s.path sub = other.path sub := by
  rw [path, path, same]

/-- A folder stays one. -/
theorem Shows.node?_of_folder (h : Shows start files s)
    (folder : start.files.node? place = some .folder) : s.files.node? place = some .folder := by
  rw [h.nodes]
  refine laid_of_folder (lookup_eq_none fun file among same => ?_) folder
  exact h.spares file among (same ▸ folder)

/-- Once they are made, the folders of the storage are there. -/
theorem Shows.node?_of_onWay (h : Shows start files s) (ready : s.initialized = true)
    (onWay : place <+: scriptsPlace start.root) : s.files.node? place = some .folder := by
  rw [h.nodes]
  refine laid_of_above (lookup_eq_none fun file among same => ?_) (.inl ⟨ready, onWay⟩)
  exact h.beside file among (same ▸ onWay)

/-- A file that was written is there with its content. -/
theorem Shows.content?_of_lookup (h : Shows start files s) {content : String}
    (found : files.lookup place = some content) : s.files.content? place = some content :=
  FileTree.content?_eq_some_iff.2 ((h.nodes place).trans (laid_of_lookup found))

/-- Every file that was written is there. -/
theorem Shows.isFile_of_mem (h : Shows start files s) {file : List String × String}
    (among : file ∈ files) : s.files.isFile file.1 = true := by
  obtain ⟨content, found⟩ := exists_lookup_of_mem among
  rw [FileTree.isFile, h.content?_of_lookup found]
  rfl

/-- Outside the folder of the process, a place that is not written is as it was. Where a file is
written below it, it has to have been a folder. -/
theorem Shows.node?_outside (h : Shows start files s) (unmade : start.IsUnmade)
    (outside : ¬Path.names start.root <+: place) (free : files.lookup place = none)
    (before : ∀ file ∈ files, place <+: file.1 →
      Path.names start.root <+: file.1 ∨ start.files.node? place = some .folder) :
    s.files.node? place = start.files.node? place := by
  rw [h.nodes]
  by_cases above : s.initialized = true ∧ place <+: scriptsPlace start.root ∨
      ∃ file ∈ files, place <+: file.1
  · rw [laid_of_above free above]
    rcases above with ⟨-, onWay⟩ | ⟨file, among, onWay⟩
    · exact (unmade.node?_of_onWay (List.prefix_append _ _) onWay outside).symm
    · rcases before file among onWay with inside | folder
      · exact (unmade.node?_of_onWay inside onWay outside).symm
      · exact folder.symm
  · exact laid_of_apart free above

/-- What the first initialization does. -/
theorem init_of_not_initialized (idle : s.initialized = false) :
    s.init = match s.files.makeFolders (scriptsPlace s.root) with
      | some files => .ok { s with files := files, initialized := true }
      | none => .error .unreadable := by
  cases folders : s.files.makeFolders (scriptsPlace s.root) with
  | none => simp [init, idle, names_path_scripts, folders]
  | some files => simp [init, idle, names_path_scripts, folders]

/-- **Steps**: the folders of the storage are made, unless a file is in the way. -/
theorem Shows.init_cases (h : Shows start files s) :
    (∃ made, s.init = .ok made ∧ made.initialized = true ∧ Shows start files made) ∨
      ((∃ other, other <+: scriptsPlace start.root ∧ start.files.isFile other = true) ∧
        s.init = .error .unreadable) := by
  cases ready : s.initialized with
  | true => exact .inl ⟨s, init_of_initialized ready, ready, h⟩
  | false =>
    have same := h.node?_of_idle ready
    obtain rfl := h.idle ready
    rw [init_of_not_initialized ready, h.root_eq]
    rcases s.files.makeFolders_cases (scriptsPlace start.root) with
      ⟨⟨other, onWay, file⟩, failed⟩ | ⟨-, folders, done, nodes⟩
    · rw [failed]
      refine .inr ⟨⟨other, onWay, ?_⟩, rfl⟩
      rwa [FileTree.isFile, ← FileTree.content?_congr (same other)]
    · rw [done]
      refine .inl ⟨_, rfl, rfl, h.root_eq, fun place => ?_, List.forall_mem_nil _,
        List.forall_mem_nil _, fun _ => rfl⟩
      rw [nodes, same, laid_made]

/-- A write behind an initialization that succeeded. -/
theorem write_of_init (done : s.init = .ok made) (sub content : String) :
    s.write sub content =
      match made.files.save (Path.names (made.path sub)) content with
      | none => (made, .error .unreadable)
      | some files => ({ made with files := files }, .ok (made.path sub)) := by
  cases folders : made.files.makeFolders (Path.names (made.path sub)).dropLast with
  | none => simp [write, done, FileTree.save, folders]
  | some around =>
    cases written : around.write (Path.names (made.path sub)) content with
    | none => simp [write, done, FileTree.save, folders, written]
    | some files => simp [write, done, FileTree.save, folders, written]

/-- A file that is written stands over the others then. -/
theorem Shows.save (h : Shows start files s) (ready : s.initialized = true) {content : String}
    {saved : FileTree String} (free : ¬s.files.Blocked place)
    (nodes : ∀ other, saved.node? other =
      if other = place then some (.file content)
      else if other <+: place then some .folder else s.files.node? other) :
    Shows start ((place, content) :: files) { s with files := saved } := by
  refine ⟨h.root_eq, fun other => ?_, ?_, ?_, fun idle => ?_⟩
  · rw [nodes]
    by_cases here : other = place
    · subst here
      rw [if_pos rfl, laid_of_lookup List.lookup_cons_self]
    have behind : ((place, content) :: files).lookup other = files.lookup other := by
      rw [List.lookup_cons, beq_false_of_ne here]
    rw [if_neg here]
    by_cases above : other <+: place
    · -- a file above the place would have been in the way
      have vacant : files.lookup other = none := by
        refine lookup_eq_none fun file among same => free (.inr ⟨other, above, here, ?_⟩)
        rw [← same]
        exact h.isFile_of_mem among
      rw [if_pos above]
      exact (laid_of_above (behind.trans vacant) (.inr ⟨_, List.mem_cons_self, above⟩)).symm
    · rw [if_neg above, h.nodes, laid, laid, behind]
      simp only [List.mem_cons, exists_eq_or_imp, above, false_or]
  · refine List.forall_mem_cons.2 ⟨fun folder => ?_, h.spares⟩
    exact free (.inl (h.node?_of_folder folder))
  · refine List.forall_mem_cons.2 ⟨fun onWay => ?_, h.beside⟩
    exact free (.inl (h.node?_of_onWay ready onWay))
  · cases ready.symm.trans idle

/-- **Steps**: a file is written, or something is in its way and the folders of the storage are all
that is made. -/
theorem Shows.write_cases (h : Shows start files made) (ready : made.initialized = true)
    (done : s.init = .ok made) (sub content : String) :
    (made.files.Blocked (Path.names (start.path sub)) ∧
        s.write sub content = (made, .error .unreadable)) ∨
      ¬made.files.Blocked (Path.names (start.path sub)) ∧
        ∃ next, s.write sub content = (next, .ok (start.path sub)) ∧
          Shows start ((Path.names (start.path sub), content) :: files) next := by
  rw [write_of_init done, path_eq_of_root_eq h.root_eq]
  rcases made.files.save_cases (Path.names (start.path sub)) content with
    ⟨blocked, failed⟩ | ⟨free, saved, done, nodes⟩
  · rw [failed]
    exact .inl ⟨blocked, rfl⟩
  · rw [done]
    exact .inr ⟨free, _, rfl, h.save ready free nodes⟩

/-- **Steps**: a request other than cleaning up leaves what is shown, with the file that it writes.
-/
theorem Shows.move (h : Shows start files s) {request : Request} (other : request ≠ .cleanUp) :
    Shows start (s.writtenThen files request) (s.move request) := by
  cases request with
  | path sub => exact h
  | cleanUp => exact absurd rfl other
  | init =>
    rw [Storage.move, writtenThen]
    rcases h.init_cases with ⟨made, done, -, shown⟩ | ⟨-, failed⟩
    · rw [done]
      exact shown
    · rw [failed]
      exact h
  | temp sub =>
    rw [Storage.move, writtenThen]
    rcases h.init_cases with ⟨made, done, -, shown⟩ | ⟨-, failed⟩
    · rw [temp_of_init done]
      exact shown
    · rw [temp, failed]
      exact h
  | write sub content =>
    rw [Storage.move, writtenThen]
    rcases h.init_cases with ⟨made, done, ready, shown⟩ | ⟨-, failed⟩
    · rcases shown.write_cases ready done sub content with ⟨-, failed⟩ | ⟨-, next, written, shown⟩
      · rw [failed]
        exact shown
      · rw [written]
        exact shown
    · rw [write, failed]
      exact h

end Steps

/-! ## Cleaning up -/

section CleanUp

variable {start s : Storage} {files : List (List String × String)}

/-- **Cleaning up**: once they are made, the folders of the storage are removed with all that is in
them. -/
theorem Shows.cleanUp_eq (h : Shows start files s) (unmade : start.IsUnmade)
    (ready : s.initialized = true) :
    s.cleanUp =
      { s with files := s.files.remove (Path.names start.root), initialized := false } := by
  have plain : Path.IsPlain (start.label ++ "-" ++ Numeral.integerText start.processId).toList := by
    rw [Path.IsPlain, splitOn_folder unmade.name]
    exact List.forall_mem_singleton.2 (.inr (isName_folder start.label start.processId))
  have reached : reaches s.files [] (start.root.toList.splitOn '/') = true := by
    refine reaches_joined (reaches_mono unmade.walks fun place folder => ?_) plain fun place onWay => ?_
    · exact FileTree.isFolder_iff.2 (h.node?_of_folder (FileTree.isFolder_iff.1 folder))
    · exact FileTree.isFolder_iff.2 (h.node?_of_onWay ready (prefix_scriptsPlace_iff.2 (.inl onWay)))
  rw [cleanUp, ready, h.root_eq, reached]
  rfl

/-- Cleaning up takes away what is at or below the root of an initialized storage, and nothing else.
-/
theorem Shows.node?_cleanUp (h : Shows start files s) (unmade : start.IsUnmade)
    (place : List String) :
    s.cleanUp.files.node? place =
      if s.initialized = true ∧ Path.names start.root <+: place then none
      else s.files.node? place := by
  cases ready : s.initialized with
  | false =>
    rw [cleanUp_of_not_initialized ready, if_neg (not_and_of_not_left _ Bool.false_ne_true)]
  | true =>
    rw [h.cleanUp_eq unmade ready]
    simp only [true_and]
    by_cases top : place = []
    · subst top
      have outside : ¬Path.names start.root <+: [] := by
        rw [names_root unmade.name, List.prefix_nil]
        exact List.concat_ne_nil _ _
      rw [if_neg outside]
      rfl
    · exact FileTree.node?_remove s.files (Path.names start.root) top

end CleanUp

/-! ## The folder itself -/

/-- Whether the folder of a storage is at a place, where no file is. -/
structure IsAt (place : List String) (s : Storage) : Prop where
  /-- The folder is there. -/
  root : Path.names s.root = place
  /-- No file is. -/
  noFile : s.files.isFile place = false

section IsAt

variable {s next : Storage} {place : List String}

/-- A storage that is set up in a directory has its folder there. -/
theorem isAt_inDirectory (base label : String) (processId : Nat) :
    (inDirectory base label processId).IsAt (Path.names (inDirectory base label processId).root) :=
  ⟨rfl, FileTree.isFile_eq_false_iff.2 (FileTree.content?_addFolder_nil _ _)⟩

/-- Making the folders does not move them. -/
theorem IsAt.init (h : s.IsAt place) (made : s.init = .ok next) : next.IsAt place := by
  by_cases ready : s.initialized = true
  · rw [init_of_initialized ready] at made
    rwa [← Except.ok.inj made]
  · rw [init_of_not_initialized (eq_false_of_ne_true ready)] at made
    rcases FileTree.makeFolders_cases s.files (scriptsPlace s.root) with
      ⟨-, none⟩ | ⟨free, found, done, nodes⟩
    · rw [none] at made
      cases made
    · rw [done] at made
      obtain rfl := Except.ok.inj made
      refine ⟨h.root, ?_⟩
      have unblocked : ∀ other, other <+: scriptsPlace s.root → s.files.content? other = none :=
        fun other onWay => FileTree.isFile_eq_false_iff.1
          (eq_false_of_ne_true fun file => free ⟨other, onWay, file⟩)
      rw [FileTree.isFile, FileTree.content?_of_makeFolders nodes unblocked]
      exact h.noFile

/-- The file of a script is below the folder: writing it leaves the folder where it is. -/
theorem IsAt.write (h : s.IsAt place) (code content : String) :
    (s.write (scriptFile code) content).1.IsAt place := by
  cases done : s.init with
  | error f =>
    rw [Storage.write, done]
    exact h
  | ok made =>
    have ready := h.init done
    rw [write_of_init done]
    rcases made.files.save_cases (Path.names (made.path (scriptFile code))) content with
      ⟨-, failed⟩ | ⟨-, saved, written, nodes⟩
    · rw [failed]
      exact ready
    · rw [written]
      refine ⟨ready.root, FileTree.isFile_eq_false_iff.2 ?_⟩
      have below : place ≠ Path.names (made.path (scriptFile code)) := by
        rw [path_scriptFile, names_scriptPath, ← ready.root, scriptsPlace]
        simp
      have same := (nodes place).trans (if_neg below)
      by_cases onWay : place <+: Path.names (made.path (scriptFile code))
      · exact FileTree.content?_of_folder (same.trans (if_pos onWay))
      · rw [FileTree.content?_congr (same.trans (if_neg onWay))]
        exact FileTree.isFile_eq_false_iff.1 ready.noFile

/-- **The folder** stays where it is as files of scripts are asked for. -/
theorem IsAt.filePath (h : s.IsAt place) (script : Script) (shared : References) :
    (script.filePath shared s).1.IsAt place := by
  cases done : s.init with
  | error f =>
    have looked : s.temp ("scripts/" ++ script.digest shared ++ ".avs") = .error f := by
      rw [temp, done]
      rfl
    unfold Script.filePath
    dsimp only
    rw [looked]
    exact h
  | ok made =>
    rw [filePath_of_init done]
    split
    · exact h.init done
    · exact (h.init done).write _ _

end IsAt

end FilterScript.Storage
