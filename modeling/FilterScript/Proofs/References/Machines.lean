import FilterScript.Proofs.References.Directories
import FilterScript.Proofs.Script.Changes
import FilterScript.Proofs.Storage.Folders
import FilterScript.Proofs.Text.OneLine

/-!
# Machines that differ in a folder

Two machines may differ in what a folder holds, and in nothing else. A file that is not in the folder
is then referenced on both or on none, and so are the files of a directory that is not. The directory
around the folder has one entry more where the folder is there. Loading passes it over, since it is no
file; only a name that scripts cannot hold would be reported.

* **Files** (`AgreesOutside.load`, `AgreesOutside.requireAll`): they are loaded and required alike.
* **Directories** (`AgreesOutside.autoload`): so are their files.
* **Generated files** (`Host.agreesOutside_withFilesOf`): a machine with them, and without.
-/

namespace FilterScript

/-! ## Machines -/

/-- Whether the files and folders of a machine have the names of entries. -/
def Host.HasNames (host : Host) : Prop :=
  ∀ entry ∈ host.files.entries, ∀ name ∈ entry.1, Path.IsName name.toList ∧ '/' ∉ name.toList

/-- Whether two machines differ at most in what is below a place, and in a folder there. -/
structure Host.AgreesOutside (place : List String) (host other : Host) : Prop where
  /-- The working directory is the same. -/
  directory : host.directory = other.directory
  /-- Without the place and what is below it the files and folders are the same. -/
  files : host.files.remove place = other.files.remove place
  /-- The first machine has no file at the place. -/
  first : host.files.isFile place = false
  /-- The second machine has no file at the place. -/
  second : other.files.isFile place = false

/-- The machine without what is at a place and below it. -/
def Host.without (host : Host) (place : List String) : Host :=
  { host with files := host.files.remove place }

/-- Whether none of the files that a filter requires is at a place or below it. -/
def Host.AreOutside (host : Host) (place : List String) (files : List Value) : Prop :=
  ∀ file ∈ files, ∀ path, file.toText? = some path → ¬place <+: host.place path

/-- Whether the entry of a place, if there is one, has a name that scripts can hold. -/
def Path.IsValidEntry (place : List String) : Prop :=
  ∀ name ∈ place.getLast?, Path.isValid name = true

namespace Host

variable {host : Host} {place : List String} {path : String}

/-- A resolved path leads to the place of the path. -/
theorem place_resolve (host : Host) (path : String) :
    host.place (host.resolve path) = host.place path := by
  rw [Host.place, Host.resolve, Host.resolve, Path.isResolved_resolve, Host.place, Host.resolve]

/-- The path of an entry of a directory is resolved, and leads to its name behind the directory. -/
theorem resolve_joined {name : String} (proper : Path.IsName name.toList)
    (uncut : '/' ∉ name.toList) (host : Host) (path : String) :
    host.resolve (Path.joined (host.resolve path) name) = Path.joined (host.resolve path) name ∧
      host.place (Path.joined (host.resolve path) name) = host.place path ++ [name] := by
  have resolved : Path.IsResolved (Path.joined (host.resolve path) name) :=
    Path.isResolved_joined proper uncut
  have pieces : name.toList.splitOn '/' = [name.toList] := List.splitOn_eq_singleton uncut
  have plain : ∀ piece ∈ name.toList.splitOn '/', Path.IsName piece := by
    rw [pieces]
    exact List.forall_mem_singleton.2 proper
  refine ⟨resolved _, ?_⟩
  rw [Host.place, Host.resolve, resolved, Path.names_joined plain, pieces, List.map_singleton,
    String.ofList_toList, Host.place]

/-- A folder is listed, under its resolved path as well. -/
theorem exists_isListing (folder : host.files.isFolder (host.place path) = true) :
    ∃ names, host.listDirectory? (host.resolve path) = some names ∧ host.IsListing path names := by
  have listed : host.listDirectory? path = some _ := if_pos folder
  have same : host.listDirectory? (host.resolve path) = host.listDirectory? path := by
    rw [Host.listDirectory?, Host.listDirectory?, place_resolve]
  exact ⟨_, same.trans listed, isListing_of_listDirectory? listed⟩

/-- What is in a directory has the name of an entry. -/
theorem HasNames.of_mem_children (named : host.HasNames) {name : String}
    (inside : name ∈ host.files.children place) :
    Path.IsName name.toList ∧ '/' ∉ name.toList := by
  obtain ⟨entry, among, last⟩ := List.mem_filterMap.1 inside
  dsimp only at last
  split at last
  · exact named entry among name (List.mem_of_getLast? last)
  · cases last

end Host

/-- A name that scripts can hold, behind a directory that they can. -/
theorem Path.isValid_joined {directory name : String} (here : Path.isValid directory = true)
    (there : Path.isValid name = true) : Path.isValid (Path.joined directory name) = true := by
  rw [Path.isValid, Bool.and_eq_true, List.all_eq_true] at here there ⊢
  rw [Path.joined, String.toList_ofList]
  refine ⟨?_, fun c inside => ?_⟩
  · cases held : name.toList with
    | nil => rw [held] at there; cases there.1
    | cons c rest =>
      unfold Path.join
      split
      · rfl
      · split <;> simp
  · by_cases slash : c = '/'
    · subst slash
      decide
    · rcases Path.mem_of_mem_join slash inside with front | behind
      · exact here.2 c front
      · exact there.2 c behind

namespace References

/-- Entries that are passed over make no difference to the others. -/
theorem loadAll_filter {host : Host} {directory : String} {names : List String}
    {keeps : String → Bool} (refs : References)
    (passed : ∀ name ∈ names, keeps name = false → ∀ refs,
      load host (Path.joined directory name) true refs = .ok (refs, none)) :
    loadAll host directory (names.filter keeps) refs = loadAll host directory names refs := by
  induction names generalizing refs with
  | nil => rfl
  | cons name rest ih =>
    obtain ⟨first, others⟩ := List.forall_mem_cons.1 passed
    by_cases kept : keeps name = true
    · rw [List.filter_cons_of_pos kept, loadAll_cons, loadAll_cons]
      cases load host (Path.joined directory name) true refs with
      | error e => rfl
      | ok loaded => exact ih loaded.1 others
    · rw [List.filter_cons_of_neg kept, loadAll_cons, first (eq_false_of_ne_true kept)]
      exact ih refs others

/-- What is no file, and has a path that scripts can hold, is passed over. -/
theorem load_of_not_isFile_ignored {host : Host} {path : String}
    (valid : Path.isValid (host.resolve path) = true)
    (missing : host.isFile (host.resolve path) = false) (refs : References) :
    load host path true refs = .ok (refs, none) := by
  simp [load, valid, missing]

end References

namespace Host

/-- What is the entry of a place in the directory around it is passed over, if it is no file and
scripts can hold its name. -/
theorem load_entry {host : Host} {path name : String}
    (valid : Path.isValid (host.resolve path) = true)
    (entry : Path.IsName name.toList ∧ '/' ∉ name.toList)
    (noFile : host.files.isFile (host.place path ++ [name]) = false)
    (held : Path.isValid name = true) (refs : References) :
    References.load host (Path.joined (host.resolve path) name) true refs = .ok (refs, none) := by
  obtain ⟨resolved, leads⟩ := resolve_joined entry.1 entry.2 host path
  refine References.load_of_not_isFile_ignored ?_ ?_ refs
  · rw [resolved]
    exact Path.isValid_joined valid held
  · rw [resolved, Host.isFile, leads]
    exact noFile

/-- A directory that is outside of a place is loaded without the entry of the place. -/
theorem exists_autoload_eq {host : Host} {place : List String} {path : String}
    (noFile : host.files.isFile place = false)
    (proper : ∀ name ∈ place.getLast?, Path.IsName name.toList ∧ '/' ∉ name.toList)
    (outside : ¬place <+: host.place path)
    (held : host.place path = place.dropLast → Path.IsValidEntry place)
    (valid : Path.isValid (host.resolve path) = true)
    (folder : host.files.isFolder (host.place path) = true) (refs : References) :
    ∃ names, host.IsListing path names ∧ References.autoload host path refs =
      References.loadAll host (host.resolve path)
        (names.filter fun name => !place.isPrefixOf (host.place path ++ [name])) refs := by
  obtain ⟨names, listed, listing⟩ := exists_isListing folder
  refine ⟨names, listing, ?_⟩
  rw [References.autoload_of_listDirectory? valid listed]
  refine (References.loadAll_filter refs fun name _ dropped => ?_).symm
  rw [Bool.not_eq_false', List.isPrefixOf_iff_prefix, List.prefix_concat_iff] at dropped
  obtain rfl := dropped.resolve_right outside
  rw [List.dropLast_concat] at held
  have last : name ∈ (host.place path ++ [name]).getLast? := by simp
  exact load_entry valid (proper name last) noFile (held rfl name last)

end Host

/-! ## Files -/

namespace Host.AgreesOutside

variable {place : List String} {host other : Host} {path : String}

/-- At each other place there is the same. -/
theorem node?_eq (agree : host.AgreesOutside place other) {found : List String}
    (outside : ¬place <+: found) : host.files.node? found = other.files.node? found := by
  by_cases top : found = []
  · rw [top, FileTree.node?_nil, FileTree.node?_nil]
  · have first := FileTree.node?_remove host.files place top
    have second := FileTree.node?_remove other.files place top
    rw [if_neg outside] at first second
    rw [← first, agree.files, second]

/-- A path means the same. -/
theorem resolve_eq (agree : host.AgreesOutside place other) (path : String) :
    host.resolve path = other.resolve path := by
  rw [Host.resolve, Host.resolve, agree.directory]

/-- A path leads to the same place. -/
theorem place_eq (agree : host.AgreesOutside place other) (path : String) :
    host.place path = other.place path := by
  rw [Host.place, Host.place, agree.resolve_eq]

/-- A file that is outside is there or not. -/
theorem isFile_eq (agree : host.AgreesOutside place other) (outside : ¬place <+: host.place path) :
    host.isFile path = other.isFile path := by
  rw [Host.isFile, Host.isFile, ← agree.place_eq, FileTree.isFile, FileTree.isFile,
    FileTree.content?_congr (agree.node?_eq outside)]

/-- **Files**: one that is outside is referenced, or fails to be. -/
theorem load (agree : host.AgreesOutside place other) (outside : ¬place <+: host.place path)
    (ignore : Bool) (refs : References) :
    References.load host path ignore refs = References.load other path ignore refs := by
  have there : host.isFile (host.resolve path) = other.isFile (host.resolve path) := by
    refine agree.isFile_eq ?_
    rwa [place_resolve]
  unfold References.load
  dsimp only
  rw [← agree.resolve_eq path, ← there]

/-- **Files** that are outside are required, or fail to be. -/
theorem requireAll (agree : host.AgreesOutside place other) {files : List Value}
    (outside : host.AreOutside place files) (refs : References) :
    Script.requireAll host files refs = Script.requireAll other files refs := by
  induction files generalizing refs with
  | nil => rfl
  | cons file rest ih =>
    obtain ⟨first, others⟩ := List.forall_mem_cons.1 outside
    rw [Script.requireAll_cons, Script.requireAll_cons]
    cases named : file.toText? with
    | none => rfl
    | some path =>
      dsimp only
      rw [← agree.load (first path named)]
      cases References.load host path false refs with
      | error e => rfl
      | ok loaded => exact ih others loaded.1

/-! ## Directories -/

/-- Entries that are outside are referenced, or fail to be. -/
theorem loadAll (agree : host.AgreesOutside place other) {directory : String} {names : List String}
    (outside : ∀ name ∈ names, ¬place <+: host.place (Path.joined directory name))
    (refs : References) :
    References.loadAll host directory names refs = References.loadAll other directory names refs := by
  induction names generalizing refs with
  | nil => rfl
  | cons name rest ih =>
    obtain ⟨first, others⟩ := List.forall_mem_cons.1 outside
    rw [References.loadAll_cons, References.loadAll_cons, ← agree.load first]
    cases References.load host (Path.joined directory name) true refs with
    | error e => rfl
    | ok loaded => exact ih others loaded.1

/-- Without the entry of the place, a directory that is outside is listed alike. -/
theorem filter_eq_of_isListing (agree : host.AgreesOutside place other) {names others : List String}
    (first : host.IsListing path names) (second : other.IsListing path others) :
    let keeps := fun name => !place.isPrefixOf (host.place path ++ [name])
    names.filter keeps = others.filter keeps := by
  intro keeps
  have listed := second.entries
  rw [← agree.place_eq] at listed
  have entries : (host.files.children (host.place path)).filter keeps =
      (other.files.children (host.place path)).filter keeps := by
    rw [← FileTree.children_remove, agree.files, FileTree.children_remove]
  have same : (names.filter keeps).Perm (others.filter keeps) :=
    (first.entries.filter keeps).trans (entries ▸ (listed.filter keeps).symm)
  exact same.eq_of_pairwise (fun _ _ _ _ => String.le_antisymm) (first.sorted.filter keeps)
    (second.sorted.filter keeps)

/-- **Directories**: the files of one that is outside are referenced, or fail to be. The directory
around the place is one if scripts can hold the name of its entry. -/
theorem autoload (agree : host.AgreesOutside place other) (named : host.HasNames)
    (proper : ∀ name ∈ place.getLast?, Path.IsName name.toList ∧ '/' ∉ name.toList)
    (outside : ¬place <+: host.place path)
    (held : host.place path = place.dropLast → Path.IsValidEntry place) (refs : References) :
    References.autoload host path refs = References.autoload other path refs := by
  have outsideThere : ¬place <+: other.place path := agree.place_eq path ▸ outside
  have heldThere : other.place path = place.dropLast → Path.IsValidEntry place :=
    agree.place_eq path ▸ held
  by_cases valid : Path.isValid (host.resolve path) = true
  · have validThere : Path.isValid (other.resolve path) = true := agree.resolve_eq path ▸ valid
    have folders : host.files.isFolder (host.place path) = other.files.isFolder (other.place path) := by
      rw [FileTree.isFolder, FileTree.isFolder, agree.node?_eq outside, agree.place_eq]
    by_cases folder : host.files.isFolder (host.place path) = true
    · obtain ⟨names, first, loadsFirst⟩ :=
        exists_autoload_eq agree.first proper outside held valid folder refs
      obtain ⟨others, second, loadsSecond⟩ :=
        exists_autoload_eq agree.second proper outsideThere heldThere validThere
          (folders.symm.trans folder) refs
      rw [loadsFirst, loadsSecond, ← agree.resolve_eq, ← agree.place_eq,
        ← agree.filter_eq_of_isListing first second]
      refine agree.loadAll (fun name inside => ?_) refs
      obtain ⟨listed, kept⟩ := List.mem_filter.1 inside
      obtain ⟨entry, uncut⟩ := named.of_mem_children (first.entries.subset listed)
      rw [Bool.not_eq_true', Bool.eq_false_iff, ne_eq, List.isPrefixOf_iff_prefix] at kept
      rwa [(resolve_joined entry uncut host path).2]
    · have folderThere : ¬other.files.isFolder (other.place path) = true := folders ▸ folder
      rw [← place_resolve] at folder folderThere
      rw [References.autoload_of_not_isFolder valid folder,
        References.autoload_of_not_isFolder validThere folderThere, agree.resolve_eq]
  · have validThere : ¬Path.isValid (other.resolve path) = true := agree.resolve_eq path ▸ valid
    rw [References.autoload_of_not_isValid valid, References.autoload_of_not_isValid validThere,
      agree.resolve_eq]

end Host.AgreesOutside

/-! ## Generated files -/

/-- **Generated files**: the machine with them, and without what is at their folder. -/
theorem Host.agreesOutside_withFilesOf (machine : Host) {storage : Storage}
    (noFile : storage.files.isFile (Path.names storage.root) = false) :
    (machine.without (Path.names storage.root)).AgreesOutside (Path.names storage.root)
      (machine.withFilesOf storage) where
  directory := rfl
  files := (FileTree.remove_remove _ _).trans (FileTree.remove_graft _ _ _).symm
  first := FileTree.isFile_remove_self _ _
  second := by
    rw [Host.withFilesOf, FileTree.isFile_graft_self, FileTree.isFile_map]
    exact noFile

end FilterScript
