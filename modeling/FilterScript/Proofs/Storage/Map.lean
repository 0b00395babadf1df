import FilterScript.Proofs.Outcome
import FilterScript.Proofs.Storage.Runs

/-!
# A storage as a map

Where nothing else writes below its folder, a storage is a map from places to contents. Writing a file
sets the content at a place and brings about the folders above it; cleaning up empties the map. The
folders of the storage itself come and go with its first use and its cleaning up.

* **What is below the folder** (`laid_below`): the written files, and the folders above them.
* **Runs** (`Shows.after`): what is shown after requests that write below the folder.
* **The map** (`isMap_after`): each thing that can be asked of a storage, told by the files written in it.
-/

namespace FilterScript.Storage

/-! ## What is below the folder -/

/-- Whether a storage has not made its folders yet, in a directory that holds nothing at their
place. -/
structure IsNew (s : Storage) : Prop extends s.IsUnmade where
  /-- Nothing is at the place of the folder and below it. -/
  vacant : ∀ place, Path.names s.root <+: place → s.files.node? place = none

/-- Whether a place is one of the folders of a storage, or that of a written file or of a folder
above one. -/
def IsEntry (root : String) (files : List (List String × String)) (place : List String) : Prop :=
  place = Path.names root ∨ place = scriptsPlace root ∨ ∃ file ∈ files, place <+: file.1

instance (root : String) (files : List (List String × String)) (place : List String) :
    Decidable (IsEntry root files place) :=
  inferInstanceAs (Decidable (_ ∨ _ ∨ _))

section Below

variable {s : Storage} {base label root : String} {place : List String}
  {files : List (List String × String)}

/-- A storage in a directory of its own is new. -/
theorem isNew_inDirectory (resolved : Path.IsResolved base) (name : '/' ∉ label.toList)
    (processId : Nat) : (inDirectory base label processId).IsNew where
  toIsUnmade := isUnmade_inDirectory resolved name processId
  vacant := by
    intro place inside
    refine (FileTree.node?_addFolder_nil (Path.names base) place).trans (if_neg fun onWay => ?_)
    have shorter := (inside.trans onWay).length_le
    rw [names_root_inDirectory name, List.length_append, List.length_singleton] at shorter
    omega

/-- At the folder of the process and below it, what is on the way to the folder for scripts is one
of the two. -/
theorem prefix_scriptsPlace_iff_of_inside (inside : Path.names root <+: place) :
    place <+: scriptsPlace root ↔ place = Path.names root ∨ place = scriptsPlace root := by
  rw [prefix_scriptsPlace_iff]
  refine or_congr_left ⟨fun onWay => ?_, fun same => same ▸ List.prefix_rfl⟩
  exact onWay.eq_of_length_le inside.length_le

/-- **What is below the folder** are the written files, and the folders above them. -/
theorem laid_below (new : s.IsNew) (inside : Path.names s.root <+: place) :
    laid s.files (scriptsPlace s.root) true files place =
      match files.lookup place with
      | some content => some (.file content)
      | none => if IsEntry s.root files place then some .folder else none := by
  cases found : files.lookup place with
  | some content => exact laid_of_lookup found
  | none =>
    have folders : place <+: scriptsPlace s.root ∨ (∃ file ∈ files, place <+: file.1) ↔
        IsEntry s.root files place := by
      rw [prefix_scriptsPlace_iff_of_inside inside, or_assoc]
      rfl
    rw [laid, found, new.vacant place inside]
    simp only [true_and, folders]

/-- What is at or below the root of a new storage after the writes: the entries that the written
files make. -/
theorem isSome_laid_iff (new : s.IsNew) (inside : Path.names s.root <+: place) :
    (laid s.files (scriptsPlace s.root) true files place).isSome = true ↔
      IsEntry s.root files place := by
  rw [laid_below new inside]
  cases found : files.lookup place with
  | some content =>
    exact iff_of_true rfl (.inr (.inr ⟨_, mem_of_lookup_eq_some found, List.prefix_rfl⟩))
  | none => simp

/-- No file is above the folder of a new storage, in its place or below it. -/
theorem IsNew.content?_eq_none (new : s.IsNew)
    (along : place <+: Path.names s.root ∨ Path.names s.root <+: place) :
    s.files.content? place = none := by
  by_cases inside : Path.names s.root <+: place
  · rw [FileTree.content?, new.vacant place inside]
  · exact FileTree.content?_of_folder
      (new.node?_of_onWay List.prefix_rfl (along.resolve_right inside) inside)

end Below

/-! ## Runs -/

/-- Whether a request writes at the folder of a storage or below it, if it writes at all. -/
def Request.IsBelow (s : Storage) : Request → Prop
  | .write sub _ => Path.names s.root <+: Path.names (s.path sub)
  | .path _ | .init | .temp _ | .cleanUp => True

instance (s : Storage) : (request : Request) → Decidable (request.IsBelow s)
  | .write sub _ => inferInstanceAs (Decidable (Path.names s.root <+: Path.names (s.path sub)))
  | .path _ | .init | .temp _ | .cleanUp => inferInstanceAs (Decidable True)

section Runs

variable {start s : Storage} {files : List (List String × String)}

/-- In a directory that holds nothing at their place, the folders of a storage are made. -/
theorem Shows.exists_init (h : Shows start files s) (new : start.IsNew) :
    ∃ made, s.init = .ok made ∧ made.initialized = true ∧ Shows start files made := by
  rcases h.init_cases with made | ⟨⟨other, onWay, file⟩, -⟩
  · exact made
  · have along : other <+: Path.names start.root ∨ Path.names start.root <+: other := by
      rcases prefix_scriptsPlace_iff.1 onWay with above | same
      · exact .inl above
      · rw [same]
        exact .inr (List.prefix_append _ _)
    rw [FileTree.isFile, new.content?_eq_none along] at file
    cases file

/-- Cleaning up takes away all that was written below the folder. -/
theorem Shows.cleanUp (h : Shows start files s) (new : start.IsNew)
    (below : ∀ file ∈ files, Path.names start.root <+: file.1) : Shows start [] s.cleanUp := by
  have root : s.cleanUp.root = start.root := by
    cases ready : s.initialized with
    | false =>
      rw [cleanUp_of_not_initialized ready]
      exact h.root_eq
    | true =>
      rw [h.cleanUp_eq new.toIsUnmade ready]
      exact h.root_eq
  refine ⟨root, fun place => ?_, List.forall_mem_nil _, List.forall_mem_nil _, fun _ => rfl⟩
  rw [h.node?_cleanUp new.toIsUnmade, initialized_cleanUp, laid_unmade]
  by_cases inside : Path.names start.root <+: place
  · rw [new.vacant place inside]
    cases ready : s.initialized with
    | true => exact if_pos ⟨rfl, inside⟩
    | false =>
      rw [if_neg (not_and_of_not_left _ Bool.false_ne_true), h.node?_of_idle ready,
        new.vacant place inside]
  · have free : files.lookup place = none := by
      refine lookup_eq_none fun file among same => inside ?_
      rw [← same]
      exact below file among
    rw [if_neg (not_and_of_not_right _ inside)]
    exact h.node?_outside new.toIsUnmade inside free fun file among _ => .inl (below file among)

/-- What a request writes stands where it means to write. -/
theorem Shows.mem_writtenThen (h : Shows start files s) {request : Request}
    {file : List String × String} (among : file ∈ s.writtenThen files request) :
    file ∈ files ∨ ∃ sub content, request = .write sub content ∧
      file = (Path.names (start.path sub), content) := by
  cases request with
  | path sub => exact .inl among
  | init => exact .inl among
  | temp sub => exact .inl among
  | cleanUp => cases among
  | write sub content =>
    rw [writtenThen] at among
    rcases h.init_cases with ⟨made, done, ready, shown⟩ | ⟨-, failed⟩
    · rcases shown.write_cases ready done sub content with ⟨-, failed⟩ | ⟨-, next, done, -⟩
      · rw [failed] at among
        exact .inl among
      · rw [done] at among
        rcases List.mem_cons.1 among with rfl | before
        · exact .inr ⟨sub, content, rfl, rfl⟩
        · exact .inl before
    · rw [write, failed] at among
      exact .inl among

/-- **Runs**: requests that write below the folder leave the files that they have written. -/
theorem Shows.after (h : Shows start files s) (new : start.IsNew)
    (below : ∀ file ∈ files, Path.names start.root <+: file.1) {requests : List Request}
    (inside : ∀ request ∈ requests, request.IsBelow start) :
    Shows start (s.writtenFrom files requests) (s.after requests) ∧
      ∀ file ∈ s.writtenFrom files requests, Path.names start.root <+: file.1 := by
  induction requests generalizing s files with
  | nil => exact ⟨h, below⟩
  | cons request rest ih =>
    obtain ⟨first, others⟩ := List.forall_mem_cons.1 inside
    have moved : Shows start (s.writtenThen files request) (s.move request) := by
      by_cases cleans : request = .cleanUp
      · subst cleans
        exact h.cleanUp new below
      · exact h.move cleans
    refine ih moved (fun file among => ?_) others
    rcases h.mem_writtenThen among with before | ⟨sub, content, rfl, rfl⟩
    · exact below file before
    · exact first

end Runs

/-! ## The map -/

/-- Whether a storage that was new is a map of some files. -/
structure IsMap (start : Storage) (files : List (List String × String)) (s : Storage) : Prop where
  /-- The folders are said to be made exactly when they are there. -/
  initialized_iff : s.initialized = true ↔
    s.files.node? (Path.names start.root) = some .folder ∧
      s.files.node? (scriptsPlace start.root) = some .folder
  /-- When they are not, nothing is at the folder of the process and below it. -/
  vacant : s.initialized = false →
    ∀ place, Path.names start.root <+: place → s.files.node? place = none
  /-- What is found below the folder are the entries, and nothing else. -/
  temp : ∀ sub, Path.names start.root <+: Path.names (start.path sub) →
    ∃ next, s.temp sub = .ok (next,
      if IsEntry start.root files (Path.names (start.path sub)) then some (start.path sub) else none)
  /-- A file holds what was written to its place last. -/
  content : ∀ sub, Path.names start.root <+: Path.names (start.path sub) →
    s.content? (start.path sub) = files.lookup (Path.names (start.path sub))
  /-- Writing fails exactly where a folder is, and below a file. -/
  write : ∀ sub content, Path.names start.root <+: Path.names (start.path sub) →
    ((∃ f, (s.write sub content).2 = .error f) ↔
      IsEntry start.root files (Path.names (start.path sub)) ∧
          files.lookup (Path.names (start.path sub)) = none ∨
        ∃ file ∈ files, file.1 <+: Path.names (start.path sub) ∧
          file.1 ≠ Path.names (start.path sub))
  /-- When writing fails, the folders are all that is made. -/
  failed : ∀ sub content, (∃ f, (s.write sub content).2 = .error f) →
    s.init = .ok (s.write sub content).1

section Map

variable {start s : Storage} {files : List (List String × String)}

/-- There are no files but the written ones. -/
theorem Shows.content?_of_lookup_eq_none (h : Shows start files s) (new : start.IsNew)
    {place : List String} (free : files.lookup place = none)
    (along : place <+: Path.names start.root ∨ Path.names start.root <+: place) :
    s.files.content? place = none := by
  by_cases above : s.initialized = true ∧ place <+: scriptsPlace start.root ∨
      ∃ file ∈ files, place <+: file.1
  · exact FileTree.content?_of_folder ((h.nodes place).trans (laid_of_above free above))
  · rw [FileTree.content?_congr ((h.nodes place).trans (laid_of_apart free above))]
    exact new.content?_eq_none along

/-- What is in the way of a file below the folder. -/
theorem Shows.blocked_iff (h : Shows start files s) (new : start.IsNew)
    (ready : s.initialized = true) {place : List String}
    (inside : Path.names start.root <+: place) :
    s.files.Blocked place ↔ IsEntry start.root files place ∧ files.lookup place = none ∨
      ∃ file ∈ files, file.1 <+: place ∧ file.1 ≠ place := by
  have here : s.files.node? place = some .folder ↔
      IsEntry start.root files place ∧ files.lookup place = none := by
    rw [h.nodes, ready, laid_below new inside]
    cases files.lookup place with
    | some content => simp
    | none => simp
  rw [FileTree.Blocked, here]
  refine or_congr_right ⟨?_, ?_⟩
  · rintro ⟨other, onWay, ne, file⟩
    cases found : files.lookup other with
    | some content => exact ⟨_, mem_of_lookup_eq_some found, onWay, ne⟩
    | none =>
      have none := h.content?_of_lookup_eq_none new found (List.prefix_or_prefix_of_prefix onWay inside)
      rw [FileTree.isFile, none] at file
      cases file
  · rintro ⟨file, among, onWay, ne⟩
    exact ⟨file.1, onWay, ne, h.isFile_of_mem among⟩

/-- A new storage is a map of the files that are shown. -/
theorem Shows.isMap (h : Shows start files s) (new : start.IsNew) : IsMap start files s where
  initialized_iff := by
    cases ready : s.initialized with
    | true =>
      refine iff_of_true rfl ⟨?_, h.node?_of_onWay ready List.prefix_rfl⟩
      exact h.node?_of_onWay ready (List.prefix_append _ _)
    | false =>
      refine iff_of_false Bool.false_ne_true fun both => ?_
      have gone := h.node?_of_idle ready (Path.names start.root)
      rw [new.vacant _ List.prefix_rfl, both.1] at gone
      cases gone
  vacant := by
    intro idle place inside
    rw [h.node?_of_idle idle, new.vacant place inside]
  temp := by
    intro sub inside
    obtain ⟨made, done, ready, shown⟩ := h.exists_init new
    refine ⟨made, (temp_of_init done sub).trans ?_⟩
    rw [path_eq_of_root_eq shown.root_eq, shown.nodes, ready]
    simp only [isSome_laid_iff new inside]
  content := by
    intro sub inside
    rw [content?]
    cases found : files.lookup (Path.names (start.path sub)) with
    | some content => exact h.content?_of_lookup found
    | none => exact h.content?_of_lookup_eq_none new found (.inr inside)
  write := by
    intro sub content inside
    obtain ⟨made, done, ready, shown⟩ := h.exists_init new
    rw [← shown.blocked_iff new ready inside]
    rcases shown.write_cases ready done sub content with ⟨blocked, failed⟩ | ⟨free, next, done, -⟩
    · rw [failed]
      exact iff_of_true ⟨_, rfl⟩ blocked
    · rw [done]
      exact iff_of_false (not_exists_ok_eq_error _) free
  failed := by
    rintro sub content ⟨f, bad⟩
    obtain ⟨made, done, ready, shown⟩ := h.exists_init new
    rcases shown.write_cases ready done sub content with ⟨-, failed⟩ | ⟨-, next, done, -⟩
    · rw [failed, done]
    · rw [done] at bad
      cases bad

end Map

end FilterScript.Storage
