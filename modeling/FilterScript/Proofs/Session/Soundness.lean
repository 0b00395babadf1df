import FilterScript.Proofs.Session.Shares

/-!
# References lead to files

However a file was referenced, for all scripts or for one, by itself, with its directory or since a
filter requires it, the reference says the same of it: where it is, and of what kind it is.

* **One reference** (`isFound_of_reference?`): what the reference of a path says.
* **All references** (`areFound_references_after`): so it is with every reference that is ever there.
-/

namespace FilterScript

/-! ## One reference -/

namespace References

/-- What a reference says of the files of a machine. -/
structure IsFound (files : FileTree Document) (entry : String × ReferenceKind) : Prop where
  /-- The path begins at the root. -/
  absolute : entry.1.toList.head? = some '/'
  /-- The path stands for itself in every directory. -/
  resolved : ∀ directory, Path.resolve directory entry.1 = entry.1
  /-- Scripts have the characters of the path. -/
  supported : ∀ c ∈ entry.1.toList, Path.isSupported c = true
  /-- The path has no quotation mark. -/
  unquoted : '"' ∉ entry.1.toList
  /-- The path is on one line. -/
  oneLine : '\n' ∉ entry.1.toList
  /-- There is a file at the path. -/
  present : files.isFile (Path.names entry.1) = true
  /-- The file is a script exactly if it has one of their extensions. -/
  script_iff : entry.2 = .script ↔
    ReferenceKind.smallExtension entry.1 = ".avs" ∨ ReferenceKind.smallExtension entry.1 = ".avsi"
  /-- The file is a plugin exactly if it has their extension. -/
  plugin_iff : entry.2 = .plugin ↔ ReferenceKind.smallExtension entry.1 = ".dll"

/-- Whether references have each path once, and all that they say of the files of a machine is so.
-/
structure AreFound (files : FileTree Document) (refs : References) : Prop where
  /-- Each path is there once. -/
  nodup : (refs.map Prod.fst).Nodup
  /-- What each reference says is so. -/
  isFound : ∀ entry ∈ refs, IsFound files entry

/-- **One reference** says what it says of the file that it was made for. -/
theorem isFound_of_reference? {host : Host} {path : String} {entry : String × ReferenceKind}
    (made : reference? host path = some entry) : IsFound host.files entry := by
  obtain ⟨valid, present, full, found⟩ := reference?_eq_some_iff.1 made
  have resolved : Path.IsResolved entry.1 := full ▸ Path.isResolved_resolve host.directory path
  rw [full] at valid present found
  have place : host.place entry.1 = Path.names entry.1 :=
    congrArg Path.names (resolved host.directory)
  have supported : ∀ c ∈ entry.1.toList, Path.isSupported c = true :=
    List.all_eq_true.1 (Bool.and_eq_true_iff.1 valid).2
  obtain ⟨unquoted, oneLine⟩ := Path.not_mem_of_isValid valid
  refine ⟨resolved.head?, resolved, supported, unquoted, oneLine, ?_, ?_, ?_⟩
  · rw [Host.isFile, place] at present
    exact present
  · rw [← ReferenceKind.ofPath?_eq_script_iff, found, Option.some.injEq]
  · rw [← ReferenceKind.ofPath?_eq_plugin_iff, found, Option.some.injEq]

/-- References that were made one after the other say what is so. -/
theorem areFound_eraseDups {files : FileTree Document} {made : References}
    (sound : ∀ entry ∈ made, ∃ host path, host.files = files ∧ reference? host path = some entry) :
    AreFound files made.eraseDups := by
  have typed : made.IsTyped := by
    intro entry inside
    obtain ⟨host, path, -, known⟩ := sound entry inside
    exact (areMade_reference? host path).isTyped entry (Option.mem_toList.2 known)
  refine ⟨(isTyped_eraseDups typed).nodup_map_fst (nodup_eraseDups made), fun entry inside => ?_⟩
  obtain ⟨host, path, rfl, known⟩ := sound entry (List.mem_eraseDups.1 inside)
  exact isFound_of_reference? known

end References

/-! ## All references -/

namespace Session

/-- **All references**: whatever is done in a session in which nothing was referenced before, what
the references of the environment and of each script say is so, on a machine whose files stay as
they are. The working directory may change. -/
theorem areFound_references_after {files : FileTree Document} (registry : Registry)
    (storage : Storage) {operations : List (Host × Operation)}
    (fixed : ∀ entry ∈ operations, entry.1.files = files) :
    let s := after ⟨{ registry := registry, references := [], storage := storage }, []⟩ operations
    s.environment.references.AreFound files ∧
      ∀ id script, s.script? id = some script → script.script.references.AreFound files := by
  intro s
  constructor
  · have made : s.environment.references = References.merge [] (shared operations) :=
      references_after _ operations
    rw [made, References.merge_nil_left (isTyped_shared operations)]
    refine References.areFound_eraseDups fun entry inside => ?_
    obtain ⟨host, operation, path, done, known⟩ := exists_of_mem_shared inside
    exact ⟨host, path, fixed (host, operation) done, known⟩
  · intro id script there
    rw [references_eq_eraseDups there]
    refine References.areFound_eraseDups fun entry inside => ?_
    obtain absent | ⟨host, operation, path, done, known⟩ := exists_of_mem_own inside
    · cases absent
    · exact ⟨host, path, fixed (host, operation) done, known⟩

/-- A file with a capital extension, spelled with dots and doubled slashes, and then again from
another directory: it is referenced once, and what the reference says is so. -/
theorem areFound_references_after_spellings :
    let files : FileTree Document := ⟨[(["clips"], .folder), (["clips", "A.AVSI"], .file (.text ""))]⟩
    let storage : Storage := .inDirectory "/tmp" "avsgen" 1
    let operations : List (Host × Operation) := [
      ({ directory := "/clips", files := files }, .loadForAll "x/..//./A.AVSI" false),
      ({ directory := "/", files := files }, .newScript "s" ""),
      ({ directory := "/", files := files }, .load "s" "clips/A.AVSI" false),
      ({ directory := "/", files := files }, .loadForAll "///clips/A.AVSI" false)]
    let s := after ⟨{ registry := .empty, references := [], storage := storage }, []⟩ operations
    s.environment.references = [("/clips/A.AVSI", .script)] ∧
      References.IsFound files ("/clips/A.AVSI", .script) := by
  intro files storage operations s
  have fixed : ∀ entry ∈ operations, entry.1.files = files := by simp [operations]
  have sound := (areFound_references_after .empty storage fixed).1
  have there : s.environment.references = [("/clips/A.AVSI", .script)] := by decide +kernel
  exact ⟨there, sound.isFound _ (there ▸ List.mem_cons_self)⟩

end Session

end FilterScript
