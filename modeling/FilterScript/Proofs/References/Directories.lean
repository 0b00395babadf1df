import FilterScript.Proofs.References.Order

/-!
# References of a directory

A directory is loaded entry by entry, in the order of the names. Entries that are no files or of no known type
are passed over, and the first path that no script can hold ends it, whatever is there. What was referenced up to
then stays.

* **Listings** (`listDirectory?_eq_some`): the entries of a directory in the order of their names.
* **Updates** (`isUpdated_merge`): references that are there keep their places, and new ones go to the end.
* **Entries** (`map_fst_referencesOf`): the files in front of the first path that no script can hold.
* **Answers** (`snd_loadAll_eq_ok`, `snd_loadAll_eq_error`): that path is reported.
-/

namespace FilterScript

/-! ## Listings -/

/-- Whether names are those of the entries of a directory, in the order of their code points. -/
structure Host.IsListing (host : Host) (path : String) (names : List String) : Prop where
  /-- These are the entries. -/
  entries : names.Perm (host.files.children (host.place path))
  /-- They are in order. -/
  sorted : names.Pairwise (· ≤ ·)

/-- The entries of a directory are listed. -/
theorem Host.isListing_of_listDirectory? {host : Host} {path : String} {names : List String}
    (h : host.listDirectory? path = some names) : host.IsListing path names := by
  unfold listDirectory? at h
  split at h
  · obtain rfl := Option.some.inj h
    have transitive : ∀ a b c : String, decide (a ≤ b) = true → decide (b ≤ c) = true →
        decide (a ≤ c) = true := by
      intro a b c first second
      exact decide_eq_true (String.le_trans (of_decide_eq_true first) (of_decide_eq_true second))
    have total : ∀ a b : String, (decide (a ≤ b) || decide (b ≤ a)) = true := by
      intro a b
      simp [String.le_total a b]
    have sorted := List.pairwise_mergeSort transitive total (host.files.children (host.place path))
    exact ⟨List.mergeSort_perm _ _, sorted.imp of_decide_eq_true⟩
  · cases h

/-- **Listings**: there is one order of the names. -/
theorem Host.listDirectory?_eq_some {host : Host} {path : String} {names : List String}
    (folder : host.files.isFolder (host.place path) = true) (listing : host.IsListing path names) :
    host.listDirectory? path = some names := by
  have listed : host.listDirectory? path = some _ := if_pos folder
  have first := isListing_of_listDirectory? listed
  rw [listed, Option.some.injEq]
  exact List.Perm.eq_of_pairwise (fun a b _ _ => String.le_antisymm) first.sorted listing.sorted
    (first.entries.trans listing.entries.symm)

namespace References

/-! ## Updates -/

section Updates

variable {refs more done : References} {path : String}

/-- Whether references are those of before with some files made anew, in their order: the files that
are there keep their places, the others are put behind them, and each has the kind of its extension.
-/
structure IsUpdated (refs : References) (paths : List String) (done : References) : Prop where
  /-- Files that are there keep their places. -/
  order : done.map Prod.fst = refs.map Prod.fst ++ paths.eraseDups.filter (· ∉ refs.map Prod.fst)
  /-- The files are there with their kinds. -/
  made : ∀ path ∈ paths, ∃ kind : ReferenceKind, kind.IsOf path ∧ done.lookup path = some kind
  /-- Nothing else changes. -/
  kept : ∀ path, path ∉ paths → done.lookup path = refs.lookup path

/-- No file updates nothing. -/
theorem isUpdated_nil (refs : References) : IsUpdated refs [] refs :=
  ⟨by simp, fun _ absent => absurd absent List.not_mem_nil, fun _ _ => rfl⟩

/-- One more file. -/
theorem IsUpdated.insert {paths : List String} (updated : IsUpdated refs paths done) {kind : ReferenceKind}
    (is : kind.IsOf path) : IsUpdated refs (paths ++ [path]) (done.insert path kind) := by
  constructor
  · have members : path ∈ done.map Prod.fst ↔ path ∈ refs.map Prod.fst ∨ path ∈ paths := by
      rw [updated.order, List.mem_append, List.mem_filter, List.mem_eraseDups, decide_eq_true_eq]
      tauto
    rw [map_fst_insert, eraseDups_concat]
    by_cases old : path ∈ paths
    · rw [if_pos (members.2 (.inr old)), if_pos old, updated.order]
    · rw [if_neg old, List.filter_append, ← List.append_assoc, ← updated.order]
      by_cases there : path ∈ refs.map Prod.fst
      · rw [if_pos (members.2 (.inl there))]
        simp [there]
      · rw [if_neg fun h => (members.1 h).elim there old]
        simp [there]
  · intro other inside
    by_cases same : other = path
    · rw [same]
      exact ⟨kind, is, lookup_insert_self path kind done⟩
    · have before : other ∈ paths := by simpa [same] using inside
      rw [lookup_insert_of_ne same]
      exact updated.made other before
  · intro other outside
    rw [List.mem_append, not_or, List.mem_singleton] at outside
    rw [lookup_insert_of_ne outside.2, updated.kept other outside.1]

/-- **Updates**: references with others merged in. -/
theorem isUpdated_merge (typed : more.IsTyped) :
    IsUpdated refs (more.map Prod.fst) (refs.merge more) := by
  induction more using List.reverseRecOn with
  | nil => exact isUpdated_nil refs
  | append_singleton more entry ih =>
    obtain ⟨typedFront, typedLast⟩ := isTyped_append.1 typed
    have is := ReferenceKind.ofPath?_eq_some_iff.1 (typedLast entry List.mem_cons_self)
    rw [List.map_append, merge_append]
    exact (ih typedFront).insert is

end Updates

/-! ## Entries -/

section Entries

variable {host : Host} {directory : String} {names : List String} {refs : References}

/-- The path of an entry of a directory. -/
def entryPath (host : Host) (directory name : String) : String :=
  host.resolve (Path.joined directory name)

/-- The entries in front of the first one with a path that no script can hold. -/
def readable (host : Host) (directory : String) (names : List String) : List String :=
  names.takeWhile fun name => Path.isValid (entryPath host directory name)

/-- Whether there is a file of a known type at a path. -/
def IsKnownFile (host : Host) (path : String) : Prop :=
  host.isFile path = true ∧ (ReferenceKind.script.IsOf path ∨ ReferenceKind.plugin.IsOf path)

instance (host : Host) (path : String) : Decidable (IsKnownFile host path) :=
  inferInstanceAs (Decidable (_ ∧ _))

/-- The paths of the files of known types among the entries of a directory, in front of the first
entry with a path that no script can hold. -/
def filesOf (host : Host) (directory : String) (names : List String) : List String :=
  ((readable host directory names).map (entryPath host directory)).filter (IsKnownFile host ·)

/-- The files that loading knows: those that are there with a known extension. -/
theorem isKnownFile_iff {path : String} :
    IsKnownFile host path ↔ host.isFile path = true ∧ ∃ kind : ReferenceKind, kind.IsOf path := by
  refine and_congr_right fun _ => ⟨?_, ?_⟩
  · rintro (script | plugin)
    · exact ⟨.script, script⟩
    · exact ⟨.plugin, plugin⟩
  · rintro ⟨_ | _, is⟩
    · exact .inl is
    · exact .inr is

/-- The reference of a path that scripts can hold, if any, is to a file of a known type. -/
theorem map_fst_reference? {path : String} (valid : Path.isValid (host.resolve path) = true) :
    (reference? host path).toList.map Prod.fst =
      if IsKnownFile host (host.resolve path) then [host.resolve path] else [] := by
  cases made : reference? host path with
  | some entry =>
    obtain ⟨-, present, full, found⟩ := reference?_eq_some_iff.1 made
    have known : IsKnownFile host (host.resolve path) :=
      isKnownFile_iff.2 ⟨present, entry.2, ReferenceKind.ofPath?_eq_some_iff.1 found⟩
    rw [if_pos known, full]
    rfl
  | none =>
    have unknown : ¬IsKnownFile host (host.resolve path) := by
      intro known
      obtain ⟨present, kind, is⟩ := isKnownFile_iff.1 known
      have some : reference? host path = some (host.resolve path, kind) := reference?_eq_some_iff.2
        ⟨valid, present, rfl, ReferenceKind.ofPath?_eq_some_iff.2 is⟩
      rw [made] at some
      cases some
    rw [if_neg unknown]
    rfl

/-- The known files of a listing, one name at a time. -/
theorem filesOf_cons {name : String} (valid : Path.isValid (entryPath host directory name) = true)
    (rest : List String) :
    filesOf host directory (name :: rest) =
      (if IsKnownFile host (entryPath host directory name) then [entryPath host directory name] else []) ++
        filesOf host directory rest := by
  rw [filesOf, readable, List.takeWhile_cons, if_pos valid, List.map_cons, List.filter_cons]
  by_cases known : IsKnownFile host (entryPath host directory name)
  · rw [if_pos known, if_pos (decide_eq_true known)]
    rfl
  · rw [if_neg known, if_neg (by simpa using known)]
    rfl

/-- **Entries**: the references that a directory makes are to its files. -/
theorem map_fst_referencesOf (host : Host) (directory : String) (names : List String) :
    (referencesOf host directory names).map Prod.fst = filesOf host directory names := by
  induction names with
  | nil => rfl
  | cons name rest ih =>
    by_cases valid : Path.isValid (entryPath host directory name) = true
    · rw [referencesOf_cons valid, List.map_append, map_fst_reference? valid, ih, filesOf_cons valid]
      rfl
    · rw [referencesOf_cons_of_not_isValid valid, filesOf, readable, List.takeWhile_cons, if_neg valid]
      rfl

/-- The references of a listing carry the kinds of their extensions. -/
theorem isTyped_referencesOf (host : Host) (directory : String) (names : List String) :
    (referencesOf host directory names).IsTyped := by
  have made : AreMade host (referencesOf host directory names) := by
    intro entry inside
    obtain ⟨path, -, made⟩ := List.mem_filterMap.1 inside
    exact ⟨path, made⟩
  exact made.isTyped

/-- What loading the files of a directory makes of the references. -/
theorem isUpdated_loadAll (host : Host) (directory : String) (names : List String) (refs : References) :
    IsUpdated refs (filesOf host directory names) (loadAll host directory names refs).1 := by
  rw [fst_loadAll, ← map_fst_referencesOf]
  exact isUpdated_merge (isTyped_referencesOf host directory names)

/-- **Answers**: where scripts can hold all paths, nothing is reported. -/
theorem snd_loadAll_eq_ok
    (valid : ∀ name ∈ names, Path.isValid (entryPath host directory name) = true) (refs : References) :
    (loadAll host directory names refs).2 = .ok () := by
  induction names generalizing refs with
  | nil => rfl
  | cons name rest ih =>
    rw [List.forall_mem_cons] at valid
    obtain ⟨kind, loaded⟩ := load_ignored valid.1 refs
    rw [loadAll_cons, loaded]
    exact ih valid.2 _

/-- **Answers**: the first path that no script can hold is reported. -/
theorem snd_loadAll_eq_error {front behind : List String} {name : String}
    (valid : ∀ name ∈ front, Path.isValid (entryPath host directory name) = true)
    (invalid : ¬Path.isValid (entryPath host directory name) = true) (refs : References) :
    (loadAll host directory (front ++ name :: behind) refs).2 =
      .error (.invalidPath (entryPath host directory name)) := by
  induction front generalizing refs with
  | nil => rw [List.nil_append, loadAll_cons, load_of_not_isValid invalid]; rfl
  | cons first rest ih =>
    rw [List.forall_mem_cons] at valid
    obtain ⟨kind, loaded⟩ := load_ignored valid.1 refs
    rw [List.cons_append, loadAll_cons, loaded]
    exact ih valid.2 _

/-! ## The directory itself -/

/-- A directory whose path is not valid is refused. -/
theorem autoload_of_not_isValid {path : String} (invalid : ¬Path.isValid (host.resolve path) = true)
    (refs : References) :
    autoload host path refs = (refs, .error (.invalidPath (host.resolve path))) := by
  simp [autoload, invalid]

/-- So is one that is no folder. -/
theorem autoload_of_not_isFolder {path : String} (valid : Path.isValid (host.resolve path) = true)
    (missing : ¬host.files.isFolder (host.place (host.resolve path)) = true) (refs : References) :
    autoload host path refs = (refs, .error (.invalidDirectory (host.resolve path))) := by
  simp [autoload, valid, Host.listDirectory?, missing]

/-- Every other directory has its entries loaded. -/
theorem autoload_of_listDirectory? {path : String} (valid : Path.isValid (host.resolve path) = true)
    (listed : host.listDirectory? (host.resolve path) = some names) (refs : References) :
    autoload host path refs = loadAll host (host.resolve path) names refs := by
  simp [autoload, valid, listed]

end Entries

end References

end FilterScript
