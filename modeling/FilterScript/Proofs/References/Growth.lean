import FilterScript.Proofs.Text.Casing
import FilterScript.References

/-!
# References only grow

The kind of a file is a matter of its path, so making a reference again changes nothing at all. What
is there stays, and what is new goes to the end.

* **Kinds** (`ReferenceKind.ofPath?_eq_script_iff`, `ReferenceKind.ofPath?_eq_plugin_iff`): the kind of a file is
  told by its extension.
* **One reference** (`growsTo_insert`): references grow by one at most.
* **Loading** (`growsTo_of_load_eq_ok`, `growsTo_autoload`): so they do where files are loaded, also
  where loading a directory fails halfway.
* **Merging** (`growsTo_merge`, `mem_merge`): references that are merged in are there afterwards.
-/

namespace FilterScript

/-! ## Kinds -/

namespace ReferenceKind

/-- The extension of a path in small letters. -/
def smallExtension (path : String) : String :=
  Text.small (String.ofList (Path.extension path.toList))

/-- **Kinds**: scripts are told by one of two extensions. -/
theorem ofPath?_eq_script_iff {path : String} :
    ofPath? path = some script ↔ smallExtension path = ".avs" ∨ smallExtension path = ".avsi" := by
  unfold ofPath? smallExtension
  split
  · next h => simp [h]
  · next h => simp [h]
  · next h => simp [h]
  · next avs avsi _ =>
    constructor
    · exact fun none => nomatch none
    · rintro (h | h)
      · exact absurd h avs
      · exact absurd h avsi

/-- **Kinds**: plugins are told by one extension. -/
theorem ofPath?_eq_plugin_iff {path : String} :
    ofPath? path = some plugin ↔ smallExtension path = ".dll" := by
  unfold ofPath? smallExtension
  split
  · next h => simp [h]
  · next h => simp [h]
  · next h => simp [h]
  · next dll =>
    constructor
    · exact fun none => nomatch none
    · exact fun h => absurd h dll

/-- The extensions of the files of a kind. -/
def extensions : ReferenceKind → List String
  | script => [".avs", ".avsi"]
  | plugin => [".dll"]

/-- Whether a path has an extension of a kind, with ASCII letters of either case. -/
def IsOf (kind : ReferenceKind) (path : String) : Prop :=
  (Path.extension path.toList).map Char.toLower ∈ kind.extensions.map String.toList

instance (kind : ReferenceKind) (path : String) : Decidable (kind.IsOf path) :=
  inferInstanceAs (Decidable (_ ∈ _))

/-- A plain extension is met by its spellings in either case and by nothing else. -/
theorem smallExtension_eq_iff {path t : String} (plain : Text.IsAsciiNoK t.toList) :
    smallExtension path = t ↔ (Path.extension path.toList).map Char.toLower = t.toList := by
  rw [smallExtension, Text.small_eq_iff plain, String.toList_ofList]

/-- **Kinds**: no letters but those of ASCII are taken for letters of an extension. -/
theorem ofPath?_eq_some_iff {path : String} {kind : ReferenceKind} :
    ofPath? path = some kind ↔ kind.IsOf path := by
  cases kind with
  | script =>
    rw [ofPath?_eq_script_iff, smallExtension_eq_iff (by decide), smallExtension_eq_iff (by decide)]
    simp [IsOf, extensions]
  | plugin =>
    rw [ofPath?_eq_plugin_iff, smallExtension_eq_iff (by decide)]
    simp [IsOf, extensions]

end ReferenceKind

namespace References

/-- Whether each file has the kind that its extension says. -/
def IsTyped (refs : References) : Prop :=
  ∀ entry ∈ refs, ReferenceKind.ofPath? entry.1 = some entry.2

/-- No reference, no wrong kind. -/
theorem isTyped_nil : IsTyped [] :=
  fun _ absent => nomatch absent

/-- Whether the second references have the first ones in front. -/
def GrowsTo (before after : References) : Prop :=
  IsTyped before → IsTyped after ∧ before <+: after

/-- Growth by nothing. -/
theorem GrowsTo.refl (refs : References) : GrowsTo refs refs :=
  fun typed => ⟨typed, List.prefix_rfl⟩

/-- Growth twice. -/
theorem GrowsTo.trans {first second third : References} (h : GrowsTo first second)
    (h' : GrowsTo second third) : GrowsTo first third := by
  intro typed
  obtain ⟨typedSecond, front⟩ := h typed
  obtain ⟨typedThird, more⟩ := h' typedSecond
  exact ⟨typedThird, front.trans more⟩

/-! ## One reference -/

section Insert

variable {path other : String} {kind : ReferenceKind} {refs : References}

/-- A new path goes behind the others. -/
theorem insert_of_not_mem (h : path ∉ refs.map Prod.fst) (kind : ReferenceKind) :
    refs.insert path kind = refs ++ [(path, kind)] := by
  induction refs with
  | nil => rfl
  | cons entry rest ih =>
    rw [List.map_cons, List.mem_cons, not_or] at h
    obtain ⟨differ, behind⟩ := h
    rw [insert, if_neg (Ne.symm differ), ih behind, List.cons_append]

/-- Making a reference again changes nothing. -/
theorem insert_of_mem (typed : IsTyped refs) (h : path ∈ refs.map Prod.fst)
    (known : ReferenceKind.ofPath? path = some kind) : refs.insert path kind = refs := by
  induction refs with
  | nil => cases h
  | cons entry rest ih =>
    obtain ⟨p, k⟩ := entry
    rw [insert]
    by_cases same : p = path
    · have kinds : ReferenceKind.ofPath? p = some k := typed (p, k) List.mem_cons_self
      rw [same, known, Option.some.injEq] at kinds
      rw [if_pos same, kinds]
    · have behind := (List.mem_cons.1 h).resolve_left (Ne.symm same)
      rw [if_neg same, ih (fun e inside => typed e (List.mem_cons_of_mem _ inside)) behind]

/-- **One reference**: references grow by one at most. -/
theorem growsTo_insert (known : ReferenceKind.ofPath? path = some kind) :
    GrowsTo refs (refs.insert path kind) := by
  intro typed
  by_cases h : path ∈ refs.map Prod.fst
  · rw [insert_of_mem typed h known]
    exact ⟨typed, List.prefix_rfl⟩
  · rw [insert_of_not_mem h]
    refine ⟨fun entry inside => ?_, List.prefix_append _ _⟩
    rcases List.mem_append.1 inside with old | new
    · exact typed entry old
    · rw [List.mem_singleton.1 new]
      exact known

/-- What is inserted is there. -/
theorem mem_insert_self (path : String) (kind : ReferenceKind) (refs : References) :
    (path, kind) ∈ refs.insert path kind := by
  induction refs with
  | nil => exact List.mem_cons_self
  | cons entry rest ih =>
    rw [insert]
    split
    · next same => exact same ▸ List.mem_cons_self
    · exact List.mem_cons_of_mem entry ih

/-- A reference is lost to one that gives its file another kind, and to no other. -/
theorem mem_insert_of_mem {entry : String × ReferenceKind} (h : entry ∈ refs)
    (kept : path = entry.1 → kind = entry.2) : entry ∈ refs.insert path kind := by
  induction refs with
  | nil => cases h
  | cons head rest ih =>
    rw [insert]
    rcases List.mem_cons.1 h with rfl | behind
    · split
      · next same => exact kept same.symm ▸ List.mem_cons_self
      · exact List.mem_cons_self
    · split
      · exact List.mem_cons_of_mem _ behind
      · exact List.mem_cons_of_mem _ (ih behind)

end Insert

/-! ## Merging -/

section Merge

variable {refs more : References} {entry : String × ReferenceKind}

/-- **Merging** typed references: nothing is lost. -/
theorem growsTo_merge (typed : IsTyped more) : GrowsTo refs (refs.merge more) := by
  induction more generalizing refs with
  | nil => exact GrowsTo.refl refs
  | cons head rest ih =>
    obtain ⟨known, others⟩ := List.forall_mem_cons.1 typed
    exact (growsTo_insert known).trans (ih others)

/-- Merging typed references keeps an entry that has the kind of its extension. -/
theorem mem_merge_of_mem (typed : IsTyped more) (h : entry ∈ refs)
    (known : ReferenceKind.ofPath? entry.1 = some entry.2) : entry ∈ refs.merge more := by
  induction more generalizing refs with
  | nil => exact h
  | cons head rest ih =>
    obtain ⟨kind, others⟩ := List.forall_mem_cons.1 typed
    refine ih others (mem_insert_of_mem h fun same => ?_)
    rw [same, known, Option.some.injEq] at kind
    exact kind.symm

/-- **Merging** typed references: they are there afterwards. -/
theorem mem_merge (typed : IsTyped more) (h : entry ∈ more) : entry ∈ refs.merge more := by
  induction more generalizing refs with
  | nil => cases h
  | cons head rest ih =>
    obtain ⟨path, kind⟩ := head
    obtain ⟨known, others⟩ := List.forall_mem_cons.1 typed
    rw [merge_cons]
    rcases List.mem_cons.1 h with rfl | behind
    · exact mem_merge_of_mem others (mem_insert_self path kind refs) known
    · exact ih others behind

end Merge

/-! ## Loading -/

section Load

variable {host : Host} {path directory : String} {ignore : Bool} {refs done : References}
  {kind : Option ReferenceKind}

/-- What loading a file does if it does not fail: the file is skipped, or referenced as what its
extension says. -/
theorem load_eq_ok (h : load host path ignore refs = .ok (done, kind)) :
    (ignore = true ∧ kind = none ∧ done = refs) ∨
    (∃ known, kind = some known ∧ Path.isValid (host.resolve path) = true ∧
      host.isFile (host.resolve path) = true ∧
      ReferenceKind.ofPath? (host.resolve path) = some known ∧
      done = refs.insert (host.resolve path) known) := by
  unfold load at h
  dsimp only at h
  split at h
  · cases h
  · next valid =>
    split at h
    · split at h
      · next skip =>
        cases h
        exact .inl ⟨skip, rfl, rfl⟩
      · cases h
    · next present =>
      split at h
      · next known found =>
        cases h
        exact .inr ⟨known, rfl, by simpa using valid, by simpa using present, found, rfl⟩
      · split at h
        · next skip =>
          cases h
          exact .inl ⟨skip, rfl, rfl⟩
        · cases h

/-- A file of a known type is referenced, if there is one and its path may stand in a script. -/
theorem load_of_ofPath? {known : ReferenceKind} (valid : Path.isValid (host.resolve path) = true)
    (present : host.isFile (host.resolve path) = true)
    (found : ReferenceKind.ofPath? (host.resolve path) = some known) (ignore : Bool)
    (refs : References) :
    load host path ignore refs = .ok (refs.insert (host.resolve path) known, some known) := by
  simp [load, valid, present, found]

/-- A path without a file is refused. -/
theorem load_of_not_isFile (valid : Path.isValid (host.resolve path) = true)
    (missing : host.isFile (host.resolve path) = false) (refs : References) :
    load host path false refs = .error (.notAFile (host.resolve path)) := by
  simp [load, valid, missing]

/-- **Loading** a file. -/
theorem growsTo_of_load_eq_ok (h : load host path ignore refs = .ok (done, kind)) :
    GrowsTo refs done := by
  obtain ⟨-, -, rfl⟩ | ⟨known, -, -, -, found, rfl⟩ := load_eq_ok h
  · exact GrowsTo.refl done
  · exact growsTo_insert found

/-- Loading the entries of a directory only adds references. -/
theorem growsTo_loadAll (names : List String) (refs : References) :
    GrowsTo refs (loadAll host directory names refs).1 := by
  induction names generalizing refs with
  | nil => exact GrowsTo.refl refs
  | cons name rest ih =>
    rw [loadAll_cons]
    cases loaded : load host (Path.joined directory name) true refs with
    | ok result => exact (growsTo_of_load_eq_ok loaded).trans (ih result.1)
    | error e => exact GrowsTo.refl refs

/-- **Loading** the files of a directory, whether or not it fails. -/
theorem growsTo_autoload (host : Host) (directory : String) (refs : References) :
    GrowsTo refs (autoload host directory refs).1 := by
  unfold autoload
  dsimp only
  split
  · exact GrowsTo.refl refs
  · split
    · exact growsTo_loadAll _ refs
    · exact GrowsTo.refl refs

end Load

/-! ## Files -/

/-- Whether references hold a file that is given by its path, as what its extension says. -/
def HoldsFile (host : Host) (refs : References) (file : Value) : Prop :=
  ∃ path kind, file.toText? = some path ∧ ReferenceKind.ofPath? (host.resolve path) = some kind ∧
    (host.resolve path, kind) ∈ refs

/-- A file that is held stays so as references are added. -/
theorem HoldsFile.of_subset {host : Host} {refs more : References} {file : Value}
    (h : refs.HoldsFile host file) (sub : refs ⊆ more) : more.HoldsFile host file := by
  obtain ⟨path, kind, named, known, inside⟩ := h
  exact ⟨path, kind, named, known, sub inside⟩

end References

end FilterScript
