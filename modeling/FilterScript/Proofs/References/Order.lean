import FilterScript.Proofs.Path.Canonical
import FilterScript.Proofs.References.Growth
import FilterScript.Proofs.Repetitions

/-!
# The order of references

Which reference a path makes does not depend on what is referenced already. So references are told by
the references that were made, in the order in which they were made first.

* **One path** (`merge_of_load_eq_ok`, `reference?_of_load_eq_error`): loading a file makes the
  reference of its path, or fails where there is none.
* **Directories** (`fst_autoload`): loading a directory makes the references of its files in the
  order of their names, up to the first path that no script can hold.
* **Order** (`merge_eq`, `merge_nil_left`): references that are merged in are put behind those that
  are there, each once, in the order in which they come first.
-/

namespace FilterScript

namespace References

/-! ## What is made -/

/-- The reference that a path makes: there is one if the path may stand in a script and leads to a
file of a known type. -/
def reference? (host : Host) (path : String) : Option (String × ReferenceKind) :=
  if Path.isValid (host.resolve path) ∧ host.isFile (host.resolve path) then
    (ReferenceKind.ofPath? (host.resolve path)).map (host.resolve path, ·)
  else none

/-- The references that the files of a directory with the given names make, up to the first path
that no script can hold. -/
def referencesOf (host : Host) (directory : String) (names : List String) : References :=
  ((names.map (Path.joined directory)).takeWhile fun path =>
    Path.isValid (host.resolve path)).filterMap (reference? host)

/-- The references that a directory makes. -/
def referencesIn (host : Host) (directory : String) : References :=
  if Path.isValid (host.resolve directory) then
    referencesOf host (host.resolve directory)
      ((host.listDirectory? (host.resolve directory)).getD [])
  else []

section Made

variable {host : Host} {path directory : String} {ignore : Bool} {refs done : References}
  {kind : Option ReferenceKind} {entry : String × ReferenceKind}

/-- When a path makes a reference, and which. -/
theorem reference?_eq_some_iff :
    reference? host path = some entry ↔
      Path.isValid (host.resolve path) = true ∧ host.isFile (host.resolve path) = true ∧
        host.resolve path = entry.1 ∧ ReferenceKind.ofPath? (host.resolve path) = some entry.2 := by
  unfold reference?
  split
  · next h =>
    obtain ⟨valid, present⟩ := h
    rw [Option.map_eq_some_iff]
    constructor
    · rintro ⟨kind, found, rfl⟩
      exact ⟨valid, present, rfl, found⟩
    · rintro ⟨-, -, full, found⟩
      exact ⟨entry.2, found, Prod.ext full rfl⟩
  · next h =>
    constructor
    · exact fun none => nomatch none
    · exact fun ⟨valid, present, _⟩ => absurd ⟨valid, present⟩ h

/-- **One path**: what loading a file makes of the references, if it does not fail. -/
theorem merge_of_load_eq_ok (h : load host path ignore refs = .ok (done, kind)) :
    done = refs.merge (reference? host path).toList := by
  cases made : reference? host path with
  | some entry =>
    obtain ⟨valid, present, full, found⟩ := reference?_eq_some_iff.1 made
    rw [load_of_ofPath? valid present found, full] at h
    exact (Prod.mk.inj (Except.ok.inj h)).1.symm
  | none =>
    obtain ⟨-, -, rfl⟩ | ⟨known, -, valid, present, found, -⟩ := load_eq_ok h
    · rfl
    · have some : reference? host path = some (host.resolve path, known) :=
        reference?_eq_some_iff.2 ⟨valid, present, rfl, found⟩
      rw [made] at some
      cases some

/-- **One path**: a path that makes a reference can be loaded. -/
theorem reference?_of_load_eq_error {e : Error} (h : load host path ignore refs = .error e) :
    reference? host path = none := by
  cases made : reference? host path with
  | none => rfl
  | some entry =>
    obtain ⟨valid, present, -, found⟩ := reference?_eq_some_iff.1 made
    rw [load_of_ofPath? valid present found] at h
    cases h

/-- Where errors are ignored, loading fails only at a path that no script can hold. -/
theorem load_ignored (valid : Path.isValid (host.resolve path) = true) (refs : References) :
    ∃ kind, load host path true refs = .ok (refs.merge (reference? host path).toList, kind) := by
  cases loaded : load host path true refs with
  | ok result =>
    obtain ⟨done, kind⟩ := result
    exact ⟨kind, by rw [merge_of_load_eq_ok loaded]⟩
  | error e =>
    exfalso
    simp only [load, valid, Bool.not_true, Bool.false_eq_true, if_false, if_true] at loaded
    split at loaded
    · cases loaded
    · split at loaded <;> cases loaded

/-- A path that is not valid is refused. -/
theorem load_of_not_isValid (invalid : ¬Path.isValid (host.resolve path) = true) (ignore : Bool)
    (refs : References) :
    load host path ignore refs = .error (.invalidPath (host.resolve path)) := by
  simp [load, invalid]

/-- Merging two lists is merging one after the other. -/
theorem merge_append (refs more behind : References) :
    refs.merge (more ++ behind) = (refs.merge more).merge behind :=
  List.foldl_append

/-- The references of a listing, past a valid name. -/
theorem referencesOf_cons {name : String}
    (valid : Path.isValid (host.resolve (Path.joined directory name)) = true) (rest : List String) :
    referencesOf host directory (name :: rest) =
      (reference? host (Path.joined directory name)).toList ++ referencesOf host directory rest := by
  rw [referencesOf, List.map_cons, List.takeWhile_cons, if_pos valid]
  cases made : reference? host (Path.joined directory name) with
  | none => exact List.filterMap_cons_none made
  | some entry => exact List.filterMap_cons_some made

/-- A name that is not valid ends them. -/
theorem referencesOf_cons_of_not_isValid {name : String}
    (invalid : ¬Path.isValid (host.resolve (Path.joined directory name)) = true) (rest : List String) :
    referencesOf host directory (name :: rest) = [] := by
  rw [referencesOf, List.map_cons, List.takeWhile_cons, if_neg invalid]
  rfl

/-- Loading entries merges the references of the listing, whether it fails or not. -/
theorem fst_loadAll (host : Host) (directory : String) (names : List String) (refs : References) :
    (loadAll host directory names refs).1 = refs.merge (referencesOf host directory names) := by
  induction names generalizing refs with
  | nil => rfl
  | cons name rest ih =>
    rw [loadAll_cons]
    by_cases valid : Path.isValid (host.resolve (Path.joined directory name)) = true
    · obtain ⟨kind, loaded⟩ := load_ignored valid refs
      rw [loaded, referencesOf_cons valid, merge_append]
      exact ih _
    · rw [load_of_not_isValid valid, referencesOf_cons_of_not_isValid valid, merge_nil]

/-- **Directories**: what loading a directory makes of the references, whether or not it fails. -/
theorem fst_autoload (host : Host) (directory : String) (refs : References) :
    (autoload host directory refs).1 = refs.merge (referencesIn host directory) := by
  unfold autoload referencesIn
  dsimp only
  by_cases valid : Path.isValid (host.resolve directory) = true
  · rw [if_pos valid, if_neg (by simp [valid])]
    cases host.listDirectory? (host.resolve directory) with
    | some names => exact fst_loadAll host _ names refs
    | none => rfl
  · rw [if_neg valid, if_pos (by simpa using valid)]
    rfl

/-- Whether each of the references is made by a path on a machine. -/
def AreMade (host : Host) (refs : References) : Prop :=
  ∀ entry ∈ refs, ∃ path, reference? host path = some entry

/-- The reference of a path is made by loading it. -/
theorem areMade_reference? (host : Host) (path : String) :
    AreMade host (reference? host path).toList :=
  fun _ made => ⟨path, Option.mem_toList.1 made⟩

/-- So are those of a directory. -/
theorem areMade_referencesIn (host : Host) (directory : String) :
    AreMade host (referencesIn host directory) := by
  intro entry inside
  unfold referencesIn at inside
  split at inside
  · obtain ⟨path, -, made⟩ := List.mem_filterMap.1 inside
    exact ⟨path, made⟩
  · cases inside

/-- References made by loading carry the kinds of their extensions. -/
theorem AreMade.isTyped (h : AreMade host refs) : refs.IsTyped := by
  intro entry inside
  obtain ⟨path, made⟩ := h entry inside
  obtain ⟨-, -, full, found⟩ := reference?_eq_some_iff.1 made
  exact full ▸ found

end Made

/-! ## Order -/

section Order

variable {refs more behind : References} {path : String} {kind : ReferenceKind}
  {entry : String × ReferenceKind}

/-- Two lists together are typed when both are. -/
theorem isTyped_append : IsTyped (refs ++ more) ↔ refs.IsTyped ∧ more.IsTyped :=
  List.forall_mem_append

/-- Some of the entries of a typed list make a typed list. -/
theorem IsTyped.of_subset (typed : more.IsTyped) (sub : refs ⊆ more) : refs.IsTyped :=
  fun entry inside => typed entry (sub inside)

/-- In a typed list a path is there only with the kind of its extension. -/
theorem IsTyped.mem_map_fst_iff (typed : refs.IsTyped)
    (known : ReferenceKind.ofPath? entry.1 = some entry.2) :
    entry.1 ∈ refs.map Prod.fst ↔ entry ∈ refs := by
  constructor
  · intro inside
    obtain ⟨other, there, same⟩ := List.mem_map.1 inside
    have kinds := typed other there
    rw [same, known, Option.some.injEq] at kinds
    have both : other = entry := Prod.ext same kinds.symm
    exact both ▸ there
  · exact fun there => List.mem_map.2 ⟨entry, there, rfl⟩

/-- Making a reference again changes nothing, and a new one goes to the end. -/
theorem insert_eq (typed : refs.IsTyped) (known : ReferenceKind.ofPath? entry.1 = some entry.2) :
    refs.insert entry.1 entry.2 = if entry ∈ refs then refs else refs ++ [entry] := by
  split
  · next old => exact insert_of_mem typed ((typed.mem_map_fst_iff known).2 old) known
  · next new => exact insert_of_not_mem (fun old => new ((typed.mem_map_fst_iff known).1 old)) _

/-- Leaving out what is there already leaves nothing out. -/
theorem mem_append_filter_iff : entry ∈ refs ++ more.filter (· ∉ refs) ↔ entry ∈ refs ++ more := by
  rw [List.mem_append, List.mem_append, List.mem_filter, decide_eq_true_eq]
  simp only [or_and_left, Classical.em, and_true]

/-- **Order**: references that are merged in are put behind those that are there, each once, in the
order in which they come first. -/
theorem merge_eq (typed : refs.IsTyped) (typedMore : more.IsTyped) :
    refs.merge more = refs ++ more.eraseDups.filter (· ∉ refs) := by
  induction more using List.reverseRecOn with
  | nil => simp [merge_nil]
  | append_singleton more entry ih =>
    obtain ⟨typedFront, typedLast⟩ := isTyped_append.1 typedMore
    have known := typedLast entry List.mem_cons_self
    have front := ih typedFront
    have typedMerged : (refs.merge more).IsTyped := (growsTo_merge typedFront typed).1
    have members : entry ∈ refs.merge more ↔ entry ∈ refs ∨ entry ∈ more := by
      rw [front, mem_append_filter_iff, List.mem_append, List.mem_eraseDups]
    rw [merge_append, merge_cons, merge_nil, insert_eq typedMerged known, eraseDups_concat]
    by_cases old : entry ∈ more
    · rw [if_pos (members.2 (.inr old)), if_pos old, front]
    · rw [if_neg old, List.filter_append, ← List.append_assoc, ← front]
      by_cases there : entry ∈ refs
      · rw [if_pos (members.2 (.inl there))]
        simp [there]
      · rw [if_neg fun h => (members.1 h).elim there old]
        simp [there]

/-- Merging brings in no repetitions. -/
theorem nodup_merge (typed : refs.IsTyped) (typedMore : more.IsTyped) (apart : refs.Nodup) :
    (refs.merge more).Nodup := by
  rw [merge_eq typed typedMore, List.nodup_append]
  refine ⟨apart, (nodup_eraseDups more).filter _, fun first old second new same => ?_⟩
  have fresh := (List.mem_filter.1 new).2
  rw [decide_eq_true_eq, ← same] at fresh
  exact fresh old

/-- **Order**: references that are made one after the other are there once each, in the order in
which they were made first. -/
theorem merge_nil_left (typed : more.IsTyped) : merge [] more = more.eraseDups := by
  rw [merge_eq isTyped_nil typed]
  simp

/-- A typed list stays one without its repetitions. -/
theorem isTyped_eraseDups (typed : refs.IsTyped) : IsTyped refs.eraseDups :=
  typed.of_subset fun _ => List.mem_eraseDups.1

/-- Making references again while they are merged in changes nothing. -/
theorem merge_eraseDups (typed : refs.IsTyped) (typedMore : more.IsTyped) :
    refs.merge more.eraseDups = refs.merge more := by
  have once : more.eraseDups.eraseDups = more.eraseDups := eraseDups_of_nodup (nodup_eraseDups more)
  rw [merge_eq typed typedMore, merge_eq typed (isTyped_eraseDups typedMore), once]

/-- Typed references without repetitions refer to each path once. -/
theorem IsTyped.nodup_map_fst (typed : refs.IsTyped) (apart : refs.Nodup) :
    (refs.map Prod.fst).Nodup := by
  refine apart.map_on fun entry inside other there same => ?_
  have kinds := typed entry inside
  rw [same, typed other there, Option.some.injEq] at kinds
  exact Prod.ext same kinds.symm

end Order

end References

end FilterScript
