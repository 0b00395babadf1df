import FilterScript.Proofs.Storage.Runs

/-!
# What a storage leaves behind

A storage writes where the path below its folder leads, and dots may lead it out of the folder. What is
written there is not removed when the storage is cleaned up. So a storage changes nothing outside, and
leaves nothing behind, exactly if what it has written is in the folder, or was there before.

* **Writing** (`Shows.after_of_ne_cleanUp`): what is shown after files were written.
* **Containment** (`after_writes`): what is changed outside the folder, and what is left after cleaning up.
* **Outside** (`write_outside`): a file that is written outside the folder, and is left there.
-/

namespace FilterScript

/-- Whether the folders on the way to each entry are there. -/
def FileTree.IsClosed {α : Type} (t : FileTree α) : Prop :=
  ∀ place other, other <+: place → other ≠ place → t.node? place ≠ none →
    t.node? other = some .folder

/-- A tree of one folder and the folders above it is closed. -/
theorem FileTree.isClosed_addFolder_nil {α : Type} (place : List String) :
    ((⟨[]⟩ : FileTree α).addFolder place).IsClosed := by
  intro here above onWay _ there
  rw [node?_addFolder_nil] at there ⊢
  by_cases inside : here <+: place
  · exact if_pos (onWay.trans inside)
  · exact absurd (if_neg inside) there

namespace Storage

/-! ## Writing -/

/-- The requests that write some files, each with the path below the folder and the content. -/
def writes (jobs : List (String × String)) : List Request :=
  jobs.map fun job => .write job.1 job.2

section Writing

variable {start s : Storage} {files : List (List String × String)} {place : List String}

/-- **Writing**: what is shown after requests without a cleaning up. -/
theorem Shows.after_of_ne_cleanUp (h : Shows start files s) {requests : List Request}
    (others : ∀ request ∈ requests, request ≠ .cleanUp) :
    Shows start (s.writtenFrom files requests) (s.after requests) := by
  induction requests generalizing s files with
  | nil => exact h
  | cons request rest ih =>
    obtain ⟨first, behind⟩ := List.forall_mem_cons.1 others
    exact ih (h.move first) behind

/-- What writes leave on an idle storage, whether they were answered with a path or not. -/
theorem shows_after_writes (idle : s.initialized = false) (jobs : List (String × String)) :
    Shows s (s.written (writes jobs)) (s.after (writes jobs)) := by
  refine (shows_self idle).after_of_ne_cleanUp fun request among => ?_
  obtain ⟨job, -, rfl⟩ := List.mem_map.1 among
  exact nofun

/-- Outside the folder a place that is not written is as it was, if what is written there was there
before. -/
theorem Shows.node?_of_before (h : Shows start files s) (unmade : start.IsUnmade)
    (closed : start.files.IsClosed) (outside : ¬Path.names start.root <+: place)
    (free : files.lookup place = none)
    (before : ∀ file ∈ files, Path.names start.root <+: file.1 ∨ start.files.node? file.1 ≠ none) :
    s.files.node? place = start.files.node? place := by
  refine h.node?_outside unmade outside free fun file among onWay => ?_
  have ne : place ≠ file.1 := by
    intro same
    obtain ⟨content, found⟩ := exists_lookup_of_mem among
    cases free.symm.trans (same ▸ found)
  exact (before file among).imp_right (closed file.1 place onWay ne)

end Writing

/-! ## Containment -/

/-- **Containment**: after files were written, each of them is at its place, and so are the folders
above it and those of the storage; all else is as it was. Cleaning up removes the folder of the
storage. Nothing is changed outside the folder exactly if each file that is written last at its
place is in the folder, or was there before with this content; and nothing new is left after
cleaning up exactly if each file that is written is in the folder, or was there before. -/
theorem after_writes {s : Storage} (unmade : s.IsUnmade) (closed : s.files.IsClosed)
    (jobs : List (String × String)) :
    let r := s.after (writes jobs)
    let files := s.written (writes jobs)
    (∀ place, r.files.node? place =
        laid s.files (scriptsPlace s.root) r.initialized files place) ∧
      (∀ place, r.cleanUp.files.node? place =
        if r.initialized = true ∧ Path.names s.root <+: place then none else r.files.node? place) ∧
      ((∀ place, ¬Path.names s.root <+: place → r.files.node? place = s.files.node? place) ↔
        ∀ place content, files.lookup place = some content →
          Path.names s.root <+: place ∨ s.files.node? place = some (.file content)) ∧
      ((∀ place, s.files.node? place = none → r.cleanUp.files.node? place = none) ↔
        ∀ file ∈ files, Path.names s.root <+: file.1 ∨ s.files.node? file.1 ≠ none) := by
  intro r files
  have h : Shows s files r := shows_after_writes unmade.idle jobs
  refine ⟨h.nodes, h.node?_cleanUp unmade, ⟨?_, ?_⟩, ⟨?_, ?_⟩⟩
  · intro same place content found
    by_cases inside : Path.names s.root <+: place
    · exact .inl inside
    · exact .inr ((same place inside).symm.trans ((h.nodes place).trans (laid_of_lookup found)))
  · intro before place outside
    cases found : files.lookup place with
    | some content =>
      exact ((h.nodes place).trans (laid_of_lookup found)).trans
        ((before place content found).resolve_left outside).symm
    | none =>
      refine h.node?_of_before unmade closed outside found fun file among => ?_
      obtain ⟨content, found⟩ := exists_lookup_of_mem among
      rcases before file.1 content found with inside | there
      · exact .inl inside
      · refine .inr ?_
        rw [there]
        exact nofun
  · intro gone file among
    by_cases inside : Path.names s.root <+: file.1
    · exact .inl inside
    · refine .inr fun absent => ?_
      obtain ⟨content, found⟩ := exists_lookup_of_mem among
      have left := gone file.1 absent
      rw [h.node?_cleanUp unmade, if_neg (not_and_of_not_right _ inside), h.nodes,
        laid_of_lookup found] at left
      cases left
  · intro before place absent
    rw [h.node?_cleanUp unmade]
    by_cases inside : Path.names s.root <+: place
    · cases ready : r.initialized with
      | true => exact if_pos ⟨rfl, inside⟩
      | false =>
        rw [if_neg (not_and_of_not_left _ Bool.false_ne_true), h.node?_of_idle ready, absent]
    · have free : files.lookup place = none := by
        refine lookup_eq_none fun file among same => ?_
        rw [← same] at inside absent
        exact (before file among).elim inside (absurd absent)
      rw [if_neg (not_and_of_not_right _ inside), h.node?_of_before unmade closed inside free before,
        absent]

/-- Files that are written in the folder, the second by a way around, are contained. -/
theorem after_writes_inside :
    let s := inDirectory "/work" "gen" 7
    let jobs := [("a/b", "one"), ("a/../c", "two")]
    s.IsUnmade ∧ s.files.IsClosed ∧
      (∀ place, ¬Path.names s.root <+: place →
        (s.after (writes jobs)).files.node? place = s.files.node? place) ∧
      ∀ place, s.files.node? place = none →
        (s.after (writes jobs)).cleanUp.files.node? place = none := by
  intro s jobs
  have resolved : Path.IsResolved "/work" := Path.isResolved_resolve "/" "work"
  have unmade : s.IsUnmade := isUnmade_inDirectory resolved (by decide) 7
  have closed : s.files.IsClosed := FileTree.isClosed_addFolder_nil (Path.names "/work")
  have inside : ∀ file ∈ s.written (writes jobs), Path.names s.root <+: file.1 := by decide +kernel
  obtain ⟨-, -, contained, left⟩ := after_writes unmade closed jobs
  refine ⟨unmade, closed, contained.2 fun place content found => ?_, left.2 fun file among => ?_⟩
  · exact .inl (inside _ (mem_of_lookup_eq_some found))
  · exact .inl (inside file among)

/-- **Outside**: two dots lead out of the folder. The file that is written there is no file of the
storage, and is still there when the storage is cleaned up. -/
theorem write_outside :
    let s := inDirectory "/base" "avsgen" 4242
    let written := s.write "../x" "y"
    Path.IsResolved "/base" ∧ '/' ∉ "avsgen".toList ∧ written.2.toOption = some "/base/x" ∧
      (¬∀ place, ¬Path.names s.root <+: place →
        written.1.files.node? place = s.files.node? place) ∧
      ¬∀ place, s.files.node? place = none → written.1.cleanUp.files.node? place = none := by
  intro s written
  have outside : ¬Path.names s.root <+: ["base", "x"] := by decide +kernel
  have absent : s.files.node? ["base", "x"] = none := by decide +kernel
  have there : (written.1.files.content? ["base", "x"]).isSome = true := by decide +kernel
  have left : (written.1.cleanUp.files.content? ["base", "x"]).isSome = true := by decide +kernel
  refine ⟨Path.isResolved_resolve "/" "base", by decide, by decide +kernel, fun contained => ?_,
    fun removed => ?_⟩
  · rw [FileTree.content?, contained _ outside, absent] at there
    cases there
  · rw [FileTree.content?, removed _ absent] at left
    cases left

end Storage

end FilterScript
