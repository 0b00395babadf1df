import FilterScript.Proofs.References.Directories
import FilterScript.Proofs.Session.Shares

/-!
# Directories in a session

There are references for every script and references of each script, and a directory is loaded into one of them.

* **Targets** (`step_autoloadInto`): the references of one target are changed, whether loading fails or not.
* **Directories** (`step_autoloadInto_entries`): which files are referenced then, and what is reported.
-/

namespace FilterScript

namespace Session

/-! ## Targets -/

/-- The references for every script, or those of one script. -/
def references? (s : Session) : Option String → Option References
  | none => some s.environment.references
  | some id => (s.script? id).map fun script => script.script.references

/-- References the files of a directory for every script, or for one. -/
def Operation.autoloadInto (target : Option String) (path : String) : Operation :=
  match target with
  | none => .autoloadForAll path
  | some id => .autoload id path

/-- What is answered when a directory was loaded. -/
def answerOf : Except Error Unit → Outcome Answer
  | .ok _ => .ok .done
  | .error e => .error e

section Targets

variable {s : Session} {target : Option String} {refs : References}

/-- The shared autoload, read off the references that loading the directory leaves. -/
theorem autoloadShared_eq (host : Host) (s : Session) (path : String) :
    s.autoloadShared host path =
      (s.withReferences (References.autoload host path s.environment.references).1,
        answerOf (References.autoload host path s.environment.references).2) := by
  unfold autoloadShared
  generalize References.autoload host path s.environment.references = loaded
  obtain ⟨done, outcome⟩ := loaded
  cases outcome <;> rfl

/-- The answer to an autoload on a script. -/
theorem snd_autoloadOn (host : Host) (s : Session) (id : String) (script : SessionScript) (path : String) :
    (s.autoloadOn host id script path).2 =
      answerOf (References.autoload host path script.script.references).2 := by
  unfold autoloadOn
  dsimp only
  generalize (References.autoload host path script.script.references).2 = outcome
  cases outcome <;> rfl

/-- References for every script are not those of any script. -/
theorem references?_withReferences (s : Session) (refs : References) {other : Option String}
    (differ : other ≠ none) : (s.withReferences refs).references? other = s.references? other := by
  cases other with
  | none => exact absurd rfl differ
  | some id => rfl

/-- The references of a script are those of no other one, and not those for every script. -/
theorem references?_putScript (s : Session) (id : String) (script : SessionScript) {other : Option String}
    (differ : other ≠ some id) : (s.putScript id script).references? other = s.references? other := by
  cases other with
  | none => exact congrArg (fun e : Environment => some e.references) (environment_putScript s id script)
  | some other =>
    have apart : other ≠ id := fun same => differ (congrArg some same)
    rw [references?, script?_putScript_of_ne s script apart]
    rfl

/-- **Targets**: the references of the target become those that loading the directory makes of them,
and no others change. -/
theorem step_autoloadInto (host : Host) (there : s.references? target = some refs) (path : String) :
    (s.step host (.autoloadInto target path)).1.references? target =
        some (References.autoload host path refs).1 ∧
      (∀ other, other ≠ target →
        (s.step host (.autoloadInto target path)).1.references? other = s.references? other) ∧
      (s.step host (.autoloadInto target path)).2 = answerOf (References.autoload host path refs).2 := by
  cases target with
  | none =>
    obtain rfl := Option.some.inj there
    have step : s.step host (.autoloadInto none path) = _ := autoloadShared_eq host s path
    rw [step]
    exact ⟨rfl, fun other => references?_withReferences s _, rfl⟩
  | some id =>
    obtain ⟨script, named, rfl⟩ := Option.map_eq_some_iff.1 there
    have step : s.step host (.autoloadInto (some id) path) = s.autoloadOn host id script path :=
      withScript_of_script? named _
    rw [step, fst_autoloadOn, snd_autoloadOn]
    refine ⟨?_, fun other => references?_putScript s id _, rfl⟩
    rw [references?, script?_putScript_self]
    rfl

/-! ## Directories -/

/-- What becomes of references and what is answered when the entries of a directory are loaded:
those in front of the first entry with a path that no script can hold make references, and this path
is reported. -/
structure LoadsEntries (host : Host) (directory : String) (names : List String) (refs : References)
    (done : Option References) (answer : Outcome Answer) : Prop where
  /-- The path of an entry is its name behind the directory. -/
  path : ∀ name ∈ names, Path.IsName name.toList → '/' ∉ name.toList →
    References.entryPath host directory name = Path.joined directory name
  /-- The files in front of the first path that no script can hold are referenced. -/
  updated : ∃ more, done = some more ∧ refs.IsUpdated (References.filesOf host directory names) more
  /-- Where scripts can hold all paths, loading does not fail. -/
  ok : (∀ name ∈ names, Path.isValid (References.entryPath host directory name) = true) →
    answer = .ok .done
  /-- The first path that no script can hold is reported, whatever is there. -/
  error : ∀ front name behind, names = front ++ name :: behind →
    (∀ name ∈ front, Path.isValid (References.entryPath host directory name) = true) →
    ¬Path.isValid (References.entryPath host directory name) = true →
      answer = .error (Error.invalidPath (References.entryPath host directory name))

/-- Loading the entries of a directory one after another does to the references what the relation
says, up to the entry that fails. -/
theorem loadsEntries_loadAll (host : Host) (path : String) (names : List String) (refs : References) :
    LoadsEntries host (host.resolve path) names refs
      (some (References.loadAll host (host.resolve path) names refs).1)
      (answerOf (References.loadAll host (host.resolve path) names refs).2) := by
  constructor
  · intro name _ proper uncut
    exact Path.isResolved_joined proper uncut host.directory
  · exact ⟨_, rfl, References.isUpdated_loadAll host (host.resolve path) names refs⟩
  · intro valid
    rw [References.snd_loadAll_eq_ok valid]
    rfl
  · rintro front name behind rfl valid invalid
    rw [References.snd_loadAll_eq_error valid invalid]
    rfl

/-- **Directories**: no references but those of the target change. They do not change either if no
script can hold the path of the directory or there is no directory at it. Otherwise its entries are
loaded in the order of their names, up to the first one with a path that no script can hold. -/
theorem step_autoloadInto_entries (host : Host) (there : s.references? target = some refs)
    (path : String) :
    let after := (s.step host (.autoloadInto target path)).1
    let answer := (s.step host (.autoloadInto target path)).2
    let directory := host.resolve path
    (∀ other, other ≠ target → after.references? other = s.references? other) ∧
    (¬Path.isValid directory = true →
      after.references? target = some refs ∧ answer = .error (Error.invalidPath directory)) ∧
    (Path.isValid directory = true → ¬host.files.isFolder (host.place directory) = true →
      after.references? target = some refs ∧ answer = .error (Error.invalidDirectory directory)) ∧
    (Path.isValid directory = true → host.files.isFolder (host.place directory) = true →
      ∀ names, host.IsListing directory names →
        LoadsEntries host directory names refs (after.references? target) answer) := by
  intro after answer directory
  obtain ⟨changed, others, answered⟩ := step_autoloadInto host there path
  have changed : after.references? target = some (References.autoload host path refs).1 := changed
  have answered : answer = answerOf (References.autoload host path refs).2 := answered
  refine ⟨others, fun invalid => ?_, fun valid missing => ?_, fun valid folder names listing => ?_⟩
  · rw [changed, answered, References.autoload_of_not_isValid invalid]
    exact ⟨rfl, rfl⟩
  · rw [changed, answered, References.autoload_of_not_isFolder valid missing]
    exact ⟨rfl, rfl⟩
  · have listed := Host.listDirectory?_eq_some folder listing
    rw [changed, answered, References.autoload_of_listDirectory? valid listed]
    exact loadsEntries_loadAll host path names refs

end Targets

/-- A script in capitals, a plugin that is referenced already, a folder with a name that no script
can hold and a script behind it. -/
theorem step_autoloadInto_entries_folder :
    let host : Host := { files := ⟨[(["d"], .folder), (["d", "b.dll"], .file (.text "")),
      (["d", "ж"], .folder), (["d", "z.avs"], .file (.text "")), (["d", "я.avs"], .file (.text "")),
      (["d", "A.AVSI"], .file (.text ""))]⟩ }
    let environment : Environment :=
      { references := [("/d/b.dll", .plugin), ("/c.avs", .script)], storage := .inDirectory "/tmp" "avsgen" 0 }
    let s : Session := ⟨environment, [("s", ⟨⟨"", []⟩, false⟩)]⟩
    let after := (s.step host (.autoloadInto none "d")).1
    (∃ more, after.references? none = some more ∧
      more.map Prod.fst = ["/d/b.dll", "/c.avs", "/d/A.AVSI", "/d/z.avs"]) ∧
      (s.step host (.autoloadInto none "d")).2 = .error (Error.invalidPath "/d/ж") ∧
      after.references? (some "s") = some [] := by
  intro host environment s after
  have there : s.references? none = some environment.references := rfl
  obtain ⟨others, -, -, entries⟩ := step_autoloadInto_entries host there "d"
  let names := ["A.AVSI", "b.dll", "z.avs", "ж", "я.avs"]
  have listing : host.IsListing (host.resolve "d") names := ⟨by decide +kernel, by decide +kernel⟩
  obtain ⟨-, ⟨more, now, updated⟩, -, reported⟩ :=
    entries (by decide +kernel) (by decide +kernel) names listing
  have files : References.filesOf host (host.resolve "d") names = ["/d/A.AVSI", "/d/b.dll", "/d/z.avs"] := by
    decide +kernel
  refine ⟨⟨more, now, ?_⟩, ?_, others (some "s") (by decide)⟩
  · rw [updated.order, files]
    decide +kernel
  · have path : References.entryPath host (host.resolve "d") "ж" = "/d/ж" := by decide +kernel
    have answer :=
      reported ["A.AVSI", "b.dll", "z.avs"] "ж" ["я.avs"] rfl (by decide +kernel) (by decide +kernel)
    rw [path] at answer
    exact answer

end Session

end FilterScript
