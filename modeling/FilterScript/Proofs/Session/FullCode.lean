import FilterScript.Proofs.Script.Directives
import FilterScript.Proofs.Session.Shares

/-!
# Whole scripts

The whole script begins with a directive for each file that is referenced: those of the environment
first, from the time when it was built, and then those of the script alone. It is told by what was
referenced, in which order, and can be read back.

* **Environments** (`references_of_build`): what an environment refers to when it is built.
* **References** (`allReferences_after`): what a script refers to, for itself and with all others.
* **Whole scripts** (`fullCode_after`): the directives and the code of a script.
-/

namespace FilterScript

/-! ## Environments -/

namespace Environment

variable {host : Host}

/-- Loading all directories merges what each of them has, in order. -/
theorem merge_of_autoloadAll_eq_ok {directories : List String} {refs done : References}
    (h : autoloadAll host directories refs = .ok done) :
    done = refs.merge (directories.flatMap (References.referencesIn host)) := by
  induction directories generalizing refs with
  | nil =>
    rw [autoloadAll_nil] at h
    exact (Except.ok.inj h).symm
  | cons directory rest ih =>
    have first := References.fst_autoload host directory refs
    rw [autoloadAll_cons] at h
    cases loaded : References.autoload host directory refs with
    | mk next outcome =>
      rw [loaded] at h first
      cases outcome with
      | error e => cases h
      | ok done =>
        rw [List.flatMap_cons, References.merge_append, ← first]
        exact ih h

/-- **Environments** refer to the files of the directories that they are built with. -/
theorem references_of_build {config : Config} {environment : Environment}
    (built : build host config = .ok environment) :
    environment.references =
      References.merge [] (config.autoloadDirs.flatMap (References.referencesIn host)) := by
  simp only [build, bind, Except.bind] at built
  split at built
  · cases built
  · split at built
    · cases built
    · next refs loaded =>
      obtain rfl := Except.ok.inj built
      exact merge_of_autoloadAll_eq_ok loaded

end Environment

namespace Session

/-! ## References -/

/-- The references that all scripts share after operations, with those that the environment was
built with. -/
def sharedSince (host : Host) (config : Config) (operations : List (Host × Operation)) :
    References :=
  config.autoloadDirs.flatMap (References.referencesIn host) ++ shared operations

section References

variable {host : Host} {config : Config} {environment : Environment}
  {operations : List (Host × Operation)} {id : String} {script : Script}

/-- What is referenced was made by a path that may stand in a script. -/
theorem exists_of_mem_sharedSince {entry : String × ReferenceKind}
    (h : entry ∈ sharedSince host config operations) :
    ∃ host path, References.reference? host path = some entry := by
  rcases List.mem_append.1 h with built | since
  · obtain ⟨directory, -, inside⟩ := List.mem_flatMap.1 built
    obtain ⟨path, made⟩ := References.areMade_referencesIn host directory entry inside
    exact ⟨host, path, made⟩
  · obtain ⟨later, -, path, -, made⟩ := exists_of_mem_shared since
    exact ⟨later, path, made⟩

/-- The references gathered since the configuration carry the kinds of their extensions. -/
theorem isTyped_sharedSince (host : Host) (config : Config) (operations : List (Host × Operation)) :
    (sharedSince host config operations).IsTyped := by
  intro entry inside
  obtain ⟨maker, path, made⟩ := exists_of_mem_sharedSince inside
  exact (References.areMade_reference? maker path).isTyped entry (Option.mem_toList.2 made)

/-- After any run the environment's references are all that was gathered, each once and in the order
of its first occurrence. -/
theorem references_after_of_build (built : Environment.build host config = .ok environment) :
    (after ⟨environment, []⟩ operations).environment.references =
      (sharedSince host config operations).eraseDups := by
  rw [references_after, Environment.references_of_build built, ← References.merge_append]
  exact References.merge_nil_left (isTyped_sharedSince host config operations)

/-- **References**: those of the environment come first, and then those of the script alone, each in
the order in which they were made first. -/
theorem allReferences_after (built : Environment.build host config = .ok environment)
    (there : (after ⟨environment, []⟩ operations).script? id = some ⟨script, false⟩) :
    script.allReferences (after ⟨environment, []⟩ operations).environment.references =
      (sharedSince host config operations).eraseDups ++
        (own ⟨environment, []⟩ id [] operations).eraseDups.filter
          (· ∉ (sharedSince host config operations).eraseDups) := by
  have typedOwn : (own ⟨environment, []⟩ id [] operations).IsTyped :=
    isTyped_own References.isTyped_nil operations
  have typed := References.isTyped_eraseDups (isTyped_sharedSince host config operations)
  rw [Script.allReferences, references_after_of_build built, references_eq_eraseDups there,
    References.merge_eraseDups typed typedOwn, References.merge_eq typed typedOwn]

/-- No path that a script refers to breaks the line of its directive. -/
theorem not_mem_of_mem_allReferences (built : Environment.build host config = .ok environment)
    (there : (after ⟨environment, []⟩ operations).script? id = some ⟨script, false⟩) :
    ∀ entry ∈ script.allReferences (after ⟨environment, []⟩ operations).environment.references,
      '"' ∉ entry.1.toList ∧ '\n' ∉ entry.1.toList := by
  intro entry inside
  have made : ∃ host path, References.reference? host path = some entry := by
    rw [allReferences_after built there, References.mem_append_filter_iff, List.mem_append] at inside
    rcases inside with first | own
    · exact exists_of_mem_sharedSince (List.mem_eraseDups.1 first)
    · obtain absent | ⟨maker, -, path, -, made⟩ := exists_of_mem_own (List.mem_eraseDups.1 own)
      · cases absent
      · exact ⟨maker, path, made⟩
  obtain ⟨maker, path, made⟩ := made
  obtain ⟨valid, -, full, -⟩ := References.reference?_eq_some_iff.1 made
  exact Path.not_mem_of_isValid (full ▸ valid)

/-- A script refers to each path once. -/
theorem nodup_allReferences (built : Environment.build host config = .ok environment)
    (there : (after ⟨environment, []⟩ operations).script? id = some ⟨script, false⟩) :
    ((script.allReferences (after ⟨environment, []⟩ operations).environment.references).map
      Prod.fst).Nodup := by
  have typed := References.isTyped_eraseDups (isTyped_sharedSince host config operations)
  have typedOwn : script.references.IsTyped := by
    rw [references_eq_eraseDups there]
    exact References.isTyped_eraseDups (isTyped_own References.isTyped_nil operations)
  rw [Script.allReferences, references_after_of_build built]
  apply References.IsTyped.nodup_map_fst
  · exact (References.growsTo_merge typedOwn typed).1
  · exact References.nodup_merge typed typedOwn (nodup_eraseDups _)

end References

/-! ## Whole scripts -/

/-- **Whole scripts**: in every state that a built environment and its scripts get into, the whole
script is a directive for each referenced file and the code behind them. Each path is in one of the
directives, however often it was referenced. Given their number, the references and the code are
found again in the text. -/
theorem fullCode_after {host : Host} {config : Config} {environment : Environment}
    (built : Environment.build host config = .ok environment)
    {operations : List (Host × Operation)} {id : String} {script : Script}
    (there : (after ⟨environment, []⟩ operations).script? id = some ⟨script, false⟩) :
    let first := (sharedSince host config operations).eraseDups
    let own := (own ⟨environment, []⟩ id [] operations).eraseDups
    let listed := first ++ own.filter (· ∉ first)
    let body := if Text.isBlankText script.rawCode then "" else script.rawCode ++ "\n"
    let text := String.join (listed.map Script.directiveLine) ++ body
    (∀ later, ((after ⟨environment, []⟩ operations).step later (.fullCode id)).2 =
      .ok (.text text)) ∧
    (∀ path, (listed.map Prod.fst).count path =
      if path ∈ (first ++ own).map Prod.fst then 1 else 0) ∧
    Script.readFullCode listed.length text = some (listed, body) := by
  intro first own listed body text
  have all : script.allReferences (after ⟨environment, []⟩ operations).environment.references =
      listed := allReferences_after built there
  have whole : script.fullCode (after ⟨environment, []⟩ operations).environment.references =
      text := by
    rw [Script.fullCode, all]
    rfl
  refine ⟨fun later => ?_, fun path => ?_, ?_⟩
  · have asked : (after ⟨environment, []⟩ operations).step later (.fullCode id) = _ :=
      withScript_of_script? there _
    rw [asked]
    exact congrArg (fun text => Except.ok (Answer.text text)) whole
  · have members : path ∈ listed.map Prod.fst ↔ path ∈ (first ++ own).map Prod.fst := by
      simp only [List.mem_map, listed, References.mem_append_filter_iff]
    have apart := nodup_allReferences built there
    rw [all] at apart
    simp only [apart.count, members]
  · rw [← all, ← whole]
    exact Script.readFullCode_fullCode (not_mem_of_mem_allReferences built there)

/-- A script and a plugin that are referenced for one script, and the plugin then for all scripts:
the plugin comes first, and each of the two files is in one directive. -/
theorem fullCode_after_shared_later :
    let host : Host := { files := ⟨[(["a.avsi"], .file (.text "")), (["b.dll"], .file (.text ""))]⟩ }
    let storage : Storage := .inDirectory "/tmp" "avsgen" 0
    let operations : List (Host × Operation) := [
      (host, .newScript "s" "Version()"), (host, .load "s" "a.avsi" false),
      (host, .load "s" "./b.dll" false), (host, .load "s" "a.avsi" true),
      (host, .loadForAll "b.dll" false)]
    let text := "LoadPlugin(\"/b.dll\")\nImport(\"/a.avsi\")\nVersion()\n"
    ((after ⟨{ storage := storage }, []⟩ operations).step host (.fullCode "s")).2 =
        .ok (.text text) ∧
      Script.readFullCode 2 text =
        some ([("/b.dll", .plugin), ("/a.avsi", .script)], "Version()\n") := by
  intro host storage operations text
  let environment : Environment := { storage := storage }
  have built : Environment.build host { loadCore := false } = .ok environment := rfl
  have made : ((after ⟨environment, []⟩ operations).script? "s").map
      (fun script => (script.script.rawCode, script.alone)) = some ("Version()", false) := by
    decide +kernel
  obtain ⟨⟨script, alone⟩, there, same⟩ := Option.map_eq_some_iff.1 made
  obtain ⟨code, rfl⟩ := Prod.mk.inj same
  have first : (sharedSince host { loadCore := false } operations).eraseDups =
      [("/b.dll", .plugin)] := by decide +kernel
  have own : (own ⟨environment, []⟩ "s" [] operations).eraseDups =
      [("/a.avsi", .script), ("/b.dll", .plugin)] := by decide +kernel
  obtain ⟨whole, -, back⟩ := fullCode_after built there
  rw [first, own, code] at whole back
  have written : String.join ([("/b.dll", .plugin), ("/a.avsi", .script)].map Script.directiveLine) ++
      "Version()\n" = text := by decide +kernel
  refine ⟨(whole host).trans (congrArg (fun text => Except.ok (Answer.text text)) ?_), ?_⟩
  · exact written
  · rw [← written]
    exact back

end Session

end FilterScript
