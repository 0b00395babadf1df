import FilterScript.Catalog
import FilterScript.Config
import FilterScript.Script

/-!
# Environments

An environment holds what its scripts share: the filters, the references and the storage. The main
statement says which storage it is built with.
-/

namespace FilterScript

/-- What scripts share. -/
structure Environment where
  /-- The filters. -/
  registry : Registry := .empty
  /-- The files that every script refers to. -/
  references : References := []
  /-- The place for generated files. -/
  storage : Storage

namespace Environment

/-- Loads a catalog. A log of all that is done writes the required files of each filter down, which
is told here for texts only. -/
def loadCatalog (host : Host) (services : Fragment.Services) (debug : Bool) (path : Option String)
    (r : Registry) : Outcome Registry :=
  match Catalog.load host services path r with
  | (r, outcome) =>
    if debug && !r.requiresTexts then .error Fault.outside else outcome.map fun _ => r

/-- A catalog is loaded with a count of its filters. -/
theorem exists_of_loadCatalog_eq_ok {host : Host} {services : Fragment.Services} {debug : Bool}
    {path : Option String} {r loaded : Registry}
    (h : loadCatalog host services debug path r = .ok loaded) :
    ∃ count, Catalog.load host services path r = (loaded, .ok count) := by
  unfold loadCatalog at h
  split at h
  next next outcome is =>
    rw [is]
    split at h
    · cases h
    · cases outcome with
      | error e => cases h
      | ok count =>
        obtain rfl := Except.ok.inj h
        exact ⟨count, rfl⟩

/-- Loads catalogs one after the other. -/
def loadCatalogs (host : Host) (services : Fragment.Services) (debug : Bool) :
    List (Option String) → Registry → Outcome Registry
  | [], r => .ok r
  | path :: rest, r =>
    match loadCatalog host services debug path r with
    | .ok r => loadCatalogs host services debug rest r
    | .error e => .error e

/-- References the files of directories one after the other. -/
def autoloadAll (host : Host) : List String → References → Outcome References
  | [], refs => .ok refs
  | directory :: rest, refs =>
    match References.autoload host directory refs with
    | (refs, .ok _) => autoloadAll host rest refs
    | (_, .error e) => .error e

/-- Without directories the references stay as they are. -/
theorem autoloadAll_nil (host : Host) (refs : References) : autoloadAll host [] refs = .ok refs :=
  rfl

-- unsealed, the directory is loaded while the two sides are compared
seal References.autoload in
/-- The first directory is loaded, and then the others unless it fails. -/
theorem autoloadAll_cons (host : Host) (directory : String) (rest : List String)
    (refs : References) :
    autoloadAll host (directory :: rest) refs =
      match References.autoload host directory refs with
      | (refs, .ok _) => autoloadAll host rest refs
      | (_, .error e) => .error e :=
  rfl

/-- The directory for generated files where the configuration names none. -/
def defaultTempDir : String := "/tmp"

/-- The directory for generated files. The empty path names none. -/
def tempDirOf (config : Config) : String :=
  (config.tempDir.filter (· ≠ "")).getD defaultTempDir

/-- The environment of a configuration: the core filters, the catalogs, and the files of the
directories, in this order. The directory for generated files is taken to be there. -/
def build (host : Host) (config : Config) : Outcome Environment := do
  let services := Fragment.Services.inDirectory host.directory
  let catalogs := (if config.loadCore then [none] else []) ++ config.catalogs.map some
  let registry ← loadCatalogs host services (config.logLevel == "DEBUG") catalogs .empty
  let references ← autoloadAll host config.autoloadDirs []
  let base := Path.resolve host.directory (tempDirOf config)
  pure ⟨registry, references, Storage.inDirectory base config.tempLabel host.processId⟩

/-- An environment is built with a storage of its own, in the directory for generated files. -/
theorem storage_of_build {host : Host} {config : Config} {environment : Environment}
    (built : build host config = .ok environment) :
    environment.storage =
      .inDirectory (Path.resolve host.directory (tempDirOf config)) config.tempLabel
        host.processId := by
  simp only [build, bind, Except.bind] at built
  split at built
  · cases built
  · split at built
    · cases built
    · obtain rfl := Except.ok.inj built
      rfl

end Environment

end FilterScript
