import FilterScript.Text.Casing
import FilterScript.Yaml.Document

/-!
# Configuration

The settings of an environment, read from a mapping. Every setting has its own form and a default;
all settings without their form are reported together. The main statements say when a mapping is
accepted and what the configuration then holds.
-/

namespace FilterScript

/-- The settings. -/
structure Config where
  /-- Directories whose files every script refers to. -/
  autoloadDirs : List String := []
  /-- Catalogs of filters. -/
  catalogs : List String := []
  /-- Whether the core filters are there. -/
  loadCore : Bool := true
  /-- The directory for generated files. -/
  tempDir : Option String := none
  /-- The name of the folder for generated files. -/
  tempLabel : String := "avsgen"
  /-- The least level of messages that are logged. -/
  logLevel : String := "WARNING"
  /-- Whether messages are logged as JSON. -/
  logJson : Bool := false
deriving DecidableEq, Repr

namespace Config

/-- A setting without its form. -/
structure Problem where
  /-- The key of the setting. -/
  field : Value
  /-- What is wrong. -/
  message : String
  /-- The value of the setting. -/
  value : Value

/-! ## Forms -/

/-- The keys of the settings. -/
def settings : List String := [
  "autoload_dirs", "catalogs", "load_core", "temp_dir", "temp_prefix", "log_level", "log_json"]

/-- The levels of messages. -/
def levels : List String :=
  ["DEBUG", "INFO", "WARNING", "ERROR", "CRITICAL"]

/-- The texts of a list or row of texts. -/
def texts? (value : Value) : Option (List String) :=
  value.listItems?.bind fun items => items.mapM fun | .text s => some s | _ => none

/-- The truth value of a value that is one. -/
def bool? : Value → Option Bool
  | .bool b => some b
  | _ => none

/-- The path, or no path, of a value that is either. -/
def path? : Value → Option (Option String)
  | .null => some none
  | .text s => some (some s)
  | _ => none

/-- The name of a folder. -/
def folderName? : Value → Option String
  | .text s => if s ≠ "" ∧ !s.toList.contains '/' then some s else none
  | _ => none

/-- The level of messages, in capital letters. -/
def level? : Value → Option String
  | .text s => if levels.contains (Text.capitals s) then some (Text.capitals s) else none
  | _ => none

/-! ## Problems -/

/-- The settings that do not exist. -/
def unknownSettings (entries : List (Value × Value)) : List Problem :=
  (entries.filter fun (key, _) => !settings.any fun name => key.isText name).map
    fun (key, value) => ⟨key, "Unknown setting", value⟩

/-- The problem of one setting, if it is there and has not its form. -/
def problemOf {α : Type} (entries : List (Value × Value)) (name : String) (form : Value → Option α)
    (message : String) : List Problem :=
  match Value.field? name entries with
  | none => []
  | some value =>
    match form value with
    | some _ => []
    | none => [⟨.text name, message, value⟩]

/-- All problems of a mapping: unknown settings first, then the settings in a fixed order. -/
def problems (entries : List (Value × Value)) : List Problem :=
  unknownSettings entries ++
    problemOf entries "autoload_dirs" texts? "Must be a list of paths" ++
    problemOf entries "catalogs" texts? "Must be a list of paths" ++
    problemOf entries "load_core" bool? "Must be a boolean" ++
    problemOf entries "log_json" bool? "Must be a boolean" ++
    problemOf entries "temp_dir" path? "Must be a path or null" ++
    problemOf entries "temp_prefix" folderName? "Must be a non-empty folder name" ++
    problemOf entries "log_level" level? ("Must be one of " ++ ", ".intercalate levels)

/-! ## Reading -/

/-- The setting of a mapping, or its default. -/
def setting {α : Type} (entries : List (Value × Value)) (name : String) (form : Value → Option α)
    (default : α) : α :=
  ((Value.field? name entries).bind form).getD default

/-- The configuration of a mapping without problems. -/
def ofSettings (entries : List (Value × Value)) : Config where
  autoloadDirs := setting entries "autoload_dirs" texts? []
  catalogs := setting entries "catalogs" texts? []
  loadCore := setting entries "load_core" bool? true
  tempDir := setting entries "temp_dir" path? none
  tempLabel := setting entries "temp_prefix" folderName? "avsgen"
  logLevel := setting entries "log_level" level? "WARNING"
  logJson := setting entries "log_json" bool? false

/-- The error for settings without their form. -/
def invalid (found : List Problem) : Error :=
  .invalidConfig (found.map fun p => (p.field, p.message))

/-- The configuration of a mapping. -/
def ofEntries (entries : List (Value × Value)) : Outcome Config :=
  match problems entries with
  | [] => .ok (ofSettings entries)
  | found => .error (invalid found).raise

/-- A mapping is accepted if it has no problems. -/
theorem ofEntries_eq_ok_iff {entries : List (Value × Value)} {config : Config} :
    ofEntries entries = .ok config ↔ problems entries = [] ∧ ofSettings entries = config := by
  unfold ofEntries
  cases problems entries <;> simp

/-- A mapping with problems gives the error that names them all, if they can be named. -/
theorem ofEntries_eq_error {entries : List (Value × Value)} (h : problems entries ≠ []) :
    ofEntries entries = .error (invalid (problems entries)).raise := by
  unfold ofEntries
  split
  · next none => exact absurd none h
  · rfl

/-- The configuration in the file at a path. An empty document holds no settings. -/
def readFile (host : Host) (path : String) : Outcome Config :=
  match host.readValue path with
  | .error .unreadable => .error (Error.unreadableConfig path)
  | .error .malformed => .error (Error.malformedConfig path)
  | .error f => .error f
  | .ok .null => .ok {}
  | .ok (.map entries) => ofEntries entries
  | .ok _ => .error (Error.configNotMapping path)

/-- The configuration in the given file, or else in the file that the environment names, or else the
defaults. -/
def load (host : Host) (path : Option String) : Outcome Config :=
  match path.or host.configVariable with
  | none => .ok {}
  | some path => if path = "" then .ok {} else readFile host path

end Config

end FilterScript
