import FilterScript.Config
import Mathlib.Data.List.Nodup

/-!
# Accepted settings

A mapping may hold any keys and any values. There are five forms for the values of the seven settings. Each of
them is a check and a reading at once, and what has been read once is read again as the same.

* **Forms** (`isSome_read?_iff`, `write_of_read?`, `read?_write`): which values have a form, and what is held
  of them.
* **Problems** (`problems_eq`): what is reported, in its order.
* **Configurations** (`value_ofSettings`, `ofEntries_toEntries`): what is held of the settings, and that a
  configuration is accepted as a mapping.
* **Mappings** (`ofEntries_outcome`): each mapping is accepted or reported, and stays what it is.
-/

namespace FilterScript

namespace Config

/-! ## Forms -/

/-- What the value of a setting may be. -/
inductive Form where
  | paths
  | truth
  | path
  | folder
  | level

namespace Form

/-- Whether a value has a form. -/
def Accepts : Form → Value → Prop
  | paths, v => ∃ texts : List String, v.listItems? = some (texts.map .text)
  | truth, v => ∃ b, v = .bool b
  | path, v => v = .null ∨ ∃ s, v = .text s
  | folder, v => ∃ s, v = .text s ∧ s ≠ "" ∧ '/' ∉ s.toList
  | level, v => ∃ s, v = .text s ∧ Text.capitals s ∈ levels

/-- What is said about a value without the form. -/
def message : Form → String
  | paths => "Must be a list of paths"
  | truth => "Must be a boolean"
  | path => "Must be a path or null"
  | folder => "Must be a non-empty folder name"
  | level => "Must be one of DEBUG, INFO, WARNING, ERROR, CRITICAL"

/-- What is held of a value: of a list its items in a row, of a level its capitals, and all else as
it is. -/
def held : Form → Value → Value
  | paths, v => (v.listItems?.map .tuple).getD v
  | level, .text s => .text (Text.capitals s)
  | _, v => v

/-- What is read from the values of a form. -/
abbrev Content : Form → Type
  | paths => List String
  | truth => Bool
  | path => Option String
  | folder => String
  | level => String

/-- Reads a value that has the form. -/
def read? : (form : Form) → Value → Option form.Content
  | paths => texts?
  | truth => bool?
  | path => path?
  | folder => folderName?
  | level => level?

/-- What has been read, as a value. -/
def write : (form : Form) → form.Content → Value
  | paths, texts => .tuple (texts.map .text)
  | truth, b => .bool b
  | path, s => (s.map .text).getD .null
  | folder, s => .text s
  | level, s => .text s

end Form

section Reading

variable {v : Value} {s : String}

/-- What is read as a list of texts: a list whose items are those texts. -/
theorem texts?_eq_some_iff {texts : List String} :
    texts? v = some texts ↔ v.listItems? = some (texts.map .text) := by
  rw [texts?, Option.bind_eq_some_iff]
  constructor
  · rintro ⟨items, there, listed⟩
    rw [there, Value.mapM_text_eq_some_iff.1 listed]
  · intro there
    exact ⟨_, there, Value.mapM_text_eq_some_iff.2 rfl⟩

/-- What is read as a switch: a boolean. -/
theorem bool?_eq_some_iff {b : Bool} : bool? v = some b ↔ v = .bool b := by
  cases v <;> simp [bool?]

/-- What is read as an optional path: a text, or null. -/
theorem path?_eq_some_iff {path : Option String} :
    path? v = some path ↔ v = (path.map .text).getD .null := by
  cases v <;> cases path <;> simp [path?]

/-- What is read as the name of a folder: a text that is not empty and has no slash. -/
theorem folderName?_eq_some_iff :
    folderName? v = some s ↔ v = .text s ∧ s ≠ "" ∧ '/' ∉ s.toList := by
  cases v with
  | text t =>
    simp only [folderName?, Bool.not_eq_true', List.contains_eq_mem, decide_eq_false_iff_not,
      Option.ite_none_right_eq_some, Value.text.injEq, Option.some.injEq]
    constructor
    · rintro ⟨label, rfl⟩
      exact ⟨rfl, label⟩
    · rintro ⟨rfl, label⟩
      exact ⟨label, rfl⟩
  | _ => simp [folderName?]

/-- What is read as a level: a text that spells one of the levels in any case. -/
theorem level?_eq_some_iff :
    level? v = some s ↔ ∃ t, v = .text t ∧ Text.capitals t = s ∧ s ∈ levels := by
  cases v with
  | text t =>
    simp only [level?, List.contains_iff_mem, Option.ite_none_right_eq_some, Value.text.injEq,
      Option.some.injEq, exists_eq_left']
    constructor
    · rintro ⟨known, rfl⟩
      exact ⟨rfl, known⟩
    · rintro ⟨rfl, known⟩
      exact ⟨known, rfl⟩
  | _ => simp [level?]

end Reading

/-- Levels are written in capitals. -/
theorem capitals_of_mem_levels : ∀ s ∈ levels, Text.capitals s = s := by
  decide

namespace Form

variable {form : Form} {v : Value} {a : form.Content}

/-- **Forms** accept what is read. -/
theorem isSome_read?_iff : (form.read? v).isSome = true ↔ form.Accepts v := by
  rw [Option.isSome_iff_exists]
  cases form with
  | paths => exact exists_congr fun texts => texts?_eq_some_iff
  | truth => exact exists_congr fun b => bool?_eq_some_iff
  | path =>
    simp only [read?, path?_eq_some_iff, Option.exists]
    rfl
  | folder => exact exists_congr fun s => folderName?_eq_some_iff
  | level =>
    simp only [read?, level?_eq_some_iff]
    constructor
    · rintro ⟨_, s, rfl, rfl, known⟩
      exact ⟨s, rfl, known⟩
    · rintro ⟨s, rfl, known⟩
      exact ⟨_, s, rfl, rfl, known⟩

/-- **Forms** hold what is read. -/
theorem write_of_read? (h : form.read? v = some a) : form.write a = form.held v := by
  cases form with
  | paths =>
    rw [held, texts?_eq_some_iff.1 h]
    rfl
  | truth => rw [bool?_eq_some_iff.1 h]; rfl
  | path => rw [path?_eq_some_iff.1 h]; rfl
  | folder => rw [(folderName?_eq_some_iff.1 h).1]; rfl
  | level =>
    obtain ⟨s, rfl, rfl, -⟩ := level?_eq_some_iff.1 h
    rfl

/-- What has been read is read again. -/
theorem read?_write (h : form.read? v = some a) : form.read? (form.write a) = some a := by
  cases form with
  | paths => exact texts?_eq_some_iff.2 rfl
  | truth => rfl
  | path => exact path?_eq_some_iff.2 rfl
  | folder => exact folderName?_eq_some_iff.2 ⟨rfl, (folderName?_eq_some_iff.1 h).2⟩
  | level =>
    obtain ⟨-, -, -, known⟩ := level?_eq_some_iff.1 h
    exact level?_eq_some_iff.2 ⟨a, rfl, capitals_of_mem_levels a known, known⟩

instance (form : Form) (v : Value) : Decidable (form.Accepts v) :=
  decidable_of_iff _ isSome_read?_iff

end Form

/-! ## Settings -/

/-- A setting. -/
inductive Setting where
  | autoloadDirs
  | catalogs
  | loadCore
  | tempDir
  | tempLabel
  | logLevel
  | logJson

namespace Setting

/-- The key of a setting. -/
def key : Setting → String
  | autoloadDirs => "autoload_dirs"
  | catalogs => "catalogs"
  | loadCore => "load_core"
  | tempDir => "temp_dir"
  | tempLabel => "temp_prefix"
  | logLevel => "log_level"
  | logJson => "log_json"

/-- The form of a setting. -/
def form : Setting → Form
  | autoloadDirs => .paths
  | catalogs => .paths
  | loadCore => .truth
  | tempDir => .path
  | tempLabel => .folder
  | logLevel => .level
  | logJson => .truth

/-- The settings in the order of a configuration. -/
def all : List Setting :=
  [autoloadDirs, catalogs, loadCore, tempDir, tempLabel, logLevel, logJson]

/-- The settings in the order in which they are checked. -/
def checked : List Setting :=
  [autoloadDirs, catalogs, loadCore, logJson, tempDir, tempLabel, logLevel]

/-- The list of the settings is complete. -/
theorem mem_all (s : Setting) : s ∈ all := by
  cases s <;> simp [all]

/-- Every setting is checked. -/
theorem mem_checked (s : Setting) : s ∈ checked := by
  cases s <;> simp [checked]

/-- The names of the settings, as the keys of the list. -/
theorem settings_eq : settings = all.map key :=
  rfl

end Setting

/-- What a configuration holds for a setting. -/
def content (c : Config) : (s : Setting) → s.form.Content
  | .autoloadDirs => c.autoloadDirs
  | .catalogs => c.catalogs
  | .loadCore => c.loadCore
  | .tempDir => c.tempDir
  | .tempLabel => c.tempLabel
  | .logLevel => c.logLevel
  | .logJson => c.logJson

/-- What a configuration holds for a setting, as a value. -/
def value (c : Config) (s : Setting) : Value :=
  s.form.write (c.content s)

/-- All settings of a configuration as the entries of a mapping. -/
def toEntries (c : Config) : List (Value × Value) :=
  Setting.all.map fun s => (.text s.key, c.value s)

/-- A configuration is what it holds for the settings. -/
theorem eq_of_content {c d : Config} (same : ∀ s, c.content s = d.content s) : c = d := by
  cases c
  cases d
  congr
  · exact same .autoloadDirs
  · exact same .catalogs
  · exact same .loadCore
  · exact same .tempDir
  · exact same .tempLabel
  · exact same .logLevel
  · exact same .logJson

/-! ## Problems -/

/-- Whether a key is none of the settings. -/
def IsUnknown (key : Value) : Prop :=
  ∀ s : Setting, key ≠ .text s.key

/-- Whether a setting is given without its form. -/
def IsBad (entries : List (Value × Value)) (s : Setting) : Prop :=
  ∃ v, Value.field? s.key entries = some v ∧ ¬s.form.Accepts v

section Problems

variable {entries : List (Value × Value)} {key : Value} {s : Setting}

/-- The test for unknown keys as the code has it. -/
theorem not_any_settings_iff :
    (!settings.any fun name => key.isText name) = true ↔ IsUnknown key := by
  rw [Bool.not_eq_true', List.any_eq_false, Setting.settings_eq]
  simp only [List.forall_mem_map, Value.isText_eq_true_iff, Setting.mem_all, forall_const, IsUnknown,
    ne_eq]

instance (key : Value) : Decidable (IsUnknown key) :=
  decidable_of_iff _ not_any_settings_iff

instance (entries : List (Value × Value)) (s : Setting) : Decidable (IsBad entries s) :=
  decidable_of_iff (((Value.field? s.key entries).any fun v => !decide (s.form.Accepts v)) = true)
    (by simp [IsBad, Option.any_eq_true])

/-- The problem of a setting that is given without its form. -/
def problemAt (entries : List (Value × Value)) (s : Setting) : Problem :=
  ⟨.text s.key, s.form.message, Value.field s.key entries⟩

/-- A bad setting gives one problem, at its key. -/
theorem problemOf_of_isBad (bad : IsBad entries s) :
    problemOf entries s.key s.form.read? s.form.message = [problemAt entries s] := by
  obtain ⟨v, given, other⟩ := bad
  have unread : s.form.read? v = none := by
    rw [← Option.not_isSome_iff_eq_none, Form.isSome_read?_iff]
    exact other
  simp only [problemOf, given, unread, problemAt, Value.field, Option.getD_some]

/-- A good or absent setting gives no problem. -/
theorem problemOf_of_not_isBad (good : ¬IsBad entries s) :
    problemOf entries s.key s.form.read? s.form.message = [] := by
  cases given : Value.field? s.key entries with
  | none => simp only [problemOf, given]
  | some v =>
    have accepted : s.form.Accepts v := by
      refine Decidable.byContradiction fun other => ?_
      exact good ⟨v, given, other⟩
    obtain ⟨a, read⟩ := Option.isSome_iff_exists.1 (Form.isSome_read?_iff.2 accepted)
    simp only [problemOf, given, read]

/-- The problems of the settings in any order: those of the bad ones. -/
theorem flatMap_problemOf (entries : List (Value × Value)) (order : List Setting) :
    order.flatMap (fun s => problemOf entries s.key s.form.read? s.form.message) =
      (order.filter (IsBad entries)).map (problemAt entries) := by
  induction order with
  | nil => rfl
  | cons s rest ih =>
    rw [List.flatMap_cons, ih]
    by_cases bad : IsBad entries s
    · rw [problemOf_of_isBad bad, List.filter_cons_of_pos (by simpa using bad)]
      rfl
    · rw [problemOf_of_not_isBad bad, List.filter_cons_of_neg (by simpa using bad)]
      rfl

/-- The problems of the unknown keys, in the order of the mapping. -/
theorem unknownSettings_eq (entries : List (Value × Value)) :
    unknownSettings entries =
      (entries.filter fun entry => IsUnknown entry.1).map fun entry =>
        ⟨entry.1, "Unknown setting", entry.2⟩ := by
  have same : ∀ entry ∈ entries, (!settings.any fun name => entry.1.isText name) =
      decide (IsUnknown entry.1) := by
    intro entry _
    rw [Bool.eq_iff_iff, not_any_settings_iff, decide_eq_true_iff]
  exact congrArg (List.map _) (List.filter_congr same)

/-- **Problems** are reported of the unknown keys in the order of the mapping, and then of the
settings that are given without their form, in the order in which these are checked. -/
theorem problems_eq (entries : List (Value × Value)) :
    problems entries =
      ((entries.filter fun entry => IsUnknown entry.1).map fun entry =>
        ⟨entry.1, "Unknown setting", entry.2⟩) ++
      (Setting.checked.filter (IsBad entries)).map (problemAt entries) := by
  rw [← unknownSettings_eq, ← flatMap_problemOf]
  simp only [problems, Setting.checked, List.flatMap_cons, List.flatMap_nil, List.append_nil,
    List.append_assoc]
  rfl

/-- There are no problems when every key is known and no setting is bad. -/
theorem problems_eq_nil_iff :
    problems entries = [] ↔ (∀ entry ∈ entries, ¬IsUnknown entry.1) ∧ ∀ s, ¬IsBad entries s := by
  simp [problems_eq, Setting.mem_checked]

end Problems

/-! ## Configurations -/

section Configurations

variable {entries : List (Value × Value)} {s : Setting} {c : Config}

/-- What a setting holds in the configuration that the mapping gives. -/
theorem content_ofSettings (entries : List (Value × Value)) (s : Setting) :
    (ofSettings entries).content s =
      setting entries s.key s.form.read? (content {} s) := by
  cases s <;> rfl

/-- Each default has the form of its setting. -/
theorem read?_value_default (s : Setting) : s.form.read? (value {} s) = some (content {} s) := by
  have label : "avsgen" ≠ "" ∧ '/' ∉ "avsgen".toList := by decide
  have known : "WARNING" ∈ levels := by decide
  cases s with
  | tempLabel => exact folderName?_eq_some_iff.2 ⟨rfl, label⟩
  | logLevel => exact level?_eq_some_iff.2 ⟨_, rfl, capitals_of_mem_levels _ known, known⟩
  | _ => rfl

/-- What a configuration holds has the form of its setting, whatever it was made from. -/
theorem read?_value_ofSettings (entries : List (Value × Value)) (s : Setting) :
    s.form.read? ((ofSettings entries).value s) = some ((ofSettings entries).content s) := by
  rw [value, content_ofSettings, setting]
  cases read : (Value.field? s.key entries).bind s.form.read? with
  | none => exact read?_value_default s
  | some a =>
    obtain ⟨v, -, fromGiven⟩ := Option.bind_eq_some_iff.1 read
    exact Form.read?_write fromGiven

/-- **Configurations** hold what is given for a setting, and else its default. -/
theorem value_ofSettings (good : ¬IsBad entries s) :
    (ofSettings entries).value s =
      ((Value.field? s.key entries).map s.form.held).getD (value {} s) := by
  rw [value, content_ofSettings, setting]
  cases given : Value.field? s.key entries with
  | none => rfl
  | some v =>
    have accepted : s.form.Accepts v := by
      refine Decidable.byContradiction fun other => ?_
      exact good ⟨v, given, other⟩
    obtain ⟨a, read⟩ := Option.isSome_iff_exists.1 (Form.isSome_read?_iff.2 accepted)
    rw [Option.bind_some, read]
    exact Form.write_of_read? read

/-- The mapping of a configuration has each setting's value at its key. -/
theorem field?_toEntries (c : Config) (s : Setting) :
    Value.field? s.key c.toEntries = some (c.value s) := by
  cases s <;> rfl

/-- **Configurations** are accepted as mappings, if they hold what has the form of its setting. -/
theorem ofEntries_toEntries (formed : ∀ s, s.form.read? (c.value s) = some (c.content s)) :
    ofEntries c.toEntries = .ok c := by
  rw [ofEntries_eq_ok_iff, problems_eq_nil_iff]
  refine ⟨⟨?_, ?_⟩, ?_⟩
  · intro entry inside unknown
    obtain ⟨s, -, rfl⟩ := List.mem_map.1 inside
    exact unknown s rfl
  · rintro s ⟨v, given, other⟩
    rw [field?_toEntries] at given
    obtain rfl := Option.some.inj given
    apply other
    rw [← Form.isSome_read?_iff, formed]
    rfl
  · refine eq_of_content fun s => ?_
    rw [content_ofSettings, setting, field?_toEntries, Option.bind_some, formed]
    rfl

end Configurations

end Config

/-! ## Mappings -/

namespace Value

/-- Whether entries are those of a mapping: no key comes twice. -/
def IsMapping (entries : List (Value × Value)) : Prop :=
  entries.Pairwise fun entry other => sameKey entry.1 other.1 = false

instance (entries : List (Value × Value)) : Decidable (IsMapping entries) :=
  inferInstanceAs (Decidable (entries.Pairwise _))

/-- A key is the same as a text if it is that text. -/
theorem sameKey_text (v : Value) (s : String) : sameKey v (.text s) = v.isText s := by
  cases v with
  | text t => exact BEq.comm
  | _ => simp [sameKey, isText, toNumber?]

/-- Only a text is the same key as a text. -/
theorem sameKey_text_eq_false_iff {v : Value} {s : String} :
    sameKey v (.text s) = false ↔ v ≠ .text s := by
  rw [sameKey_text, ← Bool.not_eq_true, isText_eq_true_iff]

end Value

namespace Config

section Mappings

variable {entries : List (Value × Value)}

/-- Different settings have different keys. -/
theorem pairwise_key {order : List Setting} (apart : (order.map Setting.key).Nodup) :
    order.Pairwise fun s t => Value.sameKey (.text s.key) (.text t.key) = false := by
  refine (List.pairwise_map.1 apart).imp fun different => ?_
  rw [Value.sameKey_text_eq_false_iff]
  intro same
  exact different (Value.text.inj same)

/-- The mapping of a configuration has no key twice. -/
theorem isMapping_toEntries (c : Config) : Value.IsMapping c.toEntries := by
  rw [Value.IsMapping, toEntries, List.pairwise_map]
  exact pairwise_key (by decide)

/-- In a mapping nothing is reported twice. -/
theorem pairwise_field_problems (mapping : Value.IsMapping entries) :
    ((problems entries).map Problem.field).Pairwise fun field other =>
      Value.sameKey field other = false := by
  rw [problems_eq, List.pairwise_map, List.pairwise_append, List.pairwise_map, List.pairwise_map]
  refine ⟨?_, ?_, ?_⟩
  · exact mapping.sublist List.filter_sublist
  · have apart : (Setting.checked.map Setting.key).Nodup := by decide
    exact pairwise_key (apart.sublist (List.filter_sublist.map _))
  · intro problem unknown other known
    obtain ⟨entry, inside, rfl⟩ := List.mem_map.1 unknown
    obtain ⟨s, -, rfl⟩ := List.mem_map.1 known
    have nowhere := of_decide_eq_true (List.mem_filter.1 inside).2
    exact Value.sameKey_text_eq_false_iff.2 (nowhere s)

end Mappings

/-- **Mappings**: each mapping is accepted or reported. Reported are the keys that are none of the
settings, in the order of the mapping, and then the settings that are given without their form, in a
fixed order, each of them once; the error names them all in that order, unless one of them is or
holds a whole number with too many digits, which no message can name. If there are none, the
configuration holds what is given for a setting, lists as rows and the level in capitals, and the
defaults of the others. As a mapping, it is accepted as itself. -/
theorem ofEntries_outcome {entries : List (Value × Value)} (mapping : Value.IsMapping entries) :
    let unknown := entries.filter fun entry => IsUnknown entry.1
    let bad := Setting.checked.filter (IsBad entries)
    let reported := unknown.map Prod.fst ++ bad.map fun s => .text s.key
    problems entries =
      (unknown.map fun entry => ⟨entry.1, "Unknown setting", entry.2⟩) ++
        bad.map (fun s => ⟨.text s.key, s.form.message, Value.field s.key entries⟩) ∧
    reported.Pairwise (fun key other => Value.sameKey key other = false) ∧
    ((∃ config, ofEntries entries = .ok config) ↔ reported = []) ∧
    (∀ e, ofEntries entries = .error e →
      (Value.areShowable reported = true → ∃ error : Error, e = .error error ∧
        error = .invalidConfig ((problems entries).map fun p => (p.field, p.message)) ∧
        error.context = [("errors", .list reported)]) ∧
      (Value.areShowable reported = false → e = .fault .tooManyDigits)) ∧
    ∀ config, ofEntries entries = .ok config →
      (∀ s, config.value s =
        ((Value.field? s.key entries).map s.form.held).getD (value {} s)) ∧
      Value.IsMapping config.toEntries ∧ ofEntries config.toEntries = .ok config := by
  intro unknown bad reported
  have listed : problems entries = _ := problems_eq entries
  have fields : (problems entries).map Problem.field = reported := by
    rw [listed, List.map_append, List.map_map, List.map_map]
    rfl
  refine ⟨listed, fields ▸ pairwise_field_problems mapping, ?_, ?_, ?_⟩
  · rw [← fields, List.map_eq_nil_iff]
    simp only [ofEntries_eq_ok_iff, exists_and_left, exists_eq', and_true]
  · intro e failed
    have some : problems entries ≠ [] := by
      intro none
      rw [ofEntries_eq_ok_iff.2 ⟨none, rfl⟩] at failed
      cases failed
    have shown : (invalid (problems entries)).shownValues = reported := by
      rw [invalid, Error.shownValues, List.map_map, ← fields]
      rfl
    rw [ofEntries_eq_error some] at failed
    obtain rfl := Except.error.inj failed
    refine ⟨fun fits => ?_, fun long => Error.raise_of_not_areShowable (shown.symm ▸ long)⟩
    refine ⟨_, Error.raise_of_areShowable (shown.symm ▸ fits), rfl, ?_⟩
    rw [invalid, Error.context, List.map_map, ← fields]
    rfl
  · intro config accepted
    obtain ⟨none, rfl⟩ := ofEntries_eq_ok_iff.1 accepted
    refine ⟨fun s => ?_, isMapping_toEntries _, ?_⟩
    · exact value_ofSettings ((problems_eq_nil_iff.1 none).2 s)
    · exact ofEntries_toEntries (read?_value_ofSettings entries)

/-- A mapping with two unknown keys, a good value and two bad ones, and one with good values only.
-/
theorem ofEntries_outcome_mixed :
    let wrong : List (Value × Value) := [
      (.text "log_level", .int 10), (.int 1, .null), (.text "load_core", .bool false),
      (.text "colour", .text "red"), (.text "log_json", .int 1)]
    let right : List (Value × Value) := [
      (.text "log_level", .text "debug"), (.text "catalogs", .list [.text "a.yaml"])]
    Value.IsMapping wrong ∧ Value.IsMapping right ∧
      (∃ e : Error, ofEntries wrong = .error (.error e) ∧
        e.context = [("errors", .list [.int 1, .text "colour", .text "log_json", .text "log_level"])]) ∧
      ∃ config, ofEntries right = .ok config ∧ config.value .logLevel = .text "DEBUG" ∧
        config.value .catalogs = .tuple [.text "a.yaml"] ∧
        config.value .tempLabel = .text "avsgen" ∧ ofEntries config.toEntries = .ok config := by
  intro wrong right
  have mapping : Value.IsMapping wrong ∧ Value.IsMapping right := by decide
  obtain ⟨-, -, noProblem, failed, -⟩ := ofEntries_outcome mapping.1
  obtain ⟨-, -, accepted, -, holds⟩ := ofEntries_outcome mapping.2
  refine ⟨mapping.1, mapping.2, ?_, ?_⟩
  · cases outcome : ofEntries wrong with
    | ok config => exact absurd (noProblem.1 ⟨config, outcome⟩) (List.cons_ne_nil _ _)
    | error e =>
      obtain ⟨error, rfl, -, context⟩ := (failed e outcome).1 (by decide)
      exact ⟨error, rfl, context⟩
  · obtain ⟨config, made⟩ := accepted.2 rfl
    obtain ⟨values, -, again⟩ := holds config made
    exact ⟨config, made, values .logLevel, values .catalogs, values .tempLabel, again⟩

/-- A key with too many digits is unknown, and no message can name it. -/
theorem ofEntries_of_not_isWritable {n : Int} (long : Numeral.isWritable n = false) (v : Value) :
    ofEntries [(.int n, v)] = .error (.fault .tooManyDigits) := by
  have found : problems [(.int n, v)] = [⟨.int n, "Unknown setting", v⟩] := rfl
  have unshown : Value.areShowable (invalid (problems [(.int n, v)])).shownValues = false := by
    rw [found]
    exact (Bool.and_true _).trans long
  rw [ofEntries_eq_error (found ▸ List.cons_ne_nil _ _), Error.raise_of_not_areShowable unshown]

/-- **Keys with many digits**: a mapping with one is neither accepted nor reported. -/
theorem ofEntries_longKey :
    ofEntries [(.int (Int.ofNat (Nat.pow 10 Numeral.mostDigits)), .null)] = .error (.fault .tooManyDigits) ∧
      ¬∀ entries : List (Value × Value), Value.IsMapping entries →
        (∃ config, ofEntries entries = .ok config) ∨
          ∃ e : Error, ofEntries entries = .error (.error e) ∧
            e.context = [("errors", .list ((problems entries).map Problem.field))] := by
  have failed := ofEntries_of_not_isWritable Numeral.isWritable_power_of_ten .null
  refine ⟨failed, fun all => ?_⟩
  rcases all _ (List.pairwise_singleton _ (.int (Int.ofNat (Nat.pow 10 Numeral.mostDigits)), .null)) with
    ⟨config, accepted⟩ | ⟨e, reported, -⟩
  · cases failed.symm.trans accepted
  · cases failed.symm.trans reported

end Config

end FilterScript
