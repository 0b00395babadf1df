import FilterScript.Proofs.Storage.Folders
import FilterScript.Script

/-!
# Files of scripts

The file of a script is named by the digest of the whole script, and is written unless it is there.
So what a storage holds is told by the scripts that were asked for since it was empty: the file of a
digest holds the first of them that has it.

* **Paths** (`names_scriptPath`, `scriptPath_eq_iff`): a file for each digest.
* **Contents** (`Holds`): what is in a storage after the files of some scripts were asked for.
* **Operations** (`exists_filePath`, `Holds.init`, `Holds.cleanUp`): what becomes of it.
-/

namespace FilterScript

/-! ## Digests -/

namespace Numeral

/-- Digits up to base 16 hold no slash. -/
theorem slash_not_mem_toDigits {base : Nat} (positional : 1 < base) (small : base ≤ 16) (n : Nat) :
    '/' ∉ Nat.toDigits base n := by
  intro inside
  obtain ⟨d, lt, same⟩ := exists_digitChar_of_mem_toDigits positional inside
  have other : ∀ d < 16, '/' ≠ Nat.digitChar d := by decide
  exact other d (by omega) same

/-- A padded hexadecimal form holds no slash. -/
theorem slash_not_mem_hexadecimal (width n : Nat) : '/' ∉ hexadecimal width n := by
  rw [hexadecimal, padded, List.mem_append, not_or]
  constructor
  · exact fun zero => absurd (List.eq_of_mem_replicate zero) (by decide)
  · exact slash_not_mem_toDigits (by decide) (by decide) n

end Numeral

/-- A digest can stand in a file name: it holds no slash. -/
theorem Digest.slash_not_mem_md5Text (text : String) : '/' ∉ (md5Text text).toList := by
  rw [md5Text, String.toList_ofList, List.mem_flatMap]
  rintro ⟨byte, -, inside⟩
  exact Numeral.slash_not_mem_hexadecimal 2 byte.toNat inside

/-- Whether the digests of some codes tell them apart. -/
def Digest.TellsApart (codes : List String) : Prop :=
  ∀ code ∈ codes, ∀ other ∈ codes, md5Text code = md5Text other → code = other

/-- Digests that tell codes apart tell apart any of them. -/
theorem Digest.TellsApart.of_subset {codes others : List String} (apart : TellsApart codes)
    (some : others ⊆ codes) : TellsApart others :=
  fun code first other second => apart code (some first) other (some second)

namespace Storage

/-! ## Paths -/

/-- The path below the folder of a process that the file of a script has. -/
def scriptFile (code : String) : String :=
  "scripts/" ++ Digest.md5Text code ++ ".avs"

/-- The path of the file of a script. -/
def scriptPath (root code : String) : String :=
  Path.resolve root (scriptFile code)

/-- The place of the folder for the files of scripts. -/
def scriptsPlace (root : String) : List String :=
  Path.names root ++ ["scripts"]

section Paths

variable {s : Storage} {root base label code other : String}

/-- The sub path of a script is a folder and a file name. -/
theorem splitOn_scriptFile (code : String) :
    (scriptFile code).toList.splitOn '/' =
      ["scripts".toList, (Digest.md5Text code ++ ".avs").toList] := by
  have folder : '/' ∉ "scripts".toList := by decide
  have name : '/' ∉ (Digest.md5Text code ++ ".avs").toList := by
    rw [String.toList_append, List.mem_append, not_or]
    exact ⟨Digest.slash_not_mem_md5Text code, by decide⟩
  have text : (scriptFile code).toList =
      "scripts".toList ++ '/' :: (Digest.md5Text code ++ ".avs").toList := by
    simp [scriptFile]
  rw [text, List.splitOn_append_cons_self_of_not_mem folder, List.splitOn_eq_singleton name]

/-- More than two characters are neither `.` nor `..`. -/
theorem isName_of_two_lt_length {name : List Char} (h : 2 < name.length) : Path.IsName name := by
  refine ⟨?_, ?_, ?_⟩ <;> rintro rfl <;> simp at h

/-- **Paths**: the file of a script is in the folder for them. -/
theorem names_scriptPath (root code : String) :
    Path.names (scriptPath root code) =
      scriptsPlace root ++ [Digest.md5Text code ++ ".avs"] := by
  have plain : ∀ piece ∈ (scriptFile code).toList.splitOn '/', Path.IsName piece := by
    rw [splitOn_scriptFile]
    refine List.forall_mem_cons.2 ⟨isName_of_two_lt_length (by decide), ?_⟩
    refine List.forall_mem_singleton.2 (isName_of_two_lt_length ?_)
    rw [String.toList_append, List.length_append]
    exact Nat.lt_of_lt_of_le (by decide) (Nat.le_add_left _ _)
  rw [scriptPath, Path.names_resolve, Path.names_joined plain, splitOn_scriptFile, scriptsPlace]
  simp [String.ofList_toList]

/-- **Paths**: scripts with one file have one digest. -/
theorem md5Text_eq_of_names_eq
    (h : Path.names (scriptPath root code) = Path.names (scriptPath root other)) :
    Digest.md5Text code = Digest.md5Text other := by
  rw [names_scriptPath, names_scriptPath] at h
  have file := List.singleton_inj.1 (List.append_cancel_left h)
  exact (String.append_left_inj ".avs").1 file

/-- Two codes have one path just when they have one digest. -/
theorem scriptPath_eq_iff :
    scriptPath root code = scriptPath root other ↔
      Digest.md5Text code = Digest.md5Text other := by
  constructor
  · exact fun same => md5Text_eq_of_names_eq (congrArg Path.names same)
  · intro same
    rw [scriptPath, scriptPath, scriptFile, scriptFile, same]

/-- The path that a storage gives to a script file is the script path below its root. -/
theorem path_scriptFile (s : Storage) (code : String) :
    s.path (scriptFile code) = scriptPath s.root code := by
  have some : scriptFile code ≠ "" := by
    intro none
    have long := congrArg String.length none
    simp [scriptFile] at long
  exact if_neg some

/-- The names on the path of the folder for scripts. -/
theorem names_path_scripts (s : Storage) : Path.names (s.path "scripts") = scriptsPlace s.root := by
  have pieces : "scripts".toList.splitOn '/' = ["scripts".toList] :=
    List.splitOn_eq_singleton (by decide)
  have plain : ∀ piece ∈ "scripts".toList.splitOn '/', Path.IsName piece := by
    rw [pieces]
    exact List.forall_mem_singleton.2 (isName_of_two_lt_length (by decide))
  have path : s.path "scripts" = Path.resolve s.root "scripts" := if_neg (by decide)
  rw [path, Path.names_resolve, Path.names_joined plain, pieces, scriptsPlace, List.map_singleton,
    String.ofList_toList]

/-! ## The folder of a process -/

/-- The name of the storage's folder is a single piece. -/
theorem splitOn_folder (name : '/' ∉ label.toList) (processId : Nat) :
    (label ++ "-" ++ Numeral.integerText processId).toList.splitOn '/' =
      [(label ++ "-" ++ Numeral.integerText processId).toList] := by
  apply List.splitOn_eq_singleton
  have digits : '/' ∉ (Numeral.integerText processId).toList := by
    rw [Numeral.integerText, String.toList_ofList]
    exact Numeral.slash_not_mem_toDigits (by decide) (by decide) processId
  rw [String.toList_append, String.toList_append, List.mem_append, List.mem_append]
  rintro ((inLabel | hyphen) | inNumber)
  · exact name inLabel
  · exact absurd hyphen (by decide)
  · exact digits inNumber

/-- The name of the storage's folder is a proper name. -/
theorem isName_folder (label : String) (processId : Nat) :
    Path.IsName (label ++ "-" ++ Numeral.integerText processId).toList := by
  have hyphen : '-' ∈ (label ++ "-" ++ Numeral.integerText processId).toList := by simp
  refine ⟨?_, ?_, ?_⟩ <;> intro dots <;> rw [dots] at hyphen <;> revert hyphen <;> decide

/-- The root of a storage lies one name below its base directory. -/
theorem names_root_inDirectory (name : '/' ∉ label.toList) (base : String) (processId : Nat) :
    Path.names (inDirectory base label processId).root =
      Path.names base ++ [label ++ "-" ++ Numeral.integerText processId] := by
  have plain : ∀ piece ∈ (label ++ "-" ++ Numeral.integerText processId).toList.splitOn '/',
      Path.IsName piece := by
    rw [splitOn_folder name]
    exact List.forall_mem_singleton.2 (isName_folder label processId)
  rw [root, inDirectory, Path.names_joined plain, splitOn_folder name, List.map_singleton,
    String.ofList_toList]

/-- **Paths**: the folder of a process is reached by names alone. -/
theorem isPlain_root_inDirectory (resolved : Path.IsResolved base) (name : '/' ∉ label.toList)
    (processId : Nat) : Path.IsPlain (inDirectory base label processId).root.toList := by
  have plain : Path.IsPlain (label ++ "-" ++ Numeral.integerText processId).toList := by
    rw [Path.IsPlain, splitOn_folder name]
    exact List.forall_mem_singleton.2 (.inr (isName_folder label processId))
  rw [root, inDirectory, Path.joined, String.toList_ofList]
  exact resolved.isPlain.join plain

end Paths

/-! ## Contents -/

/-- The code that the file of a script holds after the files of some scripts were asked for: the
first one with its digest. -/
def fileOf? (codes : List String) (code : String) : Option String :=
  codes.find? fun first => Digest.md5Text first = Digest.md5Text code

/-- What is in a storage after the files of scripts with some codes were asked for. -/
structure Holds (root : String) (codes : List String) (s : Storage) : Prop where
  /-- The folder of the process is the same all the time. -/
  root_eq : s.root = root
  /-- No file is on the way to the folder for scripts. -/
  unblocked : ∀ place, place <+: scriptsPlace root → s.files.content? place = none
  /-- The folders on the way to it are there when they are made. -/
  folders : s.initialized = true → ∀ place, place <+: scriptsPlace root →
    s.files.node? place = some .folder
  /-- The file of each script holds what it should, or is not there. -/
  files : ∀ code, s.files.node? (Path.names (scriptPath root code)) =
    (fileOf? codes code).map .file
  /-- Nothing is there before the folders are made. -/
  idle : s.initialized = false → codes = []

section Contents

variable {s : Storage} {root base label code other : String} {codes : List String}

/-- Writing one more code: it is found under its digest unless an earlier one was. -/
theorem fileOf?_concat (codes : List String) (new code : String) :
    fileOf? (codes ++ [new]) code =
      (fileOf? codes code).or
        (if Digest.md5Text new = Digest.md5Text code then some new else none) := by
  rw [fileOf?, List.find?_append, List.find?_singleton]
  simp [fileOf?]

/-- Codes with one digest find the same file. -/
theorem fileOf?_congr (same : Digest.md5Text code = Digest.md5Text other) :
    fileOf? codes code = fileOf? codes other := by
  rw [fileOf?, fileOf?, same]

/-- Where digests tell codes apart, the file of a script holds its code. -/
theorem fileOf?_of_mem (apart : Digest.TellsApart codes) (asked : code ∈ codes) :
    fileOf? codes code = some code := by
  have there : (fileOf? codes code).isSome :=
    List.find?_isSome.2 ⟨code, asked, decide_eq_true rfl⟩
  obtain ⟨first, found⟩ := Option.isSome_iff_exists.1 there
  have matching := List.find?_some found
  have same := apart first (List.mem_of_find?_eq_some found) code asked (of_decide_eq_true matching)
  rw [found, same]

/-- A code that was not asked for has no file, where the digests tell codes apart. -/
theorem fileOf?_of_not_mem (apart : Digest.TellsApart (code :: codes)) (unasked : code ∉ codes) :
    fileOf? codes code = none := by
  refine List.find?_eq_none.2 fun other asked matching => unasked ?_
  have same := apart other (List.mem_cons_of_mem code asked) code List.mem_cons_self
    (of_decide_eq_true matching)
  exact same ▸ asked

/-- The content at a script path, of a storage that holds the files of `codes`. -/
theorem Holds.content? (h : s.Holds root codes) (code : String) :
    s.content? (scriptPath root code) = fileOf? codes code := by
  rw [Storage.content?, FileTree.content?, h.files]
  cases fileOf? codes code <;> rfl

/-- The place of the file of a script is not on the way to the folder for them. -/
theorem not_prefix_scriptsPlace (root code : String) :
    ¬Path.names (scriptPath root code) <+: scriptsPlace root := by
  intro onWay
  have shorter := onWay.length_le
  rw [names_scriptPath, List.length_append, List.length_singleton] at shorter
  omega

/-! ## Operations -/

/-- A storage in a directory of its own holds no file of a script. -/
theorem holds_inDirectory (name : '/' ∉ label.toList) (base : String) (processId : Nat) :
    (inDirectory base label processId).Holds (inDirectory base label processId).root [] := by
  refine ⟨rfl, fun place _ => ?_, by simp [inDirectory], fun code => ?_, fun _ => rfl⟩
  · exact FileTree.content?_addFolder_nil (Path.names base) place
  · have outside : ¬Path.names (scriptPath (inDirectory base label processId).root code) <+:
        Path.names base := by
      intro onWay
      have shorter := onWay.length_le
      rw [names_scriptPath, scriptsPlace, names_root_inDirectory name] at shorter
      simp only [List.length_append, List.length_singleton] at shorter
      omega
    exact (FileTree.node?_addFolder_nil (Path.names base) _).trans (if_neg outside)

/-- **Operations**: making the folders. -/
theorem Holds.init (h : s.Holds root codes) :
    ∃ made, s.init = .ok made ∧ made.initialized = true ∧ made.Holds root codes := by
  cases ready : s.initialized with
  | true => exact ⟨s, init_of_initialized ready, ready, h⟩
  | false =>
    obtain ⟨files, done, nodes⟩ := FileTree.exists_makeFolders h.unblocked
    have contents := FileTree.content?_of_makeFolders nodes h.unblocked
    refine ⟨{ s with files := files, initialized := true }, ?_, rfl, ?_⟩
    · rw [Storage.init, ready, names_path_scripts, h.root_eq, done]
      rfl
    · refine ⟨h.root_eq, fun place onWay => ?_, fun _ place onWay => ?_, fun code => ?_,
        by simp⟩
      · rw [contents, h.unblocked place onWay]
      · rw [nodes, if_pos onWay]
      · rw [nodes, if_neg (not_prefix_scriptsPlace root code), h.files]

/-- Looking for an entry makes the folders. -/
theorem temp_of_init {made : Storage} (h : s.init = .ok made) (sub : String) :
    s.temp sub = .ok (made,
      if (made.files.node? (Path.names (made.path sub))).isSome then some (made.path sub)
      else none) := by
  rw [temp, h]
  rfl

/-- The file of a script is given where it is there, and is written else. -/
theorem filePath_of_init {made : Storage} (h : s.init = .ok made) (script : Script)
    (environment : References) :
    script.filePath environment s =
      if (made.files.node?
          (Path.names (scriptPath made.root (script.fullCode environment)))).isSome then
        (made, .ok (scriptPath made.root (script.fullCode environment)))
      else made.write (scriptFile (script.fullCode environment)) (script.fullCode environment) := by
  have looked : s.temp ("scripts/" ++ script.digest environment ++ ".avs") = _ :=
    temp_of_init h (scriptFile (script.fullCode environment))
  rw [path_scriptFile] at looked
  unfold Script.filePath
  dsimp only
  by_cases there : (made.files.node?
      (Path.names (scriptPath made.root (script.fullCode environment)))).isSome = true
  · rw [if_pos there] at looked ⊢
    rw [looked]
  · rw [if_neg there] at looked ⊢
    rw [looked, scriptFile, Script.digest]

/-- A file is written into the folder for scripts where none is. -/
theorem Holds.exists_write (h : s.Holds root codes) (ready : s.initialized = true)
    (vacant : fileOf? codes code = none) (content : String) :
    ∃ files, s.write (scriptFile code) content =
        ({ s with files := files }, .ok (scriptPath root code)) ∧
      ∀ place, files.node? place =
        if place = Path.names (scriptPath root code) then some (.file content)
        else s.files.node? place := by
  have folder : (Path.names (scriptPath root code)).dropLast = scriptsPlace root := by
    rw [names_scriptPath, List.dropLast_concat]
  obtain ⟨made, done, nodes⟩ := FileTree.exists_makeFolders h.unblocked
  -- the folders on the way are there already
  have same : ∀ place, made.node? place = s.files.node? place := by
    intro place
    rw [nodes]
    split
    · next onWay => rw [h.folders ready place onWay]
    · rfl
  have free : made.node? (Path.names (scriptPath root code)) ≠ some .folder := by
    rw [same, h.files, vacant]
    exact nofun
  have folderHere : made.node? (Path.names (scriptPath root code)).dropLast = some .folder := by
    rw [folder, same, h.folders ready _ List.prefix_rfl]
  obtain ⟨files, written, changed⟩ := FileTree.exists_write content free folderHere
  refine ⟨files, ?_, fun place => ?_⟩
  · simp only [write, init_of_initialized ready, path_scriptFile, h.root_eq, folder, done, written]
  · rw [changed, same]

/-- **Operations**: asking for the file of a script gives the path of the file for its code, which
holds the first code of its digest then. -/
theorem exists_filePath (h : s.Holds root codes) (script : Script) (environment : References) :
    ∃ next, script.filePath environment s =
        (next, .ok (scriptPath root (script.fullCode environment))) ∧
      next.Holds root (codes ++ [script.fullCode environment]) := by
  obtain ⟨made, done, ready, holds⟩ := h.init
  have asked := filePath_of_init done script environment
  rw [holds.root_eq, holds.files] at asked
  rw [asked]
  generalize script.fullCode environment = code
  have busy : made.initialized = false → codes ++ [code] = [] :=
    fun idle => absurd (ready.symm.trans idle) (by decide)
  cases first : fileOf? codes code with
  | some earlier =>
    -- the file is there, and is named by no other digest
    refine ⟨made, rfl, holds.root_eq, holds.unblocked, holds.folders, fun other => ?_, busy⟩
    rw [holds.files, fileOf?_concat]
    split
    · next same => rw [← fileOf?_congr same, first, Option.some_or]
    · rw [Option.or_none]
  | none =>
    obtain ⟨files, written, nodes⟩ := holds.exists_write ready first code
    have elsewhere : ∀ place, place <+: scriptsPlace root →
        files.node? place = made.files.node? place := by
      intro place onWay
      rw [nodes, if_neg]
      intro here
      exact not_prefix_scriptsPlace root code (here ▸ onWay)
    refine ⟨{ made with files := files }, ?_, holds.root_eq, fun place onWay => ?_,
      fun _ place onWay => ?_, fun other => ?_, busy⟩
    · rw [← written]
      rfl
    · rw [FileTree.content?_congr (elsewhere place onWay), holds.unblocked place onWay]
    · rw [elsewhere place onWay, holds.folders ready place onWay]
    · rw [nodes, fileOf?_concat]
      by_cases same : Digest.md5Text code = Digest.md5Text other
      · rw [if_pos (by rw [names_scriptPath, names_scriptPath, same]), ← fileOf?_congr same, first,
          if_pos same]
        rfl
      · rw [if_neg fun one => same (md5Text_eq_of_names_eq one).symm, holds.files, if_neg same,
          Option.or_none]

/-- **Operations**: cleaning up leaves no file of a script. -/
theorem Holds.cleanUp (h : s.Holds root codes) (plain : Path.IsPlain root.toList) :
    s.cleanUp.Holds root [] := by
  cases ready : s.initialized with
  | false =>
    rw [cleanUp_of_not_initialized ready]
    exact h.idle ready ▸ h
  | true =>
    have along : Path.names root =
        ((root.toList.splitOn '/').filter (· ≠ [])).map String.ofList := Path.names_of_isPlain plain
    have reached : reaches s.files [] (root.toList.splitOn '/') = true := by
      refine reaches_of_plain plain [] fun place onWay => FileTree.isFolder_iff.2 ?_
      rw [List.nil_append, ← along] at onWay
      exact h.folders ready place (onWay.trans (List.prefix_append _ _))
    have cleaned : s.cleanUp =
        { s with files := s.files.remove (Path.names root), initialized := false } := by
      rw [Storage.cleanUp, ready, h.root_eq, reached]
      rfl
    rw [cleaned]
    refine ⟨h.root_eq, fun place onWay => ?_, by simp, fun code => ?_, fun _ => rfl⟩
    · refine FileTree.content?_remove_of_none s.files (Path.names root) ?_
      exact h.unblocked place onWay
    · have inside : Path.names root <+: Path.names (scriptPath root code) := by
        rw [names_scriptPath, scriptsPlace, List.append_assoc]
        exact List.prefix_append _ _
      have below : Path.names (scriptPath root code) ≠ [] := by
        rw [names_scriptPath]
        exact List.concat_ne_nil _ _
      exact (FileTree.node?_remove s.files (Path.names root) below).trans (if_pos inside)

end Contents

end Storage

end FilterScript
