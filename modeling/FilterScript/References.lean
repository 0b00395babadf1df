import FilterScript.Host
import FilterScript.Text.Casing

/-!
# References

A script refers to other scripts and to plugins by absolute path. References keep the order in which
they were first made; making one again changes nothing but its kind. The main statements say what
one more reference does to the paths and to the kind of each.
-/

namespace FilterScript

/-- What a referenced file is. -/
inductive ReferenceKind where
  /-- A script. -/
  | script
  /-- A plugin. -/
  | plugin
deriving DecidableEq, Repr

namespace ReferenceKind

/-- The command that takes a file of a kind in. -/
def directive : ReferenceKind → String
  | script => "Import"
  | plugin => "LoadPlugin"

/-- The kind of a file by its extension, in letters of either case. -/
def ofPath? (path : String) : Option ReferenceKind :=
  match Text.small (String.ofList (Path.extension path.toList)) with
  | ".avs" => some script
  | ".avsi" => some script
  | ".dll" => some plugin
  | _ => none

end ReferenceKind

/-- Paths with the kinds of their files, in the order of first reference. -/
abbrev References := List (String × ReferenceKind)

namespace References

/-- The references after one more. -/
def insert (path : String) (kind : ReferenceKind) : References → References
  | [] => [(path, kind)]
  | (p, k) :: rest => if p = path then (p, kind) :: rest else (p, k) :: insert path kind rest

/-- The references after others are made in their order. -/
def merge (refs more : References) : References :=
  more.foldl (fun done (path, kind) => insert path kind done) refs

/-- No more references change nothing. -/
theorem merge_nil (refs : References) : refs.merge [] = refs :=
  rfl

/-- The first of more references is made before the others. -/
theorem merge_cons (refs more : References) (path : String) (kind : ReferenceKind) :
    refs.merge ((path, kind) :: more) = (refs.insert path kind).merge more :=
  rfl

/-- A new path goes to the end, and an old one stays where it is. -/
theorem map_fst_insert (path : String) (kind : ReferenceKind) (refs : References) :
    (insert path kind refs).map Prod.fst =
      if path ∈ refs.map Prod.fst then refs.map Prod.fst else refs.map Prod.fst ++ [path] := by
  induction refs with
  | nil => simp [insert]
  | cons head rest ih =>
    obtain ⟨p, k⟩ := head
    by_cases h : p = path
    · simp [insert, h]
    · have h' : path ≠ p := fun e => h e.symm
      by_cases hm : path ∈ rest.map Prod.fst
      · simp only [insert, if_neg h, List.map_cons, ih, if_pos hm]
        simp [hm]
      · simp only [insert, if_neg h, List.map_cons, ih, if_neg hm]
        simp [hm, h']

/-- A reference just made has its kind. -/
theorem lookup_insert_self (path : String) (kind : ReferenceKind) (refs : References) :
    (insert path kind refs).lookup path = some kind := by
  induction refs with
  | nil => simp [insert]
  | cons head rest ih =>
    obtain ⟨p, k⟩ := head
    by_cases h : p = path
    · simp [insert, h]
    · have hb : (path == p) = false := by simpa using fun e : path = p => h e.symm
      simp [insert, h, List.lookup_cons, hb, ih]

/-- Making a reference changes the kind of no other. -/
theorem lookup_insert_of_ne {path other : String} (h : other ≠ path) (kind : ReferenceKind)
    (refs : References) : (insert path kind refs).lookup other = refs.lookup other := by
  induction refs with
  | nil =>
    have hb : (other == path) = false := by simpa using h
    simp [insert, List.lookup_cons, hb]
  | cons head rest ih =>
    obtain ⟨p, k⟩ := head
    by_cases hp : p = path
    · have hb : (other == p) = false := by simpa [hp] using h
      simp only [insert, if_pos hp, List.lookup_cons, hb]
    · simp only [insert, if_neg hp, List.lookup_cons, ih]

/-! ## Loading -/

/-- References a file. Characters that scripts cannot have in paths are always an error; a missing
file or one of another type is skipped if errors are to be ignored. -/
def load (host : Host) (path : String) (ignore : Bool) (refs : References) :
    Except Error (References × Option ReferenceKind) :=
  let path := host.resolve path
  if !Path.isValid path then .error (.invalidPath path)
  else if !host.isFile path then
    if ignore then .ok (refs, none) else .error (.notAFile path)
  else
    match ReferenceKind.ofPath? path with
    | some kind => .ok (refs.insert path kind, some kind)
    | none => if ignore then .ok (refs, none) else .error (.unknownFileType path)

/-- References the files of a directory with the given names. An error ends it, and what was
referenced before stays. -/
def loadAll (host : Host) (directory : String) : List String → References →
    References × Except Error Unit
  | [], refs => (refs, .ok ())
  | name :: rest, refs =>
    match load host (Path.joined directory name) true refs with
    | .ok (refs, _) => loadAll host directory rest refs
    | .error e => (refs, .error e)

-- unsealed, the file is loaded while the two sides are compared
seal load in
/-- The first file is loaded, and then the others unless it fails. -/
theorem loadAll_cons (host : Host) (directory name : String) (rest : List String)
    (refs : References) :
    loadAll host directory (name :: rest) refs =
      match load host (Path.joined directory name) true refs with
      | .ok (refs, _) => loadAll host directory rest refs
      | .error e => (refs, .error e) :=
  rfl

/-- References every script and plugin of a directory, in the order of their names. -/
def autoload (host : Host) (directory : String) (refs : References) :
    References × Except Error Unit :=
  let directory := host.resolve directory
  if !Path.isValid directory then (refs, .error (.invalidPath directory))
  else
    match host.listDirectory? directory with
    | some names => loadAll host directory names refs
    | none => (refs, .error (.invalidDirectory directory))

end References

end FilterScript
