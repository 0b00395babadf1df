import FilterScript.Digest
import FilterScript.References
import FilterScript.Registry
import FilterScript.Storage

/-!
# Scripts

A script is the code gathered so far and the files that it alone refers to. Its full code begins
with a directive for each file that the environment or the script refers to; the digest of the full
code names the script. The main statement says how code is appended.
-/

namespace FilterScript

/-- A script. -/
structure Script where
  /-- The code, without directives. -/
  rawCode : String := ""
  /-- The files that the script refers to by itself. -/
  references : References := []

namespace Script

/-! ## Code -/

/-- Code with more lines behind it. A line is begun if the last one is not ended. -/
def appendLines (code text : String) : String :=
  (if code ≠ "" ∧ code.toList.getLast? ≠ some '\n' then code ++ "\n" else code) ++ text ++ "\n"

/-- The script with more lines. -/
def addCode (s : Script) (text : String) : Script :=
  { s with rawCode := appendLines s.rawCode text }

/-- Lines that are ended are followed by the next ones. -/
theorem appendLines_of_ended {code : String} (h : code.toList.getLast? = some '\n')
    (text : String) : appendLines code text = code ++ text ++ "\n" := by
  simp [appendLines, h]

/-- The references of the environment, and then those of the script. -/
def allReferences (s : Script) (environment : References) : References :=
  environment.merge s.references

/-- The line that takes a file in. -/
def directiveLine : String × ReferenceKind → String
  | (path, kind) => kind.directive ++ "(\"" ++ path ++ "\")\n"

/-- The code behind the directives: one more line feed than there is, or nothing if it is blank. -/
def body (s : Script) : String :=
  if Text.isBlankText s.rawCode then "" else s.rawCode ++ "\n"

/-- The whole script. -/
def fullCode (s : Script) (environment : References) : String :=
  String.join ((s.allReferences environment).map directiveLine) ++ s.body

/-- The digest of the whole script. -/
def digest (s : Script) (environment : References) : String :=
  Digest.md5Text (s.fullCode environment)

/-- How a script is shown. -/
def shown (s : Script) (environment : References) : String :=
  "<Script md5=" ++ s.digest environment ++ ">"

/-! ## Filters -/

/-- References the files that a filter requires, one after the other. The first that cannot be
referenced ends it, and what was referenced before stays. -/
def requireAll (host : Host) : List Value → References → References × Outcome Unit
  | [], refs => (refs, .ok ())
  | file :: rest, refs =>
    match file.toText? with
    | none => (refs, .error Fault.wrongKind)
    | some path =>
      match References.load host path false refs with
      | .ok (refs, _) => requireAll host rest refs
      | .error e => (refs, .error e)

/-- Without files nothing is referenced. -/
theorem requireAll_nil (host : Host) (refs : References) : requireAll host [] refs = (refs, .ok ()) :=
  rfl

-- unsealed, the file is loaded while the two sides are compared
seal References.load in
/-- The first file is loaded, and then the others unless it fails. -/
theorem requireAll_cons (host : Host) (file : Value) (rest : List Value) (refs : References) :
    requireAll host (file :: rest) refs =
      match file.toText? with
      | none => (refs, .error Fault.wrongKind)
      | some path =>
        match References.load host path false refs with
        | .ok (refs, _) => requireAll host rest refs
        | .error e => (refs, .error e) :=
  rfl

/-- Calls a filter on a script: its line is appended if it writes one. The files that it requires
are gathered aside first, and become references of the script when all of them are there. -/
def invoke (host : Host) (plugin : Plugin) (values : List Value) (s : Script) :
    Script × Outcome Unit :=
  match plugin.code values with
  | .error e => (s, .error e)
  | .ok line =>
    match requireAll host plugin.requires [] with
    | (_, .error e) => (s, .error e)
    | (required, .ok ()) =>
      let s := { s with references := s.references.merge required }
      match line with
      | some line => (s.addCode line, .ok ())
      | none => (s, .ok ())

/-! ## Files -/

/-- The path of a file that holds the whole script. The file is named by the digest, and is written
unless it is there. -/
def filePath (s : Script) (environment : References) (storage : Storage) :
    Storage × Except Fault String :=
  let sub := "scripts/" ++ s.digest environment ++ ".avs"
  match storage.temp sub with
  | .error f => (storage, .error f)
  | .ok (storage, some path) => (storage, .ok path)
  | .ok (storage, none) => storage.write sub (s.fullCode environment)

/-! ## Names -/

/-- What a script itself answers to: its operations, and the parts it is made of. -/
def members : List String := [
  "raw_code", "references", "load", "autoload", "all_references", "code", "full_code", "md5",
  "get_path", "_registry", "_loader", "_storage", "_renderer"]

/-- What a name means on a script. -/
inductive Meaning where
  /-- Something that the script itself answers to. -/
  | member (name : String)
  /-- A filter. -/
  | plugin (plugin : Plugin)
  /-- A name with an underscore in front, which is not looked up. -/
  | hidden (name : String)
  /-- A name without a meaning. -/
  | unknown (name : String)

/-- What a name means on a script whose filters are in a registry. -/
def meaning (registry : Registry) (name : String) : Meaning :=
  if members.contains name then .member name
  else if name.toList.head? = some '_' then .hidden name
  else
    match registry.lookup name with
    | some plugin => .plugin plugin
    | none => .unknown name

/-- The message about a name without a meaning. -/
def missingAttribute (name : String) : String :=
  "'Script' object has no attribute or plugin " ++ Text.quoted name

end Script

end FilterScript
