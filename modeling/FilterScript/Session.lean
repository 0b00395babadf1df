import FilterScript.Environment

/-!
# Sessions

A session is an environment with the scripts made in it, and with scripts that stand alone. It goes
on from operation to operation; one that fails leaves the state behind that it got to. An operation is
told with the machine as it is at that time (`Session.step`), or with the machine as others leave it,
to which the files are added that the session itself has generated (`Session.stepIn`). The main
statements say that a script put under a name is found there and that other names are not touched.
-/

namespace FilterScript

/-- A script in a session. -/
structure SessionScript where
  /-- The script. -/
  script : Script
  /-- Whether the script shares nothing with the environment. -/
  alone : Bool := false

/-- An environment and its scripts. -/
structure Session where
  /-- The environment. -/
  environment : Environment
  /-- The scripts by the names that the session gives them, in the order they were made. -/
  scripts : List (String × SessionScript) := []

namespace Session

/-- What is done in a session. -/
inductive Operation where
  /-- Makes a script of the environment. -/
  | newScript (id code : String)
  /-- Makes a script that shares nothing. -/
  | newLoneScript (id code : String)
  /-- Registers a filter by its signature. -/
  | newPlugin (name : String) (params types requires : Value) (category : Option String)
  /-- Registers a filter by its code. -/
  | addPlugin (name : String) (code : List Value → Outcome (Option String)) (requires : Value)
      (category : Option String)
  /-- References a file for every script. -/
  | loadForAll (path : String) (ignore : Bool)
  /-- References the files of a directory for every script. -/
  | autoloadForAll (path : String)
  /-- Calls a filter on a script. -/
  | call (id name : String) (values : List Value)
  /-- Appends lines to a script. -/
  | addCode (id text : String)
  /-- References a file for one script. -/
  | load (id path : String) (ignore : Bool)
  /-- References the files of a directory for one script. -/
  | autoload (id path : String)
  /-- Asks for all references of a script. -/
  | references (id : String)
  /-- Asks for the whole code. -/
  | fullCode (id : String)
  /-- Asks for the digest. -/
  | digest (id : String)
  /-- Asks how the script is shown. -/
  | shown (id : String)
  /-- Asks for the path of a file with the whole code. -/
  | filePath (id : String)

/-- What an operation answers. -/
inductive Answer where
  /-- Nothing. -/
  | done
  /-- Lines were appended. -/
  | appended
  /-- The kind of a referenced file, or that it was skipped. -/
  | kind (kind : Option ReferenceKind)
  /-- The registered filter. -/
  | plugin (plugin : Plugin)
  /-- The name of the filter that was called. -/
  | called (name : String)
  /-- A message about a name without a meaning. -/
  | noAttribute (message : String)
  /-- References. -/
  | references (refs : References)
  /-- A text. -/
  | text (s : String)
  /-- A path and the content of the file there. -/
  | file (path content : String)

/-! ## Scripts by name -/

/-- The script of a name. -/
def script? (s : Session) (id : String) : Option SessionScript :=
  s.scripts.lookup id

/-- The session with a script under a name. -/
def putScript (s : Session) (id : String) (script : SessionScript) : Session :=
  if (s.script? id).isSome then
    { s with scripts := s.scripts.map fun (i, old) => if i = id then (i, script) else (i, old) }
  else { s with scripts := s.scripts ++ [(id, script)] }

/-- A script that is changed is found under its name. -/
theorem lookup_change_self (scripts : List (String × SessionScript)) (id : String)
    (script : SessionScript) (h : (scripts.lookup id).isSome) :
    (scripts.map fun (i, old) => if i = id then (i, script) else (i, old)).lookup id =
      some script := by
  induction scripts with
  | nil => simp at h
  | cons head rest ih =>
    obtain ⟨i, old⟩ := head
    by_cases hi : i = id
    · simp [hi]
    · have hb : (id == i) = false := by simpa using fun e : id = i => hi e.symm
      simp only [List.lookup_cons, hb] at h
      simp [hi, List.lookup_cons, hb, ih h]

/-- Changing a script changes no other. -/
theorem lookup_change_of_ne (scripts : List (String × SessionScript)) {id other : String}
    (script : SessionScript) (h : other ≠ id) :
    (scripts.map fun (i, old) => if i = id then (i, script) else (i, old)).lookup other =
      scripts.lookup other := by
  induction scripts with
  | nil => rfl
  | cons head rest ih =>
    obtain ⟨i, old⟩ := head
    by_cases hi : i = id
    · have hb : (other == i) = false := by simpa [hi] using h
      simp only [List.map_cons, if_pos hi, List.lookup_cons, hb, ih]
    · simp only [List.map_cons, if_neg hi, List.lookup_cons, ih]

/-- A script put under a name is found there. -/
theorem script?_putScript_self (s : Session) (id : String) (script : SessionScript) :
    (s.putScript id script).script? id = some script := by
  unfold putScript
  split
  · next there => exact lookup_change_self s.scripts id script there
  · next missing =>
    simp only [script?, Option.not_isSome_iff_eq_none] at missing ⊢
    simp [List.lookup_append, missing]

/-- Putting a script under one name changes no other. -/
theorem script?_putScript_of_ne (s : Session) {id other : String} (script : SessionScript)
    (h : other ≠ id) : (s.putScript id script).script? other = s.script? other := by
  unfold putScript
  split
  · exact lookup_change_of_ne s.scripts script h
  · have hb : (other == id) = false := by simpa using h
    simp [script?, List.lookup_append, List.lookup_cons, hb]

/-- The registry that a script looks names up in. -/
def registryOf (s : Session) (script : SessionScript) : Registry :=
  if script.alone then .empty else s.environment.registry

/-- The references that a script shares with others. -/
def sharedOf (s : Session) (script : SessionScript) : References :=
  if script.alone then [] else s.environment.references

/-- The session with another storage. -/
def withStorage (s : Session) (storage : Storage) : Session :=
  { s with environment := { s.environment with storage := storage } }

/-- The session with other references for every script. -/
def withReferences (s : Session) (refs : References) : Session :=
  { s with environment := { s.environment with references := refs } }

/-- The session with another registry. -/
def withRegistry (s : Session) (registry : Registry) : Session :=
  { s with environment := { s.environment with registry := registry } }

/-! ## Operations on one script -/

/-- Calls what a name means on a script. What a script itself answers to is not called this way. -/
def callOn (host : Host) (s : Session) (id : String) (script : SessionScript) (name : String)
    (values : List Value) : Session × Outcome Answer :=
  match Script.meaning (s.registryOf script) name with
  | .member _ => (s, .error Fault.wrongKind)
  | .hidden name => (s, .ok (.noAttribute name))
  | .unknown name => (s, .ok (.noAttribute (Script.missingAttribute name)))
  | .plugin plugin =>
    let (changed, outcome) := Script.invoke host plugin values script.script
    let s := s.putScript id { script with script := changed }
    match outcome with
    | .ok _ => (s, .ok (.called plugin.name))
    | .error e => (s, .error e)

/-- References a file for a script. -/
def loadOn (host : Host) (s : Session) (id : String) (script : SessionScript) (path : String)
    (ignore : Bool) : Session × Outcome Answer :=
  match References.load host path ignore script.script.references with
  | .error e => (s, .error e)
  | .ok (refs, kind) =>
    (s.putScript id { script with script := { script.script with references := refs } },
      .ok (.kind kind))

/-- References the files of a directory for a script. -/
def autoloadOn (host : Host) (s : Session) (id : String) (script : SessionScript) (path : String) :
    Session × Outcome Answer :=
  let (refs, outcome) := References.autoload host path script.script.references
  let s := s.putScript id { script with script := { script.script with references := refs } }
  match outcome with
  | .ok _ => (s, .ok .done)
  | .error e => (s, .error e)

/-- Writes the file of a script. -/
def filePathOn (s : Session) (script : SessionScript) : Session × Outcome Answer :=
  match script.script.filePath (s.sharedOf script) s.environment.storage with
  | (storage, .error f) => (s.withStorage storage, .error f)
  | (storage, .ok path) =>
    (s.withStorage storage, .ok (.file path ((storage.content? path).getD "")))

/-- An operation on a script that is there. -/
def withScript (s : Session) (id : String)
    (operation : SessionScript → Session × Outcome Answer) : Session × Outcome Answer :=
  match s.script? id with
  | some script => operation script
  | none => (s, .error Fault.unknownWord)

/-! ## Operations for all scripts -/

/-- References a file for every script. -/
def loadShared (host : Host) (s : Session) (path : String) (ignore : Bool) :
    Session × Outcome Answer :=
  match References.load host path ignore s.environment.references with
  | .error e => (s, .error e)
  | .ok (refs, kind) => (s.withReferences refs, .ok (.kind kind))

/-- References the files of a directory for every script. -/
def autoloadShared (host : Host) (s : Session) (path : String) : Session × Outcome Answer :=
  match References.autoload host path s.environment.references with
  | (refs, .ok _) => (s.withReferences refs, .ok .done)
  | (refs, .error e) => (s.withReferences refs, .error e)

/-- The registration of a filter in the environment. -/
def registered (s : Session) (outcome : Outcome (Registry × Plugin)) : Session × Outcome Answer :=
  match outcome with
  | .error e => (s, .error e)
  | .ok (registry, plugin) => (s.withRegistry registry, .ok (.plugin plugin))

/-! ## All operations -/

/-- One operation. -/
def step (host : Host) (s : Session) : Operation → Session × Outcome Answer
  | .newScript id code => (s.putScript id ⟨⟨code, []⟩, false⟩, .ok .done)
  | .newLoneScript id code => (s.putScript id ⟨⟨code, []⟩, true⟩, .ok .done)
  | .newPlugin name params types requires category =>
    let services := Fragment.Services.inDirectory host.directory
    s.registered (s.environment.registry.newPlugin services name params types requires category)
  | .addPlugin name code requires category =>
    s.registered (s.environment.registry.register name code none requires category)
  | .loadForAll path ignore => s.loadShared host path ignore
  | .autoloadForAll path => s.autoloadShared host path
  | .call id name values => s.withScript id fun script => s.callOn host id script name values
  | .addCode id text =>
    s.withScript id fun script =>
      (s.putScript id { script with script := script.script.addCode text }, .ok .appended)
  | .load id path ignore => s.withScript id fun script => s.loadOn host id script path ignore
  | .autoload id path => s.withScript id fun script => s.autoloadOn host id script path
  | .references id =>
    s.withScript id fun script =>
      (s, .ok (.references (script.script.allReferences (s.sharedOf script))))
  | .fullCode id =>
    s.withScript id fun script => (s, .ok (.text (script.script.fullCode (s.sharedOf script))))
  | .digest id =>
    s.withScript id fun script => (s, .ok (.text (script.script.digest (s.sharedOf script))))
  | .shown id =>
    s.withScript id fun script => (s, .ok (.text (script.script.shown (s.sharedOf script))))
  | .filePath id => s.withScript id fun script => s.filePathOn script

/-- One operation on a machine whose files are those given, but for the generated ones, which are
those of the storage. -/
def stepIn (machine : Host) (s : Session) (operation : Operation) : Session × Outcome Answer :=
  s.step (machine.withFilesOf s.environment.storage) operation

end Session

end FilterScript
