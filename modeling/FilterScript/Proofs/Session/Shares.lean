import FilterScript.Proofs.References.Order
import FilterScript.Proofs.Session.Trace

/-!
# What is shared and what is not

Most operations leave what the scripts share as it is; the others change one part of it each. The
references of an environment and of a script are told by the references that were made for it, in
their order.

* **What is shared** (`shares_step`): an operation changes one part of it at most.
* **References of all scripts** (`references_after`): those that were made for all of them.
* **References of one script** (`references_own`, `references_eq_eraseDups`): those that were made for
  it since the script was made.
-/

namespace FilterScript

namespace Script

/-! ## Required files -/

/-- The reference that a required file makes. -/
def requirement? (host : Host) (file : Value) : Option (String × ReferenceKind) :=
  file.toText?.bind (References.reference? host)

/-- What requiring files makes of the references, if it does not fail. -/
theorem merge_of_requireAll_eq_ok {host : Host} {files : List Value} {refs done : References}
    (h : requireAll host files refs = (done, .ok ())) :
    done = refs.merge (files.filterMap (requirement? host)) := by
  induction files generalizing refs with
  | nil => exact (congrArg Prod.fst h).symm
  | cons file rest ih =>
    obtain ⟨path, kind, named, found, loaded, behind⟩ := requireAll_cons_eq_ok h
    obtain ⟨impossible, -⟩ | ⟨-, -, valid, present, -, -⟩ := References.load_eq_ok loaded
    · cases impossible
    · have made : requirement? host file = some (host.resolve path, kind) := by
        rw [requirement?, named]
        exact References.reference?_eq_some_iff.2 ⟨valid, present, rfl, found⟩
      rw [List.filterMap_cons_some made, References.merge_cons]
      exact ih behind

/-- The references of required files are all made by loading. -/
theorem areMade_requirements (host : Host) (files : List Value) :
    References.AreMade host (files.filterMap (requirement? host)) := by
  intro entry inside
  obtain ⟨file, -, made⟩ := List.mem_filterMap.1 inside
  obtain ⟨path, -, made⟩ := Option.bind_eq_some_iff.1 made
  exact ⟨path, made⟩

end Script

namespace Session

/-! ## What is shared -/

/-- Whether an operation registers a filter. -/
def Operation.registers : Operation → Bool
  | .newPlugin .. => true
  | .addPlugin .. => true
  | _ => false

/-- Whether an operation asks for the file of a script. -/
def Operation.asksForFile : Operation → Bool
  | .filePath .. => true
  | _ => false

section Shared

variable {host : Host} {s : Session} {id : String} {operation : Operation}

/-- Putting a script back leaves the environment alone. -/
theorem environment_putScript (s : Session) (id : String) (script : SessionScript) :
    (s.putScript id script).environment = s.environment := by
  unfold putScript
  split <;> rfl

/-- An operation on a script leaves the environment alone if each run of it does. -/
theorem environment_withScript {operation : SessionScript → Session × Outcome Answer}
    (h : ∀ script, (operation script).1.environment = s.environment) :
    (s.withScript id operation).1.environment = s.environment := by
  unfold withScript
  split
  · exact h _
  · rfl

/-- A call leaves the environment alone. -/
theorem environment_callOn (script : SessionScript) (name : String) (values : List Value) :
    (s.callOn host id script name values).1.environment = s.environment := by
  by_cases h : ∃ plugin, Script.meaning (s.registryOf script) name = .plugin plugin
  · obtain ⟨plugin, means⟩ := h
    rw [callOn_of_plugin means]
    exact environment_putScript s id _
  · rw [fst_callOn_of_not_plugin (not_exists.1 h)]

/-- A load on a script leaves the environment alone. -/
theorem environment_loadOn (script : SessionScript) (path : String) (ignore : Bool) :
    (s.loadOn host id script path ignore).1.environment = s.environment := by
  unfold loadOn
  split
  · rfl
  · exact environment_putScript s id _

/-- A shared load merges its reference into the environment and changes nothing else. -/
theorem environment_loadShared (host : Host) (s : Session) (path : String) (ignore : Bool) :
    (s.loadShared host path ignore).1.environment =
      { s.environment with
        references := s.environment.references.merge (References.reference? host path).toList } := by
  unfold loadShared
  split
  · next failed =>
    rw [References.reference?_of_load_eq_error failed]
    rfl
  · next loaded =>
    rw [References.merge_of_load_eq_ok loaded]
    rfl

/-- A shared autoload merges the references of its directory and changes nothing else. -/
theorem environment_autoloadShared (host : Host) (s : Session) (path : String) :
    (s.autoloadShared host path).1.environment =
      { s.environment with
        references := s.environment.references.merge (References.referencesIn host path) } := by
  rw [← References.fst_autoload]
  unfold autoloadShared
  split <;> next loaded => rw [loaded]; rfl

/-- A registration changes the registry at most. -/
theorem exists_environment_registered (s : Session) (outcome : Outcome (Registry × Plugin)) :
    ∃ registry, (s.registered outcome).1.environment =
      { s.environment with registry := registry } := by
  cases outcome with
  | error e => exact ⟨s.environment.registry, rfl⟩
  | ok result => exact ⟨result.1, rfl⟩

/-- Asking for a script's file changes the storage at most. -/
theorem exists_environment_filePathOn (s : Session) (script : SessionScript) :
    ∃ storage, (s.filePathOn script).1.environment = { s.environment with storage := storage } := by
  unfold filePathOn
  split <;> exact ⟨_, rfl⟩

/-- The same for the operation. -/
theorem exists_environment_step_filePath (host : Host) (s : Session) (id : String) :
    ∃ storage, (s.step host (.filePath id)).1.environment =
      { s.environment with storage := storage } := by
  have asked : s.step host (.filePath id) = s.withScript id fun script => s.filePathOn script := rfl
  rw [asked]
  unfold withScript
  split
  · exact exists_environment_filePathOn s _
  · exact ⟨s.environment.storage, rfl⟩

/-- The references that an operation makes for all scripts. -/
def sharedBy (host : Host) : Operation → References
  | .loadForAll path _ => (References.reference? host path).toList
  | .autoloadForAll path => References.referencesIn host path
  | _ => []

/-- What an operation makes of what is shared, as it may. -/
structure Shares (host : Host) (operation : Operation) (before after : Environment) : Prop where
  /-- The references are those of before and the ones that are made for all scripts. -/
  references : after.references = before.references.merge (sharedBy host operation)
  /-- The filters change where one is registered. -/
  registry : operation.registers = false → after.registry = before.registry
  /-- The storage changes where the file of a script is asked for. -/
  storage : operation.asksForFile = false → after.storage = before.storage

/-- An operation that shares nothing and leaves the environment alone. -/
theorem shares_of_eq {before after : Environment} (nothing : sharedBy host operation = [])
    (same : after = before) : Shares host operation before after := by
  refine ⟨?_, fun _ => ?_, fun _ => ?_⟩
  · rw [same, nothing, References.merge_nil]
  · rw [same]
  · rw [same]

/-- An operation that shares nothing and changes the registry. -/
theorem shares_of_registered {before after : Environment} {registry : Registry}
    (nothing : sharedBy host operation = []) (registers : operation.registers = true)
    (changed : after = { before with registry := registry }) :
    Shares host operation before after := by
  refine ⟨?_, fun not => absurd (registers.symm.trans not) (by decide), fun _ => ?_⟩
  · rw [changed, nothing, References.merge_nil]
  · rw [changed]

/-- An operation that merges what it shares. -/
theorem shares_of_merged {before after : Environment}
    (changed : after =
      { before with references := before.references.merge (sharedBy host operation) }) :
    Shares host operation before after := by
  refine ⟨?_, fun _ => ?_, fun _ => ?_⟩ <;> rw [changed]

/-- **What is shared** is changed by one operation in one part at most. -/
theorem shares_step (host : Host) (s : Session) (operation : Operation) :
    Shares host operation s.environment (s.step host operation).1.environment := by
  cases operation with
  | newScript id code => exact shares_of_eq rfl (environment_putScript s id _)
  | newLoneScript id code => exact shares_of_eq rfl (environment_putScript s id _)
  | newPlugin name params types requires category =>
    obtain ⟨registry, changed⟩ := exists_environment_registered s _
    exact shares_of_registered rfl rfl changed
  | addPlugin name code requires category =>
    obtain ⟨registry, changed⟩ := exists_environment_registered s _
    exact shares_of_registered rfl rfl changed
  | loadForAll path ignore => exact shares_of_merged (environment_loadShared host s path ignore)
  | autoloadForAll path => exact shares_of_merged (environment_autoloadShared host s path)
  | call id name values =>
    exact shares_of_eq rfl (environment_withScript fun _ => environment_callOn _ name values)
  | addCode id text =>
    exact shares_of_eq rfl (environment_withScript fun _ => environment_putScript s id _)
  | load id path ignore =>
    exact shares_of_eq rfl (environment_withScript fun _ => environment_loadOn _ path ignore)
  | autoload id path =>
    refine shares_of_eq rfl (environment_withScript fun script => ?_)
    rw [fst_autoloadOn]
    exact environment_putScript s id _
  | references id => exact shares_of_eq rfl (environment_withScript fun _ => rfl)
  | fullCode id => exact shares_of_eq rfl (environment_withScript fun _ => rfl)
  | digest id => exact shares_of_eq rfl (environment_withScript fun _ => rfl)
  | shown id => exact shares_of_eq rfl (environment_withScript fun _ => rfl)
  | filePath id =>
    obtain ⟨storage, changed⟩ := exists_environment_step_filePath host s id
    refine ⟨?_, fun _ => ?_, fun unasked => nomatch unasked⟩
    · rw [changed]
      rfl
    · rw [changed]

end Shared

/-! ## References of all scripts -/

/-- The references that operations make for all scripts, one after the other. -/
def shared (operations : List (Host × Operation)) : References :=
  operations.flatMap fun (host, operation) => sharedBy host operation

/-- The references shared by a run, one operation at a time. -/
theorem shared_cons (host : Host) (operation : Operation) (rest : List (Host × Operation)) :
    shared ((host, operation) :: rest) = sharedBy host operation ++ shared rest :=
  List.flatMap_cons

/-- **References of all scripts** are those that were made for all of them. -/
theorem references_after (s : Session) (operations : List (Host × Operation)) :
    (s.after operations).environment.references =
      s.environment.references.merge (shared operations) := by
  induction operations generalizing s with
  | nil => rfl
  | cons entry rest ih =>
    obtain ⟨host, operation⟩ := entry
    have step := (shares_step host s operation).references
    rw [after, ih, step, shared_cons, References.merge_append]

/-- What an operation shares is made by loading. -/
theorem areMade_sharedBy (host : Host) (operation : Operation) :
    References.AreMade host (sharedBy host operation) := by
  cases operation with
  | loadForAll path ignore => exact References.areMade_reference? host path
  | autoloadForAll path => exact References.areMade_referencesIn host path
  | _ => exact fun _ absent => nomatch absent

/-! ## References of one script -/

/-- The references of the files that a called filter requires. -/
def requiredBy (host : Host) : Option (Plugin × List Value) → References
  | some (plugin, _) => plugin.requires.filterMap (Script.requirement? host)
  | none => []

/-- The references that an operation makes for the script of a name. -/
def ownBy (host : Host) (s : Session) (id : String) : Operation → References
  | .load on path _ => if on = id then (References.reference? host path).toList else []
  | .autoload on path => if on = id then References.referencesIn host path else []
  | operation => requiredBy host (s.calledOn host id operation)

instance (id : String) : DecidablePred (Operation.Makes id)
  | .newScript made _ => inferInstanceAs (Decidable (made = id))
  | .newLoneScript made _ => inferInstanceAs (Decidable (made = id))
  | .newPlugin .. => inferInstanceAs (Decidable False)
  | .addPlugin .. => inferInstanceAs (Decidable False)
  | .loadForAll .. => inferInstanceAs (Decidable False)
  | .autoloadForAll .. => inferInstanceAs (Decidable False)
  | .call .. => inferInstanceAs (Decidable False)
  | .addCode .. => inferInstanceAs (Decidable False)
  | .load .. => inferInstanceAs (Decidable False)
  | .autoload .. => inferInstanceAs (Decidable False)
  | .references .. => inferInstanceAs (Decidable False)
  | .fullCode .. => inferInstanceAs (Decidable False)
  | .digest .. => inferInstanceAs (Decidable False)
  | .shown .. => inferInstanceAs (Decidable False)
  | .filePath .. => inferInstanceAs (Decidable False)

/-- The references that operations make for the script of a name, one after the other, behind those
that were made before. They begin anew where a script of the name is made. -/
def own (s : Session) (id : String) (made : References) : List (Host × Operation) → References
  | [] => made
  | (host, operation) :: rest =>
    (s.step host operation).1.own id
      (if operation.Makes id then [] else made ++ s.ownBy host id operation) rest

section Own

variable {host : Host} {s : Session} {id : String} {script : SessionScript} {operation : Operation}

/-- What a call requires is made by loading. -/
theorem areMade_requiredBy (host : Host) (called : Option (Plugin × List Value)) :
    References.AreMade host (requiredBy host called) := by
  cases called with
  | none => exact fun _ absent => nomatch absent
  | some call => exact Script.areMade_requirements host _

/-- What an operation gives its own script is made by loading. -/
theorem areMade_ownBy (host : Host) (s : Session) (id : String) (operation : Operation) :
    References.AreMade host (s.ownBy host id operation) := by
  have nothing : References.AreMade host [] := fun _ absent => nomatch absent
  cases operation with
  | load on path ignore =>
    dsimp only [ownBy]
    split
    · exact References.areMade_reference? host path
    · exact nothing
  | autoload on path =>
    dsimp only [ownBy]
    split
    · exact References.areMade_referencesIn host path
    · exact nothing
  | call on name values => exact areMade_requiredBy host (s.calledOn host id (.call on name values))
  | _ => exact nothing

/-- Operations on other scripts make no references for this one. -/
theorem ownBy_of_ne (h : operation.target? ≠ some id) : s.ownBy host id operation = [] := by
  cases operation with
  | load on path ignore => exact if_neg fun same => h (congrArg some same)
  | autoload on path => exact if_neg fun same => h (congrArg some same)
  | call on name values =>
    have uncalled : s.calledOn host id (.call on name values) = none :=
      if_neg fun same => h (congrArg some same)
    exact congrArg (requiredBy host) uncalled
  | _ => rfl

/-- A call merges into its script's references what the plugin requires. -/
theorem references_invoke {name : String} {plugin : Plugin} (there : s.script? id = some script)
    (typed : script.script.references.IsTyped)
    (means : Script.meaning (s.registryOf script) name = .plugin plugin) (values : List Value) :
    (Script.invoke host plugin values script.script).1.references =
      script.script.references.merge (s.ownBy host id (.call id name values)) := by
  have called := calledOn_of_plugin host there means values
  have made : s.ownBy host id (.call id name values) =
      requiredBy host (s.calledOn host id (.call id name values)) := rfl
  rw [made, called]
  cases invoked : Script.invoke host plugin values script.script with
  | mk changed outcome =>
    cases outcome with
    | error e =>
      obtain rfl := Script.invoke_eq_error invoked
      rfl
    | ok done =>
      obtain ⟨line, required, -, gathered, -, references⟩ := Script.invoke_eq_ok invoked
      have typedMore := (Script.areMade_requirements host plugin.requires).isTyped
      -- what is required is gathered aside first, where each file is referenced once
      have aside := Script.merge_of_requireAll_eq_ok gathered
      rw [References.merge_nil_left typedMore] at aside
      dsimp only [requiredBy]
      rw [references, aside, References.merge_eraseDups typed typedMore]

/-- **References of one script**: what one operation makes of them. -/
theorem script?_step_references (host : Host) (there : s.script? id = some script)
    (typed : script.script.references.IsTyped) (kept : ¬operation.Makes id) :
    ∃ changed, (s.step host operation).1.script? id = some ⟨changed, script.alone⟩ ∧
      changed.references = script.script.references.merge (s.ownBy host id operation) := by
  by_cases target : operation.target? = some id
  · cases operation with
    | newScript on code => exact absurd (Option.some.inj target) kept
    | newLoneScript on code => exact absurd (Option.some.inj target) kept
    | call on name values =>
      obtain rfl := Option.some.inj target
      have call : s.step host (.call on name values) = s.callOn host on script name values :=
        withScript_of_script? there _
      rw [call]
      by_cases h : ∃ plugin, Script.meaning (s.registryOf script) name = .plugin plugin
      · obtain ⟨plugin, means⟩ := h
        rw [callOn_of_plugin means]
        exact ⟨_, script?_putScript_self s on _, references_invoke there typed means values⟩
      · have uncalled := calledOn_of_not_plugin host there (not_exists.1 h) values
        have nothing : s.ownBy host on (.call on name values) = [] :=
          congrArg (requiredBy host) uncalled
        rw [fst_callOn_of_not_plugin (not_exists.1 h), nothing]
        exact ⟨script.script, there, rfl⟩
    | addCode on text =>
      obtain rfl := Option.some.inj target
      have append : s.step host (.addCode on text) = _ := withScript_of_script? there _
      rw [append]
      exact ⟨_, script?_putScript_self s on _, rfl⟩
    | load on path ignore =>
      obtain rfl := Option.some.inj target
      have load : s.step host (.load on path ignore) = s.loadOn host on script path ignore :=
        withScript_of_script? there _
      rw [load, ownBy, if_pos rfl]
      unfold loadOn
      split
      · next failed =>
        rw [References.reference?_of_load_eq_error failed]
        exact ⟨script.script, there, rfl⟩
      · next loaded =>
        exact ⟨_, script?_putScript_self s on _, References.merge_of_load_eq_ok loaded⟩
    | autoload on path =>
      obtain rfl := Option.some.inj target
      have autoload : s.step host (.autoload on path) = s.autoloadOn host on script path :=
        withScript_of_script? there _
      rw [autoload, fst_autoloadOn, ownBy, if_pos rfl]
      exact ⟨_, script?_putScript_self s on _, References.fst_autoload host path _⟩
    | _ => cases target
  · rw [script?_step_of_ne target, ownBy_of_ne target]
    exact ⟨script.script, there, rfl⟩

/-- A script that is made has the references of no file. -/
theorem script?_step_of_makes (host : Host) (s : Session) (makes : operation.Makes id) :
    ∃ code alone, (s.step host operation).1.script? id = some ⟨⟨code, []⟩, alone⟩ := by
  cases operation with
  | newScript on code =>
    obtain rfl : on = id := makes
    exact ⟨code, false, script?_putScript_self s on _⟩
  | newLoneScript on code =>
    obtain rfl : on = id := makes
    exact ⟨code, true, script?_putScript_self s on _⟩
  | _ => cases makes

/-- A script is not there until it is made. -/
theorem script?_step_of_none (host : Host) (absent : s.script? id = none)
    (kept : ¬operation.Makes id) : (s.step host operation).1.script? id = none := by
  by_cases target : operation.target? = some id
  · have still {on : String} (same : on = id)
        (operation : SessionScript → Session × Outcome Answer) :
        (s.withScript on operation).1.script? id = none := by
      rw [withScript, same, absent]
      exact absent
    cases operation with
    | newScript on code => exact absurd (Option.some.inj target) kept
    | newLoneScript on code => exact absurd (Option.some.inj target) kept
    | call on name values => exact still (Option.some.inj target) _
    | addCode on text => exact still (Option.some.inj target) _
    | load on path ignore => exact still (Option.some.inj target) _
    | autoload on path => exact still (Option.some.inj target) _
    | _ => cases target
  · rw [script?_step_of_ne target, absent]

/-- What was made for a script was made by an operation on it, or before. -/
theorem exists_of_mem_own {operations : List (Host × Operation)} {made : References}
    {entry : String × ReferenceKind} (h : entry ∈ s.own id made operations) :
    entry ∈ made ∨ ∃ host operation path, (host, operation) ∈ operations ∧
      References.reference? host path = some entry := by
  induction operations generalizing s made with
  | nil => exact .inl h
  | cons head rest ih =>
    obtain ⟨host, operation⟩ := head
    rcases ih h with now | ⟨later, other, path, inside, known⟩
    · split at now
      · cases now
      · rcases List.mem_append.1 now with before | here
        · exact .inl before
        · obtain ⟨path, known⟩ := areMade_ownBy host s id operation entry here
          exact .inr ⟨host, operation, path, List.mem_cons_self, known⟩
    · exact .inr ⟨later, other, path, List.mem_cons_of_mem _ inside, known⟩

/-- Every shared reference was the reference of a path at some operation of the run. -/
theorem exists_of_mem_shared {operations : List (Host × Operation)}
    {entry : String × ReferenceKind} (h : entry ∈ shared operations) :
    ∃ host operation path, (host, operation) ∈ operations ∧
      References.reference? host path = some entry := by
  obtain ⟨⟨host, operation⟩, inside, made⟩ := List.mem_flatMap.1 h
  obtain ⟨path, made⟩ := areMade_sharedBy host operation entry made
  exact ⟨host, operation, path, inside, made⟩

/-- Shared references carry the kinds of their extensions. -/
theorem isTyped_shared (operations : List (Host × Operation)) : (shared operations).IsTyped := by
  intro entry inside
  obtain ⟨host, operation, path, -, made⟩ := exists_of_mem_shared inside
  exact (References.areMade_reference? host path).isTyped entry (Option.mem_toList.2 made)

/-- A script's own references carry the kinds of their extensions. -/
theorem isTyped_own {made : References} (typed : made.IsTyped)
    (operations : List (Host × Operation)) : (s.own id made operations).IsTyped := by
  intro entry inside
  obtain before | ⟨host, operation, path, -, made⟩ := exists_of_mem_own inside
  · exact typed entry before
  · exact (References.areMade_reference? host path).isTyped entry (Option.mem_toList.2 made)

/-- **References of one script** are those that were made for it since it was made. -/
theorem references_own {made : References} (typed : made.IsTyped)
    (before : ∀ script, s.script? id = some script →
      script.script.references = References.merge [] made)
    {operations : List (Host × Operation)} (there : (s.after operations).script? id = some script) :
    script.script.references = References.merge [] (s.own id made operations) := by
  induction operations generalizing s made with
  | nil => exact before script there
  | cons entry rest ih =>
    obtain ⟨host, operation⟩ := entry
    unfold own
    by_cases makes : operation.Makes id
    · rw [if_pos makes]
      refine ih References.isTyped_nil (fun next thereNext => ?_) there
      obtain ⟨code, alone, new⟩ := script?_step_of_makes host s makes
      obtain rfl := Option.some.inj (new.symm.trans thereNext)
      rfl
    · rw [if_neg makes]
      have typedBy := (areMade_ownBy host s id operation).isTyped
      refine ih (References.isTyped_append.2 ⟨typed, typedBy⟩) (fun next thereNext => ?_) there
      cases old : s.script? id with
      | none =>
        rw [script?_step_of_none host old makes] at thereNext
        cases thereNext
      | some script =>
        have typedOld : script.script.references.IsTyped := by
          rw [before script old]
          exact (References.growsTo_merge typed References.isTyped_nil).1
        obtain ⟨changed, new, references⟩ := script?_step_references host old typedOld makes
        obtain rfl := Option.some.inj (new.symm.trans thereNext)
        rw [References.merge_append, ← before script old]
        exact references

/-- **References of one script**: they are there once each, in the order in which they were made
first. -/
theorem references_eq_eraseDups {environment : Environment} {operations : List (Host × Operation)}
    (there : (after ⟨environment, []⟩ operations).script? id = some script) :
    script.script.references = (own ⟨environment, []⟩ id [] operations).eraseDups := by
  have none : ∀ script, script? ⟨environment, []⟩ id = some script →
      script.script.references = References.merge [] [] := fun _ absent => nomatch absent
  rw [references_own References.isTyped_nil none there,
    References.merge_nil_left (isTyped_own References.isTyped_nil operations)]

end Own

end Session

end FilterScript
