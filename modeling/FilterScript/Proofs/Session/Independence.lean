import FilterScript.Proofs.References.Machines
import FilterScript.Proofs.Registry.Runs
import FilterScript.Proofs.Session.Shares
import FilterScript.Proofs.Storage.Runs

/-!
# Scripts do not interfere

A script is made by the operations on it and by the filters that are registered, whatever is done to
other scripts meanwhile; the references of an environment are made by the operations that reference
files for all scripts. All of them are told of one machine, whose files are fixed but for those that the
session generates. So what is generated may not be what the operations look at.

* **One operation** (`step_of_agreesOutside`, `script?_step_congr`, `registry_step_congr`): an operation
  that looks outside of a folder does the same on machines that differ in the folder alone, and what
  becomes of a script depends on the script and on the filters alone.
* **The folder** (`isAt_of_build`, `isAt_step`): it is there for a built environment, and stays where it is.
* **Runs** (`after_filter`): operations on other scripts can be left out.
* **Generated files** (`script?_afterIn_generated`): a script that looks at them depends on others.
-/

namespace FilterScript

namespace Session

/-! ## Which operations count -/

/-- The name of the script that an operation is on. -/
def Operation.subject? : Operation → Option String
  | .newScript id _ => some id
  | .newLoneScript id _ => some id
  | .call id _ _ => some id
  | .addCode id _ => some id
  | .load id _ _ => some id
  | .autoload id _ => some id
  | .references id => some id
  | .fullCode id => some id
  | .digest id => some id
  | .shown id => some id
  | .filePath id => some id
  | _ => none

/-- Whether an operation counts for the script of a name: it is on the script, or registers a
filter. -/
def Operation.concerns (id : String) (operation : Operation) : Bool :=
  operation.subject? = some id || operation.registers

/-- Whether an operation references files for all scripts. -/
def Operation.loadsForAll : Operation → Bool
  | .loadForAll .. => true
  | .autoloadForAll .. => true
  | _ => false

/-- Whether an operation looks at nothing that is at a place or below it, and a filter that it
registers requires no file there. Of the directory around the place the files are looked at, but not
the entry of the place, if scripts can hold its name. -/
def Operation.LooksOutside (machine : Host) (place : List String) : Operation → Prop
  | .newPlugin _ _ _ requires _ => ∀ files, requires.items? = some files → machine.AreOutside place files
  | .addPlugin _ _ requires _ => ∀ files, requires.items? = some files → machine.AreOutside place files
  | .loadForAll path _ => ¬place <+: machine.place path
  | .load _ path _ => ¬place <+: machine.place path
  | .autoloadForAll path => ¬place <+: machine.place path ∧
      (machine.place path = place.dropLast → Path.IsValidEntry place)
  | .autoload _ path => ¬place <+: machine.place path ∧
      (machine.place path = place.dropLast → Path.IsValidEntry place)
  | _ => True

/-- Whether none of the filters requires a file that is at a place or below it. -/
def RequiresOutside (machine : Host) (place : List String) (registry : Registry) : Prop :=
  ∀ entry ∈ registry.plugins, machine.AreOutside place entry.2.requires

/-- An operation that may change a script is on the script. -/
theorem Operation.subject?_of_target? {operation : Operation} {id : String}
    (h : operation.target? = some id) : operation.subject? = some id := by
  cases operation <;> first | exact h | cases h

/-- Only operations for all scripts make references for all. -/
theorem sharedBy_of_not_loadsForAll {operation : Operation} (host : Host)
    (h : operation.loadsForAll = false) : sharedBy host operation = [] := by
  cases operation with
  | loadForAll path ignore => cases h
  | autoloadForAll path => cases h
  | _ => rfl

/-! ## One operation -/

section Step

variable {s t : Session} {id : String}

/-- An operation on one script gives equal scripts when it does so on each script that is there. -/
theorem script?_withScript_congr (same : s.script? id = t.script? id)
    {onFirst onSecond : SessionScript → Session × Outcome Answer}
    (h : ∀ script, s.script? id = some script →
      (onFirst script).1.script? id = (onSecond script).1.script? id) :
    (s.withScript id onFirst).1.script? id = (t.withScript id onSecond).1.script? id := by
  unfold withScript
  rw [← same]
  cases there : s.script? id with
  | none => exact same
  | some script => exact h script there

/-- A call on equal scripts over equal registries leaves equal scripts. -/
theorem script?_callOn_congr (same : s.script? id = t.script? id)
    (filters : s.environment.registry = t.environment.registry) (host : Host)
    (script : SessionScript) (name : String) (values : List Value) :
    (s.callOn host id script name values).1.script? id =
      (t.callOn host id script name values).1.script? id := by
  have registry : s.registryOf script = t.registryOf script := by
    unfold registryOf
    rw [filters]
  by_cases h : ∃ plugin, Script.meaning (s.registryOf script) name = .plugin plugin
  · obtain ⟨plugin, means⟩ := h
    rw [callOn_of_plugin means, callOn_of_plugin (registry ▸ means), script?_putScript_self,
      script?_putScript_self]
  · have none := not_exists.1 h
    rw [fst_callOn_of_not_plugin none, fst_callOn_of_not_plugin (registry ▸ none), same]

/-- A load on equal scripts leaves equal scripts. -/
theorem script?_loadOn_congr (same : s.script? id = t.script? id) (host : Host)
    (script : SessionScript) (path : String) (ignore : Bool) :
    (s.loadOn host id script path ignore).1.script? id =
      (t.loadOn host id script path ignore).1.script? id := by
  unfold loadOn
  split
  · exact same
  · rw [script?_putScript_self, script?_putScript_self]

/-- **One operation**: what becomes of a script depends on the script and on the filters alone. -/
theorem script?_step_congr (same : s.script? id = t.script? id)
    (filters : s.environment.registry = t.environment.registry) (host : Host)
    (operation : Operation) :
    (s.step host operation).1.script? id = (t.step host operation).1.script? id := by
  by_cases target : operation.target? = some id
  · cases operation with
    | newScript on code =>
      obtain rfl := Option.some.inj target
      exact (script?_putScript_self s on _).trans (script?_putScript_self t on _).symm
    | newLoneScript on code =>
      obtain rfl := Option.some.inj target
      exact (script?_putScript_self s on _).trans (script?_putScript_self t on _).symm
    | call on name values =>
      obtain rfl := Option.some.inj target
      exact script?_withScript_congr same fun script _ =>
        script?_callOn_congr same filters host script name values
    | addCode on text =>
      obtain rfl := Option.some.inj target
      refine script?_withScript_congr same fun script _ => ?_
      exact (script?_putScript_self s on _).trans (script?_putScript_self t on _).symm
    | load on path ignore =>
      obtain rfl := Option.some.inj target
      exact script?_withScript_congr same fun script _ =>
        script?_loadOn_congr same host script path ignore
    | autoload on path =>
      obtain rfl := Option.some.inj target
      refine script?_withScript_congr same fun script _ => ?_
      rw [fst_autoloadOn, fst_autoloadOn, script?_putScript_self, script?_putScript_self]
    | _ => cases target
  · rw [script?_step_of_ne target, script?_step_of_ne target, same]

/-- A registration leaves equal registries when they were equal before. -/
theorem registry_registered_congr (filters : s.environment.registry = t.environment.registry)
    (outcome : Outcome (Registry × Plugin)) :
    (s.registered outcome).1.environment.registry =
      (t.registered outcome).1.environment.registry := by
  cases outcome with
  | error e => exact filters
  | ok result => rfl

/-- **One operation**: what becomes of the filters depends on the filters alone. -/
theorem registry_step_congr (filters : s.environment.registry = t.environment.registry)
    (host : Host) (operation : Operation) :
    (s.step host operation).1.environment.registry =
      (t.step host operation).1.environment.registry := by
  by_cases registers : operation.registers = true
  · cases operation with
    | newPlugin name params types requires category =>
      simp only [step, filters]
      exact registry_registered_congr filters _
    | addPlugin name code requires category =>
      simp only [step, filters]
      exact registry_registered_congr filters _
    | _ => cases registers
  · have not := eq_false_of_ne_true registers
    rw [(shares_step host s operation).registry not, (shares_step host t operation).registry not,
      filters]

end Step

section Machines

variable {s : Session} {machine other : Host} {place : List String} {operation : Operation}

/-- A filter that a name means on a script requires files that are outside if all filters do. -/
theorem areOutside_of_meaning (requires : RequiresOutside machine place s.environment.registry)
    {script : SessionScript} {name : String} {plugin : Plugin}
    (means : Script.meaning (s.registryOf script) name = .plugin plugin) :
    machine.AreOutside place plugin.requires := by
  unfold Script.meaning at means
  split at means
  · cases means
  · split at means
    · cases means
    · split at means
      · next found =>
        obtain rfl := Script.Meaning.plugin.inj means
        unfold registryOf at found
        split at found
        · cases found
        · exact requires _ (Registry.mem_of_lookup found)
      · cases means

/-- **One operation** does the same on machines that differ in a folder alone, if it does not look
there, and calls no filter that does. -/
theorem step_of_agreesOutside (agree : machine.AgreesOutside place other) (named : machine.HasNames)
    (proper : ∀ name ∈ place.getLast?, Path.IsName name.toList ∧ '/' ∉ name.toList)
    (outside : operation.LooksOutside machine place)
    (requires : ∀ id name values, operation = .call id name values →
      RequiresOutside machine place s.environment.registry) :
    s.step machine operation = s.step other operation := by
  cases operation with
  | newPlugin name params types needed category => simp only [step, agree.directory]
  | loadForAll path ignore =>
    have onBoth : s.loadShared machine path ignore = s.loadShared other path ignore := by
      unfold loadShared
      rw [agree.load outside]
    exact onBoth
  | autoloadForAll path =>
    have onBoth : s.autoloadShared machine path = s.autoloadShared other path := by
      unfold autoloadShared
      rw [agree.autoload named proper outside.1 outside.2]
    exact onBoth
  | call id name values =>
    refine congrArg (s.withScript id) (funext fun script => ?_)
    unfold callOn
    split
    · rfl
    · rfl
    · rfl
    · next plugin means =>
      have files := areOutside_of_meaning (requires id name values rfl) means
      simp only [Script.invoke, agree.requireAll files]
  | load id path ignore =>
    refine congrArg (s.withScript id) (funext fun script => ?_)
    unfold loadOn
    rw [agree.load outside]
  | autoload id path =>
    refine congrArg (s.withScript id) (funext fun script => ?_)
    unfold autoloadOn
    rw [agree.autoload named proper outside.1 outside.2]
  | _ => rfl

/-- **One operation** on a machine with the generated files does what it does without them, if it
does not look at them, and calls no filter that does. -/
theorem stepIn_of_looksOutside (named : machine.HasNames) (at_ : s.environment.storage.IsAt place)
    (outside : operation.LooksOutside machine place)
    (requires : ∀ id name values, operation = .call id name values →
      RequiresOutside machine place s.environment.registry) :
    s.stepIn machine operation = s.step (machine.without place) operation := by
  obtain ⟨rfl, noFile⟩ := at_
  have left : (machine.without (Path.names s.environment.storage.root)).HasNames :=
    fun entry inside => named entry (List.mem_of_mem_filter inside)
  refine (step_of_agreesOutside (machine.agreesOutside_withFilesOf noFile) left ?_ ?_ requires).symm
  · intro name last
    obtain ⟨segment, among, rfl⟩ := List.mem_map.1 (List.mem_of_getLast? last)
    rw [String.toList_ofList]
    exact Path.isEntry_of_mem_segmentsOf _ segment among
  · cases operation <;> exact outside

/-- Filters that are registered with files outside leave all filters so. -/
theorem requiresOutside_register {registry registry' : Registry} {name : String}
    {code : List Value → Outcome (Option String)} {signature : Option Signature} {files : Value}
    {category : Option String} {plugin : Plugin} (requires : RequiresOutside machine place registry)
    (outside : ∀ items, files.items? = some items → machine.AreOutside place items)
    (registered : registry.register name code signature files category = .ok (registry', plugin)) :
    RequiresOutside machine place registry' := by
  obtain ⟨-, rfl, items, through, rfl⟩ := Registry.register_eq_ok_iff.1 registered
  intro entry inside
  rcases List.mem_append.1 inside with before | new
  · exact requires entry before
  · obtain rfl := List.mem_singleton.1 new
    exact outside items through

/-- An operation that registers no filter with files inside leaves all filters so. -/
theorem requiresOutside_step (host : Host)
    (requires : RequiresOutside machine place s.environment.registry)
    (outside : operation.registers = true → operation.LooksOutside machine place) :
    RequiresOutside machine place (s.step host operation).1.environment.registry := by
  by_cases registers : operation.registers = true
  · have files := outside registers
    cases operation with
    | newPlugin name params types needed category =>
      simp only [step]
      cases made : s.environment.registry.newPlugin (.inDirectory host.directory) name params types
          needed category with
      | error e => exact requires
      | ok result =>
        obtain ⟨signature, registered⟩ := Registry.newPlugin_eq_ok made
        exact requiresOutside_register requires files registered
    | addPlugin name code needed category =>
      simp only [step]
      cases made : s.environment.registry.register name code none needed category with
      | error e => exact requires
      | ok result => exact requiresOutside_register requires files made
    | _ => cases registers
  · rw [(shares_step host s operation).registry (eq_false_of_ne_true registers)]
    exact requires

end Machines

/-- An environment is built with a folder for generated files of its own. -/
theorem isAt_of_build {host : Host} {config : Config} {environment : Environment}
    (built : Environment.build host config = .ok environment) :
    environment.storage.IsAt (Path.names environment.storage.root) := by
  rw [Environment.storage_of_build built]
  exact Storage.isAt_inDirectory _ config.tempLabel host.processId

/-- **The folder** for generated files stays where it is. -/
theorem isAt_step {place : List String} {s : Session} (at_ : s.environment.storage.IsAt place)
    (host : Host) (operation : Operation) :
    (s.step host operation).1.environment.storage.IsAt place := by
  by_cases asks : operation.asksForFile = true
  · cases operation with
    | filePath id =>
      have asked : s.step host (.filePath id) = s.withScript id fun script => s.filePathOn script := rfl
      rw [asked]
      unfold withScript
      split
      · next script _ =>
        have there := at_.filePath script.script (s.sharedOf script)
        dsimp only
        unfold filePathOn
        split <;> next made => rw [made] at there; exact there
      · exact at_
    | _ => cases asks
  · rw [(shares_step host s operation).storage (eq_false_of_ne_true asks)]
    exact at_

/-! ## Runs -/

/-- The state after operations on a machine whose files are those given, but for the generated ones.
-/
def afterIn (machine : Host) (s : Session) : List Operation → Session
  | [] => s
  | operation :: rest => afterIn machine (s.stepIn machine operation).1 rest

section Run

variable {s t : Session} {machine : Host} {place : List String} {id : String}

/-- Operations that do not count for a script can be left out. -/
theorem script?_afterIn_filter (named : machine.HasNames)
    (atFirst : s.environment.storage.IsAt place) (atSecond : t.environment.storage.IsAt place)
    (same : s.script? id = t.script? id)
    (filters : s.environment.registry = t.environment.registry)
    (requires : RequiresOutside machine place s.environment.registry) {operations : List Operation}
    (outside : ∀ operation ∈ operations, operation.concerns id = true →
      operation.LooksOutside machine place) :
    (s.afterIn machine operations).script? id =
      (t.afterIn machine (operations.filter (Operation.concerns id))).script? id := by
  induction operations generalizing s t with
  | nil => exact same
  | cons operation rest ih =>
    obtain ⟨first, others⟩ := List.forall_mem_cons.1 outside
    have atNext : (s.stepIn machine operation).1.environment.storage.IsAt place :=
      isAt_step atFirst _ operation
    have requiresNext :
        RequiresOutside machine place (s.stepIn machine operation).1.environment.registry :=
      requiresOutside_step _ requires fun registers =>
        first (Bool.or_eq_true_iff.2 (.inr registers))
    by_cases counts : operation.concerns id = true
    · rw [List.filter_cons_of_pos counts]
      -- both runs take the operation, as if no file had been generated
      have lone := first counts
      have inFirst : s.stepIn machine operation = s.step (machine.without place) operation :=
        stepIn_of_looksOutside named atFirst lone fun _ _ _ _ => requires
      have inSecond : t.stepIn machine operation = t.step (machine.without place) operation :=
        stepIn_of_looksOutside named atSecond lone fun _ _ _ _ => filters ▸ requires
      have atOther : (t.stepIn machine operation).1.environment.storage.IsAt place :=
        isAt_step atSecond _ operation
      rw [inFirst] at atNext requiresNext
      rw [inSecond] at atOther
      rw [afterIn, afterIn, inFirst, inSecond]
      exact ih atNext atOther (script?_step_congr same filters _ operation)
        (registry_step_congr filters _ operation) requiresNext others
    · rw [List.filter_cons_of_neg counts]
      obtain ⟨notOn, notRegisters⟩ := not_or.1 (mt Bool.or_eq_true_iff.2 counts)
      have notTarget : operation.target? ≠ some id := fun target =>
        notOn (decide_eq_true (Operation.subject?_of_target? target))
      have still : (s.stepIn machine operation).1.environment.registry = s.environment.registry :=
        (shares_step _ s operation).registry (eq_false_of_ne_true notRegisters)
      exact ih atNext atSecond ((script?_step_of_ne notTarget).trans same)
        (still.trans filters) requiresNext others

/-- Operations that reference no file for all scripts can be left out. -/
theorem references_afterIn_filter (named : machine.HasNames)
    (atFirst : s.environment.storage.IsAt place) (atSecond : t.environment.storage.IsAt place)
    (same : s.environment.references = t.environment.references) {operations : List Operation}
    (outside : ∀ operation ∈ operations, operation.loadsForAll = true →
      operation.LooksOutside machine place) :
    (s.afterIn machine operations).environment.references =
      (t.afterIn machine (operations.filter Operation.loadsForAll)).environment.references := by
  induction operations generalizing s t with
  | nil => exact same
  | cons operation rest ih =>
    obtain ⟨first, others⟩ := List.forall_mem_cons.1 outside
    have atNext : (s.stepIn machine operation).1.environment.storage.IsAt place :=
      isAt_step atFirst _ operation
    have made : (s.stepIn machine operation).1.environment.references = _ :=
      (shares_step (machine.withFilesOf s.environment.storage) s operation).references
    by_cases loads : operation.loadsForAll = true
    · rw [List.filter_cons_of_pos loads]
      have noCall : ∀ (registry : Registry) id name values, operation = .call id name values →
          RequiresOutside machine place registry := by
        rintro registry id name values rfl
        cases loads
      have inFirst : s.stepIn machine operation = s.step (machine.without place) operation :=
        stepIn_of_looksOutside named atFirst (first loads) (noCall _)
      have inSecond : t.stepIn machine operation = t.step (machine.without place) operation :=
        stepIn_of_looksOutside named atSecond (first loads) (noCall _)
      have atOther : (t.stepIn machine operation).1.environment.storage.IsAt place :=
        isAt_step atSecond _ operation
      rw [inFirst] at atNext
      rw [inSecond] at atOther
      rw [afterIn, afterIn, inFirst, inSecond]
      refine ih atNext atOther ?_ others
      rw [(shares_step _ s operation).references, (shares_step _ t operation).references, same]
    · rw [List.filter_cons_of_neg loads]
      rw [sharedBy_of_not_loadsForAll _ (eq_false_of_ne_true loads), References.merge_nil] at made
      exact ih atNext atSecond (made.trans same) others

end Run

/-- **Generated files** are not fixed: a script that references the file of another one does not
find it if the other one has not asked for it. -/
theorem script?_afterIn_generated :
    let machine : Host := { files := ⟨[(["tmp"], .folder)]⟩ }
    let s : Session := ⟨{ storage := .inDirectory "/tmp" "avsgen" 7 }, []⟩
    let path := "/tmp/avsgen-7/scripts/d41d8cd98f00b204e9800998ecf8427e.avs"
    let operations : List Operation := [
      .newScript "first" "", .newScript "second" "", .filePath "second", .load "first" path false]
    let referencesOf (s : Session) : Option References :=
      (s.script? "first").map fun found => found.script.references
    referencesOf (s.afterIn machine operations) = some [(path, .script)] ∧
      referencesOf (s.afterIn machine (operations.filter (Operation.concerns "first"))) = some [] := by
  decide +kernel

end Session

end FilterScript
