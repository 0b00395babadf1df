import FilterScript.Proofs.Session.Steps

/-!
# The trace of a script

What a script has become is told by what was done to it: its code is the code that it was made with,
and behind it the appended lines in their order; its references are those of before and more.

* **One operation** (`script?_step`): it appends the lines that it is said to append, and loses no
  reference; a filter that was called has all that it requires among the references.
* **All operations** (`script?_after`): so it is with all of them, on machines that may differ.
-/

namespace FilterScript

namespace Session

/-! ## What an operation is said to do -/

/-- The filter that an operation calls on the script of a name, and the values of the call, if the
call succeeds. -/
def calledOn (host : Host) (s : Session) (id : String) : Operation → Option (Plugin × List Value)
  | .call on name values =>
    if on = id then
      (s.script? id).bind fun script =>
        match Script.meaning (s.registryOf script) name, (s.step host (.call id name values)).2 with
        | .plugin plugin, .ok _ => some (plugin, values)
        | _, _ => none
    else none
  | _ => none

/-- The line that a called filter writes, if it writes one. -/
def writtenBy : Option (Plugin × List Value) → List String
  | some (plugin, values) => (plugin.code values).toOption.join.toList
  | none => []

/-- The texts that an operation appends to the script of a name: the one that it is asked to append,
or the line that the filter writes. -/
def appendedBy (host : Host) (s : Session) (id : String) : Operation → List String
  | .addCode on text => if on = id then [text] else []
  | operation => writtenBy (s.calledOn host id operation)

/-- The texts that operations append to the script of a name. -/
def appended (s : Session) (id : String) : List (Host × Operation) → List String
  | [] => []
  | (host, operation) :: rest =>
    s.appendedBy host id operation ++ (s.step host operation).1.appended id rest

/-! ## One operation -/

/-- What an operation makes of the script of a name, as it is said to. -/
structure Becomes (host : Host) (s : Session) (id : String) (operation : Operation)
    (before after : Script) : Prop where
  /-- The appended texts are put behind the code. -/
  code : after.rawCode =
    (s.appendedBy host id operation).foldl Script.appendLines before.rawCode
  /-- No reference is lost. -/
  grows : before.references.GrowsTo after.references
  /-- What a called filter requires is referenced. -/
  required : ∀ plugin values, s.calledOn host id operation = some (plugin, values) →
    ∀ file ∈ plugin.requires, after.references.HoldsFile host file

section Step

variable {host : Host} {s : Session} {id : String} {script : SessionScript}

/-- Where nothing is appended or called, the script may only get more references. -/
theorem becomes_of_grows {operation : Operation} {before after : Script}
    (silent : s.appendedBy host id operation = []) (uncalled : s.calledOn host id operation = none)
    (code : after.rawCode = before.rawCode)
    (grows : before.references.GrowsTo after.references) :
    Becomes host s id operation before after := by
  refine ⟨?_, grows, fun plugin values called => ?_⟩
  · rw [silent, code, List.foldl_nil]
  · rw [uncalled] at called
    cases called

/-- An operation on another script, or on none, is not said to do anything. -/
theorem becomes_of_ne {operation : Operation} (h : operation.target? ≠ some id) (script : Script) :
    Becomes host s id operation script script := by
  have uncalled : s.calledOn host id operation = none := by
    cases operation with
    | call on name values => exact if_neg fun same => h (congrArg some same)
    | _ => rfl
  have silent : s.appendedBy host id operation = [] := by
    cases operation with
    | addCode on text => exact if_neg fun same => h (congrArg some same)
    | call on name values => exact congrArg writtenBy uncalled
    | _ => rfl
  exact becomes_of_grows silent uncalled rfl (References.GrowsTo.refl _)

/-- What becomes of a script that code is appended to. -/
theorem becomes_addCode (script : Script) (text : String) :
    Becomes host s id (.addCode id text) script (script.addCode text) := by
  refine ⟨?_, References.GrowsTo.refl _, fun plugin values called => nomatch called⟩
  rw [appendedBy, if_pos rfl]
  rfl

/-- A filter is called on a script if its name means the filter and the call succeeds. -/
theorem calledOn_of_plugin {name : String} {plugin : Plugin} (host : Host)
    (there : s.script? id = some script)
    (means : Script.meaning (s.registryOf script) name = .plugin plugin) (values : List Value) :
    s.calledOn host id (.call id name values) =
      match (Script.invoke host plugin values script.script).2 with
      | .ok _ => some (plugin, values)
      | .error _ => none := by
  have call : s.step host (.call id name values) = s.callOn host id script name values :=
    withScript_of_script? there _
  rw [calledOn, if_pos rfl, there, call, callOn_of_plugin means]
  dsimp only [Option.bind_some]
  rw [means]
  cases (Script.invoke host plugin values script.script).2 <;> rfl

/-- A call of a name that means no plugin calls nothing. -/
theorem calledOn_of_not_plugin {name : String} (host : Host)
    (there : s.script? id = some script)
    (h : ∀ plugin, Script.meaning (s.registryOf script) name ≠ .plugin plugin)
    (values : List Value) : s.calledOn host id (.call id name values) = none := by
  rw [calledOn, if_pos rfl, there]
  dsimp only [Option.bind_some]
  split
  · next plugin answer means _ => exact absurd means (h plugin)
  · rfl

/-- What becomes of a script that a filter is called on. -/
theorem becomes_invoke {name : String} {plugin : Plugin} (there : s.script? id = some script)
    (means : Script.meaning (s.registryOf script) name = .plugin plugin) (values : List Value) :
    Becomes host s id (.call id name values) script.script
      (Script.invoke host plugin values script.script).1 := by
  have called := calledOn_of_plugin host there means values
  cases invoked : Script.invoke host plugin values script.script with
  | mk changed outcome =>
    rw [invoked] at called
    cases outcome with
    | error e =>
      obtain rfl := Script.invoke_eq_error invoked
      exact becomes_of_grows (congrArg writtenBy called) called rfl (References.GrowsTo.refl _)
    | ok done =>
      obtain ⟨line, required, written, gathered, code, references⟩ := Script.invoke_eq_ok invoked
      have typed := (Script.growsTo_of_requireAll_eq_ok gathered References.isTyped_nil).1
      have appends : s.appendedBy host id (.call id name values) = line.toList := by
        change writtenBy (s.calledOn host id (.call id name values)) = _
        rw [called, writtenBy, written]
        rfl
      refine ⟨?_, ?_, ?_⟩
      · rw [code, appends]
      · rw [references]
        exact References.growsTo_merge typed
      · intro other given same file inside
        obtain ⟨rfl, rfl⟩ := Prod.mk.inj (Option.some.inj (called.symm.trans same))
        rw [references]
        have held := Script.holdsFile_of_requireAll_eq_ok References.isTyped_nil gathered file inside
        exact held.of_subset fun entry known => References.mem_merge typed known

/-- What a call makes of the script it is on. -/
theorem script?_step_call (there : s.script? id = some script) (name : String)
    (values : List Value) :
    ∃ changed, (s.step host (.call id name values)).1.script? id = some ⟨changed, script.alone⟩ ∧
      Becomes host s id (.call id name values) script.script changed := by
  have call : s.step host (.call id name values) = s.callOn host id script name values :=
    withScript_of_script? there _
  rw [call]
  by_cases h : ∃ plugin, Script.meaning (s.registryOf script) name = .plugin plugin
  · obtain ⟨plugin, means⟩ := h
    rw [callOn_of_plugin means]
    exact ⟨_, script?_putScript_self s id _, becomes_invoke there means values⟩
  · rw [fst_callOn_of_not_plugin (not_exists.1 h)]
    have uncalled := calledOn_of_not_plugin host there (not_exists.1 h) values
    refine ⟨script.script, there, ?_⟩
    exact becomes_of_grows (congrArg writtenBy uncalled) uncalled rfl (References.GrowsTo.refl _)

/-- What a load makes of the script it is on. -/
theorem script?_step_load (there : s.script? id = some script) (path : String) (ignore : Bool) :
    ∃ changed, (s.step host (.load id path ignore)).1.script? id = some ⟨changed, script.alone⟩ ∧
      Becomes host s id (.load id path ignore) script.script changed := by
  have load : s.step host (.load id path ignore) = s.loadOn host id script path ignore :=
    withScript_of_script? there _
  rw [load]
  unfold loadOn
  split
  · exact ⟨script.script, there, becomes_of_grows rfl rfl rfl (References.GrowsTo.refl _)⟩
  · next refs kind loaded =>
    refine ⟨{ script.script with references := refs }, script?_putScript_self s id _, ?_⟩
    exact becomes_of_grows rfl rfl rfl (References.growsTo_of_load_eq_ok loaded)

/-- What an autoload makes of the script it is on. -/
theorem script?_step_autoload (there : s.script? id = some script) (path : String) :
    ∃ changed, (s.step host (.autoload id path)).1.script? id = some ⟨changed, script.alone⟩ ∧
      Becomes host s id (.autoload id path) script.script changed := by
  have autoload : s.step host (.autoload id path) = s.autoloadOn host id script path :=
    withScript_of_script? there _
  rw [autoload, fst_autoloadOn]
  refine ⟨_, script?_putScript_self s id _, ?_⟩
  exact becomes_of_grows rfl rfl rfl (References.growsTo_autoload host path _)

/-- **One operation** does to a script what it is said to. -/
theorem script?_step {operation : Operation} (host : Host) (there : s.script? id = some script)
    (kept : ¬operation.Makes id) :
    ∃ changed, (s.step host operation).1.script? id = some ⟨changed, script.alone⟩ ∧
      Becomes host s id operation script.script changed := by
  by_cases target : operation.target? = some id
  · cases operation with
    | newScript on code => exact absurd (Option.some.inj target) kept
    | newLoneScript on code => exact absurd (Option.some.inj target) kept
    | call on name values =>
      obtain rfl := Option.some.inj target
      exact script?_step_call there name values
    | addCode on text =>
      obtain rfl := Option.some.inj target
      have append : s.step host (.addCode on text) = _ := withScript_of_script? there _
      rw [append]
      exact ⟨_, script?_putScript_self s on _, becomes_addCode script.script text⟩
    | load on path ignore =>
      obtain rfl := Option.some.inj target
      exact script?_step_load there path ignore
    | autoload on path =>
      obtain rfl := Option.some.inj target
      exact script?_step_autoload there path
    | _ => cases target
  · rw [script?_step_of_ne target]
    exact ⟨script.script, there, becomes_of_ne target script.script⟩

end Step

/-! ## All operations -/

section Run

variable {s : Session} {id : String} {script : SessionScript} {operations : List (Host × Operation)}

/-- The appended texts are behind the code, and no reference is lost. -/
theorem script?_after (there : s.script? id = some script)
    (kept : ∀ entry ∈ operations, ¬entry.2.Makes id) :
    ∃ changed, (s.after operations).script? id = some ⟨changed, script.alone⟩ ∧
      changed.rawCode = (s.appended id operations).foldl Script.appendLines script.script.rawCode ∧
      script.script.references.GrowsTo changed.references := by
  induction operations generalizing s script with
  | nil => exact ⟨script.script, there, rfl, References.GrowsTo.refl _⟩
  | cons entry rest ih =>
    obtain ⟨host, operation⟩ := entry
    obtain ⟨first, others⟩ := List.forall_mem_cons.1 kept
    obtain ⟨next, thereNext, becomes⟩ := script?_step host there first
    obtain ⟨last, thereLast, code, grows⟩ := ih thereNext others
    refine ⟨last, thereLast, ?_, becomes.grows.trans grows⟩
    rw [code, becomes.code, appended, List.foldl_append]

/-- What a called filter requires is referenced after the call, and after whatever comes then. -/
theorem script?_after_of_called {host : Host} {operation : Operation} {plugin : Plugin}
    {values : List Value} (typed : script.script.references.IsTyped)
    (there : s.script? id = some script)
    (kept : ∀ entry ∈ (host, operation) :: operations, ¬entry.2.Makes id)
    (called : s.calledOn host id operation = some (plugin, values)) :
    ∃ changed, (s.after ((host, operation) :: operations)).script? id =
        some ⟨changed, script.alone⟩ ∧
      ∀ file ∈ plugin.requires, changed.references.HoldsFile host file := by
  obtain ⟨first, others⟩ := List.forall_mem_cons.1 kept
  obtain ⟨next, thereNext, becomes⟩ := script?_step host there first
  obtain ⟨last, thereLast, -, grows⟩ := script?_after thereNext others
  refine ⟨last, thereLast, fun file inside => ?_⟩
  have held := becomes.required plugin values called file inside
  exact held.of_subset (grows (becomes.grows typed).1).2.subset

/-- The directive of each reference of a script precedes its code. -/
theorem exists_step_fullCode {entry : String × ReferenceKind} (there : s.script? id = some script)
    (typed : script.script.references.IsTyped) (inside : entry ∈ script.script.references)
    (host : Host) :
    ∃ before between, (s.step host (.fullCode id)).2 =
      .ok (.text (before ++ Script.directiveLine entry ++ between ++ script.script.body)) := by
  have all : entry ∈ script.script.allReferences (s.sharedOf script) :=
    References.mem_merge typed inside
  obtain ⟨before, between, whole⟩ := Script.exists_fullCode_eq all
  have asked : s.step host (.fullCode id) =
      (s, .ok (.text (script.script.fullCode (s.sharedOf script)))) :=
    withScript_of_script? there _
  exact ⟨before, between, by rw [asked, whole]⟩

end Run

end Session

end FilterScript
