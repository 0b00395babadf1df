import FilterScript.Proofs.Binding.Failures
import FilterScript.Proofs.CommandLine.Rendering
import FilterScript.Proofs.Environment.Faults

/-!
# How runs end

A run ends with an exit code and the texts of the two outputs, unless it comes upon something that
nothing reports; then it ends with a fault and has no result. What that can be is told here for all
commands, in terms of what the run reads. There is one fault, `Fault.outside`, that stands for no
failure of the program: of a run that comes upon it nothing is said.

* **Steps** (`Step.isFault_take_iff`): what is wrong with a step does not depend on the script.
* **Commands** (`isFault_runCommand_iff`): what is wrong with a configuration, a catalog, a word or a
  file of steps.
* **Runs** (`run_outcome`): which runs end with a fault, and what the exit codes mean.
-/

namespace FilterScript

/-! ## Required files -/

/-- Requiring files faults at the first that is no text, unless it fails before. -/
theorem Script.isFault_requireAll_iff {host : Host} {files : List Value} {refs : References} :
    IsFault (requireAll host files refs).2 ↔
      ∃ front file back gathered, files = front ++ file :: back ∧
        requireAll host front refs = (gathered, .ok ()) ∧ file.toText? = none := by
  constructor
  · intro bad
    induction files generalizing refs with
    | nil => exact absurd bad (not_isFault_ok _)
    | cons file rest ih =>
      cases named : file.toText? with
      | none => exact ⟨[], file, rest, refs, rfl, rfl, named⟩
      | some path =>
        cases loaded : References.load host path false refs with
        | error e =>
          rw [requireAll_cons_of_load_eq_error named loaded] at bad
          exact absurd bad (not_isFault_error e)
        | ok result =>
          obtain ⟨done, kind⟩ := result
          rw [requireAll_cons_of_load_eq_ok named loaded] at bad
          obtain ⟨front, other, back, gathered, rfl, before, unnamed⟩ := ih bad
          refine ⟨file :: front, other, back, gathered, rfl, ?_, unnamed⟩
          rw [requireAll_cons_of_load_eq_ok named loaded, before]
  · rintro ⟨front, file, back, gathered, rfl, before, unnamed⟩
    rw [requireAll_append before, requireAll_cons, unnamed]
    exact isFault_fault_iff.2 nofun

/-! ## Steps -/

namespace Step

/-- What is wrong with a step and is not reported. -/
inductive Breaks (host : Host) (environment : Environment) (step : Step) : Prop
  /-- It names a filter with an underscore in front, and not what every object has by itself. -/
  | hidden (known : environment.registry.contains step.name = true)
      (under : step.name.toList.head? = some '_') (own : isInherent step.name = false)
  /-- The filter that it names faults on its values. -/
  | code {plugin : Plugin} (found : environment.registry.lookup step.name = some plugin)
      (visible : step.name.toList.head? ≠ some '_') (bad : IsFault (plugin.code step.values))
  /-- The filter that it names writes a line, and then requires a file that is no text. -/
  | requires {plugin : Plugin} {line : Option String} {front back : List Value} {file : Value}
      {gathered : References} (found : environment.registry.lookup step.name = some plugin)
      (visible : step.name.toList.head? ≠ some '_')
      (written : plugin.code step.values = .ok line)
      (files : plugin.requires = front ++ file :: back)
      (before : Script.requireAll host front [] = (gathered, .ok ())) (bad : file.toText? = none)

/-- What keeps a value from being read as a step and is not reported. -/
inductive Unreported : Value → Prop
  /-- Its name cannot be written. -/
  | name {name values : Value} (long : name.isShowable = false) : Unreported (.map [(name, values)])
  /-- It is no name and no mapping of one name, and no message can show it. -/
  | kind {value : Value} (noName : ∀ name, value ≠ .text name)
      (noCall : ∀ name values, value ≠ .map [(name, values)]) (long : value.isShowable = false) :
      Unreported value

/-- What is wrong with an item of a file of steps and is not reported. -/
inductive ItemBreaks (host : Host) (environment : Environment) (path : String) (item : Value) : Prop
  /-- It is not read as a step. -/
  | unread (bad : Unreported item)
  /-- The step that it is has something wrong. -/
  | step {step : Step} (read : ofValue path item = .ok step) (bad : step.Breaks host environment)

section Breaks

variable {host : Host} {settings : Config} {environment : Environment} {path : String} {step : Step}
  {plugin : Plugin}

/-- A step by itself faults if its filter does, or if a file that the filter requires is no text. -/
theorem isFault_call_iff (found : environment.registry.lookup step.name = some plugin) :
    IsFault (step.call host environment) ↔
      IsFault (plugin.code step.values) ∨
        ∃ line, plugin.code step.values = .ok line ∧
          IsFault (Script.requireAll host plugin.requires []).2 := by
  rw [call_of_lookup found]
  cases plugin.code step.values with
  | error e =>
    refine (isFault_error_iff.trans isFault_error_iff.symm).trans (or_iff_left ?_).symm
    rintro ⟨line, absent, -⟩
    cases absent
  | ok line =>
    dsimp only
    rw [or_iff_right (not_isFault_ok line)]
    simp only [Except.ok.injEq, exists_eq_left']
    cases Script.requireAll host plugin.requires [] with
    | mk required outcome =>
      cases outcome with
      | error e => exact isFault_error_iff.trans isFault_error_iff.symm
      | ok done => exact iff_of_false (not_isFault_ok _) (not_isFault_ok _)

/-- A name with an underscore in front does not lead to a filter, even if there is one. Nothing is
said of what every object has by itself. -/
theorem isFault_take_of_hidden (found : environment.registry.lookup step.name = some plugin)
    (under : step.name.toList.head? = some '_') (script : Script) :
    IsFault (step.take host environment script) ↔ isInherent step.name = false := by
  simp only [take, Registry.resolve, found, Script.meaning, under, if_true, pure_bind]
  by_cases own : Script.members.contains step.name = true
  · rw [if_pos own]
    have noMember : ∀ name ∈ Script.members, isInherent name = false := by decide +kernel
    refine iff_of_true (isFault_fault_iff.2 ?_) (noMember _ (List.contains_iff_mem.1 own))
    rintro ⟨⟩
  · rw [if_neg own]
    refine isFault_fault_iff.trans ?_
    cases isInherent step.name <;> simp

/-- **Steps** fault for what is wrong with them, whatever the script is. -/
theorem isFault_take_iff (built : Environment.build host settings = .ok environment)
    (script : Script) :
    IsFault (step.take host environment script) ↔ step.Breaks host environment := by
  cases found : environment.registry.lookup step.name with
  | none =>
    have unknown : step.take host environment script = .error (.error (.unknownName step.name)) := by
      simp only [take, Registry.resolve, found]
      rfl
    rw [unknown]
    refine iff_of_false (not_isFault_error _) fun breaks => ?_
    cases breaks with
    | hidden known =>
      rw [Registry.contains, found] at known
      cases known
    | code there => cases found.symm.trans there
    | requires there => cases found.symm.trans there
  | some plugin =>
    have known : environment.registry.contains step.name = true := by
      rw [Registry.contains, found]
      rfl
    -- without an underscore the name leads to the filter, and then the script plays no part
    by_cases under : step.name.toList.head? = some '_'
    · rw [isFault_take_of_hidden found under script]
      refine ⟨.hidden known under, fun breaks => ?_⟩
      cases breaks with
      | hidden _ _ own => exact own
      | code _ visible => exact absurd under visible
      | requires _ visible => exact absurd under visible
    · have reached := CommandLine.isReached_of_build built known under
      rw [take_eq host reached script, isFault_map_iff, isFault_call_iff found]
      constructor
      · rintro (bad | ⟨line, written, bad⟩)
        · exact .code found under bad
        · obtain ⟨front, file, back, gathered, files, before, unnamed⟩ :=
            Script.isFault_requireAll_iff.1 bad
          exact .requires found under written files before unnamed
      · intro breaks
        cases breaks with
        | hidden _ under' => exact absurd under' under
        | code there _ bad =>
          obtain rfl := Option.some.inj (found.symm.trans there)
          exact .inl bad
        | requires there _ written files before unnamed =>
          obtain rfl := Option.some.inj (found.symm.trans there)
          have bad := Script.isFault_requireAll_iff.2 ⟨_, _, _, _, files, before, unnamed⟩
          exact .inr ⟨_, written, bad⟩

/-- A value faults as a step if no message can show what is wrong with it, or its name. -/
theorem isFault_ofValue_iff {value : Value} : IsFault (ofValue path value) ↔ Unreported value := by
  unfold ofValue
  split
  · refine iff_of_false (not_isFault_ok _) fun breaks => ?_
    cases breaks with
    | kind noName => exact noName _ rfl
  · next name values =>
    split
    · next shown =>
      refine iff_of_false (not_isFault_ok _) fun breaks => ?_
      cases breaks with
      | name long => exact Bool.false_ne_true (long.symm.trans shown)
      | kind _ noCall => exact noCall name values rfl
    · next unshown =>
      exact iff_of_true (isFault_fault_iff.2 nofun) (.name (Bool.eq_false_iff.2 unshown))
  · next noName noCall =>
    rw [isFault_raise_iff, Error.shownValues, Value.areShowable, Value.areShowable, Bool.and_true]
    refine ⟨.kind noName noCall, fun breaks => ?_⟩
    cases breaks with
    | name => exact absurd rfl (noCall _ _)
    | kind _ _ long => exact long

/-- Reads an item and takes the step that it is. -/
def takeItem (host : Host) (environment : Environment) (path : String) (script : Script)
    (item : Value) : Outcome Script :=
  match ofValue path item with
  | .error e => .error e
  | .ok step => step.take host environment script

/-- Steps are taken in a row. -/
theorem takeAll_eq_foldlM (items : List Value) (script : Script) :
    takeAll host environment path items script =
      items.foldlM (takeItem host environment path) script := by
  induction items generalizing script with
  | nil => rfl
  | cons item rest ih =>
    rw [List.foldlM_cons, takeAll, takeItem]
    cases ofValue path item with
    | error e => rfl
    | ok step =>
      dsimp only
      cases step.take host environment script with
      | error e => rfl
      | ok next => exact ih next

/-- An item of a file of steps faults for what is wrong with it. -/
theorem isFault_takeItem_iff (built : Environment.build host settings = .ok environment)
    {script : Script} {item : Value} :
    IsFault (takeItem host environment path script item) ↔ ItemBreaks host environment path item := by
  have unread := @isFault_ofValue_iff path item
  unfold takeItem
  cases read : ofValue path item with
  | error e =>
    rw [read] at unread
    refine (isFault_error_iff.trans isFault_error_iff.symm).trans (unread.trans ⟨.unread, fun breaks => ?_⟩)
    cases breaks with
    | unread bad => exact bad
    | step absent => cases read.symm.trans absent
  | ok step =>
    rw [read] at unread
    refine (isFault_take_iff built script).trans ⟨.step read, fun breaks => ?_⟩
    cases breaks with
    | unread bad => exact absurd (unread.2 bad) (not_isFault_ok step)
    | step there bad =>
      obtain rfl := Except.ok.inj (read.symm.trans there)
      exact bad

/-- **Steps** one after the other fault for what is wrong with the first that is not taken. -/
theorem isFault_takeAll_iff (built : Environment.build host settings = .ok environment)
    {items : List Value} {script : Script} :
    IsFault (takeAll host environment path items script) ↔
      ∃ front item back left, items = front ++ item :: back ∧
        takeAll host environment path front script = .ok left ∧
        ItemBreaks host environment path item := by
  simp only [takeAll_eq_foldlM, isFault_foldlM_iff, isFault_takeItem_iff built]

end Breaks

end Step

/-! ## Commands -/

namespace CommandLine

namespace Command

/-- Whether a command begins with the configuration. -/
def readsConfig : Command → Bool
  | .help => false
  | .version => false
  | _ => true

/-- Whether a command needs the environment that a configuration asks for. -/
def needsEnvironment : Command → Bool
  | .call .. => true
  | .render _ => true
  | .list => true
  | _ => false

end Command

/-- What is wrong for a command and is not reported. -/
inductive Breaks (host : Host) (named : Option String) : Command → Prop
  /-- The configuration has something wrong. -/
  | config {command : Command} {path : String} (reads : command.readsConfig = true)
      (given : named.or host.configVariable = some path) (full : path ≠ "")
      (bad : Config.Breaks host path) : Breaks host named command
  /-- The first catalog that is not loaded has something wrong. -/
  | catalog {command : Command} {settings : Config} (needs : command.needsEnvironment = true)
      (loaded : Config.load host named = .ok settings) (bad : Environment.Breaks host settings) :
      Breaks host named command
  /-- The first word of a call that is not read is a scalar without a value. -/
  | word {environment : Environment} {name : String} {words : List String} {f : Fault}
      (made : runCommand.environmentOf host named = .ok environment)
      (known : environment.registry.contains name = true)
      (bad : readArguments words = .error f) (said : f ≠ .outside) :
      Breaks host named (.call name words)
  /-- The filter of a call faults on the values that the words mean. -/
  | code {environment : Environment} {name : String} {words : List String} {plugin : Plugin}
      {values : List Value} (made : runCommand.environmentOf host named = .ok environment)
      (found : environment.registry.lookup name = some plugin)
      (read : readArguments words = .ok values) (bad : IsFault (plugin.code values)) :
      Breaks host named (.call name words)
  /-- The file of steps cannot be opened, holds no text, is no document, or holds a scalar without a
  value. -/
  | document {environment : Environment} {file : String} {f : Fault}
      (made : runCommand.environmentOf host named = .ok environment)
      (present : host.leadsToFile file = true) (bad : host.readValue file = .error f)
      (said : f ≠ .outside) : Breaks host named (.render file)
  /-- The first step of the file that is not taken has something wrong. -/
  | step {environment : Environment} {file : String} {document item : Value}
      {front back : List Value} {left : Script}
      (made : runCommand.environmentOf host named = .ok environment)
      (read : host.readValue file = .ok document)
      (items : Step.itemsOf file document = .ok (front ++ item :: back))
      (before : Step.takeAll host environment file front {} = .ok left)
      (bad : Step.ItemBreaks host environment file item) : Breaks host named (.render file)

section Commands

variable {host : Host} {named : Option String} {settings : Config} {environment : Environment}

/-- A signature on the command line is always described. -/
theorem not_isFault_describe (signature : String) (types : Option String) :
    ¬IsFault (describe signature types) := by
  have list : Signature.IsList ((types.map Value.text).getD .null) := by
    cases types with
    | none => exact .inl rfl
    | some text => exact (Signature.isTokenList_text text).isList
  have compiles :
      ∃ s, Signature.compile signature .null ((types.map Value.text).getD .null) = .ok s := by
    rw [Signature.exists_compile_eq_ok_iff]
    cases (Signature.splitCombined signature).2 with
    | none => exact ⟨.inl rfl, list⟩
    | some body => exact ⟨Signature.isTokenList_text body, list⟩
  obtain ⟨s, compiled⟩ := compiles
  rw [describe, compiled]
  exact not_isFault_ok _

/-- An environment cannot be had for what is wrong with the configuration or with the catalogs. -/
theorem isFault_environmentOf_iff :
    IsFault (runCommand.environmentOf host named) ↔
      IsFault (Config.load host named) ∨
        ∃ settings, Config.load host named = .ok settings ∧
          IsFault (Environment.build host settings) :=
  isFault_bind_iff

/-- A command that needs an environment faults where it cannot be had. -/
theorem breaks_of_isFault_environmentOf {command : Command} (needs : command.needsEnvironment = true)
    (bad : IsFault (runCommand.environmentOf host named)) : Breaks host named command := by
  have reads : command.readsConfig = true := by
    cases command with
    | help => cases needs
    | version => cases needs
    | _ => rfl
  rcases isFault_environmentOf_iff.1 bad with bad | ⟨settings, loaded, bad⟩
  · obtain ⟨path, given, full, bad⟩ := Config.isFault_load_iff.1 bad
    exact .config reads given full bad
  · exact .catalog needs loaded (Environment.isFault_build_iff.1 bad)

/-- The environment of a run was built from settings. -/
theorem exists_build_of_environmentOf
    (made : runCommand.environmentOf host named = .ok environment) :
    ∃ settings, Environment.build host settings = .ok environment := by
  simp only [runCommand.environmentOf, bind, Except.bind] at made
  split at made
  · cases made
  · next settings _ => exact ⟨settings, made⟩

/-- A call faults if its words are not read, or if its filter does. -/
theorem isFault_call_iff {name : String} {words : List String} :
    IsFault (call environment name words) ↔
      (environment.registry.contains name = true ∧
          ∃ f, f ≠ .outside ∧ readArguments words = .error f) ∨
        ∃ plugin values, environment.registry.lookup name = some plugin ∧
          readArguments words = .ok values ∧ IsFault (plugin.code values) := by
  rw [call, isFault_map_iff, callLine, Registry.resolve, Registry.contains]
  cases environment.registry.lookup name with
  | none =>
    refine iff_of_false (not_isFault_error _) ?_
    rintro (⟨absent, -⟩ | ⟨plugin, values, absent, -⟩) <;> cases absent
  | some plugin =>
    simp only [Option.isSome_some, true_and, Option.some.injEq, exists_and_left, exists_eq_left']
    cases readArguments words with
    | error f =>
      simp only [isFault_fault_iff, Except.error.injEq, exists_eq_right', reduceCtorEq, false_and,
        exists_false, or_false]
    | ok values =>
      simp only [Except.ok.injEq, exists_eq_left', reduceCtorEq, and_false, exists_false, false_or]

/-- The script of a file faults if the file is not read, or for its steps. -/
theorem isFault_render_iff {file : String} :
    IsFault (render host environment file) ↔
      (host.leadsToFile file = true ∧ ∃ f, f ≠ .outside ∧ host.readValue file = .error f) ∨
        ∃ document items, host.readValue file = .ok document ∧
          Step.itemsOf file document = .ok items ∧
          IsFault (Step.takeAll host environment file items {}) := by
  unfold render
  cases leads : host.leadsToFile file with
  | false =>
    refine iff_of_false (not_isFault_ok _) ?_
    rintro (⟨absent, -⟩ | ⟨document, items, read, -⟩)
    · cases absent
    · cases leads.symm.trans (Host.leadsToFile_of_readValue read)
  | true =>
    rw [Bool.not_true, if_neg Bool.false_ne_true, isFault_map_iff, and_iff_right rfl]
    unfold Step.render
    cases host.readValue file with
    | error f =>
      simp only [Except.error.injEq, exists_eq_right', reduceCtorEq, false_and, exists_false, or_false]
      exact isFault_fault_iff
    | ok document =>
      simp only [Except.ok.injEq, exists_and_left, exists_eq_left', reduceCtorEq, and_false,
        exists_false, false_or, pure_bind]
      cases Step.itemsOf file document with
      | error e => exact iff_of_false (not_isFault_error e) fun ⟨_, absent, _⟩ => nomatch absent
      | ok items =>
        simp only [Except.ok.injEq, exists_eq_left']
        refine isFault_bind_iff.trans (or_iff_left ?_)
        rintro ⟨script, -, bad⟩
        exact not_isFault_ok _ bad

/-- A command that needs an environment faults with it. -/
theorem isFault_runCommand_of_environmentOf {command : Command}
    (needs : command.needsEnvironment = true)
    (bad : IsFault (runCommand.environmentOf host named)) :
    IsFault (runCommand host named command) := by
  cases command with
  | call name words => exact isFault_bind_iff.2 (.inl bad)
  | render file => exact isFault_bind_iff.2 (.inl bad)
  | list => exact isFault_bind_iff.2 (.inl bad)
  | _ => cases needs

/-- A command that begins with the configuration faults with it. -/
theorem isFault_runCommand_of_load {command : Command} (reads : command.readsConfig = true)
    (bad : IsFault (Config.load host named)) : IsFault (runCommand host named command) := by
  have environment := isFault_environmentOf_iff.2 (.inl bad)
  cases command with
  | help => cases reads
  | version => cases reads
  | describe signature types => exact isFault_bind_iff.2 (.inl bad)
  | _ => exact isFault_runCommand_of_environmentOf rfl environment

/-- What is wrong for a command makes it fault. -/
theorem isFault_runCommand_of_breaks {command : Command} (breaks : Breaks host named command) :
    IsFault (runCommand host named command) := by
  cases breaks with
  | config reads given full bad =>
    exact isFault_runCommand_of_load reads (Config.isFault_load_iff.2 ⟨_, given, full, bad⟩)
  | catalog needs loaded bad =>
    have unbuilt := Environment.isFault_build_iff.2 bad
    have missing := isFault_environmentOf_iff.2 (.inr ⟨_, loaded, unbuilt⟩)
    exact isFault_runCommand_of_environmentOf needs missing
  | word made known bad said =>
    exact isFault_bind_iff.2 (.inr ⟨_, made, isFault_call_iff.2 (.inl ⟨known, _, said, bad⟩)⟩)
  | code made found read bad =>
    exact isFault_bind_iff.2 (.inr ⟨_, made, isFault_call_iff.2 (.inr ⟨_, _, found, read, bad⟩)⟩)
  | document made present bad said =>
    exact isFault_bind_iff.2 (.inr ⟨_, made, isFault_render_iff.2 (.inl ⟨present, _, said, bad⟩)⟩)
  | @step environment file document item front back left made read items before bad =>
    obtain ⟨settings, built⟩ := exists_build_of_environmentOf made
    have untaken : IsFault (Step.takeAll host environment file (front ++ item :: back) {}) :=
      (Step.isFault_takeAll_iff built).2 ⟨front, item, back, left, rfl, before, bad⟩
    exact isFault_bind_iff.2
      (.inr ⟨_, made, isFault_render_iff.2 (.inr ⟨_, _, read, items, untaken⟩)⟩)

/-- **Commands** fault for what is wrong with what they read. -/
theorem isFault_runCommand_iff {command : Command} :
    IsFault (runCommand host named command) ↔ Breaks host named command := by
  refine ⟨fun bad => ?_, isFault_runCommand_of_breaks⟩
  cases command with
  | help => exact absurd bad (not_isFault_ok _)
  | version => exact absurd bad (not_isFault_ok _)
  | describe signature types =>
    rcases isFault_bind_iff.1 bad with bad | ⟨settings, -, bad⟩
    · obtain ⟨path, given, full, bad⟩ := Config.isFault_load_iff.1 bad
      exact .config rfl given full bad
    · exact absurd bad (not_isFault_describe signature types)
  | call name words =>
    rcases isFault_bind_iff.1 bad with bad | ⟨environment, made, bad⟩
    · exact breaks_of_isFault_environmentOf rfl bad
    · rcases isFault_call_iff.1 bad with ⟨known, f, said, bad⟩ | ⟨plugin, values, found, read, bad⟩
      · exact .word made known bad said
      · exact .code made found read bad
  | render file =>
    rcases isFault_bind_iff.1 bad with bad | ⟨environment, made, bad⟩
    · exact breaks_of_isFault_environmentOf rfl bad
    · obtain ⟨settings, built⟩ := exists_build_of_environmentOf made
      rcases isFault_render_iff.1 bad with
        ⟨present, f, said, bad⟩ | ⟨document, items, read, stands, bad⟩
      · exact .document made present bad said
      · obtain ⟨front, item, back, left, rfl, before, bad⟩ := (Step.isFault_takeAll_iff built).1 bad
        exact .step made read stands before bad
  | list =>
    rcases isFault_bind_iff.1 bad with bad | ⟨environment, -, bad⟩
    · exact breaks_of_isFault_environmentOf rfl bad
    · exact absurd bad (not_isFault_ok _)

/-- A filter of an environment faults on values only for a ratio that is too large or a whole number
with too many digits, or if one of its types is no text. -/
theorem exists_cause_of_isFault_code (built : Environment.build host settings = .ok environment)
    {name : String} {plugin : Plugin} {values : List Value}
    (found : environment.registry.lookup name = some plugin) (bad : IsFault (plugin.code values)) :
    (∃ q, Binding.FirstRefused values (.ratio q)) ∨ Binding.HasLongNumber values ∨
      ∃ s v, plugin.signature = some s ∧ v ∈ s.types ∧ ∀ t, v ≠ .text t := by
  obtain ⟨s, signed, code⟩ := Environment.exists_signature_of_build built found
  rw [code, Registry.boundCode, isFault_map_iff] at bad
  by_contra none
  rw [not_or, not_or] at none
  obtain ⟨noRatio, short, texts⟩ := none
  have allTexts : ∀ v ∈ s.types, ∃ t, v = .text t := by
    intro v inside
    by_contra other
    exact texts ⟨s, v, signed, inside, fun t same => other ⟨t, same⟩⟩
  -- with texts for types, a call has a line or an error, too many digits, or a value that is no argument
  obtain ⟨outcome, refused, -, -⟩ := Binding.bind_outcome host.directory s values allTexts
  rcases outcome with ⟨text, line⟩ | ⟨e, -, error⟩ | ⟨long, -⟩ | ⟨v, first⟩
  · rw [line] at bad
    exact not_isFault_ok text bad
  · rw [error] at bad
    exact not_isFault_error e bad
  · exact short long
  · have other : ∀ q, v ≠ .ratio q := by
      rintro q rfl
      exact noRatio ⟨q, first⟩
    rw [refused v first other] at bad
    exact not_isFault_error _ bad

/-! ## Exit codes -/

/-- What a file of steps leaves: it is missing, or it is rendered. -/
theorem exit_of_render {file : String} {result : Result}
    (h : render host environment file = .ok result) :
    (host.leadsToFile file = false ∧ result.exit = 3) ∨ (host.leadsToFile file = true ∧ result.exit = 0) := by
  unfold render at h
  cases present : host.leadsToFile file with
  | false =>
    rw [present, Bool.not_false, if_pos rfl] at h
    obtain rfl := Except.ok.inj h
    exact .inl ⟨rfl, rfl⟩
  | true =>
    rw [present, Bool.not_true, if_neg Bool.false_ne_true] at h
    cases rendered : Step.render host environment file with
    | error e =>
      rw [rendered] at h
      cases h
    | ok code =>
      rw [rendered] at h
      obtain rfl := Except.ok.inj h
      exact .inr ⟨rfl, rfl⟩

/-- What a command leaves if nothing is missing. -/
theorem exit_of_runCommand {command : Command} {result : Result}
    (h : runCommand host named command = .ok result) :
    (result.exit = 3 ∧ ∃ file environment, command = .render file ∧
        runCommand.environmentOf host named = .ok environment ∧ host.leadsToFile file = false) ∨
      (result.exit = 0 ∧ ∀ file, command = .render file → host.leadsToFile file = true) := by
  cases command with
  | help =>
    obtain rfl := Except.ok.inj h
    exact .inr ⟨rfl, by rintro file ⟨⟩⟩
  | version =>
    obtain rfl := Except.ok.inj h
    exact .inr ⟨rfl, by rintro file ⟨⟩⟩
  | describe signature types =>
    obtain ⟨settings, -, described⟩ := exists_of_bind_eq_ok h
    unfold describe at described
    split at described
    · obtain rfl := Except.ok.inj described
      exact .inr ⟨rfl, by rintro file ⟨⟩⟩
    · cases described
  | call name words =>
    obtain ⟨environment, -, called⟩ := exists_of_bind_eq_ok h
    rw [call] at called
    cases line : callLine environment name words with
    | error e =>
      rw [line] at called
      cases called
    | ok text =>
      rw [line] at called
      obtain rfl := Except.ok.inj called
      exact .inr ⟨rfl, by rintro file ⟨⟩⟩
  | render file =>
    obtain ⟨environment, made, rendered⟩ := exists_of_bind_eq_ok h
    rcases exit_of_render rendered with ⟨missing, code⟩ | ⟨present, code⟩
    · exact .inl ⟨code, file, environment, rfl, made, missing⟩
    · refine .inr ⟨code, ?_⟩
      rintro other ⟨⟩
      exact present
  | list =>
    obtain ⟨environment, -, listed⟩ := exists_of_bind_eq_ok h
    obtain rfl := Except.ok.inj listed
    exact .inr ⟨rfl, by rintro file ⟨⟩⟩

/-- A missing file of steps is noticed when the environment is there. -/
theorem runCommand_render_of_missing {file : String}
    (made : runCommand.environmentOf host named = .ok environment)
    (missing : host.leadsToFile file = false) :
    runCommand host named (.render file) = .ok (notFound file) := by
  simp only [runCommand, made, bind, Except.bind, render, missing, Bool.not_false, if_true]

/-- Faults are not reported. -/
theorem exists_report_eq_error_iff {outcome : Outcome Result} :
    (∃ f, f ≠ .outside ∧ report outcome = .error f) ↔ IsFault outcome := by
  cases outcome with
  | ok result => exact iff_of_false (fun ⟨_, _, absent⟩ => nomatch absent) (not_isFault_ok result)
  | error e =>
    cases e with
    | error e => exact iff_of_false (fun ⟨_, _, absent⟩ => nomatch absent) (not_isFault_error e)
    | fault f => simp only [report, Except.error.injEq, exists_eq_right', isFault_fault_iff]

/-- A command line that is read runs its command. -/
theorem run_of_parse {words : List String} {command : Command}
    (parsed : parse words = .run named command) :
    run host words = report (runCommand host named command) := by
  simp only [run, parsed]

/-- What the exit codes of a command mean. -/
theorem exit_of_report {command : Command} {result : Result}
    (ran : report (runCommand host named command) = .ok result) :
    (result.exit = 0 ∨ result.exit = 3 ∨ result.exit = 4) ∧
      (result.exit = 3 ↔ ∃ file environment, command = .render file ∧
        runCommand.environmentOf host named = .ok environment ∧ host.leadsToFile file = false) ∧
      (result.exit = 4 ↔ ∃ e, runCommand host named command = .error (.error e) ∧
        result = { exit := 4, out := "", err := "error: " ++ e.message ++ "\n" }) := by
  cases outcome : runCommand host named command with
  | ok left =>
    rw [outcome] at ran
    obtain rfl := Except.ok.inj ran
    have noError : ¬∃ e : Error, (.ok left : Outcome Result) = .error (.error e) ∧
        left = { exit := 4, out := "", err := "error: " ++ e.message ++ "\n" } := by
      rintro ⟨e, absent, -⟩
      cases absent
    rcases exit_of_runCommand outcome with ⟨code, missing⟩ | ⟨code, present⟩
    · rw [code]
      exact ⟨.inr (.inl rfl), iff_of_true rfl missing, iff_of_false (by decide) noError⟩
    · rw [code]
      refine ⟨.inl rfl, iff_of_false (by decide) ?_, iff_of_false (by decide) noError⟩
      rintro ⟨file, environment, same, -, missing⟩
      rw [present file same] at missing
      cases missing
  | error e =>
    rw [outcome] at ran
    cases e with
    | fault f => cases ran
    | error e =>
      obtain rfl := Except.ok.inj ran
      refine ⟨.inr (.inr rfl), iff_of_false (by simp [invalid]) ?_, iff_of_true rfl ⟨e, rfl, rfl⟩⟩
      rintro ⟨file, environment, rfl, made, missing⟩
      cases outcome.symm.trans (runCommand_render_of_missing made missing)

end Commands

/-! ## Runs -/

/-- **Runs**: one ends with a fault exactly if something is wrong that is not reported. All others
end with one of four exit codes: 2 for a bad command line, 3 for a missing file of steps, 4 for an
error, which is then all that is printed, and else 0. Left aside are the runs that come upon
something of which nothing is said. A filter is at fault itself only for a ratio that is too large,
for a whole number with too many digits, or for types that are no texts. -/
theorem run_outcome (host : Host) (words : List String) :
    ((∃ f, f ≠ .outside ∧ run host words = .error f) ↔
      ∃ named command, parse words = .run named command ∧ Breaks host named command) ∧
    (∀ result, run host words = .ok result →
      (result.exit = 0 ∨ result.exit = 2 ∨ result.exit = 3 ∨ result.exit = 4) ∧
      (result.exit = 2 ↔ parse words = .usage) ∧
      (result.exit = 3 ↔ ∃ named file environment, parse words = .run named (.render file) ∧
        runCommand.environmentOf host named = .ok environment ∧ host.leadsToFile file = false) ∧
      (result.exit = 4 ↔ ∃ named command e, parse words = .run named command ∧
        runCommand host named command = .error (.error e) ∧
        result = { exit := 4, out := "", err := "error: " ++ e.message ++ "\n" })) ∧
    ∀ named environment name plugin values, runCommand.environmentOf host named = .ok environment →
      environment.registry.lookup name = some plugin → IsFault (plugin.code values) →
      (∃ q, Binding.FirstRefused values (.ratio q)) ∨ Binding.HasLongNumber values ∨
        ∃ s v, plugin.signature = some s ∧ v ∈ s.types ∧ ∀ t, v ≠ .text t := by
  refine ⟨?_, ?_, ?_⟩
  · cases parsed : parse words with
    | run named command =>
      rw [run_of_parse parsed, exists_report_eq_error_iff, isFault_runCommand_iff]
      constructor
      · intro breaks
        exact ⟨named, command, rfl, breaks⟩
      · rintro ⟨_, _, ⟨⟩, breaks⟩
        exact breaks
    | _ =>
      simp only [run, parsed]
      refine iff_of_false ?_ ?_
      · rintro ⟨f, -, ⟨⟩⟩
      · rintro ⟨named, command, ⟨⟩, -⟩
  · intro result ran
    cases parsed : parse words with
    | run named command =>
      rw [run_of_parse parsed] at ran
      obtain ⟨codes, missing, error⟩ := exit_of_report ran
      refine ⟨by omega, iff_of_false (by omega) ?_, missing.trans ?_, error.trans ?_⟩
      · rintro ⟨⟩
      · constructor
        · rintro ⟨file, environment, rfl, made, absent⟩
          exact ⟨named, file, environment, rfl, made, absent⟩
        · rintro ⟨_, file, environment, ⟨⟩, made, absent⟩
          exact ⟨file, environment, rfl, made, absent⟩
      · constructor
        · rintro ⟨e, failed, reported⟩
          exact ⟨named, command, e, rfl, failed, reported⟩
        · rintro ⟨_, _, e, ⟨⟩, failed, reported⟩
          exact ⟨e, failed, reported⟩
    | usage =>
      simp only [run, parsed] at ran
      obtain rfl := Except.ok.inj ran
      simp [usageResult]
    | helpOn name =>
      simp only [run, parsed] at ran
      obtain rfl := Except.ok.inj ran
      simp
  · intro named environment name plugin values made found bad
    obtain ⟨settings, built⟩ := exists_build_of_environmentOf made
    exact exists_cause_of_isFault_code built found bad

/-- Without a file of steps a run ends with exit code 3, and nothing was wrong before. -/
theorem run_outcome_missing_file :
    let settings : Value := .map [(.text "load_core", .bool false)]
    let host : Host :=
      { configVariable := some "settings", files := ⟨[(["settings"], .file (.data settings))]⟩ }
    run host ["render", "steps"] =
        .ok { exit := 3, out := "", err := "Script not found: \"steps\"\n" } ∧
      (¬∃ named command, parse ["render", "steps"] = .run named command ∧
        Breaks host named command) ∧
      ∃ named file environment, parse ["render", "steps"] = .run named (.render file) ∧
        runCommand.environmentOf host named = .ok environment ∧ host.leadsToFile file = false := by
  intro settings host
  have ran : run host ["render", "steps"] =
      .ok { exit := 3, out := "", err := "Script not found: \"steps\"\n" } := by
    decide +kernel
  obtain ⟨faults, codes, -⟩ := run_outcome host ["render", "steps"]
  obtain ⟨-, -, missing, -⟩ := codes _ ran
  refine ⟨ran, fun bad => ?_, missing.1 rfl⟩
  obtain ⟨f, -, failed⟩ := faults.2 bad
  cases ran.symm.trans failed

/-- A file of steps with a list that is not closed is no document. That is not reported: the run has
no result. -/
theorem run_unclosed_steps :
    let settings : Value := .map [(.text "load_core", .bool false)]
    let host : Host := {
      directory := "/work/clips"
      configVariable := some "/conf.yaml"
      files := ⟨[
        (["conf.yaml"], .file (.data settings)), (["work"], .folder), (["work", "clips"], .folder),
        (["work", "clips", "steps.yaml"], .file (.text "[a"))]⟩ }
    run host ["render", "steps.yaml"] = .error .malformed ∧
      ¬∃ result, run host ["render", "steps.yaml"] = .ok result := by
  intro settings host
  have failed : run host ["render", "steps.yaml"] = .error .malformed := by
    decide +kernel
  refine ⟨failed, ?_⟩
  rintro ⟨result, ran⟩
  cases failed.symm.trans ran

end CommandLine

end FilterScript
