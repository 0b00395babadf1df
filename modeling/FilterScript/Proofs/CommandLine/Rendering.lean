import FilterScript.CommandLine.Run
import FilterScript.Proofs.Binding.Lines
import FilterScript.Proofs.Environment.Filters
import FilterScript.Proofs.Outcome
import FilterScript.Proofs.Session.FullCode
import FilterScript.Proofs.Session.Names

/-!
# Rendering files of steps

A file of steps is rendered as a script that the steps are taken on, one after the other. What comes
out can be told without a script, from what each step does by itself: the directives of what is
referenced, and then the lines that the filters write when they are called alone.

* **One step** (`take_eq`): a step on a script adds what it does by itself, or fails as it does.
* **All steps** (`takeAll_eq_ok`, `takeAll_eq_error`): so do steps one after the other, up to the first
  that fails.
* **Files of steps** (`run_render`): what the program prints, and how it ends.
-/

namespace FilterScript

namespace Step

/-! ## Steps by themselves -/

/-- Whether a value stands for a step: a name alone, or a name with nothing, one value, or a list of
values. -/
inductive Reads : Value → Step → Prop
  | bare (name : String) : Reads (.text name) ⟨name, []⟩
  | empty (name : String) : Reads (.map [(.text name, .null)]) ⟨name, []⟩
  | single (name : String) (value : Value) (present : value ≠ .null)
      (one : ∀ values, value ≠ .list values) : Reads (.map [(.text name, value)]) ⟨name, [value]⟩
  | several (name : String) (values : List Value) :
      Reads (.map [(.text name, .list values)]) ⟨name, values⟩

/-- What a step does by itself: the line that its filter writes when it is called with the values of
the step, and the references of the files that the filter requires. -/
def call (host : Host) (environment : Environment) (step : Step) :
    Outcome (Option String × References) :=
  match environment.registry.resolve step.name with
  | .error e => .error e
  | .ok plugin =>
    match plugin.code step.values with
    | .error e => .error e
    | .ok line =>
      match Script.requireAll host plugin.requires [] with
      | (_, .error e) => .error e
      | (required, .ok ()) => .ok (line, required)

/-- The references of the files that the filter of a step requires. -/
def requirements (host : Host) (environment : Environment) (step : Step) : References :=
  match environment.registry.lookup step.name with
  | some plugin => plugin.requires.filterMap (Script.requirement? host)
  | none => []

section Steps

variable {host : Host} {environment : Environment} {path : String} {step : Step} {plugin : Plugin}
  {line : Option String} {required : References}

/-- An item that reads as a step is that step. -/
theorem ofValue_of_reads {item : Value} (reads : Reads item step) :
    ofValue path item = .ok step := by
  cases reads with
  | bare name => rfl
  | empty name => rfl
  | single name value present one =>
    cases value with
    | null => exact absurd rfl present
    | list values => exact absurd rfl (one values)
    | _ => rfl
  | several name values => rfl

/-- A step on a known filter: bind, then load the required files. -/
theorem call_of_lookup (found : environment.registry.lookup step.name = some plugin) :
    step.call host environment =
      match plugin.code step.values with
      | .error e => .error e
      | .ok line =>
        match Script.requireAll host plugin.requires [] with
        | (_, .error e) => .error e
        | (required, .ok ()) => .ok (line, required) := by
  simp only [call, Registry.resolve, found]

/-- A step that succeeds found its filter, was bound and loaded what the filter requires. -/
theorem call_eq_ok (h : step.call host environment = .ok (line, required)) :
    ∃ plugin, environment.registry.lookup step.name = some plugin ∧
      plugin.code step.values = .ok line ∧
      Script.requireAll host plugin.requires [] = (required, .ok ()) := by
  unfold call Registry.resolve at h
  cases found : environment.registry.lookup step.name with
  | none =>
    rw [found] at h
    cases h
  | some plugin =>
    rw [found] at h
    dsimp only at h
    split at h
    · cases h
    · next written =>
      split at h
      · cases h
      · next gathered =>
        cases h
        exact ⟨plugin, rfl, written, gathered⟩

/-- What a step references by itself are the files that its filter requires, each once. -/
theorem eq_eraseDups_of_call (h : step.call host environment = .ok (line, required)) :
    required = (step.requirements host environment).eraseDups := by
  obtain ⟨plugin, found, -, gathered⟩ := call_eq_ok h
  have typed := (Script.areMade_requirements host plugin.requires).isTyped
  rw [requirements, found, Script.merge_of_requireAll_eq_ok gathered]
  exact References.merge_nil_left typed

/-- What a step requires carries the kinds of its extensions. -/
theorem isTyped_requirements (host : Host) (environment : Environment) (step : Step) :
    (step.requirements host environment).IsTyped := by
  unfold requirements
  split
  · exact (Script.areMade_requirements host _).isTyped
  · exact References.isTyped_nil

/-- The references that steps make by themselves. -/
theorem isTyped_flatMap_requirements (host : Host) (environment : Environment) (steps : List Step) :
    References.IsTyped (steps.flatMap (requirements host environment)) := by
  intro entry inside
  obtain ⟨step, -, made⟩ := List.mem_flatMap.1 inside
  exact isTyped_requirements host environment step entry made

/-! ## One step -/

/-- Whether the name of a step leads to a filter, both in the registry and on scripts. -/
def IsReached (environment : Environment) (step : Step) : Prop :=
  ∃ plugin, environment.registry.lookup step.name = some plugin ∧
    Script.meaning environment.registry step.name = .plugin plugin

/-- **One step** on a script adds what it does by itself, or fails as it does by itself. -/
theorem take_eq (host : Host) (reached : step.IsReached environment) (script : Script) :
    step.take host environment script =
      (step.call host environment).map fun (line, required) =>
        ⟨line.toList.foldl Script.appendLines script.rawCode, script.references.merge required⟩ := by
  obtain ⟨plugin, found, means⟩ := reached
  rw [call_of_lookup found]
  simp only [take, Registry.resolve, found, means, pure, bind, Except.pure, Except.bind]
  unfold Script.invoke
  cases plugin.code step.values with
  | error e => rfl
  | ok line =>
    dsimp only
    cases Script.requireAll host plugin.requires [] with
    | mk required outcome =>
      cases outcome with
      | error e => rfl
      | ok done => cases line <;> rfl

/-! ## All steps -/

/-- **All steps** one after the other: their lines are put behind each other, and so are the
references of the files that their filters require. -/
theorem takeAll_eq_ok {items : List Value} {steps : List Step} {lines : List String}
    (reads : List.Forall₂ Reads items steps)
    (reached : ∀ step ∈ steps, step.IsReached environment)
    (called : List.Forall₂
      (fun step line => ∃ required, step.call host environment = .ok (some line, required)) steps
      lines)
    {script : Script} (typed : script.references.IsTyped) :
    takeAll host environment path items script =
      .ok ⟨lines.foldl Script.appendLines script.rawCode,
        script.references.merge (steps.flatMap (requirements host environment))⟩ := by
  induction reads generalizing lines script with
  | nil =>
    cases called
    rfl
  | @cons item step items steps read reads ih =>
    obtain ⟨here, behind⟩ := List.forall_mem_cons.1 reached
    cases called with
    | @cons _ line _ lines first rest =>
      obtain ⟨required, first⟩ := first
      have typedMore := isTyped_requirements host environment step
      have merged : script.references.merge required =
          script.references.merge (step.requirements host environment) := by
        rw [eq_eraseDups_of_call first, References.merge_eraseDups typed typedMore]
      have taken : step.take host environment script =
          .ok ⟨Script.appendLines script.rawCode line,
            script.references.merge (step.requirements host environment)⟩ := by
        rw [take_eq host here, first, ← merged]
        rfl
      have typedNext := (References.growsTo_merge typedMore typed).1
      rw [takeAll_cons_of_ok host environment path script (ofValue_of_reads read) taken,
        ih behind rest typedNext, List.flatMap_cons, References.merge_append]
      rfl

/-- **All steps** up to the first that fails: it decides, whatever comes behind. -/
theorem takeAll_eq_error {items : List Value} {front back : List Step} {e : Failure}
    (reads : List.Forall₂ Reads items (front ++ step :: back))
    (reached : ∀ other ∈ front ++ step :: back, other.IsReached environment)
    (called : ∀ earlier ∈ front, ∃ result, earlier.call host environment = .ok result)
    (failed : step.call host environment = .error e) (script : Script) :
    takeAll host environment path items script = .error e := by
  induction front generalizing items script with
  | nil =>
    cases reads with
    | cons read reads =>
      have taken : step.take host environment script = .error e := by
        rw [take_eq host (reached step List.mem_cons_self), failed]
        rfl
      exact takeAll_cons_of_error host environment path script (ofValue_of_reads read) taken _
  | cons earlier front ih =>
    obtain ⟨here, behind⟩ := List.forall_mem_cons.1 reached
    obtain ⟨⟨result, first⟩, rest⟩ := List.forall_mem_cons.1 called
    cases reads with
    | cons read reads =>
      have taken := take_eq host here script
      rw [first] at taken
      rw [takeAll_cons_of_ok host environment path script (ofValue_of_reads read) taken]
      exact ih reads behind rest _

end Steps

end Step

/-! ## Lines -/

/-- A filter that is called by its signature writes a line, and the line is not blank. -/
theorem Registry.exists_line_of_boundCode {services : Fragment.Services} {s : Signature}
    {values : List Value} {line : Option String} (h : boundCode services s values = .ok line) :
    ∃ text, line = some text ∧ '(' ∈ text.toList := by
  unfold boundCode at h
  cases bound : Binding.bind services s values with
  | error e =>
    rw [bound] at h
    cases h
  | ok text =>
    rw [bound] at h
    refine ⟨text, (Except.ok.inj h).symm, ?_⟩
    unfold Binding.bind at bound
    split at bound
    · obtain ⟨texts, -, -, -, rfl⟩ := Binding.bindArgs_eq_ok_iff.1 bound
      simp [Binding.line]
    · cases bound

/-- Lines that are not blank make no blank text, unless there is none. -/
theorem Script.isBlankText_lines {lines : List String} (some : lines ≠ [])
    (shown : ∀ line ∈ lines, '(' ∈ line.toList) : Text.isBlankText (Script.lines lines) = false := by
  cases lines with
  | nil => exact absurd rfl some
  | cons line rest =>
    have inside : '(' ∈ (Script.lines (line :: rest)).toList := by
      rw [Script.lines_cons, String.toList_append, String.toList_append]
      simp [shown line List.mem_cons_self]
    rw [Bool.eq_false_iff]
    intro blank
    rw [Text.isBlankText, List.all_eq_true] at blank
    exact absurd (blank _ inside) (by decide)

/-- The whole script of lines that are not blank, with references behind those of the environment.
-/
theorem Script.fullCode_lines {lines : List String} (shown : ∀ line ∈ lines, '(' ∈ line.toList)
    {shared more : References} (typed : shared.IsTyped) (typedMore : more.IsTyped) :
    Script.fullCode ⟨lines.foldl appendLines "", References.merge [] more⟩ shared =
      String.join (shared.map directiveLine) ++
        String.join ((more.eraseDups.filter (· ∉ shared)).map directiveLine) ++
        String.join (lines.map (· ++ "\n")) ++ if lines.isEmpty then "" else "\n" := by
  have code : lines.foldl appendLines "" = Script.lines lines := by
    have fresh : ended "" lines = "" := if_neg fun some => some.2.1 rfl
    rw [foldl_appendLines, fresh, String.empty_append]
  have references : allReferences ⟨lines.foldl appendLines "", References.merge [] more⟩ shared =
      shared ++ more.eraseDups.filter (· ∉ shared) := by
    rw [allReferences, References.merge_nil_left typedMore,
      References.merge_eraseDups typed typedMore, References.merge_eq typed typedMore]
  rw [fullCode, references, List.map_append, String.join_append, body, code]
  simp only [String.append_assoc]
  congr 2
  by_cases empty : lines = []
  · subst empty
    rfl
  · have full : lines.isEmpty = false := by simpa using empty
    rw [isBlankText_lines empty shown, full]
    rfl

/-! ## Documents -/

/-- A configuration file that holds a mapping without problems. -/
theorem Config.load_of_readValue {host : Host} {named : Option String} {path : String}
    {entries : List (Value × Value)} {settings : Config}
    (given : named.or host.configVariable = some path) (full : path ≠ "")
    (read : host.readValue path = .ok (.map entries))
    (accepted : Config.ofEntries entries = .ok settings) :
    Config.load host named = .ok settings := by
  unfold Config.load
  rw [given]
  dsimp only
  rw [if_neg full]
  unfold Config.readFile
  rw [read]
  dsimp only
  rw [accepted]

namespace CommandLine

/-! ## Files of steps -/

section Commands

variable {host : Host} {words : List String} {named : Option String} {settings : Config}
  {environment : Environment}

/-- The environment of a run whose configuration loads and builds. -/
theorem environmentOf_eq_ok (loaded : Config.load host named = .ok settings)
    (built : Environment.build host settings = .ok environment) :
    runCommand.environmentOf host named = .ok environment := by
  simp only [runCommand.environmentOf, bind, Except.bind, loaded, built]

/-- A run of `render` past its environment. -/
theorem run_of_parse_render {file : String} (parsed : parse words = .run named (.render file))
    (loaded : Config.load host named = .ok settings)
    (built : Environment.build host settings = .ok environment) :
    run host words = report (render host environment file) := by
  simp only [run, parsed, runCommand, bind, Except.bind, environmentOf_eq_ok loaded built]

/-- A run of `call` past its environment. -/
theorem run_of_parse_call {name : String} {args : List String}
    (parsed : parse words = .run named (.call name args))
    (loaded : Config.load host named = .ok settings)
    (built : Environment.build host settings = .ok environment) :
    run host words = report (call environment name args) := by
  simp only [run, parsed, runCommand, bind, Except.bind, environmentOf_eq_ok loaded built]

/-- A file of steps is rendered by taking all of them on a new script. -/
theorem render_of_readValue {file : String} {items : List Value}
    (document : host.readValue file = .ok (.list items)) :
    render host environment file =
      (Step.takeAll host environment file items {}).map fun script =>
        { out := script.fullCode environment.references } := by
  have whole : Step.render host environment file =
      (Step.takeAll host environment file items {}).map fun script =>
        script.fullCode environment.references := by
    unfold Step.render
    rw [document]
    rfl
  unfold render
  rw [Host.leadsToFile_of_readValue document, whole]
  cases Step.takeAll host environment file items {} <;> rfl

/-- What a step writes by itself is what the program prints for the call of its filter. -/
theorem call_of_step_call {step : Step} {line : String} {required : References} {args : List String}
    (called : step.call host environment = .ok (some line, required))
    (read : readArguments args = .ok step.values) :
    call environment step.name args = .ok { out := line ++ "\n" } := by
  obtain ⟨plugin, found, written, -⟩ := Step.call_eq_ok called
  simp only [call, callLine, Registry.resolve, found, read, written]
  rfl

/-- The steps of an environment reach the filters that they name. -/
theorem isReached_of_build (built : Environment.build host settings = .ok environment) {step : Step}
    (known : environment.registry.contains step.name = true)
    (visible : step.name.toList.head? ≠ some '_') : step.IsReached environment := by
  obtain ⟨plugin, found⟩ := Option.isSome_iff_exists.1 known
  have sound := Environment.isSound_registry_of_build built
  have reserved := Environment.reserved_of_build built
  exact ⟨plugin, found, Script.meaning_of_lookup sound reserved found visible⟩

/-- What an environment refers to when it is built: the files of its directories, each once and with
the kind that its extension says. -/
theorem references_of_build (built : Environment.build host settings = .ok environment) :
    environment.references.IsTyped ∧ environment.references.Nodup := by
  have typed :
      References.IsTyped (settings.autoloadDirs.flatMap (References.referencesIn host)) := by
    intro entry inside
    obtain ⟨directory, -, made⟩ := List.mem_flatMap.1 inside
    exact (References.areMade_referencesIn host directory).isTyped entry made
  rw [Environment.references_of_build built, References.merge_nil_left typed]
  exact ⟨References.isTyped_eraseDups typed, nodup_eraseDups _⟩

/-- A step that succeeds by itself writes a line. -/
theorem exists_line_of_step_call (built : Environment.build host settings = .ok environment)
    {step : Step} {line : Option String} {required : References}
    (called : step.call host environment = .ok (line, required)) :
    ∃ text, line = some text ∧ '(' ∈ text.toList := by
  obtain ⟨plugin, found, written, -⟩ := Step.call_eq_ok called
  obtain ⟨s, -, code⟩ := Environment.exists_signature_of_build built found
  rw [code] at written
  exact Registry.exists_line_of_boundCode written

/-- Steps that succeed by themselves write one line each. -/
theorem exists_lines_of_step_call (built : Environment.build host settings = .ok environment)
    {steps : List Step} (called : ∀ step ∈ steps, ∃ result, step.call host environment = .ok result) :
    ∃ lines, List.Forall₂
        (fun step line => ∃ required, step.call host environment = .ok (some line, required)) steps
        lines ∧
      ∀ line ∈ lines, '(' ∈ line.toList := by
  induction steps with
  | nil => exact ⟨[], .nil, fun _ absent => nomatch absent⟩
  | cons step steps ih =>
    obtain ⟨⟨⟨line, required⟩, first⟩, rest⟩ := List.forall_mem_cons.1 called
    obtain ⟨text, rfl, shown⟩ := exists_line_of_step_call built first
    obtain ⟨lines, others, shownOthers⟩ := ih rest
    exact ⟨text :: lines, .cons ⟨required, first⟩ others, List.forall_mem_cons.2 ⟨shown, shownOthers⟩⟩

end Commands

/-- **Files of steps**: let the steps of a file name filters, none of them with an underscore in
front. If each step by itself has a line and the files that it requires, then the program prints the
directives of what the environment references, those of the other files that are required, each
once, in the order of first use, the lines in their order, and a line feed if there is a step. The
lines are those that the program prints for the calls of the filters. If the first step that fails
does so with an error, the program reports it and prints nothing, whatever the steps before it made.
-/
theorem run_render {host : Host} {words : List String} {named : Option String} {file : String}
    {settings : Config} {environment : Environment} {items : List Value} {steps : List Step}
    (parsed : parse words = .run named (.render file))
    (loaded : Config.load host named = .ok settings)
    (built : Environment.build host settings = .ok environment)
    (document : host.readValue file = .ok (.list items))
    (reads : List.Forall₂ Step.Reads items steps)
    (known : ∀ step ∈ steps, environment.registry.contains step.name = true ∧
      step.name.toList.head? ≠ some '_') :
    let shared := environment.references
    let further := (steps.flatMap (Step.requirements host environment)).eraseDups.filter (· ∉ shared)
    ((∀ step ∈ steps, ∃ result, step.call host environment = .ok result) →
      ∃ lines, List.Forall₂
          (fun step line => ∃ required, step.call host environment = .ok (some line, required)) steps
          lines ∧
        run host words = .ok {
          exit := 0
          out := String.join (shared.map Script.directiveLine) ++
            String.join (further.map Script.directiveLine) ++
            String.join (lines.map (· ++ "\n")) ++ if steps.isEmpty then "" else "\n"
          err := "" }) ∧
    ((shared ++ further).map Prod.fst).Nodup ∧
    (∀ step ∈ steps, ∀ line required words args,
      step.call host environment = .ok (some line, required) →
      parse words = .run named (.call step.name args) → readArguments args = .ok step.values →
      run host words = .ok { exit := 0, out := line ++ "\n", err := "" }) ∧
    ∀ front step back e, steps = front ++ step :: back →
      (∀ earlier ∈ front, ∃ result, earlier.call host environment = .ok result) →
      step.call host environment = .error (.error e) →
      run host words = .ok { exit := 4, out := "", err := "error: " ++ e.message ++ "\n" } := by
  intro shared further
  have reached : ∀ step ∈ steps, step.IsReached environment := by
    intro step inside
    exact isReached_of_build built (known step inside).1 (known step inside).2
  have typedMore := Step.isTyped_flatMap_requirements host environment steps
  obtain ⟨typed, apart⟩ : shared.IsTyped ∧ shared.Nodup := references_of_build built
  refine ⟨?_, ?_, ?_, ?_⟩
  · intro called
    obtain ⟨lines, written, shown⟩ := exists_lines_of_step_call built called
    refine ⟨lines, written, ?_⟩
    -- each step has its line, so there is a line feed at the end if there is a step
    have many : lines.isEmpty = steps.isEmpty := by
      cases written <;> rfl
    rw [run_of_parse_render parsed loaded built, render_of_readValue document,
      Step.takeAll_eq_ok reads reached written References.isTyped_nil, ← many,
      ← Script.fullCode_lines shown typed typedMore]
    rfl
  · rw [← References.merge_eq typed typedMore]
    have typedAll := (References.growsTo_merge typedMore typed).1
    exact typedAll.nodup_map_fst (References.nodup_merge typed typedMore apart)
  · intro step _ line required words args called parsed read
    rw [run_of_parse_call parsed loaded built, call_of_step_call called read]
    rfl
  · intro front step back e whole called failed
    subst whole
    rw [run_of_parse_render parsed loaded built, render_of_readValue document,
      Step.takeAll_eq_error reads reached called failed]
    rfl

/-- Two calls of a filter that requires two files, one of them with a value: the files are
referenced once, behind the one that the environment references, and then come the two lines. -/
theorem run_render_required_once :
    let blur : Value := .map [
      (.text "signature", .text "Blur(i:)"), (.text "requires", .list [.text "a.avs", .text "b.dll"])]
    let catalog : Value := .map [(.text "filters", .map [(.text "extra", .list [blur])])]
    let settings : List (Value × Value) := [
      (.text "load_core", .bool false), (.text "catalogs", .list [.text "catalog"]),
      (.text "autoload_dirs", .list [.text "auto"])]
    let items : List Value := [.text "blur", .map [(.text "BLUR", .int 2)]]
    let host : Host := {
      configVariable := some "settings"
      files := ⟨[
        (["settings"], .file (.data (.map settings))), (["catalog"], .file (.data catalog)),
        (["steps"], .file (.data (.list items))), (["a.avs"], .file (.text "")),
        (["b.dll"], .file (.text "")), (["auto"], .folder), (["auto", "c.avsi"], .file (.text ""))]⟩ }
    run host ["render", "steps"] = .ok {
      exit := 0
      out := "Import(\"/auto/c.avsi\")\nImport(\"/a.avs\")\nLoadPlugin(\"/b.dll\")\nBlur()\nBlur(2)\n\n"
      err := "" } := by
  intro blur catalog settings items host
  let config : Config := { autoloadDirs := ["auto"], catalogs := ["catalog"], loadCore := false }
  let steps : List Step := [⟨"blur", []⟩, ⟨"BLUR", [.int 2]⟩]
  have parsed : parse ["render", "steps"] = .run none (.render "steps") := by decide +kernel
  have leads : host.walk? "settings" = some ["settings"] ∧ host.walk? "steps" = some ["steps"] := by
    decide +kernel
  have read : host.readValue "settings" = .ok (.map settings) := Host.readValue_of_walk leads.1 rfl
  have accepted : Config.ofEntries settings = .ok config := by
    rw [Config.ofEntries_eq_ok_iff, ← List.isEmpty_iff]
    decide +kernel
  have loaded : Config.load host none = .ok config :=
    Config.load_of_readValue rfl (by decide) read accepted
  have document : host.readValue "steps" = .ok (.list items) := Host.readValue_of_walk leads.2 rfl
  have reads : List.Forall₂ Step.Reads items steps :=
    .cons (.bare "blur") (.cons (.single "BLUR" (.int 2) nofun nofun) .nil)
  obtain ⟨environment, built, facts⟩ := Outcome.exists_eq_ok_of_any (show
    (Environment.build host config).toOption.any (fun environment =>
      steps.all (fun step => environment.registry.contains step.name) &&
      (Step.call host environment ⟨"blur", []⟩).toOption.any (fun made => made.1 = some "Blur()") &&
      (Step.call host environment ⟨"BLUR", [.int 2]⟩).toOption.any
        (fun made => made.1 = some "Blur(2)") &&
      environment.references = [("/auto/c.avsi", .script)] &&
      steps.flatMap (Step.requirements host environment) =
        [("/a.avs", .script), ("/b.dll", .plugin), ("/a.avs", .script), ("/b.dll", .plugin)]) = true
    from by decide +kernel)
  clear_value host
  simp only [Bool.and_eq_true, List.all_eq_true, decide_eq_true_eq] at facts
  obtain ⟨⟨⟨⟨known, first⟩, second⟩, shared⟩, further⟩ := facts
  obtain ⟨⟨_, _⟩, first, line⟩ := Outcome.exists_eq_ok_of_any first
  obtain ⟨⟨_, _⟩, second, lastLine⟩ := Outcome.exists_eq_ok_of_any second
  obtain rfl := of_decide_eq_true line
  obtain rfl := of_decide_eq_true lastLine
  have named : ∀ step ∈ steps, environment.registry.contains step.name = true ∧
      step.name.toList.head? ≠ some '_' := by
    intro step inside
    refine ⟨known step inside, ?_⟩
    revert step
    decide
  have called : ∀ step ∈ steps, ∃ result, step.call host environment = .ok result :=
    List.forall_mem_cons.2 ⟨⟨_, first⟩, List.forall_mem_singleton.2 ⟨_, second⟩⟩
  obtain ⟨lines, written, printed⟩ :=
    (run_render parsed loaded built document reads named).1 called
  obtain ⟨_, _, ⟨_, one⟩, others, rfl⟩ := List.forall₂_cons_left_iff.1 written
  obtain ⟨_, _, ⟨_, two⟩, none, rfl⟩ := List.forall₂_cons_left_iff.1 others
  obtain rfl := List.forall₂_nil_left_iff.1 none
  cases one.symm.trans first
  cases two.symm.trans second
  rw [printed, shared, further]
  decide +kernel

end CommandLine

end FilterScript
