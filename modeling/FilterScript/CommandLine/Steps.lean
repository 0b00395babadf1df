import FilterScript.Environment

/-!
# Scripts from steps

A file of steps is a list; each step is the name of a filter, or a mapping from one name to its
argument or arguments. The steps are taken one after the other, and the first that fails ends it.
The main statements say what becomes of the step in front.
-/

namespace FilterScript

/-- A call of a filter in a file of steps. -/
structure Step where
  /-- The name of the filter. -/
  name : String
  /-- The values of the call. -/
  values : List Value := []

namespace Step

/-- The values of a call: those of a list, none, or one. -/
def valuesOf : Value → List Value
  | .null => []
  | .list values => values
  | v => [v]

/-- The step that a value is read as. -/
def ofValue (path : String) : Value → Outcome Step
  | .text name => .ok ⟨name, []⟩
  | .map [(name, values)] =>
    if name.isShowable then .ok ⟨name.shown, valuesOf values⟩ else .error Fault.tooManyDigits
  | v => .error (Error.badStep v path).raise

/-- The steps in a document. One without content has none. -/
def itemsOf (path : String) (document : Value) : Except Error (List Value) :=
  match document with
  | .list items => .ok items
  | v => if v.isTruthy then .error (.stepsNotList path) else .ok []

/-- Whether a name is of the form of those that every object has by itself. -/
def isInherent (name : String) : Bool :=
  name.startsWith "__" && name.endsWith "__"

/-- Calls the filter of a step on a script. -/
def take (host : Host) (environment : Environment) (step : Step) (script : Script) :
    Outcome Script := do
  let _ ← match environment.registry.resolve step.name with
    | .ok plugin => pure plugin
    | .error e => throw (.error e)
  match Script.meaning environment.registry step.name with
  | .plugin plugin =>
    match Script.invoke host plugin step.values script with
    | (script, .ok _) => pure script
    | (_, .error e) => throw e
  | .hidden name => throw (.fault (if isInherent name then .outside else .hiddenName))
  | _ => throw (.fault .wrongKind)

/-- Takes the steps of a list, each read when its turn comes. -/
def takeAll (host : Host) (environment : Environment) (path : String) :
    List Value → Script → Outcome Script
  | [], script => .ok script
  | item :: rest, script =>
    match ofValue path item with
    | .error e => .error e
    | .ok step =>
      match step.take host environment script with
      | .error e => .error e
      | .ok script => takeAll host environment path rest script

section Taking

variable (host : Host) (environment : Environment) (path : String) (script : Script)

/-- A step that is taken leaves the others to be taken. -/
theorem takeAll_cons_of_ok {item : Value} {step : Step} {changed : Script}
    (read : ofValue path item = .ok step)
    (taken : step.take host environment script = .ok changed) (rest : List Value) :
    takeAll host environment path (item :: rest) script =
      takeAll host environment path rest changed := by
  simp [takeAll, read, taken]

/-- A step that fails ends it, whatever comes behind. -/
theorem takeAll_cons_of_error {item : Value} {step : Step} {e : Failure}
    (read : ofValue path item = .ok step)
    (failed : step.take host environment script = .error e) (rest : List Value) :
    takeAll host environment path (item :: rest) script = .error e := by
  simp [takeAll, read, failed]

end Taking

/-- The whole script of a file of steps. -/
def render (host : Host) (environment : Environment) (path : String) : Outcome String := do
  let document ← match host.readValue path with
    | .ok document => pure document
    | .error f => throw (.fault f)
  let items ← match itemsOf path document with
    | .ok items => pure items
    | .error e => throw (.error e)
  let script ← takeAll host environment path items {}
  pure (script.fullCode environment.references)

end Step

end FilterScript
