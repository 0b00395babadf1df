import FilterScript.CommandLine.Steps
import FilterScript.CommandLine.Words
import FilterScript.Signature.Description

/-!
# Running a command line

A command line is run against a host and gives an exit code and the texts of the two outputs: 0 on
success, 2 for a bad command line, 3 for a missing file of steps, and 4 for an error, which is
reported. The outputs take every text.
-/

namespace FilterScript.CommandLine

/-- What a run of the program leaves. -/
structure Result where
  /-- The exit code. -/
  exit : Nat := 0
  /-- The standard output. -/
  out : String := ""
  /-- What the program itself writes on the standard error, without the lines of a log. -/
  err : String := ""
deriving DecidableEq, Repr

/-! ## Exit codes -/

/-- A bad command line. -/
def usageResult : Result := { exit := 2, err := usageLine }

/-- A missing file of steps. -/
def notFound (file : String) : Result :=
  { exit := 3, err := "Script not found: \"" ++ file ++ "\"\n" }

/-- A reported error. -/
def invalid (e : Error) : Result :=
  { exit := 4, err := "error: " ++ e.message ++ "\n" }

/-- The result of what may fail with a reported error. -/
def report : Outcome Result → Except Fault Result
  | .ok result => .ok result
  | .error (.error e) => .ok (invalid e)
  | .error (.fault f) => .error f

/-! ## Commands -/

/-- The description of a signature. -/
def describe (signature : String) (types : Option String) : Outcome Result :=
  match Signature.compile signature .null ((types.map Value.text).getD .null) with
  | .ok s => .ok { out := s.description }
  | .error f => .error f

/-- The values that the words of a call mean. -/
def readArguments (words : List String) : Except Fault (List Value) :=
  words.mapM Yaml.readArgument

/-- The line of a call. -/
def callLine (environment : Environment) (name : String) (words : List String) :
    Outcome (Option String) :=
  match environment.registry.resolve name with
  | .error e => .error e
  | .ok plugin =>
    match readArguments words with
    | .error f => .error f
    | .ok values => plugin.code values

/-- The line of a call as output. -/
def call (environment : Environment) (name : String) (words : List String) : Outcome Result :=
  (callLine environment name words).map fun line =>
    { out := (line.map (· ++ "\n")).getD "" }

/-- The script of a file of steps as output. -/
def render (host : Host) (environment : Environment) (file : String) : Outcome Result :=
  if !host.leadsToFile file then .ok (notFound file)
  else (Step.render host environment file).map fun code => { out := code }

/-- A filter in a list of filters. -/
def filterLine (plugin : Plugin) : String :=
  "  " ++ match plugin.signature with
    | some s => s.text
    | none => plugin.name

/-- The lines of a category: its name, and its filters. -/
def categoryLines : Option String × List Plugin → List String
  | (category, plugins) =>
    let name := category.getD ""
    ((if name = "" then "custom" else name) ++ ":") :: plugins.map filterLine

/-- The filters by category. -/
def filterList (registry : Registry) : String :=
  "\n".intercalate (registry.categories.flatMap categoryLines)

/-- Runs a command. Help and version do without a configuration. -/
def runCommand (host : Host) (config : Option String) : Command → Outcome Result
  | .help => .ok { out := programHelp }
  | .version => .ok { out := version ++ "\n" }
  | .describe signature types => do
    let _ ← Config.load host config
    describe signature types
  | .call name words => do
    let environment ← environmentOf
    call environment name words
  | .render file => do
    let environment ← environmentOf
    render host environment file
  | .list => do
    let environment ← environmentOf
    pure { out := filterList environment.registry ++ "\n" }
where
  /-- The environment of the configuration. -/
  environmentOf : Outcome Environment := do
    let settings ← Config.load host config
    Environment.build host settings

/-- Runs a command line. -/
def run (host : Host) (words : List String) : Except Fault Result :=
  match parse words with
  | .usage => .ok usageResult
  | .helpOn name => .ok { out := commandHelp name }
  | .run config command => report (runCommand host config command)

end FilterScript.CommandLine
