/-!
# Help texts

What the program says about itself and its commands.
-/

namespace FilterScript.CommandLine

/-- The name of the program. -/
def programName : String := "avsgen"

/-- The version of the program. -/
def version : String := "0.1.0"

/-- What the program does. -/
def summary : String := "Generate AviSynth scripts from compact filter signatures."

/-- The commands with what they do. -/
def commands : List (String × String) := [
  ("help", "show this help and exit"),
  ("version", "show the version number and exit"),
  ("describe", "compile a signature and print its parameters"),
  ("call", "print the line a filter call generates"),
  ("render", "build a script from a YAML list of steps"),
  ("list", "list the registered filters by category")]

/-- A text filled up with blanks to a width. -/
def filled (width : Nat) (s : String) : String :=
  s ++ String.ofList (List.replicate (width - s.length) ' ')

/-- The commands in braces. -/
def commandChoice : String :=
  "\x7b" ++ ",".intercalate (commands.map Prod.fst) ++ "\x7d"

/-- How the program is called. -/
def usageLine : String :=
  "usage: " ++ programName ++ " [-c CONFIG] " ++ commandChoice ++ " ...\n"

/-- The help on the program. -/
def programHelp : String :=
  programName ++ " " ++ version ++ "\n" ++ summary ++ "\n\n" ++ usageLine ++ "\n" ++ summary ++
    "\n\n" ++
    "positional arguments:\n  " ++ commandChoice ++ "\n" ++
    String.join (commands.map fun (name, does) => "    " ++ filled 20 name ++ does ++ "\n") ++
    "\noptions:\n  -c CONFIG, --config CONFIG\n" ++
    filled 24 "" ++ "YAML configuration file (defaults to $AVSGEN_CONFIG)\n\n"

/-- The arguments of a command: how they stand in the usage line, and the lines about them. -/
def argumentHelp : String → String × List String
  | "describe" =>
    (" signature [types]", [
      "  signature   signature such as \"Crop(ri:, ri:, ri:, ri:, b:align)\"",
      "  types       comma-separated values for the t modifier"])
  | "call" =>
    (" name [args ...]", [
      "  name        filter name, case-insensitive",
      "  args        arguments as YAML scalars (3, 1.5, true, clip, \"text\"); ~ omits",
      "              one"])
  | "render" => (" file", ["  file        YAML file of \x7bFilter: [args]\x7d steps"])
  | _ => ("", [])

/-- The help on a command. -/
def commandHelp (name : String) : String :=
  let (usage, lines) := argumentHelp name
  "usage: " ++ programName ++ " " ++ name ++ " [-h]" ++ usage ++ "\n\n" ++
    (if lines.isEmpty then ""
      else "positional arguments:\n" ++ String.join (lines.map (· ++ "\n")) ++ "\n") ++
    "options:\n  -h, --help  show this help message and exit\n"

end FilterScript.CommandLine
