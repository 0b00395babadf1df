import FilterScript.Signature.Compile
import FilterScript.Yaml.Writer

/-!
# Descriptions of signatures

A signature is described as a YAML document: its name, its parameters with what their letters mean,
and its types.
-/

namespace FilterScript.Signature

/-- A line with a text under a key. The line begins with `lead` and goes on, if it is broken, at an
indentation. -/
def textLine (indent : Nat) (lead s : String) : String :=
  lead ++ String.ofList (Yaml.writeText indent lead.length s) ++ "\n"

/-- A list under a key, empty or with lines for its items. -/
def listLines (key : String) (items : List String) : String :=
  if items.isEmpty then key ++ ": []\n" else key ++ ":\n" ++ String.join items

/-- The lines of a parameter. -/
def parameterLines (p : Parameter) : String :=
  textLine 4 "- modifier: " p.modifier ++
    (match p.identifier with
      | some name => textLine 4 "  identifier: " name
      | none => "  identifier: null\n") ++
    "  named: " ++ (if p.named then "true" else "false") ++ "\n" ++
    textLine 4 "  kind: " p.kind.word ++
    textLine 4 "  flags: " (String.ofList p.letters.letters)

/-- The description of a signature. -/
def description (s : Signature) : String :=
  textLine 2 "name: " s.name ++ listLines "params" (s.params.map parameterLines) ++
    listLines "types" (s.types.map fun t => textLine 2 "- " t.shown)

end FilterScript.Signature
