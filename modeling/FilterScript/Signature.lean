import FilterScript.Value

/-!
# Signatures

A signature is the name of a filter, its parameters in order, and the values that a type may have.
-/

namespace FilterScript

/-- What a filter may be called with. -/
structure Signature where
  /-- The name of the filter. -/
  name : String
  /-- The parameters, in the order of their positions. -/
  params : List Parameter := []
  /-- The values allowed where a parameter is a type. -/
  types : List Value := []

namespace Signature

/-- The signature as it is written: the name, and the tokens of the parameters if there are any. -/
def text (s : Signature) : String :=
  if s.params.isEmpty then s.name
  else s.name ++ "(" ++ ", ".intercalate (s.params.map Parameter.text) ++ ")"

end Signature

end FilterScript
