import FilterScript.Modifier
import FilterScript.Text.Blank

/-!
# Parameters

A parameter is written as a token, `modifier:identifier`. The two parts stand on the sides of the
last colon that no backslash escapes; a token without one is a bare identifier. The main statement
says that reading undoes the escaping of colons.
-/

namespace FilterScript

/-- One slot of a signature. -/
structure Parameter where
  /-- The modifier letters as they are written. -/
  modifier : String
  /-- The identifier, if the token holds one. -/
  identifier : Option String
  /-- Whether values are written with the identifier in front. A bare token has an identifier and is
  not named. -/
  named : Bool := false
deriving DecidableEq, Repr

namespace Parameter

/-- The modifier letters as a set. -/
def letters (p : Parameter) : Modifier :=
  Modifier.parse p.modifier

/-- How many values the parameter takes. -/
def kind (p : Parameter) : Modifier.Kind :=
  p.letters.kind

/-- Whether a value must be given. -/
def isRequired (p : Parameter) : Bool :=
  p.letters.isRequired

/-! ## Writing -/

/-- The identifier as it is written in front of a value or behind a modifier. -/
def label (p : Parameter) : String :=
  p.identifier.getD "None"

/-- The token of a parameter. -/
def text (p : Parameter) : String :=
  if p.named then p.modifier ++ ":" ++ p.label
  else if p.modifier ≠ "" then p.modifier ++ ":"
  else p.identifier.getD ""

/-! ## Reading -/

/-- Whether an unescaped colon comes before the end of the line. `escaped` says whether a backslash
stands right before the text. -/
def colonOnLine (escaped : Bool) : List Char → Bool
  | [] => false
  | c :: rest =>
    if c = '\n' then false else (c == ':' && !escaped) || colonOnLine (c == '\\') rest

/-- Splits a token at the last unescaped colon of the first line that has one. -/
def splitAtColon (escaped : Bool) : List Char → Option (List Char × List Char)
  | [] => none
  | c :: rest =>
    if c = ':' ∧ escaped = false ∧ colonOnLine false rest = false then some ([], rest)
    else (splitAtColon (c == '\\') rest).map fun (front, back) => (c :: front, back)

/-- Takes the backslash off every escaped colon. -/
def unescapeColons : List Char → List Char
  | '\\' :: ':' :: rest => ':' :: unescapeColons rest
  | c :: rest => c :: unescapeColons rest
  | [] => []

/-- Puts a backslash before every colon. -/
def escapeColons : List Char → List Char
  | [] => []
  | c :: rest =>
    if c = ':' then '\\' :: ':' :: escapeColons rest else c :: escapeColons rest

/-- The identifier that a text stands for: none if the text is empty. -/
def identifierOf (cs : List Char) : Option String :=
  let name := unescapeColons cs
  if name.isEmpty then none else some (String.ofList name)

/-- The parameter that a trimmed token stands for. -/
def ofTrimmed (cs : List Char) : Parameter :=
  match splitAtColon false cs with
  | none => ⟨"", identifierOf cs, false⟩
  | some (front, back) =>
    let identifier := identifierOf (Text.trim back)
    ⟨String.ofList (Text.trim front), identifier, identifier.isSome⟩

/-- The parameter that a token stands for. -/
def parse (token : String) : Parameter :=
  ofTrimmed (Text.trim token.toList)

/-- No escaped text begins with a colon. -/
theorem head?_escapeColons_ne (cs : List Char) : (escapeColons cs).head? ≠ some ':' := by
  cases cs with
  | nil => simp [escapeColons]
  | cons c rest =>
    by_cases h : c = ':'
    · simp [escapeColons, h]
    · simp [escapeColons, h]

/-- A character stays what it is where no colon follows. -/
theorem unescapeColons_cons {cs : List Char} (c : Char) (h : cs.head? ≠ some ':') :
    unescapeColons (c :: cs) = c :: unescapeColons cs := by
  cases cs with
  | nil => simp [unescapeColons]
  | cons d rest =>
    have hd : d ≠ ':' := by simpa using h
    rw [unescapeColons]
    intro more _ hmore
    simp only [List.cons.injEq] at hmore
    exact hd hmore.1

/-- Escaping is undone by reading. -/
theorem unescapeColons_escapeColons (cs : List Char) : unescapeColons (escapeColons cs) = cs := by
  induction cs with
  | nil => rfl
  | cons c rest ih =>
    by_cases h : c = ':'
    · simp [escapeColons, unescapeColons, h, ih]
    · simp [escapeColons, h, unescapeColons_cons c (head?_escapeColons_ne rest), ih]

end Parameter

end FilterScript
