import FilterScript.Error
import FilterScript.Signature

/-!
# Compiling signatures

A signature is given as one text, `Name(token, token)`, or as a name with a list of tokens, and
either with a list of types. Lists are texts with commas, lists of values, or mappings, which are
gone through by their keys. Tokens are read as they come: what a letter or an identifier means is
not looked at before a call. The main statements say what becomes of a text without a parenthesis
and of the list behind one that has its own tokens.
-/

namespace FilterScript

/-! ## Lists -/

/-- The trimmed pieces of a text between its commas; a blank text has none. -/
def splitCommas (s : String) : List String :=
  if Text.isBlankText s then []
  else (s.toList.splitOn ',').map fun piece => String.ofList (Text.trim piece)

/-- An item of a list, trimmed if it is a text. -/
def trimItem : Value → Value
  | .text s => .text (Text.trimmed s)
  | v => v

/-- The items that a list in a signature stands for. -/
def splitList : Value → Except Fault (List Value)
  | .null => .ok []
  | .text s => .ok ((splitCommas s).map .text)
  | v =>
    match v.items? with
    | some items => .ok (items.map trimItem)
    | none => .error .wrongKind

namespace Parameter

/-- The parameter that an item of a list stands for. -/
def ofItem : Value → Except Fault Parameter
  | .parameter p => .ok p
  | .text s => .ok (parse s)
  | .other "bytes" _ _ _ _ => .error .wrongKind
  | _ => .error .notAToken

end Parameter

namespace Signature

/-! ## The combined form -/

/-- A text up to its last closing parenthesis, or all of it. -/
def beforeLastClose (cs : List Char) : List Char :=
  if cs.contains ')' then ((cs.reverse.dropWhile (· != ')')).drop 1).reverse else cs

/-- The name and the text between the parentheses, if there is an opening one. -/
def splitCombined (s : String) : String × Option String :=
  let cs := s.toList
  let name := String.ofList (Text.trim (cs.takeWhile (· != '(')))
  match cs.dropWhile (· != '(') with
  | [] => (name, none)
  | _ :: rest => (name, some (String.ofList (beforeLastClose rest)))

/-- A text without a character is all in front of it. -/
theorem takeWhile_ne_of_not_mem {c : Char} {cs : List Char} (h : c ∉ cs) :
    cs.takeWhile (· != c) = cs ∧ cs.dropWhile (· != c) = [] := by
  induction cs with
  | nil => exact ⟨rfl, rfl⟩
  | cons d rest ih =>
    have hd : d ≠ c := fun e => h (e ▸ List.mem_cons_self)
    have hrest := ih fun hc => h (List.mem_cons_of_mem _ hc)
    simp [hd, hrest]

/-- A text without an opening parenthesis is a name. -/
theorem splitCombined_of_not_mem {s : String} (h : '(' ∉ s.toList) :
    splitCombined s = (Text.trimmed s, none) := by
  obtain ⟨take, drop⟩ := takeWhile_ne_of_not_mem h
  simp [splitCombined, take, drop, Text.trimmed]

/-! ## All forms -/

/-- The signature with the given lists of tokens and types. -/
def ofLists (name : String) (params types : Value) : Except Fault Signature := do
  let items ← splitList params
  let params ← items.mapM Parameter.ofItem
  let types ← splitList types
  pure ⟨name, params, types⟩

/-- The lists of tokens and of types beside a name in the combined form. The name brings its own
tokens, and the list behind it is then one of types unless there is such a list. -/
def listsWithBody (body : String) (params types : Value) : Value × Value :=
  match params, types with
  | .null, types => (.text body, types)
  | params, .null => (.text body, params)
  | _, types => (.text body, types)

/-- A list behind a name with tokens of its own is the list of types. -/
theorem listsWithBody_null (body : String) (list : Value) :
    listsWithBody body list .null = (.text body, list) := by
  cases list <;> rfl

/-- The lists of tokens and of types in a mapping, where the tokens are one. -/
def listsOfMap : Value → Value → Value × Value
  | .map entries, .null => (Value.field "params" entries, Value.field "types" entries)
  | .map entries, types => (Value.field "params" entries, types)
  | params, types => (params, types)

/-- The lists of tokens and of types that a signature is given. -/
def listsOf (body : Option String) (params types : Value) : Value × Value :=
  match body with
  | some body => listsWithBody body params types
  | none => listsOfMap params types

/-- Compiles a signature. -/
def compile (name : String) (params types : Value := .null) : Except Fault Signature :=
  let (name, body) := splitCombined name
  let (params, types) := listsOf body params types
  ofLists name params types

end Signature

end FilterScript
