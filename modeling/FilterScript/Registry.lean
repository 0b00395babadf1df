import FilterScript.Binding
import FilterScript.Text.Casing

/-!
# The registry of filters

Filters are registered under their names, each name once, whatever the case of its letters. The
names of what scripts can do themselves are reserved, also with underscores put in or left out. The
main statements say when a name is refused, and that a registration changes the look-up of no other
name.
-/

namespace FilterScript

/-- A registered filter. -/
structure Plugin where
  /-- The name, as it was registered. -/
  name : String
  /-- The line for a call, if the filter writes one. -/
  code : List Value → Outcome (Option String)
  /-- The spellings under which the filter is documented. -/
  aliases : List String
  /-- The signature, for filters that have one. -/
  signature : Option Signature := none
  /-- The files that a script must refer to before it uses the filter. -/
  requires : List Value := []
  /-- The category that the filter is listed in. -/
  category : Option String := none

/-! ## Names -/

/-- The spellings of a name: with a small letter in front if the name begins with a capital and has
another one on its first line, and as it is if there is a capital on that line. -/
def spellings (name : String) : List String :=
  let hasCapital (cs : List Char) : Bool := (cs.takeWhile (· != '\n')).any Text.isCapital
  let lowered := match name.toList with
    | c :: rest =>
      if Text.isCapital c && hasCapital rest then [String.ofList (c.toLower :: rest)] else []
    | [] => []
  lowered ++ if hasCapital name.toList then [name] else []

/-- The form in which names are compared to reserved ones: small letters, no underscores. -/
def normalizedName (name : String) : String :=
  String.ofList ((Text.small name).toList.filter (· != '_'))

/-- The filters by the small form of their names, in the order of registration. -/
structure Registry where
  /-- The reserved names in the form they are compared in. -/
  reserved : List String
  /-- The filters. -/
  plugins : List (String × Plugin) := []

namespace Registry

/-- What scripts can do themselves. -/
def reservedNames : List String := [
  "code", "full_code", "load", "autoload", "references", "all_references", "raw_code", "md5",
  "get_path"]

/-- The registry without filters in which the given names are reserved. -/
def withReserved (names : List String) : Registry where
  reserved := names.map normalizedName

/-- The registry without filters. -/
def empty : Registry :=
  withReserved reservedNames

/-! ## Looking up -/

/-- The filter of a name in any case. -/
def lookup (r : Registry) (name : String) : Option Plugin :=
  r.plugins.lookup (Text.small name)

/-- Whether there is a filter of a name. -/
def contains (r : Registry) (name : String) : Bool :=
  (r.lookup name).isSome

/-- The filter of a name, or the error that there is none. -/
def resolve (r : Registry) (name : String) : Except Error Plugin :=
  match r.lookup name with
  | some plugin => .ok plugin
  | none => .error (.unknownName name)

/-- The spellings that the filter of a name is documented under, or the error that there is none. -/
def resolveAliases (r : Registry) (name : String) : Except Error (List String) :=
  (r.resolve name).map Plugin.aliases

/-- The number of filters. -/
def size (r : Registry) : Nat :=
  r.plugins.length

/-- The keys in the order of registration. -/
def keys (r : Registry) : List String :=
  r.plugins.map Prod.fst

/-- Whether the files that the filters require are all named by texts. -/
def requiresTexts (r : Registry) : Bool :=
  r.plugins.all fun (_, plugin) => plugin.requires.all fun | .text _ => true | _ => false

/-! ## Registering -/

/-- Whether a name is reserved. -/
def isReserved (r : Registry) (name : String) : Bool :=
  r.reserved.contains (normalizedName name)

/-- Why a name cannot be registered, if it cannot. -/
def refusal? (r : Registry) (name : String) : Option Error :=
  if r.isReserved name then some (.reservedName name)
  else if r.contains name then some (.alreadyRegistered name)
  else none

/-- The registry with one more filter at the end. -/
def insert (r : Registry) (plugin : Plugin) : Registry :=
  { r with plugins := r.plugins ++ [(Text.small plugin.name, plugin)] }

/-- The name of a filter goes to the end in small letters. -/
theorem keys_insert (r : Registry) (plugin : Plugin) :
    (r.insert plugin).keys = r.keys ++ [Text.small plugin.name] := by
  simp [keys, insert]

/-- A filter that is found is found after any registration. -/
theorem lookup_insert_of_some {r : Registry} {name : String} {found : Plugin}
    (h : r.lookup name = some found) (plugin : Plugin) :
    (r.insert plugin).lookup name = some found := by
  simp only [lookup] at h
  simp [lookup, insert, List.lookup_append, h]

/-- A name is not refused if it is neither reserved nor taken. -/
theorem refusal?_eq_none_iff {r : Registry} {name : String} :
    r.refusal? name = none ↔ r.isReserved name = false ∧ r.lookup name = none := by
  unfold refusal? contains
  by_cases h : r.isReserved name = true
  · simp [h]
  · cases hl : r.lookup name <;> simp [h]

/-- Registers a filter by its code. The files it requires are the items of `requires`. -/
def register (r : Registry) (name : String) (code : List Value → Outcome (Option String))
    (signature : Option Signature := none) (requires : Value := .list [])
    (category : Option String := none) : Outcome (Registry × Plugin) :=
  match r.refusal? name with
  | some e => .error e
  | none =>
    match requires.items? with
    | none => .error Fault.wrongKind
    | some files =>
      let plugin : Plugin := ⟨name, code, spellings name, signature, files, category⟩
      .ok (r.insert plugin, plugin)

/-- The code of a filter that is called by its signature. -/
def boundCode (services : Fragment.Services) (signature : Signature) (values : List Value) :
    Outcome (Option String) :=
  (Binding.bind services signature values).map some

/-- Registers a filter by its signature. -/
def newPlugin (r : Registry) (services : Fragment.Services) (name : String)
    (params types : Value := .null) (requires : Value := .list [])
    (category : Option String := none) : Outcome (Registry × Plugin) :=
  match Signature.compile name params types with
  | .error f => .error f
  | .ok signature =>
    r.register signature.name (boundCode services signature) (some signature) requires category

/-- A name that is refused is not registered. -/
theorem register_eq_error_of_refusal {r : Registry} {name : String} {e : Error}
    (h : r.refusal? name = some e) (code : List Value → Outcome (Option String))
    (signature : Option Signature) (requires : Value) (category : Option String) :
    r.register name code signature requires category = .error (.error e) := by
  simp [register, h]

/-- A name that is not refused is registered, with the files that the filter requires. -/
theorem register_eq_ok {r : Registry} {name : String} {requires : Value} {files : List Value}
    (h : r.refusal? name = none) (hr : requires.items? = some files)
    (code : List Value → Outcome (Option String)) (signature : Option Signature)
    (category : Option String) :
    r.register name code signature requires category =
      .ok (r.insert ⟨name, code, spellings name, signature, files, category⟩,
        ⟨name, code, spellings name, signature, files, category⟩) := by
  simp [register, h, hr]

/-! ## Categories -/

/-- The groups of filters after one more filter. A new category goes to the end. -/
def addToGroups (plugin : Plugin) :
    List (Option String × List Plugin) → List (Option String × List Plugin)
  | [] => [(plugin.category, [plugin])]
  | (category, members) :: rest =>
    if category = plugin.category then (category, members ++ [plugin]) :: rest
    else (category, members) :: addToGroups plugin rest

/-- The filters by category, the categories in the order of their first filters. -/
def categories (r : Registry) : List (Option String × List Plugin) :=
  r.plugins.foldl (fun groups (_, plugin) => addToGroups plugin groups) []

end Registry

end FilterScript
