import FilterScript.Registry

/-!
# Entries of catalogs

A catalog lists filters by category. An entry is a signature in one text, or a mapping with a
signature or name, and the lists of parameters, types and required files. A mapping with other keys,
or without a name, is no entry, and neither is a value of another kind.
-/

namespace FilterScript.Catalog

/-- A filter as a catalog gives it. -/
structure Entry where
  /-- The name, or the signature in one text. -/
  signature : String
  /-- The list of parameters. -/
  params : Value := .null
  /-- The list of types. -/
  types : Value := .null
  /-- The required files. -/
  requires : Value := .list []

namespace Entry

/-! ## Entries in the library -/

/-- A signature in one text. -/
def combined (signature : String) : Entry :=
  { signature }

/-- A signature in one text, with types. -/
def typed (signature types : String) : Entry :=
  { signature, types := .text types }

/-- A name with parameters. -/
def listed (name params : String) : Entry :=
  { signature := name, params := .text params }

/-- A name with parameters and types. -/
def full (name params types : String) : Entry :=
  { signature := name, params := .text params, types := .text types }

/-- Registers the filter in a category. -/
def register (e : Entry) (services : Fragment.Services) (category : String) (r : Registry) :
    Outcome (Registry × Plugin) :=
  r.newPlugin services e.signature e.params e.types e.requires (some category)

/-! ## Entries in documents -/

/-- The keys of an entry. -/
def keys : List String :=
  ["signature", "name", "params", "types", "requires"]

/-- Whether a value is a key of entries. -/
def isKey : Value → Bool
  | .text s => keys.contains s
  | _ => false

/-- What keys are compared as. Keys that are compared as different things have no order. -/
inductive Scale where
  /-- Texts, by their code points. -/
  | texts
  /-- Numbers of any kind, by size. -/
  | numbers
  /-- Times, all told with their distance from world time, or all without it. -/
  | times (zoned : Bool)
  /-- Values of one other kind, in its own order. -/
  | kind (name : String)
deriving DecidableEq

/-- What a key is compared as, if its kind has an order. -/
def scale? : Value → Option Scale
  | .text _ => some .texts
  | .bool _ => some .numbers
  | .int _ => some .numbers
  | .float _ => some .numbers
  | .ratio _ => some .numbers
  | .other "complex" _ _ _ _ => none
  | .other "datetime" _ quoted _ _ => some (.times (quoted.toList.contains '='))
  | .other name _ _ _ _ => some (.kind name)
  | _ => none

/-- The size of a number: on which side of all finite numbers it is, and how large among them. -/
def size : Value → Int × Rat
  | .float (.infinite negative) => (if negative then -1 else 1, 0)
  | v => (0, v.toNumber?.getD 0)

/-- Whether a key stands before another one of its scale, or in the same place. -/
def isUpTo : Value → Value → Bool
  | .text s, .text t => decide (s ≤ t)
  | .other _ _ _ _ (some items), .other _ _ _ _ (some items') =>
    let numbers (items : List Value) : List Int := items.map fun | .int n => n | _ => 0
    !decide (numbers items' < numbers items)
  | .other _ shown _ _ _, .other _ shown' _ _ _ => decide (shown ≤ shown')
  | v, w =>
    let (side, n) := size v
    let (side', n') := size w
    decide (side < side') || (side == side' && decide (n ≤ n'))

/-- Keys in order. A single key has one in any case. -/
def sortKeys (keys : List Value) : Except Fault (List Value) :=
  match keys with
  | first :: second :: rest =>
    match scale? first with
    | some scale =>
      if (second :: rest).all fun key => scale? key == some scale then .ok (keys.mergeSort isUpTo)
      else .error .wrongKind
    | none => .error .wrongKind
  | _ => .ok keys

/-- The required files of an entry: one text is one file, and nothing is no file. -/
def requiresOf (value : Value) : Value :=
  if !value.isTruthy then .list []
  else
    match value with
    | .text s => .list [.text s]
    | v => v

/-- The entry that a mapping is read as. -/
def ofFields (fields : List (Value × Value)) (category source : String) : Outcome Entry :=
  let unknown := (fields.map Prod.fst).filter fun key => !isKey key
  if !unknown.isEmpty then
    match sortKeys unknown with
    | .ok keys => .error (Error.unknownKeys keys (.map fields) category source).raise
    | .error f => .error f
  else
    let signature := Value.field "signature" fields
    let named := if signature.isTruthy then signature else Value.field "name" fields
    match named with
    | .text name =>
      .ok ⟨name, Value.field "params" fields, Value.field "types" fields,
        requiresOf (Value.field "requires" fields)⟩
    | _ => .error (Error.namelessEntry (.map fields) category source)

/-- The entry that a value is read as. -/
def ofValue (value : Value) (category source : String) : Outcome Entry :=
  match value with
  | .text s => .ok (combined s)
  | .map fields => ofFields fields category source
  | v => .error (Error.badEntry v category source).raise

/-- The entry that a value in a category is read as. The name of the category is written for each.
-/
def inCategory (source : String) (category value : Value) : Outcome Entry :=
  if category.isShowable then ofValue value category.shown source else .error Fault.tooManyDigits

end Entry

end FilterScript.Catalog
