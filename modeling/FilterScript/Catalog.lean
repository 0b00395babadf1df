import FilterScript.CoreFilters
import FilterScript.Yaml.Document

/-!
# Catalogs

Loading a catalog registers its filters one after the other. The first entry that is no filter, or
that the registry refuses, ends it; the filters before it stay registered. The main statements say
what becomes of the entry in front.
-/

namespace FilterScript.Catalog

/-- An entry with its category, or why there is none at this place of the catalog. -/
abbrev Item := Outcome (String × Entry)

/-! ## Reading -/

/-- The items of one category: its entries, or one error if it is no list. -/
def itemsOfCategory (source : String) : Value × Value → List Item
  | (category, .list entries) =>
    entries.map fun entry =>
      (Entry.inCategory source category entry).map fun e => (category.shown, e)
  | (category, _) => [.error (Error.categoryNotList category source).raise]

/-- The items of a catalog in their order. -/
def itemsOf (source : String) : Value → Except Error (List Item)
  | .map fields =>
    match Value.field "filters" fields with
    | .map categories => .ok (categories.flatMap (itemsOfCategory source))
    | _ => .error (.noFilters source)
  | _ => .error (.noFilters source)

/-- The items of the catalog in a file. -/
def readItems (host : Host) (path : String) : Outcome (List Item) :=
  match host.readValue path with
  | .error .unreadable => .error (Error.unreadableCatalog path)
  | .error .malformed => .error (Error.malformedCatalog path)
  | .error f => .error f
  | .ok value =>
    match itemsOf path value with
    | .ok items => .ok items
    | .error e => .error e

/-- The items of the core catalog. -/
def coreItems : List Item :=
  CoreFilters.catalog.flatMap fun (category, entries) => entries.map fun e => .ok (category, e)

/-! ## Loading -/

/-- Registers one item. -/
def registerItem (services : Fragment.Services) (r : Registry) (item : Item) : Outcome Registry :=
  match item with
  | .error e => .error e
  | .ok (category, e) => (e.register services category r).map Prod.fst

/-- Registers items until one fails, and counts them. `count` is the number of those before. -/
def registerItems (services : Fragment.Services) : List Item → Registry → Nat →
    Registry × Outcome Nat
  | [], r, count => (r, .ok count)
  | item :: rest, r, count =>
    match registerItem services r item with
    | .ok r => registerItems services rest r (count + 1)
    | .error e => (r, .error e)

section Steps

variable (services : Fragment.Services) (r : Registry) (count : Nat)

/-- An entry that is registered is counted, and the next ones follow. -/
theorem registerItems_cons_of_ok {item : Item} {registered : Registry}
    (h : registerItem services r item = .ok registered) (rest : List Item) :
    registerItems services (item :: rest) r count =
      registerItems services rest registered (count + 1) := by
  simp [registerItems, h]

/-- The first bad entry ends it, and the registry stays as it was before. -/
theorem registerItems_cons_of_error {item : Item} {e : Failure}
    (h : registerItem services r item = .error e) (rest : List Item) :
    registerItems services (item :: rest) r count = (r, .error e) := by
  simp [registerItems, h]

end Steps

/-- Registers the filters of the catalog in a file, or of the core catalog, and counts them. -/
def load (host : Host) (services : Fragment.Services) (path : Option String) (r : Registry) :
    Registry × Outcome Nat :=
  match path with
  | none => registerItems services coreItems r 0
  | some path =>
    match readItems host path with
    | .ok items => registerItems services items r 0
    | .error e => (r, .error e)

end FilterScript.Catalog
