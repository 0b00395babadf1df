import FilterScript.Catalog
import Mathlib.Data.List.Nodup

/-!
# What becomes of a registry

A registry is asked to register filters by their code, by their signatures, or as the entries of a
catalog, which goes on until one of them fails. Whatever fails, a registry only ever gets longer, by
the filters that were registered, in their order.

* **One registration** (`register_eq_ok_iff`, `register_texts_eq_error_iff`): what it needs, and what
  it fails with.
* **Sound registries** (`IsSound.insert`): keys are small forms of names, no two are the same, and
  no filter has a reserved name.
* **One request** (`growsBy_request`): it registers filters at the end, one after the other, each of
  them under a name that is not refused when its turn comes.
* **All requests** (`after_withReserved`): what holds in each state of a registry.
-/

namespace FilterScript

/-! ## Requests -/

namespace Catalog

/-- The filters that are registered for the items of a catalog, up to the first that fails. -/
def registeredFor (services : Fragment.Services) : List Item → Registry → List Plugin
  | [], _ => []
  | .error _ :: _, _ => []
  | .ok (category, e) :: rest, r =>
    match e.register services category r with
    | .ok (r, plugin) => plugin :: registeredFor services rest r
    | .error _ => []

/-- The items that a catalog is loaded from. -/
def itemsAt (host : Host) : Option String → Outcome (List Item)
  | none => .ok coreItems
  | some path => readItems host path

end Catalog

namespace Registry

/-- What a registry is asked to do. -/
inductive Request where
  /-- Registers a filter by its code. -/
  | register (name : String) (code : List Value → Outcome (Option String))
      (signature : Option Signature) (requires : Value) (category : Option String)
  /-- Registers a filter by its signature. -/
  | newPlugin (services : Fragment.Services) (name : String) (params types requires : Value)
      (category : Option String)
  /-- Loads a catalog: the one in a file, or the core catalog. -/
  | load (host : Host) (services : Fragment.Services) (path : Option String)

/-- The registry after a registration: as it was, if that failed. -/
def kept (r : Registry) : Outcome (Registry × Plugin) → Registry
  | .ok (registry, _) => registry
  | .error _ => r

/-- The filter that a registration makes, if it does not fail. -/
def madeBy : Outcome (Registry × Plugin) → List Plugin
  | .ok (_, plugin) => [plugin]
  | .error _ => []

/-- The registry after a request, whether or not the request fails. -/
def request (r : Registry) : Request → Registry
  | .register name code signature requires category =>
    r.kept (r.register name code signature requires category)
  | .newPlugin services name params types requires category =>
    r.kept (r.newPlugin services name params types requires category)
  | .load host services path => (Catalog.load host services path r).1

/-- The filters that a request registers, in their order, whether or not the request fails. -/
def requested (r : Registry) : Request → List Plugin
  | .register name code signature requires category =>
    madeBy (r.register name code signature requires category)
  | .newPlugin services name params types requires category =>
    madeBy (r.newPlugin services name params types requires category)
  | .load host services path =>
    match Catalog.itemsAt host path with
    | .ok items => Catalog.registeredFor services items r
    | .error _ => []

/-- The registry after requests. -/
def after (r : Registry) : List Request → Registry
  | [] => r
  | request :: rest => (r.request request).after rest

/-- The filters that requests register, in their order. -/
def registered (r : Registry) : List Request → List Plugin
  | [] => []
  | request :: rest => r.requested request ++ (r.request request).registered rest

/-! ## Names -/

section Names

variable {r : Registry} {name other : String} {plugin : Plugin}

/-- The form that is compared to reserved names does not depend on the case of letters. -/
theorem normalizedName_congr (same : Text.small name = Text.small other) :
    normalizedName name = normalizedName other := by
  simp only [normalizedName, same]

/-- Spellings with the same small letters find the same plugin. -/
theorem lookup_congr (same : Text.small name = Text.small other) :
    r.lookup name = r.lookup other := by
  simp only [lookup, same]

/-- A name finds nothing just when its small form is no key. -/
theorem lookup_eq_none_iff : r.lookup name = none ↔ Text.small name ∉ r.keys := by
  rw [lookup, List.lookup_eq_none_iff, keys, List.mem_map]
  simp only [bne_iff_ne, ne_eq, not_exists, not_and]
  constructor
  · intro absent entry inside same
    exact absent entry inside same.symm
  · intro absent entry inside same
    exact absent entry inside same.symm

/-- What is found under a name stands under its small form. -/
theorem mem_of_lookup (found : r.lookup name = some plugin) :
    (Text.small name, plugin) ∈ r.plugins := by
  obtain ⟨front, back, whole, -⟩ := List.lookup_eq_some_iff.1 found
  rw [whole]
  exact List.mem_append_right front List.mem_cons_self

/-- A name is reserved when its normalized form is on the reserved list. -/
theorem isReserved_eq_true_iff :
    r.isReserved name = true ↔ normalizedName name ∈ r.reserved := by
  simp only [isReserved, List.contains_iff_mem]

/-- The same, for a registry whose reserved list was normalized from `names`. -/
theorem isReserved_withReserved_iff {names : List String} (h : r.reserved = names.map normalizedName) :
    r.isReserved name = true ↔ ∃ taken ∈ names, normalizedName name = normalizedName taken := by
  rw [isReserved_eq_true_iff, h, List.mem_map]
  simp only [eq_comm]

end Names

/-! ## One registration -/

section Register

variable {r r' : Registry} {name : String} {plugin : Plugin}
  {code : List Value → Outcome (Option String)} {signature : Option Signature} {requires : Value}
  {category : Option String}

/-- **One registration** needs a name that is not refused, and required files to go through. The
filter goes to the end. -/
theorem register_eq_ok_iff :
    r.register name code signature requires category = .ok (r', plugin) ↔
      r.refusal? name = none ∧ r' = r.insert plugin ∧
        ∃ files, requires.items? = some files ∧
          plugin = ⟨name, code, spellings name, signature, files, category⟩ := by
  constructor
  · intro h
    unfold register at h
    split at h
    · cases h
    · next accepted =>
      split at h
      · cases h
      · next files items =>
        cases h
        exact ⟨accepted, rfl, files, items, rfl⟩
  · rintro ⟨accepted, rfl, files, items, rfl⟩
    exact register_eq_ok accepted items code signature category

/-- **One registration** with texts for the required files fails if the name is reserved, and else
if it is taken. -/
theorem register_texts_eq_error_iff {files : List String} {failure : Failure} :
    r.register name code signature (.list (files.map .text)) category = .error failure ↔
      (r.isReserved name = true ∧ failure = .error (.reservedName name)) ∨
        (r.isReserved name = false ∧ Text.small name ∈ r.keys ∧
          failure = .error (.alreadyRegistered name)) := by
  have items : (Value.list (files.map .text)).items? = some (files.map .text) := rfl
  have taken : r.contains name = true ↔ Text.small name ∈ r.keys := by
    rw [contains, Option.isSome_iff_ne_none, ne_eq, lookup_eq_none_iff, not_not]
  simp only [register, refusal?, items]
  by_cases reserved : r.isReserved name = true
  · simp [reserved, eq_comm]
  · by_cases there : r.contains name = true
    · simp [reserved, there, taken.1 there, eq_comm]
    · have missing : Text.small name ∉ r.keys := fun inside => there (taken.2 inside)
      simp [reserved, there, missing]

/-- Registering a filter by its signature is registering its code. -/
theorem newPlugin_eq_ok {services : Fragment.Services} {params types : Value}
    (h : r.newPlugin services name params types requires category = .ok (r', plugin)) :
    ∃ s, r.register s.name (boundCode services s) (some s) requires category = .ok (r', plugin) := by
  unfold newPlugin at h
  split at h
  · cases h
  · next s _ => exact ⟨s, h⟩

end Register

/-! ## Growing -/

/-- Whether a registry becomes another one by filters that are registered one after the other, each
of them under a name that is not refused when its turn comes. -/
inductive GrowsBy : Registry → List Plugin → Registry → Prop
  | refl (r : Registry) : GrowsBy r [] r
  | insert {r last : Registry} {plugin : Plugin} {rest : List Plugin}
      (accepted : r.refusal? plugin.name = none) (more : GrowsBy (r.insert plugin) rest last) :
      GrowsBy r (plugin :: rest) last

section Growing

variable {r middle last : Registry} {made more : List Plugin}

/-- Growth by one list and then by another is growth by both. -/
theorem GrowsBy.trans (h : GrowsBy r made middle) (h' : GrowsBy middle more last) :
    GrowsBy r (made ++ more) last := by
  induction h with
  | refl r => exact h'
  | insert accepted _ ih => exact .insert accepted (ih h')

/-- The reserved names stay as they were. -/
theorem GrowsBy.reserved_eq (h : GrowsBy r made last) : last.reserved = r.reserved := by
  induction h with
  | refl r => rfl
  | insert _ _ ih => rw [ih]; rfl

/-- What is registered stands behind what was there, in its order. -/
theorem GrowsBy.plugins_eq (h : GrowsBy r made last) :
    last.plugins = r.plugins ++ made.map fun plugin => (Text.small plugin.name, plugin) := by
  induction h with
  | refl r => simp
  | insert _ _ ih => simp [ih, Registry.insert]

/-- A filter that is found stays found, under its name in any case. -/
theorem GrowsBy.lookup_eq {name other : String} {plugin : Plugin} (h : GrowsBy r made last)
    (found : r.lookup name = some plugin) (same : Text.small other = Text.small name) :
    last.lookup other = some plugin := by
  rw [lookup_congr same]
  induction h with
  | refl r => exact found
  | insert _ _ ih => exact ih (lookup_insert_of_some found _)

/-- Whether a registry is in order: its keys are the small forms of the names, no two of them are
the same, and no name is reserved. -/
structure IsSound (r : Registry) : Prop where
  /-- Filters are found under the small forms of their names. -/
  keyed : ∀ entry ∈ r.plugins, entry.1 = Text.small entry.2.name
  /-- No two filters have the same key. -/
  apart : r.keys.Nodup
  /-- No filter has a reserved name. -/
  free : ∀ entry ∈ r.plugins, r.isReserved entry.2.name = false

/-- A registry without plugins is sound, whatever it reserves. -/
theorem isSound_withReserved (names : List String) : (withReserved names).IsSound where
  keyed := by
    intro entry absent
    cases absent
  apart := List.nodup_nil
  free := by
    intro entry absent
    cases absent

/-- **Sound registries** stay sound with one more filter whose name is not refused. -/
theorem IsSound.insert {plugin : Plugin} (sound : r.IsSound)
    (accepted : r.refusal? plugin.name = none) : (r.insert plugin).IsSound := by
  obtain ⟨unreserved, missing⟩ := refusal?_eq_none_iff.1 accepted
  have new : Text.small plugin.name ∉ r.keys := lookup_eq_none_iff.1 missing
  refine ⟨?_, ?_, ?_⟩
  · intro entry inside
    rcases List.mem_append.1 inside with old | last
    · exact sound.keyed entry old
    · rw [List.mem_singleton.1 last]
  · rw [keys_insert, ← List.concat_eq_append, List.nodup_concat]
    exact ⟨new, sound.apart⟩
  · intro entry inside
    rcases List.mem_append.1 inside with old | last
    · exact sound.free entry old
    · rw [List.mem_singleton.1 last]
      exact unreserved

/-- A sound registry stays sound while it grows. -/
theorem GrowsBy.isSound (h : GrowsBy r made last) (sound : r.IsSound) : last.IsSound := by
  induction h with
  | refl r => exact sound
  | insert accepted _ ih => exact ih (sound.insert accepted)

/-- In a sound registry each filter is found under its key. -/
theorem IsSound.lookup_of_mem {key name : String} {plugin : Plugin} (sound : r.IsSound)
    (inside : (key, plugin) ∈ r.plugins) (spelled : Text.small name = key) :
    r.lookup name = some plugin := by
  obtain ⟨front, back, whole⟩ := List.append_of_mem inside
  have apart := sound.apart
  simp only [keys, whole, List.map_append, List.map_cons] at apart
  have before : key ∉ front.map Prod.fst := by
    intro there
    exact (List.nodup_append.1 apart).2.2 key there key List.mem_cons_self rfl
  have nothing : front.lookup key = none := by
    rw [List.lookup_eq_none_iff]
    intro entry there
    have differ : key ≠ entry.1 := by
      rintro rfl
      exact before (List.mem_map_of_mem there)
    simpa using differ
  rw [lookup, spelled, whole, List.lookup_append, nothing, Option.none_or, List.lookup_cons_self]

end Growing

/-! ## One request -/

section Requests

variable {r r' : Registry} {plugin : Plugin}

/-- A registration that succeeds makes the registry grow by its plugin. -/
theorem growsBy_of_register {name : String} {code : List Value → Outcome (Option String)}
    {signature : Option Signature} {requires : Value} {category : Option String}
    (h : r.register name code signature requires category = .ok (r', plugin)) :
    GrowsBy r [plugin] r' := by
  obtain ⟨accepted, rfl, files, -, rfl⟩ := register_eq_ok_iff.1 h
  exact .insert accepted (.refl _)

/-- A registration that fails leaves the registry as it is. -/
theorem growsBy_kept {outcome : Outcome (Registry × Plugin)}
    (h : ∀ r' plugin, outcome = .ok (r', plugin) → GrowsBy r [plugin] r') :
    GrowsBy r (madeBy outcome) (r.kept outcome) := by
  cases outcome with
  | error e => exact .refl r
  | ok result => exact h result.1 result.2 rfl

/-- The same for a plugin made from its parts. -/
theorem growsBy_of_newPlugin {services : Fragment.Services} {name : String}
    {params types requires : Value} {category : Option String}
    (h : r.newPlugin services name params types requires category = .ok (r', plugin)) :
    GrowsBy r [plugin] r' := by
  obtain ⟨s, registered⟩ := newPlugin_eq_ok h
  exact growsBy_of_register registered

/-- The items of a catalog are registered one after the other, up to the first that fails. -/
theorem growsBy_registerItems (services : Fragment.Services) (items : List Catalog.Item)
    (r : Registry) (count : Nat) :
    GrowsBy r (Catalog.registeredFor services items r)
      (Catalog.registerItems services items r count).1 := by
  induction items generalizing r count with
  | nil => exact .refl r
  | cons item rest ih =>
    cases item with
    | error e =>
      rw [Catalog.registerItems_cons_of_error services r count rfl]
      exact .refl r
    | ok entry =>
      obtain ⟨category, e⟩ := entry
      cases registered : e.register services category r with
      | error f =>
        have fails : Catalog.registerItem services r (.ok (category, e)) = .error f := by
          rw [Catalog.registerItem, registered]
          rfl
        rw [Catalog.registerItems_cons_of_error services r count fails, Catalog.registeredFor,
          registered]
        exact .refl r
      | ok result =>
        obtain ⟨next, plugin⟩ := result
        have succeeds : Catalog.registerItem services r (.ok (category, e)) = .ok next := by
          rw [Catalog.registerItem, registered]
          rfl
        rw [Catalog.registerItems_cons_of_ok services r count succeeds, Catalog.registeredFor,
          registered]
        exact (growsBy_of_newPlugin registered).trans (ih next (count + 1))

-- unsealed, the file is read while the two sides are compared
seal Catalog.readItems in
/-- Loading a catalog reads its items and registers them one after another. -/
theorem load_eq (host : Host) (services : Fragment.Services) (path : Option String) (r : Registry) :
    Catalog.load host services path r =
      match Catalog.itemsAt host path with
      | .ok items => Catalog.registerItems services items r 0
      | .error e => (r, .error e) := by
  cases path <;> rfl

/-- The filters of a catalog are registered by their signatures. -/
theorem exists_newPlugin_of_mem_registeredFor {services : Fragment.Services} {items : List Catalog.Item}
    (h : plugin ∈ Catalog.registeredFor services items r) :
    ∃ earlier later name params types requires category,
      newPlugin earlier services name params types requires category = .ok (later, plugin) := by
  induction items generalizing r with
  | nil => cases h
  | cons item rest ih =>
    cases item with
    | error e => cases h
    | ok entry =>
      rw [Catalog.registeredFor] at h
      split at h
      · next later made registered =>
        rcases List.mem_cons.1 h with rfl | behind
        · exact ⟨r, later, _, _, _, _, _, registered⟩
        · exact ih behind
      · cases h

/-- A request made a plugin only if it succeeded with it. -/
theorem eq_ok_of_mem_madeBy {outcome : Outcome (Registry × Plugin)} (h : plugin ∈ madeBy outcome) :
    ∃ later, outcome = .ok (later, plugin) := by
  cases outcome with
  | error e => cases h
  | ok result =>
    obtain rfl := List.mem_singleton.1 h
    exact ⟨result.1, rfl⟩

/-- Whatever a filter is asked for by, it is registered by its code in the end. -/
theorem exists_register_of_mem_requested {request : Request} (h : plugin ∈ r.requested request) :
    ∃ earlier later name code signature requires category,
      register earlier name code signature requires category = .ok (later, plugin) := by
  have bySignature {earlier later : Registry} {services : Fragment.Services} {name : String}
      {params types requires : Value} {category : Option String}
      (made : earlier.newPlugin services name params types requires category = .ok (later, plugin)) :
      ∃ earlier later name code signature requires category,
        register earlier name code signature requires category = .ok (later, plugin) := by
    obtain ⟨s, registered⟩ := newPlugin_eq_ok made
    exact ⟨earlier, later, s.name, _, _, _, _, registered⟩
  cases request with
  | register name code signature requires category =>
    obtain ⟨later, made⟩ := eq_ok_of_mem_madeBy h
    exact ⟨r, later, name, code, signature, requires, category, made⟩
  | newPlugin services name params types requires category =>
    obtain ⟨later, made⟩ := eq_ok_of_mem_madeBy h
    exact bySignature made
  | load host services path =>
    rw [requested] at h
    split at h
    · obtain ⟨earlier, later, _, _, _, _, _, made⟩ := exists_newPlugin_of_mem_registeredFor h
      exact bySignature made
    · cases h

/-- **One request** makes a registry longer by the filters that it registers. -/
theorem growsBy_request (r : Registry) (request : Request) :
    GrowsBy r (r.requested request) (r.request request) := by
  cases request with
  | register name code signature requires category =>
    exact growsBy_kept fun _ _ => growsBy_of_register
  | newPlugin services name params types requires category =>
    exact growsBy_kept fun _ _ => growsBy_of_newPlugin
  | load host services path =>
    rw [Registry.request, requested, load_eq]
    cases Catalog.itemsAt host path with
    | error e => exact .refl r
    | ok items => exact growsBy_registerItems services items r 0

end Requests

/-! ## All requests -/

/-- A run of requests makes the registry grow by the plugins that the run registered, in order. -/
theorem growsBy_after (r : Registry) (requests : List Request) :
    GrowsBy r (r.registered requests) (r.after requests) := by
  induction requests generalizing r with
  | nil => exact .refl r
  | cons request rest ih => exact (growsBy_request r request).trans (ih (r.request request))

/-- Each plugin that a run registered was the answer to one successful registration. -/
theorem exists_register_of_mem_registered {r : Registry} {requests : List Request} {plugin : Plugin}
    (h : plugin ∈ r.registered requests) :
    ∃ earlier later name code signature requires category,
      register earlier name code signature requires category = .ok (later, plugin) := by
  induction requests generalizing r with
  | nil => cases h
  | cons request rest ih =>
    rcases List.mem_append.1 h with first | behind
    · exact exists_register_of_mem_requested first
    · exact ih behind

/-- A run of two lists of requests is the one run after the other. -/
theorem after_append (r : Registry) (requests more : List Request) :
    r.after (requests ++ more) = (r.after requests).after more := by
  induction requests generalizing r with
  | nil => rfl
  | cons request rest ih => exact ih (r.request request)

/-- Every registry that starts empty is sound after any run. -/
theorem isSound_after (names : List String) (requests : List Request) :
    ((withReserved names).after requests).IsSound :=
  (growsBy_after _ requests).isSound (isSound_withReserved names)

/-- **All requests**: in each state that a registry with reserved names gets into, the filters are
those that were registered, in their order, under the small forms of their names. No two have the
same key and none has a reserved name. What is found is found from then on. A registration fails if
the name is reserved, and else if it is taken. -/
theorem after_withReserved (names : List String) (requests : List Request) :
    let r := (withReserved names).after requests
    let made := (withReserved names).registered requests
    (∀ entry ∈ r.plugins, entry.1 = Text.small entry.2.name) ∧
    r.keys.Nodup ∧
    r.plugins.map Prod.snd = made ∧
    r.keys = made.map (fun plugin => Text.small plugin.name) ∧
    r.size = made.length ∧
    (∀ entry ∈ r.plugins, ∀ taken ∈ names, normalizedName entry.2.name ≠ normalizedName taken) ∧
    (∀ name plugin, r.lookup name = some plugin → ∀ more other,
      Text.small other = Text.small name → (r.after more).lookup other = some plugin) ∧
    ∀ name code signature (files : List String) category failure,
      r.register name code signature (.list (files.map .text)) category = .error failure ↔
        ((∃ taken ∈ names, normalizedName name = normalizedName taken) ∧
          failure = .error (.reservedName name)) ∨
        ((¬∃ taken ∈ names, normalizedName name = normalizedName taken) ∧
          Text.small name ∈ r.keys ∧ failure = .error (.alreadyRegistered name)) := by
  intro r made
  have grows : GrowsBy (withReserved names) made r := growsBy_after _ requests
  have sound : r.IsSound := isSound_after names requests
  have entries : r.plugins = made.map fun plugin => (Text.small plugin.name, plugin) := by
    rw [grows.plugins_eq]
    rfl
  have reserved (name : String) : r.isReserved name = true ↔
      ∃ taken ∈ names, normalizedName name = normalizedName taken :=
    isReserved_withReserved_iff grows.reserved_eq
  refine ⟨sound.keyed, sound.apart, ?_, ?_, ?_, ?_, ?_, ?_⟩
  · simp [entries, Function.comp_def]
  · simp [keys, entries, Function.comp_def]
  · simp [size, entries]
  · intro entry inside taken there same
    have free := sound.free entry inside
    rw [(reserved entry.2.name).2 ⟨taken, there, same⟩] at free
    cases free
  · intro name plugin found more other same
    exact (growsBy_after r more).lookup_eq found same
  · intro name code signature files category failure
    rw [register_texts_eq_error_iff, ← reserved name, Bool.not_eq_true]

/-- A filter, a reserved name, the name of the filter in other letters, and a catalog that stops at
its second entry: two filters are registered, and the first is found under its name in any case. -/
theorem after_withReserved_stopped_catalog :
    let entries : Value := .list [.text "Blur(d:)", .int 5, .text "Sharpen(d:)"]
    let catalog : Value := .map [(.text "filters", .map [(.text "extra", entries)])]
    let host : Host := { files := ⟨[(["c.yaml"], .file (.data catalog))]⟩ }
    let services := Fragment.Services.inDirectory "/"
    let requests : List Request := [
      .register "Foo_Bar" (fun _ => .ok none) none (.list []) none,
      .register "M_D5" (fun _ => .ok none) none (.list []) none,
      .newPlugin services "foo_bar(i:)" .null .null (.list []) none,
      .load host services (some "c.yaml")]
    let r := (withReserved ["md5"]).after requests
    r.keys = ["foo_bar", "blur"] ∧
      (∃ plugin, r.lookup "Foo_Bar" = some plugin ∧
        ∀ more, (r.after more).lookup "FOO_BAR" = some plugin) ∧
      r.register "MD__5" (fun _ => .ok none) none (.list []) none =
        .error (.error (.reservedName "MD__5")) := by
  intro entries catalog host services requests r
  obtain ⟨-, -, -, keys, -, -, kept, refused⟩ := after_withReserved ["md5"] requests
  have made : ((withReserved ["md5"]).registered requests).map (fun plugin => Text.small plugin.name) =
      ["foo_bar", "blur"] := by decide +kernel
  have there : (r.lookup "Foo_Bar").isSome = true := by decide +kernel
  obtain ⟨plugin, found⟩ := Option.isSome_iff_exists.1 there
  refine ⟨keys.trans made, ⟨plugin, found, fun more => ?_⟩, ?_⟩
  · exact kept "Foo_Bar" plugin found more "FOO_BAR" (by decide)
  · apply (refused "MD__5" _ none [] none _).2
    exact .inl ⟨⟨"md5", List.mem_singleton_self _, by decide⟩, rfl⟩

end Registry

end FilterScript
