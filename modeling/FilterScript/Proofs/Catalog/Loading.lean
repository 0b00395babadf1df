import FilterScript.Proofs.Registry.Runs

/-!
# Loading catalogs

A catalog is gone through in the order of its document: category by category, and entry by entry in
each. What stands there is registered, one filter for each entry, until something does not go through;
nothing behind that is looked at.

* **Documents** (`itemsAt_of_documentAt`): what a catalog is loaded from stands in its document, part by
  part. The core catalog is a document as well.
* **One part** (`registerItem_cases`): it makes a filter of its category, or it offends.
* **All parts** (`load_of_filters`): the registry is longer by the filters of the parts in front of the
  first that offends.
-/

namespace FilterScript.Catalog

open Registry (GrowsBy)

/-! ## Documents -/

/-- A part of a catalog: an entry of a category, or a category that is no list of entries. -/
inductive Part where
  /-- An entry, with the category it is listed in. -/
  | entry (category value : Value)
  /-- A category that is no list. -/
  | noList (category : Value)

/-- The parts of one category. -/
def partsOfCategory : Value × Value → List Part
  | (category, .list entries) => entries.map (.entry category)
  | (category, _) => [.noList category]

/-- The parts of a catalog in document order. -/
def partsOf (categories : List (Value × Value)) : List Part :=
  categories.flatMap partsOfCategory

/-- The entries of one category. -/
def entriesOf : Value × Value → List Value
  | (_, .list entries) => entries
  | _ => []

/-- The number of the entries of all categories. -/
def entryCount (categories : List (Value × Value)) : Nat :=
  (categories.flatMap entriesOf).length

/-- What is registered for a part. -/
def Part.item (source : String) : Part → Item
  | .entry category value =>
    (Entry.inCategory source category value).map fun e => (category.shown, e)
  | .noList category => .error (Error.categoryNotList category source).raise

/-- The mapping that an entry is read from. -/
def Entry.toValue (e : Entry) : Value :=
  .map [(.text "signature", .text e.signature), (.text "params", e.params),
    (.text "types", e.types), (.text "requires", e.requires)]

/-- The categories of the core catalog with their entries. -/
def coreCategories : List (Value × Value) :=
  CoreFilters.catalog.map fun (category, entries) =>
    (.text category, .list (entries.map Entry.toValue))

/-- The document of a catalog: the one in a file, or that of the core catalog. -/
def documentAt (host : Host) : Option String → Except Fault Value
  | none => .ok (.map [(.text "filters", .map coreCategories)])
  | some file => host.readValue file

/-- The name of a catalog in messages. There is none about the document of the core catalog. -/
def sourceOf (path : Option String) : String :=
  path.getD ""

section Documents

variable {host : Host} {path : Option String} {source : String}
  {top categories : List (Value × Value)}

/-- The document of a catalog in a file is the one that the file holds. -/
theorem documentAt_some (host : Host) (file : String) :
    documentAt host (some file) = host.readValue file :=
  rfl

/-- What is registered for a category is registered part by part. -/
theorem itemsOfCategory_eq (source : String) (category : Value × Value) :
    itemsOfCategory source category = (partsOfCategory category).map (Part.item source) := by
  obtain ⟨name, entries⟩ := category
  cases entries with
  | list entries => simp only [itemsOfCategory, partsOfCategory, List.map_map]; rfl
  | _ => rfl

/-- What is registered for a catalog is registered part by part. -/
theorem itemsOf_of_filters (filters : Value.field "filters" top = .map categories) :
    itemsOf source (.map top) = .ok ((partsOf categories).map (Part.item source)) := by
  have each : itemsOfCategory source = fun category => (partsOfCategory category).map (Part.item source) :=
    funext (itemsOfCategory_eq source)
  simp only [itemsOf, filters, partsOf, List.map_flatMap, each]

/-- An entry with a signature, and without required files, is read again from its mapping. -/
theorem ofValue_toValue {e : Entry} (named : e.signature ≠ "") (alone : e.requires = .list [])
    (category source : String) : Entry.ofValue e.toValue category source = .ok e := by
  obtain ⟨signature, params, types, requires⟩ := e
  obtain rfl : requires = .list [] := alone
  have present : (signature != "") = true := bne_iff_ne.2 named
  simp [Entry.ofValue, Entry.toValue, Entry.ofFields, Entry.isKey, Entry.keys, Value.field,
    Value.field?, Value.isText, Value.isTruthy, present, Entry.requiresOf]

/-- The entries of the core catalog all have a signature. -/
theorem signature_ne_of_core :
    ∀ category ∈ CoreFilters.catalog, ∀ e ∈ category.2, e.signature ≠ "" := by
  decide +kernel

/-- The entries of the core catalog require no files. -/
theorem requires_of_core :
    ∀ category ∈ CoreFilters.catalog,
      category.2.map Entry.requires = List.replicate category.2.length (.list []) := by
  simp only [CoreFilters.catalog, List.forall_mem_cons]
  exact ⟨rfl, rfl, rfl, rfl, rfl, rfl, rfl, rfl, rfl, rfl, nofun⟩

/-- The core catalog is loaded from what stands in its document. -/
theorem coreItems_eq (source : String) :
    coreItems = (partsOf coreCategories).map (Part.item source) := by
  rw [coreItems, partsOf, coreCategories, List.flatMap_map, List.map_flatMap]
  refine List.flatMap_congr fun category inside => ?_
  rw [partsOfCategory, List.map_map, List.map_map]
  refine List.map_congr_left fun e among => ?_
  have alone : e.requires = .list [] := by
    have all := requires_of_core category inside
    exact (List.eq_replicate_iff.1 all).2 e.requires (List.mem_map_of_mem among)
  have read := ofValue_toValue (signature_ne_of_core category inside e among) alone category.1 source
  have shown : Entry.inCategory source (.text category.1) e.toValue = .ok e :=
    (if_pos rfl).trans read
  simp only [Function.comp_apply, Part.item, Value.shown, shown]
  rfl

/-- **Documents**: a catalog is loaded from the parts that stand in its document. -/
theorem itemsAt_of_documentAt (read : documentAt host path = .ok (.map top))
    (filters : Value.field "filters" top = .map categories) :
    itemsAt host path = .ok ((partsOf categories).map (Part.item (sourceOf path))) := by
  cases path with
  | none =>
    obtain rfl := Value.map.inj (Except.ok.inj read)
    obtain rfl : coreCategories = categories := Value.map.inj filters
    exact congrArg Except.ok (coreItems_eq _)
  | some file =>
    rw [documentAt_some] at read
    rw [itemsAt]
    unfold readItems
    rw [read]
    dsimp only
    rw [itemsOf_of_filters filters]
    rfl

end Documents

/-! ## One part -/

/-- Whether a filter is the one that an entry stands for: it has the name and the signature that the
entry is compiled to, is called by this signature, requires the files of the entry, and is listed
under the text of its category. -/
def IsFilterOf (services : Fragment.Services) (source : String) (entry : Value × Value)
    (plugin : Plugin) : Prop :=
  ∃ e s files, Entry.inCategory source entry.1 entry.2 = .ok e ∧
    Signature.compile e.signature e.params e.types = .ok s ∧ e.requires.items? = some files ∧
    plugin = ⟨s.name, Registry.boundCode services s, spellings s.name, some s, files,
      some entry.1.shown⟩

/-- Whether a part offends in a registry, and what a catalog fails with there. -/
inductive Part.Offends (source : String) (r : Registry) : Part → Failure → Prop
  /-- A category is no list. -/
  | noList (category : Value) :
      Offends source r (.noList category) (Error.categoryNotList category source).raise
  /-- An entry is not read. -/
  | unread {category value : Value} {failure : Failure}
      (bad : Entry.inCategory source category value = .error failure) :
      Offends source r (.entry category value) failure
  /-- The signature of an entry is not compiled. -/
  | uncompiled {category value : Value} {e : Entry} {f : Fault}
      (read : Entry.inCategory source category value = .ok e)
      (bad : Signature.compile e.signature e.params e.types = .error f) :
      Offends source r (.entry category value) f
  /-- The name of an entry is refused. -/
  | refused {category value : Value} {e : Entry} {s : Signature} {error : Error}
      (read : Entry.inCategory source category value = .ok e)
      (compiled : Signature.compile e.signature e.params e.types = .ok s)
      (bad : r.refusal? s.name = some error) : Offends source r (.entry category value) error
  /-- The required files of an entry cannot be gone through. -/
  | requires {category value : Value} {e : Entry} {s : Signature}
      (read : Entry.inCategory source category value = .ok e)
      (compiled : Signature.compile e.signature e.params e.types = .ok s)
      (accepted : r.refusal? s.name = none) (bad : e.requires.items? = none) :
      Offends source r (.entry category value) Fault.wrongKind

section Parts

variable {services : Fragment.Services} {source : String} {r : Registry}

/-- **One part** makes a filter, whose name is not refused, or it offends. -/
theorem registerItem_cases (services : Fragment.Services) (source : String) (r : Registry)
    (part : Part) :
    (∃ entry plugin, part = .entry entry.1 entry.2 ∧ IsFilterOf services source entry plugin ∧
        r.refusal? plugin.name = none ∧
        registerItem services r (part.item source) = .ok (r.insert plugin)) ∨
      ∃ failure, part.Offends source r failure ∧
        registerItem services r (part.item source) = .error failure := by
  cases part with
  | noList category => exact .inr ⟨_, .noList category, rfl⟩
  | entry category value =>
    rw [Part.item]
    cases read : Entry.inCategory source category value with
    | error failure => exact .inr ⟨failure, .unread read, rfl⟩
    | ok e =>
      have step : registerItem services r ((Except.ok e).map fun e => (category.shown, e)) =
          (e.register services category.shown r).map Prod.fst := rfl
      rw [step, Entry.register, Registry.newPlugin]
      cases compiled : Signature.compile e.signature e.params e.types with
      | error f => exact .inr ⟨f, .uncompiled read compiled, rfl⟩
      | ok s =>
        dsimp only
        cases refused : r.refusal? s.name with
        | some error =>
          refine .inr ⟨error, .refused read compiled refused, ?_⟩
          rw [Registry.register_eq_error_of_refusal refused]
          rfl
        | none =>
          cases items : e.requires.items? with
          | none =>
            refine .inr ⟨_, .requires read compiled refused items, ?_⟩
            simp only [Registry.register, refused, items]
            rfl
          | some files =>
            refine .inl ⟨(category, value), _, rfl, ⟨e, s, files, read, compiled, items, rfl⟩,
              refused, ?_⟩
            rw [Registry.register_eq_ok refused items]
            rfl

/-! ## All parts -/

/-- The parts in front of the first that offends are registered one after the other. -/
theorem exists_registerItems (services : Fragment.Services) (source : String) (parts : List Part)
    (r : Registry) (count : Nat) :
    ∃ front made back, parts = front.map (fun entry => .entry entry.1 entry.2) ++ back ∧
      List.Forall₂ (IsFilterOf services source) front made ∧
      GrowsBy r made (registerItems services (parts.map (Part.item source)) r count).1 ∧
      ((back = [] ∧
          (registerItems services (parts.map (Part.item source)) r count).2 =
            .ok (count + made.length)) ∨
        ∃ part rest failure, back = part :: rest ∧
          part.Offends source (registerItems services (parts.map (Part.item source)) r count).1
            failure ∧
          (registerItems services (parts.map (Part.item source)) r count).2 = .error failure) := by
  induction parts generalizing r count with
  | nil => exact ⟨[], [], [], rfl, .nil, .refl r, .inl ⟨rfl, rfl⟩⟩
  | cons part rest ih =>
    rw [List.map_cons]
    rcases registerItem_cases services source r part with
      ⟨entry, plugin, rfl, made, accepted, registered⟩ | ⟨failure, offends, failed⟩
    · rw [registerItems_cons_of_ok services r count registered]
      obtain ⟨front, more, back, rfl, each, grows, outcome⟩ := ih (r.insert plugin) (count + 1)
      refine ⟨entry :: front, plugin :: more, back, rfl, .cons made each,
        .insert accepted grows, ?_⟩
      rw [List.length_cons, Nat.add_comm more.length, ← Nat.add_assoc]
      exact outcome
    · rw [registerItems_cons_of_error services r count failed]
      exact ⟨[], [], part :: rest, rfl, .nil, .refl r, .inr ⟨part, rest, failure, rfl, offends, rfl⟩⟩

/-- Where no category is missing its list, there is a part for each entry. -/
theorem length_partsOf {categories : List (Value × Value)}
    (lists : ∀ part ∈ partsOf categories, ∃ category value, part = .entry category value) :
    (partsOf categories).length = entryCount categories := by
  induction categories with
  | nil => rfl
  | cons category rest ih =>
    obtain ⟨name, entries⟩ := category
    have whole : partsOf ((name, entries) :: rest) =
        partsOfCategory (name, entries) ++ partsOf rest := rfl
    rw [whole, List.forall_mem_append] at lists
    rw [whole, List.length_append, ih lists.2, entryCount, entryCount, List.flatMap_cons,
      List.length_append]
    congr 1
    cases entries with
    | list entries => exact List.length_map _
    | _ =>
      obtain ⟨_, _, absent⟩ := lists.1 _ (List.mem_singleton_self _)
      cases absent

end Parts

/-- **All parts**: the parts of a catalog are gone through in document order. Each one in front of
the first that offends makes a filter of its category, under a name that is not refused when its
turn comes; these filters stand behind those that were there, in this order, and nothing else
changes. If no part offends, the entries of all categories are counted. Else the catalog fails as
that part does, and nothing behind it is registered. -/
theorem load_of_filters {host : Host} {path : Option String} {top categories : List (Value × Value)}
    (read : documentAt host path = .ok (.map top))
    (filters : Value.field "filters" top = .map categories) (services : Fragment.Services)
    (r : Registry) :
    let loaded := load host services path r
    ∃ front made back,
      partsOf categories = front.map (fun entry => .entry entry.1 entry.2) ++ back ∧
      List.Forall₂ (IsFilterOf services (sourceOf path)) front made ∧
      GrowsBy r made loaded.1 ∧
      loaded.1.plugins = r.plugins ++ made.map (fun plugin => (Text.small plugin.name, plugin)) ∧
      ((back = [] ∧ loaded.2 = .ok (entryCount categories) ∧
          loaded.1.size = r.size + entryCount categories) ∨
        ∃ part rest failure, back = part :: rest ∧
          part.Offends (sourceOf path) loaded.1 failure ∧ loaded.2 = .error failure) := by
  intro loaded
  have run : loaded = registerItems services
      ((partsOf categories).map (Part.item (sourceOf path))) r 0 := by
    have whole := Registry.load_eq host services path r
    rw [itemsAt_of_documentAt read filters] at whole
    exact whole
  obtain ⟨front, made, back, parts, each, grows, outcome⟩ :=
    exists_registerItems services (sourceOf path) (partsOf categories) r 0
  rw [← run] at grows outcome
  refine ⟨front, made, back, parts, each, grows, grows.plugins_eq, ?_⟩
  rcases outcome with ⟨rfl, counted⟩ | stopped
  · have all : (partsOf categories).length = entryCount categories := by
      refine length_partsOf fun part inside => ?_
      rw [parts, List.append_nil] at inside
      obtain ⟨entry, -, rfl⟩ := List.mem_map.1 inside
      exact ⟨entry.1, entry.2, rfl⟩
    have number : made.length = entryCount categories := by
      rw [← all, parts, List.append_nil, List.length_map, each.length_eq]
    refine .inl ⟨rfl, ?_, ?_⟩
    · rw [counted, Nat.zero_add, number]
    · rw [Registry.size, grows.plugins_eq, List.length_append, List.length_map, number, Registry.size]
  · exact .inr stopped

/-- Three categories behind a filter that is registered already. The third entry repeats a name of
the first category in other letters, so it and all behind it are left out. -/
theorem load_of_filters_repeated_name :
    let other : Value := .map [(.text "name", .text "Other"), (.text "params", .text "q:x")]
    let categories : List (Value × Value) := [
      (.text "geometry", .list [.text "Crop(ri:)", other]),
      (.int 7, .list [.text "crop(i:)", .text "Trim(i:)"]), (.text "none", .null)]
    let top : List (Value × Value) := [(.text "filters", .map categories)]
    let host : Host := { files := ⟨[(["c.yaml"], .file (.data (.map top)))]⟩ }
    let services := Fragment.Services.inDirectory "/"
    let r := Registry.empty.after [.register "Foo" (fun _ => .ok none) none (.list []) none]
    documentAt host (some "c.yaml") = .ok (.map top) ∧
      (∃ front made back,
        partsOf categories = front.map (fun entry => .entry entry.1 entry.2) ++ back ∧
        List.Forall₂ (IsFilterOf services "c.yaml") front made ∧
        (load host services (some "c.yaml") r).1.plugins =
          r.plugins ++ made.map (fun plugin => (Text.small plugin.name, plugin)) ∧
        back.length = 3) ∧
      (load host services (some "c.yaml") r).1.keys = ["foo", "crop", "other"] := by
  intro other categories top host services r
  have leads : host.walk? "c.yaml" = some ["c.yaml"] := by decide +kernel
  have read : documentAt host (some "c.yaml") = .ok (.map top) :=
    (documentAt_some host "c.yaml").trans (Host.readValue_of_walk leads rfl)
  have keys : (load host services (some "c.yaml") r).1.keys = ["foo", "crop", "other"] := by
    decide +kernel
  have sizes : r.size = 1 ∧ (load host services (some "c.yaml") r).1.size = 3 := by decide +kernel
  have count : (partsOf categories).length = 5 := by decide +kernel
  obtain ⟨front, made, back, parts, each, -, plugins, -⟩ := load_of_filters read rfl services r
  refine ⟨read, ⟨front, made, back, parts, each, plugins, ?_⟩, keys⟩
  have grown : (load host services (some "c.yaml") r).1.size = r.size + made.length := by
    rw [Registry.size, plugins, List.length_append, List.length_map, Registry.size]
  rw [parts, List.length_append, List.length_map, each.length_eq] at count
  omega

end FilterScript.Catalog
