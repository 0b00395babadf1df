import FilterScript.Proofs.Catalog.Loading
import FilterScript.Proofs.Environment.Faults

/-!
# What catalogs fail with

A catalog that can be read is loaded, or it fails at the first of its parts that does not go through.
Most of what may be wrong there is reported: as an error about the catalog, or as one of the registry.
What is not reported is a short list, and ends in a fault.

* **Unknown keys** (`Entry.exists_sortKeys_eq_error_iff`): they are listed in order, and some keys have
  none.
* **Entries** (`Entry.isFault_inCategory_iff`, `Entry.inCategory_cases`): which entries are not read and
  not reported.
* **Catalogs** (`load_outcome`): what a catalog fails with, and when that is a fault.
* **Numbers for lists** (`load_params_number`): an entry with a number for its parameters is not reported.
-/

namespace FilterScript

/-- Whether an error is one that the loading of a readable catalog reports. -/
inductive Error.IsOfCatalog (source : String) : Error → Prop
  /-- There is no mapping of categories. -/
  | noFilters : IsOfCatalog source (.noFilters source)
  /-- A category is no list. -/
  | categoryNotList (category : Value) : IsOfCatalog source (.categoryNotList category source)
  /-- An entry is neither a text nor a mapping. -/
  | badEntry (entry : Value) (category : String) : IsOfCatalog source (.badEntry entry category source)
  /-- An entry has keys that entries do not have. -/
  | unknownKeys (keys : List Value) (entry : Value) (category : String) :
      IsOfCatalog source (.unknownKeys keys entry category source)
  /-- An entry has no name. -/
  | namelessEntry (entry : Value) (category : String) :
      IsOfCatalog source (.namelessEntry entry category source)
  /-- The registry has a filter of this name. -/
  | alreadyRegistered (name : String) : IsOfCatalog source (.alreadyRegistered name)
  /-- The name belongs to scripts themselves. -/
  | reservedName (name : String) : IsOfCatalog source (.reservedName name)

namespace Catalog

/-! ## Unknown keys -/

namespace Entry

/-- The keys of a mapping that entries do not have. -/
def unknownKeys (fields : List (Value × Value)) : List Value :=
  (fields.map Prod.fst).filter fun key => !isKey key

/-- Whether keys have an order: there is one at most, or all are compared as the same thing. -/
def HaveOrder (keys : List Value) : Prop :=
  keys.length ≤ 1 ∨ ∃ scale, ∀ key ∈ keys, scale? key = some scale

/-- **Unknown keys** cannot be listed if they have no order. -/
theorem exists_sortKeys_eq_error_iff {keys : List Value} :
    (∃ f, sortKeys keys = .error f) ↔ ¬HaveOrder keys := by
  unfold sortKeys HaveOrder
  split
  · next first second rest =>
    have several : ¬(first :: second :: rest).length ≤ 1 := by simp
    rw [or_iff_right several]
    cases compared : scale? first with
    | none =>
      refine iff_of_true ⟨_, rfl⟩ ?_
      rintro ⟨scale, all⟩
      cases compared.symm.trans (all first List.mem_cons_self)
    | some scale =>
      dsimp only
      split
      · next same =>
        rw [List.all_eq_true] at same
        refine iff_of_false (not_exists_ok_eq_error _) fun unordered => unordered ⟨scale, ?_⟩
        rw [List.forall_mem_cons]
        exact ⟨compared, fun key inside => eq_of_beq (same key inside)⟩
      · next differ =>
        refine iff_of_true ⟨_, rfl⟩ ?_
        rintro ⟨other, all⟩
        obtain rfl := Option.some.inj (compared.symm.trans (all first List.mem_cons_self))
        refine differ (List.all_eq_true.2 fun key inside => ?_)
        rw [all key (List.mem_cons_of_mem first inside), beq_self_eq_true]
  · next few =>
    refine iff_of_false (not_exists_ok_eq_error _) fun unordered => unordered (.inl ?_)
    match keys, few with
    | [], _ => exact Nat.zero_le 1
    | [key], _ => exact Nat.le_refl 1
    | first :: second :: rest, few => exact absurd rfl (few first second rest)

/-- Keys without an order are of the wrong kind. -/
theorem eq_wrongKind_of_sortKeys_eq_error {keys : List Value} {f : Fault}
    (h : sortKeys keys = .error f) : f = .wrongKind := by
  unfold sortKeys at h
  split at h
  · split at h
    · split at h
      · cases h
      · exact (Except.error.inj h).symm
    · exact (Except.error.inj h).symm
  · cases h

/-- Keys in order are the same keys. -/
theorem perm_of_sortKeys_eq_ok {keys sorted : List Value} (h : sortKeys keys = .ok sorted) :
    sorted.Perm keys := by
  unfold sortKeys at h
  split at h
  · split at h
    · split at h
      · obtain rfl := Except.ok.inj h
        exact List.mergeSort_perm _ _
      · cases h
    · cases h
  · obtain rfl := Except.ok.inj h
    exact .refl _

/-- Keys in order are shown if the keys are. -/
theorem areShowable_of_sortKeys_eq_ok {keys sorted : List Value} (h : sortKeys keys = .ok sorted) :
    Value.areShowable sorted = Value.areShowable keys := by
  rw [Value.areShowable_eq_all, Value.areShowable_eq_all, (perm_of_sortKeys_eq_ok h).all_eq]

/-! ## Entries -/

/-- What keeps a value from being read as an entry and is not reported. -/
inductive Unreported : Value → Prop
  /-- It is no text and no mapping, and no message can show it. -/
  | kind {value : Value} (noText : ∀ s, value ≠ .text s) (noMap : ∀ fields, value ≠ .map fields)
      (long : value.isShowable = false) : Unreported value
  /-- It is a mapping with unknown keys, and they have no order. -/
  | unordered {fields : List (Value × Value)} (unordered : ¬HaveOrder (unknownKeys fields)) :
      Unreported (.map fields)
  /-- It is a mapping with unknown keys, and no message can show them. -/
  | keys {fields : List (Value × Value)} (long : Value.areShowable (unknownKeys fields) = false) :
      Unreported (.map fields)

section Read

variable {value : Value} {category source : String}

/-- A mapping faults for unknown keys that cannot be listed. -/
theorem isFault_ofFields_iff {fields : List (Value × Value)} :
    IsFault (ofFields fields category source) ↔
      ¬HaveOrder (unknownKeys fields) ∨ Value.areShowable (unknownKeys fields) = false := by
  rw [← exists_sortKeys_eq_error_iff]
  unfold ofFields
  rw [← unknownKeys]
  dsimp only
  split
  · cases sorted : sortKeys (unknownKeys fields) with
    | error f =>
      obtain rfl := eq_wrongKind_of_sortKeys_eq_error sorted
      exact iff_of_true (isFault_fault_iff.2 nofun) (.inl ⟨_, rfl⟩)
    | ok keys =>
      rw [or_iff_right (not_exists_ok_eq_error _), ← areShowable_of_sortKeys_eq_ok sorted]
      exact isFault_raise_iff
  · next known =>
    rw [Bool.not_eq_true, Bool.not_eq_false', List.isEmpty_iff] at known
    rw [known]
    refine iff_of_false ?_ ?_
    · split
      · exact not_isFault_ok _
      · exact not_isFault_error _
    · rintro (⟨f, absent⟩ | absent) <;> cases absent

/-- A value faults as an entry for what is not reported about it. -/
theorem isFault_ofValue_iff : IsFault (ofValue value category source) ↔ Unreported value := by
  have other : (∀ s, value ≠ .text s) → (∀ fields, value ≠ .map fields) →
      (Unreported value ↔ Value.areShowable [value] = false) := by
    intro noText noMap
    rw [Value.areShowable, Value.areShowable, Bool.and_true]
    constructor
    · intro breaks
      cases breaks with
      | kind _ _ long => exact long
      | unordered => exact absurd rfl (noMap _)
      | keys => exact absurd rfl (noMap _)
    · exact .kind noText noMap
  cases value with
  | text s =>
    refine iff_of_false (not_isFault_ok _) fun breaks => ?_
    cases breaks with
    | kind noText => exact noText s rfl
  | map fields =>
    rw [ofValue, isFault_ofFields_iff]
    constructor
    · rintro (unordered | long)
      · exact .unordered unordered
      · exact .keys long
    · intro breaks
      cases breaks with
      | kind _ noMap => exact absurd rfl (noMap fields)
      | unordered unordered => exact .inl unordered
      | keys long => exact .inr long
  | _ =>
    refine isFault_raise_iff.trans (other ?_ ?_).symm
    · rintro s ⟨⟩
    · rintro fields ⟨⟩

/-- **Entries** fault for what is not reported about them, or for the name of their category. -/
theorem isFault_inCategory_iff {name : Value} :
    IsFault (inCategory source name value) ↔ name.isShowable = false ∨ Unreported value := by
  unfold inCategory
  split
  · next shown =>
    rw [isFault_ofValue_iff, or_iff_right]
    exact fun long => Bool.false_ne_true (long.symm.trans shown)
  · next unshown =>
    exact iff_of_true (isFault_fault_iff.2 nofun) (.inl (Bool.eq_false_iff.2 unshown))

/-- **Entries** that are not read are reported, or else fail with one of two faults. -/
theorem inCategory_cases (source : String) (name value : Value) :
    (∃ e, inCategory source name value = .ok e) ∨
      (∃ error : Error, error.IsOfCatalog source ∧ inCategory source name value = .error error) ∨
      inCategory source name value = .error Fault.wrongKind ∨
      inCategory source name value = .error Fault.tooManyDigits := by
  unfold inCategory
  split
  · cases value with
    | text s => exact .inl ⟨_, rfl⟩
    | map fields =>
      rw [ofValue]
      unfold ofFields
      rw [← unknownKeys]
      dsimp only
      split
      · cases sorted : sortKeys (unknownKeys fields) with
        | ok keys =>
          rcases (Error.unknownKeys keys (.map fields) name.shown source).raise_cases with same | long
          · exact .inr (.inl ⟨_, .unknownKeys keys _ _, congrArg Except.error same⟩)
          · exact .inr (.inr (.inr (congrArg Except.error long)))
        | error f =>
          obtain rfl := eq_wrongKind_of_sortKeys_eq_error sorted
          exact .inr (.inr (.inl rfl))
      · split
        · exact .inl ⟨_, rfl⟩
        · exact .inr (.inl ⟨_, .namelessEntry _ _, rfl⟩)
    | _ =>
      rcases (Error.badEntry _ name.shown source).raise_cases with same | long
      · exact .inr (.inl ⟨_, .badEntry _ _, congrArg Except.error same⟩)
      · exact .inr (.inr (.inr (congrArg Except.error long)))
  · exact .inr (.inr (.inr rfl))

end Read

end Entry

/-- What is wrong with a part of a catalog and is not reported. -/
inductive Part.Breaks (source : String) (r : Registry) : Part → Prop
  /-- A category is no list, and no message can show its name. -/
  | noList {category : Value} (long : category.isShowable = false) : Breaks source r (.noList category)
  /-- An entry stands in a category whose name cannot be written. -/
  | category {category value : Value} (long : category.isShowable = false) :
      Breaks source r (.entry category value)
  /-- An entry is not read, and that is not reported. -/
  | unread {category value : Value} (bad : Entry.Unreported value) :
      Breaks source r (.entry category value)
  /-- An entry has lists that are none. -/
  | lists {category value : Value} {e : Entry}
      (read : Entry.inCategory source category value = .ok e) (bad : e.Breaks r) :
      Breaks source r (.entry category value)

section Parts

variable {host : Host} {services : Fragment.Services} {source : String} {r : Registry} {part : Part}

/-- An item without an entry breaks if it is a fault. -/
theorem Item.breaks_error_iff {e : Failure} :
    Item.Breaks r (.error e) ↔ IsFault (.error e : Item) := by
  rw [isFault_error_iff]
  constructor
  · intro breaks
    cases breaks with
    | unread f said => exact ⟨f, said, rfl⟩
  · rintro ⟨f, said, rfl⟩
    exact .unread f said

/-- What is not reported about a part is not reported about what is registered for it. -/
theorem Part.breaks_item_iff : (part.item source).Breaks r ↔ part.Breaks source r := by
  cases part with
  | noList category =>
    rw [Part.item, Item.breaks_error_iff, isFault_raise_iff, Error.shownValues, Value.areShowable,
      Value.areShowable, Bool.and_true]
    refine ⟨.noList, fun breaks => ?_⟩
    cases breaks with
    | noList long => exact long
  | entry category value =>
    rw [Part.item]
    have unread := @Entry.isFault_inCategory_iff value source category
    cases read : Entry.inCategory source category value with
    | ok e =>
      rw [read] at unread
      constructor
      · intro breaks
        cases breaks with
        | entry bad => exact .lists read bad
      · intro breaks
        cases breaks with
        | category long => exact absurd (unread.2 (.inl long)) (not_isFault_ok e)
        | unread bad => exact absurd (unread.2 (.inr bad)) (not_isFault_ok e)
        | lists readAgain bad =>
          obtain rfl := Except.ok.inj (read.symm.trans readAgain)
          exact .entry bad
    | error failure =>
      rw [read] at unread
      have item : Item.Breaks r ((Except.error failure).map fun e => (category.shown, e)) ↔
          category.isShowable = false ∨ Entry.Unreported value :=
        Item.breaks_error_iff.trans ((isFault_error_iff.trans isFault_error_iff.symm).trans unread)
      rw [item]
      constructor
      · rintro (long | bad)
        · exact .category long
        · exact .unread bad
      · intro breaks
        cases breaks with
        | category long => exact .inl long
        | unread bad => exact .inr bad
        | lists readAgain bad => cases read.symm.trans readAgain

/-- A part that offends is reported, or else fails with one of three faults. -/
theorem Part.Offends.cases {failure : Failure} (h : part.Offends source r failure) :
    (∃ error : Error, error.IsOfCatalog source ∧ failure = error) ∨
      failure = Fault.wrongKind ∨ failure = Fault.tooManyDigits ∨ failure = Fault.notAToken := by
  cases h with
  | noList category =>
    rcases (Error.categoryNotList category source).raise_cases with same | long
    · exact .inl ⟨_, .categoryNotList category, same⟩
    · exact .inr (.inr (.inl long))
  | @unread category value _ bad =>
    rcases Entry.inCategory_cases source category value with
      ⟨e, read⟩ | ⟨error, known, failed⟩ | failed | failed
    · cases bad.symm.trans read
    · exact .inl ⟨error, known, Except.error.inj (bad.symm.trans failed)⟩
    · exact .inr (.inl (Except.error.inj (bad.symm.trans failed)))
    · exact .inr (.inr (.inl (Except.error.inj (bad.symm.trans failed))))
  | uncompiled read bad =>
    rcases Signature.eq_or_eq_of_compile_eq_error bad with rfl | rfl
    · exact .inr (.inl rfl)
    · exact .inr (.inr (.inr rfl))
  | @refused _ _ _ s error _ _ bad =>
    refine .inl ⟨error, ?_, rfl⟩
    unfold Registry.refusal? at bad
    split at bad
    · obtain rfl := Option.some.inj bad
      exact .reservedName s.name
    · split at bad
      · obtain rfl := Option.some.inj bad
        exact .alreadyRegistered s.name
      · cases bad
  | requires => exact .inr (.inl rfl)

/-! ## Catalogs -/

/-- A document without a mapping of filters is refused as such. -/
theorem itemsOf_of_no_filters {v : Value}
    (none : ¬∃ top categories, v = .map top ∧ Value.field "filters" top = .map categories) :
    itemsOf source v = .error (.noFilters source) := by
  unfold itemsOf
  split
  · next top =>
    split
    · next categories filters => exact absurd ⟨top, categories, rfl, filters⟩ none
    · rfl
  · rfl

/-- A readable catalog is loaded from the parts in its categories. Without a mapping of categories
there is nothing to load. -/
theorem itemsAt_of_readValue {file : String} {v : Value} (read : host.readValue file = .ok v) :
    (∃ top categories, v = .map top ∧ Value.field "filters" top = .map categories ∧
        itemsAt host (some file) = .ok ((partsOf categories).map (Part.item file))) ∨
      (¬∃ top categories, v = .map top ∧ Value.field "filters" top = .map categories) ∧
        itemsAt host (some file) = .error (Error.noFilters file) := by
  by_cases filters : ∃ top categories, v = .map top ∧ Value.field "filters" top = .map categories
  · obtain ⟨top, categories, rfl, filters⟩ := filters
    exact .inl ⟨top, categories, rfl, filters, itemsAt_of_documentAt read filters⟩
  · refine .inr ⟨filters, ?_⟩
    rw [itemsAt]
    unfold readItems
    rw [read]
    dsimp only
    rw [itemsOf_of_no_filters filters]

end Parts

/-- **Catalogs** that can be read are loaded and counted, or fail with an error about the catalog or
one of the registry, or with one of three faults. It is a fault exactly if the first part that does
not go through is a mapping with unknown keys that have no order, or an entry with a list that is
none (tokens that are no list of texts, types that are no list, or required files that are no list
under a name that is not refused), or if a number with too many digits keeps what is wrong with it,
or the name of its category, from being written. -/
theorem load_outcome {host : Host} {file : String} {v : Value} (read : host.readValue file = .ok v)
    (services : Fragment.Services) (r : Registry) :
    ((∃ count, (load host services (some file) r).2 = .ok count) ∨
        (∃ error : Error, error.IsOfCatalog file ∧
          (load host services (some file) r).2 = .error error) ∨
        (load host services (some file) r).2 = .error Fault.wrongKind ∨
        (load host services (some file) r).2 = .error Fault.tooManyDigits ∨
        (load host services (some file) r).2 = .error Fault.notAToken) ∧
      (IsFault (load host services (some file) r).2 ↔
        ∃ top categories front part back t, v = .map top ∧
          Value.field "filters" top = .map categories ∧
          partsOf categories = front ++ part :: back ∧
          (front.map (Part.item file)).foldlM (registerItem services) r = .ok t ∧
          part.Breaks file t) := by
  rw [isFault_load_iff, Registry.load_eq]
  rcases itemsAt_of_readValue read with ⟨top, categories, rfl, filters, items⟩ | ⟨none, failed⟩
  · rw [items]
    dsimp only
    constructor
    · obtain ⟨front, made, back, -, -, -, ⟨-, counted⟩ | ⟨part, rest, failure, -, offends, stopped⟩⟩ :=
        exists_registerItems services file (partsOf categories) r 0
      · exact .inl ⟨_, counted⟩
      · rw [stopped]
        rcases offends.cases with ⟨error, known, rfl⟩ | rfl | rfl | rfl
        · exact .inr (.inl ⟨error, known, rfl⟩)
        · exact .inr (.inr (.inl rfl))
        · exact .inr (.inr (.inr (.inl rfl)))
        · exact .inr (.inr (.inr (.inr rfl)))
    · constructor
      · intro breaks
        cases breaks with
        | file named bad =>
          obtain rfl := Option.some.inj named
          exact absurd bad (Host.not_breaks_of_ok read)
        | item there before bad =>
          have whole := Except.ok.inj (items.symm.trans there)
          obtain ⟨front, others, parts, rfl, behind⟩ := List.map_eq_append_iff.1 whole
          obtain ⟨part, back, rfl, rfl, rfl⟩ := List.map_eq_cons_iff.1 behind
          exact ⟨top, categories, front, part, back, _, rfl, filters, parts, before,
            Part.breaks_item_iff.1 bad⟩
      · rintro ⟨_, _, front, part, back, t, ⟨⟩, others, parts, before, bad⟩
        obtain rfl := Value.map.inj (filters.symm.trans others)
        have there : itemsAt host (some file) =
            .ok (front.map (Part.item file) ++ part.item file :: back.map (Part.item file)) := by
          rw [items, parts, List.map_append, List.map_cons]
        exact .item there before (Part.breaks_item_iff.2 bad)
  · rw [failed]
    refine ⟨.inr (.inl ⟨_, .noFilters, rfl⟩), iff_of_false ?_ ?_⟩
    · intro breaks
      cases breaks with
      | file named bad =>
        obtain rfl := Option.some.inj named
        exact absurd bad (Host.not_breaks_of_ok read)
      | item there _ _ => cases failed.symm.trans there
    · rintro ⟨top, categories, _, _, _, _, same, filters, -⟩
      exact none ⟨top, categories, same, filters⟩

/-- The unknown keys of an entry, a text and a number, have no order. The entry in front of it is
registered. -/
theorem load_outcome_keys_without_order :
    let good : Value := .map [(.text "name", .text "Foo")]
    let bad : Value := .map [(.text "name", .text "Bar"), (.text "colour", .int 1), (.int 3, .null)]
    let top : List (Value × Value) :=
      [(.text "filters", .map [(.text "denoise", .list [good, bad])])]
    let host : Host := { files := ⟨[(["c.yaml"], .file (.data (.map top)))]⟩ }
    let services := Fragment.Services.inDirectory "/"
    host.readValue "c.yaml" = .ok (.map top) ∧
      IsFault (load host services (some "c.yaml") .empty).2 ∧
      (load host services (some "c.yaml") .empty).1.keys = ["foo"] := by
  intro good bad top host services
  have leads : host.walk? "c.yaml" = some ["c.yaml"] := by decide +kernel
  have read : host.readValue "c.yaml" = .ok (.map top) := Host.readValue_of_walk leads rfl
  have keys : (load host services (some "c.yaml") .empty).1.keys = ["foo"] := by decide +kernel
  obtain ⟨t, registered⟩ : ∃ t, (([.entry (.text "denoise") good] : List Part).map
      (Part.item "c.yaml")).foldlM (registerItem services) Registry.empty = .ok t := ⟨_, rfl⟩
  have unordered : ¬Entry.HaveOrder (Entry.unknownKeys
      [(.text "name", .text "Bar"), (.text "colour", .int 1), (.int 3, .null)]) := by
    rw [← Entry.exists_sortKeys_eq_error_iff]
    exact ⟨.wrongKind, rfl⟩
  exact ⟨read, (load_outcome read services .empty).2.2
    ⟨top, _, [.entry (.text "denoise") good], .entry (.text "denoise") bad, [], t, rfl, rfl, rfl,
      registered, .unread (.unordered unordered)⟩, keys⟩

/-- **Numbers for lists**: an entry whose parameters are a number is not reported. -/
theorem load_params_number :
    let entry : Value := .map [(.text "name", .text "Foo"), (.text "params", .int 5)]
    let top : List (Value × Value) := [(.text "filters", .map [(.text "bad", .list [entry])])]
    let host : Host := { files := ⟨[(["c.yaml"], .file (.data (.map top)))]⟩ }
    let services := Fragment.Services.inDirectory "/"
    host.readValue "/c.yaml" = .ok (.map top) ∧
      (load host services (some "/c.yaml") .empty).2 = .error Fault.wrongKind ∧
      ¬((∃ count, (load host services (some "/c.yaml") .empty).2 = .ok count) ∨
        ∃ error : Error, (load host services (some "/c.yaml") .empty).2 = .error error) := by
  intro entry top host services
  have leads : host.walk? "/c.yaml" = some ["c.yaml"] := by decide +kernel
  have read : host.readValue "/c.yaml" = .ok (.map top) := Host.readValue_of_walk leads rfl
  have failed : (load host services (some "/c.yaml") .empty).2 = .error Fault.wrongKind := by
    have document : documentAt host (some "/c.yaml") = .ok (.map top) :=
      (documentAt_some host "/c.yaml").trans read
    rw [Registry.load_eq, itemsAt_of_documentAt document rfl]
    rfl
  refine ⟨read, failed, ?_⟩
  rw [failed]
  rintro (⟨count, absent⟩ | ⟨error, absent⟩)
  · cases absent
  · cases absent

end Catalog

end FilterScript
