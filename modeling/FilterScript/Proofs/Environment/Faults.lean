import FilterScript.Proofs.Environment.Filters
import FilterScript.Proofs.Outcome
import FilterScript.Proofs.Signature.RoundTrip

/-!
# Environments that cannot be built

Building an environment ends with an error, which has a message, or with a fault, which has none. What
leads to a fault is a short list: a file that is opened but holds no text or a scalar without a value, a
message that would show a number with too many digits, and an entry of a catalog that is put together in
a way that nothing checks.

* **Files** (`Host.breaks_iff`): what is not reported about a file that is read.
* **Configurations** (`Config.isFault_load_iff`): the file, or the name of an unknown setting.
* **Entries** (`Catalog.isFault_registerItem_iff`): what is not reported about an entry of a catalog.
* **Environments** (`Environment.isFault_build_iff`): the first catalog that does not go through decides.
-/

namespace FilterScript

/-! ## Documents -/

/-- The faults of files that those who read them report, and the one that nothing is said about. -/
def Fault.ofFiles : List Fault :=
  [.unreadable, .malformed, .outside]

/-- What is wrong with the file at a path and is not reported, neither as a file that cannot be read
nor as one that holds no YAML. -/
def Host.Breaks (host : Host) (path : String) : Prop :=
  ∃ f, host.readValue path = .error f ∧ f ∉ Fault.ofFiles

section Documents

variable {host : Host} {path : String}

/-- **Files** that are not reported have the null character in their path, or hold no text, or a
text in which a scalar has no value. -/
theorem Host.breaks_iff :
    host.Breaks path ↔
      path.toList.contains '\x00' = true ∨ host.document? path = some .undecodable ∨
        ∃ s f, host.document? path = some (.text s) ∧ Yaml.read s = .error f ∧ f ∉ Fault.ofFiles := by
  unfold Breaks readValue
  by_cases null : path.toList.contains '\x00' = true
  · rw [if_pos null]
    exact iff_of_true ⟨_, rfl, by decide⟩ (.inl null)
  rw [if_neg null, or_iff_right null]
  cases held : host.document? path with
  | none =>
    refine iff_of_false ?_ ?_
    · rintro ⟨f, failed, odd⟩
      obtain rfl := Except.error.inj failed
      exact odd (by decide)
    · rintro (absent | ⟨s, f, absent, -⟩) <;> cases absent
  | some document =>
    cases document with
    | text s =>
      constructor
      · rintro ⟨f, failed, odd⟩
        exact .inr ⟨s, f, rfl, failed, odd⟩
      · rintro (absent | ⟨_, f, ⟨⟩, failed, odd⟩)
        · cases absent
        · exact ⟨f, failed, odd⟩
    | data v =>
      refine iff_of_false (fun ⟨_, absent, _⟩ => nomatch absent) ?_
      rintro (absent | ⟨s, f, absent, -⟩) <;> cases absent
    | undecodable => exact iff_of_true ⟨_, rfl, by decide⟩ (.inl rfl)
    | locked =>
      refine iff_of_false ?_ ?_
      · rintro ⟨f, failed, odd⟩
        obtain rfl := Except.error.inj failed
        exact odd (by decide)
      · rintro (absent | ⟨s, f, absent, -⟩) <;> cases absent

/-- There is nothing wrong with a file that has a value. -/
theorem Host.not_breaks_of_ok {v : Value} (read : host.readValue path = .ok v) :
    ¬host.Breaks path := by
  rintro ⟨f, failed, -⟩
  cases read.symm.trans failed

/-- How reading a file fails tells whether that is reported. -/
theorem Host.breaks_iff_of_error {f : Fault} (failed : host.readValue path = .error f) :
    host.Breaks path ↔ f ∉ Fault.ofFiles := by
  simp only [Breaks, failed, Except.error.injEq, exists_eq_left']

/-- What is wrong with a configuration and is not reported. -/
inductive Config.Breaks (host : Host) (path : String) : Prop
  /-- Its file is not read. -/
  | file (bad : host.Breaks path)
  /-- A message about its settings would show a number with too many digits. -/
  | shown {entries : List (Value × Value)} (read : host.readValue path = .ok (.map entries))
      (long : Value.areShowable ((problems entries).map Problem.field) = false)

/-- A mapping of settings faults if the settings that are not accepted cannot be named. -/
theorem Config.isFault_ofEntries_iff {entries : List (Value × Value)} :
    IsFault (ofEntries entries) ↔
      Value.areShowable ((problems entries).map Problem.field) = false := by
  by_cases none : problems entries = []
  · rw [ofEntries_eq_ok_iff.2 ⟨none, rfl⟩, none]
    exact iff_of_false (not_isFault_ok _) (nomatch ·)
  · rw [ofEntries_eq_error none, isFault_raise_iff, invalid, Error.shownValues, List.map_map]
    rfl

/-- Reading the configuration in a file faults for what is wrong with it. -/
theorem Config.isFault_readFile_iff : IsFault (readFile host path) ↔ Breaks host path := by
  unfold readFile
  cases read : host.readValue path with
  | error f =>
    have file : Breaks host path ↔ f ∉ Fault.ofFiles := by
      rw [← Host.breaks_iff_of_error read]
      refine ⟨fun breaks => ?_, .file⟩
      cases breaks with
      | file bad => exact bad
      | shown absent _ => cases read.symm.trans absent
    rw [file]
    cases f with
    | unreadable => exact iff_of_false (not_isFault_error _) fun odd => odd (by decide)
    | malformed => exact iff_of_false (not_isFault_error _) fun odd => odd (by decide)
    | outside => exact iff_of_false (fun bad => isFault_fault_iff.1 bad rfl) fun odd => odd (by decide)
    | _ => exact iff_of_true (isFault_fault_iff.2 nofun) (by decide)
  | ok v =>
    have other : (∀ entries, v ≠ .map entries) → ¬Breaks host path := by
      intro noMap breaks
      cases breaks with
      | file bad => exact Host.not_breaks_of_ok read bad
      | shown there _ => exact noMap _ (Except.ok.inj (read.symm.trans there))
    cases v with
    | null => exact iff_of_false (not_isFault_ok _) (other nofun)
    | map entries =>
      refine isFault_ofEntries_iff.trans ⟨.shown read, fun breaks => ?_⟩
      cases breaks with
      | file bad => exact absurd bad (Host.not_breaks_of_ok read)
      | shown there long =>
        obtain rfl := Value.map.inj (Except.ok.inj (read.symm.trans there))
        exact long
    | _ => exact iff_of_false (not_isFault_error _) (other nofun)

/-- **Configurations** fault for what is wrong with the file that is named. -/
theorem Config.isFault_load_iff {named : Option String} :
    IsFault (load host named) ↔
      ∃ path, named.or host.configVariable = some path ∧ path ≠ "" ∧ Breaks host path := by
  unfold load
  cases named.or host.configVariable with
  | none =>
    refine iff_of_false (not_isFault_ok _) ?_
    rintro ⟨path, absent, -⟩
    cases absent
  | some path =>
    simp only [Option.some.injEq, exists_eq_left']
    split
    · next empty => exact iff_of_false (not_isFault_ok _) fun h => h.1 empty
    · next full => exact isFault_readFile_iff.trans (and_iff_right full).symm

/-- Whether the catalog in a file is read does not depend on its items. -/
theorem Catalog.isFault_readItems_iff : IsFault (readItems host path) ↔ host.Breaks path := by
  unfold readItems
  cases read : host.readValue path with
  | error f =>
    rw [Host.breaks_iff_of_error read]
    cases f with
    | unreadable => exact iff_of_false (not_isFault_error _) fun odd => odd (by decide)
    | malformed => exact iff_of_false (not_isFault_error _) fun odd => odd (by decide)
    | outside => exact iff_of_false (fun bad => isFault_fault_iff.1 bad rfl) fun odd => odd (by decide)
    | _ => exact iff_of_true (isFault_fault_iff.2 nofun) (by decide)
  | ok v =>
    refine iff_of_false ?_ (Host.not_breaks_of_ok read)
    dsimp only
    cases itemsOf path v with
    | ok items => exact not_isFault_ok items
    | error e => exact not_isFault_error e

end Documents

/-! ## Signatures -/

namespace Signature

/-- Whether a value stands for a list in a signature: there is none, or it can be gone through. -/
def IsList (v : Value) : Prop :=
  v = .null ∨ ∃ items, v.items? = some items

/-- Whether a value stands for a list of tokens: what it is gone through by are texts and ready
parameters. -/
def IsTokenList (v : Value) : Prop :=
  v = .null ∨ ∃ items, v.items? = some items ∧
    ∀ item ∈ items, (∃ p, item = .parameter p) ∨ ∃ s, item = .text s

section Compile

variable {v params types : Value} {name : String}

/-- A text stands for the list of its pieces between commas, and for that of its characters too. -/
theorem isTokenList_text (s : String) : IsTokenList (.text s) := by
  refine .inr ⟨_, rfl, fun item inside => ?_⟩
  obtain ⟨c, -, rfl⟩ := List.mem_map.1 inside
  exact .inr ⟨_, rfl⟩

/-- A list of tokens is a list. -/
theorem IsTokenList.isList (h : IsTokenList v) : IsList v := by
  rcases h with none | ⟨items, through, -⟩
  · exact .inl none
  · exact .inr ⟨items, through⟩

/-- An item is read as a parameter when it is one or is a text. -/
theorem exists_ofItem_eq_ok_iff {item : Value} :
    (∃ p, Parameter.ofItem item = .ok p) ↔ (∃ p, item = .parameter p) ∨ ∃ s, item = .text s := by
  unfold Parameter.ofItem
  split
  · next p => exact iff_of_true ⟨p, rfl⟩ (.inl ⟨p, rfl⟩)
  · next s => exact iff_of_true ⟨_, rfl⟩ (.inr ⟨s, rfl⟩)
  · refine iff_of_false (not_exists_error_eq_ok _) ?_
    rintro (⟨p, absent⟩ | ⟨s, absent⟩) <;> cases absent
  · next notReady notText _ =>
    refine iff_of_false (not_exists_error_eq_ok _) ?_
    rintro (⟨p, rfl⟩ | ⟨s, rfl⟩)
    · exact notReady p rfl
    · exact notText s rfl

/-- What is read of a value that lists items and is no text. -/
theorem splitList_of_items? {items : List Value} (through : v.items? = some items)
    (other : ∀ s, v ≠ .text s) : splitList v = .ok (items.map trimItem) := by
  cases v with
  | text s => exact absurd rfl (other s)
  | null => cases through
  | _ => simp only [splitList, through]

/-- A value that lists nothing is of the wrong kind. -/
theorem splitList_of_items?_eq_none (stuck : v.items? = none) (there : v ≠ .null) :
    splitList v = .error .wrongKind := by
  cases v with
  | text s => cases stuck
  | null => exact absurd rfl there
  | _ => simp only [splitList, stuck]

/-- The values that are read as a list. -/
theorem exists_splitList_eq_ok_iff : (∃ items, splitList v = .ok items) ↔ IsList v := by
  by_cases none : v = .null
  · exact iff_of_true ⟨[], none ▸ rfl⟩ (.inl none)
  by_cases text : ∃ s, v = .text s
  · obtain ⟨s, rfl⟩ := text
    exact iff_of_true ⟨_, rfl⟩ (isTokenList_text s).isList
  cases through : v.items? with
  | none =>
    rw [splitList_of_items?_eq_none through none]
    refine iff_of_false (not_exists_error_eq_ok _) ?_
    rintro (absent | ⟨items, there⟩)
    · exact none absent
    · cases through.symm.trans there
  | some items =>
    rw [splitList_of_items? through (not_exists.1 text)]
    exact iff_of_true ⟨_, rfl⟩ (.inr ⟨items, through⟩)

/-- Trimming neither makes nor spoils a token. -/
theorem isToken_trimItem_iff {item : Value} :
    ((∃ p, trimItem item = .parameter p) ∨ ∃ s, trimItem item = .text s) ↔
      (∃ p, item = .parameter p) ∨ ∃ s, item = .text s := by
  cases item <;> simp [trimItem]

/-- A value is read as a list of tokens if it stands for one. -/
theorem exists_mapM_splitList_iff :
    (∃ items, splitList v = .ok items ∧ ∃ ps, items.mapM Parameter.ofItem = .ok ps) ↔
      IsTokenList v := by
  -- a text is split at its commas, and everything else by its items
  by_cases none : v = .null
  · subst none
    exact iff_of_true ⟨[], rfl, [], rfl⟩ (.inl rfl)
  by_cases text : ∃ s, v = .text s
  · obtain ⟨s, rfl⟩ := text
    exact iff_of_true ⟨_, rfl, _, mapM_ofItem_text (splitCommas s)⟩ (isTokenList_text s)
  cases through : v.items? with
  | none =>
    rw [splitList_of_items?_eq_none through none]
    refine iff_of_false (fun ⟨_, absent, _⟩ => nomatch absent) ?_
    rintro (absent | ⟨items, there, -⟩)
    · exact none absent
    · cases through.symm.trans there
  | some items =>
    rw [splitList_of_items? through (not_exists.1 text), IsTokenList, or_iff_right none]
    simp only [Except.ok.injEq, exists_eq_left', exists_mapM_eq_ok_iff, exists_ofItem_eq_ok_iff,
      List.forall_mem_map, isToken_trimItem_iff, through, Option.some.injEq]

/-- The parts that a signature is made from. -/
theorem exists_ofLists_eq_ok_iff :
    (∃ s, ofLists name params types = .ok s) ↔ IsTokenList params ∧ IsList types := by
  rw [← exists_mapM_splitList_iff, ← exists_splitList_eq_ok_iff]
  unfold ofLists
  cases splitList params with
  | error f =>
    refine iff_of_false (not_exists_error_eq_ok _) ?_
    rintro ⟨⟨_, absent, -⟩, -⟩
    cases absent
  | ok items =>
    simp only [Except.ok.injEq, exists_eq_left', bind, Except.bind]
    cases items.mapM Parameter.ofItem with
    | error f => exact iff_of_false (not_exists_error_eq_ok _) fun h => nomatch h.1
    | ok ps =>
      cases splitList types with
      | error f => exact iff_of_false (not_exists_error_eq_ok _) fun h => nomatch h.2
      | ok list => exact iff_of_true ⟨_, rfl⟩ ⟨⟨ps, rfl⟩, list, rfl⟩

/-- A signature has the name it was made with. -/
theorem name_of_ofLists {s : Signature} (h : ofLists name params types = .ok s) : s.name = name := by
  simp only [ofLists, bind, Except.bind] at h
  split at h
  · cases h
  · split at h
    · cases h
    · split at h
      · cases h
      · obtain rfl := Except.ok.inj h
        rfl

/-- **Signatures** are compiled from a list of tokens and a list of types. -/
theorem exists_compile_eq_ok_iff :
    (∃ s, compile name params types = .ok s) ↔
      IsTokenList (listsOf (splitCombined name).2 params types).1 ∧
        IsList (listsOf (splitCombined name).2 params types).2 :=
  exists_ofLists_eq_ok_iff

/-- What is no list is of the wrong kind. -/
theorem eq_wrongKind_of_splitList_eq_error {f : Fault} (h : splitList v = .error f) :
    f = .wrongKind := by
  by_cases text : ∃ s, v = .text s
  · obtain ⟨s, rfl⟩ := text
    cases h
  cases through : v.items? with
  | some items =>
    rw [splitList_of_items? through (not_exists.1 text)] at h
    cases h
  | none =>
    by_cases none : v = .null
    · subst none
      cases h
    · rw [splitList_of_items?_eq_none through none] at h
      exact (Except.error.inj h).symm

/-- What is no token is of the wrong kind, or is none that is ready. -/
theorem eq_or_eq_of_ofItem_eq_error {f : Fault} (h : Parameter.ofItem v = .error f) :
    f = .wrongKind ∨ f = .notAToken := by
  unfold Parameter.ofItem at h
  split at h
  · cases h
  · cases h
  · exact .inl (Except.error.inj h).symm
  · exact .inr (Except.error.inj h).symm

/-- A signature is not compiled for a list that is none, or for a token that is none. -/
theorem eq_or_eq_of_compile_eq_error {f : Fault} (h : compile name params types = .error f) :
    f = .wrongKind ∨ f = .notAToken := by
  have lists : ∀ name params types, ofLists name params types = .error f →
      f = .wrongKind ∨ f = .notAToken := by
    intro name params types failed
    simp only [ofLists, bind, Except.bind] at failed
    split at failed
    · next other bad =>
      obtain rfl := Except.error.inj failed
      exact .inl (eq_wrongKind_of_splitList_eq_error bad)
    · split at failed
      · next other bad =>
        obtain rfl := Except.error.inj failed
        obtain ⟨item, -, refused⟩ := exists_eq_error_of_mapM_eq_error bad
        exact eq_or_eq_of_ofItem_eq_error refused
      · split at failed
        · next other bad =>
          obtain rfl := Except.error.inj failed
          exact .inl (eq_wrongKind_of_splitList_eq_error bad)
        · cases failed
  exact lists _ _ _ h

end Compile

end Signature

/-! ## Entries of catalogs -/

namespace Catalog

namespace Entry

/-- The lists of tokens and of types that the filter of an entry has. -/
def lists (e : Entry) : Value × Value :=
  Signature.listsOf (Signature.splitCombined e.signature).2 e.params e.types

/-- What is wrong with an entry and is not reported. -/
inductive Breaks (r : Registry) (e : Entry) : Prop
  /-- The tokens are no list of texts. -/
  | tokens (bad : ¬Signature.IsTokenList e.lists.1)
  /-- The types are no list. -/
  | types (bad : ¬Signature.IsList e.lists.2)
  /-- The required files are no list, and the name is not refused. -/
  | requires (accepted : r.refusal? (Signature.splitCombined e.signature).1 = none)
      (bad : e.requires.items? = none)

end Entry

section Entries

variable {services : Fragment.Services} {r : Registry} {e : Entry} {category : String}

/-- Registering under a name that is not refused faults for required files that are no list. -/
theorem isFault_register_iff {name : String} {code : List Value → Outcome (Option String)}
    {signature : Option Signature} {requires : Value} {category : Option String} :
    IsFault (r.register name code signature requires category) ↔
      r.refusal? name = none ∧ requires.items? = none := by
  unfold Registry.register
  cases r.refusal? name with
  | some e => exact iff_of_false (not_isFault_error e) fun h => nomatch h.1
  | none =>
    cases requires.items? with
    | none => exact iff_of_true (isFault_fault_iff.2 nofun) ⟨rfl, rfl⟩
    | some files => exact iff_of_false (not_isFault_ok _) fun h => nomatch h.2

/-- **Entries** fault for lists that are none. -/
theorem isFault_entry_iff : IsFault (e.register services category r) ↔ e.Breaks r := by
  unfold Entry.register Registry.newPlugin
  cases compiled : Signature.compile e.signature e.params e.types with
  | error f =>
    have said : f ≠ .outside := by
      rcases Signature.eq_or_eq_of_compile_eq_error compiled with rfl | rfl <;> nofun
    refine iff_of_true (isFault_fault_iff.2 said) ?_
    have bad : ¬∃ s, Signature.compile e.signature e.params e.types = .ok s := by
      rintro ⟨s, absent⟩
      cases compiled.symm.trans absent
    rw [Signature.exists_compile_eq_ok_iff, not_and_or] at bad
    rcases bad with bad | bad
    · exact .tokens bad
    · exact .types bad
  | ok s =>
    obtain ⟨tokens, types⟩ := Signature.exists_compile_eq_ok_iff.1 ⟨s, compiled⟩
    have name : s.name = (Signature.splitCombined e.signature).1 := Signature.name_of_ofLists compiled
    dsimp only
    rw [isFault_register_iff, name]
    constructor
    · rintro ⟨accepted, bad⟩
      exact .requires accepted bad
    · intro breaks
      cases breaks with
      | tokens bad => exact absurd tokens bad
      | types bad => exact absurd types bad
      | requires accepted bad => exact ⟨accepted, bad⟩

/-- What is wrong with an item of a catalog and is not reported. -/
inductive Item.Breaks (r : Registry) : Item → Prop
  /-- No entry is read, and no error tells why. -/
  | unread (f : Fault) (said : f ≠ .outside) : Breaks r (.error (.fault f))
  /-- It is an entry with something wrong. -/
  | entry {category : String} {e : Entry} (bad : e.Breaks r) : Breaks r (.ok (category, e))

/-- **Items** fault for what is wrong with them. -/
theorem isFault_registerItem_iff {item : Item} :
    IsFault (registerItem services r item) ↔ item.Breaks r := by
  cases item with
  | error e =>
    refine isFault_error_iff.trans ?_
    constructor
    · rintro ⟨f, said, rfl⟩
      exact .unread f said
    · intro breaks
      cases breaks with
      | unread f said => exact ⟨f, said, rfl⟩
  | ok entry =>
    obtain ⟨category, e⟩ := entry
    rw [registerItem, isFault_map_iff, isFault_entry_iff]
    constructor
    · exact .entry
    · intro breaks
      cases breaks with
      | entry bad => exact bad

end Entries

/-! ## Catalogs -/

section Catalogs

variable {host : Host} {services : Fragment.Services} {r : Registry} {path : Option String}

/-- What is wrong with a catalog and is not reported. -/
inductive Breaks (host : Host) (services : Fragment.Services) (r : Registry) (path : Option String) :
    Prop
  /-- Its file is not read. -/
  | file {file : String} (named : path = some file) (bad : host.Breaks file)
  /-- Its first item that is not registered has something wrong. -/
  | item {front back : List Item} {item : Item} {t : Registry}
      (read : itemsAt host path = .ok (front ++ item :: back))
      (before : front.foldlM (registerItem services) r = .ok t) (bad : item.Breaks t)

/-- Registering items as a fold that stops at the first failure. -/
theorem leftBy_registerItems (items : List Item) (count : Nat) :
    leftBy (registerItems services items r count) = items.foldlM (registerItem services) r := by
  induction items generalizing r count with
  | nil => rfl
  | cons item rest ih =>
    rw [List.foldlM_cons]
    cases registered : registerItem services r item with
    | ok next =>
      rw [registerItems_cons_of_ok services r count registered]
      exact ih (count + 1)
    | error e =>
      rw [registerItems_cons_of_error services r count registered]
      rfl

/-- When the reading of a catalog ends in a fault: the host does at its file. -/
theorem isFault_itemsAt_iff :
    IsFault (itemsAt host path) ↔ ∃ file, path = some file ∧ host.Breaks file := by
  cases path with
  | none => exact iff_of_false (not_isFault_ok _) fun ⟨_, absent, _⟩ => nomatch absent
  | some file =>
    rw [itemsAt, isFault_readItems_iff]
    simp only [Option.some.injEq, exists_eq_left']

/-- **Catalogs** fault if their file is not read, or where the first item does that is not
registered. -/
theorem isFault_load_iff :
    IsFault (load host services path r).2 ↔ Breaks host services r path := by
  have unread := @isFault_itemsAt_iff host path
  rw [Registry.load_eq]
  cases read : itemsAt host path with
  | error e =>
    rw [read] at unread
    refine (isFault_error_iff.trans isFault_error_iff.symm).trans (unread.trans ?_)
    constructor
    · rintro ⟨file, named, bad⟩
      exact .file named bad
    · intro breaks
      cases breaks with
      | file named bad => exact ⟨_, named, bad⟩
      | item absent _ _ => cases read.symm.trans absent
  | ok items =>
    rw [read] at unread
    dsimp only
    rw [← isFault_leftBy_iff, leftBy_registerItems, isFault_foldlM_iff]
    constructor
    · rintro ⟨front, item, back, t, rfl, before, bad⟩
      exact .item read before (isFault_registerItem_iff.1 bad)
    · intro breaks
      cases breaks with
      | file named bad => exact absurd (unread.2 ⟨_, named, bad⟩) (not_isFault_ok items)
      | item there before bad =>
        obtain rfl := Except.ok.inj (read.symm.trans there)
        exact ⟨_, _, _, _, rfl, before, isFault_registerItem_iff.2 bad⟩

end Catalogs

end Catalog

/-! ## Environments -/

namespace Environment

variable {host : Host}

/-- Loading catalogs is done in a row. -/
theorem loadCatalogs_eq_foldlM (host : Host) (services : Fragment.Services) (debug : Bool)
    (paths : List (Option String)) (r : Registry) :
    loadCatalogs host services debug paths r =
      paths.foldlM (fun r path => loadCatalog host services debug path r) r := by
  induction paths generalizing r with
  | nil => rfl
  | cons path rest ih =>
    rw [loadCatalogs, List.foldlM_cons]
    cases loadCatalog host services debug path r with
    | ok next => exact ih next
    | error e => rfl

/-- A catalog of an environment faults as it does by itself. Nothing is said if its filters are
written down in a log and some file that they require is no text. -/
theorem isFault_loadCatalog_iff {services : Fragment.Services} {debug : Bool} {path : Option String}
    {r : Registry} :
    IsFault (loadCatalog host services debug path r) ↔
      (debug = true → (Catalog.load host services path r).1.requiresTexts = true) ∧
        Catalog.Breaks host services r path := by
  rw [← Catalog.isFault_load_iff]
  unfold loadCatalog
  cases Catalog.load host services path r with
  | mk left outcome =>
    dsimp only
    split
    · next untold =>
      rw [Bool.and_eq_true, Bool.not_eq_true'] at untold
      refine iff_of_false (fun bad => isFault_fault_iff.1 bad rfl) fun h => ?_
      exact Bool.false_ne_true (untold.2.symm.trans (h.1 untold.1))
    · next told =>
      rw [isFault_map_iff, iff_and_self]
      intro _ debugs
      by_contra other
      exact told (by simp [debugs, other])

/-- Files of directories are referenced, or there is an error. -/
theorem not_isFault_autoloadAll (directories : List String) (refs : References) :
    ¬IsFault (autoloadAll host directories refs) := by
  induction directories generalizing refs with
  | nil => exact not_isFault_ok refs
  | cons directory rest ih =>
    rw [autoloadAll_cons]
    cases References.autoload host directory refs with
    | mk next outcome =>
      cases outcome with
      | ok done => exact ih next
      | error e => exact not_isFault_error e

/-- Catalogs in a row fault where the first does that is not loaded. -/
theorem isFault_loadCatalogs_iff {services : Fragment.Services} {debug : Bool}
    {paths : List (Option String)} {r : Registry} :
    IsFault (loadCatalogs host services debug paths r) ↔
      ∃ front path back t, paths = front ++ path :: back ∧
        loadCatalogs host services debug front r = .ok t ∧
        (debug = true → (Catalog.load host services path t).1.requiresTexts = true) ∧
        Catalog.Breaks host services t path := by
  rw [loadCatalogs_eq_foldlM, isFault_foldlM_iff]
  simp only [← loadCatalogs_eq_foldlM, isFault_loadCatalog_iff]

/-- What is wrong with the catalogs of a configuration and is not reported: the first that is not
loaded faults, and the files that filters require are told, should a log ask for them. -/
def Breaks (host : Host) (config : Config) : Prop :=
  ∃ front path back r, catalogsOf config = front ++ path :: back ∧
    loadCatalogs host (.inDirectory host.directory) (config.logLevel == "DEBUG") front .empty = .ok r ∧
    ((config.logLevel == "DEBUG") = true →
      (Catalog.load host (.inDirectory host.directory) path r).1.requiresTexts = true) ∧
    Catalog.Breaks host (.inDirectory host.directory) r path

/-- **Environments** fault where the first catalog does that is not loaded. -/
theorem isFault_build_iff {config : Config} : IsFault (build host config) ↔ Breaks host config := by
  unfold build
  dsimp only
  rw [isFault_bind_iff, ← catalogsOf, isFault_loadCatalogs_iff]
  refine or_iff_left ?_
  rintro ⟨registry, -, bad⟩
  rcases isFault_bind_iff.1 bad with bad | ⟨refs, -, bad⟩
  · exact not_isFault_autoloadAll config.autoloadDirs [] bad
  · exact not_isFault_ok _ bad

end Environment

end FilterScript
