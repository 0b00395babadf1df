import FilterScript.Proofs.CommandLine.Rendering
import FilterScript.Proofs.Repetitions

/-!
# Filters by category

The groups of a registry are made filter by filter. A filter goes to the end of the group of its category,
or into a group of its own behind all others, so the groups are those of the filters up to there.

* **One filter** (`addToGroups_groupsOf`, `flatMap_addToGroups_perm`): what becomes of the groups.
* **All filters** (`categories_eq`): the categories in the order in which they come first, each with its
  filters in their order.
* **Lines** (`flatMap_categoryLines_perm`): what is printed are the headings and the filters.
* **All registries** (`categories_after`): the groups part the filters of a registry, however it came about.
-/

namespace FilterScript

namespace Registry

/-! ## One filter -/

/-- The filters of a category in their order. -/
def ofCategory (category : Option String) (made : List Plugin) : List Plugin :=
  made.filter fun plugin => plugin.category = category

/-- The categories of filters in the order in which they come first, each with its filters. -/
def groupsOf (made : List Plugin) : List (Option String × List Plugin) :=
  (made.map Plugin.category).eraseDups.map fun category => (category, ofCategory category made)

section Groups

variable {plugin : Plugin} {made : List Plugin} {category : Option String}
  {groups : List (Option String × List Plugin)}

/-- A new plugin goes behind the others of its category. -/
theorem ofCategory_concat_self :
    ofCategory plugin.category (made ++ [plugin]) = ofCategory plugin.category made ++ [plugin] := by
  simp [ofCategory]

/-- A new plugin changes no other category. -/
theorem ofCategory_concat_of_ne (other : plugin.category ≠ category) :
    ofCategory category (made ++ [plugin]) = ofCategory category made := by
  simp [ofCategory, other]

/-- The plugins of a category in two lists, one behind the other. -/
theorem ofCategory_append (made more : List Plugin) :
    ofCategory category (made ++ more) = ofCategory category made ++ ofCategory category more :=
  List.filter_append made more

/-- Selecting a category twice is selecting it once. -/
theorem ofCategory_ofCategory_self : ofCategory category (ofCategory category made) = ofCategory category made := by
  simp [ofCategory]

/-- No plugin is in two categories. -/
theorem ofCategory_ofCategory_of_ne {first : Option String} (other : first ≠ category) :
    ofCategory category (ofCategory first made) = [] := by
  rw [ofCategory, List.filter_eq_nil_iff]
  intro plugin inside
  have own := of_decide_eq_true (List.mem_filter.1 inside).2
  simpa [own] using other

/-- A category without plugins is one that no plugin names. -/
theorem ofCategory_eq_nil_iff : ofCategory category made = [] ↔ category ∉ made.map Plugin.category := by
  simp [ofCategory, List.filter_eq_nil_iff]

/-- A filter leaves the groups of other categories as they are. -/
theorem map_ofCategory_concat_of_not_mem {order : List (Option String)} (fresh : plugin.category ∉ order) :
    (order.map fun category => (category, ofCategory category (made ++ [plugin]))) =
      order.map fun category => (category, ofCategory category made) := by
  refine List.map_congr_left fun category inside => ?_
  have different : plugin.category ≠ category := by
    rintro rfl
    exact fresh inside
  rw [ofCategory_concat_of_ne different]

/-- Where a filter belongs to none of the groups, it gets one at the end. -/
theorem addToGroups_of_not_mem (new : plugin.category ∉ groups.map Prod.fst) :
    addToGroups plugin groups = groups ++ [(plugin.category, [plugin])] := by
  induction groups with
  | nil => rfl
  | cons group rest ih =>
    rw [List.map_cons, List.mem_cons, not_or] at new
    rw [addToGroups, if_neg (Ne.symm new.1), ih new.2]
    rfl

/-- Where a filter belongs to one of the groups, it goes to its end, and the others stay. -/
theorem addToGroups_of_mem {order : List (Option String)} (apart : order.Nodup)
    (known : plugin.category ∈ order) :
    addToGroups plugin (order.map fun category => (category, ofCategory category made)) =
      order.map fun category => (category, ofCategory category (made ++ [plugin])) := by
  induction order with
  | nil => cases known
  | cons first rest ih =>
    obtain ⟨fresh, apart⟩ := List.nodup_cons.1 apart
    rw [List.map_cons, List.map_cons, addToGroups]
    by_cases same : first = plugin.category
    · subst same
      rw [if_pos rfl, ofCategory_concat_self, map_ofCategory_concat_of_not_mem fresh]
    · have behind : plugin.category ∈ rest := by
        rcases List.mem_cons.1 known with here | behind
        · exact absurd here.symm same
        · exact behind
      rw [if_neg same, ih apart behind, ofCategory_concat_of_ne (Ne.symm same)]

/-- **One filter** more makes the groups of the filters with it. -/
theorem addToGroups_groupsOf (plugin : Plugin) (made : List Plugin) :
    addToGroups plugin (groupsOf made) = groupsOf (made ++ [plugin]) := by
  have order : ((made ++ [plugin]).map Plugin.category).eraseDups =
      if plugin.category ∈ made.map Plugin.category then (made.map Plugin.category).eraseDups
      else (made.map Plugin.category).eraseDups ++ [plugin.category] := by
    rw [List.map_append, List.map_singleton, eraseDups_concat]
  rw [groupsOf, groupsOf, order]
  split
  · next known => exact addToGroups_of_mem (nodup_eraseDups _) (List.mem_eraseDups.2 known)
  · next new =>
    have fresh : plugin.category ∉ (made.map Plugin.category).eraseDups := fun old =>
      new (List.mem_eraseDups.1 old)
    rw [addToGroups_of_not_mem, List.map_append, List.map_singleton, ofCategory_concat_self,
      ofCategory_eq_nil_iff.2 new, map_ofCategory_concat_of_not_mem fresh, List.nil_append]
    rw [List.map_map]
    exact fun old => fresh (by simpa using old)

/-- **One filter** goes into one group, and all others stay where they are. -/
theorem flatMap_addToGroups_perm (plugin : Plugin) (groups : List (Option String × List Plugin)) :
    ((addToGroups plugin groups).flatMap Prod.snd).Perm (groups.flatMap Prod.snd ++ [plugin]) := by
  induction groups with
  | nil => exact .refl _
  | cons group rest ih =>
    rw [addToGroups]
    split
    · simp only [List.flatMap_cons, List.append_assoc]
      exact (List.perm_append_comm).append_left group.2
    · simp only [List.flatMap_cons, List.append_assoc]
      exact ih.append_left group.2

end Groups

/-! ## All filters -/

section Categories

variable {r : Registry}

/-- The fold over the entries, started at the groups of the plugins `made` before them: the
invariant of the grouping. -/
theorem foldl_addToGroups (entries : List (String × Plugin)) (made : List Plugin) :
    entries.foldl (fun groups entry => addToGroups entry.2 groups) (groupsOf made) =
      groupsOf (made ++ entries.map Prod.snd) := by
  induction entries generalizing made with
  | nil => simp
  | cons entry rest ih =>
    rw [List.foldl_cons, addToGroups_groupsOf, ih, List.map_cons, List.append_assoc]
    rfl

/-- **All filters** make the groups of the filters in their order. -/
theorem categories_eq (r : Registry) : r.categories = groupsOf (r.plugins.map Prod.snd) :=
  foldl_addToGroups r.plugins []

/-- The groups part the filters. -/
theorem flatMap_foldl_perm (entries : List (String × Plugin))
    (groups : List (Option String × List Plugin)) :
    ((entries.foldl (fun groups entry => addToGroups entry.2 groups) groups).flatMap Prod.snd).Perm
      (groups.flatMap Prod.snd ++ entries.map Prod.snd) := by
  induction entries generalizing groups with
  | nil => simp
  | cons entry rest ih =>
    have step := (flatMap_addToGroups_perm entry.2 groups).append_right (rest.map Prod.snd)
    rw [List.append_assoc] at step
    exact (ih _).trans step

/-- The groups together hold each plugin as often as the registry does. -/
theorem flatMap_categories_perm (r : Registry) :
    (r.categories.flatMap Prod.snd).Perm (r.plugins.map Prod.snd) :=
  flatMap_foldl_perm r.plugins []

/-- Behind each other, the groups hold the filters of each category once. -/
theorem ofCategory_flatMap {order : List (Option String)} (apart : order.Nodup) (category : Option String)
    (made : List Plugin) :
    ofCategory category (order.flatMap fun category => ofCategory category made) =
      if category ∈ order then ofCategory category made else [] := by
  induction order with
  | nil => rfl
  | cons first rest ih =>
    obtain ⟨fresh, apart⟩ := List.nodup_cons.1 apart
    rw [List.flatMap_cons, ofCategory_append, ih apart]
    by_cases same : first = category
    · subst same
      rw [ofCategory_ofCategory_self, if_neg fresh, if_pos List.mem_cons_self, List.append_nil]
    · rw [ofCategory_ofCategory_of_ne same, List.nil_append]
      simp only [List.mem_cons, Ne.symm same, false_or]

/-- Behind each other, the groups keep the order of the filters of each category. -/
theorem ofCategory_flatMap_categories (category : Option String) (r : Registry) :
    ofCategory category (r.categories.flatMap Prod.snd) = ofCategory category (r.plugins.map Prod.snd) := by
  rw [categories_eq, groupsOf, List.flatMap_map, ofCategory_flatMap (nodup_eraseDups _)]
  split
  · rfl
  · next absent =>
    rw [List.mem_eraseDups] at absent
    exact (ofCategory_eq_nil_iff.2 absent).symm

end Categories

end Registry

/-! ## Lines -/

namespace CommandLine

/-- The heading of a category. -/
def heading (category : Option String) : String :=
  (if category.getD "" = "" then "custom" else category.getD "") ++ ":"

/-- The lines of a group are its heading and a line for each of its plugins. -/
theorem categoryLines_eq (group : Option String × List Plugin) :
    categoryLines group = heading group.1 :: group.2.map filterLine :=
  rfl

/-- **Lines** are the headings and the filters, each filter once. -/
theorem flatMap_categoryLines_perm (groups : List (Option String × List Plugin)) :
    (groups.flatMap categoryLines).Perm
      (groups.map (heading ∘ Prod.fst) ++ (groups.flatMap Prod.snd).map filterLine) := by
  induction groups with
  | nil => exact .refl _
  | cons group rest ih =>
    rw [List.flatMap_cons, categoryLines_eq, List.flatMap_cons, List.map_append, List.map_cons,
      List.cons_append, List.cons_append]
    refine List.Perm.cons _ ((ih.append_left _).trans ?_)
    rw [← List.append_assoc, ← List.append_assoc]
    exact List.perm_append_comm.append_right _

/-- The list of filters is printed for the environment of the configuration. -/
theorem run_of_parse_list {host : Host} {words : List String} {named : Option String} {settings : Config}
    {environment : Environment} (parsed : parse words = .run named .list)
    (loaded : Config.load host named = .ok settings)
    (built : Environment.build host settings = .ok environment) :
    run host words = .ok {
      exit := 0
      out := "\n".intercalate (environment.registry.categories.flatMap categoryLines) ++ "\n"
      err := "" } := by
  simp only [run, parsed, runCommand, bind, Except.bind, environmentOf_eq_ok loaded built]
  rfl

end CommandLine

/-! ## All registries -/

namespace Registry

open CommandLine

/-- **All registries**: in each state of a registry, the groups part the filters that were
registered. The categories, no category for some, come in the order in which they come first, each
with its filters in their order. Behind each other, the groups hold every filter once. The list of
filters is made of a heading for each group and a line for each filter, and the program prints it.
-/
theorem categories_after (names : List String) (requests : List Request) :
    let r := (withReserved names).after requests
    let made := (withReserved names).registered requests
    r.plugins.map Prod.snd = made ∧
    r.categories = ((made.map Plugin.category).eraseDups.map fun category =>
      (category, made.filter fun plugin => plugin.category = category)) ∧
    (r.categories.map Prod.fst).Nodup ∧
    (∀ group ∈ r.categories, group.2 ≠ [] ∧
      ∀ plugin ∈ made, plugin ∈ group.2 ↔ plugin.category = group.1) ∧
    (r.categories.flatMap Prod.snd).Perm made ∧
    ((r.categories.flatMap Prod.snd).map fun plugin => Text.small plugin.name).Nodup ∧
    (∀ category, (r.categories.flatMap Prod.snd).filter (fun plugin => plugin.category = category) =
      made.filter fun plugin => plugin.category = category) ∧
    (r.categories.flatMap categoryLines).Perm
      (r.categories.map (heading ∘ Prod.fst) ++ made.map filterLine) ∧
    ∀ host words named settings environment,
      parse words = .run named .list → Config.load host named = .ok settings →
      Environment.build host settings = .ok environment → environment.registry = r →
      run host words = .ok {
        exit := 0, out := "\n".intercalate (r.categories.flatMap categoryLines) ++ "\n", err := "" } := by
  intro r made
  have entries : r.plugins = made.map fun plugin => (Text.small plugin.name, plugin) := by
    rw [(growsBy_after (withReserved names) requests).plugins_eq]
    rfl
  have plugins : r.plugins.map Prod.snd = made := by
    simp [entries, Function.comp_def]
  have groups : r.categories = groupsOf made := plugins ▸ categories_eq r
  have parted : (r.categories.flatMap Prod.snd).Perm made := plugins ▸ flatMap_categories_perm r
  have apart : (made.map fun plugin => Text.small plugin.name).Nodup := by
    have keys := (isSound_after names requests).apart
    rw [Registry.keys, entries, List.map_map] at keys
    exact keys
  refine ⟨plugins, groups, ?_, ?_, parted, ?_, ?_, ?_, ?_⟩
  · rw [groups, groupsOf, List.map_map]
    simpa [Function.comp_def] using nodup_eraseDups (made.map Plugin.category)
  · rw [groups, groupsOf, List.forall_mem_map]
    intro category inside
    refine ⟨fun none => ?_, fun plugin there => ?_⟩
    · exact ofCategory_eq_nil_iff.1 none (List.mem_eraseDups.1 inside)
    · simp [ofCategory, there]
  · exact (parted.map _).nodup_iff.2 apart
  · intro category
    exact plugins ▸ ofCategory_flatMap_categories category r
  · exact (flatMap_categoryLines_perm r.categories).trans ((parted.map filterLine).append_left _)
  · rintro host words named settings environment parsed loaded built same
    rw [run_of_parse_list parsed loaded built, same]

/-- Two catalogs with filters of one category: in the list they stand together, where the first one
stood. -/
theorem categories_after_two_catalogs :
    let first : Value := .map [(.text "filters", .map [
      (.text "extra", .list [.text "Blur"]), (.text "", .list [.text "Sharpen(d:)"])])]
    let second : Value := .map [(.text "filters", .map [(.text "extra", .list [.text "Crop(ri:)"])])]
    let settings : List (Value × Value) := [
      (.text "load_core", .bool false), (.text "catalogs", .list [.text "first", .text "second"])]
    let host : Host := {
      configVariable := some "settings"
      files := ⟨[
        (["settings"], .file (.data (.map settings))), (["first"], .file (.data first)),
        (["second"], .file (.data second))]⟩ }
    run host ["list"] = .ok {
      exit := 0
      out := "extra:\n  Blur\n  Crop(ri:)\ncustom:\n  Sharpen(d:)\n"
      err := "" } := by
  intro first second settings host
  let config : Config := { catalogs := ["first", "second"], loadCore := false }
  have parsed : parse ["list"] = .run none .list := by decide +kernel
  have leads : host.walk? "settings" = some ["settings"] := by decide +kernel
  have read : host.readValue "settings" = .ok (.map settings) := Host.readValue_of_walk leads rfl
  have accepted : Config.ofEntries settings = .ok config := by
    rw [Config.ofEntries_eq_ok_iff, ← List.isEmpty_iff]
    decide +kernel
  have loaded : Config.load host none = .ok config :=
    Config.load_of_readValue rfl (by decide) read accepted
  obtain ⟨environment, built, -⟩ := Outcome.exists_eq_ok_of_any (show
    (Environment.build host config).toOption.any (fun _ => true) = true from by decide +kernel)
  have lines : ((Registry.empty.after (Environment.requestsOf host config)).categories.flatMap
      categoryLines) = ["extra:", "  Blur", "  Crop(ri:)", "custom:", "  Sharpen(d:)"] := by
    decide +kernel
  obtain ⟨-, -, -, -, -, -, -, -, printed⟩ :=
    categories_after reservedNames (Environment.requestsOf host config)
  rw [printed host ["list"] none config environment parsed loaded built (Environment.registry_of_build built)]
  change Except.ok (Result.mk 0 ("\n".intercalate ((Registry.empty.after _).categories.flatMap _) ++ "\n") "") = _
  rw [lines]
  rfl

end Registry

end FilterScript
