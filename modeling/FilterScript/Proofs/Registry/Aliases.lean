import FilterScript.Proofs.Registry.Runs
import FilterScript.Proofs.Text.Casing

/-!
# The documented spellings of filters

A filter is documented under spellings of its name, which are made when it is registered. No registry keeps
them: that a filter is found under each of them rests on the small form, which they share with the name.

* **Spellings** (`small_of_mem_spellings`, `nodup_spellings`): they have the small form of the name, and no two of
  them are the same, whatever characters are in the name.
* **Filters** (`aliases_of_mem_after`, `lookup_of_mem_aliases`): each filter of a registry is documented under the
  spellings of its name, and found under them.
* **All registries** (`lookup_aliases_after`): the spellings lead to their filter from its registration on, and
  to nothing before.
-/

namespace FilterScript

/-! ## Spellings -/

namespace Text

/-- Writing a letter small twice is writing it small once. -/
theorem toLower_toLower (c : Char) : c.toLower.toLower = c.toLower :=
  comp_toLower (by decide) c

/-- A capital is not its own small letter. -/
theorem toLower_ne_of_isCapital {c : Char} (capital : isCapital c = true) : c.toLower ≠ c := by
  simp only [isCapital, Bool.and_eq_true, decide_eq_true_eq] at capital
  obtain ⟨k, inside, rfl⟩ := exists_eq_ofNat_of_capital capital
  have letters : ∀ k < 26, (Char.ofNat (65 + k)).toLower ≠ Char.ofNat (65 + k) := by decide
  exact letters k inside

/-- The small form of a text stays if its first letter becomes small. -/
theorem small_toLower_cons (c : Char) (rest : List Char) :
    small (String.ofList (c.toLower :: rest)) = small (String.ofList (c :: rest)) := by
  have same : (c.toLower :: rest).map Char.toLower = (c :: rest).map Char.toLower := by
    rw [List.map_cons, List.map_cons, toLower_toLower]
  have letters := congrArg (smallFrom ([].map Char.toLower)) same
  rw [smallFrom_map_toLower, smallFrom_map_toLower] at letters
  simp only [small, String.toList_ofList, letters]

end Text

/-- What the spellings of a name are: none, the name itself, or the name behind the one with a small
letter in place of the capital in front. -/
theorem spellings_cases (name : String) :
    spellings name = [] ∨ spellings name = [name] ∨
      ∃ c rest, Text.isCapital c = true ∧ name = String.ofList (c :: rest) ∧
        spellings name = [String.ofList (c.toLower :: rest), name] := by
  unfold spellings
  cases letters : name.toList with
  | nil => exact .inl rfl
  | cons c rest =>
    dsimp only
    by_cases lowered : (Text.isCapital c && (rest.takeWhile (· != '\n')).any Text.isCapital) = true
    · have capital := (Bool.and_eq_true_iff.1 lowered).1
      have sameLine : (c != '\n') = true := by
        rw [bne_iff_ne]
        rintro rfl
        exact absurd capital (by decide)
      refine .inr (.inr ⟨c, rest, capital, ?_, ?_⟩)
      · rw [← letters, String.ofList_toList]
      · rw [if_pos lowered]
        simp [sameLine, capital]
    · rw [if_neg lowered, List.nil_append]
      split
      · exact .inr (.inl rfl)
      · exact .inl rfl

/-- **Spellings** have the small form of the name. -/
theorem small_of_mem_spellings {spelling name : String} (h : spelling ∈ spellings name) :
    Text.small spelling = Text.small name := by
  rcases spellings_cases name with none | own | ⟨c, rest, -, rfl, both⟩
  · rw [none] at h
    cases h
  · rw [own, List.mem_singleton] at h
    rw [h]
  · rw [both, List.mem_pair] at h
    rcases h with rfl | rfl
    · exact Text.small_toLower_cons c rest
    · rfl

/-- **Spellings** of a name are not repeated. -/
theorem nodup_spellings (name : String) : (spellings name).Nodup := by
  rcases spellings_cases name with none | own | ⟨c, rest, capital, rfl, both⟩
  · rw [none]
    exact List.nodup_nil
  · rw [own]
    exact List.nodup_singleton name
  · have differ : String.ofList (c.toLower :: rest) ≠ String.ofList (c :: rest) := by
      rw [ne_eq, String.ofList_inj, List.cons.injEq, not_and]
      exact fun same _ => Text.toLower_ne_of_isCapital capital same
    rw [both]
    exact List.nodup_cons.2 ⟨mt List.mem_singleton.1 differ, List.nodup_singleton _⟩

namespace Registry

/-! ## Filters -/

section Filters

variable {names : List String} {requests : List Request} {entry other : String × Plugin}
  {spelling : String}

/-- **Filters** are documented under the spellings of their names. -/
theorem aliases_of_mem_after (inside : entry ∈ ((withReserved names).after requests).plugins) :
    entry.2.aliases = spellings entry.2.name := by
  rw [(growsBy_after (withReserved names) requests).plugins_eq] at inside
  obtain ⟨made, there, rfl⟩ := List.mem_map.1 inside
  obtain ⟨_, _, name, _, _, _, _, registered⟩ := exists_register_of_mem_registered there
  obtain ⟨-, -, files, -, rfl⟩ := register_eq_ok_iff.1 registered
  rfl

/-- Every documented spelling of a registered plugin finds that plugin. -/
theorem lookup_of_mem_aliases (inside : entry ∈ ((withReserved names).after requests).plugins)
    (documented : spelling ∈ entry.2.aliases) :
    ((withReserved names).after requests).lookup spelling = some entry.2 := by
  have sound := isSound_after names requests
  rw [aliases_of_mem_after inside] at documented
  refine sound.lookup_of_mem inside ?_
  rw [small_of_mem_spellings documented, sound.keyed entry inside]

/-- No name leads to two filters. -/
theorem IsSound.eq_of_lookup {r : Registry} {name : String} (sound : r.IsSound) (inside : entry ∈ r.plugins)
    (there : other ∈ r.plugins) (found : r.lookup name = some entry.2)
    (found' : r.lookup name = some other.2) : other = entry := by
  have same : other.2 = entry.2 := Option.some.inj (found'.symm.trans found)
  refine Prod.ext ?_ same
  rw [sound.keyed other there, sound.keyed entry inside, same]

/-- What a map had before it grew is still in it. -/
theorem GrowsBy.mem {r last : Registry} {made : List Plugin} (h : GrowsBy r made last)
    (inside : entry ∈ r.plugins) : entry ∈ last.plugins := by
  rw [h.plugins_eq]
  exact List.mem_append_left _ inside

end Filters

/-! ## All registries -/

/-- **All registries**: whatever is registered before a filter or behind it, its spellings are those
of its name, no two of them are the same, and they are the answer under its name in any case. Each
of them leads to the filter, to no other one, and no other one is documented under it. As long as
the filter was not registered, they led to nothing. -/
theorem lookup_aliases_after (names : List String) (requests more : List Request) {entry : String × Plugin}
    (inside : entry ∈ ((withReserved names).after requests).plugins) :
    let later := ((withReserved names).after requests).after more
    entry.2.aliases = spellings entry.2.name ∧
    entry.2.aliases.Nodup ∧
    (∀ name, Text.small name = Text.small entry.2.name →
      later.resolveAliases name = .ok entry.2.aliases) ∧
    ∀ spelling ∈ entry.2.aliases,
      later.lookup spelling = some entry.2 ∧
      (∀ other ∈ later.plugins, other ≠ entry →
        later.lookup spelling ≠ some other.2 ∧ spelling ∉ other.2.aliases) ∧
      ∀ front back, requests = front ++ back →
        entry ∉ ((withReserved names).after front).plugins →
          ((withReserved names).after front).lookup spelling = none := by
  intro later
  have same : later = (withReserved names).after (requests ++ more) :=
    (after_append (withReserved names) requests more).symm
  have stays : entry ∈ ((withReserved names).after (requests ++ more)).plugins := by
    rw [← same]
    exact (growsBy_after _ more).mem inside
  rw [same]
  have sound := isSound_after names (requests ++ more)
  have spelled := aliases_of_mem_after stays
  refine ⟨spelled, spelled ▸ nodup_spellings entry.2.name, ?_, ?_⟩
  · intro name small
    have found := sound.lookup_of_mem stays (small.trans (sound.keyed entry stays).symm)
    rw [resolveAliases, resolve, found]
    rfl
  · intro spelling documented
    have found := lookup_of_mem_aliases stays documented
    refine ⟨found, fun other there different => ⟨fun found' => ?_, fun documented' => ?_⟩, ?_⟩
    · exact different (sound.eq_of_lookup stays there found found')
    · exact different (sound.eq_of_lookup stays there found (lookup_of_mem_aliases there documented'))
    · rintro front back rfl missing
      refine Option.eq_none_iff_forall_ne_some.2 fun early found' => missing ?_
      have there := mem_of_lookup found'
      have kept : (Text.small spelling, early) ∈ ((withReserved names).after (front ++ back)).plugins := by
        rw [after_append]
        exact (growsBy_after _ back).mem there
      have sound := isSound_after names (front ++ back)
      rw [← sound.eq_of_lookup inside kept (lookup_of_mem_aliases inside documented)
        (sound.lookup_of_mem kept rfl)]
      exact there

/-- A name with two capitals among others that differ from it by an underscore or by a letter,
before and behind it, and in other letters, which is refused: both spellings lead to its filter, and
led to nothing before. -/
theorem lookup_aliases_after_related_names :
    let register (name : String) : Request := .register name (fun _ => .ok none) none (.list []) none
    let front := [register "Foo_Bar"]
    let requests := front ++ [register "FooBar", register "FOOBAR"]
    let more := [register "fOOBAR", register "FooBarX", register "fooB"]
    let later := ((withReserved ["md5"]).after requests).after more
    later.keys = ["foo_bar", "foobar", "foobarx", "foob"] ∧
      later.resolveAliases "FOOBAR" = .ok ["fooBar", "FooBar"] ∧
      (∃ plugin, later.lookup "fooBar" = some plugin ∧ later.lookup "FooBar" = some plugin ∧
        plugin.name = "FooBar" ∧
        ∀ other ∈ later.plugins, other.1 ≠ "foobar" → "fooBar" ∉ other.2.aliases) ∧
      ((withReserved ["md5"]).after front).lookup "fooBar" = none := by
  intro register front requests more later
  have keys : later.keys = ["foo_bar", "foobar", "foobarx", "foob"] := by decide +kernel
  have key : Text.small "FooBar" = "foobar" := by decide
  have there : (((withReserved ["md5"]).after requests).lookup "FooBar").isSome = true := by decide +kernel
  obtain ⟨plugin, found⟩ := Option.isSome_iff_exists.1 there
  have named : plugin.name = "FooBar" := by
    have name : (((withReserved ["md5"]).after requests).lookup "FooBar").map Plugin.name = some "FooBar" := by
      decide +kernel
    rw [found] at name
    exact Option.some.inj name
  have two : spellings plugin.name = ["fooBar", "FooBar"] := by
    rw [named]
    decide +kernel
  obtain ⟨spelled, -, answer, leads⟩ :=
    lookup_aliases_after ["md5"] requests more (mem_of_lookup found)
  rw [show plugin.aliases = _ from spelled, two] at answer leads
  obtain ⟨small, apart, before⟩ := leads "fooBar" (by decide)
  obtain ⟨own, -, -⟩ := leads "FooBar" (by decide)
  refine ⟨keys, answer "FOOBAR" ?_, ⟨plugin, small, own, named, fun other inside different => ?_⟩, ?_⟩
  · rw [named]
    decide
  · refine (apart other inside ?_).2
    rintro rfl
    exact different key
  · refine before front _ rfl fun inside => ?_
    have early : ((withReserved ["md5"]).after front).keys = ["foo_bar"] := by decide +kernel
    have there : Text.small "FooBar" ∈ ((withReserved ["md5"]).after front).keys :=
      List.mem_map_of_mem inside
    rw [early, key] at there
    exact absurd there (by decide)

end Registry

end FilterScript
