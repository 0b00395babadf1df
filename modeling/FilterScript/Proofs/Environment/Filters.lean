import FilterScript.Environment
import FilterScript.Proofs.Registry.Runs

/-!
# The filters of an environment

An environment is built from catalogs, and from nothing else. So its registry is one that catalogs were
loaded into, and all its filters are called by their signatures.

* **Registries** (`registry_of_build`): an environment has the registry that its catalogs make.
* **Filters** (`exists_signature_of_build`): each of them has a signature, and is called by it.
-/

namespace FilterScript

/-- Whether a filter is called by its signature. -/
def Plugin.IsBound (services : Fragment.Services) (plugin : Plugin) : Prop :=
  ∃ s, plugin.signature = some s ∧ plugin.code = Registry.boundCode services s

namespace Registry

variable {services : Fragment.Services} {r r' : Registry} {plugin : Plugin}

/-- A new plugin's code is the binding of its signature. -/
theorem isBound_of_newPlugin {name : String} {params types requires : Value}
    {category : Option String}
    (h : r.newPlugin services name params types requires category = .ok (r', plugin)) :
    plugin.IsBound services := by
  obtain ⟨s, registered⟩ := newPlugin_eq_ok h
  obtain ⟨-, -, files, -, rfl⟩ := register_eq_ok_iff.1 registered
  exact ⟨s, rfl, rfl⟩

/-- The filters of catalogs are called by their signatures. -/
theorem isBound_of_mem_registered {host : Host} {paths : List (Option String)}
    (h : plugin ∈ r.registered (paths.map (.load host services))) : plugin.IsBound services := by
  induction paths generalizing r with
  | nil => cases h
  | cons path rest ih =>
    rcases List.mem_append.1 h with first | behind
    · rw [requested] at first
      split at first
      · obtain ⟨_, _, _, _, _, _, _, made⟩ := exists_newPlugin_of_mem_registeredFor first
        exact isBound_of_newPlugin made
      · cases first
    · exact ih behind

end Registry

namespace Environment

variable {host : Host} {config : Config} {environment : Environment}

/-- The catalogs that an environment is built from. -/
def catalogsOf (config : Config) : List (Option String) :=
  (if config.loadCore then [none] else []) ++ config.catalogs.map some

/-- What the registry of an environment is asked to do when it is built. -/
def requestsOf (host : Host) (config : Config) : List Registry.Request :=
  (catalogsOf config).map (.load host (.inDirectory host.directory))

/-- Loading catalogs leaves the registry as asking it to load each of them does. -/
theorem after_of_loadCatalogs_eq_ok {services : Fragment.Services} {debug : Bool}
    {paths : List (Option String)} {r r' : Registry}
    (h : loadCatalogs host services debug paths r = .ok r') :
    r' = r.after (paths.map (.load host services)) := by
  induction paths generalizing r with
  | nil => exact (Except.ok.inj h).symm
  | cons path rest ih =>
    rw [loadCatalogs] at h
    rw [List.map_cons, Registry.after, Registry.request]
    split at h
    · next later loaded =>
      obtain ⟨count, loaded⟩ := exists_of_loadCatalog_eq_ok loaded
      rw [loaded]
      exact ih h
    · cases h

/-- **Registries** of environments are made by their catalogs. -/
theorem registry_of_build (built : build host config = .ok environment) :
    environment.registry = Registry.empty.after (requestsOf host config) := by
  simp only [build, bind, Except.bind] at built
  split at built
  · cases built
  · next registry loaded =>
    split at built
    · cases built
    · obtain rfl := Except.ok.inj built
      exact after_of_loadCatalogs_eq_ok loaded

/-- **Filters** of environments are called by their signatures. -/
theorem exists_signature_of_build (built : build host config = .ok environment) {name : String}
    {plugin : Plugin} (found : environment.registry.lookup name = some plugin) :
    ∃ s, plugin.signature = some s ∧
      plugin.code = Registry.boundCode (.inDirectory host.directory) s := by
  have inside := Registry.mem_of_lookup found
  rw [registry_of_build built,
    (Registry.growsBy_after Registry.empty (requestsOf host config)).plugins_eq] at inside
  obtain ⟨made, there, same⟩ := List.mem_map.1 inside
  obtain rfl := (Prod.mk.inj same).2
  exact Registry.isBound_of_mem_registered there

/-- A built environment has a sound registry. -/
theorem isSound_registry_of_build (built : build host config = .ok environment) :
    environment.registry.IsSound := by
  rw [registry_of_build built]
  exact Registry.isSound_after Registry.reservedNames _

/-- A built environment reserves the reserved names. -/
theorem reserved_of_build (built : build host config = .ok environment) :
    environment.registry.reserved = Registry.reservedNames.map normalizedName := by
  rw [registry_of_build built]
  exact (Registry.growsBy_after Registry.empty _).reserved_eq

end Environment

end FilterScript
