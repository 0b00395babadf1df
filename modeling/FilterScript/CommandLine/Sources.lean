import FilterScript.CommandLine.Run

/-!
# What a command line looks at

A run looks at the configuration, at what the configuration names, at the file of steps, and at the
files that filters require. Which ones these are shows as files become known, so they are listed
from what is known so far: first the configuration, and the rest once it is there. What is read of
them makes more of them known.
-/

namespace FilterScript.CommandLine

/-- A place of the machine that a run looks at. -/
inductive Source where
  /-- A file whose text is read. -/
  | document (path : String)
  /-- A file that only has to be there. -/
  | presence (path : String)
  /-- A directory whose entries are listed. -/
  | directory (path : String)
deriving DecidableEq, Repr

/-- The configuration, if there is one. -/
def configSources (host : Host) (config : Option String) : List Source :=
  (((config.or host.configVariable).filter (· ≠ "")).map Source.document).toList

/-- What a configuration names. -/
def settingSources (config : Config) : List Source :=
  config.catalogs.map .document ++ config.autoloadDirs.map .directory

/-- The files that filters require. -/
def requiredSources (registry : Registry) : List Source :=
  registry.plugins.flatMap fun (_, plugin) =>
    plugin.requires.filterMap fun file => file.toText?.map .presence

/-- What an environment is built from, as far as it is known. -/
def environmentSources (host : Host) (config : Option String) : List Source :=
  match Config.load host config with
  | .error _ => []
  | .ok settings =>
    settingSources settings ++
      match Environment.build host settings with
      | .ok environment => requiredSources environment.registry
      | .error _ => []

/-- What a command looks at, as far as it is known. -/
def commandSources (host : Host) (config : Option String) : Command → List Source
  | .help => []
  | .version => []
  | .describe .. => configSources host config
  | .call .. => configSources host config ++ environmentSources host config
  | .list => configSources host config ++ environmentSources host config
  | .render file =>
    configSources host config ++ .document file :: environmentSources host config

/-- What a command line looks at, as far as it is known. -/
def sources (host : Host) (words : List String) : List Source :=
  match parse words with
  | .run config command => commandSources host config command
  | _ => []

end FilterScript.CommandLine
