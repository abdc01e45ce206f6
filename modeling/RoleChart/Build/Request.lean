import RoleChart.Build.Error
import RoleChart.Config
import RoleChart.Path
import RoleChart.Yaml.Decode

/-!
# Requests for builds

What is asked of one build, and the settings that come of it: a choice of the request goes before the
configuration's, and the defaults of variables are read from a file of their own.
-/

namespace RoleChart

open Yaml (Value)

/-- What is asked of a build. What is left out is taken from the configuration. -/
structure Request where
  manifest : String
  chart : Bool := false
  /-- The configuration to use instead of those that are looked for. -/
  config : Option String := none
  output : Option String := none
  /-- The file with the values of variables. -/
  defaults : Option String := none
  registry : Option String := none
  organization : Option String := none
  repository : Option String := none
  authMode : Option String := none
  tagExtra : Option String := none
  namespaceName : Option String := none
  secretsGenerator : Bool := false
  noMemoryLimits : Bool := false
  noCpuLimits : Bool := false
  force : Bool := false
  dryRun : Bool := false
deriving DecidableEq, Repr

/-! ## Defaults -/

/-- The text of a scalar. Null is the empty text. -/
def scalarText? : Value → Option String
  | .null => some ""
  | .string s => some s
  | .bool b => some (if b then "true" else "false")
  | .int z => some (Value.intText z)
  | .float x => some (Value.floatText x)
  | _ => none

/-- A name and its text. -/
def defaultEntry? : Value × Value → Option (String × String)
  | (.string name, v) => (scalarText? v).map fun text => (name, text)
  | _ => none

/-- The values of variables in the order of their names. A document of nothing has none. -/
def defaultsOf? : Value → Option (List (String × String))
  | .mapping entries =>
    (entries.mapM defaultEntry?).map (·.mergeSort fun a b => decide (a.1 ≤ b.1))
  | .null => some []
  | _ => none

/-- The values of variables that a file holds. -/
def readDefaults (read : String → Except FileError String) (path : String) :
    Except BuildError (List (String × String)) := do
  let text ← (read path).mapError .reading
  let value ← (Value.ofText text).mapError fun _ => .undecodable
  match defaultsOf? value with
  | some defaults => return defaults
  | none => throw (.defaults path)

/-! ## Configurations -/

/-- The name of a configuration file that is not asked for. -/
def configFileName : String := ".chartsmith.toml"

/-- Where a configuration is looked for: beside the manifest, then in the home directory. -/
def configPaths (home : Option String) (manifest : String) : List String :=
  joinPath (directoryPart manifest) configFileName
    :: (home.map fun directory => joinPath directory configFileName).toList

/-- The configuration of a build. One that is asked for has to be there; of those that are looked
for, the first one that can be read counts, as a whole. -/
def readConfig (read : String → Except FileError String) (home : Option String) (r : Request) :
    Except BuildError Config :=
  match r.config with
  | some path => do
    let text ← (read path).mapError .reading
    match Config.ofText? text with
    | some config => return config
    | none => throw (.configuration path)
  | none =>
    .ok (((configPaths home r.manifest).findSome? fun path =>
      (read path).toOption.bind Config.ofText?).getD {})

/-- All files that a request can read. -/
def Request.sources (r : Request) (home : Option String) : List String :=
  r.config.elim (configPaths home r.manifest) (fun path => [path])
    ++ r.manifest :: r.defaults.toList

/-! ## Settings -/

namespace Request

/-- The authorization of the request, or else the configuration's. -/
def authModeOver (r : Request) (fallback : AuthMode) : Except BuildError AuthMode :=
  match r.authMode with
  | none => .ok fallback
  | some name =>
    match AuthMode.ofText? name with
    | some mode => .ok mode
    | none => .error (.authMode name)

/-- The settings of the request over those of the configuration, without the defaults. -/
def settings (r : Request) (base : Settings) (mode : AuthMode) (opinions : Value) : Settings :=
  { base with
    chart := r.chart
    opinions := opinions
    registry := r.registry.getD base.registry
    organization := r.organization.getD base.organization
    repository := r.repository.getD base.repository
    authMode := mode
    secretsGenerator := base.secretsGenerator || r.secretsGenerator
    memoryLimits := base.memoryLimits && !r.noMemoryLimits
    cpuLimits := base.cpuLimits && !r.noCpuLimits
    tagExtra := r.tagExtra.getD base.tagExtra
    namespaceName := r.namespaceName.getD base.namespaceName }

end Request

end RoleChart
