/-!
# Parameters of the command line

What can be given on a command line: the options and switches of each level of commands, their long
and short names, and what they take.
-/

namespace RoleChart.CommandLine

/-- What a parameter takes. -/
inductive Takes where
  /-- Nothing: it is given or not. -/
  | nothing
  /-- Nothing, but it counts how often it is given. -/
  | count
  | text
  /-- A text that is not empty. -/
  | path
deriving DecidableEq, Repr

/-- The parameters. -/
inductive Parameter where
  | config
  | verbose
  | quiet
  | help
  | version
  | manifest
  | output
  | defaults
  | registry
  | organization
  | repository
  | authType
  | secretsGenerator
  | noMemoryLimits
  | noCpuLimits
  | tagExtra
  | namespaceName
  | force
  | dryRun
deriving DecidableEq, Repr

namespace Parameter

/-- What the parameter takes. -/
def takes : Parameter → Takes
  | config | manifest | output | defaults => .path
  | registry | organization | repository | authType | tagExtra | namespaceName => .text
  | verbose => .count
  | quiet | help | version | secretsGenerator | noMemoryLimits | noCpuLimits | force | dryRun =>
    .nothing

/-- Whether a value follows the parameter. -/
def takesValue (p : Parameter) : Bool := p.takes == .text || p.takes == .path

/-- The name behind two dashes. The manifest has none, it is given by its place. -/
def long? : Parameter → Option String
  | config => some "config"
  | verbose => some "verbose"
  | quiet => some "quiet"
  | help => some "help"
  | version => some "version"
  | manifest => none
  | output => some "output"
  | defaults => some "defaults"
  | registry => some "registry"
  | organization => some "organization"
  | repository => some "repository"
  | authType => some "auth-type"
  | secretsGenerator => some "use-secrets-generator"
  | noMemoryLimits => some "no-memory-limits"
  | noCpuLimits => some "no-cpu-limits"
  | tagExtra => some "tag-extra"
  | namespaceName => some "namespace"
  | force => some "force"
  | dryRun => some "dry-run"

/-- The letter behind one dash. -/
def short? : Parameter → Option Char
  | config => some 'c'
  | verbose => some 'v'
  | quiet => some 'q'
  | help => some 'h'
  | version => some 'V'
  | output => some 'o'
  | defaults => some 'd'
  | namespaceName => some 'n'
  | _ => none

/-- Whether the parameter can be given at every level. -/
def isGlobal : Parameter → Bool
  | config | verbose | quiet | help => true
  | _ => false

end Parameter

/-- The levels of commands: the program, the building of something, and what is built. -/
inductive Level where
  | program
  | build
  | target (chart : Bool)
deriving DecidableEq, Repr

namespace Level

/-- The parameters of a level that are given by name. -/
def parameters : Level → List Parameter
  | program => [.config, .verbose, .quiet, .help, .version]
  | build => [.config, .verbose, .quiet, .help]
  | target _ =>
    [.config, .verbose, .quiet, .help, .output, .defaults, .registry, .organization, .repository,
      .authType, .secretsGenerator, .noMemoryLimits, .noCpuLimits, .tagExtra, .namespaceName,
      .force, .dryRun]

/-- The parameter of a long name. -/
def long? (l : Level) (name : String) : Option Parameter :=
  l.parameters.find? fun p => p.long? == some name

/-- The parameter of a letter. -/
def short? (l : Level) (letter : Char) : Option Parameter :=
  l.parameters.find? fun p => p.short? == some letter

/-- The command of a name. -/
def command? : Level → String → Option Level
  | program, "build" => some build
  | build, "kube" => some (target false)
  | build, "helm" => some (target true)
  | _, _ => none

/-- Whether the level has commands. -/
def hasCommands : Level → Bool
  | target _ => false
  | _ => true

end Level

end RoleChart.CommandLine
