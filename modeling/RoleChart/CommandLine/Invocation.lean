import RoleChart.Build.Request
import RoleChart.CommandLine.Reading

/-!
# Invocations

A whole command line: the request for a build, and how much is to be told. A parameter that every
level takes counts where it is given last among the levels.
-/

namespace RoleChart

/-- The values that the surroundings give where the command line gives none. -/
structure Surroundings where
  registry : Option String := none
  organization : Option String := none
deriving DecidableEq, Repr

/-- What a command line asks for. -/
structure Invocation where
  request : Request
  verbosity : Nat
  quiet : Bool
deriving DecidableEq, Repr

namespace CommandLine

/-- What is given at each level of a complete command line. -/
structure Parts where
  program : Given
  build : Given
  target : Given
  chart : Bool
  manifest : String
deriving DecidableEq, Repr

/-- The fault of a level whose arguments end before a command. -/
def withoutCommand (given : Given) : UsageError :=
  if given.isEmpty then .helpOnMissing else .missingCommand

/-- Reads all arguments. The values of an outer level are settled after the inner ones. -/
def parts (args : List String) : Except UsageError Parts := do
  let (program, command) ← scan .program {} args
  match command with
  | none => throw (withoutCommand (← program.settle).given)
  | some (level, args) =>
    let (build, command) ← scan level {} args
    match command with
    | none => throw (withoutCommand (← build.settle).given)
    | some (level, args) =>
      let (target, _) ← scan level {} args
      let target ← target.settle
      match target.given.value? .manifest with
      | none => throw .missingArgument
      | some manifest =>
        let build ← build.settle
        let program ← program.settle
        return {
          program := program.given
          build := build.given
          target := target.given
          chart := level = .target true
          manifest := manifest }

namespace Parts

/-- The value of a parameter at the innermost level that gives it. -/
def value? (p : Parts) (q : Parameter) : Option String :=
  p.target.value? q <|> p.build.value? q <|> p.program.value? q

/-- How often a parameter is given at the innermost level that gives it. -/
def count (p : Parts) (q : Parameter) : Nat :=
  (([p.target, p.build, p.program].map (·.count q)).find? (0 < ·)).getD 0

/-- Whether a parameter is given at some level. -/
def has (p : Parts) (q : Parameter) : Bool := p.target.has q || p.build.has q || p.program.has q

/-- The request for a build. -/
def request (p : Parts) (around : Surroundings) : Request where
  manifest := p.manifest
  chart := p.chart
  config := p.value? .config
  output := p.value? .output
  defaults := p.value? .defaults
  registry := p.value? .registry <|> around.registry
  organization := p.value? .organization <|> around.organization
  repository := p.value? .repository
  authMode := p.value? .authType
  tagExtra := p.value? .tagExtra
  namespaceName := p.value? .namespaceName
  secretsGenerator := p.has .secretsGenerator
  noMemoryLimits := p.has .noMemoryLimits
  noCpuLimits := p.has .noCpuLimits
  force := p.has .force
  dryRun := p.has .dryRun

end Parts

end CommandLine

/-- The greatest verbosity. -/
def maxVerbosity : Nat := 255

open CommandLine

/-- Reads a command line. -/
def Invocation.ofArguments (around : Surroundings) (args : List String) :
    Except UsageError Invocation := do
  let p ← parts args
  return {
    request := p.request around
    verbosity := min (p.count .verbose) maxVerbosity
    quiet := p.has .quiet }

end RoleChart
