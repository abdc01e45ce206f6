import RoleChart.CommandLine.Parameter
import RoleChart.Text.Basic

/-!
# Reading arguments

The arguments of one level of commands, read from left to right. A value that has been read is
settled only when the next parameter is met or the arguments end, so that an argument that means
nothing is refused first.
-/

namespace RoleChart.CommandLine

/-- Why arguments ask for no build. -/
inductive UsageError where
  | missingArgument
  | unknownArgument
  | invalidCommand
  | missingCommand
  | invalidValue
  /-- Given twice. -/
  | conflict
  | tooManyValues
  /-- Help was asked for. -/
  | help
  /-- Nothing was given where a command is needed. -/
  | helpOnMissing
  | version
deriving DecidableEq, Repr

/-- The parameters given at one level with their values, in order. -/
abbrev Given := List (Parameter × String)

namespace Given

/-- Whether a parameter is given. -/
def has (g : Given) (p : Parameter) : Bool := g.any (·.1 == p)

/-- How often a parameter is given. -/
def count (g : Given) (p : Parameter) : Nat := g.countP (·.1 == p)

/-- The value of a parameter. -/
def value? (g : Given) (p : Parameter) : Option String := g.lookup p

/-- Adds a parameter. Only what counts can be given twice, and help and the version are all that is
asked for. -/
def add (g : Given) (p : Parameter) (value : String) : Except UsageError Given :=
  if p = .help then .error .help
  else if p = .version then .error .version
  else if p.takes ≠ .count ∧ g.has p then .error .conflict
  else if p.takes = .path ∧ value.isEmpty then .error .invalidValue
  else .ok (g ++ [(p, value)])

end Given

/-- What is not settled. -/
inductive Pending where
  | nothing
  /-- A parameter whose value has still to come. -/
  | name (p : Parameter)
  | value (p : Parameter) (value : String)
deriving DecidableEq, Repr

/-- How far the arguments of a level have been read. -/
structure Reading where
  given : Given := []
  pending : Pending := .nothing
  /-- Behind two dashes no argument names a parameter. -/
  trailing : Bool := false
deriving DecidableEq, Repr

namespace Reading

/-- Settles what is pending. -/
def settle (r : Reading) : Except UsageError Reading :=
  match r.pending with
  | .nothing => .ok r
  | .name _ => .error .invalidValue
  | .value p value => (r.given.add p value).map fun given =>
    { r with given := given, pending := .nothing }

/-- Gives a parameter. -/
def give (r : Reading) (p : Parameter) (value : String) : Except UsageError Reading := do
  let r ← r.settle
  let given ← r.given.add p value
  return { r with given := given }

/-- Waits for the value of a parameter. -/
def await (r : Reading) (p : Parameter) : Except UsageError Reading := do
  let r ← r.settle
  return { r with pending := .name p }

/-- Whether the manifest has its place taken. -/
def hasManifest (r : Reading) : Bool :=
  r.given.has .manifest || (r.pending matches .value .manifest _)

/-- Reads an argument by its place. Only what is built has a place, that of the manifest. -/
def place (l : Level) (r : Reading) (argument : String) : Except UsageError Reading :=
  if l.hasCommands then
    if r.trailing && (argument == "help" || (l.command? argument).isSome) then
      .error .unknownArgument
    else .error .invalidCommand
  else if r.hasManifest then .error .unknownArgument
  else do
    let r ← r.settle
    return { r with pending := .value .manifest argument }

/-- Reads a long name with the value behind an equals sign. -/
def long (l : Level) (r : Reading) (name : String) (value : Option String) :
    Except UsageError Reading :=
  match l.long? name, value with
  | none, _ => .error .unknownArgument
  | some p, some value => if p.takesValue then r.give p value else .error .tooManyValues
  | some p, none => if p.takesValue then r.await p else r.give p ""

/-- Reads letters. The first one that takes a value has all the others for its value. -/
def letters (l : Level) (r : Reading) : List Char → Except UsageError Reading
  | [] => .ok r
  | c :: rest =>
    match l.short? c with
    | none => .error .unknownArgument
    | some p =>
      if !p.takesValue then (r.give p "").bind fun r => letters l r rest
      else
        match rest with
        | [] => r.await p
        | '=' :: value => r.give p (String.ofList value)
        | value => r.give p (String.ofList value)

/-- Reads one argument that is no command. -/
def argument (l : Level) (r : Reading) (arg : String) : Except UsageError Reading :=
  if r.trailing then place l r arg
  else
    match arg.toList with
    | ['-', '-'] => .ok { r with trailing := true }
    | '-' :: '-' :: rest =>
      match Text.splitOnce '=' rest with
      | none => long l r (String.ofList rest) none
      | some (name, value) => long l r (String.ofList name) (some (String.ofList value))
    | '-' :: c :: rest => letters l r (c :: rest)
    | _ =>
      match r.pending with
      | .name p => .ok { r with pending := .value p arg }
      | _ => place l r arg

/-- Whether an argument can name a command: it is no value and stands before two dashes. -/
def takesCommand (r : Reading) : Bool := !r.trailing && !(r.pending matches .name _)

end Reading

/-- What asking for help with a command leads to. The help about help knows no command. -/
def helpWith : Level → List String → UsageError
  | _, [] => .help
  | l, name :: rest =>
    match l.command? name with
    | some command => helpWith command rest
    | none => if l.hasCommands ∧ name = "help" ∧ rest = [] then .help else .invalidCommand

/-- Reads the arguments of a level up to a command, and gives that with the arguments behind it. -/
def scan (l : Level) (r : Reading) :
    List String → Except UsageError (Reading × Option (Level × List String))
  | [] => .ok (r, none)
  | arg :: rest =>
    if r.takesCommand ∧ l.hasCommands ∧ arg = "help" then .error (helpWith l rest)
    else
      match if r.takesCommand then l.command? arg else none with
      | some command => .ok (r, some (command, rest))
      | none => (r.argument l arg).bind fun r => scan l r rest

end RoleChart.CommandLine
