import RoleChart.Build.Plan
import RoleChart.CommandLine.Invocation

/-!
# The program

Reads the files that a command line names, carries out the plan of the build, and tells what was
done. Faults go to the error output and end the program with the code 1, or 2 if the command line
itself is at fault.
-/

namespace RoleChart

open CommandLine (UsageError)

/-- The fault of a file for a fault of the system. -/
def FileError.ofSystem : IO.Error → FileError
  | .noFileOrDirectory .. => .notFound
  | .alreadyExists .. => .alreadyExists
  | .inappropriateType _ code _ => if code = 21 then .isDirectory else .notDirectory
  | e => .other (toString e)

/-- Reads the text of a file. -/
def readText (path : String) : IO (Except FileError String) := do
  try
    match String.fromUTF8? (← IO.FS.readBinFile path) with
    | some text => return .ok text
    | none => return .error .notText
  catch e => return .error (.ofSystem e)

/-- Reads all files that a request can read. -/
def readSources (paths : List String) : IO (String → Except FileError String) := do
  let texts ← paths.mapM fun path => return (path, ← readText path)
  return fun path => (texts.lookup path).getD (.error .notFound)

/-- Whether something stands at the end of a path. -/
def standsAt (path : String) : IO Bool := do
  try
    discard (IO.FS.realPath path)
    return true
  catch _ => return false

/-- Writes one file and the directories on its way. -/
def writeTarget (path content : String) : IO Unit := do
  let directory := directoryPart path
  if !directory.isEmpty then IO.FS.createDirAll directory
  IO.FS.writeFile path content

/-- Carries out a plan. -/
def carryOut (p : Plan) : IO (Except BuildError Unit) := do
  if p.dryRun then return .ok ()
  if !p.overwrite then
    for file in p.files do
      if ← standsAt (p.target file) then return .error (.outputExists (p.target file))
  try
    for file in p.files do writeTarget (p.target file) file.content
    return .ok ()
  catch e => return .error (.writing (.ofSystem e))

/-- What the command line may hold. -/
def usage : String :=
  "Usage: chartsmith build <kube|helm> MANIFEST [-o OUTPUT_DIR] [-d FILE] [--registry TEXT]\n"
    ++ "    [--organization TEXT] [--repository TEXT] [--auth-type TYPE] [--tag-extra TEXT]\n"
    ++ "    [-n NAMESPACE] [--use-secrets-generator] [--no-memory-limits] [--no-cpu-limits]\n"
    ++ "    [--force] [--dry-run] [-c FILE] [-v] [-q]\n"

/-- Tells what is wrong with a command line, or what was asked for instead of a build. -/
def tellUsage (e : UsageError) : IO UInt32 := do
  match e with
  | .help => IO.print usage; return 0
  | .version => IO.println "chartsmith 0.4.0"; return 0
  | _ => IO.eprint usage; return 2

/-- Carries out a build and tells what was done. -/
def runBuild (r : Request) : IO UInt32 := do
  let home := (← IO.getEnv "HOME").filter fun directory => !directory.isEmpty
  let read ← readSources (r.sources home)
  match r.plan read home with
  | .error e => IO.eprintln ("Error: " ++ e.message); return 1
  | .ok p =>
    match ← carryOut p with
    | .error e => IO.eprintln ("Error: " ++ e.message); return 1
    | .ok () => IO.print p.report; return 0

end RoleChart

open RoleChart

/-- Runs the program. -/
def main (args : List String) : IO UInt32 := do
  let around : Surroundings :=
    ⟨← IO.getEnv "CHARTSMITH_REGISTRY", ← IO.getEnv "CHARTSMITH_ORGANIZATION"⟩
  match Invocation.ofArguments around args with
  | .error e => tellUsage e
  | .ok i => runBuild i.request
