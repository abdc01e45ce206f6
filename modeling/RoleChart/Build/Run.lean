import RoleChart.Build.Plan
import RoleChart.Store.Operations

/-!
# Builds on a store

Carries out the plan of a build on a store of files. Existing files are refused before the first one
is written, unless they are to be replaced.

## Main statements

* `perform_of_dryRun` — a dry run leaves the store as it is
* `build_of_plan_error` — so does a build without a plan
-/

namespace RoleChart

namespace Plan

/-- The first file of the plan that is there already. -/
def existing? (p : Plan) (s : Store) : Option String := (p.files.map p.target).find? s.holds

/-- Writes one file and the directories on its way. -/
def writeFile (p : Plan) (s : Store) (file : OutputFile) : Store × Except FileError Unit :=
  match s.makeDirectories (directoryPart (p.target file)) with
  | (made, .error e) => (made, .error e)
  | (made, .ok ()) =>
    match made.write (p.target file) file.content with
    | .ok written => (written, .ok ())
    | .error e => (made, .error e)

/-- Writes files in order up to the first fault. What was written before it stays. -/
def writeFiles (p : Plan) (s : Store) : List OutputFile → Store × Except FileError Unit
  | [] => (s, .ok ())
  | file :: files =>
    match p.writeFile s file with
    | (written, .ok ()) => p.writeFiles written files
    | (written, .error e) => (written, .error e)

/-- Carries out the plan. -/
def perform (p : Plan) (s : Store) : Store × Except BuildError Unit :=
  if p.dryRun then (s, .ok ())
  else
    match if p.overwrite then none else p.existing? s with
    | some path => (s, .error (.outputExists path))
    | none => let (written, result) := p.writeFiles s p.files
              (written, result.mapError .writing)

theorem perform_of_dryRun (p : Plan) (s : Store) (h : p.dryRun = true) :
    p.perform s = (s, .ok ()) := by
  simp [perform, h]

end Plan

/-- Builds what a request asks for. -/
def Request.build (r : Request) (home : Option String) (s : Store) :
    Store × Except BuildError Plan :=
  match r.plan s.read home with
  | .error e => (s, .error e)
  | .ok p =>
    match p.perform s with
    | (written, .ok ()) => (written, .ok p)
    | (written, .error e) => (written, .error e)

theorem Request.build_of_plan_error (r : Request) (home : Option String) (s : Store)
    {e : BuildError} (h : r.plan s.read home = .error e) : r.build home s = (s, .error e) := by
  simp [build, h]

end RoleChart
