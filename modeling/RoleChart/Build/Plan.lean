import RoleChart.Build.Request
import RoleChart.Files
import RoleChart.Manifest.Decode

/-!
# Plans of builds

All that a build is going to write, made from what is read. Nothing is written before the plan is
complete, so that a fault of the manifest leaves the output alone.
-/

namespace RoleChart

/-- The files of a build and where they go. -/
structure Plan where
  chart : Bool
  directory : String
  dryRun : Bool
  overwrite : Bool
  files : List OutputFile
deriving DecidableEq, Repr

/-- Reads what a request names and makes the files. -/
def Request.plan (r : Request) (read : String → Except FileError String) (home : Option String) :
    Except BuildError Plan := do
  let config ← readConfig read home r
  let text ← (read r.manifest).mapError .reading
  let manifest ← (Manifest.ofText text).mapError fun _ => .undecodable
  let mode ← r.authModeOver config.settings.authMode
  let settings := r.settings config.settings mode manifest.opinions
  let defaults ← r.defaults.elim (.ok []) (readDefaults read)
  let files ← (outputFiles manifest { settings with defaults := defaults }).mapError .fault
  return {
    chart := r.chart
    directory := r.output.getD config.directory
    dryRun := r.dryRun
    overwrite := r.force || config.overwrite
    files := files }

namespace Plan

/-- The path of a file. -/
def target (p : Plan) (file : OutputFile) : String := joinPath p.directory file.path

/-- The files one after another, each behind a line with its path. -/
def documents (p : Plan) : String :=
  String.join (p.files.map fun file => "# Source: " ++ file.path ++ "\n" ++ file.content)

/-- The number of files, where they are, and their paths. -/
def summary (p : Plan) : String :=
  "✅ " ++ (if p.chart then "Helm chart" else "Kubernetes manifests")
    ++ " (" ++ String.ofList (Text.decimal p.files.length) ++ " files) in " ++ p.directory ++ "\n"
    ++ String.join (p.files.map fun file => "   " ++ file.path ++ "\n")

/-- What is printed when the plan has been carried out. -/
def report (p : Plan) : String := if p.dryRun then p.documents else p.summary

end Plan

end RoleChart
