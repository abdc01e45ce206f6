import RoleChart.Access
import RoleChart.Chart.Values
import RoleChart.Document.Render
import RoleChart.Path
import RoleChart.Workload.Basic

/-!
# Output files

All documents of a build by the file that holds them. A chart has its templates in a directory of
their own and its values beside it.
-/

namespace RoleChart

open Document

/-- A file of documents. -/
structure ResourceFile where
  directory : String
  name : String
  documents : List Node

/-- The path of a file. -/
def ResourceFile.path (f : ResourceFile) : String := joinPath f.directory (f.name ++ ".yaml")

/-- The files of the groups that have resources, in the order of the manifest. -/
def groupFiles (m : Manifest) (s : Settings) : Built (List ResourceFile) := do
  let found ← m.groups.mapM fun g => do
    return (← g.resources m s).map fun r =>
      ResourceFile.mk r.workload.directory g.name r.documents
  return found.filterMap id

/-- All files of resources: groups, secrets and authorization. -/
def resourceFiles (m : Manifest) (s : Settings) : Built (List ResourceFile) := do
  let groups ← groupFiles m s
  let secret ← secret m.sortedVariables s
  return groups
    ++ [⟨"secrets", "secret", [secret]⟩,
      ⟨"secrets", registryCredentialsName, [registryCredentials s]⟩]
    ++ (Access.authFiles s m.authorization).map fun file => ⟨"auth", file.name, file.documents⟩

/-- A file and its text. -/
structure OutputFile where
  path : String
  content : String
deriving DecidableEq, Repr

/-- All files of a build, with their paths in the output directory. -/
def outputFiles (m : Manifest) (s : Settings) : Built (List OutputFile) := do
  let root := if s.chart then "templates" else ""
  let files := (← resourceFiles m s).map fun file =>
    OutputFile.mk (joinPath root file.path) (renderAll file.documents)
  if !s.chart then return files
  return files ++ [⟨"values.yaml", render (← Chart.values m s)⟩]

end RoleChart
