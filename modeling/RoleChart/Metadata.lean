import RoleChart.Chart.Template
import RoleChart.Document.Mapping
import RoleChart.Settings

/-!
# Metadata of objects

The head of every object: its kind, its name, and its labels. One label names the instance group, and
selectors match on it alone; a chart adds the labels of the release.
-/

namespace RoleChart

open Document
open Template (action)

/-- The label that names the instance group. -/
def roleLabel : String := "app.kubernetes.io/component"

/-- The labels of a release. -/
def releaseLabels : Mapping :=
  [("app.kubernetes.io/instance", .verbatim (action ".Release.Name | quote")),
    ("app.kubernetes.io/managed-by", .verbatim (action ".Release.Service | quote")),
    ("app.kubernetes.io/name",
      .verbatim (action "default .Chart.Name .Values.nameOverride | trunc 63 | quote")),
    ("app.kubernetes.io/version",
      .verbatim (action "default .Chart.Version .Chart.AppVersion | quote")),
    ("helm.sh/chart",
      .verbatim
        (action "printf \"%s-%s\" .Chart.Name (.Chart.Version | replace \"+\" \"_\") | quote"))]

/-- The labels of an object, of a group or of none. -/
def labels (settings : Settings) (group : Option String) : Mapping :=
  (group.toList.map fun name => (roleLabel, Node.string name))
    ++ (if settings.chart then releaseLabels else [])

/-- The metadata of an object. -/
def objectMetadata (settings : Settings) (name : String) (group : Option String) : Mapping :=
  let labels := labels settings group
  ("name", .string name) :: (if labels.isEmpty then [] else [("labels", .entries labels)])

/-- The head of an object. -/
def newObject (apiVersion kind : String) (metadata : Mapping) : Mapping :=
  [("apiVersion", .string apiVersion), ("kind", .string kind), ("metadata", .entries metadata)]

/-- The selector of the pods of a group. -/
def roleSelector (name : String) : Mapping :=
  [("matchLabels", .entries [(roleLabel, .string name)])]

end RoleChart
