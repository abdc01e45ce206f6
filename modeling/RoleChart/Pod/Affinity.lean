import RoleChart.Chart.Template
import RoleChart.Document.OfValue
import RoleChart.Fault
import RoleChart.Manifest.Lookup
import RoleChart.Settings

/-!
# Affinity

Where the pods of a group may run. The manifest may keep pods apart from each other; nodes are chosen
by the values of a chart alone.
-/

namespace RoleChart.Pod

open Document

/-- The constraints on the pods of a group, if there are any. -/
def affinity? (g : Group) (s : Settings) : Built (Option Node) := do
  let declared := g.run.affinity.getD {}
  if declared.nodeAffinity.isSome then throw (.nodeAffinity g.name g.varName)
  if declared.podAffinity.isSome then throw (.podAffinity g.name)
  let apart := declared.podAntiAffinity.toList.map fun v => ("podAntiAffinity", Node.ofValue v)
  let path := sizingPath g.varName "affinity.nodeAffinity"
  let nodes :=
    if s.chart then
      [("nodeAffinity", (Node.verbatim (Template.action ("toJson " ++ path))).withBlock
        (Template.ifBlock (.path path)))]
    else []
  let constraints := apart ++ nodes
  return if constraints.isEmpty then none else some (.entries constraints)

end RoleChart.Pod
