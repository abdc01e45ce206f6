import RoleChart.Chart.Template
import RoleChart.Document.Node
import RoleChart.Manifest.Lookup

/-!
# Guards

A chart checks its values when it is rendered. A guard is an entry that makes the release fail and is
there only under its conditions. Guards refuse numbers of replicas outside of the declared bounds,
values at their old places, and clusters that lack what a group needs.
-/

namespace RoleChart

open Document
open Template (action quoted digits)

/-- A check of the values of a chart. The first condition is the outermost block. -/
structure Guard where
  name : String
  conditions : List Template.Term
  message : String
deriving DecidableEq, Repr

namespace Guard

/-- The call that makes a release fail. -/
def failure (message : String) : Node := .verbatim (action ("fail " ++ quoted message))

/-- The entry of a guard. -/
def entry (guard : Guard) : String × Node :=
  (guard.name, guard.conditions.foldl (fun node c => node.withBlock (Template.ifBlock c))
    (failure guard.message))

end Guard

/-- Whether high availability is asked for. -/
def haSwitch : Template.Term := .path ".Values.config.HA"

namespace Group

/-- The configured number of replicas. -/
def replicaCount (g : Group) : Template.Term := .int (.path (countPath g.varName))

/-- The guards on the number of replicas: a minimum that is not zero, a higher one with high
availability, the maximum, and oddness. -/
def replicaGuards (g : Group) : List Guard :=
  let bounds := g.run.scaling
  let count := g.replicaCount
  (if bounds.min = 0 then []
    else [⟨"_minReplicas", [.lt count (.number bounds.min)],
      g.varName ++ " must have at least " ++ digits bounds.min ++ " instances"⟩])
  ++ (if bounds.haMin = bounds.min then []
    else [⟨"_minHAReplicas",
      [.and haSwitch (.and (.ne count (.number bounds.min)) (.lt count (.number bounds.haMin)))],
      g.varName ++ " must have at least " ++ digits bounds.haMin ++ " instances for HA"⟩])
  ++ [⟨"_maxReplicas", [.gt count (.number bounds.max)],
      g.varName ++ " cannot have more than " ++ digits bounds.max ++ " instances"⟩]
  ++ (if bounds.mustBeOdd then
      [⟨"_oddReplicas", [.eq (.mod count (.number 2)) (.number 0)],
        g.varName ++ " must have an odd instance count"⟩]
    else [])

/-- The guard on volumes of the host. -/
def hostPathGuards (g : Group) : List Guard :=
  if (g.volumesOf .host).isEmpty then []
  else [⟨"_hostpathAvailable", [.not (.path ".Values.kube.hostpath_available")],
    g.varName ++ " requires host path volumes; set kube.hostpath_available if the cluster supports them"⟩]

end Group

/-- The keys that moved from the sizing values to the configuration. -/
def movedKeys : List (List String) :=
  [["HA"], ["cpu", "limits"], ["cpu", "requests"], ["memory", "limits"], ["memory", "requests"]]

/-- The guard on a moved key. Its parent is checked first, because a conjunction looks at both of its
sides. -/
def movedGuard (key : List String) : Guard :=
  let dotted := ".".intercalate key
  { name := "_moved_sizing_" ++ "_".intercalate key
    conditions := (key.dropLast ++ [dotted]).map fun k => .path (".Values.sizing." ++ k)
    message := "Bad use of moved variable sizing." ++ dotted ++ ". The new name to use is config."
      ++ dotted }

/-- The guards on all moved keys. -/
def movedGuards : List Guard := movedKeys.map movedGuard

end RoleChart
