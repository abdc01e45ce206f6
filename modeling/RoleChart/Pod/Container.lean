import RoleChart.Pod.Environment
import RoleChart.Pod.Image
import RoleChart.Pod.Probe
import RoleChart.Pod.Resources
import RoleChart.Pod.Storage

/-!
# Containers

The container that runs the image of a group.
-/

namespace RoleChart.Pod

open Document
open Template (action digits)

/-- The script that a container runs before it is stopped. -/
def preStopScript : String := "/opt/chartsmith/pre-stop.sh"

/-- A port of a container. -/
def containerPort (number name : Node) (protocol : String) : Node :=
  .entries [("containerPort", number), ("name", name), ("protocol", .string protocol)]

/-- The text of the port that a chart counts up from a first one. -/
def countedPort (first : Nat) : Node := .verbatim (action ("add " ++ digits first ++ " $i"))

/-- The text of the name that a chart numbers behind a beginning. -/
def countedName (beginning : String) : Node := .verbatim (beginning ++ "-" ++ action "$i")

/-- Whether a chart takes the number of ports from its values. -/
def isCounted (s : Settings) (d : Port.Definition) : Bool := s.chart && d.countIsConfigurable

/-- The ports of a container that one definition makes. -/
def definitionPorts (g : Group) (s : Settings) (d : Port.Definition) : Built (List Node) := do
  if isCounted s d then
    let port := containerPort (countedPort d.internal.first) (countedName (← d.namePrefix)) d.protocol
    return [port.withBlock (Template.countBlock (d.countPath g.varName))]
  return (← d.containerPorts).map fun p =>
    containerPort (.number p.port) (.string (String.ofList p.name)) d.protocol

/-- The ports of the container of a group. -/
def containerPorts (g : Group) (s : Settings) : Built (List Node) := do
  return (← (← g.portDefinitions).mapM (definitionPorts g s)).flatten

/-- An entry that is there unless it is empty. -/
def listEntry (name : String) (nodes : List Node) : Mapping :=
  if nodes.isEmpty then [] else [(name, .items nodes)]

/-- An entry that is there unless it is empty. -/
def mappingEntry (name : String) (m : Mapping) : Mapping :=
  if m.isEmpty then [] else [(name, .entries m)]

/-- The entry for a probe of the container of a group. -/
def probeEntry (g : Group) (kind : ProbeKind) : Built Mapping := do
  return (← probe? g kind).toList.map fun probe => (kind.field, probe)

/-- What a container does before it is stopped. -/
def lifecycle : Node :=
  .entries [("preStop", .entries [("exec", .entries [("command",
    .items [.string preStopScript])])])]

/-- The container of a group. -/
def container (m : Manifest) (s : Settings) (g : Group) : Built Node := do
  let image ← imageReference g s
  let ports ← containerPorts g s
  let environment ← environment m s g
  let liveness ← probeEntry g .liveness
  let readiness ← probeEntry g .readiness
  return .entries
    ([("name", .string g.name), ("image", .verbatim image)]
      ++ listEntry "ports" ports
      ++ [("env", .items environment)]
      ++ listEntry "volumeMounts" (mounts g)
      ++ mappingEntry "resources" (resources g s)
      ++ mappingEntry "securityContext" (securityContext g s)
      ++ liveness ++ readiness
      ++ [("lifecycle", lifecycle)])

end RoleChart.Pod
