import RoleChart.Pod.Container

/-!
# Services

How the ports of a group are reached: every port inside the cluster, the public ones from outside, and
each pod under a name of its own.
-/

namespace RoleChart

open Document
open Template (action)

/-- Who a service is for. -/
inductive Audience where
  | cluster
  | everyone
  /-- Single pods, by the names that a stateful set gives them. -/
  | pods
deriving DecidableEq, Repr

namespace Service

/-- The name of a service of a group. -/
def nameFor (group : String) : Audience → String
  | .cluster => group
  | .everyone => group ++ "-public"
  | .pods => group ++ "-set"

/-- A port of a service. Pods are addressed directly, so their service has no target. -/
def port (audience : Audience) (name number : Node) (protocol : String) : Node :=
  .entries [("name", name), ("port", number), ("protocol", .string protocol),
    ("targetPort", if audience = .pods then .number 0 else name)]

/-- The range that a service shows of a definition. -/
def shownRange (audience : Audience) (d : Port.Definition) : Port.Range :=
  if audience = .pods then d.internal else d.external

/-- The ports of a service that one definition makes. -/
def definitionPorts (g : Group) (s : Settings) (audience : Audience) (d : Port.Definition) :
    Built (List Node) := do
  if Pod.isCounted s d then
    let node := port audience (Pod.countedName (← d.namePrefix))
      (Pod.countedPort (shownRange audience d).first) d.protocol
    return [node.withBlock (Template.countBlock (d.countPath g.varName))]
  let named ← if audience = .pods then d.containerPorts else d.servicePorts
  return named.map fun p =>
    port audience (.string (String.ofList p.name)) (.number p.port) d.protocol

/-- The ports of a service of a group. -/
def ports (g : Group) (s : Settings) (audience : Audience) : Built (List Node) := do
  let definitions := (← g.portDefinitions).filter fun d => audience != .everyone || d.isPublic
  return (← definitions.mapM (definitionPorts g s audience)).flatten

/-- How a service is reached. -/
def access (s : Settings) : Audience → Mapping
  | .cluster => [("type", .string "ClusterIP")]
  | .pods => [("type", .string "ClusterIP"), ("clusterIP", .string "None")]
  | .everyone =>
    let balanced : Template.Term := .path ".Values.services.loadbalanced"
    if s.chart then
      [("type", .verbatim (Template.choose balanced "LoadBalancer" "ClusterIP")),
        ("externalIPs", (Node.verbatim (action ".Values.kube.external_ips | toJson")).withBlock
          (Template.ifBlock (.not balanced)))]
    else
      ("type", .string "ClusterIP")
        :: Pod.listEntry "externalIPs" (s.externalIps.map Node.literal)

end Service

/-- A service of a group, unless it would have no ports. -/
def service? (g : Group) (s : Settings) (audience : Audience) : Built (Option Node) := do
  let ports ← Service.ports g s audience
  if ports.isEmpty then return none
  let head := newObject "v1" "Service"
    (objectMetadata s (Service.nameFor g.name audience) (some g.name))
  return some (.entries (head ++ [("spec", .entries (Service.access s audience
    ++ [("ports", .items ports), ("selector", .entries [(roleLabel, .string g.name)])]))]))

end RoleChart
