import RoleChart.Pod.Resources
import RoleChart.Port.Definition
import RoleChart.Secret

/-!
# Values of a chart

The document with the defaults of all values that the templates read, in the order of their names.
-/

namespace RoleChart.Chart

open Document
open Template (digits)

/-- The default of a variable. -/
def defaultNode (v : Variable) : Node := (v.defaultText?.map Node.literal).getD Node.null

/-- Whether a variable carries the replica count of a group. -/
def isSizingName (name : String) : Bool := "KUBE_SIZING_".toList.isPrefixOf name.toList

/-- Entries for the defaults of some variables, with a comment on each. -/
def defaults (declared : List Variable) (comment : Variable → String) : Built Mapping :=
  declared.foldlM
    (fun done v => done.addNamed v.name ((defaultNode v).withComment (comment v))) []

/-- The values of plain variables. -/
def environmentValues (m : Manifest) : Built Mapping :=
  defaults (m.sortedVariables.filter fun v => !v.secret && !v.internal && !isSizingName v.name)
    fun v => Text.trimEndBlanks v.description

/-- The values of secret variables. -/
def secretValues (m : Manifest) : Built Mapping :=
  defaults (m.sortedVariables.filter Variable.isExternalSecret) fun v =>
    let description := Text.trimEndBlanks v.description
    "\n".intercalate ((if description.isEmpty then [] else [description])
      ++ if v.generator == some .password then [Variable.generatedNote] else [])

/-- The switches of a release. -/
def configuration (s : Settings) : Mapping :=
  let toggles (on : Bool) := Node.entries [("limits", .flag on), ("requests", .flag on)]
  [("HA", (Node.flag false).withComment "Raise replica counts at their minimum to the HA minimum."),
    ("cpu", (toggles s.cpuLimits).withComment "Apply CPU requests and limits from sizing."),
    ("memory", (toggles s.memoryLimits).withComment "Apply memory requests and limits from sizing.")]

/-- The values that name policies to use instead of those of the chart. -/
def policyValues (m : Manifest) : Built Mapping :=
  m.authorization.podSecurityPolicies.foldlM
    (fun done (name, _) => done.addNamed (varName name) Node.null) []

/-- The values that describe the cluster. -/
def clusterValues (m : Manifest) (s : Settings) : Built Mapping := do
  let policies ← policyValues m
  let login := s.credentials.getD ⟨"", ""⟩
  return [
    ("auth", (Node.string s.authMode.toText).withComment "Authorization mode: rbac or none."),
    ("external_ips", .items (s.externalIps.map Node.literal)),
    ("hostpath_available",
      (Node.flag false).withComment "Whether the cluster allows host path volumes."),
    ("organization", .literal s.organization),
    ("psp", (Node.entries policies).withComment
      "Names of existing pod security policies to use instead of creating them."),
    ("registry", .entries [("hostname", .literal s.registry), ("password", .literal login.password),
      ("username", .literal login.username)]),
    ("storage_class",
      .entries [("persistent", .string "persistent"), ("shared", .string "shared")])]

/-! ## Sizing -/

/-- The comment on the number of replicas of a group. -/
def countComment (g : Group) : String :=
  let bounds := g.run.scaling
  "\n".intercalate
    (["The " ++ g.name ++ " instance group must have between " ++ digits bounds.min ++ " and "
        ++ digits bounds.max ++ " instances."]
      ++ (if bounds.haMin = bounds.min then []
        else ["In HA mode it needs at least " ++ digits bounds.haMin ++ " instances."])
      ++ if bounds.mustBeOdd then ["The count must be odd."] else [])

/-- An amount of a resource, which may be left open. -/
def demandNode (limit request : Option Nat) : Node :=
  let node (n : Option Nat) := (n.map Node.number).getD Node.null
  .entries [("limits", node limit), ("requests", node request)]

/-- The sizes of the volumes of a group that are claimed. -/
def diskSizes (g : Group) : Built Mapping :=
  g.claimVolumes.foldlM (fun done v => done.addNamed (varName v.tag) (.number v.size)) []

/-- The numbers of ports of a group that can be configured. -/
def portCounts (g : Group) : Built Mapping := do
  ((← g.portDefinitions).filter (·.countIsConfigurable)).foldlM
    (fun done d => done.addNamed (varName d.name) (.entries [("count", .number d.count)])) []

/-- The sizing values of a group, in the order of their names. -/
def groupSizing (g : Group) : Built Mapping := do
  let disks ← diskSizes g
  let ports ← portCounts g
  let memory := g.run.memory.getD {}
  let cpu := g.run.cpu.getD {}
  return [("affinity",
        (Node.entries []).withComment "Node affinity rules for the pods, passed through as-is."),
      ("capabilities",
        (Node.items []).withComment "Additional Linux capabilities for the containers.")]
    ++ (if g.isManaged then
        [("count", (Node.number g.run.scaling.min).withComment (countComment g))]
      else [])
    ++ [("cpu", (demandNode (cpu.limit.map Pod.millicores) (cpu.request.map Pod.millicores)).withComment
        "CPU in millicores.")]
    ++ (if disks.isEmpty then []
      else [("disk_sizes", (Node.entries disks).withComment "Volume sizes in GiB.")])
    ++ [("memory", (demandNode memory.limit memory.request).withComment "Memory in MiB.")]
    ++ if ports.isEmpty then [] else [("ports", .entries ports)]

/-- Adds the sizing values of a group. -/
def addSizing (done : Mapping) (g : Group) : Built Mapping := do
  let node := Node.entries (← groupSizing g)
  done.addNamed g.varName (node.withComment (Text.trimEndBlanks g.description))

/-- The sizing values of all groups. -/
def sizing (m : Manifest) : Built Mapping := (m.groups.foldlM addSizing []).map Mapping.sort

/-- The document with the values of a chart. -/
def values (m : Manifest) (s : Settings) : Built Node := do
  let environment ← environmentValues m
  let cluster ← clusterValues m s
  let secrets ← secretValues m
  let sizing ← sizing m
  return .entries [
    ("bosh", .entries [("instance_groups", .items [])]),
    ("config", .entries (configuration s)),
    ("env", .entries environment),
    ("kube", .entries cluster),
    ("secrets", .entries secrets),
    ("services", .entries [("loadbalanced",
      (Node.flag false).withComment "Expose public services through load balancers.")]),
    ("sizing", .entries sizing)]

end RoleChart.Chart
