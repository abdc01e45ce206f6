import RoleChart.Pod.Template
import RoleChart.Service
import RoleChart.Workload.Guard

/-!
# Workloads

The controllers that run the pods of groups, and the services in front of them. In a chart, what
belongs to a group that may be scaled to nothing is left out when it is.
-/

namespace RoleChart

open Document
open Template (action digits)

/-- The controller of a group and its services. -/
structure GroupResources where
  workload : Workload
  controller : Node
  services : List Node

/-- All documents, the controller first. -/
def GroupResources.documents (r : GroupResources) : List Node := r.controller :: r.services

namespace Group

/-! ## Replicas -/

/-- The number of replicas in a chart. A count at the minimum is raised with high availability. -/
def chartReplicas (g : Group) : Template.Quantity :=
  let bounds := g.run.scaling
  if bounds.haMin = bounds.min then .value (countPath g.varName)
  else .constantIf (.and haSwitch (.eq g.replicaCount (.number bounds.min))) bounds.haMin
    (countPath g.varName)

/-- The number of replicas. -/
def replicas (g : Group) (s : Settings) : Node :=
  if s.chart then .verbatim g.chartReplicas.render else .number g.run.scaling.min

/-- The condition under which anything of the group is there. -/
def presence? (g : Group) (s : Settings) : Option Template.Term :=
  if s.chart && g.run.scaling.min == 0 then some (.gt g.replicaCount (.number 0)) else none

/-- Puts a document of the group behind that condition. -/
def gate (g : Group) (s : Settings) (node : Node) : Node :=
  match g.presence? s with
  | some condition => node.wrapBlock (Template.ifBlock condition)
  | none => node

/-! ## Controllers -/

/-- The guards of a controller. -/
def guards (g : Group) (withReplicas : Bool) : List Guard :=
  (if withReplicas then g.replicaGuards else []) ++ movedGuards ++ g.hostPathGuards

/-- The head of a controller. In a chart it opens with the guards. -/
def controllerHead (g : Group) (s : Settings) (apiVersion kind name : String) (withReplicas : Bool) :
    Mapping :=
  (if s.chart then (g.guards withReplicas).map Guard.entry else [])
    ++ newObject apiVersion kind (objectMetadata s name (some g.name))

/-- The services of the group, behind the condition of its presence. -/
def services (g : Group) (s : Settings) (audiences : List Audience) : Built (List Node) := do
  let found ← audiences.mapM (service? g s)
  return (found.filterMap id).map (g.gate s)

/-- The deployment of the group. -/
def deployment (m : Manifest) (s : Settings) (g : Group) : Built GroupResources := do
  let template ← Pod.podTemplate m s g
  let services ← g.services s [.cluster, .everyone]
  let head := g.controllerHead s "apps/v1" "Deployment" g.name true
  let spec := [("replicas", g.replicas s), ("selector", .entries (roleSelector g.name)),
    ("template", .entries template)]
  return ⟨.deployment, g.gate s (.entries (head ++ [("spec", .entries spec)])), services⟩

/-- The claim for a volume. In a chart its size comes from the values, and so does its class unless
one is declared. -/
def volumeClaim (g : Group) (s : Settings) (v : Volume) : Node :=
  let (mode, kind) :=
    if v.kind = .shared then ("ReadWriteMany", "shared") else ("ReadWriteOnce", "persistent")
  let size :=
    if s.chart then
      Node.verbatim (action (sizingPath g.varName ("disk_sizes." ++ RoleChart.varName v.tag)) ++ "Gi")
    else Node.string (digits v.size ++ "Gi")
  let storageClass :=
    match v.storageClass with
    | some declared => [("storageClassName", Node.string declared)]
    | none =>
      if s.chart then
        [("storageClassName",
          Node.verbatim (action (".Values.kube.storage_class." ++ kind ++ " | quote")))]
      else []
  .entries [("metadata", .entries [("name", .string v.tag)]),
    ("spec", .entries ([("accessModes", .items [.string mode]),
      ("resources", .entries [("requests", .entries [("storage", size)])])] ++ storageClass))]

/-- The stateful set of the group. -/
def statefulSet (m : Manifest) (s : Settings) (g : Group) : Built GroupResources := do
  let template ← Pod.podTemplate m s g
  let services ← g.services s [.cluster, .everyone, .pods]
  let head := g.controllerHead s "apps/v1" "StatefulSet" g.name true
  let spec := [("podManagementPolicy", .string "Parallel"), ("replicas", g.replicas s),
      ("serviceName", .string (Service.nameFor g.name .pods)),
      ("selector", .entries (roleSelector g.name)), ("template", .entries template)]
    ++ Pod.listEntry "volumeClaimTemplates" (g.claimVolumes.map (g.volumeClaim s))
  return ⟨.statefulSet, g.gate s (.entries (head ++ [("spec", .entries spec)])), services⟩

/-! ## Jobs -/

/-- When the pods of a task are started again. A task that is started by hand is not. -/
def restartPolicy (g : Group) : Built String :=
  match g.run.stage with
  | .manual => .ok "Never"
  | .flight | .preFlight | .postFlight => .ok "OnFailure"
  | .other stage => .error (.unknownStage g.name stage)

/-- The policy is that of the stage, which has to be known. -/
theorem restartPolicy_eq_ok_iff {g : Group} {policy : String} : g.restartPolicy = .ok policy ↔
    (∀ name, g.run.stage ≠ .other name) ∧ policy = if g.run.stage = .manual then "Never" else "OnFailure" := by
  unfold restartPolicy
  cases g.run.stage with
  | manual => simp [eq_comm]
  | other name => simp
  | flight => simp [eq_comm]
  | preFlight => simp [eq_comm]
  | postFlight => simp [eq_comm]

/-- The name of the job of a task. Jobs never change, so each release of a chart has its own. -/
def jobName (g : Group) (s : Settings) : String :=
  if s.chart then g.name ++ "-" ++ action ".Release.Revision" else g.name

/-- The job of the group. -/
def job (m : Manifest) (s : Settings) (g : Group) : Built GroupResources := do
  let policy ← g.restartPolicy
  let template ← Pod.podTemplate m s g
  let template ← (Mapping.setPath template ["spec", "restartPolicy"] (.string policy)).mapError
    Fault.document
  let head := g.controllerHead s "batch/v1" "Job" (g.jobName s) false
  return ⟨.job, .entries (head ++ [("spec", .entries [("template", .entries template)])]), []⟩

/-! ## The choice -/

/-- The resources of the group. A colocated group has none of its own. -/
def resources (m : Manifest) (s : Settings) (g : Group) : Built (Option GroupResources) :=
  match g.workload? with
  | none => .ok none
  | some .deployment => (g.deployment m s).map some
  | some .statefulSet => (g.statefulSet m s).map some
  | some .job => (g.job m s).map some

end Group

end RoleChart
