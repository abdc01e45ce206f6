import RoleChart.Pod.Affinity
import RoleChart.Pod.Container

/-!
# Pod templates

The pods of a group: its own container and those of the colocated groups that it names, with the
volumes of all of them.
-/

namespace RoleChart.Pod

open Document
open Template (action)

/-- The seconds that a pod is given to stop. -/
def gracePeriod : Nat := 600

/-- The colocated groups of a group, which must be declared. -/
def colocatedGroups (m : Manifest) (g : Group) : Built (List Group) :=
  g.colocated.mapM fun name =>
    match m.group? name with
    | some other => .ok other
    | none => .error (.unknownColocated g.name name)

/-- The account of the pods, unless it is the one that is used anyway. A chart uses it only where the
cluster authorizes by roles. -/
def serviceAccount (g : Group) (s : Settings) : Option Node :=
  (g.run.account.filter (· != "default")).bind fun account =>
    if s.chart then
      some (.verbatim (Template.choose (.eq (.path ".Values.kube.auth") (.text "rbac")) account
        "default"))
    else if s.authMode = .rbac then some (.string account)
    else none

/-- The specification of the pods of a group. -/
def podSpec (m : Manifest) (s : Settings) (g : Group) : Built Mapping := do
  let colocated ← colocatedGroups m g
  let containers ← (g :: colocated).mapM (container m s)
  let affinity ← affinity? g s
  return [("containers", .items containers),
      ("imagePullSecrets", .items [.entries [("name", .string registryCredentialsName)]]),
      ("dnsPolicy", .string "ClusterFirst"),
      ("restartPolicy", .string "Always"),
      ("terminationGracePeriodSeconds", .number gracePeriod)]
    ++ listEntry "volumes" (podVolumes (g :: colocated))
    ++ (affinity.toList.map fun node => ("affinity", node))
    ++ (serviceAccount g s).toList.map fun node => ("serviceAccountName", node)

/-- The hash of the secrets of a chart. When it changes, pods are started anew. -/
def secretsChecksum : Node :=
  .verbatim (action
    "include (print $.Template.BasePath \"/secrets/secret.yaml\") . | sha256sum")

/-- The metadata of the pods of a group. -/
def podMetadata (s : Settings) (g : Group) : Mapping :=
  [("name", .string g.name), ("labels", .entries (labels s (some g.name)))]
    ++ if s.chart then [("annotations", .entries [("checksum/config", secretsChecksum)])] else []

/-- The template of the pods of a group. -/
def podTemplate (m : Manifest) (s : Settings) (g : Group) : Built Mapping := do
  let spec ← podSpec m s g
  return [("metadata", .entries (podMetadata s g)), ("spec", .entries spec)]

end RoleChart.Pod
