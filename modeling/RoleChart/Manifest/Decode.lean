import RoleChart.Manifest.Basic
import RoleChart.Yaml.Decode

/-!
# Reading manifests

The records of a manifest from the nodes of a YAML document. Fields that are not known are not looked
at, and most fields have defaults.
-/

namespace RoleChart

open Yaml
open Yaml.Decode

/-- Whole numbers of 16, 32 and 64 bits. -/
def nat16 : Item → Decode Nat := natBelow (Nat.pow 2 16)

/-- A whole number of 32 bits. -/
def nat32 : Item → Decode Nat := natBelow (Nat.pow 2 32)

/-- A whole number of 64 bits. -/
def nat64 : Item → Decode Nat := natBelow (Nat.pow 2 64)

/-! ## Groups -/

/-- A packaged job. -/
def PackagedJob.decode (i : Item) : Decode PackagedJob := do
  let fs ← fields ["name", "release", "fingerprint", "variables"] i
  return {
    name := ← required fs "name" text
    release := ← orElse fs "release" "" text
    fingerprint := ← maybe fs "fingerprint" text
    references := ← orElse fs "variables" [] (list text) }

/-- The bounds on replicas. -/
def Scaling.decode (i : Item) : Decode Scaling := do
  let fs ← fields ["min", "max", "ha", "must_be_odd"] i
  return {
    min := ← orElse fs "min" 1 nat32
    max := ← orElse fs "max" 1 nat32
    ha := ← orElse fs "ha" 0 nat32
    mustBeOdd := ← orElse fs "must_be_odd" false bool }

/-- What is asked for and allowed of a resource. -/
def Demand.decode {α : Type} (amount : Item → Decode α) (i : Item) : Decode (Demand α) := do
  let fs ← fields ["request", "limit"] i
  return { request := ← maybe fs "request" amount, limit := ← maybe fs "limit" amount }

/-- Scheduling constraints. -/
def Affinity.decode (i : Item) : Decode Affinity := do
  let fs ← fields ["pod_anti_affinity", "node_affinity", "pod_affinity"] i
  return {
    podAntiAffinity := ← maybe fs "pod_anti_affinity" value
    nodeAffinity := ← maybe fs "node_affinity" value
    podAffinity := ← maybe fs "pod_affinity" value }

/-- A port: a whole number of 32 bits, or a text. -/
def PortSpec.decode (i : Item) : Decode PortSpec := do
  match ← value i with
  | .int z => if 0 ≤ z ∧ z < Nat.pow 2 32 then return .number z.toNat else throw .wrongType
  | .string s => return .text s
  | _ => throw .wrongType

/-- An exposed port. -/
def ExposedPort.decode (i : Item) : Decode ExposedPort := do
  let fs ← fields
    ["name", "protocol", "internal", "external", "public", "count_is_configurable"] i
  return {
    name := ← required fs "name" text
    protocol := ← orElse fs "protocol" "TCP" text
    internal := ← required fs "internal" PortSpec.decode
    external := ← maybe fs "external" PortSpec.decode
    isPublic := ← orElse fs "public" false bool
    countIsConfigurable := ← orElse fs "count_is_configurable" false bool }

/-- The names of the kinds of volumes. -/
def VolumeKind.names : List (String × VolumeKind) :=
  [("persistent", .persistent), ("shared", .shared), ("host", .host), ("emptydir", .emptyDir),
    ("empty-dir", .emptyDir)]

/-- A volume. -/
def Volume.decode (i : Item) : Decode Volume := do
  let fs ← fields ["type", "tag", "path", "size", "storage_class"] i
  return {
    kind := ← required fs "type" (oneOf VolumeKind.names)
    tag := ← required fs "tag" text
    path := ← required fs "path" text
    size := ← orElse fs "size" 0 nat32
    storageClass := ← maybe fs "storage_class" text }

/-- A probe. -/
def Probe.decode (i : Item) : Decode Probe := do
  let fs ← fields
    ["port", "command", "url", "headers", "initial_delay", "timeout", "period",
      "success_threshold", "failure_threshold"] i
  return {
    port := ← maybe fs "port" nat16
    command := ← orElse fs "command" [] (list text)
    url := ← maybe fs "url" text
    headers := ← orElse fs "headers" [] (sortedMap text)
    initialDelay := ← orElse fs "initial_delay" 0 nat32
    timeout := ← orElse fs "timeout" 0 nat32
    period := ← orElse fs "period" 0 nat32
    successThreshold := ← orElse fs "success_threshold" 0 nat32
    failureThreshold := ← orElse fs "failure_threshold" 0 nat32 }

/-- The probes of a group. -/
def HealthCheck.decode (i : Item) : Decode HealthCheck := do
  let fs ← fields ["liveness", "readiness"] i
  return {
    liveness := ← maybe fs "liveness" Probe.decode
    readiness := ← maybe fs "readiness" Probe.decode }

/-- What the pods of a group need. -/
def Requirements.decode (i : Item) : Decode Requirements := do
  let fs ← fields
    ["scaling", "capabilities", "memory", "cpu", "affinity", "exposed_ports", "volumes",
      "healthcheck", "flight_stage", "service_account"] i
  return {
    scaling := ← orElse fs "scaling" {} Scaling.decode
    capabilities := ← orElse fs "capabilities" [] (list text)
    memory := ← maybe fs "memory" (Demand.decode nat64)
    cpu := ← maybe fs "cpu" (Demand.decode float)
    affinity := ← maybe fs "affinity" Affinity.decode
    ports := ← orElse fs "exposed_ports" [] (list ExposedPort.decode)
    volumes := ← orElse fs "volumes" [] (list Volume.decode)
    healthCheck := ← maybe fs "healthcheck" HealthCheck.decode
    stage := ← orElse fs "flight_stage" .flight fun item => return .ofText (← text item)
    account := ← maybe fs "service_account" text }

/-- The names of the kinds of groups. -/
def GroupKind.names : List (String × GroupKind) :=
  [("bosh", .service), ("bosh-task", .task), ("colocated-container", .colocated)]

/-- A group. -/
def Group.decode (i : Item) : Decode Group := do
  let fs ← fields ["name", "description", "type", "tags", "colocated_containers", "jobs", "run"] i
  return {
    name := ← required fs "name" text
    description := ← orElse fs "description" "" text
    kind := ← orElse fs "type" .service (oneOf GroupKind.names)
    tags := ← orElse fs "tags" [] (list text)
    colocated := ← orElse fs "colocated_containers" [] (list text)
    jobs := ← orElse fs "jobs" [] (list PackagedJob.decode)
    run := ← orElse fs "run" {} Requirements.decode }

/-! ## Variables -/

/-- The names of the kinds of generators. -/
def GeneratorKind.names : List (String × GeneratorKind) :=
  [("password", .password), ("ssh", .ssh), ("SSH", .ssh), ("certificate", .certificate),
    ("CertificateAuthority", .certificate)]

/-- A generator. Its other fields are checked, and only its kind is kept. -/
def GeneratorKind.decode (i : Item) : Decode GeneratorKind := do
  let fs ← fields ["id", "type", "value_type"] i
  let _ ← maybe fs "id" text
  let _ ← maybe fs "value_type" text
  required fs "type" (oneOf GeneratorKind.names)

/-- The options of a variable, as a variable without a name. The kind of a variable is checked, and
not kept. -/
def Variable.decodeOptions (i : Item) : Decode Variable := do
  let fs ← fields
    ["description", "default", "secret", "immutable", "required", "internal", "type", "generator"] i
  let _ ← orElse fs "type" () (oneOf [("user", ()), ("environment", ())])
  return {
    name := ""
    description := ← orElse fs "description" "" text
    default := ← maybe fs "default" value
    secret := ← orElse fs "secret" false bool
    immutable := ← orElse fs "immutable" false bool
    required := ← orElse fs "required" false bool
    internal := ← orElse fs "internal" false bool
    generator := ← maybe fs "generator" GeneratorKind.decode }

/-- A variable. -/
def Variable.decode (i : Item) : Decode Variable := do
  let fs ← fields ["name", "options"] i
  let name ← Decode.required fs "name" text
  let options ← orElse fs "options" { name := "" } Variable.decodeOptions
  return { options with name := name }

/-! ## Authorization -/

/-- A rule. -/
def AccessRule.decode (i : Item) : Decode AccessRule := do
  let fs ← fields ["api_groups", "resources", "verbs", "resource_names"] i
  return {
    apiGroups := ← orElse fs "api_groups" [] (list text)
    resources := ← orElse fs "resources" [] (list text)
    verbs := ← orElse fs "verbs" [] (list text)
    resourceNames := ← orElse fs "resource_names" [] (list text) }

/-- What an account is granted. -/
def Grants.decode (i : Item) : Decode Grants := do
  let fs ← fields ["roles", "cluster_roles", "pod_security_policy"] i
  return {
    roles := ← orElse fs "roles" [] (list text)
    clusterRoles := ← orElse fs "cluster_roles" [] (list text)
    podSecurityPolicy := ← maybe fs "pod_security_policy" text }

/-- Roles, policies and accounts. -/
def Authorization.decode (i : Item) : Decode Authorization := do
  let fs ← fields ["roles", "cluster_roles", "pod_security_policies", "accounts"] i
  return {
    roles := ← orElse fs "roles" [] (sortedMap (list AccessRule.decode))
    clusterRoles := ← orElse fs "cluster_roles" [] (sortedMap (list AccessRule.decode))
    podSecurityPolicies := ← orElse fs "pod_security_policies" [] (sortedMap value)
    accounts := ← orElse fs "accounts" [] (sortedMap Grants.decode) }

/-! ## The whole -/

/-- A manifest. -/
def Manifest.decode (i : Item) : Decode Manifest := do
  let fs ← fields ["instance_groups", "variables", "configuration", "opinions"] i
  return {
    groups := ← orElse fs "instance_groups" [] (list Group.decode)
    declarations := ← orElse fs "variables" [] (list Variable.decode)
    authorization := ← orElse fs "configuration" {} fun item => do
      orElse (← fields ["auth"] item) "auth" {} Authorization.decode
    opinions := ← orElse fs "opinions" .null value }

/-- Reads a manifest. -/
def Manifest.ofText (s : String) : Except Problem Manifest := Decode.ofText Manifest.decode s

end RoleChart
