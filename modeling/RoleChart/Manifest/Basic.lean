import RoleChart.Yaml.Value

/-!
# Role manifests

What a manifest declares: instance groups with their run-time requirements, configuration variables,
authorization, and opinions.
-/

namespace RoleChart

open Decimal (Binary64)

/-! ## Instance groups -/

/-- How a group runs: as a supervised service, as a task that ends, or as a container in the pods of
other groups. -/
inductive GroupKind where
  | service
  | task
  | colocated
deriving DecidableEq, Repr, Inhabited

/-- A packaged job of a group, with the variables that it refers to. The fingerprint stands for its
content. -/
structure PackagedJob where
  name : String
  release : String := ""
  fingerprint : Option String := none
  references : List String := []
deriving DecidableEq, Repr, Inhabited

/-- The bounds on the number of replicas. A zero for high availability means the minimum. -/
structure Scaling where
  min : Nat := 1
  max : Nat := 1
  ha : Nat := 0
  mustBeOdd : Bool := false
deriving DecidableEq, Repr, Inhabited

/-- The least number of replicas with high availability. -/
def Scaling.haMin (s : Scaling) : Nat := if s.ha = 0 then s.min else s.ha

/-- What is asked for and what is allowed of a resource. -/
structure Demand (α : Type) where
  request : Option α := none
  limit : Option α := none
deriving Repr, Inhabited

/-- Scheduling constraints, as they stand in the manifest. -/
structure Affinity where
  podAntiAffinity : Option Yaml.Value := none
  nodeAffinity : Option Yaml.Value := none
  podAffinity : Option Yaml.Value := none
deriving Inhabited

/-- A port or range as it is declared. -/
inductive PortSpec where
  | number (n : Nat)
  | text (s : String)
deriving DecidableEq, Repr, Inhabited

/-- The declared text. -/
def PortSpec.toText : PortSpec → String
  | number n => String.ofList (Text.decimal n)
  | text s => s

/-- A port or range that a group listens on. -/
structure ExposedPort where
  name : String
  protocol : String := "TCP"
  internal : PortSpec
  external : Option PortSpec := none
  isPublic : Bool := false
  countIsConfigurable : Bool := false
deriving DecidableEq, Repr, Inhabited

/-- Where the content of a volume lives. -/
inductive VolumeKind where
  | persistent
  | shared
  | host
  | emptyDir
deriving DecidableEq, Repr, Inhabited

/-- Whether the volume is provided through a claim. -/
def VolumeKind.isClaim : VolumeKind → Bool
  | persistent | shared => true
  | host | emptyDir => false

/-- A volume of a group. The size is in gibibytes. -/
structure Volume where
  kind : VolumeKind
  tag : String
  path : String
  size : Nat := 0
  storageClass : Option String := none
deriving DecidableEq, Repr, Inhabited

/-- A health probe. A zero leaves a timing to the orchestrator. -/
structure Probe where
  port : Option Nat := none
  command : List String := []
  url : Option String := none
  headers : List (String × String) := []
  initialDelay : Nat := 0
  timeout : Nat := 0
  period : Nat := 0
  successThreshold : Nat := 0
  failureThreshold : Nat := 0
deriving DecidableEq, Repr, Inhabited

/-- The probes of a group. -/
structure HealthCheck where
  liveness : Option Probe := none
  readiness : Option Probe := none
deriving DecidableEq, Repr, Inhabited

/-- When a task runs. A stage that is not known is kept for the message about it. -/
inductive FlightStage where
  | flight
  | preFlight
  | postFlight
  | manual
  | other (name : String)
deriving DecidableEq, Repr, Inhabited

namespace FlightStage

/-- Reads a stage. -/
def ofText (s : String) : FlightStage :=
  if s = "flight" then flight
  else if s = "pre-flight" then preFlight
  else if s = "post-flight" then postFlight
  else if s = "manual" then manual
  else other s

/-- The name of a stage. -/
def toText : FlightStage → String
  | flight => "flight"
  | preFlight => "pre-flight"
  | postFlight => "post-flight"
  | manual => "manual"
  | other name => name

theorem toText_ofText (s : String) : (ofText s).toText = s := by
  unfold ofText
  repeat' split
  all_goals simp_all [toText]

end FlightStage

/-- What the pods of a group need. -/
structure Requirements where
  scaling : Scaling := {}
  capabilities : List String := []
  memory : Option (Demand Nat) := none
  cpu : Option (Demand Binary64) := none
  affinity : Option Affinity := none
  ports : List ExposedPort := []
  volumes : List Volume := []
  healthCheck : Option HealthCheck := none
  stage : FlightStage := .flight
  account : Option String := none
deriving Inhabited

/-- A set of interchangeable replicas. -/
structure Group where
  name : String
  description : String := ""
  kind : GroupKind := .service
  tags : List String := []
  colocated : List String := []
  jobs : List PackagedJob := []
  run : Requirements := {}
deriving Inhabited

/-! ## Variables -/

/-- What can generate the value of a variable. -/
inductive GeneratorKind where
  | password
  | ssh
  | certificate
deriving DecidableEq, Repr, Inhabited

/-- A configuration variable. -/
structure Variable where
  name : String
  description : String := ""
  default : Option Yaml.Value := none
  secret : Bool := false
  immutable : Bool := false
  required : Bool := false
  internal : Bool := false
  generator : Option GeneratorKind := none
deriving Inhabited

/-! ## Authorization -/

/-- Verbs that are allowed on resources. -/
structure AccessRule where
  apiGroups : List String := []
  resources : List String := []
  verbs : List String := []
  resourceNames : List String := []
deriving DecidableEq, Repr, Inhabited

/-- What an account is granted. -/
structure Grants where
  roles : List String := []
  clusterRoles : List String := []
  podSecurityPolicy : Option String := none
deriving DecidableEq, Repr, Inhabited

/-- Roles, policies and accounts, each in the order of their names. -/
structure Authorization where
  roles : List (String × List AccessRule) := []
  clusterRoles : List (String × List AccessRule) := []
  podSecurityPolicies : List (String × Yaml.Value) := []
  accounts : List (String × Grants) := []
deriving Inhabited

/-! ## The whole -/

/-- A role manifest. -/
structure Manifest where
  groups : List Group := []
  declarations : List Variable := []
  authorization : Authorization := {}
  opinions : Yaml.Value := .null
deriving Inhabited

end RoleChart
